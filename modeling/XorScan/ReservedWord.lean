namespace XorScan

inductive Keyword where
  | fnKw | returnKw | letKw | mutKw | constKw | ifKw | elseKw | whileKw | forKw | inKw | loopKw
  | breakKw | continueKw | structKw | enumKw | implKw | importKw | pubKw | externKw | asKw
  | sizeofKw | unsafeKw | unsafeCastKw | unsafePtrKw
  deriving DecidableEq

namespace Keyword

def spelling : Keyword → String
  | .fnKw => "fn"
  | .returnKw => "return"
  | .letKw => "let"
  | .mutKw => "mut"
  | .constKw => "const"
  | .ifKw => "if"
  | .elseKw => "else"
  | .whileKw => "while"
  | .forKw => "for"
  | .inKw => "in"
  | .loopKw => "loop"
  | .breakKw => "break"
  | .continueKw => "continue"
  | .structKw => "struct"
  | .enumKw => "enum"
  | .implKw => "impl"
  | .importKw => "import"
  | .pubKw => "pub"
  | .externKw => "extern"
  | .asKw => "as"
  | .sizeofKw => "sizeof"
  | .unsafeKw => "unsafe"
  | .unsafeCastKw => "unsafe_cast"
  | .unsafePtrKw => "unsafe_ptr"

def name : Keyword → String
  | .fnKw => "FN"
  | .returnKw => "RETURN"
  | .letKw => "LET"
  | .mutKw => "MUT"
  | .constKw => "CONST"
  | .ifKw => "IF"
  | .elseKw => "ELSE"
  | .whileKw => "WHILE"
  | .forKw => "FOR"
  | .inKw => "IN"
  | .loopKw => "LOOP"
  | .breakKw => "BREAK"
  | .continueKw => "CONTINUE"
  | .structKw => "STRUCT"
  | .enumKw => "ENUM"
  | .implKw => "IMPL"
  | .importKw => "IMPORT"
  | .pubKw => "PUB"
  | .externKw => "EXTERN"
  | .asKw => "AS"
  | .sizeofKw => "SIZEOF"
  | .unsafeKw => "UNSAFE"
  | .unsafeCastKw => "UNSAFE_CAST"
  | .unsafePtrKw => "UNSAFE_PTR"

def all : List Keyword :=
  [.fnKw, .returnKw, .letKw, .mutKw, .constKw, .ifKw, .elseKw, .whileKw, .forKw, .inKw,
   .loopKw, .breakKw, .continueKw, .structKw, .enumKw, .implKw, .importKw, .pubKw, .externKw,
   .asKw, .sizeofKw, .unsafeKw, .unsafeCastKw, .unsafePtrKw]

def ofWord? (w : String) : Option Keyword := all.find? (·.spelling = w)

end Keyword

inductive Primitive where
  | int8 | int16 | int32 | int64 | uint8 | uint16 | uint32 | uint64 | float32 | float64 | bool
  | char | void | unsafeVoid
  deriving DecidableEq

namespace Primitive

/-- Two of the types have two names each. -/
def spellings : Primitive → List String
  | .int8 => ["i8"]
  | .int16 => ["i16"]
  | .int32 => ["i32", "int"]
  | .int64 => ["i64"]
  | .uint8 => ["u8"]
  | .uint16 => ["u16"]
  | .uint32 => ["u32"]
  | .uint64 => ["u64"]
  | .float32 => ["f32", "float"]
  | .float64 => ["f64"]
  | .bool => ["bool"]
  | .char => ["char"]
  | .void => ["void"]
  | .unsafeVoid => ["uvoid"]

def name : Primitive → String
  | .int8 => "INT_8BIT"
  | .int16 => "INT_16BIT"
  | .int32 => "INT_32BIT"
  | .int64 => "INT_64BIT"
  | .uint8 => "UINT_8BIT"
  | .uint16 => "UINT_16BIT"
  | .uint32 => "UINT_32BIT"
  | .uint64 => "UINT_64BIT"
  | .float32 => "FLOAT_32BIT"
  | .float64 => "FLOAT_64BIT"
  | .bool => "BOOL"
  | .char => "CHAR"
  | .void => "VOID"
  | .unsafeVoid => "UNSAFE_VOID"

def all : List Primitive :=
  [.int8, .int16, .int32, .int64, .uint8, .uint16, .uint32, .uint64, .float32, .float64, .bool,
   .char, .void, .unsafeVoid]

def ofWord? (w : String) : Option Primitive := all.find? (·.spellings.contains w)

end Primitive

end XorScan
