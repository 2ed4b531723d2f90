import XorScan.Files

namespace XorScan

/-- A directory with all that it holds, in memory. A file has a content and an empty directory has
none; the directories above an entry exist with it. -/
structure FileTree where
  entries : List (List String × Option ByteArray)

namespace FileTree

inductive Place where
  | inside (steps : List String)
  | outside
  deriving DecidableEq

def file? (t : FileTree) (steps : List String) : Option ByteArray :=
  (t.entries.find? fun (s, _) => s = steps).bind (·.2)

def isDirectory (t : FileTree) (steps : List String) : Bool :=
  (t.file? steps).isNone && (steps.isEmpty || t.entries.any fun (s, _) => steps.isPrefixOf s)

def step (t : FileTree) (p : Place) (name : String) : Except IoError Place :=
  match p with
  | .outside =>
    if name = "" ∨ name = "." ∨ name = ".." then .ok .outside else .error .notFound
  | .inside steps =>
    if t.isDirectory steps then
      if name = "" ∨ name = "." then .ok p
      else if name = ".." then .ok (if steps.isEmpty then .outside else .inside steps.dropLast)
      else
        let next := steps ++ [name]
        if (t.file? next).isSome ∨ t.isDirectory next then .ok (.inside next)
        else .error .notFound
    else .error .notADirectory

def resolve (t : FileTree) (path : String) : Except IoError Place :=
  let names := path.splitOn "/"
  if path = "" then .error .notFound
  else if path.startsWith "/" then names.foldlM t.step .outside
  else names.foldlM t.step (.inside [])

def read (t : FileTree) (path : String) : Except IoError ByteArray := do
  match ← t.resolve path with
  | .outside => .error .isADirectory
  | .inside steps =>
    match t.file? steps with
    | some content => .ok content
    | none => .error .isADirectory

def files (t : FileTree) : Files := ⟨fun p => (t.resolve p).toBool, t.read⟩

/-- The entry with a given name, which is a directory if the name ends in a slash. -/
def entry (name : String) (content : ByteArray) : List String × Option ByteArray :=
  let names := name.splitOn "/"
  if names.getLast? = some "" then (names.dropLast, none) else (names, some content)

end FileTree

end XorScan
