namespace XorScan

inductive IoError where
  | notFound
  | notADirectory
  | isADirectory
  | noSpace
  | invalidData
  | closed
  | other (text : String)
  deriving DecidableEq

def IoError.message : IoError → String
  | notFound => "No such file or directory (os error 2)"
  | notADirectory => "Not a directory (os error 20)"
  | isADirectory => "Is a directory (os error 21)"
  | noSpace => "No space left on device (os error 28)"
  | invalidData => "stream did not contain valid UTF-8"
  | closed => "closed"
  | other text => text

structure Files where
  contains : String → Bool
  read : String → Except IoError ByteArray

def decodeText (bytes : ByteArray) : Except IoError (List Char) :=
  match String.fromUTF8? bytes with
  | some s => .ok s.toList
  | none => .error .invalidData

def Files.readText (f : Files) (path : String) : Except IoError (List Char) :=
  f.read path >>= decodeText

end XorScan
