import XorScan.Toml.Value

namespace XorScan.Toml

inductive Header where
  | table (path : List String)
  | element (path : List String)

inductive Line where
  | blank
  | header (h : Header)
  | pair (path : List String) (v : Node)

namespace Reader

def header : Reader Header :=
  (.element <$> (text ['[', '['] *> key <* text [']', ']'])) <|>
    (.table <$> (char '[' *> key <* char ']'))

def maxDepth : Nat := 79

def line : Reader Line := do
  blanks
  (newline *> pure .blank) <|> (comment *> (newline <|> endOfText) *> pure .blank) <|>
    (.header <$> header <* lineEnd) <|>
    ((fun (p, v) => .pair p v) <$> pair (value maxDepth) <* lineEnd)

def lines : Reader (List Line) := do
  discard (opt (char '\ufeff'))
  let ls ← many line
  blanks
  endOfText
  return ls

end Reader

structure Section where
  header? : Option Header
  pairs : List (List String × Node)

namespace Section

def ofLines : List Line → List Section
  | [] => [⟨none, []⟩]
  | l :: ls =>
    match l, ofLines ls with
    | .blank, ss => ss
    | .pair p v, ⟨none, ps⟩ :: ss => ⟨none, (p, v) :: ps⟩ :: ss
    | .header h, ⟨none, ps⟩ :: ss => ⟨none, []⟩ :: ⟨some h, ps⟩ :: ss
    | _, ss => ss

/-- Adds a section to what came before. A table has one header, which an implied table may still
get; an array of tables has one for each element. -/
def addTo (es : Entries) (s : Section) : Option Entries :=
  match s.header? with
  | none => Entries.insertAll es s.pairs
  | some (.table path) =>
    es.modifyParent (fun parent =>
      let k := path.getLast?.getD ""
      match parent.get? k with
      | none => (Entries.insertAll [] s.pairs).map fun t => parent.put k (.table .header t)
      | some (.table .implied sub) =>
        (Entries.insertAll sub s.pairs).map fun t => parent.put k (.table .header t)
      | some _ => none) path.dropLast
  | some (.element path) =>
    es.modifyParent (fun parent =>
      let k := path.getLast?.getD ""
      match parent.get? k with
      | none => (Entries.insertAll [] s.pairs).map fun t => parent.put k (.tables [t])
      | some (.tables items) =>
        (Entries.insertAll [] s.pairs).map fun t => parent.put k (.tables (items ++ [t]))
      | some _ => none) path.dropLast

end Section

def parse? (s : List Char) : Option Entries := do
  let (ls, _) ← Reader.lines s
  (Section.ofLines ls).foldlM Section.addTo []

end XorScan.Toml
