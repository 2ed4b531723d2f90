namespace XorScan.Toml

/-- How a table came about: by its own header, as the parent in another header, by a dotted key, or
in braces. -/
inductive Origin where
  | header
  | implied
  | dotted
  | inline
  deriving DecidableEq

inductive Node where
  | text (s : String)
  | boolean (b : Bool)
  | number
  | dateTime
  | array (items : List Node)
  | table (origin : Origin) (entries : List (String × Node))
  | tables (items : List (List (String × Node)))

abbrev Entries := List (String × Node)

namespace Entries

def get? (es : Entries) (k : String) : Option Node := es.lookup k

def put (es : Entries) (k : String) (v : Node) : Entries :=
  if es.any (·.1 == k) then es.map fun (k', v') => if k' = k then (k', v) else (k', v')
  else es ++ [(k, v)]

/-- Adds a value below dotted keys. No key is given twice, and no table is reopened that has a
header or braces of its own; one that headers only imply takes no values of its own either. -/
def insert (es : Entries) (path : List String) (k : String) (v : Node) : Option Entries :=
  match path with
  | [] => if (es.get? k).isSome then none else some (es.put k v)
  | p :: ps =>
    match es.get? p with
    | none => (insert [] ps k v).map fun sub => es.put p (.table .dotted sub)
    | some (.table .dotted sub) =>
      (insert sub ps k v).map fun sub' => es.put p (.table .dotted sub')
    | some (.table .implied sub) =>
      if ps.isEmpty then none
      else (insert sub ps k v).map fun sub' => es.put p (.table .implied sub')
    | some (.tables items) =>
      if ps.isEmpty then none
      else
        (insert (items.getLast?.getD []) ps k v).map fun sub' =>
          es.put p (.tables (items.dropLast ++ [sub']))
    | some _ => none

def insertAll (es : Entries) (pairs : List (List String × Node)) : Option Entries :=
  pairs.foldlM (fun es (path, v) => es.insert path.dropLast (path.getLast?.getD "") v) es

/-- Changes the table above the last key of a header. Tables on the way are implied, and of an array
of tables the last one is meant. -/
def modifyParent (f : Entries → Option Entries) (es : Entries) : List String → Option Entries
  | [] => f es
  | p :: ps =>
    match es.get? p with
    | none => (modifyParent f [] ps).map fun sub => es.put p (.table .implied sub)
    | some (.table .inline _) => none
    | some (.table origin sub) =>
      (modifyParent f sub ps).map fun sub' => es.put p (.table origin sub')
    | some (.tables items) =>
      (modifyParent f (items.getLast?.getD []) ps).map fun sub' =>
        es.put p (.tables (items.dropLast ++ [sub']))
    | some _ => none

end Entries

end XorScan.Toml
