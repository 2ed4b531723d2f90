import XorScan.Json
import XorScan.Text.Columns
import XorScan.Token

namespace XorScan

inductive OutputFormat where
  | text
  | json
  deriving DecidableEq

namespace OutputFormat

def name : OutputFormat → String
  | text => "text"
  | json => "json"

def ofName? (s : String) : Option OutputFormat := [text, json].find? (·.name = s)

end OutputFormat

namespace Token

def row (t : Token) : String :=
  Text.padRight 9 t.position.display ++ " " ++
    Text.padLeft 6 (toString t.position.offset) ++ "  " ++
    Text.padRight 18 t.kind.name ++ " " ++ Text.quote t.text

/-- The fields of a token in the JSON listing. Only literals with a value have that field. -/
def record (t : Token) : Json.Record :=
  [("kind", .text t.kind.name.toList), ("category", .text t.kind.category.toList),
    ("text", .text t.text)] ++
  (t.value?.map fun v => ("value", Json.Scalar.text v)).toList ++
  [("line", .number t.position.displayLine), ("column", .number t.position.displayColumn),
    ("offset", .number t.position.offset)]

def isShown (trivia : Bool) (t : Token) : Bool := trivia || !t.isTrivia

end Token

end XorScan
