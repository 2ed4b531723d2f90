import XorScan.Diagnostic
import XorScan.Files

namespace XorScan

inductive Failure where
  | configMissing (path : String)
  | configMalformed (detail : String)
  | unreadable (path : String) (cause : IoError)
  | io (cause : IoError)
  | scan (error : ScanError) (report : String)
  | json (cause : IoError)
  deriving DecidableEq

namespace Failure

def message : Failure → String
  | configMissing path => "configuration error: configuration file not found: " ++ path
  | configMalformed detail => "configuration error: " ++ detail
  | unreadable path _ => "cannot read " ++ path
  | io cause => "IO error: " ++ cause.message
  | scan _ report => report
  | json cause => "JSON error: " ++ cause.message

def causes : Failure → List String
  | unreadable _ cause | io cause | json cause => [cause.message]
  | scan error _ => error.fault.message :: error.fault.cause?.toList
  | configMissing _ | configMalformed _ => []

/-- A scan error reports itself; any other failure is told in one line with what lies behind it,
after what was being done. -/
def report (context : List String) (f : Failure) : String :=
  match f with
  | scan _ report => report
  | _ => "error: " ++ ": ".intercalate (context ++ f.message :: f.causes) ++ "\n"

def ofScanError (file : SourceFile) (e : ScanError) : Failure :=
  .scan e (e.diagnostic.render file)

end Failure

end XorScan
