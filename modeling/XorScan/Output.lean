import XorScan.Failure

namespace XorScan

/-- A piece of output that is written whole or not at all, and what it means when it is not. -/
structure Piece where
  text : String
  failure : IoError → Failure

/-- Where output goes. It takes a number of bytes, if that is bounded, and refuses more. -/
structure Device where
  capacity? : Option Nat
  refusal : IoError

namespace Device

def unbounded : Device := ⟨none, .closed⟩

def takes (d : Device) (bytes : Nat) : Bool := d.capacity?.all (bytes ≤ ·)

def write (d : Device) (written : String) : List Piece → String × Option Failure
  | [] => (written, none)
  | p :: ps =>
    let next := written ++ p.text
    if d.takes next.utf8ByteSize then d.write next ps else (written, some (p.failure d.refusal))

end Device

end XorScan
