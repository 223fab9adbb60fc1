/-! Sets of code points given as inclusive ranges. -/

namespace DomainRules.Text

abbrev Ranges := Array (Nat × Nat)

def Ranges.contains (ranges : Ranges) (code : Nat) : Bool :=
  ranges.any fun range => range.1 ≤ code && code ≤ range.2

end DomainRules.Text
