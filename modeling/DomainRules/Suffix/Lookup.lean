/-! Lookup by recursion, in rows of any kind. A call takes the first label of a path and leaves the others to another call, one
row further down. -/

namespace DomainRules.Suffix

/-- What a row has under a label: the end of a suffix, or a row below. -/
inductive Entry (Row : Type)
  | covered
  | below (row : Row)

/-- Looks a path up with so many calls that may be open at once. If it takes more, there is no answer. -/
def lookup {Row : Type} (next? : String → Row → Option (Entry Row)) : Nat → List String → Row → Option Bool
  | _, [], _ => some false
  | 0, _ :: _, _ => none
  | calls + 1, label :: path, row =>
    match next? label row with
    | none => some false
    | some .covered => some true
    | some (.below below) => lookup next? calls path below

end DomainRules.Suffix
