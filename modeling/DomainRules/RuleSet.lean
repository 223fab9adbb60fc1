import DomainRules.Matcher

/-! Rule sets: matchers asked in order; a name is covered if one of them covers it. -/

namespace DomainRules

structure RuleSet where
  matchers : List Matcher

namespace RuleSet

def covers (set : RuleSet) (name : String) : Bool := set.matchers.any (·.covers name)

def ofKind (set : RuleSet) (kind : Kind) : List Matcher :=
  set.matchers.filter fun matcher => matcher.kind = kind

/-- Rules of a kind, enough to build an equal set again. -/
def rules (set : RuleSet) (kind : Kind) : List String := (set.ofKind kind).flatMap Matcher.rules

def total (matchers : List Matcher) : Nat := matchers.foldr (fun matcher others => matcher.count + others) 0

def count (set : RuleSet) : Nat := total set.matchers

def countOf (set : RuleSet) (kind : Kind) : Nat := total (set.ofKind kind)

def shown (set : RuleSet) : String :=
  "DomainSet([" ++ ", ".intercalate (set.matchers.map Matcher.shown) ++ "])"

end RuleSet

end DomainRules
