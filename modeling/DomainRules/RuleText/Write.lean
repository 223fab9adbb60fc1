import DomainRules.Fault
import DomainRules.RuleSet

/-! Writing a rule set as rule text, one line for each rule. -/

namespace DomainRules.RuleText

/-- A rule that a line cannot hold: it would be cut, or lose its last character. -/
def isUnwritable (rule : String) : Bool :=
  rule.toList.contains '\n' || rule.toList.getLast? == some '\r'

def hintOf (set : RuleSet) : CapacityHint := .ofFn fun kind => ((set.rules kind).length : Int)

def ruleLine (kind : Kind) (rule : String) : Except Fault String :=
  if isUnwritable rule then .error (.unwritable kind rule) else .ok (kind.tag ++ rule)

def ruleLines (set : RuleSet) (kind : Kind) : Except Fault (List String) :=
  (set.rules kind).mapM (ruleLine kind)

/-- The text of a set, by kinds, behind a hint if one is wanted. The first rule that cannot be written is the
fault. -/
def write (set : RuleSet) (withHint : Bool) : Except Fault String := do
  let lines := (← Kind.all.mapM (ruleLines set)).flatten
  let header := if withHint then [(hintOf set).line] else []
  return "\n".intercalate (header ++ lines) ++ "\n"

end DomainRules.RuleText
