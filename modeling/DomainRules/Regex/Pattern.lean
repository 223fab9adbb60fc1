import DomainRules.Regex.Search

/-! Patterns: regular expressions ready to be searched for, with their text. -/

namespace DomainRules.Regex

/-- `groups` counts the groups that capture. -/
structure Pattern where
  source : String
  program : Program
  groups : Nat
  deriving DecidableEq

namespace Pattern

def compile [Host] (source : String) : Except Fault Pattern := do
  let reading ← read source.toList
  match reading.expr.compile (widthOf reading.groups) reading.flags with
  | .ok program => return ⟨source, program, reading.groups.length - 1⟩
  | .error complaint => throw (.complaint complaint none)

def search (pattern : Pattern) (text : String) : Bool :=
  let chars := text.toList.toArray
  (List.range (chars.size + 1)).any (pattern.program.matchesAt pattern.groups chars)

end Pattern

end DomainRules.Regex
