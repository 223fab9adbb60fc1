/-! What reading expressions takes from the host that it runs on. -/

namespace DomainRules.Regex

/-- The characters that have names, and how many groups may be open around a group. -/
class Host where
  charNamed? : String → Option Char
  nesting : Nat

/-- A host that knows no names, with the stack of an ordinary one. -/
instance Host.nameless : Host := ⟨fun _ => none, 494⟩

end DomainRules.Regex
