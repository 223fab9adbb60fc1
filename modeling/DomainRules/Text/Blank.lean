import DomainRules.Text.Ranges

/-! Blanks: what separates words in any script. -/

namespace DomainRules.Text

/-- Space, tab, line feed, vertical tab, form feed and carriage return. -/
def isAsciiBlank (code : Nat) : Bool := (9 ≤ code && code ≤ 13) || code == 0x20

/-- Every blank: those of ASCII, the separators between files, groups, records and units, and the blanks
of other scripts. -/
def blankRanges : Ranges := #[
  (0x9, 0xD), (0x1C, 0x20), (0x85, 0x85), (0xA0, 0xA0), (0x1680, 0x1680), (0x2000, 0x200A),
  (0x2028, 0x2029), (0x202F, 0x202F), (0x205F, 0x205F), (0x3000, 0x3000)]

def isBlank (code : Nat) : Bool := blankRanges.contains code

end DomainRules.Text
