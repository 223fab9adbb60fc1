import DomainRules.Text.Blank
import DomainRules.Text.Numerals
import DomainRules.Text.Split

/-! Whole numbers as people write them: blanks around, a sign, decimal digits of any script, and single
underscores between digits. -/

namespace DomainRules.Text.Integer

def digitLimit : Nat := 4300

def isMargin (c : Char) : Bool :=
  if c.toNat < 0x80 then isAsciiBlank c.toNat else isBlank c.toNat

def trim (text : List Char) : List Char :=
  ((text.dropWhile isMargin).reverse.dropWhile isMargin).reverse

/-- Groups of digits between underscores; no group is empty. -/
def readDigits? (text : List Char) : Option Nat := do
  let groups := splitOn '_' text
  guard (groups.all (· ≠ []))
  let digits ← groups.flatten.mapM fun c => decimalValue? c.toNat
  guard (digits.length ≤ digitLimit)
  return digits.foldl (fun value digit => 10 * value + digit) 0

def read? (text : String) : Option Int :=
  match trim text.toList with
  | '-' :: digits => (readDigits? digits).map fun value => -(value : Int)
  | '+' :: digits => (readDigits? digits).map fun value => (value : Int)
  | digits => (readDigits? digits).map fun value => (value : Int)

end DomainRules.Text.Integer
