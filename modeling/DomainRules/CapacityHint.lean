import DomainRules.Rule
import DomainRules.Text.Numerals
import DomainRules.Text.Quoted
import DomainRules.Text.Split

/-! The capacity hint: a header line with the expected number of rules of each kind. -/

namespace DomainRules

/-- Expected rule counts; zero says nothing about a kind. -/
abbrev CapacityHint := ByKind Int

namespace CapacityHint

def unknown : CapacityHint := ⟨0, 0, 0, 0⟩

def total (hint : CapacityHint) : Int := hint.domain + hint.suffix + hint.keyword + hint.regexp

def marker : String := "# domain set capacity hint "

def trailer : String := "DSKR"

def line (hint : CapacityHint) : String :=
  marker ++ toString hint.domain ++ " " ++ toString hint.suffix ++ " " ++ toString hint.keyword
    ++ " " ++ toString hint.regexp ++ " " ++ trailer

/-- Why a line that starts with the marker is no hint. -/
inductive Flaw
  | fieldCount
  | trailer
  | negative (field : String)
  | notNumeric (field : String)
  deriving DecidableEq

def Flaw.message : Flaw → String
  | .fieldCount => "expected 4 counts and " ++ CapacityHint.trailer
  | .trailer => "missing " ++ CapacityHint.trailer ++ " trailer"
  | .negative field => "negative count " ++ field
  | .notNumeric field => "non-numeric count " ++ Text.quoted field

/-- A count is a run of ASCII digits. Digits of any script behind a minus sign are called negative. -/
def readCount (field : List Char) : Except Flaw Int :=
  if field ≠ [] && field.all (fun c => Text.isAsciiDigit c.toNat) then
    .ok (Nat.ofDigitChars 10 field 0)
  else match field with
    | '-' :: digits =>
      if digits ≠ [] && digits.all (fun c => Text.isDigit c.toNat) then
        .error (.negative (String.ofList field))
      else .error (.notNumeric (String.ofList field))
    | _ => .error (.notNumeric (String.ofList field))

def readFields : List (List Char) → Except Flaw CapacityHint
  | [domain, suffix, keyword, regexp, last] =>
    if String.ofList last = trailer then do
      return ⟨← readCount domain, ← readCount suffix, ← readCount keyword, ← readCount regexp⟩
    else .error .trailer
  | _ => .error .fieldCount

/-- Reads a line; without the marker it is no hint, and no error either. -/
def parse (line : String) : Except Flaw (Option CapacityHint) :=
  if marker.toList.isPrefixOf line.toList then
    some <$> readFields (Text.splitOn ' ' (line.toList.drop marker.toList.length))
  else .ok none

end CapacityHint

end DomainRules
