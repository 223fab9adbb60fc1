/-! Decimal text: numbers with a fixed count of places, whole numbers in groups of three digits, and columns. -/

namespace DomainRules.Decimal

/-- A binary floating-point number, taken apart; a finite one is `mantissa * 2 ^ exponent`. -/
inductive Binary
  | finite (negative : Bool) (mantissa : Nat) (exponent : Int)
  | infinite (negative : Bool)
  | notANumber

def Binary.ofFloat (x : Float) : Binary :=
  let bits := x.toBits.toNat
  let negative := bits / 0x8000000000000000 == 1
  let biased : Nat := bits / 0x10000000000000 % 2048
  let fraction : Nat := bits % 0x10000000000000
  if biased = 2047 then if fraction = 0 then .infinite negative else .notANumber
  else if biased = 0 then .finite negative fraction (-1074)
  else .finite negative (0x10000000000000 + fraction) ((biased : Int) - 1075)

/-- The whole number nearest to a quotient; a half goes to the even one. -/
def roundDiv (numerator denominator : Nat) : Nat :=
  let quotient := numerator / denominator
  let twice := 2 * (numerator % denominator)
  if denominator < twice || (twice = denominator && quotient % 2 = 1) then quotient + 1 else quotient

/-- `mantissa * 2 ^ exponent` in units of the last place, rounded. -/
def scaled (places mantissa : Nat) (exponent : Int) : Nat :=
  roundDiv (mantissa * Nat.pow 10 places * Nat.pow 2 exponent.toNat) (Nat.pow 2 (-exponent).toNat)

def unsigned (places units : Nat) : String :=
  let whole := toString (units / Nat.pow 10 places)
  if places = 0 then whole
  else
    let rest := (toString (units % Nat.pow 10 places)).toList
    whole ++ "." ++ String.ofList (List.replicate (places - rest.length) '0' ++ rest)

/-- The sign stays, also where all digits are zeros. -/
def fixed (places : Nat) (x : Float) : String :=
  let sign (negative : Bool) := if negative then "-" else ""
  match Binary.ofFloat x with
  | .finite negative mantissa exponent => sign negative ++ unsigned places (scaled places mantissa exponent)
  | .infinite negative => sign negative ++ "inf"
  | .notANumber => "nan"

/-- Commas between groups of three, on digits from the last one on. -/
def groupFrom : Nat → List Char → List Char
  | _, [] => []
  | 3, digits => ',' :: groupFrom 0 digits
  | count, digit :: digits => digit :: groupFrom (count + 1) digits
termination_by count digits => (digits.length, count)

def grouped (n : Int) : String :=
  let digits := (toString n.natAbs).toList
  (if n < 0 then "-" else "") ++ String.ofList (groupFrom 0 digits.reverse).reverse

/-- Blanks in front, up to a width in characters. -/
def padLeft (width : Nat) (text : String) : String :=
  String.ofList (List.replicate (width - text.length) ' ') ++ text

def padRight (width : Nat) (text : String) : String :=
  text ++ String.ofList (List.replicate (width - text.length) ' ')

end DomainRules.Decimal
