import DomainRules.Text.Printable

/-! Quoted values as messages show them: single quotes unless only those occur inside, the backslash and the
quote escaped, and numeric escapes for what cannot be printed. -/

namespace DomainRules.Text

def hexDigits (width value : Nat) : List Char :=
  let digits := Nat.toDigits 16 value
  List.replicate (width - digits.length) '0' ++ digits

def quoteFor (codes : List Nat) : Char :=
  if codes.contains 0x27 && !codes.contains 0x22 then '"' else '\''

/-- The escapes that text and bytes share. -/
def commonEscape? (quote : Char) (code : Nat) : Option (List Char) :=
  if code == 0x5C then some ['\\', '\\']
  else if code == quote.toNat then some ['\\', quote]
  else if code == 9 then some ['\\', 't']
  else if code == 10 then some ['\\', 'n']
  else if code == 13 then some ['\\', 'r']
  else none

def escapeChar (quote c : Char) : List Char :=
  match commonEscape? quote c.toNat with
  | some escaped => escaped
  | none =>
    if isPrintable c.toNat then [c]
    else if c.toNat ≤ 0xFF then ['\\', 'x'] ++ hexDigits 2 c.toNat
    else if c.toNat ≤ 0xFFFF then ['\\', 'u'] ++ hexDigits 4 c.toNat
    else ['\\', 'U'] ++ hexDigits 8 c.toNat

def escapeByte (quote : Char) (byte : UInt8) : List Char :=
  match commonEscape? quote byte.toNat with
  | some escaped => escaped
  | none =>
    if 0x20 ≤ byte.toNat && byte.toNat < 0x7F then [Char.ofNat byte.toNat]
    else ['\\', 'x'] ++ hexDigits 2 byte.toNat

def quoted (text : String) : String :=
  let quote := quoteFor (text.toList.map Char.toNat)
  String.ofList (quote :: text.toList.flatMap (escapeChar quote) ++ [quote])

def quotedBytes (bytes : List UInt8) : String :=
  let quote := quoteFor (bytes.map UInt8.toNat)
  String.ofList ('b' :: quote :: bytes.flatMap (escapeByte quote) ++ [quote])

def quotedList (texts : List String) : String :=
  "[" ++ ", ".intercalate (texts.map quoted) ++ "]"

end DomainRules.Text
