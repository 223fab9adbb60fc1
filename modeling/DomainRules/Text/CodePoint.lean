import DomainRules.Text.Quoted

/-! Texts of any code points. Surrogates are code points that stand for no character, so that a text with one of them has
no UTF-8 form. -/

namespace DomainRules.Text

inductive CodePoint
  | char (c : Char)
  | surrogate (index : Fin 0x800)
  deriving DecidableEq

/-- A text that need not consist of characters. -/
abbrev Loose := List CodePoint

/-- The first surrogate of a text, and how many stand there in a row. -/
structure Gap where
  position : Nat
  first : Fin 0x800
  length : Nat
  deriving DecidableEq

def Gap.message (gap : Gap) : String :=
  let place :=
    if gap.length = 1 then
      "character '\\u" ++ String.ofList (hexDigits 4 (0xD800 + gap.first)) ++ "' in position "
        ++ toString gap.position
    else
      "characters in position " ++ toString gap.position ++ "-"
        ++ toString (gap.position + gap.length - 1)
  "'utf-8' codec can't encode " ++ place ++ ": surrogates not allowed"

namespace Loose

def ofString (text : String) : Loose := text.toList.map .char

/-- How many surrogates a text begins with. -/
def surrogates : Loose → Nat
  | .surrogate _ :: rest => surrogates rest + 1
  | _ => 0

def characters (position : Nat) : Loose → Except Gap (List Char)
  | [] => .ok []
  | .char c :: rest => (c :: ·) <$> characters (position + 1) rest
  | .surrogate index :: rest => .error ⟨position, index, surrogates rest + 1⟩

/-- The text as a string, which it is unless it holds a surrogate. -/
def strict (text : Loose) : Except Gap String := String.ofList <$> characters 0 text

end Loose

end DomainRules.Text
