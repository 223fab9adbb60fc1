import DomainRules.Regex.Reader
import DomainRules.Text.Case

/-! Regular expressions with the flags applied: every test of one character is spelled out, and every
lookbehind knows how far it goes back. -/

namespace DomainRules.Regex

/-- How characters are made alike before they are compared. -/
inductive Fold
  | exact
  | ascii
  | unicode
  deriving DecidableEq

def Fold.apply : Fold → Nat → Nat
  | exact => id
  | ascii => Text.asciiLower
  | unicode => Text.lower

inductive Alphabet
  | ascii
  | unicode
  deriving DecidableEq

def Alphabet.has (alphabet : Alphabet) (category : Category) (code : Nat) : Bool :=
  match alphabet, category with
  | .ascii, .digit => Text.isAsciiDigit code
  | .ascii, .space => Text.isAsciiBlank code
  | .ascii, .word => Text.isAsciiLetter code || Text.isAsciiDigit code || code == 0x5F
  | .unicode, .digit => Text.isDecimal code
  | .unicode, .space => Text.isBlank code
  | .unicode, .word => Text.isLetter code || Text.isNumeric code || code == 0x5F

/-- A test of one character. `among` looks the folded character up in a list; `inSet` tries the items of a set
on the folded character. -/
inductive CharTest
  | all
  | notNewline
  | among (fold : Fold) (codes : List Nat) (negated : Bool)
  | inSet (fold : Fold) (alphabet : Alphabet) (items : List SetItem) (negated : Bool)
  deriving DecidableEq

/-- The last code point for which sets keep the folded forms of their members. Beyond it a single member
stands for itself alone, and a range for the characters whose lower or upper form lies in it. -/
def foldedLimit : Nat := 0xFFFF

/-- Whether a range has a member that folds to `code`, itself folded, or to a mate of it. -/
def rangeFoldsTo (fold : Fold) (low high code : Nat) : Bool :=
  let sources := match fold with
    | .exact => [code]
    | .ascii => if 0x61 ≤ code && code ≤ 0x7A then [code, code - 0x20] else [code]
    | .unicode => (Text.matesOf code).flatMap Text.loweringTo
  sources.any fun source => low ≤ source && source ≤ min high foldedLimit

def SetItem.accepts (fold : Fold) (alphabet : Alphabet) (code : Nat) : SetItem → Bool
  | .category kind negated => alphabet.has kind code != negated
  | .char member =>
    match fold with
    | .exact => code == member
    | _ =>
      let folded := fold.apply member
      if foldedLimit < folded then code == member
      else if fold = .unicode then (Text.matesOf folded).contains code
      else code == folded
  | .range low high =>
    match fold with
    | .exact => low ≤ code && code ≤ high
    | _ =>
      rangeFoldsTo fold low high code ||
        (foldedLimit < high &&
          ((low ≤ code && code ≤ high) || (low ≤ Text.upper code && Text.upper code ≤ high)))

def CharTest.accepts (code : Nat) : CharTest → Bool
  | all => true
  | notNewline => code != 10
  | among fold codes negated => codes.contains (fold.apply code) != negated
  | inSet fold alphabet items negated =>
    items.any (SetItem.accepts fold alphabet (fold.apply code)) != negated

inductive PlaceTest
  | textStart
  | lineStart
  | textEnd
  | lastLineEnd
  | lineEnd
  | boundary (alphabet : Alphabet) (negated : Bool)
  deriving DecidableEq

inductive Program
  | empty
  | one (test : CharTest)
  | place (test : PlaceTest)
  | reference (group : Nat) (fold : Fold)
  | seq (first second : Program)
  | either (first second : Program)
  | capture (group : Nat) (body : Program)
  | atomic (body : Program)
  | loop (mode : Mode) (min : Nat) (max : Option Nat) (body : Program)
  | look (back : Option Nat) (negated : Bool) (body : Program)
  | conditional (group : Nat) (yes no : Program)
  deriving DecidableEq

def Flags.alphabet (flags : Flags) : Alphabet := if flags.contains .unicode then .unicode else .ascii

def Flags.fold (flags : Flags) : Fold :=
  if flags.contains .ignoreCase then
    if flags.contains .unicode then .unicode else .ascii
  else .exact

/-- Whether folding leaves a character no other form. -/
def Fold.isCased (fold : Fold) (code : Nat) : Bool :=
  match fold with
  | .exact => false
  | .ascii => Text.isAsciiLetter code
  | .unicode => Text.isCased code

/-- Whether a range has a cased member below the limit, or any beyond it. -/
def Fold.isCasedRange (fold : Fold) (low high : Nat) : Bool :=
  let hasAscii := (low ≤ 0x5A && 0x41 ≤ high) || (low ≤ 0x7A && 0x61 ≤ high)
  match fold with
  | .exact => false
  | .ascii => foldedLimit < high || hasAscii
  | .unicode =>
    foldedLimit < high || hasAscii || Text.lowerRuns.any (·.meets low high)
      || Text.upperRuns.any (·.meets low high)

def SetItem.isCased (fold : Fold) : SetItem → Bool
  | .char code => fold.isCased code || (fold ≠ .exact && foldedLimit < fold.apply code)
  | .range low high => fold.isCasedRange low high
  | .category _ _ => false

def charTest (flags : Flags) (code : Nat) (negated : Bool) : CharTest :=
  let fold := flags.fold
  if !fold.isCased code then .among .exact [code] negated
  else match fold with
    | .unicode => .among fold (Text.matesOf (fold.apply code)) negated
    | _ => .among fold [fold.apply code] negated

/-- A set without cased members is tried on the character as it is. -/
def setTest (flags : Flags) (items : List SetItem) (negated : Bool) : CharTest :=
  let fold := if items.any (SetItem.isCased flags.fold) then flags.fold else .exact
  .inSet fold flags.alphabet items negated

def placeTest (flags : Flags) : Anchor → PlaceTest
  | .textStart => .textStart
  | .lineStart => if flags.contains .multiline then .lineStart else .textStart
  | .textEnd => .textEnd
  | .lineEnd => if flags.contains .multiline then .lineEnd else .lastLineEnd
  | .boundary => .boundary flags.alphabet false
  | .noBoundary => .boundary flags.alphabet true

def Mode.operator : Mode → String
  | greedy => "MAX_REPEAT"
  | .lazy => "MIN_REPEAT"
  | possessive => "POSSESSIVE_REPEAT"

def lookbehindLimit : Nat := 4294967295

def lookbehindWidth (width : Width) : Except Complaint Nat :=
  if lookbehindLimit < width.least then .error .lookbehindTooFar
  else if width.least ≠ width.most then .error .lookbehindWidth
  else .ok width.least

def Expr.compile (groups : Nat → Width) (flags : Flags) : Expr → Except Complaint Program
  | .empty => .ok .empty
  | .any => .ok (.one (if flags.contains .dotAll then .all else .notNewline))
  | .char code negated => .ok (.one (charTest flags code negated))
  | .set items negated => .ok (.one (setTest flags items negated))
  | .anchor kind => .ok (.place (placeTest flags kind))
  | .reference number => .ok (.reference number flags.fold)
  | .seq first second => do return .seq (← first.compile groups flags) (← second.compile groups flags)
  | .either first second => do return .either (← first.compile groups flags) (← second.compile groups flags)
  | .group number added removed body => do
    let inner ← body.compile groups (flags.change added removed)
    return match number with
      | some number => .capture number inner
      | none => inner
  | .atomic body => do return .atomic (← body.compile groups flags)
  | .loop mode min max body => do
    if flags.contains .template then throw (.templateLoop mode.operator)
    return .loop mode min max (← body.compile groups flags)
  | .look behind negated body => do
    let back ← if behind then some <$> lookbehindWidth (body.width groups) else pure none
    return .look back negated (← body.compile groups flags)
  | .conditional number yes no => do
    return .conditional number (← yes.compile groups flags) (← no.compile groups flags)

end DomainRules.Regex
