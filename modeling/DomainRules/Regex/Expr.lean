/-! Regular expressions as they are written, before the flags in force are applied. Literals are code points,
because an escape may name one that is no character. -/

namespace DomainRules.Regex

inductive Flag
  | ascii
  | ignoreCase
  | locale
  | multiline
  | dotAll
  | template
  | unicode
  | verbose
  deriving DecidableEq

abbrev Flags := List Flag

def Flag.ofChar? : Char → Option Flag
  | 'a' => some .ascii
  | 'i' => some .ignoreCase
  | 'L' => some .locale
  | 'm' => some .multiline
  | 's' => some .dotAll
  | 't' => some .template
  | 'u' => some .unicode
  | 'x' => some .verbose
  | _ => none

def Flag.isAlphabet : Flag → Bool
  | .ascii | .locale | .unicode => true
  | _ => false

/-- Concerns the whole expression and cannot be set for a part of it. -/
def Flag.isGlobal : Flag → Bool
  | .template => true
  | _ => false

/-- Adds and removes flags; a new alphabet displaces the old one. -/
def Flags.change (flags added removed : Flags) : Flags :=
  let kept := if added.any Flag.isAlphabet then flags.filter fun flag => !flag.isAlphabet else flags
  (kept ++ added).filter fun flag => !removed.contains flag

inductive Anchor
  | lineStart
  | textStart
  | lineEnd
  | textEnd
  | boundary
  | noBoundary
  deriving DecidableEq

inductive Category
  | digit
  | space
  | word
  deriving DecidableEq

inductive SetItem
  | char (code : Nat)
  | range (low high : Nat)
  | category (category : Category) (negated : Bool)
  deriving DecidableEq

inductive Mode
  | greedy
  | lazy
  | possessive
  deriving DecidableEq

/-- A group without a number captures nothing; a loop without `max` has no upper bound. -/
inductive Expr
  | empty
  | any
  | char (code : Nat) (negated : Bool)
  | set (items : List SetItem) (negated : Bool)
  | anchor (anchor : Anchor)
  | reference (group : Nat)
  | seq (first second : Expr)
  | either (first second : Expr)
  | group (number : Option Nat) (added removed : Flags) (body : Expr)
  | atomic (body : Expr)
  | loop (mode : Mode) (min : Nat) (max : Option Nat) (body : Expr)
  | look (behind negated : Bool) (body : Expr)
  | conditional (group : Nat) (yes no : Expr)
  deriving DecidableEq

structure Width where
  least : Nat
  most : Nat

namespace Width

/-- Widths are not told apart beyond this. -/
def limit : Nat := 0x10000000000000000

def exactly (n : Nat) : Width := ⟨n, n⟩

def add (a b : Width) : Width := ⟨min (a.least + b.least) limit, min (a.most + b.most) limit⟩

def either (a b : Width) : Width := ⟨min a.least b.least, max a.most b.most⟩

def repeated (width : Width) (least : Nat) : Option Nat → Width
  | some most => ⟨min (width.least * least) limit, min (width.most * most) limit⟩
  | none => ⟨min (width.least * least) limit, if width.most = 0 then 0 else limit⟩

end Width

def Expr.width (groups : Nat → Width) : Expr → Width
  | empty | anchor _ | look _ _ _ => .exactly 0
  | any | char _ _ | set _ _ => .exactly 1
  | reference number => groups number
  | seq first second => (first.width groups).add (second.width groups)
  | either first second => (first.width groups).either (second.width groups)
  | group _ _ _ body | atomic body => body.width groups
  | loop _ least most body => (body.width groups).repeated least most
  | conditional _ yes no => (yes.width groups).either (no.width groups)

def Expr.ofItems (items : List Expr) : Expr := items.foldr Expr.seq Expr.empty

/-- Items that are equal wherever they are written the same; the others carry subexpressions. -/
def Expr.isPlain : Expr → Bool
  | any | char _ _ | set _ _ | anchor _ | reference _ => true
  | _ => false

/-- The items that all alternatives start with, and what remains of each. The fuel is the length of one. -/
def commonStart : Nat → List (List Expr) → List Expr × List (List Expr)
  | 0, alternatives => ([], alternatives)
  | fuel + 1, alternatives =>
    match alternatives with
    | (item :: rest) :: others =>
      if item.isPlain && others.all (fun other => other.head? = some item) then
        let (start, remaining) := commonStart fuel (rest :: others.map List.tail)
        (item :: start, remaining)
      else ([], alternatives)
    | _ => ([], alternatives)

/-- The set items of an alternative that is one character or one plain set. -/
def setItems? : List Expr → Option (List SetItem)
  | [.char code false] => some [.char code]
  | [.set items false] => some items
  | _ => none

/-- Alternatives as items: a common start is taken out, and single characters become one set. -/
def joinAlternatives : List (List Expr) → List Expr
  | [] => []
  | [only] => only
  | first :: others =>
    let (start, remaining) := commonStart (first.length + 1) (first :: others)
    start ++ match remaining.mapM setItems? with
      | some sets => [.set sets.flatten.eraseDups false]
      | none => match (remaining.map Expr.ofItems).reverse with
        | [] => []
        | last :: before => [before.foldl (fun later earlier => .either earlier later) last]

end DomainRules.Regex
