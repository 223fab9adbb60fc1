import DomainRules.Regex.Program

/-! Searching text by backtracking. A program is run at a place with the rest of the work as a continuation;
the first way to finish that rest decides. -/

namespace DomainRules.Regex

/-- The start and the end of each group, where they have been passed. -/
abbrev Marks := List (Option Nat)

abbrev Outcome := Option (Nat × Marks)

abbrev Rest := Nat → Marks → Outcome

def done : Rest := fun position marks => some (position, marks)

def startMark (group : Nat) : Nat := 2 * (group - 1)

def span? (marks : Marks) (group : Nat) : Option (Nat × Nat) := do
  let start ← (marks[startMark group]?).join
  let stop ← (marks[startMark group + 1]?).join
  guard (start ≤ stop)
  return (start, stop)

def wordAt (text : Array Char) (alphabet : Alphabet) (position : Nat) : Bool :=
  match text[position]? with
  | some c => alphabet.has .word c.toNat
  | none => false

def PlaceTest.holds (text : Array Char) (position : Nat) : PlaceTest → Bool
  | textStart => position == 0
  | lineStart => position == 0 || text[position - 1]? == some '\n'
  | textEnd => position == text.size
  | lastLineEnd => position == text.size || (position + 1 == text.size && text[position]? == some '\n')
  | lineEnd => position == text.size || text[position]? == some '\n'
  | boundary alphabet negated =>
    text.size != 0 &&
      ((position != 0 && wordAt text alphabet (position - 1)) != wordAt text alphabet position) != negated

def acceptsAt (text : Array Char) (test : CharTest) (position : Nat) : Bool :=
  match text[position]? with
  | some c => test.accepts c.toNat
  | none => false

/-- How many characters from a position on pass a test, at most `limit`. -/
def runLength (text : Array Char) (test : CharTest) (position : Nat) : Nat → Nat
  | 0 => 0
  | limit + 1 => if acceptsAt text test position then runLength text test (position + 1) limit + 1 else 0

/-- Whether the text repeats itself: `count` characters at one place and at another. -/
def repeats (text : Array Char) (fold : Fold) (source position : Nat) : Nat → Bool
  | 0 => true
  | count + 1 =>
    match text[source]?, text[position]? with
    | some a, some b =>
      fold.apply a.toNat == fold.apply b.toNat && repeats text fold (source + 1) (position + 1) count
    | _, _ => false

/-- Tries the rest behind `extra` more characters, then behind fewer. -/
def longestFirst (position : Nat) (marks : Marks) (rest : Rest) : Nat → Outcome
  | 0 => rest position marks
  | extra + 1 => rest (position + extra + 1) marks <|> longestFirst position marks rest extra

/-- Tries the rest at a position, then behind up to `extra` more characters. -/
def shortestFirst (position : Nat) (marks : Marks) (rest : Rest) : Nat → Outcome
  | 0 => rest position marks
  | extra + 1 => rest position marks <|> shortestFirst (position + 1) marks rest extra

def loopChar (text : Array Char) (test : CharTest) (mode : Mode) (min : Nat) (max : Option Nat)
    (position : Nat) (marks : Marks) (rest : Rest) : Outcome :=
  let ahead := text.size - position
  let count := runLength text test position ((max.getD ahead).min ahead)
  if count < min then none
  else match mode with
    | .greedy => longestFirst (position + min) marks rest (count - min)
    | .lazy => shortestFirst (position + min) marks rest (count - min)
    | .possessive => rest (position + count) marks

/-- What every kind of loop is given: one run of its body and its bounds. -/
structure Loop where
  body : Nat → Marks → Rest → Outcome
  min : Nat
  max : Option Nat

/-- Whether another run is allowed behind the required ones. Runs stop where the last one began, so that a
body that takes nothing does not run forever. -/
def Loop.mayGoOn (loop : Loop) (count : Nat) (last : Option Nat) (position : Nat) : Bool :=
  loop.max.all (count < ·) && last ≠ some position

def Loop.greedy (loop : Loop) (rest : Rest) : (fuel count : Nat) → Option Nat → Rest
  | 0, _, _, _, _ => none
  | fuel + 1, count, last, position, marks =>
    if count < loop.min then loop.body position marks (loop.greedy rest fuel (count + 1) last)
    else if loop.mayGoOn count last position then
      loop.body position marks (loop.greedy rest fuel (count + 1) (some position)) <|> rest position marks
    else rest position marks

def Loop.lazy (loop : Loop) (rest : Rest) : (fuel count : Nat) → Option Nat → Rest
  | 0, _, _, _, _ => none
  | fuel + 1, count, last, position, marks =>
    if count < loop.min then loop.body position marks (loop.lazy rest fuel (count + 1) last)
    else rest position marks <|>
      if loop.mayGoOn count last position then
        loop.body position marks (loop.lazy rest fuel (count + 1) (some position))
      else none

def Loop.possessive (loop : Loop) (rest : Rest) : (fuel count : Nat) → Option Nat → Rest
  | 0, _, _, _, _ => none
  | fuel + 1, count, last, position, marks =>
    if count < loop.min then
      match loop.body position marks done with
      | some (stop, marks) => loop.possessive rest fuel (count + 1) last stop marks
      | none => none
    else if loop.mayGoOn count last position then
      match loop.body position marks done with
      | some (stop, marks) => loop.possessive rest fuel (count + 1) (some position) stop marks
      | none => rest position marks
    else rest position marks

/-- Runs a loop. Behind the required runs each one takes a character or is the last, which bounds them. -/
def Loop.run (loop : Loop) (mode : Mode) (size position : Nat) (marks : Marks) (rest : Rest) : Outcome :=
  let fuel := loop.min + (size - position) + 3
  match mode with
  | .greedy => loop.greedy rest fuel 0 none position marks
  | .lazy => loop.lazy rest fuel 0 none position marks
  | .possessive => loop.possessive rest fuel 0 none position marks

def Program.run (text : Array Char) : Program → Nat → Marks → Rest → Outcome
  | empty, position, marks, rest => rest position marks
  | one test, position, marks, rest =>
    if acceptsAt text test position then rest (position + 1) marks else none
  | place test, position, marks, rest => if test.holds text position then rest position marks else none
  | reference group fold, position, marks, rest =>
    match span? marks group with
    | some (start, stop) =>
      if repeats text fold start position (stop - start) then rest (position + (stop - start)) marks
      else none
    | none => none
  | seq first second, position, marks, rest =>
    first.run text position marks fun middle marks => second.run text middle marks rest
  | either first second, position, marks, rest =>
    first.run text position marks rest <|> second.run text position marks rest
  | capture group body, position, marks, rest =>
    body.run text position (marks.set (startMark group) (some position)) fun stop marks =>
      rest stop (marks.set (startMark group + 1) (some stop))
  | atomic body, position, marks, rest =>
    match body.run text position marks done with
    | some (stop, marks) => rest stop marks
    | none => none
  | loop mode min max (one test), position, marks, rest =>
    loopChar text test mode min max position marks rest
  | loop mode min max body, position, marks, rest =>
    Loop.run ⟨body.run text, min, max⟩ mode text.size position marks rest
  | look back negated body, position, marks, rest =>
    let found := match back with
      | none => body.run text position marks done
      | some width => if width ≤ position then body.run text (position - width) marks done else none
    match found with
    | some (_, inner) => if negated then none else rest position inner
    | none => if negated then rest position marks else none
  | conditional group yes no, position, marks, rest =>
    if (span? marks group).isSome then yes.run text position marks rest
    else no.run text position marks rest

def Program.matchesAt (program : Program) (groups : Nat) (text : Array Char) (position : Nat) : Bool :=
  (program.run text position (List.replicate (2 * groups) none) done).isSome

end DomainRules.Regex
