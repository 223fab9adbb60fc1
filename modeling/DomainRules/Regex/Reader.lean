import DomainRules.Regex.Expr
import DomainRules.Regex.Fault
import DomainRules.Regex.Host
import DomainRules.Text.Identifier
import DomainRules.Text.Integer

/-! Reading regular expressions. The reader looks one token ahead, and a complaint is placed relative to the
token that it looks at. -/

namespace DomainRules.Regex

/-- A character, or a backslash and the character behind it. -/
inductive Token
  | plain (c : Char)
  | escaped (c : Char)
  | dangling
  deriving DecidableEq

def Token.text : Token → List Char
  | plain c => [c]
  | escaped c => ['\\', c]
  | dangling => ['\\']

def Token.length (token : Token) : Nat := token.text.length

def tokens : List Char → List Token
  | [] => []
  | ['\\'] => [.dangling]
  | '\\' :: c :: rest => .escaped c :: tokens rest
  | c :: rest => .plain c :: tokens rest

/-- Where reading stands: the tokens ahead and the position of the first of them, the flags set for the whole
expression, the named groups, the widths of the closed groups by number, the first group of the outermost
lookbehind at hand, the groups that conditions have asked for with their places, and how many groups are open. -/
structure Reader where
  ahead : List Token
  position : Nat
  flags : Flags
  names : List (String × Nat)
  groups : List (Option Width)
  lookbehind : Option Nat
  asked : List (Nat × Nat)
  nested : Nat

abbrev Read := StateT Reader (Except Fault)

namespace Read

def failAt (position : Nat) (complaint : Complaint) : Read α :=
  throw (.complaint complaint (some position))

/-- Complains about what begins `back` characters before the token ahead. -/
def fail (complaint : Complaint) (back : Nat := 0) : Read α := do
  failAt ((← get).position - back) complaint

def peek : Read (Option Token) := return (← get).ahead.head?

def position : Read Nat := return (← get).position

/-- Refuses a backslash at the very end as soon as it is the token ahead. -/
def checkAhead : Read Unit := do
  if (← peek) = some .dangling then fail .danglingBackslash

def take : Read (Option Token) := do
  match (← get).ahead with
  | [] => return none
  | token :: rest =>
    modify fun r => { r with ahead := rest, position := r.position + token.length }
    checkAhead
    return some token

def accept (c : Char) : Read Bool := do
  if (← peek) = some (.plain c) then
    let _ ← take
    return true
  else return false

def takeWhile (accepts : Char → Bool) : Nat → Read (List Char)
  | 0 => return []
  | limit + 1 => do
    match ← peek with
    | some (.plain c) =>
      if accepts c then
        let _ ← take
        return c :: (← takeWhile accepts limit)
      else return []
    | _ => return []

def takeUntilFrom (terminator : Char) (what : String) (taken : List Char) : Nat → Read (List Char)
  | 0 => return taken
  | fuel + 1 => do
    match ← take with
    | none =>
      if taken = [] then fail (.missing what)
      else fail (.unterminatedName terminator) taken.length
    | some token =>
      if token = .plain terminator then
        if taken = [] then fail (.missing what) 1 else return taken
      else takeUntilFrom terminator what (taken ++ token.text) fuel

def takeUntil (terminator : Char) (what : String) : Read (List Char) := do
  takeUntilFrom terminator what [] ((← get).ahead.length + 1)

end Read

open Read

def isHexDigit (c : Char) : Bool :=
  Text.isAsciiDigit c.toNat || ('a' ≤ c && c ≤ 'f') || ('A' ≤ c && c ≤ 'F')

def isOctalDigit (c : Char) : Bool := '0' ≤ c && c ≤ '7'

def isDecimalDigit (c : Char) : Bool := Text.isAsciiDigit c.toNat

def hexDigitValue (c : Char) : Nat :=
  if isDecimalDigit c then c.toNat - 0x30
  else if c ≤ 'F' then c.toNat - 0x37
  else c.toNat - 0x57

def digitsValue (base : Nat) (digits : List Char) : Nat :=
  digits.foldl (fun value c => base * value + hexDigitValue c) 0

def controlEscape? : Char → Option Nat
  | 'a' => some 7
  | 'b' => some 8
  | 't' => some 9
  | 'n' => some 10
  | 'v' => some 11
  | 'f' => some 12
  | 'r' => some 13
  | '\\' => some 0x5C
  | _ => none

def categoryEscape? : Char → Option SetItem
  | 'd' => some (.category .digit false)
  | 'D' => some (.category .digit true)
  | 's' => some (.category .space false)
  | 'S' => some (.category .space true)
  | 'w' => some (.category .word false)
  | 'W' => some (.category .word true)
  | _ => none

def anchorEscape? : Char → Option Anchor
  | 'A' => some .textStart
  | 'b' => some .boundary
  | 'B' => some .noBoundary
  | 'Z' => some .textEnd
  | _ => none

/-- A code point as a fixed number of hexadecimal digits behind `\x`, `\u` or `\U`. -/
def readHexEscape (letter : Char) (width : Nat) : Read Nat := do
  let digits ← takeWhile isHexDigit width
  let escape := '\\' :: letter :: digits
  if digits.length ≠ width then
    fail (.incompleteEscape (String.ofList escape)) escape.length
  let code := digitsValue 16 digits
  if 0x10FFFF < code then fail (.badEscape (String.ofList escape)) escape.length
  return code

def readOctal (digits : List Char) : Read Nat := do
  let escape := '\\' :: digits
  let code := digitsValue 8 digits
  if 0o377 < code then fail (.octalTooLarge (String.ofList escape)) escape.length
  return code

section
variable [Host]

/-- A character by name. -/
def readNamedEscape : Read Nat := do
  if !(← accept '{') then fail (.missing "\x7b")
  let name ← takeUntil '}' "character name"
  let some c := Host.charNamed? (String.ofList name)
    | fail (.unknownCharacterName (String.ofList name)) (name.length + 4)
  return c.toNat

/-- The escapes for one character that mean the same inside and outside a set. -/
def readCharEscape (c : Char) : Read Nat := do
  match c with
  | 'x' => readHexEscape c 2
  | 'u' => readHexEscape c 4
  | 'U' => readHexEscape c 8
  | 'N' => readNamedEscape
  | _ =>
    if isDecimalDigit c || Text.isAsciiLetter c.toNat then
      fail (.badEscape (String.ofList ['\\', c])) 2
    return c.toNat

def readSetEscape (c : Char) : Read SetItem := do
  if let some code := controlEscape? c then return .char code
  if let some item := categoryEscape? c then return item
  if isOctalDigit c then return .char (← readOctal (c :: (← takeWhile isOctalDigit 2)))
  return .char (← readCharEscape c)

def closedGroup? (number : Nat) : Read (Option Width) :=
  return ((← get).groups[number]?).join

/-- Inside a lookbehind only groups closed before it may be referred to. -/
def checkLookbehind (number : Nat) : Read Unit := do
  if let some first := (← get).lookbehind then
    if (← closedGroup? number).isNone then fail .openGroup
    if first ≤ number then fail .lookbehindGroup

/-- A reference to a group by number, or a character by three octal digits. -/
def readNumberEscape (c : Char) : Read Expr := do
  let second ← takeWhile isDecimalDigit 1
  if isOctalDigit c && second.all isOctalDigit && second ≠ [] then
    if let [third] ← takeWhile isOctalDigit 1 then
      return .char (← readOctal (c :: second ++ [third])) false
  let digits := c :: second
  let number := digitsValue 10 digits
  if (← get).groups.length ≤ number then fail (.noSuchGroup number) digits.length
  if (← closedGroup? number).isNone then fail .openGroup (digits.length + 1)
  checkLookbehind number
  return .reference number

def readEscape (c : Char) : Read Expr := do
  if let some item := categoryEscape? c then return .set [item] false
  if let some anchor := anchorEscape? c then return .anchor anchor
  if let some code := controlEscape? c then return .char code false
  if c = '0' then return .char (← readOctal (c :: (← takeWhile isOctalDigit 2))) false
  if isDecimalDigit c then readNumberEscape c
  else return .char (← readCharEscape c) false

def readSetMember (token : Token) : Read SetItem :=
  match token with
  | .escaped c => readSetEscape c
  | .plain c => return .char c.toNat
  | .dangling => return .char 0x5C

/-- The members of a set up to its closing bracket, the last first; `start` is where the set began. -/
def readSetFrom (start : Nat) (items : List SetItem) : Nat → Read (List SetItem)
  | 0 => return items
  | fuel + 1 => do
    let some this ← take | failAt start .unterminatedSet
    if this = .plain ']' && items ≠ [] then return items
    let low ← readSetMember this
    if !(← accept '-') then readSetFrom start (low :: items) fuel
    else
      let some that ← take | failAt start .unterminatedSet
      if that = .plain ']' then return .char '-'.toNat :: low :: items
      let high ← readSetMember that
      let bad := Complaint.badRange (String.ofList this.text) (String.ofList that.text)
      match low, high with
      | .char from', .char to' =>
        if to' < from' then fail bad (this.length + 1 + that.length)
        readSetFrom start (.range from' to' :: items) fuel
      | _, _ => fail bad (this.length + 1 + that.length)

/-- A set, behind its opening bracket. A set of one character is that character. -/
def readSet : Read Expr := do
  let start := (← position) - 1
  let negated ← accept '^'
  let items ← readSetFrom start [] ((← get).ahead.length + 1)
  match items.reverse.eraseDups with
  | [.char code] => return .char code negated
  | items => return .set items negated

def boundLimit : Nat := 4294967295

/-- A loop bound, `absent` when no digits are there. -/
def boundOf (digits : List Char) : Except Fault (Option Nat) :=
  if digits = [] then .ok none
  else if Text.Integer.digitLimit < digits.length then .error (.longBound digits.length)
  else
    let bound := digitsValue 10 digits
    if boundLimit ≤ bound then .error .hugeBound else .ok (some bound)

/-- The bounds of a loop behind its opening brace; without the closing one there is no loop, and nothing is
taken. -/
def readBounds : Read (Option (Nat × Option Nat)) := do
  let before ← get
  if (← peek) = some (.plain '}') then return none
  let fuel := before.ahead.length
  let low ← takeWhile isDecimalDigit fuel
  let high ← if ← accept ',' then takeWhile isDecimalDigit fuel else pure low
  if ← accept '}' then
    let least := (← boundOf low).getD 0
    let most ← boundOf high
    if most.any (· < least) then failAt before.position .boundsSwapped
    return some (least, most)
  else
    set before
    return none

def readMode : Read Mode := do
  if ← accept '?' then return .lazy
  if ← accept '+' then return .possessive
  return .greedy

def checkGroupName (name : List Char) : Read Unit := do
  if !Text.isIdentifier name then fail (.badGroupName (String.ofList name)) (name.length + 1)

def namedGroup? (name : List Char) : Read (Option Nat) :=
  return ((← get).names.find? fun entry => entry.1 == String.ofList name).map (·.2)

def readNamedReference : Read Expr := do
  let name ← takeUntil ')' "group name"
  checkGroupName name
  let some number ← namedGroup? name | fail (.unknownGroupName (String.ofList name)) (name.length + 1)
  if (← closedGroup? number).isNone then fail .openGroup (name.length + 1)
  checkLookbehind number
  return .reference number

/-- The group that a condition asks for, by name or by number. A number may be that of a later group. -/
def readCondition : Read Nat := do
  let name ← takeUntil ')' "group name"
  let back := name.length + 1
  let text := String.ofList name
  let number ←
    if Text.isIdentifier name then
      match ← namedGroup? name with
      | some number => pure number
      | none => fail (.unknownGroupName text) back
    else match Text.Integer.read? text with
      | none => fail (.badGroupName text) back
      | some value =>
        if value < 0 then fail (.badGroupName text) back
        else if value = 0 then fail .badGroupNumber back
        else if 1073741823 ≤ value then fail (.noSuchGroup value.toNat) back
        else
          modify fun r =>
            if r.asked.any (·.1 == value.toNat) then r
            else { r with asked := r.asked ++ [(value.toNat, r.position - back)] }
          pure value.toNat
  checkLookbehind number
  return number

/-- The complaint about a character where a flag or `expected` should be. -/
def flagComplaint (token : Token) (expected : String) : Complaint :=
  match token with
  | .plain c => if Text.isLetter c.toNat then .unknownFlag else .missing expected
  | _ => .missing expected

def Token.flag? : Token → Option Flag
  | .plain c => Flag.ofChar? c
  | _ => none

def readAdded (added : Flags) (flag : Flag) : Nat → Read (Flags × Token)
  | 0 => return (added, .dangling)
  | fuel + 1 => do
    if flag = .locale then fail .localeFlag
    let added := flag :: added
    if flag.isAlphabet && added.any (fun other => other.isAlphabet && other ≠ flag) then
      fail .clashingFlags
    let some token ← take | fail (.missing "-, : or )")
    if token = .plain ')' || token = .plain '-' || token = .plain ':' then return (added, token)
    match token.flag? with
    | some next => readAdded added next fuel
    | none => fail (flagComplaint token "-, : or )") token.length

def readRemoved (removed : Flags) (flag : Flag) : Nat → Read Flags
  | 0 => return removed
  | fuel + 1 => do
    if flag.isAlphabet then fail .alphabetFlagOff
    let removed := flag :: removed
    let some token ← take | fail (.missing ":")
    if token = .plain ':' then return removed
    match token.flag? with
    | some next => readRemoved removed next fuel
    | none => fail (flagComplaint token ":") token.length

/-- Flags behind `(?`, of which `first` is taken already. Without a colon they hold for the whole expression,
and there is nothing to answer. -/
def readFlags (first : Token) : Read (Option (Flags × Flags)) := do
  let fuel := (← get).ahead.length + 1
  let (added, token) ← match first.flag? with
    | some flag => readAdded [] flag fuel
    | none => pure ([], first)
  if token = .plain ')' then
    modify fun r => { r with flags := r.flags ++ added }
    return none
  if added.any Flag.isGlobal then fail .globalFlagOn 1
  let removed ←
    if token = .plain '-' then do
      let some next ← take | fail (.missing "flag")
      match next.flag? with
      | some flag => readRemoved [] flag fuel
      | none => fail (flagComplaint next "flag") next.length
    else pure []
  if removed.any Flag.isGlobal then fail .globalFlagOff 1
  if added.any removed.contains then fail .flagOnAndOff 1
  return some (added, removed)

/-- Skips to the parenthesis that ends a comment begun at `start`. -/
def skipComment (start : Nat) : Nat → Read Unit
  | 0 => return
  | fuel + 1 => do
    match ← take with
    | none => failAt start .unterminatedComment
    | some token => if token = .plain ')' then return else skipComment start fuel

def skipLine : Nat → Read Unit
  | 0 => return
  | fuel + 1 => do
    match ← take with
    | none => return
    | some token => if token = .plain '\n' then return else skipLine fuel

def openGroup (name : Option (List Char)) : Read Nat := do
  let number := (← get).groups.length
  if let some name := name then
    if let some earlier ← namedGroup? name then
      fail (.redefinedGroup (String.ofList name) number earlier) (name.length + 1)
    modify fun r => { r with names := r.names ++ [(String.ofList name, number)] }
  modify fun r => { r with groups := r.groups ++ [none] }
  return number

def widthOf (groups : List (Option Width)) (number : Nat) : Width :=
  ((groups[number]?).join).getD (.exactly 0)

def closeGroup (number : Nat) (body : List Expr) : Read Unit :=
  modify fun r =>
    { r with groups := r.groups.set number (some ((Expr.ofItems body).width (widthOf r.groups))) }

/-- An item of a sequence, or a group that neither captures nor changes flags and is dissolved at the end. -/
inductive Piece
  | item (expr : Expr)
  | bundle (items : List Expr)

def Piece.items : Piece → List Expr
  | item expr => [expr]
  | bundle items => items

/-- What a loop repeats: the last piece before it, if that can be repeated. -/
def Piece.body? : Option Piece → Except Complaint Expr
  | none => .error .nothingToRepeat
  | some (.item (.anchor _)) => .error .nothingToRepeat
  | some (.item (.loop ..)) => .error .multipleRepeat
  | some (.item expr) => .ok expr
  | some (.bundle items) => .ok (.ofItems items)

/-- Puts a loop in the place of the last piece; `start` is where its sign stands. -/
def readLoop (start : Nat) (pieces : List Piece) (min : Nat) (max : Option Nat) : Read (List Piece) := do
  match Piece.body? pieces.head? with
  | .error complaint => failAt start complaint
  | .ok body => return .item (.loop (← readMode) min max body) :: pieces.tail

inductive Opening
  | nothing
  | whole
  | reference (expr : Expr)
  | capture (name : Option (List Char))
  | inner (added removed : Flags)
  | atomic
  | look (behind negated : Bool)
  | conditional

/-- Reads how a group opens; `start` is where its parenthesis stands. -/
def readOpening (start : Nat) : Read Opening := do
  if !(← accept '?') then return .capture none
  let some token ← take | fail .unexpectedEnd
  match token with
  | .plain 'P' =>
    if ← accept '<' then
      let name ← takeUntil '>' "group name"
      checkGroupName name
      return .capture (some name)
    else if ← accept '=' then return .reference (← readNamedReference)
    else
      let some next ← take | fail .unexpectedEnd
      fail (.unknownExtension (String.ofList ('P' :: next.text))) (next.length + 2)
  | .plain ':' => return .inner [] []
  | .plain '#' =>
    skipComment start ((← get).ahead.length + 1)
    return .nothing
  | .plain '=' => return .look false false
  | .plain '!' => return .look false true
  | .plain '<' =>
    let some next ← take | fail .unexpectedEnd
    if next = .plain '=' then return .look true false
    else if next = .plain '!' then return .look true true
    else fail (.unknownExtension (String.ofList ('<' :: next.text))) (next.length + 2)
  | .plain '(' => return .conditional
  | .plain '>' => return .atomic
  | token =>
    if token.flag?.isSome || token = .plain '-' then
      match ← readFlags token with
      | none => return .whole
      | some (added, removed) => return .inner added removed
    else fail (.unknownExtension (String.ofList token.text)) (token.length + 1)

def expectClose (start : Nat) : Read Unit := do
  if !(← accept ')') then failAt start .unterminatedGroup

/-- Reads what stands inside a group, if the host has room for it. -/
def inGroup (body : Read α) : Read α := do
  if Host.nesting < (← get).nested then throw .nestedTooDeep
  modify fun r => { r with nested := r.nested + 1 }
  let inside ← body
  modify fun r => { r with nested := r.nested - 1 }
  return inside

def isLayout (c : Char) : Bool := Text.isAsciiBlank c.toNat

mutual

/-- Alternatives up to a closing parenthesis or the end. At the top, flags for the whole expression may stand
before the first one. -/
def readAlternatives : Nat → (top verbose : Bool) → (first : Bool) → Read (List (List Expr))
  | 0, _, _, _ => return []
  | fuel + 1, top, verbose, first => do
    let items ← readSequence fuel (top && first) verbose []
    if ← accept '|' then
      let verbose ← if top then pure ((← get).flags.contains .verbose) else pure verbose
      return items :: (← readAlternatives fuel top verbose false)
    else return [items]

/-- A sequence; the pieces read so far come last first. The fuel exceeds the tokens ahead. -/
def readSequence : Nat → (first verbose : Bool) → List Piece → Read (List Expr)
  | 0, _, _, pieces => return pieces.reverse.flatMap Piece.items
  | fuel + 1, first, verbose, pieces => do
    let start ← position
    match ← peek with
    | none | some (.plain '|') | some (.plain ')') => return pieces.reverse.flatMap Piece.items
    | some token =>
      let _ ← take
      match token with
      | .dangling => readSequence fuel first verbose pieces
      | .escaped c => readSequence fuel first verbose (.item (← readEscape c) :: pieces)
      | .plain c =>
        if verbose && isLayout c then readSequence fuel first verbose pieces
        else if verbose && c == '#' then
          skipLine ((← get).ahead.length + 1)
          readSequence fuel first verbose pieces
        else match c with
        | '[' => readSequence fuel first verbose (.item (← readSet) :: pieces)
        | '.' => readSequence fuel first verbose (.item .any :: pieces)
        | '^' => readSequence fuel first verbose (.item (.anchor .lineStart) :: pieces)
        | '$' => readSequence fuel first verbose (.item (.anchor .lineEnd) :: pieces)
        | '?' => readSequence fuel first verbose (← readLoop start pieces 0 (some 1))
        | '*' => readSequence fuel first verbose (← readLoop start pieces 0 none)
        | '+' => readSequence fuel first verbose (← readLoop start pieces 1 none)
        | '{' =>
          match ← readBounds with
          | none => readSequence fuel first verbose (.item (.char c.toNat false) :: pieces)
          | some (min, max) => readSequence fuel first verbose (← readLoop start pieces min max)
        | '(' =>
          match ← readOpening start with
          | .nothing => readSequence fuel first verbose pieces
          | .whole =>
            if !first || !pieces.isEmpty then failAt start .flagsNotFirst
            readSequence fuel first ((← get).flags.contains .verbose) pieces
          | .reference expr => readSequence fuel first verbose (.item expr :: pieces)
          | opening =>
            let piece ← readGroup fuel start verbose opening
            readSequence fuel first verbose (piece :: pieces)
        | _ => readSequence fuel first verbose (.item (.char c.toNat false) :: pieces)

/-- The rest of a group, behind its opening. -/
def readGroup : Nat → (start : Nat) → (verbose : Bool) → Opening → Read Piece
  | 0, _, _, _ => return .bundle []
  | fuel + 1, start, verbose, opening => do
    match opening with
    | .look behind negated =>
      let outer := (← get).lookbehind
      if behind && outer.isNone then modify fun r => { r with lookbehind := some r.groups.length }
      let body := joinAlternatives (← inGroup (readAlternatives fuel false verbose false))
      if behind && outer.isNone then modify fun r => { r with lookbehind := none }
      expectClose start
      return .item (.look behind negated (.ofItems body))
    | .conditional =>
      let number ← readCondition
      let yes ← inGroup (readSequence fuel false verbose [])
      let no ←
        if ← accept '|' then do
          let items ← inGroup (readSequence fuel false verbose [])
          if (← peek) = some (.plain '|') then fail .tooManyBranches
          pure items
        else pure []
      expectClose start
      return .item (.conditional number (.ofItems yes) (.ofItems no))
    | .capture name =>
      let number ← openGroup name
      let body := joinAlternatives (← inGroup (readAlternatives fuel false verbose false))
      expectClose start
      closeGroup number body
      return .item (.group (some number) [] [] (.ofItems body))
    | .inner added removed =>
      let inside := (verbose || added.contains .verbose) && !removed.contains .verbose
      let body := joinAlternatives (← inGroup (readAlternatives fuel false inside false))
      expectClose start
      if added.isEmpty && removed.isEmpty then return .bundle body
      else return .item (.group none added removed (.ofItems body))
    | .atomic =>
      let body := joinAlternatives (← inGroup (readAlternatives fuel false verbose false))
      expectClose start
      return .item (.atomic (.ofItems body))
    | _ => return .bundle []

end

/-- A whole expression, the flags that hold for all of it, and the widths of its groups. -/
structure Reading where
  expr : Expr
  flags : Flags
  groups : List (Option Width)

def readAll : Read Reading := do
  checkAhead
  let fuel := 3 * ((← get).ahead.length + 2)
  let body := joinAlternatives (← readAlternatives fuel true false true)
  let done ← get
  if done.flags.contains .ascii && done.flags.contains .unicode then throw .twoAlphabets
  if done.ahead ≠ [] then fail .unbalanced
  if let some (number, place) := done.asked.find? (fun entry => done.groups.length ≤ entry.1) then
    failAt place (.noSuchGroup number)
  return ⟨.ofItems body, if done.flags.contains .ascii then done.flags else .unicode :: done.flags, done.groups⟩

def read (source : List Char) : Except Fault Reading :=
  readAll.run' ⟨tokens source, 0, [], [], [none], none, [], 0⟩

end

end DomainRules.Regex
