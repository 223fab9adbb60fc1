import DomainRules.Text.Integer
import DomainRules.Text.Quoted

/-! Command line grammars: switches, which may be abbreviated, and operands, which are filled from left to
right as far as they go. -/

namespace DomainRules.CommandLine

inductive Takes
  | nothing
  | help
  | choice (options : List String)
  | number
  deriving DecidableEq

structure Switch where
  names : List String
  takes : Takes
  deriving DecidableEq

/-- How many words an operand takes; a command takes all that follows it. -/
inductive Arity
  | one
  | optional
  | many
  | command (names : List String)
  deriving DecidableEq

structure Operand where
  name : String
  arity : Arity
  deriving DecidableEq

structure Grammar where
  program : String
  switches : List Switch
  operands : List Operand

inductive Value
  | set
  | word (text : String)
  | number (n : Int)
  | words (texts : List String)
  deriving DecidableEq

/-- Why words do not fit a grammar. An `argument` is what a complaint calls a switch or an operand. -/
inductive Problem
  | ambiguous (given : String) (names : List String)
  | expectsOne (argument : String)
  | ignored (argument value : String)
  | notAChoice (argument value : String) (choices : List String)
  | notANumber (argument value : String)
  | missing (operands : List String)
  | unrecognized (words : List String)
  deriving DecidableEq

def Problem.message : Problem → String
  | .ambiguous given names =>
    "ambiguous option: " ++ given ++ " could match " ++ ", ".intercalate names
  | .expectsOne argument => "argument " ++ argument ++ ": expected one argument"
  | .ignored argument value =>
    "argument " ++ argument ++ ": ignored explicit argument " ++ Text.quoted value
  | .notAChoice argument value choices =>
    "argument " ++ argument ++ ": invalid choice: " ++ Text.quoted value ++ " (choose from "
      ++ ", ".intercalate (choices.map Text.quoted) ++ ")"
  | .notANumber argument value =>
    "argument " ++ argument ++ ": invalid int value: " ++ Text.quoted value
  | .missing operands => "the following arguments are required: " ++ ", ".intercalate operands
  | .unrecognized words => "unrecognized arguments: " ++ " ".intercalate words

/-- Reading ends early for help, or because of a problem. -/
inductive Stop
  | help (usage : String)
  | refused (program : String) (problem : Problem)
  deriving DecidableEq

def Switch.title (switch : Switch) : String := "/".intercalate switch.names

/-- A switch and a stand-in for its word, which may be left out. -/
def Switch.usage (switch : Switch) : String :=
  let name := switch.names.head?.getD ""
  let word := match switch.takes with
    | .choice options => " \x7b" ++ ",".intercalate options ++ "\x7d"
    | .number => " N"
    | _ => ""
  "[" ++ name ++ word ++ "]"

def Operand.usage (operand : Operand) : String :=
  match operand.arity with
  | .one => operand.name
  | .optional => "[" ++ operand.name ++ "]"
  | .many => operand.name ++ " [" ++ operand.name ++ " ...]"
  | .command names => "\x7b" ++ ",".intercalate names ++ "\x7d ..."

/-- What a switch is bound as: the last of its names. -/
def Switch.key (switch : Switch) : String := switch.names.getLast?.getD ""

def Switch.wantsWord (switch : Switch) : Bool :=
  switch.takes ≠ .nothing && switch.takes ≠ .help

/-- A value in the same word as its switch, behind an equals sign or directly behind a letter. -/
structure Attached where
  equals : Bool
  text : String
  deriving DecidableEq

/-- What a word is taken for: an operand, the end of the switches, or a switch by its full name. A word that
only looks like a switch is a switch of no meaning. -/
inductive Role
  | operand
  | dashes
  | switch (found : Option Switch) (name : String) (attached : Option Attached)
  deriving DecidableEq

def Role.isSwitch : Role → Bool
  | .switch .. => true
  | _ => false

namespace Grammar

def usage (grammar : Grammar) : String :=
  " ".intercalate ("usage:" :: grammar.program :: grammar.switches.map Switch.usage
    ++ grammar.operands.map Operand.usage)

def refuse (grammar : Grammar) (problem : Problem) : Except Stop α :=
  .error (.refused grammar.program problem)

def names (grammar : Grammar) : List (String × Switch) :=
  grammar.switches.flatMap fun switch => switch.names.map fun name => (name, switch)

def find? (grammar : Grammar) (name : String) : Option Switch :=
  (grammar.names.find? (·.1 == name)).map (·.2)

/-- A text up to its first equals sign, and what follows that, if there is one. -/
def cutAtEquals (text : String) : String × Option String :=
  let chars := text.toList
  let head := chars.takeWhile (· ≠ '=')
  (String.ofList head, match chars.drop head.length with
    | [] => none
    | _ :: tail => some (String.ofList tail))

def startsWith (whole part : String) : Bool := part.toList.isPrefixOf whole.toList

/-- The switches that a word may abbreviate. Behind two dashes any unfinished name will do; behind one dash a
letter may have its value attached. -/
def abbreviated (grammar : Grammar) (word : String) : List (Switch × String × Option Attached) :=
  if startsWith word "--" then
    let (head, value) := cutAtEquals word
    (grammar.names.filter fun entry => startsWith entry.1 head).map fun entry =>
      (entry.2, entry.1, value.map (⟨true, ·⟩))
  else
    let letter := String.ofList (word.toList.take 2)
    let value := String.ofList (word.toList.drop 2)
    grammar.names.filterMap fun entry =>
      if entry.1 = letter then some (entry.2, entry.1, some ⟨false, value⟩)
      else if startsWith entry.1 word then some (entry.2, entry.1, none)
      else none

/-- Digits, or a point with digits behind it, behind a minus sign; a line feed may follow. -/
def isNegativeNumber (word : String) : Bool :=
  match word.toList with
  | '-' :: rest =>
    let rest := if rest.getLast? = some '\n' then rest.dropLast else rest
    let isDigit (c : Char) := Text.isDecimal c.toNat
    match rest.dropWhile isDigit with
    | [] => rest ≠ []
    | '.' :: fraction => fraction ≠ [] && fraction.all isDigit
    | _ => false
  | _ => false

def roleOf (grammar : Grammar) (word : String) : Except Stop Role :=
  if !startsWith word "-" || word = "-" then .ok .operand
  else match grammar.find? word with
    | some switch => .ok (.switch (some switch) word none)
    | none =>
      let byEquals := match cutAtEquals word with
        | (head, some value) => (grammar.find? head).map fun switch => (switch, head, value)
        | _ => none
      match byEquals with
      | some (switch, head, value) => .ok (.switch (some switch) head (some ⟨true, value⟩))
      | none =>
        match grammar.abbreviated word with
        | [(switch, name, attached)] => .ok (.switch (some switch) name attached)
        | first :: second :: more =>
          grammar.refuse (.ambiguous word ((first :: second :: more).map (·.2.1)))
        | [] =>
          if isNegativeNumber word || word.toList.contains ' ' then .ok .operand
          else .ok (.switch none word none)

/-- The words with their roles. Behind two dashes alone every word is an operand. -/
def roles (grammar : Grammar) : List String → Except Stop (List (String × Role))
  | [] => .ok []
  | word :: words =>
    if word = "--" then .ok ((word, .dashes) :: words.map fun other => (other, .operand))
    else do
      let role ← grammar.roleOf word
      return (word, role) :: (← grammar.roles words)

end Grammar

def downFrom (high low : Nat) : List Nat := (List.range (high + 1 - low)).map (high - ·)

/-- How many words an operand may take, the most first. Dashes before and behind a word go with it. -/
def Arity.sizes (arity : Arity) (roles : List Role) : List Nat :=
  let before := (roles.takeWhile (· = .dashes)).length
  match arity, roles.drop before with
  | .one, .operand :: rest =>
    downFrom (before + 1 + (rest.takeWhile (· = .dashes)).length) (before + 1)
  | .optional, .operand :: rest =>
    downFrom (before + 1 + (rest.takeWhile (· = .dashes)).length) 0
  | .optional, _ => downFrom before 0
  | .many, .operand :: rest =>
    downFrom (before + 1 + (rest.takeWhile fun role => !role.isSwitch).length) (before + 1)
  | .command _, .operand :: rest => downFrom (before + 1 + rest.length) (before + 1)
  | _, _ => []

/-- Sizes for operands in a row, earlier ones as large as possible. -/
def fit? : List Arity → List Role → Option (List Nat)
  | [], _ => some []
  | arity :: arities, roles =>
    (arity.sizes roles).findSome? fun size => (fit? arities (roles.drop size)).map (size :: ·)

/-- Sizes for as many of the first operands as fit. -/
def fitSome (arities : List Arity) (roles : List Role) : List Nat :=
  ((downFrom arities.length 1).findSome? fun count => fit? (arities.take count) roles).getD []

/-- What has been bound, the operands that wait for words, and the words that nothing takes. -/
structure Reading where
  bound : List (String × Value)
  waiting : List Operand
  extra : List String

namespace Reading

def bind (reading : Reading) (name : String) (value : Value) : Reading :=
  { reading with bound := reading.bound ++ [(name, value)] }

def value? (reading : Reading) (name : String) : Option Value :=
  (reading.bound.reverse.find? (·.1 == name)).map (·.2)

def word? (reading : Reading) (name : String) : Option String :=
  match reading.value? name with
  | some (.word text) => some text
  | _ => none

def number? (reading : Reading) (name : String) : Option Int :=
  match reading.value? name with
  | some (.number n) => some n
  | _ => none

def words (reading : Reading) (name : String) : List String :=
  match reading.value? name with
  | some (.words texts) => texts
  | _ => []

def has (reading : Reading) (name : String) : Bool := (reading.value? name).isSome

end Reading

namespace Grammar

def bindSwitch (grammar : Grammar) (reading : Reading) (switch : Switch) (word : String) :
    Except Stop Reading :=
  match switch.takes with
  | .help => .error (.help grammar.usage)
  | .nothing => .ok (reading.bind switch.key .set)
  | .choice options =>
    if options.contains word then .ok (reading.bind switch.key (.word word))
    else grammar.refuse (.notAChoice switch.title word options)
  | .number =>
    match Text.Integer.read? word with
    | some n => .ok (reading.bind switch.key (.number n))
    | none => grammar.refuse (.notANumber switch.title word)

/-- Binds an operand to its words. The first pair of dashes among them is dropped, except for a command. -/
def bindOperand (grammar : Grammar) (reading : Reading) (operand : Operand) (words : List String) :
    Except Stop Reading :=
  match operand.arity with
  | .command names =>
    match words with
    | [] => .ok reading
    | name :: _ =>
      if names.contains name then .ok (reading.bind operand.name (.words words))
      else grammar.refuse (.notAChoice operand.name name names)
  | .many => .ok (reading.bind operand.name (.words (words.erase "--")))
  | _ =>
    match words.erase "--" with
    | [] => .ok reading
    | word :: _ => .ok (reading.bind operand.name (.word word))

/-- Fills as many waiting operands as the words ahead allow. -/
def fill (grammar : Grammar) (reading : Reading) (ahead : List (String × Role)) :
    Except Stop (Reading × List (String × Role)) :=
  let sizes := fitSome (reading.waiting.map (·.arity)) (ahead.map (·.2))
  let filled := reading.waiting.zip sizes
  let start := { reading with waiting := reading.waiting.drop sizes.length }
  filled.foldlM
    (fun (reading, ahead) (operand, size) => do
      let reading ← grammar.bindOperand reading operand ((ahead.take size).map (·.1))
      return (reading, ahead.drop size))
    (start, ahead)

/-- Takes a switch and the word that it wants. Switches without words may share one dash: `earlier` are those
before this one, which take effect once the last one is complete. -/
def takeSwitch (grammar : Grammar) (reading : Reading) (ahead : List (String × Role)) :
    (fuel : Nat) → (earlier : List Switch) → Switch → String → Option Attached →
    Except Stop (Reading × List (String × Role))
  | 0, _, _, _, _ => .ok (reading, ahead)
  | fuel + 1, earlier, switch, name, attached => do
    let apply (last : List Switch) (word : String) (extra : List String) : Except Stop Reading := do
      let reading ← (earlier ++ last).foldlM (fun r s => grammar.bindSwitch r s word) reading
      return { reading with extra := reading.extra ++ extra }
    match attached with
    | none =>
      if switch.wantsWord then
        match ahead with
        | (word, .operand) :: others => return (← apply [switch] word [], others)
        | _ => grammar.refuse (.expectsOne switch.title)
      else return (← apply [switch] "" [], ahead)
    | some ⟨equals, text⟩ =>
      if switch.wantsWord then return (← apply [switch] text [], ahead)
      else if startsWith name "--" || text.isEmpty || equals || startsWith text "-" then
        grammar.refuse (.ignored switch.title text)
      else
        let next := "-" ++ String.ofList (text.toList.take 1)
        let left := text.toList.drop 1
        match grammar.find? next with
        | none => return (← apply [switch] "" ["-" ++ text], ahead)
        | some other =>
          let attached := match left with
            | [] => none
            | '=' :: value => some ⟨true, String.ofList value⟩
            | value => some ⟨false, String.ofList value⟩
          grammar.takeSwitch reading ahead fuel (earlier ++ [switch]) other next attached

/-- Fills operands and takes switches in turn, as long as there are switches ahead. -/
def readFrom (grammar : Grammar) : (fuel : Nat) → Reading → List (String × Role) →
    Except Stop (Reading × List (String × Role))
  | 0, reading, ahead => .ok (reading, ahead)
  | fuel + 1, reading, ahead => do
    if !ahead.any (·.2.isSwitch) then return (reading, ahead)
    let startsWithSwitch := (ahead.head?.map (·.2.isSwitch)).getD false
    let (reading, rest) ← if startsWithSwitch then pure (reading, ahead) else grammar.fill reading ahead
    if rest.length < ahead.length then grammar.readFrom fuel reading rest
    else
      let skipped := rest.takeWhile fun entry => !entry.2.isSwitch
      let reading := { reading with extra := reading.extra ++ skipped.map (·.1) }
      match rest.drop skipped.length with
      | (_, .switch (some switch) name attached) :: others =>
        let size := (attached.map (·.text.length)).getD 0
        let (reading, rest) ← grammar.takeSwitch reading others (size + 1) [] switch name attached
        grammar.readFrom fuel reading rest
      | (word, _) :: others =>
        grammar.readFrom fuel { reading with extra := reading.extra ++ [word] } others
      | [] => return (reading, [])

def isRequired (operand : Operand) : Bool :=
  match operand.arity with
  | .one | .many => true
  | _ => false

/-- Reads words. What nothing takes is left over in the reading. -/
def read (grammar : Grammar) (words : List String) : Except Stop Reading := do
  let ahead ← grammar.roles words
  let (reading, rest) ← grammar.readFrom (words.length + 1) ⟨[], grammar.operands, []⟩ ahead
  let (reading, rest) ← grammar.fill reading rest
  let reading := { reading with extra := reading.extra ++ rest.map fun (entry : String × Role) => entry.1 }
  let missing := reading.waiting.filter isRequired
  if missing.isEmpty then return reading
  else grammar.refuse (.missing (missing.map fun (operand : Operand) => operand.name))

end Grammar

end DomainRules.CommandLine
