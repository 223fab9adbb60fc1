import DomainRules.Builder
import DomainRules.RuleText.Lines
import DomainRules.StringStore

/-! Reading rule text: a capacity hint on the first line that is not empty, then rule lines, comments and
empty lines. The first bad line ends the reading. -/

namespace DomainRules.RuleText

structure Progress where
  builder : Builder
  strings : StringStore
  lines : Nat := 0
  rules : Nat := 0

def Progress.start (options : Options) (hint : CapacityHint) : Progress :=
  ⟨.new options hint, .new hint.total options.storage, 0, 0⟩

def isComment (line : String) : Bool := line.toList.head? == some '#'

/-- The kind and the payload of a rule line: what stands before the first colon, and all behind it. -/
def ruleOfLine? (line : String) : Option (Kind × String) :=
  let chars := line.toList
  let name := chars.takeWhile (· ≠ ':')
  match chars.drop name.length with
  | [] => none
  | _ :: payload => (Kind.ofName? (String.ofList name)).map fun kind => (kind, String.ofList payload)

variable [Regex.Host]

/-- Reads a line. A refused rule has passed through the string store already. -/
def Progress.read (progress : Progress) (line : String) : Progress × Option Fault :=
  let progress := { progress with lines := progress.lines + 1 }
  if line.isEmpty || isComment line then (progress, none)
  else match ruleOfLine? line with
    | none => (progress, some (.invalidLine line))
    | some (kind, payload) =>
      let (strings, kept) := progress.strings.keep payload
      let progress := { progress with strings }
      match progress.builder.insert kind kept with
      | .error fault => (progress, some fault)
      | .ok builder => ({ progress with builder, rules := progress.rules + 1 }, none)

/-- Reads lines, each of which may turn out to be unreadable, up to the first fault. -/
def Progress.readAll (readable : α → Except Fault String) :
    Progress → List α → Progress × Option Fault
  | progress, [] => (progress, if progress.rules = 0 then some .emptyRules else none)
  | progress, raw :: others =>
    match readable raw with
    | .error fault => (progress, some fault)
    | .ok line =>
      match progress.read line with
      | (progress, some fault) => (progress, some fault)
      | (progress, none) => progress.readAll readable others

/-- The hint in the first line that is not empty, and the lines behind it; if that line holds none, all lines
from it on. -/
def takeHint (readable : α → Except Fault String) : List α → Except Fault (CapacityHint × List α)
  | [] => .ok (.unknown, [])
  | raw :: others => do
    let line ← readable raw
    if line.isEmpty then takeHint readable others
    else match CapacityHint.parse line with
      | .error flaw => .error (.malformedHint line flaw)
      | .ok (some hint) => .ok (hint, others)
      | .ok none => .ok (.unknown, raw :: others)

/-- Where reading ends and why, unless the hint is refused at once. -/
abbrev Attempt := Except Fault (Progress × Option Fault)

def attempt (readable : α → Except Fault String) (source : List α) (useHint : Bool)
    (options : Options) : Attempt := do
  let (hint, lines) ← if useHint then takeHint readable source else pure (.unknown, source)
  return (Progress.start options hint).readAll readable lines

def Attempt.builder (attempt : Attempt) : Except Fault Builder :=
  match attempt with
  | .error fault => .error fault
  | .ok (_, some fault) => .error fault
  | .ok (progress, none) => .ok progress.builder

/-- What rule text comes from: a text, its bytes, lines with or without terminators, or lines of bytes that
are decoded one by one. -/
inductive Source
  | text (text : String)
  | bytes (bytes : List UInt8)
  | lines (lines : List String)
  | byteLines (lines : List (List UInt8))

def decode (bytes : List UInt8) : Except Fault String :=
  (Text.Utf8.decode bytes).mapError Fault.undecodable

def Source.attempt (source : Source) (useHint : Bool) (options : Options) : Attempt :=
  match source with
  | text whole => RuleText.attempt .ok (RuleText.lines whole) useHint options
  | bytes raw => do
    let whole ← decode raw
    RuleText.attempt .ok (RuleText.lines whole) useHint options
  | lines given => RuleText.attempt (fun line => .ok (withoutTerminator line)) given useHint options
  | byteLines given =>
    RuleText.attempt (fun line => withoutTerminator <$> decode line) given useHint options

def parse (source : Source) (useHint : Bool) (options : Options) : Except Fault Builder :=
  (source.attempt useHint options).builder

def build (source : Source) (useHint : Bool) (options : Options) : Except Fault RuleSet := do
  (← parse source useHint options).freeze.1

end DomainRules.RuleText
