import DomainRules.RuleText.Parse

/-! Rule text of any code points: which rules it holds, or why it is refused. Here it matters how payloads are stored, for
not every store takes those without a UTF-8 form. The rules are listed by lines; no index is made of them. -/

namespace DomainRules.LooseText

open Text (Loose Gap)

abbrev Rule := Kind × Loose

/-- The faults of a text; a rule that is stored may still be refused for what it says. -/
inductive Fault
  | emptyRules
  | malformedHint (line : Loose)
  | invalidLine (line : Loose)
  | unencodable (gap : Gap)
  | refused (cause : DomainRules.Fault)
  deriving DecidableEq

/-- The lines of a text without their terminators. -/
def lines (text : Loose) : List Loose :=
  (RuleText.runs (.char '\n') text).map (RuleText.dropMark (.char '\r'))

def isComment (line : Loose) : Bool := line.head? == some (.char '#')

def ruleOfLine? (line : Loose) : Option Rule :=
  let name := line.takeWhile (· ≠ .char ':')
  match line.drop name.length, Loose.strict name with
  | _ :: payload, .ok name => (Kind.ofName? name).map fun kind => (kind, payload)
  | _, _ => none

/-- Reads a line as a hint. One with a surrogate is none, for neither digits nor the trailer hold any. -/
def hintOf? (line : Loose) : Except Fault (Option CapacityHint) :=
  match line.strict with
  | .ok plain => (CapacityHint.parse plain).mapError fun _ => .malformedHint line
  | .error _ =>
    if (Loose.ofString CapacityHint.marker).isPrefixOf line then .error (.malformedHint line)
    else .ok none

/-- The hint in the first line that is not empty, and the lines behind it. -/
def takeHint : List Loose → Except Fault (CapacityHint × List Loose)
  | [] => .ok (.unknown, [])
  | line :: others =>
    if line.isEmpty then takeHint others
    else do
      match ← hintOf? line with
      | some hint => return (hint, others)
      | none => return (.unknown, line :: others)

def opening (text : Loose) (useHint : Bool) : Except Fault (CapacityHint × List Loose) :=
  if useHint then takeHint (lines text) else .ok (.unknown, lines text)

structure Progress where
  strings : StringStore
  rules : List Rule

variable (check : Rule → Except DomainRules.Fault Unit)

/-- Reads a line. A rule passes through the string store before it is checked. -/
def Progress.read (progress : Progress) (line : Loose) : Except Fault Progress :=
  if line.isEmpty || isComment line then .ok progress
  else match ruleOfLine? line with
    | none => .error (.invalidLine line)
    | some (kind, payload) => do
      let (strings, kept) := progress.strings.keepLoose payload
      let kept ← kept.mapError .unencodable
      (check (kind, kept)).mapError .refused
      return ⟨strings, progress.rules ++ [(kind, kept)]⟩

/-- The rules of a text, up to the first fault. -/
def rules (text : Loose) (useHint : Bool) (storage : Storage) : Except Fault (List Rule) := do
  let (hint, lines) ← opening text useHint
  let reached ← lines.foldlM (Progress.read check) ⟨.new hint.total storage, []⟩
  if reached.rules = [] then throw .emptyRules
  return reached.rules

end DomainRules.LooseText
