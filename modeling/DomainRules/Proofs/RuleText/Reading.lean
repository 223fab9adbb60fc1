import DomainRules.Proofs.Arena
import DomainRules.Proofs.Building
import DomainRules.RuleText.Parse

/-! What reading rule text amounts to: each line holds a rule or none, and the rules are taken one after the other.
String stores, hints and the builder do not matter to which rules there are. -/

namespace DomainRules

theorem StringStore.keep_snd (store : StringStore) (value : String) : (store.keep value).2 = value := by
  cases store with
  | asIs => rfl
  | clone => exact String.ofList_toList
  | arena pool => exact pool.store_snd value

theorem Kind.ofName?_eq_some {name : String} {kind : Kind} : ofName? name = some kind ↔ name = kind.name := by
  constructor
  · intro h
    obtain ⟨found, -⟩ := List.find?_eq_some_iff_append.mp h
    exact (eq_of_beq found).symm
  · rintro rfl
    exact ofName?_name kind

namespace RuleText

theorem drop_takeWhile_eq_cons {α : Type} [DecidableEq α] {mark c : α} {text behind : List α} :
    text.drop (text.takeWhile (· ≠ mark)).length = c :: behind ↔
      c = mark ∧ text = text.takeWhile (· ≠ mark) ++ mark :: behind := by
  induction text with
  | nil => simp
  | cons x text ih =>
    by_cases h : x = mark
    · simp [h, eq_comm]
    · simpa [h] using ih

theorem ruleOfLine?_eq_some {line payload : String} {kind : Kind} :
    ruleOfLine? line = some (kind, payload) ↔ line = kind.tag ++ payload := by
  constructor
  · intro h
    simp only [ruleOfLine?] at h
    split at h
    · contradiction
    · rename_i behind cut
      obtain ⟨_, whole⟩ := drop_takeWhile_eq_cons.mp cut
      simp only [Option.map_eq_some_iff, Kind.ofName?_eq_some, Prod.mk.injEq] at h
      obtain ⟨_, named, rfl, rfl⟩ := h
      rw [← String.toList_inj, whole, ← String.toList_ofList (l := List.takeWhile _ _), named]
      simp [Kind.tag]
  · rintro rfl
    have clean : ∀ c ∈ kind.name.toList, decide (c ≠ ':') = true := by cases kind <;> simp [Kind.name]
    have whole : (kind.tag ++ payload).toList = kind.name.toList ++ ':' :: payload.toList := by simp [Kind.tag]
    have name : (kind.tag ++ payload).toList.takeWhile (· ≠ ':') = kind.name.toList := by
      rw [whole, List.takeWhile_append_of_pos clean]
      simp
    rw [ruleOfLine?, name, whole, List.drop_left]
    simp [Kind.ofName?_name]

/-- A line that holds a rule: neither blank nor a comment, but a tag and a payload. -/
def IsRuleLine (rule : Rule) (line : String) : Prop :=
  line ≠ "" ∧ isComment line = false ∧ line = rule.1.tag ++ rule.2

section
variable {α : Type} (check : Rule → Except Fault Unit) (readable : α → Except Fault String)

/-- The rule in a line; a blank line and a comment hold none. -/
def ruleOf (line : String) : Except Fault (Option Rule) :=
  if line.isEmpty || isComment line then .ok none
  else match ruleOfLine? line with
    | none => .error (.invalidLine line)
    | some rule => (fun _ => some rule) <$> check rule

/-- The rules in lines, up to the first fault. -/
def rulesOf : List α → Except Fault (List Rule)
  | [] => .ok []
  | raw :: others => do
    let line ← readable raw
    let rule ← ruleOf check line
    let rules ← rulesOf others
    return rule.toList ++ rules

def required (rules : List Rule) : Except Fault (List Rule) := if rules = [] then .error .emptyRules else .ok rules

theorem required_eq_ok {rules found : List Rule} : required rules = .ok found ↔ rules = found ∧ rules ≠ [] := by
  unfold required
  split <;> simp_all

/-- The hint in front of lines, if it is wanted, and the lines behind it. -/
def opening (raw : List α) (useHint : Bool) : Except Fault (CapacityHint × List α) :=
  if useHint then takeHint readable raw else .ok (.unknown, raw)

def reading (raw : List α) (useHint : Bool) : Except Fault (CapacityHint × List Rule) := do
  let (hint, _) ← opening readable raw useHint
  let rules ← rulesOf check readable raw
  return (hint, ← required rules)

end

section
variable {α : Type} {check : Rule → Except Fault Unit} {readable : α → Except Fault String}

theorem isRuleLine_iff {rule : Rule} {line : String} (h : (line.isEmpty || isComment line) = false) :
    IsRuleLine rule line ↔ ruleOfLine? line = some rule := by
  obtain ⟨kind, payload⟩ := rule
  obtain ⟨filled, told⟩ := Bool.or_eq_false_iff.mp h
  have : line ≠ "" := by rintro rfl; simp at filled
  simp [IsRuleLine, this, told, ruleOfLine?_eq_some]

theorem ruleOf_eq_ok {line : String} {found : Option Rule} (h : ruleOf check line = .ok found) (rule : Rule) :
    rule ∈ found ↔ IsRuleLine rule line := by
  unfold ruleOf at h
  split at h
  · rename_i skipped
    cases h
    rcases Bool.or_eq_true_iff.mp skipped with blank | comment
    · simp [IsRuleLine, String.isEmpty_iff.mp blank]
    · simp [IsRuleLine, comment]
  · rename_i kept
    rw [isRuleLine_iff (Bool.eq_false_of_not_eq_true kept)]
    cases parsed : ruleOfLine? line with
    | none => simp [parsed] at h
    | some other =>
      rw [parsed] at h
      obtain ⟨-, -, rfl⟩ := map_eq_ok.mp h
      simp

/-- Lines that hold rules are the only ones that matter. -/
theorem rulesOf_eq_ok {raw : List α} {rules : List Rule} (h : rulesOf check readable raw = .ok rules) :
    ∃ lines, raw.mapM readable = .ok lines ∧ ∀ rule, rule ∈ rules ↔ ∃ line ∈ lines, IsRuleLine rule line := by
  induction raw generalizing rules with
  | nil =>
    cases h
    exact ⟨[], rfl, by simp⟩
  | cons raw others ih =>
    obtain ⟨line, read, h⟩ := bind_eq_ok.mp h
    obtain ⟨found, one, h⟩ := bind_eq_ok.mp h
    obtain ⟨more, rest, h⟩ := bind_eq_ok.mp h
    obtain rfl := pure_eq_ok.mp h
    obtain ⟨lines, reads, mem⟩ := ih rest
    refine ⟨line :: lines, by simp [read, reads], fun rule => ?_⟩
    simp [mem, ← ruleOf_eq_ok one]

theorem length_rulesOf_le {raw : List α} {rules : List Rule} (h : rulesOf check readable raw = .ok rules) : rules.length ≤ raw.length := by
  induction raw generalizing rules with
  | nil =>
    cases h
    rfl
  | cons first others ih =>
    obtain ⟨line, -, h⟩ := bind_eq_ok.mp h
    obtain ⟨found, -, h⟩ := bind_eq_ok.mp h
    obtain ⟨more, rest, h⟩ := bind_eq_ok.mp h
    obtain rfl := pure_eq_ok.mp h
    have one : found.toList.length ≤ 1 := by cases found <;> simp
    have others := ih rest
    simp only [List.length_append, List.length_cons]
    omega

theorem rulesOf_cons_of_none {raw : α} {line : String} (read : readable raw = .ok line)
    (bare : ruleOf check line = .ok none) (others : List α) :
    rulesOf check readable (raw :: others) = rulesOf check readable others := by
  rw [rulesOf, read, ok_bind, bare, ok_bind]
  simp

theorem isComment_of_hint {line : String} {hint : CapacityHint} (h : CapacityHint.parse line = .ok (some hint)) :
    isComment line = true := by
  unfold CapacityHint.parse at h
  split at h
  · rename_i marked
    obtain ⟨rest, same⟩ := List.isPrefixOf_iff_prefix.mp marked
    simp [isComment, ← same, CapacityHint.marker]
  · simp at h

/-- What a hint takes away holds no rule. -/
theorem rulesOf_takeHint {raw rest : List α} {hint : CapacityHint} (h : takeHint readable raw = .ok (hint, rest)) :
    rulesOf check readable rest = rulesOf check readable raw := by
  induction raw with
  | nil =>
    cases h
    rfl
  | cons first others ih =>
    obtain ⟨line, read, h⟩ := bind_eq_ok.mp h
    split at h
    · rename_i blank
      rw [ih h, rulesOf_cons_of_none read (by simp [ruleOf, blank])]
    · split at h
      · contradiction
      · rename_i parsed
        cases h
        rw [rulesOf_cons_of_none read (by simp [ruleOf, isComment_of_hint parsed])]
      · cases h
        rfl

end

namespace Progress

variable [Regex.Host]

structure Holds (options : Options) (hint : CapacityHint) (rules : List Rule) (progress : Progress) : Prop where
  builder : progress.builder.Holds options hint rules
  rules_eq : progress.rules = rules.length

theorem holds_start (options : Options) (hint : CapacityHint) : (start options hint).Holds options hint [] :=
  ⟨Builder.holds_new options hint, rfl⟩

def outcome : Progress × Option Fault → Except Fault Progress
  | (progress, none) => .ok progress
  | (_, some fault) => .error fault

section
variable {α : Type} {options : Options} {hint : CapacityHint} {rules : List Rule} {progress : Progress}

theorem Holds.read (h : progress.Holds options hint rules) (line : String) :
    Agree (fun later rule => later.Holds options hint (rules ++ rule.toList)) (outcome (progress.read line))
      (ruleOf (Rule.check options) line) := by
  unfold Progress.read ruleOf
  split
  · exact .ok ⟨by simpa using h.builder, by simpa using h.rules_eq⟩
  · cases ruleOfLine? line with
    | none => exact .error _
    | some rule =>
      obtain ⟨kind, payload⟩ := rule
      simp only [StringStore.keep_snd]
      -- The state after a refusal differs from the one before it, but only its fault is looked at.
      have insertion := h.builder.insert (kind, payload)
      generalize progress.builder.insert kind payload = inserted at insertion ⊢
      generalize Rule.check options (kind, payload) = checked at insertion ⊢
      cases insertion with
      | ok holds => exact .ok ⟨holds, by simp [h.rules_eq]⟩
      | error fault => exact .error fault

theorem outcome_readAll_cons (readable : α → Except Fault String) (progress : Progress) (raw : α) (others : List α) :
    outcome (progress.readAll readable (raw :: others)) =
      readable raw >>= fun line => outcome (progress.read line) >>= fun later =>
        outcome (later.readAll readable others) := by
  rw [readAll]
  cases readable raw with
  | error fault => rfl
  | ok line =>
    simp only [ok_bind]
    generalize progress.read line = reached
    obtain ⟨later, _ | fault⟩ := reached <;> rfl

theorem Holds.readAll (h : progress.Holds options hint rules) (readable : α → Except Fault String) (raw : List α) :
    Agree (fun later all => later.Holds options hint all) (outcome (progress.readAll readable raw))
      (rulesOf (Rule.check options) readable raw >>= fun more => required (rules ++ more)) := by
  -- Whether there is no rule at all shows only at the end, so the rules taken earlier stay in the statement.
  induction raw generalizing progress rules with
  | nil =>
    have count : progress.rules = 0 ↔ rules = [] := by simp [h.rules_eq]
    by_cases bare : rules = []
    · have nothing : (outcome (progress.readAll readable [])) = .error .emptyRules := by
        simp [Progress.readAll, outcome, count, bare]
      rw [nothing]
      simpa [rulesOf, required, bare] using Agree.error _
    · have finished : outcome (progress.readAll readable []) = .ok progress := by
        simp [Progress.readAll, outcome, count, bare]
      rw [finished]
      have full : (rulesOf (Rule.check options) readable [] >>= fun more => required (rules ++ more)) = .ok rules := by
        simp [rulesOf, required, bare]
      rw [full]
      exact .ok h
  | cons raw others ih =>
    rw [outcome_readAll_cons]
    simp only [rulesOf, bind_assoc]
    refine (Agree.refl _).bind fun line _ same => ?_
    subst same
    refine (h.read line).bind fun later rule holds => ?_
    simpa using ih holds

end

end Progress

section
variable {α : Type} {options : Options} {readable : α → Except Fault String}

theorem rulesOf_opening {check : Rule → Except Fault Unit} {raw rest : List α} {useHint : Bool} {hint : CapacityHint}
    (h : opening readable raw useHint = .ok (hint, rest)) : rulesOf check readable rest = rulesOf check readable raw := by
  cases useHint with
  | true => exact rulesOf_takeHint h
  | false =>
    cases h
    rfl

theorem attempt_eq [Regex.Host] (raw : List α) (useHint : Bool) :
    attempt readable raw useHint options = opening readable raw useHint >>= fun (hint, lines) =>
      .ok ((Progress.start options hint).readAll readable lines) := by
  cases useHint <;> rfl

theorem builder_ok (reached : Progress × Option Fault) :
    Attempt.builder (.ok reached) = Progress.builder <$> Progress.outcome reached := by
  obtain ⟨progress, _ | fault⟩ := reached <;> rfl

theorem attempt_agree [Regex.Host] (raw : List α) (useHint : Bool) :
    Agree (fun builder found => builder.Holds options found.1 found.2)
      (attempt readable raw useHint options).builder (reading (Rule.check options) readable raw useHint) := by
  rw [attempt_eq, reading]
  cases opened : opening readable raw useHint with
  | error fault => exact .error fault
  | ok taken =>
    obtain ⟨hint, rest⟩ := taken
    have run := (Progress.holds_start options hint).readAll readable rest
    simp only [ok_bind, builder_ok, ← rulesOf_opening opened]
    rw [← bind_assoc, ← map_eq_pure_bind]
    exact run.map fun progress rules holds => holds.builder

theorem reading_eq_ok {check : Rule → Except Fault Unit} {raw : List α} {useHint : Bool} {hint : CapacityHint}
    {rules : List Rule} (h : reading check readable raw useHint = .ok (hint, rules)) :
    rulesOf check readable raw = .ok rules := by
  obtain ⟨⟨_, _⟩, -, h⟩ := bind_eq_ok.mp h
  obtain ⟨others, found, h⟩ := bind_eq_ok.mp h
  obtain ⟨_, full, h⟩ := bind_eq_ok.mp h
  obtain ⟨rfl, rfl⟩ := Prod.mk.inj (pure_eq_ok.mp h)
  rwa [(required_eq_ok.mp full).1] at found

end

namespace Source

variable (check : Rule → Except Fault Unit) (useHint : Bool)

def reading : Source → Except Fault (CapacityHint × List Rule)
  | text whole => RuleText.reading check .ok (RuleText.lines whole) useHint
  | bytes raw => do
    let whole ← decode raw
    RuleText.reading check .ok (RuleText.lines whole) useHint
  | lines given => RuleText.reading check (fun line => .ok (withoutTerminator line)) given useHint
  | byteLines given => RuleText.reading check (fun line => withoutTerminator <$> decode line) given useHint

/-- The lines of a source without their terminators. -/
def readLines : Source → Except Fault (List String)
  | text whole => .ok (RuleText.lines whole)
  | bytes raw => RuleText.lines <$> decode raw
  | lines given => .ok (given.map withoutTerminator)
  | byteLines given => given.mapM fun line => withoutTerminator <$> decode line

end Source

theorem parse_agree [Regex.Host] (source : Source) (useHint : Bool) (options : Options) :
    Agree (fun builder found => builder.Holds options found.1 found.2) (parse source useHint options)
      (source.reading (Rule.check options) useHint) := by
  cases source with
  | text whole => exact attempt_agree _ _
  | bytes raw =>
    rw [parse, Source.attempt, Source.reading]
    cases decode raw with
    | error fault => exact .error fault
    | ok whole => exact attempt_agree _ _
  | lines given => exact attempt_agree _ _
  | byteLines given => exact attempt_agree _ _

theorem build_agree [Regex.Host] (source : Source) (useHint : Bool) (options : Options) :
    Agree (fun set found => set.Represents options found.2) (build source useHint options)
      (source.reading (Rule.check options) useHint) :=
  Builder.agree_freeze (parse_agree source useHint options)

/-- Whatever comes out of a text has passed the checks. -/
theorem exists_represents_of_build [Regex.Host] {source : Source} {useHint : Bool} {options : Options} {set : RuleSet}
    (h : build source useHint options = .ok set) :
    ∃ rules, set.Represents options rules ∧ forM rules (Rule.check options) = .ok () ∧
      ∃ hint, source.reading (Rule.check options) useHint = .ok (hint, rules) := by
  obtain ⟨builder, parsed, frozen⟩ := bind_eq_ok.mp h
  obtain ⟨⟨hint, rules⟩, found, holds⟩ := (parsed ▸ parse_agree source useHint options).of_ok
  obtain ⟨_, same, represents⟩ := holds.freeze
  obtain rfl := Except.ok.inj (frozen.symm.trans same)
  exact ⟨rules, represents, holds.passed, hint, found⟩

theorem Source.reading_eq_ok {source : Source} {check : Rule → Except Fault Unit} {useHint : Bool}
    {hint : CapacityHint} {rules : List Rule} (h : source.reading check useHint = .ok (hint, rules)) :
    ∃ lines, source.readLines = .ok lines ∧ ∀ rule, rule ∈ rules ↔ ∃ line ∈ lines, IsRuleLine rule line := by
  cases source with
  | text whole =>
    have found := rulesOf_eq_ok (RuleText.reading_eq_ok h)
    rwa [mapM_ok_self] at found
  | bytes raw =>
    rw [Source.reading] at h
    cases decoded : decode raw with
    | error fault => simp [decoded] at h
    | ok whole =>
      rw [decoded] at h
      have found := rulesOf_eq_ok (RuleText.reading_eq_ok h)
      rwa [mapM_ok_self, ← map_ok, ← decoded] at found
  | lines given =>
    have found := rulesOf_eq_ok (RuleText.reading_eq_ok h)
    rwa [mapM_ok] at found
  | byteLines given => exact rulesOf_eq_ok (RuleText.reading_eq_ok h)

inductive IsTextFault (check : Rule → Except Fault Unit) : Fault → Prop
  | emptyRules : IsTextFault check .emptyRules
  | malformedHint (line : String) (flaw : CapacityHint.Flaw) : IsTextFault check (.malformedHint line flaw)
  | invalidLine (line : String) : IsTextFault check (.invalidLine line)
  | undecodable (fault : Text.Utf8.Fault) : IsTextFault check (.undecodable fault)
  | refused {rule fault} : check rule = .error fault → IsTextFault check fault

section
variable {α : Type} {check : Rule → Except Fault Unit} {readable : α → Except Fault String}

theorem faults_ruleOf (line : String) : Faults (IsTextFault check) (ruleOf check line) := by
  unfold ruleOf
  split
  · exact .ok _
  · split
    · exact Faults.error.mpr (.invalidLine line)
    · exact Faults.map (fun _ => .refused) _

theorem faults_rulesOf (lines : ∀ raw, Faults (IsTextFault check) (readable raw)) (raw : List α) :
    Faults (IsTextFault check) (rulesOf check readable raw) := by
  induction raw with
  | nil => exact .ok _
  | cons raw others ih => exact (lines raw).bind fun line => (faults_ruleOf line).bind fun _ => ih.bind fun _ => .ok _

theorem faults_takeHint (lines : ∀ raw, Faults (IsTextFault check) (readable raw)) (raw : List α) :
    Faults (IsTextFault check) (takeHint readable raw) := by
  induction raw with
  | nil => exact .ok _
  | cons raw others ih =>
    refine (lines raw).bind fun line => ?_
    split
    · exact ih
    · split
      · exact Faults.error.mpr (.malformedHint line _)
      · exact .ok _
      · exact .ok _

theorem faults_reading (lines : ∀ raw, Faults (IsTextFault check) (readable raw)) (raw : List α) (useHint : Bool) :
    Faults (IsTextFault check) (reading check readable raw useHint) := by
  have opened : Faults (IsTextFault check) (opening readable raw useHint) := by
    cases useHint with
    | true => exact faults_takeHint lines raw
    | false => exact .ok _
  have full (rules : List Rule) : Faults (IsTextFault check) (required rules) := by
    unfold required
    split
    · exact Faults.error.mpr .emptyRules
    · exact .ok _
  exact opened.bind fun _ => (faults_rulesOf lines raw).bind fun rules => (full rules).bind fun _ => .ok _

theorem faults_decode (bytes : List UInt8) : Faults (IsTextFault check) (decode bytes) :=
  .mapError _ .undecodable

theorem Source.faults_reading (source : Source) (useHint : Bool) :
    Faults (IsTextFault check) (source.reading check useHint) := by
  cases source with
  | text whole => exact RuleText.faults_reading (fun _ => .ok _) _ _
  | bytes raw => exact (faults_decode raw).bind fun _ => RuleText.faults_reading (fun _ => .ok _) _ _
  | lines given => exact RuleText.faults_reading (fun _ => .ok _) _ _
  | byteLines given => exact RuleText.faults_reading (fun line => (faults_decode line).map _) _ _

end

end RuleText

end DomainRules
