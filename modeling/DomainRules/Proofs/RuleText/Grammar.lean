import DomainRules.Proofs.RuleText.Lines
import DomainRules.Proofs.RuleText.Reaching
import DomainRules.Proofs.RuleText.Streaming

/-! The grammar of rule text: which lines are passed, which hold rules, and which open a text with a hint. Reading accepts
just this grammar, and otherwise reports the first line that breaks it or whose rule is refused. -/

namespace DomainRules.RuleText

def IsSkipped (line : String) : Prop := line = "" ∨ ∃ comment, line = "#" ++ comment

/-- The rules in lines that are passed or hold one each, in their order. -/
inductive Lists : List String → List Rule → Prop
  | nil : Lists [] []
  | skip {line lines rules} : IsSkipped line → Lists lines rules → Lists (line :: lines) rules
  | rule {lines rules} (kind : Kind) (payload : String) : Lists lines rules →
      Lists ((kind.tag ++ payload) :: lines) ((kind, payload) :: rules)

/-- A first line that holds no rule although it is not passed, or whose rule the builder refuses, behind lines whose rules
it has taken. -/
inductive Stops [Regex.Host] (options : Options) (hint : CapacityHint) : List String → Fault → Prop
  | invalid {good bad behind rules builder} : Lists good rules →
      (Builder.new options hint).insertAll rules = .ok builder →
      ¬ IsSkipped bad → (∀ kind payload, bad ≠ Kind.tag kind ++ payload) →
      Stops options hint (good ++ bad :: behind) (.invalidLine bad)
  | refused {good kind payload behind rules builder fault} : Lists good rules →
      (Builder.new options hint).insertAll rules = .ok builder → builder.insert kind payload = .error fault →
      Stops options hint (good ++ (kind.tag ++ payload) :: behind) fault

/-- A first line that is not empty and is malformed as a hint. -/
def Malformed (useHint : Bool) (lines : List String) (line : String) : Prop :=
  useHint = true ∧ Opens .ok line lines ∧ CapacityHint.marker.toList <+: line.toList ∧ ∀ hint, ¬CapacityHint.Gives hint line

/-- The hint that lines begin with, if it is asked for, and the lines that are left for rules. -/
inductive Opened : Bool → List String → CapacityHint → List String → Prop
  | unasked {lines} : Opened false lines .unknown lines
  | bare {lines} : (∀ line ∈ lines, line = "") → Opened true lines .unknown lines
  | plain {line lines} : Opens .ok line lines → ¬ CapacityHint.marker.toList <+: line.toList →
      Opened true lines .unknown lines
  | hint {blank line behind hint} : (∀ line ∈ blank, line = "") → CapacityHint.Gives hint line →
      Opened true (blank ++ line :: behind) hint behind

/-- What becomes of lines: a builder that has taken their rules, or the first fault. -/
structure Follows [Regex.Host] (options : Options) (hint : CapacityHint) (lines : List String)
    (outcome : Except Fault Builder) : Prop where
  error_iff : ∀ fault, outcome = .error fault ↔ Stops options hint lines fault ∨ Lists lines [] ∧ fault = .emptyRules
  ok_iff : ∀ builder, outcome = .ok builder ↔
    ∃ rules, Lists lines rules ∧ rules ≠ [] ∧ (Builder.new options hint).insertAll rules = .ok builder
  kept : ∀ builder rules, outcome = .ok builder → Lists lines rules →
    builder.hint = hint ∧ (∀ kind, builder.countOf kind = (payloads kind rules).length) ∧
    (options.domain = .linear → options.suffix = .linear →
      ∃ set, builder.freeze.1 = .ok set ∧ ∀ kind, set.rules kind = payloads kind rules)

theorem isComment_iff {line : String} : isComment line = true ↔ ∃ comment, line = "#" ++ comment := by
  rw [isComment, beq_iff_eq, List.head?_eq_some_iff]
  constructor
  · rintro ⟨comment, whole⟩
    exact ⟨.ofList comment, String.toList_inj.mp (by simpa using whole)⟩
  · rintro ⟨comment, rfl⟩
    exact ⟨comment.toList, by simp⟩

theorem isSkipped_iff {line : String} : IsSkipped line ↔ (line.isEmpty || isComment line) = true := by
  rw [IsSkipped, Bool.or_eq_true, String.isEmpty_iff, isComment_iff]

section
variable {check : Rule → Except Fault Unit} {lines : List String} {rules : List Rule} {fault : Fault}

theorem ruleOf_of_isSkipped {line : String} (h : IsSkipped line) : ruleOf check line = .ok none := by
  rw [ruleOf, if_pos (isSkipped_iff.mp h)]

theorem ruleOf_tag (kind : Kind) (payload : String) :
    ruleOf check (kind.tag ++ payload) = (fun _ => some (kind, payload)) <$> check (kind, payload) := by
  refine ruleOf_of_isRuleLine ⟨?_, ?_, rfl⟩ <;> cases kind <;> simp [isComment, Kind.tag, Kind.name]

theorem ruleOf_of_invalid {line : String} (kept : ¬ IsSkipped line) (untagged : ∀ kind payload, line ≠ Kind.tag kind ++ payload) :
    ruleOf check line = .error (.invalidLine line) := by
  have none : ruleOfLine? line = none := Option.eq_none_iff_forall_ne_some.mpr fun rule found =>
    untagged rule.1 rule.2 (ruleOfLine?_eq_some.mp found)
  rw [ruleOf, if_neg (isSkipped_iff.not.mp kept), none]

/-- A line is passed, holds one rule, or is invalid. -/
theorem line_cases (line : String) :
    IsSkipped line ∨ (∃ kind payload, line = Kind.tag kind ++ payload) ∨
      ¬ IsSkipped line ∧ ∀ kind payload, line ≠ Kind.tag kind ++ payload := by
  by_cases skipped : IsSkipped line
  · exact .inl skipped
  · by_cases tagged : ∃ kind payload, line = Kind.tag kind ++ payload
    · exact .inr (.inl tagged)
    · push Not at tagged
      exact .inr (.inr ⟨skipped, tagged⟩)

theorem rulesOf_cons (line : String) (lines : List String) :
    rulesOf check .ok (line :: lines) = ruleOf check line >>= fun rule =>
      (rule.toList ++ ·) <$> rulesOf check .ok lines := rfl

theorem rulesOf_of_lists (h : Lists lines rules) : rulesOf check .ok lines = (fun _ => rules) <$> forM rules check := by
  induction h with
  | nil => rfl
  | skip skipped _ ih => rw [rulesOf_cons, ruleOf_of_isSkipped skipped, ok_bind, ih]; simp
  | @rule lines rules kind payload _ ih =>
    rw [rulesOf_cons, ruleOf_tag, ih, List.forM_cons]
    cases check (kind, payload) with
    | error fault => rfl
    | ok => cases forM rules check <;> rfl

theorem lists_of_rulesOf (h : rulesOf check .ok lines = .ok rules) : Lists lines rules := by
  induction lines generalizing rules with
  | nil =>
    cases h
    exact .nil
  | cons line lines ih =>
    rw [rulesOf_cons] at h
    obtain ⟨found, one, h⟩ := bind_eq_ok.mp h
    obtain ⟨others, rest, rfl⟩ := map_eq_ok.mp h
    rcases line_cases line with skipped | ⟨kind, payload, rfl⟩ | ⟨kept, untagged⟩
    · rw [ruleOf_of_isSkipped skipped] at one
      obtain rfl := Except.ok.inj one
      exact .skip skipped (ih rest)
    · rw [ruleOf_tag] at one
      obtain ⟨_, -, rfl⟩ := map_eq_ok.mp one
      exact .rule kind payload (ih rest)
    · rw [ruleOf_of_invalid kept untagged] at one
      contradiction

theorem rulesOf_eq_ok_iff : rulesOf check .ok lines = .ok rules ↔ Lists lines rules ∧ forM rules check = .ok () := by
  constructor
  · intro h
    have listed := lists_of_rulesOf h
    rw [rulesOf_of_lists listed] at h
    obtain ⟨_, passed, -⟩ := map_eq_ok.mp h
    exact ⟨listed, passed⟩
  · rintro ⟨listed, passed⟩
    rw [rulesOf_of_lists listed, passed, map_ok]

theorem Lists.unique {others : List Rule} (h : Lists lines rules) (h' : Lists lines others) : rules = others := by
  have passed (rules : List Rule) : forM rules (fun _ => (.ok () : Except Fault Unit)) = .ok () := forM_eq_ok.mpr fun _ _ => rfl
  have one := rulesOf_eq_ok_iff.mpr ⟨h, passed rules⟩
  have other := rulesOf_eq_ok_iff.mpr ⟨h', passed others⟩
  exact Except.ok.inj (one.symm.trans other)

/-- Lines fail at the first of them that fails. -/
theorem rulesOf_eq_error_iff : rulesOf check .ok lines = .error fault ↔
    ∃ good bad behind rules, lines = good ++ bad :: behind ∧ Lists good rules ∧ forM rules check = .ok () ∧
      ruleOf check bad = .error fault := by
  constructor
  · intro h
    induction lines with
    | nil => contradiction
    | cons line lines ih =>
      rw [rulesOf_cons] at h
      rcases bind_eq_error.mp h with failed | ⟨found, one, h⟩
      · exact ⟨[], line, lines, [], rfl, .nil, rfl, failed⟩
      · obtain ⟨good, bad, behind, rules, rfl, listed, passed, failed⟩ := ih (map_eq_error.mp h)
        refine ⟨line :: good, bad, behind, found.toList ++ rules, rfl, ?_⟩
        have taken : rulesOf check .ok (line :: good) = .ok (found.toList ++ rules) := by
          rw [rulesOf_cons, one, ok_bind, rulesOf_eq_ok_iff.mpr ⟨listed, passed⟩, map_ok]
        exact ⟨(rulesOf_eq_ok_iff.mp taken).1, (rulesOf_eq_ok_iff.mp taken).2, failed⟩
  · rintro ⟨good, bad, behind, rules, rfl, listed, passed, failed⟩
    rw [rulesOf_append, rulesOf_eq_ok_iff.mpr ⟨listed, passed⟩, ok_bind, rulesOf_cons, failed]
    rfl

end

section
variable [Regex.Host] {options : Options} {hint : CapacityHint} {rules : List Rule}

theorem insertAll_holds (options : Options) (hint : CapacityHint) (rules : List Rule) :
    Agree (fun builder _ => builder.Holds options hint rules) ((Builder.new options hint).insertAll rules)
      (forM rules (Rule.check options)) :=
  (Builder.holds_new options hint).insertAll rules

theorem stops_iff {lines : List String} {fault : Fault} :
    Stops options hint lines fault ↔ rulesOf (Rule.check options) .ok lines = .error fault := by
  rw [rulesOf_eq_error_iff]
  constructor
  · rintro (⟨listed, taken, kept, untagged⟩ | ⟨listed, taken, failed⟩)
    · obtain ⟨_, passed, -⟩ := (taken ▸ insertAll_holds options hint _).of_ok
      exact ⟨_, _, _, _, rfl, listed, passed, ruleOf_of_invalid kept untagged⟩
    · obtain ⟨_, passed, holds⟩ := (taken ▸ insertAll_holds options hint _).of_ok
      refine ⟨_, _, _, _, rfl, listed, passed, ?_⟩
      rw [ruleOf_tag, ((holds.insert (_, _)).error_iff _).mp failed, map_error]
  · rintro ⟨good, bad, behind, rules, rfl, listed, passed, failed⟩
    obtain ⟨builder, taken, holds⟩ := (passed ▸ insertAll_holds options hint rules).exists_ok
    rcases line_cases bad with skipped | ⟨kind, payload, rfl⟩ | ⟨kept, untagged⟩
    · rw [ruleOf_of_isSkipped skipped] at failed
      contradiction
    · rw [ruleOf_tag] at failed
      exact .refused listed taken (((holds.insert (kind, payload)).error_iff fault).mpr (map_eq_error.mp failed))
    · rw [ruleOf_of_invalid kept untagged] at failed
      exact Except.error.inj failed ▸ .invalid listed taken kept untagged

end

section
variable {check : Rule → Except Fault Unit} {useHint : Bool} {lines rest : List String} {hint : CapacityHint}

theorem Opens.append_blank {line : String} (filled : line ≠ "") {blank : List String} (h : ∀ other ∈ blank, other = "")
    (behind : List String) : Opens .ok line (blank ++ line :: behind) := by
  induction blank with
  | nil => exact .here rfl filled
  | cons other blank ih =>
    obtain ⟨rfl, others⟩ := List.forall_mem_cons.mp h
    exact .behind rfl (ih others)

/-- Lines are all empty, or one of them opens the rest. -/
theorem blank_or_opens (lines : List String) :
    (∀ line ∈ lines, line = "") ∨
      ∃ blank line behind, lines = blank ++ line :: behind ∧ (∀ other ∈ blank, other = "") ∧ line ≠ "" := by
  induction lines with
  | nil => exact .inl (by simp)
  | cons first lines ih =>
    by_cases bare : first = ""
    · rcases ih with blank | ⟨blank, line, behind, rfl, others, filled⟩
      · exact .inl (List.forall_mem_cons.mpr ⟨bare, blank⟩)
      · exact .inr ⟨first :: blank, line, behind, rfl, List.forall_mem_cons.mpr ⟨bare, others⟩, filled⟩
    · exact .inr ⟨[], first, lines, rfl, by simp, bare⟩

theorem lists_blank {blank : List String} (h : ∀ line ∈ blank, line = "") : Lists blank [] := by
  induction blank with
  | nil => exact .nil
  | cons line blank ih =>
    obtain ⟨first, others⟩ := List.forall_mem_cons.mp h
    exact .skip (.inl first) (ih others)

theorem takeHint_blank {blank : List String} (h : ∀ line ∈ blank, line = "") (behind : List String) :
    takeHint .ok (blank ++ behind) = takeHint .ok behind := by
  induction blank with
  | nil => rfl
  | cons line blank ih =>
    obtain ⟨rfl, others⟩ := List.forall_mem_cons.mp h
    exact ih others

theorem takeHint_plain {line : String} (opens : Opens .ok line lines) (parsed : CapacityHint.parse line = .ok none) :
    ∃ left, takeHint .ok lines = .ok (.unknown, left) := by
  induction opens with
  | @here first others read filled =>
    obtain rfl := Except.ok.inj read
    exact ⟨first :: others, by simp [takeHint, filled, parsed]⟩
  | behind read _ ih =>
    obtain rfl := Except.ok.inj read
    exact ih

theorem Opened.opening (h : Opened useHint lines hint rest) : ∃ left, opening .ok lines useHint = .ok (hint, left) := by
  cases h with
  | unasked => exact ⟨_, rfl⟩
  | bare blank =>
    refine ⟨[], ?_⟩
    rw [RuleText.opening, if_pos rfl, ← List.append_nil lines, takeHint_blank blank]
    rfl
  | plain opens unmarked => exact takeHint_plain opens (CapacityHint.parse_of_unmarked unmarked)
  | @hint blank line _ _ bare gives =>
    have filled : line ≠ "" := by
      rintro rfl
      simpa [CapacityHint.marker] using gives.marked
    refine ⟨rest, ?_⟩
    rw [RuleText.opening, if_pos rfl, takeHint_blank bare]
    simp [takeHint, filled, CapacityHint.parse_eq_ok_some.mpr gives]

/-- What a hint takes with it holds no rule. -/
theorem Opened.rulesOf_eq (h : Opened useHint lines hint rest) : rulesOf check .ok lines = rulesOf check .ok rest := by
  cases h with
  | unasked | bare | plain => rfl
  | @hint blank line _ _ bare gives =>
    have comment : isComment line = true := isComment_of_hint (CapacityHint.parse_eq_ok_some.mpr gives)
    rw [rulesOf_append, rulesOf_of_lists (lists_blank bare), rulesOf_cons_of_none rfl (by simp [ruleOf, comment])]
    simp [pure, Except.pure]

theorem Opened.reading_eq (h : Opened useHint lines hint rest) :
    reading check .ok lines useHint = rulesOf check .ok rest >>= fun rules => (hint, ·) <$> required rules := by
  obtain ⟨left, opened⟩ := h.opening
  rw [reading, opened, ok_bind, h.rulesOf_eq]
  simp only [map_eq_pure_bind]

theorem malformed_or_opened (useHint : Bool) (lines : List String) :
    (∃ line, Malformed useHint lines line) ∨ ∃ hint rest, Opened useHint lines hint rest := by
  cases useHint with
  | false => exact .inr ⟨_, _, .unasked⟩
  | true =>
    rcases blank_or_opens lines with blank | ⟨blank, line, behind, rfl, bare, filled⟩
    · exact .inr ⟨_, _, .bare blank⟩
    · have opens := Opens.append_blank filled bare behind
      by_cases marked : CapacityHint.marker.toList <+: line.toList
      · by_cases gives : ∃ hint, CapacityHint.Gives hint line
        · obtain ⟨hint, gives⟩ := gives
          exact .inr ⟨_, _, .hint bare gives⟩
        · push Not at gives
          exact .inl ⟨line, rfl, opens, marked, gives⟩
      · exact .inr ⟨_, _, .plain opens marked⟩

theorem parse_malformed [Regex.Host] {text line : String} {options : Options} (h : Malformed useHint (RuleText.lines text) line) :
    ∃ flaw, parse (.text text) useHint options = .error (.malformedHint line flaw) := by
  obtain ⟨rfl, opens, marked, malformed⟩ := h
  obtain ⟨flaw, bad⟩ := CapacityHint.parse_eq_error_iff.mpr ⟨marked, malformed⟩
  exact ⟨flaw, ((parse_agree (.text text) true options).error_iff _).mpr (RuleText.reading_eq_malformedHint opens bad)⟩

theorem Opened.follows [Regex.Host] {text : String} (h : Opened useHint (RuleText.lines text) hint rest) (options : Options) :
    Follows options hint rest (parse (.text text) useHint options) := by
  have agree := parse_agree (.text text) useHint options
  rw [Source.reading, h.reading_eq] at agree
  have accepted {builder : Builder} (parsed : parse (.text text) useHint options = .ok builder) :
      ∃ rules, Lists rest rules ∧ rules ≠ [] ∧ builder.Holds options hint rules := by
    obtain ⟨found, read, holds⟩ := (parsed ▸ agree).of_ok
    obtain ⟨rules, taken, read⟩ := bind_eq_ok.mp read
    obtain ⟨others, full, rfl⟩ := map_eq_ok.mp read
    obtain ⟨rfl, filled⟩ := required_eq_ok.mp full
    exact ⟨rules, lists_of_rulesOf taken, filled, holds⟩
  refine ⟨fun fault => ?_, fun builder => ⟨fun parsed => ?_, ?_⟩, fun builder rules parsed listed => ?_⟩
  · rw [agree.error_iff, bind_eq_error, stops_iff]
    refine or_congr Iff.rfl ⟨?_, ?_⟩
    · rintro ⟨rules, taken, bare⟩
      rw [map_eq_error, required] at bare
      split at bare
      · rename_i none
        exact ⟨none ▸ lists_of_rulesOf taken, (Except.error.inj bare).symm⟩
      · contradiction
    · rintro ⟨listed, rfl⟩
      exact ⟨[], rulesOf_eq_ok_iff.mpr ⟨listed, rfl⟩, rfl⟩
  · obtain ⟨rules, listed, filled, holds⟩ := accepted parsed
    exact ⟨rules, listed, filled, holds.inserted⟩
  · rintro ⟨rules, listed, filled, taken⟩
    obtain ⟨_, passed, -⟩ := (taken ▸ insertAll_holds options hint rules).of_ok
    rw [rulesOf_eq_ok_iff.mpr ⟨listed, passed⟩, ok_bind, required_eq_ok.mpr ⟨rfl, filled⟩, map_ok] at agree
    obtain ⟨other, parsed, holds⟩ := agree.exists_ok
    rw [parsed, ← holds.inserted, taken]
  · obtain ⟨others, listed', -, holds⟩ := accepted parsed
    obtain rfl := listed.unique listed'
    obtain ⟨set, frozen, represents⟩ := holds.freeze
    refine ⟨holds.hint_eq, fun kind => (holds.collector kind).inserted, fun domain suffix => ⟨set, frozen, fun kind => ?_⟩⟩
    rw [represents.rules_eq, Kind.listed_of_linear domain suffix]

end

/-- Rule text is read by its grammar. A malformed line in the place of a hint is refused before anything else. Otherwise the
hint is taken away, and the lines that are left lead to a builder with their rules or to the fault of the first of them that
breaks the grammar or whose rule is refused; without any rule in them, that is the fault. -/
theorem parse_follows_grammar [Regex.Host] (text : String) (useHint : Bool) (options : Options) :
    (∀ found, Cut text.toList found ↔ found = lines text) ∧
    (∀ line kind payload, ruleOfLine? line = some (kind, payload) ↔ line = kind.tag ++ payload) ∧
    (∀ line, Malformed useHint (lines text) line →
      ∃ flaw, parse (.text text) useHint options = .error (.malformedHint line flaw)) ∧
    (∀ hint rest, Opened useHint (lines text) hint rest → Follows options hint rest (parse (.text text) useHint options)) ∧
    ((∃ line, Malformed useHint (lines text) line) ∨ ∃ hint rest, Opened useHint (lines text) hint rest) :=
  ⟨fun _ => cut_iff, fun _ _ _ => ruleOfLine?_eq_some, fun _ malformed => parse_malformed malformed,
    fun _ _ opened => opened.follows options, malformed_or_opened useHint (lines text)⟩

/-- A hint behind an empty line, a payload that ends in a carriage return, and a line with a blank before its tag, in front
of a pattern that does not compile. -/
theorem parse_follows_grammar_first_fault :
    let text := "\r\n# domain set capacity hint 1 0 0 0 DSKR\n#\ndomain::\r\r\n keyword:a\nregexp:("
    let rest := ["#", "domain::\r", " keyword:a", "regexp:("]
    Cut text.toList ("" :: "# domain set capacity hint 1 0 0 0 DSKR" :: rest) ∧
    Opened true (lines text) ⟨1, 0, 0, 0⟩ rest ∧ Follows {} ⟨1, 0, 0, 0⟩ rest (parse (.text text) true {}) ∧
    parse (.text text) true {} = .error (.invalidLine " keyword:a") := by
  intro text rest
  obtain ⟨cuts, -, -, follows, -⟩ := parse_follows_grammar text true {}
  have split : lines text = "" :: "# domain set capacity hint 1 0 0 0 DSKR" :: rest := by decide +kernel
  have gives : CapacityHint.Gives ⟨1, 0, 0, 0⟩ "# domain set capacity hint 1 0 0 0 DSKR" :=
    CapacityHint.parse_eq_ok_some.mp (by decide +kernel)
  have bare : ∀ line ∈ [""], line = "" := by simp
  have opened : Opened true (lines text) ⟨1, 0, 0, 0⟩ rest := split ▸ .hint bare gives
  have followed := follows ⟨1, 0, 0, 0⟩ rest opened
  have good : Lists ["#", "domain::\r"] [(.domain, ":\r")] :=
    .skip (.inr ⟨"", rfl⟩) (.rule .domain ":\r" .nil)
  have kept : ¬ IsSkipped " keyword:a" := isSkipped_iff.not.mpr (by decide)
  have untagged : ∀ kind payload, " keyword:a" ≠ Kind.tag kind ++ payload := fun kind payload same => by
    have none : ruleOfLine? " keyword:a" = none := by decide
    rw [ruleOfLine?_eq_some.mpr same] at none
    contradiction
  exact ⟨(cuts _).mpr split.symm, opened, followed, (followed.error_iff _).mpr (.inl (.invalid good rfl kept untagged))⟩

end DomainRules.RuleText
