import DomainRules.Proofs.RuleText.Hinting

/-! Which rules of a text reading comes to. It ends at the first of them that is refused; otherwise it fails at a line that
cannot be read or that holds no rule, at a malformed hint, or for want of rules. -/

namespace DomainRules.RuleText

/-- A line that reading passes: it is empty or a comment, or holds a rule that is not refused. -/
def Passes (check : Rule → Except Fault Unit) (line : String) : Prop :=
  line = "" ∨ isComment line = true ∨ ∃ rule, IsRuleLine rule line ∧ check rule = .ok ()

/-- Lines among which there is a rule, and only such before it as reading passes. -/
inductive Reaches (check : Rule → Except Fault Unit) (readable : α → Except Fault String) (rule : Rule) : List α → Prop
  | here {raw line others} : readable raw = .ok line → IsRuleLine rule line → Reaches check readable rule (raw :: others)
  | behind {raw line others} : readable raw = .ok line → Passes check line → Reaches check readable rule others →
      Reaches check readable rule (raw :: others)

/-- No malformed line stands where a hint is looked for. -/
def HintFits (readable : α → Except Fault String) (raw : List α) (useHint : Bool) : Prop :=
  useHint = true → ∀ line flaw, Opens readable line raw → CapacityHint.parse line ≠ .error flaw

def Source.Reaches (check : Rule → Except Fault Unit) (rule : Rule) : Source → Prop
  | text whole => RuleText.Reaches check .ok rule (RuleText.lines whole)
  | bytes raw => ∃ whole, decode raw = .ok whole ∧ RuleText.Reaches check .ok rule (RuleText.lines whole)
  | lines given => RuleText.Reaches check (fun line => .ok (withoutTerminator line)) rule given
  | byteLines given => RuleText.Reaches check (fun line => withoutTerminator <$> decode line) rule given

def Source.HintFits (source : Source) (useHint : Bool) : Prop :=
  useHint = true → ∀ line flaw, source.Opens line → CapacityHint.parse line ≠ .error flaw

section
variable {α : Type} {check : Rule → Except Fault Unit} {readable : α → Except Fault String} {raw : List α} {fault : Fault}

theorem ruleOf_of_isRuleLine {line : String} {rule : Rule} (h : IsRuleLine rule line) :
    ruleOf check line = (fun _ => some rule) <$> check rule := by
  have kept : (line.isEmpty || isComment line) = false := by
    rw [h.2.1, Bool.or_false]
    simpa [Bool.eq_false_iff, String.isEmpty_iff] using h.1
  rw [ruleOf, kept, (isRuleLine_iff kept).mp h]
  rfl

theorem Passes.ruleOf {line : String} (h : Passes check line) : ∃ found, ruleOf check line = .ok found := by
  rcases h with rfl | comment | ⟨rule, ruled, passed⟩
  · exact ⟨none, rfl⟩
  · exact ⟨none, by simp [RuleText.ruleOf, comment]⟩
  · exact ⟨some rule, by rw [ruleOf_of_isRuleLine ruled, passed, map_ok]⟩

theorem passes_of_ruleOf {line : String} {found : Option Rule} (h : ruleOf check line = .ok found) : Passes check line := by
  unfold ruleOf at h
  split at h
  · rename_i skipped
    rcases Bool.or_eq_true_iff.mp skipped with blank | comment
    · exact .inl (String.isEmpty_iff.mp blank)
    · exact .inr (.inl comment)
  · rename_i kept
    cases parsed : ruleOfLine? line with
    | none => simp [parsed] at h
    | some rule =>
      rw [parsed] at h
      obtain ⟨_, passed, -⟩ := map_eq_ok.mp h
      exact .inr (.inr ⟨rule, (isRuleLine_iff (Bool.eq_false_of_not_eq_true kept)).mpr parsed, passed⟩)

theorem ruleOf_eq_error {line : String} (h : ruleOf check line = .error fault) :
    fault = .invalidLine line ∨ ∃ rule, IsRuleLine rule line ∧ check rule = .error fault := by
  unfold ruleOf at h
  split at h
  · contradiction
  · rename_i kept
    cases parsed : ruleOfLine? line with
    | none =>
      rw [parsed] at h
      exact .inl (Except.error.inj h).symm
    | some rule =>
      rw [parsed] at h
      exact .inr ⟨rule, (isRuleLine_iff (Bool.eq_false_of_not_eq_true kept)).mpr parsed, map_eq_error.mp h⟩

theorem rulesOf_of_reaches {rule : Rule} (h : Reaches check readable rule raw) (refused : check rule = .error fault) :
    rulesOf check readable raw = .error fault := by
  induction h with
  | here read ruled => rw [rulesOf, read, ok_bind, ruleOf_of_isRuleLine ruled, refused, map_error, error_bind]
  | behind read passes _ ih =>
    obtain ⟨found, passed⟩ := passes.ruleOf
    rw [rulesOf, read, ok_bind, passed, ok_bind, ih, error_bind]

theorem rulesOf_eq_error (h : rulesOf check readable raw = .error fault) :
    (∃ item, readable item = .error fault) ∨ (∃ line, fault = .invalidLine line) ∨
      ∃ rule, Reaches check readable rule raw ∧ check rule = .error fault := by
  induction raw with
  | nil => contradiction
  | cons item others ih =>
    rcases bind_eq_error.mp h with unread | ⟨line, read, h⟩
    · exact .inl ⟨item, unread⟩
    · rcases bind_eq_error.mp h with refused | ⟨found, passed, h⟩
      · rcases ruleOf_eq_error refused with invalid | ⟨rule, ruled, refused⟩
        · exact .inr (.inl ⟨line, invalid⟩)
        · exact .inr (.inr ⟨rule, .here read ruled, refused⟩)
      · rcases bind_eq_error.mp h with later | ⟨rules, -, h⟩
        · refine (ih later).imp_right (Or.imp_right ?_)
          rintro ⟨rule, reaches, refused⟩
          exact ⟨rule, .behind read (passes_of_ruleOf passed) reaches, refused⟩
        · contradiction

/-- A fault that is not about the rules comes from a line that cannot be read or from a rule that reading comes to. -/
theorem reading_stray {useHint : Bool} (h : reading check readable raw useHint = .error fault)
    (stray : fault.isAboutRules = false) :
    (∃ item, readable item = .error fault) ∨
      HintFits readable raw useHint ∧ ∃ rule, Reaches check readable rule raw ∧ check rule = .error fault := by
  have fits : HintFits readable raw useHint := by
    rintro rfl line flaw opens bad
    rw [reading_eq_malformedHint opens bad] at h
    obtain rfl := Except.error.inj h
    contradiction
  have stopped : rulesOf check readable raw = .error fault := by
    rcases bind_eq_error.mp h with early | ⟨_, -, h⟩
    · exact opening_eq_error check fits early
    · rcases bind_eq_error.mp h with stopped | ⟨rules, -, h⟩
      · exact stopped
      · rcases bind_eq_error.mp h with bare | ⟨_, -, h⟩
        · unfold required at bare
          split at bare
          · obtain rfl := Except.error.inj bare
            contradiction
          · contradiction
        · contradiction
  rcases rulesOf_eq_error stopped with unread | ⟨line, rfl⟩ | reached
  · exact .inl unread
  · contradiction
  · exact .inr ⟨fits, reached⟩

end

namespace Source

section
variable {source : Source} {check : Rule → Except Fault Unit} {useHint : Bool} {fault : Fault}

theorem reading_of_reaches {rule : Rule} (fits : source.HintFits useHint) (reaches : source.Reaches check rule)
    (refused : check rule = .error fault) : source.reading check useHint = .error fault := by
  cases source with
  | text whole => exact reading_eq_error fits (rulesOf_of_reaches reaches refused)
  | bytes raw =>
    obtain ⟨whole, decoded, reaches⟩ := reaches
    rw [reading, decoded, ok_bind]
    exact reading_eq_error (fun hinted line flaw opens => fits hinted line flaw ⟨whole, decoded, opens⟩)
      (rulesOf_of_reaches reaches refused)
  | lines given => exact reading_eq_error fits (rulesOf_of_reaches reaches refused)
  | byteLines given => exact reading_eq_error fits (rulesOf_of_reaches reaches refused)

theorem reading_stray (h : source.reading check useHint = .error fault) (stray : fault.isAboutRules = false) :
    (∃ cause, fault = .undecodable cause ∧ ∀ whole, source ≠ .text whole) ∨
      source.HintFits useHint ∧ ∃ rule, source.Reaches check rule ∧ check rule = .error fault := by
  cases source with
  | text whole => exact .inr ((RuleText.reading_stray h stray).resolve_left nofun)
  | bytes raw =>
    rcases bind_eq_error.mp h with undecoded | ⟨whole, decoded, h⟩
    · obtain ⟨cause, -, rfl⟩ := mapError_eq_error.mp undecoded
      exact .inl ⟨cause, rfl, nofun⟩
    · obtain ⟨fits, rule, reaches, refused⟩ := (RuleText.reading_stray h stray).resolve_left nofun
      refine .inr ⟨?_, rule, ⟨whole, decoded, reaches⟩, refused⟩
      rintro hinted line flaw ⟨same, decoded', opens⟩
      obtain rfl := Except.ok.inj (decoded.symm.trans decoded')
      exact fits hinted line flaw opens
  | lines given => exact .inr ((RuleText.reading_stray h stray).resolve_left nofun)
  | byteLines given =>
    refine (RuleText.reading_stray h stray).imp_left ?_
    rintro ⟨line, undecoded⟩
    obtain ⟨cause, -, rfl⟩ := mapError_eq_error.mp (map_eq_error.mp undecoded)
    exact ⟨cause, rfl, nofun⟩

end

end Source

end DomainRules.RuleText
