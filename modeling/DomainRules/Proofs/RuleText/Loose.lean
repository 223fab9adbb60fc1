import DomainRules.Proofs.RuleText.Reading
import DomainRules.Proofs.Text.CodePoint
import DomainRules.RuleText.Loose

/-! Rule text of any code points. Stores that encode refuse it at the first rule without a UTF-8 form that reading comes to,
and nothing else about it depends on the store. A text of characters holds the rules that it holds as a string. -/

namespace DomainRules

open Text (Loose Gap)

def StringStore.storage : StringStore → Storage
  | asIs => .asIs
  | clone => .clone
  | arena _ => .arena

@[simp] theorem StringStore.storage_new (count : Int) (storage : Storage) : (new count storage).storage = storage := by
  cases storage <;> rfl

/-- What is kept of a text, whatever was stored before it. -/
def Storage.kept (storage : Storage) (value : Loose) : Except Gap Loose :=
  if storage = .asIs then .ok value else (fun _ => value) <$> value.strict

theorem Storage.kept_ofString (storage : Storage) (plain : String) : storage.kept (.ofString plain) = .ok (.ofString plain) := by
  simp [kept]

theorem Storage.kept_of_gap {storage : Storage} {value : Loose} {gap : Gap} (strictly : storage ≠ .asIs)
    (h : value.strict = .error gap) : storage.kept value = .error gap := by
  simp [kept, strictly, h]

theorem Storage.eq_of_kept_eq_ok {storage : Storage} {value kept : Loose} (h : storage.kept value = .ok kept) : kept = value := by
  unfold Storage.kept at h
  split at h
  · exact (Except.ok.inj h).symm
  · obtain ⟨_, -, same⟩ := map_eq_ok.mp h
    exact same.symm

theorem StringStore.keepLoose_agree (store : StringStore) (value : Loose) :
    (store.keepLoose value).2 = store.storage.kept value ∧ (store.keepLoose value).1.storage = store.storage := by
  cases h : value.strict with
  | error gap => cases store <;> simp [keepLoose, h, Storage.kept, storage]
  | ok plain =>
    obtain rfl := Text.Loose.strict_eq_ok.mp h
    cases store with
    | asIs => simp [keepLoose, Storage.kept, storage]
    | clone => simp [keepLoose, Storage.kept, storage, keep]
    | arena pool => simp [keepLoose, Storage.kept, storage, keep, pool.store_snd]

namespace LooseText

/-- A line that holds a rule: neither empty nor a comment, but a tag and a payload. -/
def IsRuleLine (rule : Rule) (line : Loose) : Prop :=
  line ≠ [] ∧ isComment line = false ∧ line = .ofString rule.1.tag ++ rule.2

section
variable (check : Rule → Except DomainRules.Fault Unit) (storage : Storage)

/-- The rule in a line, if the store takes its payload. -/
def ruleOf (line : Loose) : Except Fault (Option Rule) :=
  if line.isEmpty || isComment line then .ok none
  else match ruleOfLine? line with
    | none => .error (.invalidLine line)
    | some rule => do
      let _ ← (storage.kept rule.2).mapError .unencodable
      (check rule).mapError .refused
      return some rule

def rulesOf : List Loose → Except Fault (List Rule)
  | [] => .ok []
  | line :: others => do
    let rule ← ruleOf check storage line
    let rules ← rulesOf others
    return rule.toList ++ rules

def required (rules : List Rule) : Except Fault (List Rule) := if rules = [] then .error .emptyRules else .ok rules

/-- A line that reading passes under any storage. -/
def Passes (line : Loose) : Prop :=
  line = [] ∨ isComment line = true ∨
    ∃ kind plain, IsRuleLine (kind, .ofString plain) line ∧ check (kind, .ofString plain) = .ok ()

/-- Lines among which there is a rule without a UTF-8 form, and only such before it as reading passes. -/
inductive ReachesGap : List Loose → Prop
  | here {line others rule gap} : IsRuleLine rule line → Loose.strict rule.2 = .error gap → ReachesGap (line :: others)
  | behind {line others} : Passes check line → ReachesGap others → ReachesGap (line :: others)

end

section
variable {check : Rule → Except DomainRules.Fault Unit} {storage other : Storage} {lines : List Loose}

theorem Progress.read_agree (progress : Progress) (line : Loose) :
    Agree (fun later rule => later.rules = progress.rules ++ rule.toList ∧ later.strings.storage = progress.strings.storage)
      (progress.read check line) (ruleOf check progress.strings.storage line) := by
  unfold Progress.read ruleOf
  split
  · exact .ok ⟨by simp, rfl⟩
  · cases ruleOfLine? line with
    | none => exact .error _
    | some rule =>
      obtain ⟨kind, payload⟩ := rule
      obtain ⟨answer, same⟩ := progress.strings.keepLoose_agree payload
      dsimp only
      rw [answer]
      cases kept : progress.strings.storage.kept payload with
      | error gap => exact .error _
      | ok value =>
        obtain rfl := Storage.eq_of_kept_eq_ok kept
        refine (Agree.refl ((check (kind, value)).mapError Fault.refused)).bind fun _ _ _ => .ok ⟨rfl, same⟩

theorem Progress.readAll_agree (progress : Progress) (lines : List Loose) :
    Agree (fun later found => later.rules = progress.rules ++ found) (lines.foldlM (read check) progress)
      (rulesOf check progress.strings.storage lines) := by
  induction lines generalizing progress with
  | nil => exact .ok (by simp)
  | cons line others ih =>
    rw [List.foldlM_cons, rulesOf]
    refine (progress.read_agree line).bind fun later rule ⟨taken, same⟩ => ?_
    rw [← bind_pure (others.foldlM _ later), ← same]
    refine (ih later).bind fun last found all => .ok ?_
    rw [all, taken, List.append_assoc]

/-- The rules of a text, told without a store. -/
theorem rules_eq (text : Loose) (useHint : Bool) :
    rules check text useHint storage =
      opening text useHint >>= fun opened => rulesOf check storage opened.2 >>= required := by
  rw [rules]
  refine (Agree.refl (opening text useHint)).bind_eq ?_
  rintro ⟨hint, lines⟩ _ rfl
  have read : Agree _ (lines.foldlM (Progress.read check) ⟨.new hint.total storage, []⟩) _ := Progress.readAll_agree _ lines
  simp only [StringStore.storage_new, List.nil_append] at read
  refine read.bind_eq fun later found same => ?_
  rw [same, required]
  split <;> rfl

end

theorem ruleOfLine?_eq_some {line payload : Loose} {kind : Kind} :
    ruleOfLine? line = some (kind, payload) ↔ line = .ofString kind.tag ++ payload := by
  constructor
  · intro h
    simp only [ruleOfLine?] at h
    split at h
    · rename_i behind name cut named
      obtain ⟨_, whole⟩ := RuleText.drop_takeWhile_eq_cons.mp cut
      simp only [Option.map_eq_some_iff, Kind.ofName?_eq_some, Prod.mk.injEq] at h
      obtain ⟨_, rfl, rfl, rfl⟩ := h
      rw [Text.Loose.strict_eq_ok.mp named] at whole
      rw [whole, Kind.tag]
      simp [Text.Loose.ofString]
    · contradiction
  · rintro rfl
    have clean : ∀ point ∈ Loose.ofString kind.name, decide (point ≠ .char ':') = true := by
      cases kind <;> simp [Loose.ofString, Kind.name]
    have whole : Loose.ofString kind.tag ++ payload = Loose.ofString kind.name ++ .char ':' :: payload := by
      simp [Kind.tag, Loose.ofString]
    have name : (Loose.ofString kind.tag ++ payload).takeWhile (· ≠ .char ':') = Loose.ofString kind.name := by
      rw [whole, List.takeWhile_append_of_pos clean]
      simp
    rw [ruleOfLine?, name, whole, List.drop_left]
    simp [Kind.ofName?_name]

theorem isRuleLine_iff {rule : Rule} {line : Loose} (h : (line.isEmpty || isComment line) = false) :
    IsRuleLine rule line ↔ ruleOfLine? line = some rule := by
  obtain ⟨kind, payload⟩ := rule
  obtain ⟨filled, told⟩ := Bool.or_eq_false_iff.mp h
  have : line ≠ [] := by rintro rfl; simp at filled
  simp [IsRuleLine, this, told, ruleOfLine?_eq_some]

section
variable {check : Rule → Except DomainRules.Fault Unit} {storage other : Storage} {line : Loose} {lines : List Loose}

theorem ruleOf_of_isRuleLine {rule : Rule} (h : IsRuleLine rule line) :
    ruleOf check storage line = (storage.kept rule.2).mapError .unencodable >>= fun _ =>
      (fun _ => some rule) <$> (check rule).mapError Fault.refused := by
  have kept : (line.isEmpty || isComment line) = false := by
    rw [h.2.1, Bool.or_false]
    simpa using h.1
  rw [ruleOf, kept, (isRuleLine_iff kept).mp h]
  simp

theorem ruleOf_of_skipped (h : line = [] ∨ isComment line = true) : ruleOf check storage line = .ok none := by
  have skipped : (line.isEmpty || isComment line) = true := by simpa using h
  rw [ruleOf, if_pos skipped]

/-- A line is skipped, holds a rule, or is no line of a rule text. -/
theorem ruleOf_cases (line : Loose) :
    (line = [] ∨ isComment line = true) ∨ (∃ rule, IsRuleLine rule line) ∨
      ∀ check storage, ruleOf check storage line = .error (.invalidLine line) := by
  cases skipped : line.isEmpty || isComment line with
  | true => exact .inl (by simpa using skipped)
  | false =>
    cases parsed : ruleOfLine? line with
    | none => exact .inr (.inr fun check storage => by simp [ruleOf, skipped, parsed])
    | some rule => exact .inr (.inl ⟨rule, (isRuleLine_iff skipped).mpr parsed⟩)

theorem Passes.ruleOf (h : Passes check line) : ∃ found, LooseText.ruleOf check storage line = .ok found := by
  rcases h with bare | comment | ⟨kind, plain, ruled, passed⟩
  · exact ⟨none, ruleOf_of_skipped (.inl bare)⟩
  · exact ⟨none, ruleOf_of_skipped (.inr comment)⟩
  · exact ⟨_, by rw [ruleOf_of_isRuleLine ruled, passed, Storage.kept_ofString]; rfl⟩

/-- Where a payload has a UTF-8 form, it does not matter how it is stored. -/
theorem ruleOf_of_encodable (encodes : ∀ rule gap, IsRuleLine rule line → Loose.strict rule.2 ≠ .error gap) :
    ruleOf check storage line = ruleOf check other line ∧
      ∀ found, ruleOf check storage line = .ok found → Passes check line := by
  rcases ruleOf_cases line with skipped | ⟨⟨kind, payload⟩, ruled⟩ | invalid
  · exact ⟨by rw [ruleOf_of_skipped skipped, ruleOf_of_skipped skipped], fun _ _ => skipped.imp_right .inl⟩
  · cases encoded : payload.strict with
    | error gap => exact absurd encoded (encodes _ gap ruled)
    | ok plain =>
      obtain rfl := Text.Loose.strict_eq_ok.mp encoded
      simp only [ruleOf_of_isRuleLine ruled, Storage.kept_ofString, Except.mapError, ok_bind, true_and]
      intro found passed
      obtain ⟨_, passed, -⟩ := map_eq_ok.mp passed
      exact .inr (.inr ⟨kind, plain, ruled, mapError_eq_ok.mp passed⟩)
  · exact ⟨by rw [invalid, invalid], fun found passed => by simp [invalid] at passed⟩

theorem rulesOf_congr (h : ¬ReachesGap check lines) : rulesOf check storage lines = rulesOf check other lines := by
  induction lines with
  | nil => rfl
  | cons line others ih =>
    obtain ⟨same, passes⟩ : ruleOf check storage line = ruleOf check other line ∧ _ :=
      ruleOf_of_encodable fun rule gap ruled cut => h (.here ruled cut)
    rw [rulesOf, rulesOf, ← same]
    cases read : ruleOf check storage line with
    | error fault => rfl
    | ok found => rw [ok_bind, ok_bind, ih fun later => h (.behind (passes found read) later)]

theorem rulesOf_of_reachesGap (h : ReachesGap check lines) (strictly : storage ≠ .asIs) :
    ∃ gap, rulesOf check storage lines = .error (.unencodable gap) := by
  induction h with
  | @here line others rule gap ruled cut =>
    exact ⟨gap, by rw [rulesOf, ruleOf_of_isRuleLine ruled, Storage.kept_of_gap strictly cut]; rfl⟩
  | behind passes _ ih =>
    obtain ⟨found, read⟩ := passes.ruleOf
    obtain ⟨gap, stopped⟩ := ih
    exact ⟨gap, by rw [rulesOf, read, ok_bind, stopped, error_bind]⟩

/-- Faults that are not about the form of a payload. -/
def Fault.IsPlain (fault : Fault) : Prop := ∀ gap, fault ≠ .unencodable gap

theorem faults_ruleOf_asIs (line : Loose) : Faults Fault.IsPlain (ruleOf check .asIs line) := by
  rcases ruleOf_cases line with skipped | ⟨rule, ruled⟩ | invalid
  · rw [ruleOf_of_skipped skipped]
    exact .ok _
  · rw [ruleOf_of_isRuleLine ruled]
    exact (Faults.mapError _ fun _ => nofun).map _
  · rw [invalid]
    exact Faults.error.mpr nofun

theorem faults_rulesOf_asIs (lines : List Loose) : Faults Fault.IsPlain (rulesOf check .asIs lines) := by
  induction lines with
  | nil => exact .ok _
  | cons line others ih => exact (faults_ruleOf_asIs line).bind fun _ => ih.bind fun _ => .ok _

theorem rulesOf_eq_of_kept (same : storage.kept = other.kept) : rulesOf check storage lines = rulesOf check other lines := by
  have one : ruleOf check storage = ruleOf check other := by
    funext line
    simp only [ruleOf, same]
  induction lines with
  | nil => rfl
  | cons line others ih => rw [rulesOf, rulesOf, one, ih]

end

/-- Reading a text comes to a payload without a UTF-8 form before anything ends it. -/
def MeetsGap (check : Rule → Except DomainRules.Fault Unit) (text : Loose) (useHint : Bool) : Prop :=
  ∃ opened, opening text useHint = .ok opened ∧ ReachesGap check opened.2

theorem faults_takeHint (lines : List Loose) : Faults Fault.IsPlain (takeHint lines) := by
  induction lines with
  | nil => exact .ok _
  | cons line others ih =>
    rw [takeHint]
    split
    · exact ih
    · refine Faults.bind ?_ fun found => by cases found <;> exact .ok _
      unfold hintOf?
      split
      · exact Faults.mapError _ fun _ => nofun
      · split
        · exact Faults.error.mpr nofun
        · exact .ok _

theorem faults_opening (text : Loose) (useHint : Bool) : Faults Fault.IsPlain (opening text useHint) := by
  cases useHint with
  | true => exact faults_takeHint _
  | false => exact .ok _

theorem faults_required (found : List Rule) : Faults Fault.IsPlain (required found) := by
  unfold required
  split
  · exact Faults.error.mpr nofun
  · exact .ok _

section
variable {check : Rule → Except DomainRules.Fault Unit} {text : Loose} {useHint : Bool} {storage other : Storage}

theorem faults_rules_asIs : Faults Fault.IsPlain (rules check text useHint .asIs) := by
  rw [rules_eq]
  exact (faults_opening text useHint).bind fun opened => (faults_rulesOf_asIs opened.2).bind faults_required

theorem rules_asIs_ne (gap : Gap) : rules check text useHint .asIs ≠ .error (.unencodable gap) :=
  fun h => faults_rules_asIs _ h gap rfl

theorem rules_of_meetsGap (h : MeetsGap check text useHint) (strictly : storage ≠ .asIs) :
    ∃ gap, rules check text useHint storage = .error (.unencodable gap) := by
  obtain ⟨opened, begun, reaches⟩ := h
  obtain ⟨gap, stopped⟩ := rulesOf_of_reachesGap reaches strictly
  exact ⟨gap, by rw [rules_eq, begun, ok_bind, stopped, error_bind]⟩

theorem rules_congr (h : ¬MeetsGap check text useHint) :
    rules check text useHint storage = rules check text useHint other := by
  rw [rules_eq, rules_eq]
  cases begun : opening text useHint with
  | error fault => rfl
  | ok opened =>
    have same : rulesOf check storage opened.2 = rulesOf check other opened.2 :=
      rulesOf_congr fun reaches => h ⟨opened, begun, reaches⟩
    rw [ok_bind, ok_bind, same]

/-- Two stores come to the same rules or the same fault just if both leave payloads as they are, or neither does, or each
payload that they come to has a UTF-8 form. -/
theorem rules_eq_iff :
    rules check text useHint storage = rules check text useHint other ↔
      (storage = .asIs ↔ other = .asIs) ∨ ¬MeetsGap check text useHint := by
  constructor
  · intro same
    by_contra differ
    obtain ⟨uneven, uncleared⟩ := not_or.mp differ
    have meets : MeetsGap check text useHint := not_not.mp uncleared
    by_cases plain : storage = .asIs
    · have strictly : other ≠ .asIs := fun also => uneven (by simp [plain, also])
      obtain ⟨gap, stopped⟩ := rules_of_meetsGap meets strictly
      exact rules_asIs_ne gap (plain ▸ same.trans stopped)
    · obtain ⟨gap, stopped⟩ := rules_of_meetsGap meets plain
      have also : other = .asIs := by simpa [plain] using uneven
      exact rules_asIs_ne gap (also ▸ same.symm.trans stopped)
  · rintro (even | clear)
    · have same : storage.kept = other.kept := by
        funext value
        simp only [Storage.kept, even]
      simp only [rules_eq, rulesOf_eq_of_kept same]
    · exact rules_congr clear

/-- Where two stores both come to rules, these are the same. -/
theorem rules_unique {one more : List Rule} (h : rules check text useHint storage = .ok one)
    (h' : rules check text useHint other = .ok more) : one = more := by
  by_cases meets : MeetsGap check text useHint
  · have plain {storage : Storage} {found : List Rule} (h : rules check text useHint storage = .ok found) : storage = .asIs := by
      by_contra strictly
      obtain ⟨gap, stopped⟩ := rules_of_meetsGap meets strictly
      rw [h] at stopped
      contradiction
    obtain rfl := plain h
    obtain rfl := plain h'
    exact Except.ok.inj (h.symm.trans h')
  · exact Except.ok.inj (h.symm.trans ((rules_congr meets).trans h'))

end

end LooseText

end DomainRules
