import DomainRules.Proofs.Snapshot.Encoding

/-! A snapshot restores to a set that answers as the one it was made from, whichever indexes the two use. -/

namespace DomainRules

/-- A matcher that a collector has frozen into, whatever the collector took before. -/
def Matcher.Frozen [Regex.Host] (matcher : Matcher) : Prop :=
  ∃ kind options capacity values collector, (Collector.new kind options capacity).insertAll values = .ok collector ∧
    collector.freeze.1 = .ok matcher

theorem Matcher.Frozen.represents [Regex.Host] {matcher : Matcher} (h : matcher.Frozen) :
    ∃ kind options values, matcher.Represents options kind values ∧ forM values (kind.check options) = .ok () := by
  obtain ⟨kind, options, capacity, values, collector, inserted, frozen⟩ := h
  obtain ⟨_, passed, holds⟩ := (inserted ▸ (Collector.holds_new options kind capacity).insertAll values).of_ok
  obtain ⟨other, same, represents⟩ := holds.freeze
  rw [frozen, Except.ok.injEq] at same
  exact ⟨kind, options, values, same ▸ represents, passed⟩

/-- The rules that a frozen matcher lists say what it covers. -/
theorem Matcher.Frozen.covers_iff [Regex.Host] {matcher : Matcher} (h : matcher.Frozen) (name : String) :
    matcher.covers name = true ↔ ∃ rule ∈ matcher.rules, matcher.kind.Covers rule name := by
  obtain ⟨kind, options, values, represents, -⟩ := h.represents
  rw [represents.covers_iff, represents.rules_eq, represents.kind_eq, Kind.listed_iff]

theorem Matcher.Frozen.compiles [Regex.Host] {matcher : Matcher} (h : matcher.Frozen) (regexp : matcher.kind = .regexp)
    {rule : String} (mem : rule ∈ matcher.rules) : ∃ pattern, Regex.Pattern.compile rule = .ok pattern := by
  obtain ⟨kind, options, values, represents, passed⟩ := h.represents
  obtain rfl : kind = .regexp := represents.kind_eq.symm.trans regexp
  rw [represents.rules_eq] at mem
  exact Kind.check_regexp_eq_ok.mp (forM_eq_ok.mp passed rule mem)

namespace RuleSet

theorem mem_rules {set : RuleSet} {kind : Kind} {payload : String} :
    payload ∈ set.rules kind ↔ ∃ matcher ∈ set.matchers, matcher.kind = kind ∧ payload ∈ matcher.rules := by
  simp [rules, ofKind, and_assoc]

theorem covers_iff_allRules [Regex.Host] {set : RuleSet} (frozen : ∀ matcher ∈ set.matchers, matcher.Frozen) (name : String) :
    set.covers name = true ↔ ∃ rule ∈ set.allRules, rule.Covers name := by
  simp only [covers, List.any_eq_true, mem_allRules, mem_rules]
  constructor
  · rintro ⟨matcher, mem, covers⟩
    obtain ⟨rule, listed, covers⟩ := ((frozen matcher mem).covers_iff name).mp covers
    exact ⟨(matcher.kind, rule), ⟨matcher, mem, rfl, listed⟩, covers⟩
  · rintro ⟨⟨_, rule⟩, ⟨matcher, mem, rfl, listed⟩, covers⟩
    exact ⟨matcher, mem, ((frozen matcher mem).covers_iff name).mpr ⟨rule, listed, covers⟩⟩

/-- What a set lists can be refused for its depth only. -/
theorem check_eq [Regex.Host] {set : RuleSet} (frozen : ∀ matcher ∈ set.matchers, matcher.Frozen) (options : Options)
    {rule : Rule} (mem : rule ∈ set.allRules) :
    rule.check options =
      if rule.1 = .suffix ∧ options.suffix = .trieRecursive ∧ Suffix.Trie.recursionLimit < Name.depth rule.2 then
        .error (.tooDeep rule.2)
      else .ok () := by
  obtain ⟨kind, payload⟩ := rule
  cases kind with
  | domain => rfl
  | suffix => simp [Rule.check, Kind.check]
  | keyword => rfl
  | regexp =>
    obtain ⟨matcher, held, regexp, listed⟩ := mem_rules.mp (mem_allRules.mp mem)
    simpa [Rule.check] using Kind.check_regexp_eq_ok.mpr ((frozen matcher held).compiles regexp listed)

end RuleSet

namespace Snapshot

theorem decode_encode_same_answers [Regex.Host] (set : RuleSet) (frozen : ∀ matcher ∈ set.matchers, matcher.Frozen)
    (fits : Fits set) (options : Options) :
    ∃ bytes, encode set = .ok bytes ∧
    ((options.suffix = .trieRecursive → ∀ suffix ∈ set.rules .suffix, Name.depth suffix ≤ Suffix.Trie.recursionLimit) →
      ∃ restored, decode bytes options = .ok restored ∧ (∀ name, restored.covers name = set.covers name) ∧
        (options.domain = .linear → options.suffix = .linear → ∀ kind, restored.rules kind = set.rules kind)) ∧
    (options.suffix = .trieRecursive → (∃ suffix ∈ set.rules .suffix, Suffix.Trie.recursionLimit < Name.depth suffix) →
      ∃ suffix ∈ set.rules .suffix, decode bytes options = .error (.tooDeep suffix)) := by
  obtain ⟨bytes, saved⟩ := exists_encode.mpr fits
  have agree := decode_agree bytes options
  rw [reading_encode saved] at agree
  refine ⟨bytes, saved, ?_, ?_⟩
  · intro shallow
    have passed : forM set.allRules (Rule.check options) = .ok () := forM_eq_ok.mpr fun rule mem => by
      rw [RuleSet.check_eq frozen options mem, if_neg]
      rintro ⟨suffix, recursive, deep⟩
      exact absurd (shallow recursive rule.2 (suffix ▸ RuleSet.mem_allRules.mp mem)) (Nat.not_le.mpr deep)
    rw [passed, map_ok] at agree
    obtain ⟨restored, decoded, represents⟩ := agree.exists_ok
    refine ⟨restored, decoded, fun name => ?_, fun domain suffix kind => ?_⟩
    · rw [Bool.eq_iff_iff, represents.covers_iff, RuleSet.covers_iff_allRules frozen]
    · rw [represents.rules_eq, RuleSet.payloads_allRules]
      cases kind <;> simp [Kind.listed, domain, suffix]
  · rintro recursive ⟨suffix, mem, deep⟩
    have refused : forM set.allRules (Rule.check options) ≠ .ok () := fun passed => by
      have held : (Kind.suffix, suffix) ∈ set.allRules := RuleSet.mem_allRules.mpr mem
      have := forM_eq_ok.mp passed _ held
      rw [RuleSet.check_eq frozen options held, if_pos ⟨rfl, recursive, deep⟩] at this
      contradiction
    -- Some listed rule is refused, and a frozen set lists none that is refused for anything but its depth.
    obtain ⟨rule, listed, fault, fails, stopped⟩ := exists_of_forM_ne_ok refused
    rw [RuleSet.check_eq frozen options listed] at fails
    split at fails
    · rename_i cause
      cases fails
      rw [stopped, map_error] at agree
      exact ⟨rule.2, cause.1 ▸ RuleSet.mem_allRules.mp listed, (agree.error_iff _).mpr rfl⟩
    · contradiction

/-- Suffixes in two matchers, one of them a trie that has dropped a rule, and a name given twice. -/
theorem decode_encode_same_answers_two_of_a_kind :
    let set : RuleSet := ⟨[.suffixTrie false (Suffix.Trie.ofList ["c.b", "b"]).children.freeze,
      .domainList ["b", "b"], .suffixList ["a.b", ""]]⟩
    (∀ matcher ∈ set.matchers, matcher.Frozen) ∧ Fits set ∧
    ∃ bytes restored, encode set = .ok bytes ∧ decode bytes { suffix := .trieRecursive } = .ok restored ∧
      ∀ name, restored.covers name = set.covers name := by
  intro set
  have frozen : ∀ matcher ∈ set.matchers, matcher.Frozen :=
    List.forall_mem_cons.mpr ⟨⟨.suffix, {}, 0, ["c.b", "b"], _, rfl, rfl⟩,
      List.forall_mem_cons.mpr ⟨⟨.domain, .linear, 0, ["b", "b"], _, rfl, rfl⟩,
        List.forall_mem_singleton.mpr ⟨.suffix, .linear, 0, ["a.b", ""], _, rfl, rfl⟩⟩⟩
  have fits : Fits set := ⟨fun kind => by cases kind <;> decide, fun kind => by cases kind <;> decide⟩
  obtain ⟨bytes, saved, shallow, -⟩ := decode_encode_same_answers set frozen fits { suffix := .trieRecursive }
  obtain ⟨restored, decoded, same, -⟩ := shallow fun _ => by decide
  exact ⟨frozen, fits, bytes, restored, saved, decoded, same⟩

end Snapshot

end DomainRules
