import DomainRules.Proofs.RuleText.Streaming
import DomainRules.Proofs.Snapshot.RoundTrip

/-! Saving what a rule file holds. A set that is built under some options restores under them with the same answers, if it
fits into a snapshot at all, and what comes from a file of less than four gibibytes fits. -/

namespace DomainRules

section
variable [Regex.Host] {options : Options} {rules : List Rule} {set : RuleSet}

/-- The rules that a set lists cover what all rules together cover. -/
theorem RuleSet.Represents.exists_allRules_iff (h : set.Represents options rules) (name : String) :
    (∃ rule ∈ set.allRules, rule.Covers name) ↔ ∃ rule ∈ rules, rule.Covers name := by
  have own (kind : Kind) := kind.listed_iff options (payloads kind rules) name
  simp only [Rule.Covers, Prod.exists, RuleSet.mem_allRules, h.rules_eq, own, mem_payloads]

theorem RuleSet.Represents.mem_of_mem_allRules (h : set.Represents options rules) {rule : Rule} (mem : rule ∈ set.allRules) :
    rule ∈ rules := by
  rw [RuleSet.mem_allRules, h.rules_eq] at mem
  exact mem_payloads.mp (rule.1.listed_subset options _ mem)

theorem RuleSet.Represents.passed_allRules (h : set.Represents options rules)
    (passed : forM rules (Rule.check options) = .ok ()) : forM set.allRules (Rule.check options) = .ok () :=
  forM_eq_ok.mpr fun rule mem => forM_eq_ok.mp passed rule (h.mem_of_mem_allRules mem)

/-- What is restored under the same options is made of the rules that the saved set lists. -/
theorem Snapshot.exists_decode_encode (h : set.Represents options rules)
    (passed : forM rules (Rule.check options) = .ok ()) {bytes : List UInt8} (saved : encode set = .ok bytes) :
    ∃ restored, decode bytes options = .ok restored ∧ restored.Represents options set.allRules := by
  have agree := decode_agree bytes options
  rw [reading_encode saved, h.passed_allRules passed, map_ok] at agree
  exact agree.exists_ok

theorem Snapshot.decode_encode_of_represents (h : set.Represents options rules)
    (passed : forM rules (Rule.check options) = .ok ()) {bytes : List UInt8} (saved : encode set = .ok bytes) :
    ∃ restored, decode bytes options = .ok restored ∧ ∀ name, restored.covers name = set.covers name := by
  obtain ⟨restored, decoded, represents⟩ := exists_decode_encode h passed saved
  refine ⟨restored, decoded, fun name => ?_⟩
  rw [Bool.eq_iff_iff, represents.covers_iff, h.covers_iff, h.exists_allRules_iff]

end

namespace RuleText

theorem fits_of_build [Regex.Host] {text : String} {useHint : Bool} {options : Options} {set : RuleSet}
    (small : (Text.Utf8.encode text).length < 2 ^ 32) (h : build (.text text) useHint options = .ok set) :
    Snapshot.Fits set := by
  obtain ⟨rules, represents, -, hint, found⟩ := exists_represents_of_build h
  have taken : rulesOf (Rule.check options) .ok (lines text) = .ok rules := reading_eq_ok found
  constructor
  · intro kind
    calc (set.rules kind).length
      _ ≤ (payloads kind rules).length := represents.rules_eq kind ▸ kind.length_listed_le options _
      _ ≤ rules.length := by rw [payloads, List.length_map]; exact List.length_filter_le _ _
      _ ≤ (lines text).length := length_rulesOf_le taken
      _ ≤ text.toList.length := length_lines_le text
      _ ≤ (Text.Utf8.encode text).length := Text.Utf8.length_le_length_encode text
      _ < 2 ^ 32 := small
  · intro kind payload listed
    have held : (kind, payload) ∈ rules := represents.mem_of_mem_allRules (RuleSet.mem_allRules.mpr listed)
    obtain ⟨read, same, ruled⟩ := rulesOf_eq_ok taken
    obtain ⟨line, mem, -, -, spelled⟩ := (ruled _).mp held
    rw [mapM_ok_self, Except.ok.injEq] at same
    have inside : payload.toList.Sublist text.toList := by
      refine List.Sublist.trans ?_ (sublist_of_mem_lines (same ▸ mem))
      simp [spelled]
    exact (Text.Utf8.length_encode_le inside).trans_lt small

end RuleText

namespace RuleFile

variable [Regex.Host]

theorem load_encode (text : String) (access : Access) (useHint : Bool) (options : Options) :
    load (Text.Utf8.encode text) access useHint options = RuleText.build (.text text) useHint options := by
  cases access with
  | whole => rw [load, source, RuleText.build, RuleText.parse_bytes_encode, RuleText.build]
  | byLine => rw [load, source, RuleText.build, RuleText.parse_byteLines_encode, RuleText.build]

/-- A file that loads encodes a text. -/
theorem exists_encode_of_load {bytes : List UInt8} {access : Access} {useHint : Bool} {options : Options} {set : RuleSet}
    (h : load bytes access useHint options = .ok set) : ∃ text, Text.Utf8.encode text = bytes := by
  obtain ⟨_, -, -, _, found⟩ := RuleText.exists_represents_of_build h
  obtain ⟨lines, read, -⟩ := RuleText.Source.reading_eq_ok found
  cases access with
  | whole =>
    obtain ⟨text, decoded, -⟩ := map_eq_ok.mp read
    exact ⟨text, RuleText.decode_eq_ok.mp decoded⟩
  | byLine =>
    by_contra none
    obtain ⟨good, bad, rest, fault, split, -, failed⟩ := RuleText.exists_undecodable_line (not_exists.mp none)
    have reached : bad ∈ byteLines bytes := by simp [split]
    obtain ⟨line, decoded⟩ := exists_ok_of_mem_mapM read reached
    simp [failed] at decoded

theorem fits_of_load {bytes : List UInt8} {access : Access} {useHint : Bool} {options : Options} {set : RuleSet}
    (small : bytes.length < 2 ^ 32) (h : load bytes access useHint options = .ok set) : Snapshot.Fits set := by
  obtain ⟨text, rfl⟩ := exists_encode_of_load h
  exact RuleText.fits_of_build small (load_encode text access useHint options ▸ h)

end RuleFile

end DomainRules
