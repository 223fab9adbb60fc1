import DomainRules.Benchmark
import DomainRules.Proofs.RuleText.Characters
import DomainRules.Proofs.Snapshot.Encoding

/-! Rule text means the same under all options, so that presets never disagree. -/

namespace DomainRules

/-- A fault that is not about presets that disagree. -/
def Fault.Concordant (fault : Fault) : Prop := ∀ names, fault ≠ .disagreement names

theorem Rule.faults_check [Regex.Host] (options : Options) (rule : Rule) :
    Faults Fault.Concordant (rule.check options) := by
  obtain ⟨kind, payload⟩ := rule
  cases kind with
  | domain => exact .ok _
  | suffix =>
    simp only [check, Kind.check]
    split
    · exact Faults.error.mpr (by simp [Fault.Concordant])
    · exact .ok _
  | keyword => exact .ok _
  | regexp => exact (Faults.mapError _ fun fault => by cases fault <;> simp [Fault.Concordant, Fault.ofRegex]).map _

/-- Options matter to which values are refused only if suffixes are inserted by recursion. -/
theorem Rule.check_congr [Regex.Host] {first second : Options} (flat : first.suffix ≠ .trieRecursive)
    (other : second.suffix ≠ .trieRecursive) : Rule.check first = Rule.check second := by
  funext ⟨kind, payload⟩
  cases kind <;> simp [check, Kind.check, flat, other]

theorem Snapshot.faults_decode [Regex.Host] (bytes : List UInt8) (options : Options) :
    Faults Fault.Concordant (decode bytes options) := by
  refine (Faults.of_agree (decode_agree bytes options) (faults_reading bytes)).mono ?_
  rintro _ (_ | refused)
  · simp [Fault.Concordant]
  · exact Rule.faults_check options _ _ refused

namespace RuleText

variable [Regex.Host]

theorem faults_build (source : Source) (useHint : Bool) (options : Options) :
    Faults Fault.Concordant (build source useHint options) := by
  refine (Faults.of_agree (build_agree source useHint options) (source.faults_reading useHint)).mono ?_
  rintro _ (_ | _ | _ | _ | refused)
  · simp [Fault.Concordant]
  · simp [Fault.Concordant]
  · simp [Fault.Concordant]
  · simp [Fault.Concordant]
  · exact Rule.faults_check options _ _ refused

/-- A set built from rule text covers what its rule lines cover. -/
theorem covers_build {source : Source} {useHint : Bool} {options : Options} {set : RuleSet}
    (h : build source useHint options = .ok set) :
    ∃ lines, source.readLines = .ok lines ∧
      ∀ name, set.covers name = true ↔ ∃ line ∈ lines, ∃ rule, IsRuleLine rule line ∧ rule.Covers name := by
  obtain ⟨⟨hint, rules⟩, found, represents⟩ := (h ▸ build_agree source useHint options).of_ok
  obtain ⟨lines, read, mem⟩ := Source.reading_eq_ok found
  refine ⟨lines, read, fun name => ?_⟩
  rw [represents.covers_iff]
  constructor
  · rintro ⟨rule, held, covers⟩
    obtain ⟨line, written, ruled⟩ := (mem rule).mp held
    exact ⟨line, written, rule, ruled, covers⟩
  · rintro ⟨line, written, rule, ruled, covers⟩
    exact ⟨rule, (mem rule).mpr ⟨line, written, ruled⟩, covers⟩

theorem covers_build_eq {source : Source} {useHint : Bool} {first second : Options} {one other : RuleSet}
    (h : build source useHint first = .ok one) (h' : build source useHint second = .ok other) (name : String) :
    one.covers name = other.covers name := by
  obtain ⟨lines, read, covers⟩ := covers_build h
  obtain ⟨_, reread, covers'⟩ := covers_build h'
  rw [read, Except.ok.injEq] at reread
  subst reread
  rw [Bool.eq_iff_iff, covers, covers']

end RuleText

namespace Benchmark

theorem mismatches_eq_nil {sets : List RuleSet} {names : List String}
    (same : ∀ one ∈ sets, ∀ other ∈ sets, ∀ name, one.covers name = other.covers name) :
    mismatches RuleSet.covers sets names = [] := by
  refine List.filter_eq_nil_iff.mpr fun name _ differ => ?_
  simp only [Bool.and_eq_true, List.contains_iff_mem, List.mem_map] at differ
  obtain ⟨⟨one, mem, yes⟩, other, mem', no⟩ := differ
  have := same one mem other mem' name
  simp [yes, no] at this

variable [Regex.Host]

theorem disagreements_eq_nil {source : RuleText.Source} {names differing : List String} {presets : List Preset}
    (h : disagreements RuleSet.covers source names presets = .ok differing) : differing = [] := by
  obtain ⟨sets, built, h⟩ := bind_eq_ok.mp h
  obtain rfl := pure_eq_ok.mp h
  refine mismatches_eq_nil fun one mem other mem' name => ?_
  obtain ⟨_, -, first⟩ := exists_of_mem_mapM built mem
  obtain ⟨_, -, second⟩ := exists_of_mem_mapM built mem'
  exact RuleText.covers_build_eq first second name

theorem faults_trial (source : RuleText.Source) (options : Options) (iterations : Int) (workload : List String)
    (label : String) :
    Faults Fault.Concordant (trial source options iterations workload label) := by
  unfold trial
  dsimp only
  by_cases idle : iterations ≤ 0
  · rw [if_pos idle]
    exact Faults.error.mpr (by simp [Fault.Concordant])
  · rw [if_neg idle]
    refine (RuleText.faults_build source true options).bind fun set => ?_
    refine ((Snapshot.faults_encode set).mono (by simp [Fault.Concordant])).bind fun bytes => ?_
    exact (Snapshot.faults_decode bytes options).bind fun _ => .ok _

theorem faults_disagreements (source : RuleText.Source) (names : List String) (presets : List Preset) :
    Faults Fault.Concordant
      (disagreements RuleSet.covers source names presets) := by
  refine Faults.bind (Faults.mapM ?_ presets) fun _ => .ok _
  rintro ⟨_, options⟩
  exact RuleText.faults_build source true options

theorem faults_compare (source : RuleText.Source) (iterations : Int) (workload : List String) (presets : List Preset) :
    Faults Fault.Concordant
      (compare RuleSet.covers source iterations workload presets) := by
  unfold compare
  dsimp only
  -- The only place that reports a disagreement is never reached, for there are no differing names.
  have asked := faults_disagreements source (fixedNames.map (·.2) ++ workload) presets
  cases found : disagreements RuleSet.covers source (fixedNames.map (·.2) ++ workload) presets with
  | error fault =>
    rw [found] at asked
    rw [error_bind]
    exact Faults.error.mpr (Faults.error.mp asked)
  | ok differing =>
    obtain rfl := disagreements_eq_nil found
    rw [ok_bind, if_neg (not_not.mpr rfl)]
    refine Faults.mapM ?_ presets
    rintro ⟨label, options⟩
    exact faults_trial source options iterations workload label

end Benchmark

namespace RuleText

/-- Rule text has one meaning, whatever indexes, storage and order its rules are built with. This holds of characters; where
reading comes to a payload without a UTF-8 form, a store that encodes refuses what one that leaves payloads as they are may
take, and just there two stores come to different ends. -/
theorem builds_agree [Regex.Host] (source : Source) (useHint : Bool) (first second : Options) :
    (∀ one other, build source useHint first = .ok one → build source useHint second = .ok other →
      ∃ lines, source.readLines = .ok lines ∧ ∀ name, one.covers name = other.covers name ∧
        (one.covers name = true ↔ ∃ line ∈ lines, ∃ rule, IsRuleLine rule line ∧ rule.Covers name)) ∧
    (first.suffix ≠ .trieRecursive → second.suffix ≠ .trieRecursive →
      ((∃ one, build source useHint first = .ok one) ↔ ∃ other, build source useHint second = .ok other) ∧
      ∀ fault, build source useHint first = .error fault ↔ build source useHint second = .error fault) ∧
    (∀ names presets differing, Benchmark.disagreements RuleSet.covers source names presets = .ok differing →
      differing = []) ∧
    (∀ iterations workload presets names,
      Benchmark.compare RuleSet.covers source iterations workload presets ≠ .error (.disagreement names)) ∧
    ∀ check : LooseText.Rule → Except Fault Unit,
      (∀ text,
        (∀ rules others, LooseText.rules check text useHint first.storage = .ok rules →
          LooseText.rules check text useHint second.storage = .ok others → rules = others) ∧
        (LooseText.rules check text useHint first.storage = LooseText.rules check text useHint second.storage ↔
          (first.storage = .asIs ↔ second.storage = .asIs) ∨ ¬LooseText.MeetsGap check text useHint)) ∧
      ((∀ rule, check (.ofStrings rule) = rule.check first) → ∀ whole,
        (∀ set, build (.text whole) useHint first = .ok set →
          ∃ rules : List Rule, LooseText.rules check (.ofString whole) useHint first.storage = .ok (rules.map .ofStrings) ∧
            ∀ name, set.covers name = true ↔ ∃ rule ∈ rules, rule.Covers name) ∧
        ∀ fault, build (.text whole) useHint first = .error fault →
          LooseText.rules check (.ofString whole) useHint first.storage = .error (.ofStrings fault)) := by
  refine ⟨fun one other built rebuilt => ?_, fun flat flat' => ?_, fun _ _ _ => Benchmark.disagreements_eq_nil,
    fun iterations workload presets names fails => ?_,
    fun check => ⟨fun text => ⟨fun _ _ => LooseText.rules_unique, LooseText.rules_eq_iff⟩,
      fun same whole => ⟨fun set built => ?_, fun fault built => ?_⟩⟩⟩
  · obtain ⟨lines, read, covers⟩ := covers_build built
    exact ⟨lines, read, fun name => ⟨covers_build_eq built rebuilt name, covers name⟩⟩
  · have one := build_agree source useHint first
    have other := build_agree source useHint second
    rw [Rule.check_congr flat flat'] at one
    exact ⟨one.ok_iff.trans other.ok_iff.symm, fun fault => (one.error_iff fault).trans (other.error_iff fault).symm⟩
  · exact Benchmark.faults_compare source iterations workload presets _ fails names rfl
  · have agree := LooseText.rules_agree_build same whole useHint
    rw [built] at agree
    obtain ⟨_, read, rules, rfl, represents⟩ := agree.of_ok
    exact ⟨rules, read, represents.covers_iff⟩
  · have agree := LooseText.rules_agree_build same whole useHint
    rw [built] at agree
    exact (agree.error_iff _).mp rfl

/-- A recursive trie asked last to first, and lists asked first to last. -/
theorem builds_agree_crossed :
    let source := Source.text "suffix:b\r\n\n#suffix:c\nkeyword:x\ndomain:d\nsuffix:.b"
    let crossed : Options := { suffix := .trieRecursive, storage := .clone, order := Kind.all.reverse, order_perm := by decide }
    ∃ one other, build source true .linear = .ok one ∧ build source true crossed = .ok other ∧
      ∀ name, one.covers name = other.covers name := by
  intro source crossed
  obtain ⟨one, built⟩ := exists_of_isOk (x := build source true .linear) (by decide +kernel)
  obtain ⟨other, rebuilt⟩ := exists_of_isOk (x := build source true crossed) (by decide +kernel)
  obtain ⟨_, _, same⟩ := (builds_agree source true .linear crossed).1 one other built rebuilt
  exact ⟨one, other, built, rebuilt, fun name => (same name).1⟩

/-- A surrogate in a suffix, which two stores refuse and one takes. -/
theorem surrogate_divides_stores :
    let text := Text.Loose.ofString "suffix:b\nsuffix:" ++ .surrogate 0 :: Text.Loose.ofString ".b"
    let rules (storage : Storage) := LooseText.rules (fun _ => .ok ()) text true storage
    rules .asIs = .ok [(.suffix, Text.Loose.ofString "b"), (.suffix, .surrogate 0 :: Text.Loose.ofString ".b")] ∧
    rules .clone = .error (.unencodable ⟨0, 0, 1⟩) ∧ rules .arena = .error (.unencodable ⟨0, 0, 1⟩) := by
  decide +kernel

end RuleText

end DomainRules
