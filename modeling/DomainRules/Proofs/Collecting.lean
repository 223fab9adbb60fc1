import DomainRules.Proofs.Outcome
import DomainRules.Proofs.Suffix.Depth
import Mathlib.Data.List.Forall2
import Mathlib.Data.List.Sort

/-! What collectors hold and what they freeze into. A store stands for the values that it has taken, a value is
refused or taken whatever the store holds, and every representation of a kind answers alike. -/

namespace DomainRules

section
variable [Regex.Host]

/-- Which names a rule of a kind covers. -/
def Kind.Covers : Kind → String → String → Prop
  | .domain, rule, name => name = rule
  | .suffix, rule, name => Name.Covers rule name
  | .keyword, rule, name => ∃ before behind, name = before ++ rule ++ behind
  | .regexp, rule, name => ∃ pattern, Regex.Pattern.compile rule = .ok pattern ∧ pattern.search name = true

theorem compilePattern_eq_ok {source : String} {pattern : Regex.Pattern} :
    compilePattern source = .ok pattern ↔ Regex.Pattern.compile source = .ok pattern := by
  cases h : Regex.Pattern.compile source <;> simp [compilePattern, h, Except.mapError]

/-- Whether a value can be a rule of a kind under the options. -/
def Kind.check (options : Options) : Kind → String → Except Fault Unit
  | .suffix, value =>
    if options.suffix = .trieRecursive ∧ Suffix.Trie.recursionLimit < Name.depth value then .error (.tooDeep value)
    else .ok ()
  | .regexp, value => (fun _ => ()) <$> compilePattern value
  | _, _ => .ok ()

theorem Kind.check_suffix_eq_ok {options : Options} {suffix : String} :
    Kind.suffix.check options suffix = .ok () ↔
      (options.suffix = .trieRecursive → Name.depth suffix ≤ Suffix.Trie.recursionLimit) := by
  simp [check]

theorem Kind.check_regexp_eq_ok {options : Options} {source : String} :
    Kind.regexp.check options source = .ok () ↔ ∃ pattern, Regex.Pattern.compile source = .ok pattern := by
  simp only [check, ← compilePattern_eq_ok]
  cases compilePattern source <;> simp

theorem Kind.check_eq_error {options : Options} {kind : Kind} {value : String} {fault : Fault} :
    kind.check options value = .error fault ↔
      kind = .suffix ∧ options.suffix = .trieRecursive ∧ Suffix.Trie.recursionLimit < Name.depth value ∧
        fault = .tooDeep value ∨
      kind = .regexp ∧ ∃ cause, Regex.Pattern.compile value = .error cause ∧ fault = .ofRegex value cause := by
  cases kind with
  | domain => simp [check]
  | suffix =>
    by_cases deep : options.suffix = .trieRecursive ∧ Suffix.Trie.recursionLimit < Name.depth value
    · simp [check, deep, eq_comm]
    · simp only [check, if_neg deep]
      simpa using fun recursive below => absurd ⟨recursive, below⟩ deep
  | keyword => simp [check]
  | regexp => cases compiled : Regex.Pattern.compile value <;> simp [check, compilePattern, compiled, Except.mapError, eq_comm]

end

def sorted (values : List String) : List String := (Std.TreeSet.ofList values).toList

/-- The rules that the index of a kind lists after it has taken the given values. -/
def Kind.listed (options : Options) (values : List String) : Kind → List String
  | .domain =>
    match options.domain with
    | .linear => values
    | .hash => sorted values
  | .suffix =>
    match options.suffix with
    | .linear => values
    | .hash => sorted values
    | .trie | .trieRecursive => (Suffix.Trie.ofList values).rules
  | .keyword | .regexp => values

theorem mem_sorted (values : List String) (value : String) : value ∈ sorted values ↔ value ∈ values := by
  simp [sorted, Std.TreeSet.mem_ofList]

theorem toList_eq_sorted {names : Std.TreeSet String} {values : List String}
    (h : ∀ name, name ∈ names ↔ name ∈ values) : names.toList = sorted values := by
  have oneWay : ∀ a b : String, compare a b = .lt → compare b a ≠ .lt := fun a b less more => by
    simp [Std.OrientedCmp.gt_of_lt less] at more
  have : Std.Antisymm fun a b : String => compare a b = .lt := ⟨fun a b less more => absurd more (oneWay a b less)⟩
  have : Std.Irrefl fun a b : String => compare a b = .lt := ⟨fun a less => oneWay a a less less⟩
  refine List.Pairwise.eq_of_mem_iff Std.TreeSet.ordered_toList Std.TreeSet.ordered_toList fun name => ?_
  exact (Std.TreeSet.mem_toList.trans (h name)).trans (mem_sorted values name).symm

theorem Kind.listed_iff [Regex.Host] (options : Options) (values : List String) (kind : Kind) (name : String) :
    (∃ rule ∈ kind.listed options values, kind.Covers rule name) ↔ ∃ value ∈ values, kind.Covers value name := by
  cases kind with
  | domain => cases h : options.domain <;> simp [listed, h, mem_sorted]
  | suffix =>
    have pruned := Suffix.Trie.exists_isMinimal_covers values name
    cases h : options.suffix <;> simp [listed, h, mem_sorted, Suffix.Trie.mem_rules_ofList, Kind.Covers, pruned]
  | keyword => rfl
  | regexp => rfl

theorem Kind.listed_subset (options : Options) (values : List String) (kind : Kind) :
    kind.listed options values ⊆ values := by
  intro rule mem
  cases kind with
  | domain => cases h : options.domain <;> simpa [listed, h, mem_sorted] using mem
  | suffix =>
    cases h : options.suffix with
    | linear => simpa [listed, h] using mem
    | hash => simpa [listed, h, mem_sorted] using mem
    | trie | trieRecursive =>
      rw [listed, h, Suffix.Trie.mem_rules_ofList] at mem
      exact mem.1
  | keyword => exact mem
  | regexp => exact mem

@[simp] theorem Kind.listed_nil (options : Options) (kind : Kind) : kind.listed options [] = [] :=
  List.subset_nil.mp (kind.listed_subset options [])

/-- Linear indexes list the values as they came. -/
theorem Kind.listed_of_linear {options : Options} (domain : options.domain = .linear) (suffix : options.suffix = .linear)
    (values : List String) (kind : Kind) : kind.listed options values = values := by
  cases kind <;> simp [listed, domain, suffix]

theorem Kind.listed_eq_nil {options : Options} {values : List String} {kind : Kind} :
    kind.listed options values = [] ↔ values = [] := by
  refine ⟨fun bare => ?_, fun bare => by rw [bare, listed_nil]⟩
  -- A domain and a suffix cover themselves, so that what is left of them is not empty.
  have covered : (∀ value ∈ values, kind.Covers value value) → values = [] := fun own =>
    List.eq_nil_iff_forall_not_mem.mpr fun value mem => by
      simpa [bare] using (listed_iff options values kind value).mpr ⟨value, mem, own value mem⟩
  cases kind with
  | domain => exact covered fun _ _ => rfl
  | suffix => exact covered fun _ _ => .inl rfl
  | keyword => exact bare
  | regexp => exact bare

theorem Kind.length_listed_le (options : Options) (values : List String) (kind : Kind) :
    (kind.listed options values).length ≤ values.length := by
  have pruned : (Suffix.Trie.ofList values).rules.length ≤ values.length := by
    refine (List.subperm_of_subset (Suffix.Trie.nodup_rules_ofList values) fun rule mem => ?_).length_le
    exact ((Suffix.Trie.mem_rules_ofList values rule).mp mem).1
  cases kind with
  | domain => cases h : options.domain <;> simp [listed, h, sorted, Std.TreeSet.size_ofList_le]
  | suffix => cases h : options.suffix <;> simp [listed, h, sorted, Std.TreeSet.size_ofList_le, pruned]
  | keyword | regexp => exact le_refl _

theorem Regex.Pattern.source_of_compile [Regex.Host] {source : String} {pattern : Pattern}
    (h : compile source = .ok pattern) : pattern.source = source := by
  simp only [compile, bind, Except.bind] at h
  split at h
  · contradiction
  · split at h
    · cases h
      rfl
    · contradiction

theorem mem_insert_iff {names : Std.TreeSet String} {values : List String}
    (h : ∀ name, name ∈ names ↔ name ∈ values) (value name : String) :
    name ∈ names.insert value ↔ name ∈ values ++ [value] := by
  rw [Std.TreeSet.mem_insert, Std.LawfulEqCmp.compare_eq_iff_eq, h, List.mem_append, List.mem_singleton, or_comm,
    eq_comm]

namespace Matcher

theorem occursIn_iff (part text : List Char) : occursIn part text = true ↔ part <:+: text := by
  induction text with
  | nil => simp [occursIn]
  | cons c text ih => simp [occursIn, ih, List.infix_cons_iff]

theorem occursIn_iff_covers [Regex.Host] (rule name : String) :
    occursIn rule.toList name.toList = true ↔ Kind.keyword.Covers rule name := by
  rw [occursIn_iff]
  constructor
  · rintro ⟨before, behind, h⟩
    exact ⟨.ofList before, .ofList behind, String.toList_inj.mp (by simpa using h.symm)⟩
  · rintro ⟨before, behind, rfl⟩
    exact ⟨before.toList, behind.toList, by simp⟩

theorem covers_eq_ask (matcher : Matcher) (name : String) :
    matcher.covers name = (matcher.ask Suffix.Trie.recursionLimit name == some true) := by
  cases matcher with
  | suffixTrie recursive row => cases recursive <;> simp [covers, ask]
  | _ => simp [ask]

/-- Calls for as many labels as suffixes may have are enough, and more of them change nothing. -/
theorem ask_freeze_ofList {suffixes : List String} {calls : Nat} (enough : Suffix.Trie.recursionLimit ≤ calls)
    (shallow : ∀ suffix ∈ suffixes, Name.depth suffix ≤ Suffix.Trie.recursionLimit) (name : String) :
    (suffixTrie true (Suffix.Trie.ofList suffixes).children.freeze).ask calls name =
      some ((Suffix.Trie.ofList suffixes).covers name) := by
  rw [ask, Suffix.Trie.coversRecursive_freeze]
  refine Suffix.Trie.coversRecursive_ofList_of_le (Nat.le_trans (by decide) enough) (fun suffix mem => ?_) name
  exact (shallow suffix mem).trans enough

theorem length_rules (matcher : Matcher) : matcher.rules.length = matcher.count := by
  cases matcher <;> simp [rules, count, Suffix.Frozen.length_rules]

variable [Regex.Host]

/-- A matcher that answers for the given values and lists its rules in the way of its index. -/
structure Represents (options : Options) (kind : Kind) (values : List String) (matcher : Matcher) : Prop where
  kind_eq : matcher.kind = kind
  covers_iff : ∀ name, matcher.covers name = true ↔ ∃ value ∈ values, kind.Covers value name
  rules_eq : matcher.rules = kind.listed options values

/-- The patterns that values compile to, in the same order. -/
abbrev Compiled : List String → List Regex.Pattern → Prop :=
  List.Forall₂ fun value pattern => Regex.Pattern.compile value = .ok pattern

theorem Compiled.map_source {values : List String} {patterns : List Regex.Pattern} (h : Compiled values patterns) :
    patterns.map (·.source) = values := by
  induction h with
  | nil => rfl
  | cons compiled _ ih => simp [Regex.Pattern.source_of_compile compiled, ih]

theorem Compiled.any_search {values : List String} {patterns : List Regex.Pattern} (h : Compiled values patterns)
    (name : String) : patterns.any (·.search name) = true ↔ ∃ value ∈ values, Kind.regexp.Covers value name := by
  induction h with
  | nil => simp
  | cons compiled _ ih => simp [List.any_cons, ih, Kind.Covers, compiled]

end Matcher

namespace Collector

namespace Store

variable [Regex.Host]

/-- The store of a kind under the options, after the given values. -/
inductive Holds (options : Options) (values : List String) : Kind → Store → Prop
  | domainList {names} : options.domain = .linear → names.toList = values →
      Holds options values .domain (.domainList names)
  | domainSet {names} : options.domain = .hash → (∀ name, name ∈ names ↔ name ∈ values) →
      Holds options values .domain (.domainSet names)
  | suffixList {suffixes} : options.suffix = .linear → suffixes.toList = values →
      Holds options values .suffix (.suffixList suffixes)
  | suffixSet {suffixes} : options.suffix = .hash → (∀ suffix, suffix ∈ suffixes ↔ suffix ∈ values) →
      Holds options values .suffix (.suffixSet suffixes)
  | suffixTrie {recursive} : options.suffix = (if recursive then .trieRecursive else .trie) →
      (recursive = true → ∀ value ∈ values, Name.depth value ≤ Suffix.Trie.recursionLimit) →
      Holds options values .suffix (.suffixTrie recursive (.ofList values))
  | keywordList {keywords} : keywords.toList = values →
      Holds options values .keyword (.keywordList keywords)
  | patternList {patterns} : Matcher.Compiled values patterns.toList →
      Holds options values .regexp (.patternList patterns)

theorem holds_new (options : Options) (kind : Kind) : Holds options [] kind (new options kind) := by
  cases kind with
  | domain =>
    cases h : options.domain with
    | linear => simpa [new, h] using Holds.domainList h rfl
    | hash => simpa [new, h] using Holds.domainSet h (by simp)
  | suffix =>
    cases h : options.suffix with
    | linear => simpa [new, h] using Holds.suffixList h rfl
    | hash => simpa [new, h] using Holds.suffixSet h (by simp)
    | trie =>
      have empty : Holds options [] .suffix (.suffixTrie false (.ofList [])) := .suffixTrie h (by simp)
      simpa [new, h] using empty
    | trieRecursive =>
      have empty : Holds options [] .suffix (.suffixTrie true (.ofList [])) := .suffixTrie h (by simp)
      simpa [new, h] using empty
  | keyword => exact .keywordList rfl
  | regexp => exact .patternList .nil

/-- A value is taken if it can be a rule, whatever the store holds, and joins what the store stands for. -/
theorem Holds.insert {options : Options} {values : List String} {kind : Kind} {store : Store}
    (h : Holds options values kind store) (value : String) :
    Agree (fun grown _ => Holds options (values ++ [value]) kind grown) (store.insert value)
      (kind.check options value) := by
  cases h with
  | domainList linear same => exact .ok (.domainList linear (by simp [same]))
  | domainSet hash same => exact .ok (.domainSet hash (mem_insert_iff same value))
  | suffixList linear same =>
    rw [Kind.check, if_neg (by simp [linear])]
    exact .ok (.suffixList linear (by simp [same]))
  | suffixSet hash same =>
    rw [Kind.check, if_neg (by simp [hash])]
    exact .ok (.suffixSet hash (mem_insert_iff same value))
  | @suffixTrie recursive kept shallow =>
    have grown (taken : recursive = true → Name.depth value ≤ Suffix.Trie.recursionLimit) :
        Holds options (values ++ [value]) .suffix (.suffixTrie recursive ((Suffix.Trie.ofList values).insert value)) := by
      rw [← Suffix.Trie.ofList_append]
      refine .suffixTrie kept fun recurses other mem => ?_
      rcases List.mem_append.mp mem with before | last
      · exact shallow recurses other before
      · exact List.mem_singleton.mp last ▸ taken recurses
    cases recursive with
    | false =>
      rw [Kind.check, if_neg (by simp [kept])]
      exact .ok (grown (by simp))
    | true =>
      rw [Kind.check, Store.insert, Suffix.Trie.insertRecursive?_eq]
      by_cases deep : Suffix.Trie.recursionLimit < Name.depth value
      · rw [if_pos deep, if_pos ⟨kept, deep⟩]
        exact .error _
      · rw [if_neg deep, if_neg (by simp [deep])]
        exact .ok (grown fun _ => Nat.le_of_not_lt deep)
  | keywordList same => exact .ok (.keywordList (by simp [same]))
  | @patternList patterns same =>
    rw [Kind.check, Store.insert]
    cases compiled : compilePattern value with
    | error fault => exact .error fault
    | ok pattern =>
      refine .ok (.patternList ?_)
      simpa using List.rel_append same (.cons (compilePattern_eq_ok.mp compiled) .nil)

theorem Holds.freeze {options : Options} {values : List String} {kind : Kind} {store : Store}
    (h : Holds options values kind store) :
    ∃ matcher, store.freeze = .ok matcher ∧ matcher.Represents options kind values := by
  cases h with
  | domainList linear same =>
    refine ⟨_, rfl, rfl, ?_, ?_⟩
    · simp [Matcher.covers, Kind.Covers, same]
    · simp [Matcher.rules, Kind.listed, linear, same]
  | domainSet hash same =>
    refine ⟨_, rfl, rfl, ?_, ?_⟩
    · simp [Matcher.covers, Kind.Covers, same]
    · simp [Matcher.rules, Kind.listed, hash, toList_eq_sorted same]
  | suffixList linear same =>
    refine ⟨_, rfl, rfl, ?_, ?_⟩
    · simp [Matcher.covers, Kind.Covers, same, Name.coversChars_iff_covers]
    · simp [Matcher.rules, Kind.listed, linear, same]
  | suffixSet hash same =>
    refine ⟨_, rfl, rfl, ?_, ?_⟩
    · simp [Matcher.covers, Kind.Covers, same, Name.mem_tails, and_comm]
    · simp [Matcher.rules, Kind.listed, hash, toList_eq_sorted same]
  | @suffixTrie recursive kept shallow =>
    refine ⟨.suffixTrie recursive (Suffix.Trie.ofList values).children.freeze, ?_, rfl, fun name => ?_, ?_⟩
    · simp [Store.freeze, Suffix.Trie.freeze_ofList]
    · cases recursive with
      | false => exact Suffix.Trie.covers_freeze_ofList values name
      | true =>
        rw [Matcher.covers_eq_ask, Matcher.ask_freeze_ofList (Nat.le_refl _) (shallow rfl), beq_iff_eq, Option.some.injEq]
        exact Suffix.Trie.covers_ofList values name
    · cases recursive <;> simp_all [Matcher.rules, Kind.listed, Suffix.Trie.rules_freeze]
  | keywordList same =>
    refine ⟨_, rfl, rfl, ?_, same⟩
    simp [Matcher.covers, same, Matcher.occursIn_iff_covers]
  | patternList same => exact ⟨_, rfl, rfl, same.any_search, same.map_source⟩

/-- With calls for as many labels as suffixes may have, what a store freezes into always has an answer. -/
theorem Holds.ask_eq {options : Options} {values : List String} {kind : Kind} {store : Store} {matcher : Matcher}
    (h : Holds options values kind store) (frozen : store.freeze = .ok matcher) {calls : Nat}
    (enough : Suffix.Trie.recursionLimit ≤ calls) (name : String) : matcher.ask calls name = some (matcher.covers name) := by
  cases h with
  | @suffixTrie recursive kept shallow =>
    rw [Store.freeze, Suffix.Trie.freeze_ofList] at frozen
    obtain rfl := Except.ok.inj frozen
    cases recursive with
    | false => rfl
    | true =>
      rw [Matcher.covers_eq_ask, Matcher.ask_freeze_ofList enough (shallow rfl),
        Matcher.ask_freeze_ofList (Nat.le_refl _) (shallow rfl)]
      simp
  | domainList | domainSet | suffixList | suffixSet | keywordList | patternList =>
    obtain rfl := Except.ok.inj frozen
    rfl

end Store

/-- A collector that has taken the given values, one after the other, and is not frozen. -/
structure Holds [Regex.Host] (options : Options) (kind : Kind) (values : List String) (collector : Collector) : Prop where
  store : collector.store.Holds options values kind
  inserted : collector.inserted = values.length
  unfrozen : collector.frozen = false

/-- A collector that has taken the given values, whether or not it is frozen. -/
structure Keeps [Regex.Host] (options : Options) (kind : Kind) (values : List String) (collector : Collector) : Prop where
  store : collector.store.Holds options values kind
  inserted : collector.inserted = values.length

theorem holds_new [Regex.Host] (options : Options) (kind : Kind) (capacity : Int) :
    (new kind options capacity).Holds options kind [] :=
  ⟨Store.holds_new options kind, rfl, rfl⟩

section
variable [Regex.Host] {options : Options} {kind : Kind} {values : List String} {collector : Collector}

theorem Holds.insert (h : collector.Holds options kind values) (value : String) :
    Agree (fun grown _ => grown.Holds options kind (values ++ [value])) (collector.insert value)
      (kind.check options value) := by
  rw [Collector.insert, h.unfrozen, if_neg Bool.false_ne_true, ← bind_pure (kind.check options value)]
  exact (h.store.insert value).bind fun store _ holds => .ok ⟨holds, by simp [h.inserted], rfl⟩

theorem Holds.insertAll (h : collector.Holds options kind values) (more : List String) :
    Agree (fun grown _ => grown.Holds options kind (values ++ more)) (collector.insertAll more)
      (forM more (kind.check options)) := by
  induction more generalizing collector values with
  | nil => exact .ok (by simpa using h)
  | cons value more ih =>
    rw [Collector.insertAll, List.foldlM_cons, List.forM_cons]
    refine (h.insert value).bind fun grown _ holds => ?_
    simpa [Collector.insertAll] using ih holds

theorem Holds.freeze (h : collector.Holds options kind values) :
    ∃ matcher, collector.freeze.1 = .ok matcher ∧ matcher.Represents options kind values := by
  simpa [Collector.freeze, h.unfrozen] using h.store.freeze

theorem Holds.keeps (h : collector.Holds options kind values) : collector.Keeps options kind values :=
  ⟨h.store, h.inserted⟩

theorem Keeps.holds (h : collector.Keeps options kind values) (unfrozen : collector.frozen = false) :
    collector.Holds options kind values :=
  ⟨h.store, h.inserted, unfrozen⟩

theorem Keeps.inserted_eq_zero (h : collector.Keeps options kind values) : collector.inserted = 0 ↔ values = [] := by
  rw [h.inserted, List.length_eq_zero_iff]

end

/-- Whichever index suffixes are kept in, a lookup says whether the name equals one of them or ends in one behind a dot. A frozen
index has an answer for every name. Recursion into a trie that still grows has the same one as long as it may take its calls: no
more than the name has labels, nor more than the longest suffix has, and for a rule as many as it has itself. -/
theorem suffix_lookups_agree [Regex.Host] (suffixes : List String) (options : Options) (capacity : Int)
    (shallow : options.suffix = .trieRecursive →
      ∀ suffix ∈ suffixes, Name.depth suffix ≤ Suffix.Trie.recursionLimit) :
    let trie := Suffix.Trie.ofList suffixes
    (∃ collector matcher, (new .suffix options capacity).insertAll suffixes = .ok collector ∧
      collector.freeze.1 = .ok matcher ∧
      ∀ name, (matcher.covers name = true ↔ ∃ suffix ∈ suffixes, Name.Covers suffix name) ∧
        ∀ calls, Suffix.Trie.recursionLimit ≤ calls → matcher.ask calls name = some (matcher.covers name)) ∧
    (∀ name, trie.covers name = true ↔ ∃ suffix ∈ suffixes, Name.Covers suffix name) ∧
    (∀ calls name, trie.coversRecursive calls name = if trie.calls name ≤ calls then some (trie.covers name) else none) ∧
    (∀ name, trie.calls name ≤ Name.depth name) ∧
    (∀ calls, 1 ≤ calls → (∀ suffix ∈ suffixes, Name.depth suffix ≤ calls) → ∀ name, trie.calls name ≤ calls) ∧
    (∀ rule ∈ trie.rules, trie.calls rule = Name.depth rule) ∧
    ((∀ suffix ∈ suffixes, Name.depth suffix ≤ Suffix.Trie.recursionLimit) →
      suffixes.foldlM Suffix.Trie.insertRecursive? .empty = some trie) := by
  intro trie
  have taken : forM suffixes (Kind.suffix.check options) = .ok () :=
    forM_eq_ok.mpr fun suffix mem => Kind.check_suffix_eq_ok.mpr fun recursive => shallow recursive suffix mem
  obtain ⟨collector, inserted, holds⟩ := (taken ▸ (holds_new options .suffix capacity).insertAll suffixes).exists_ok
  obtain ⟨matcher, frozen, represents⟩ := holds.freeze
  have answers {calls : Nat} (enough : Suffix.Trie.recursionLimit ≤ calls) (name : String) :
      matcher.ask calls name = some (matcher.covers name) :=
    holds.store.ask_eq (by simpa [freeze, holds.unfrozen] using frozen) enough name
  exact ⟨⟨collector, matcher, inserted, frozen, fun name => ⟨represents.covers_iff name, fun _ enough => answers enough name⟩⟩,
    Suffix.Trie.covers_ofList suffixes, fun calls => trie.coversRecursive_eq calls, trie.calls_le_depth,
    fun _ => Suffix.Trie.calls_ofList_le, fun _ => Suffix.Trie.calls_of_mem_rules,
    fun all => Suffix.Trie.foldlM_insertRecursive? all .empty⟩

/-- Empty labels and the empty suffix in a trie that is filled by recursion. -/
theorem suffix_lookups_agree_empty_labels :
    let suffixes := ["a..b", "", ".com", "b"]
    let options : Options := { suffix := .trieRecursive }
    (options.suffix = .trieRecursive → ∀ suffix ∈ suffixes, Name.depth suffix ≤ Suffix.Trie.recursionLimit) ∧
    ∃ collector matcher, (new .suffix options).insertAll suffixes = .ok collector ∧
      collector.freeze.1 = .ok matcher ∧
      ∀ name, (matcher.covers name = true ↔ ∃ suffix ∈ suffixes, Name.Covers suffix name) ∧
        ∀ calls, Suffix.Trie.recursionLimit ≤ calls → matcher.ask calls name = some (matcher.covers name) :=
  have shallow : ∀ suffix ∈ ["a..b", "", ".com", "b"], Name.depth suffix ≤ Suffix.Trie.recursionLimit := by decide
  ⟨fun _ => shallow, (suffix_lookups_agree _ { suffix := .trieRecursive } 0 fun _ => shallow).1⟩

/-- A suffix of 1500 labels covers itself, but recursion with 1000 calls does not come to its end. -/
theorem no_answer_for_long_suffix :
    let deep := String.ofList (List.replicate 1499 '.')
    let trie := Suffix.Trie.ofList [deep]
    (∃ suffix ∈ [deep], Name.Covers suffix deep) ∧ trie.covers deep = true ∧ trie.coversRecursive 1000 deep = none := by
  intro deep trie
  have covered : ∃ suffix ∈ [deep], Name.Covers suffix deep := ⟨deep, by simp, .inl rfl⟩
  have many : ¬ trie.calls deep ≤ 1000 := by
    rw [Suffix.Trie.calls_ofList_singleton, Name.depth, String.toList_ofList, List.count_replicate_self]
    decide
  exact ⟨covered, (Suffix.Trie.covers_ofList [deep] deep).mpr covered, by rw [Suffix.Trie.coversRecursive_eq, if_neg many]⟩

end Collector

end DomainRules
