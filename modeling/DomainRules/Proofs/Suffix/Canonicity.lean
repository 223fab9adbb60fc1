import DomainRules.Proofs.Suffix.Enumeration
import Mathlib.Data.Set.Card

/-! The trie that insertions lead to is minimal, and up to the order of the nodes in its rows it depends on the
minimal suffixes alone. -/

namespace DomainRules

/-- A suffix among the given ones that ends in no other one behind a dot. -/
def Name.IsMinimal (suffixes : List String) (suffix : String) : Prop :=
  suffix ∈ suffixes ∧ ∀ other ∈ suffixes, other ≠ suffix → ¬ ∃ front, suffix = front ++ "." ++ other

namespace Suffix

namespace Forest

def nodes : Forest → List Node
  | nil => []
  | cons _ included below rest => ⟨included, below⟩ :: (below.nodes ++ rest.nodes)

/-- The same nodes, in rows of any order. -/
inductive Rearranged : Forest → Forest → Prop
  | nil : Rearranged nil nil
  | cons {label flag below below' rest rest'} : Rearranged below below' → Rearranged rest rest' →
      Rearranged (cons label flag below rest) (cons label flag below' rest')
  | swap {label flag below label' flag' below' rest} :
      Rearranged (cons label flag below (cons label' flag' below' rest))
        (cons label' flag' below' (cons label flag below rest))
  | trans {a b c} : Rearranged a b → Rearranged b c → Rearranged a c

theorem Rearranged.refl (forest : Forest) : Rearranged forest forest := by
  induction forest with
  | nil => exact .nil
  | cons _ _ _ _ below rest => exact .cons below rest

theorem Tidy.included_iff {forest : Forest} (h : forest.Tidy) {node : Node} (mem : node ∈ forest.nodes) :
    node.included = true ↔ node.children = nil := by
  induction forest with
  | nil => simp [nodes] at mem
  | cons label included below rest ihBelow ihRest =>
    obtain ⟨-, ends, tidyBelow, tidyRest⟩ := h
    obtain rfl | inside | beside : node = ⟨included, below⟩ ∨ node ∈ below.nodes ∨ node ∈ rest.nodes := by
      simpa [nodes] using mem
    · exact ends
    · exact ihBelow tidyBelow inside
    · exact ihRest tidyRest beside

def without (label : String) : Forest → Forest
  | nil => nil
  | cons head included below rest =>
    if head = label then rest.without label else cons head included below (rest.without label)

@[simp] theorem find?_without (label other : String) (forest : Forest) :
    (forest.without label).find? other = if label = other then none else forest.find? other := by
  induction forest with
  | nil => simp [without, find?]
  | cons head _ _ _ _ ih =>
    by_cases same : head = label <;> by_cases hit : label = other <;> simp_all [without, find?]

theorem without_of_find? {label : String} {forest : Forest} (h : forest.find? label = none) :
    forest.without label = forest := by
  induction forest with
  | nil => rfl
  | cons head _ _ _ _ ih => by_cases same : head = label <;> simp_all [without, find?]

theorem Tidy.without {forest : Forest} (h : forest.Tidy) (label : String) : (forest.without label).Tidy := by
  induction forest with
  | nil => trivial
  | cons head included below rest _ ih =>
    obtain ⟨fresh, ends, tidyBelow, tidyRest⟩ := h
    by_cases same : head = label
    · simpa [Forest.without, same] using ih tidyRest
    · simpa [Forest.without, same, Tidy] using ⟨fun _ => fresh, ends, tidyBelow, ih tidyRest⟩

theorem holds_without (label head : String) (path : List String) (forest : Forest) :
    holds (head :: path) (forest.without label) = (decide (label ≠ head) && holds (head :: path) forest) := by
  by_cases same : label = head <;> simp [holds_cons, includes, under, same]

theorem Tidy.rearranged_without {forest : Forest} (h : forest.Tidy) {label : String} {node : Node}
    (found : forest.find? label = some node) :
    Rearranged (cons label node.included node.children (forest.without label)) forest := by
  induction forest with
  | nil => simp [find?] at found
  | cons head included below rest _ ih =>
    obtain ⟨fresh, -, -, tidyRest⟩ := h
    by_cases same : head = label
    · subst same
      obtain rfl : ⟨included, below⟩ = node := by simpa [find?] using found
      simpa [Forest.without, without_of_find? fresh] using Rearranged.refl _
    · simpa [Forest.without, same] using
        Rearranged.trans .swap (.cons (.refl below) (ih tidyRest (by simpa [find?, same] using found)))

/-- Tidy forests that hold the same paths have the same nodes. -/
theorem Tidy.rearranged {forest other : Forest} (h : forest.Tidy) (h' : other.Tidy)
    (same : ∀ path, holds path forest = holds path other) : Rearranged forest other := by
  induction forest generalizing other with
  | nil =>
    cases other with
    | nil => exact .nil
    | cons label _ _ _ =>
      obtain ⟨path, held⟩ := h'.exists_holds
      simp [← same] at held
  | cons label included below rest ihBelow ihRest =>
    obtain ⟨path, held⟩ := h.exists_holds
    obtain ⟨fresh, -, tidyBelow, tidyRest⟩ := h
    cases found : other.find? label with
    | none => simp [same, holds_eq_false_of_find? found] at held
    | some node =>
      have agree : ∀ path, holds (label :: path) other =
          if path = [] then node.included else holds path node.children := by
        simp [holds_cons, includes, Forest.under, found]
      -- The node of the label comes to the front of the other row; the rest is compared without it.
      obtain rfl : included = node.included := by simpa [holds_cons, agree] using same [label]
      refine .trans (.cons (ihBelow tidyBelow ?_ fun path => ?_) (ihRest tidyRest (h'.without label) fun path => ?_))
        (h'.rearranged_without found)
      · simpa [Forest.under, found] using h'.under label
      · by_cases bare : path = []
        · simp [bare]
        · simpa [holds_cons, agree, bare] using same (label :: path)
      · cases path with
        | nil => rfl
        | cons head path =>
          by_cases first : label = head
          · subst first
            simp [holds_without, holds_eq_false_of_find? fresh]
          · rw [holds_without, ← same]
            simp [holds_cons, first]

end Forest

namespace Trie

theorem isMinimal_path (suffixes : List String) (suffix : String) :
    Forest.IsMinimal (suffixes.map Name.path) (Name.path suffix) ↔ Name.IsMinimal suffixes suffix := by
  simp only [Forest.IsMinimal, Name.IsMinimal, List.mem_map_of_injective Name.path_injective, List.forall_mem_map,
    ← Name.covers_iff_path, Name.path_injective.eq_iff]
  refine and_congr Iff.rfl (forall₂_congr fun other mem => ?_)
  simp only [Name.Covers]
  grind

theorem holds_ofList (suffixes : List String) (path : List String) :
    (ofList suffixes).children.holds path = true ↔
      ∃ suffix, path = Name.path suffix ∧ Name.IsMinimal suffixes suffix := by
  have nonempty : ∀ path ∈ suffixes.map Name.path, path ≠ [] := by
    simp [Name.path_ne_nil]
  simp only [ofList_eq, Forest.holds_ofPaths nonempty, ← isMinimal_path]
  constructor
  · intro h
    obtain ⟨suffix, -, rfl⟩ := List.mem_map.mp h.1
    exact ⟨suffix, rfl, h⟩
  · rintro ⟨suffix, rfl, h⟩
    exact h

theorem mem_paths_ofList (suffixes : List String) (full : List String) :
    full ∈ (ofList suffixes).children.paths ↔
      ∃ suffix, full = Name.labels suffix ∧ Name.IsMinimal suffixes suffix := by
  simp only [Forest.paths_eq, (tidy_ofList suffixes).mem_pathsFrom, holds_ofList, List.append_nil]
  constructor
  · rintro ⟨_, ⟨suffix, rfl, h⟩, rfl⟩
    exact ⟨suffix, by simp [Name.path], h⟩
  · rintro ⟨suffix, rfl, h⟩
    exact ⟨_, ⟨suffix, rfl, h⟩, by simp [Name.path]⟩

theorem mem_rules_ofList (suffixes : List String) (suffix : String) :
    suffix ∈ (ofList suffixes).rules ↔ Name.IsMinimal suffixes suffix := by
  simp only [rules, List.mem_map, mem_paths_ofList]
  constructor
  · rintro ⟨_, ⟨other, rfl, h⟩, rfl⟩
    simpa using h
  · intro h
    exact ⟨_, ⟨suffix, rfl, h⟩, by simp⟩

/-- The minimal suffixes cover what all of them cover. -/
theorem exists_isMinimal_covers (suffixes : List String) (name : String) :
    (∃ rule, Name.IsMinimal suffixes rule ∧ Name.Covers rule name) ↔
      ∃ suffix ∈ suffixes, Name.Covers suffix name := by
  rw [← coversPath_ofList, Forest.coversPath_iff]
  simp only [holds_ofList, Name.covers_iff_path]
  constructor
  · rintro ⟨rule, minimal, before⟩
    exact ⟨_, before, rule, rfl, minimal⟩
  · rintro ⟨_, before, rule, rfl, minimal⟩
    exact ⟨rule, minimal, before⟩

theorem rules_freeze (trie : Trie) : trie.children.freeze.rules = trie.rules := by
  rw [Frozen.rules, Forest.paths_freeze, rules]

theorem nodup_rules_ofList (suffixes : List String) : (ofList suffixes).rules.Nodup := by
  refine List.Nodup.map_on ?_ ((tidy_ofList suffixes).nodup_pathsFrom [])
  intro full memFull full' memFull' same
  obtain ⟨suffix, rfl, -⟩ := (mem_paths_ofList suffixes full).mp memFull
  obtain ⟨suffix', rfl, -⟩ := (mem_paths_ofList suffixes full').mp memFull'
  rw [Name.intercalate_labels, Name.intercalate_labels] at same
  rw [same]

/-- Each node stands for a run of labels that a rule ends in, and each such run has its node. -/
theorem nodeCount_ofList (suffixes : List String) :
    (ofList suffixes).nodeCount =
      1 + {tail | tail ≠ [] ∧ ∃ rule ∈ (ofList suffixes).rules, tail <:+ Name.labels rule}.ncard := by
  have tidy := tidy_ofList suffixes
  have tails : {tail | tail ≠ [] ∧ ∃ rule ∈ (ofList suffixes).rules, tail <:+ Name.labels rule} =
      ((ofList suffixes).children.places.map List.reverse).toFinset := by
    ext tail
    simp only [Set.mem_ofPred_eq, mem_rules_ofList, List.coe_toFinset, List.mem_map, tidy.mem_places, holds_ofList]
    constructor
    · rintro ⟨nonempty, rule, h, ends⟩
      refine ⟨tail.reverse, ⟨by simpa, _, ⟨rule, rfl, h⟩, ?_⟩, by simp⟩
      simpa [Name.path, List.reverse_prefix] using ends
    · rintro ⟨path, ⟨nonempty, _, ⟨rule, rfl, h⟩, before⟩, rfl⟩
      refine ⟨by simpa, rule, h, ?_⟩
      rw [← List.reverse_prefix]
      simpa [Name.path] using before
  rw [tails, Set.ncard_coe_finset, List.toFinset_card_of_nodup (tidy.nodup_places.map List.reverse_injective),
    List.length_map, Forest.length_places, nodeCount, Nat.add_comm]

/-- Insertions, in whatever order, lead to a minimal trie: its rules are the minimal suffixes, nothing hangs
below an included node or ends at another one, and each run of labels that a rule ends in has one node. Only
the order of the nodes in their rows depends on more than the minimal suffixes. -/
theorem insert_minimal_canonical (suffixes : List String) :
    (ofList suffixes).rules.Nodup ∧
    (∀ suffix, suffix ∈ (ofList suffixes).rules ↔ Name.IsMinimal suffixes suffix) ∧
    (∀ node ∈ ofList suffixes :: (ofList suffixes).children.nodes, node.included = true → node.children = .nil) ∧
    (∀ node ∈ (ofList suffixes).children.nodes, node.included = false → node.children ≠ .nil) ∧
    (ofList suffixes).nodeCount =
      1 + {tail | tail ≠ [] ∧ ∃ rule ∈ (ofList suffixes).rules, tail <:+ Name.labels rule}.ncard ∧
    ∀ others, (∀ suffix, Name.IsMinimal suffixes suffix ↔ Name.IsMinimal others suffix) →
      (ofList suffixes).included = (ofList others).included ∧
      (ofList suffixes).children.Rearranged (ofList others).children := by
  have tidy := tidy_ofList suffixes
  refine ⟨nodup_rules_ofList suffixes, mem_rules_ofList suffixes, ?_, ?_, nodeCount_ofList suffixes, ?_⟩
  · intro node mem
    obtain rfl | inside := List.mem_cons.mp mem
    · simp [included_ofList]
    · exact (tidy.included_iff inside).mp
  · intro node mem plain bare
    simpa [plain] using (tidy.included_iff mem).mpr bare
  · intro others same
    refine ⟨by simp [included_ofList], tidy.rearranged (tidy_ofList others) fun path => ?_⟩
    exact Bool.eq_iff_iff.mpr (by simp only [holds_ofList, same])

/-- A short suffix drops what is below it, whenever it comes. -/
theorem insert_minimal_canonical_pruned :
    (∀ suffix, Name.IsMinimal ["a.b", "b", "c.b", "d"] suffix ↔ Name.IsMinimal ["d", "b", "d"] suffix) ∧
    (ofList ["a.b", "b", "c.b", "d"]).children.Rearranged (ofList ["d", "b", "d"]).children := by
  have same (suffix : String) :
      Name.IsMinimal ["a.b", "b", "c.b", "d"] suffix ↔ Name.IsMinimal ["d", "b", "d"] suffix := by
    have first : (ofList ["a.b", "b", "c.b", "d"]).rules = ["b", "d"] := by decide
    have second : (ofList ["d", "b", "d"]).rules = ["d", "b"] := by decide
    rw [← mem_rules_ofList, ← mem_rules_ofList, first, second]
    simp [or_comm]
  exact ⟨same, ((insert_minimal_canonical _).2.2.2.2.2 _ same).2⟩

end Trie

end Suffix

end DomainRules
