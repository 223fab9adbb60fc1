import DomainRules.Proofs.Suffix.Frame

/-! How deep recursion goes into a trie. A suffix makes a trie no higher than it has labels. A lookup makes one call for each row
that it comes to, and none below the last one, so that it takes no more calls than the trie is high, however long a name is. -/

namespace DomainRules

namespace Suffix

namespace Forest

/-- The labels on the longest way down. -/
def height : Forest → Nat
  | nil => 0
  | cons _ _ below rest => max (below.height + 1) rest.height

theorem height_pos {forest : Forest} (filled : forest ≠ nil) : 0 < forest.height := by
  cases forest with
  | nil => contradiction
  | cons => exact lt_max_of_lt_left (Nat.succ_pos _)

theorem Has.length_le {path : List String} {node : Node} {forest : Forest} (h : Has path node forest) :
    path.length ≤ forest.height := by
  induction h with
  | here => exact le_max_of_le_left (Nat.le_add_left 1 _)
  | inside _ ih => exact le_max_of_le_left (Nat.succ_le_succ ih)
  | beside _ ih => exact le_max_of_le_right ih

theorem height_put (label : String) (node : Node) (forest : Forest) :
    (forest.put label node).height ≤ max forest.height (node.children.height + 1) := by
  induction forest with
  | nil => simp [put, height]
  | cons head included below rest _ ih =>
    by_cases same : head = label
    · simp only [put, if_pos same, height]
      omega
    · simp only [put, if_neg same, height]
      omega

theorem height_under_le (label : String) (forest : Forest) : (forest.under label).height ≤ forest.height - 1 := by
  induction forest with
  | nil => exact Nat.le_refl 0
  | cons head included below rest _ ih =>
    rw [under_cons, height]
    split <;> omega

/-- A path makes a forest no higher than the path is long. -/
theorem height_insertPath (path : List String) (forest : Forest) :
    (forest.insertPath path).height ≤ max forest.height path.length := by
  induction path generalizing forest with
  | nil => exact le_max_left _ _
  | cons label path ih =>
    rw [insertPath_cons]
    split
    · exact le_max_left _ _
    · have under := height_under_le label forest
      have inner := ih (forest.under label)
      refine (height_put label _ forest).trans ?_
      by_cases last : path = []
      · simp only [last, if_true, height, List.length_cons, List.length_nil]
        omega
      · simp only [if_neg last, List.length_cons]
        omega

theorem mem_nodes_of_find? {label : String} {node : Node} {forest : Forest} (found : forest.find? label = some node) :
    node ∈ forest.nodes := by
  induction forest with
  | nil => contradiction
  | cons head included below rest _ ih =>
    by_cases same : head = label
    · obtain rfl : ⟨included, below⟩ = node := by simpa [find?, same] using found
      simp [nodes]
    · simp [nodes, ih (by simpa [find?, same] using found)]

end Forest

namespace Forest

section
variable {forest : Forest} {path : List String}

/-- Below a node that leads on there are others, so that no call is made below the last one. -/
theorem Tidy.calls_le (h : forest.Tidy) (filled : forest ≠ nil) (path : List String) :
    calls next? path forest ≤ forest.height := by
  induction path generalizing forest with
  | nil => exact Nat.zero_le _
  | cons label path ih =>
    have top : 1 ≤ forest.height := height_pos filled
    rcases found : forest.find? label with _ | ⟨_ | _, below⟩
    · simpa [calls, next?, found] using top
    · have leads : below ≠ nil := fun bare => Bool.false_ne_true ((h.included_iff (mem_nodes_of_find? found)).mpr bare)
      have inner : forest.under label = below := by simp [Forest.under, found]
      have deeper := ih (inner ▸ h.under label) leads
      have within := inner ▸ height_under_le label forest
      simp only [calls, next?, found, Option.map_some, Bool.false_eq_true, if_false]
      omega
    · simpa [calls, next?, found] using top

/-- Looking up what a forest holds takes a call for each label. -/
theorem Tidy.calls_of_holds (h : forest.Tidy) (held : holds path forest = true) : calls next? path forest = path.length := by
  induction path generalizing forest with
  | nil => rfl
  | cons label path ih =>
    by_cases last : path = []
    · rcases found : forest.next? label with _ | _ | below <;> simp [calls, found, last]
    · rw [holds_cons, if_neg last] at held
      have filled : forest.under label ≠ nil := fun bare => by simp [bare] at held
      have plain : forest.includes label = false :=
        Bool.eq_false_of_not_eq_true fun included => filled (h.under_eq_nil included)
      have found := find?_eq_some_of_under plain filled
      simp [calls, next?, found, ih (h.under label) held]

end

end Forest

namespace Trie

section
variable {suffixes : List String} {limit : Nat}

theorem height_insert (trie : Trie) (suffix : String) :
    (trie.insert suffix).children.height ≤ max trie.children.height (Name.depth suffix) := by
  simpa [insert_eq, Name.path, Name.depth_eq] using Forest.height_insertPath (Name.path suffix) trie.children

theorem height_ofList_le (shallow : ∀ suffix ∈ suffixes, Name.depth suffix ≤ limit) :
    (ofList suffixes).children.height ≤ limit := by
  induction suffixes using List.reverseRecOn with
  | nil => exact Nat.zero_le limit
  | append_singleton suffixes suffix ih =>
    rw [ofList_append]
    refine (height_insert _ suffix).trans (max_le (ih fun other mem => ?_) (shallow suffix (by simp)))
    exact shallow other (by simp [mem])

/-- A name takes one call at least. -/
theorem calls_le_height {trie : Trie} (tidy : trie.children.Tidy) (name : String) :
    trie.calls name ≤ max 1 trie.children.height := by
  by_cases bare : trie.children = .nil
  · rw [calls, bare]
    cases Name.path name with
    | nil => exact Nat.zero_le _
    | cons => exact le_max_left 1 _
  · exact le_max_of_le_right (tidy.calls_le bare _)

theorem calls_ofList_le (positive : 1 ≤ limit) (shallow : ∀ suffix ∈ suffixes, Name.depth suffix ≤ limit) (name : String) :
    (ofList suffixes).calls name ≤ limit :=
  (calls_le_height (tidy_ofList suffixes) name).trans (max_le positive (height_ofList_le shallow))

theorem calls_of_mem_rules {rule : String} (mem : rule ∈ (ofList suffixes).rules) :
    (ofList suffixes).calls rule = Name.depth rule := by
  have held := (holds_ofList suffixes _).mpr ⟨rule, rfl, (mem_rules_ofList suffixes rule).mp mem⟩
  rw [calls, (tidy_ofList suffixes).calls_of_holds held, Name.depth_eq, Name.path, List.length_reverse]

theorem calls_ofList_singleton (suffix : String) : (ofList [suffix]).calls suffix = Name.depth suffix :=
  calls_of_mem_rules ((mem_rules_ofList [suffix] suffix).mpr ⟨by simp, by simp⟩)

theorem coversRecursive_ofList_of_le (positive : 1 ≤ limit) (shallow : ∀ suffix ∈ suffixes, Name.depth suffix ≤ limit)
    (name : String) : (ofList suffixes).coversRecursive limit name = some ((ofList suffixes).covers name) := by
  rw [coversRecursive_eq, if_pos (calls_ofList_le positive shallow name)]

end

end Trie

end Suffix

end DomainRules
