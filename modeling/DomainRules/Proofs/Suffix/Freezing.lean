import DomainRules.Collector
import DomainRules.Proofs.Suffix.Canonicity
import DomainRules.Proofs.Suffix.Recursion

/-! Freezing tries of any shape. A trie freezes just if each of its nodes is either included or leads on, and then nothing
about it changes. Otherwise a node is told of by its place, which lacks the empty labels at the top. -/

namespace DomainRules.Suffix

/-- What is told of a node at a place: it is included and has children, or it is neither included nor has any. -/
inductive Flaw.Describes (place : String) : Node → Flaw → Prop
  | childrenBelow {below} : below ≠ .nil → Describes place ⟨true, below⟩ (.childrenBelow place below.width)
  | dangling : Describes place ⟨false, .nil⟩ (.dangling place)

theorem Flaw.Describes.dangling_inv {place told : String} {node : Node} (h : (Flaw.dangling told).Describes place node) :
    told = place ∧ node = ⟨false, .nil⟩ := by
  cases h
  exact ⟨rfl, rfl⟩

namespace Forest

/-- A node of a forest, with the labels that lead to it from the top. -/
inductive Has : List String → Node → Forest → Prop
  | here {label included below rest} : Has [label] ⟨included, below⟩ (cons label included below rest)
  | inside {label included below rest path node} : Has path node below →
      Has (label :: path) node (cons label included below rest)
  | beside {label included below rest path node} : Has path node rest →
      Has path node (cons label included below rest)

theorem Has.ne_nil {path : List String} {node : Node} {forest : Forest} (h : Has path node forest) : path ≠ [] := by
  induction h with
  | here | inside => exact List.cons_ne_nil _ _
  | beside _ ih => exact ih

section
variable {forest : Forest} {parent : String} {flaw : Flaw}

theorem flaws_eq_none_iff (forest : Forest) (parent : String) :
    forest.rowFlaw? parent = none ∧ forest.deepFlaw? parent = none ↔
      ∀ node ∈ forest.nodes, node.included = true ↔ node.children = nil := by
  induction forest generalizing parent with
  | nil => simp [rowFlaw?, deepFlaw?, nodes]
  | cons label included below rest ihBelow ihRest =>
    simp only [nodes, List.forall_mem_cons, List.forall_mem_append, ← ihBelow (place label parent), ← ihRest parent]
    cases included with
    | true => by_cases bare : below = nil <;> simp [rowFlaw?, deepFlaw?, bare]
    | false =>
      by_cases bare : below = nil
      · simp [rowFlaw?, bare]
      · simp [rowFlaw?, deepFlaw?, bare]
        tauto

theorem leafCount_freeze (h : ∀ node ∈ forest.nodes, node.included = true ↔ node.children = nil) :
    forest.freeze.leafCount = forest.nodes.countP (·.included) := by
  induction forest with
  | nil => rfl
  | cons label included below rest ihBelow ihRest =>
    simp only [nodes, List.forall_mem_cons, List.forall_mem_append] at h
    obtain ⟨ends, inside, beside⟩ := h
    cases included with
    | true =>
      obtain rfl := ends.mp rfl
      simp [freeze, Frozen.leafCount, nodes, ihRest beside]
    | false => simp [freeze, Frozen.leafCount, nodes, ihBelow inside, ihRest beside]

/-- The place that labels lead to from a parent, each label below the one before. -/
def placeBelow (parent : String) (path : List String) : String :=
  path.foldl (fun parent label => place label parent) parent

theorem exists_of_rowFlaw? (h : forest.rowFlaw? parent = some flaw) :
    ∃ label node, forest.Has [label] node ∧ flaw.Describes (place label parent) node := by
  induction forest with
  | nil => contradiction
  | cons label included below rest _ ih =>
    have later (h : rest.rowFlaw? parent = some flaw) : ∃ other node,
        (cons label included below rest).Has [other] node ∧ flaw.Describes (place other parent) node := by
      obtain ⟨other, node, has, described⟩ := ih h
      exact ⟨other, node, .beside has, described⟩
    by_cases bare : below = nil
    · cases included with
      | true => exact later (by simpa [rowFlaw?, bare] using h)
      | false =>
        subst bare
        obtain rfl : .dangling (place label parent) = flaw := by simpa [rowFlaw?] using h
        exact ⟨label, _, .here, .dangling⟩
    · cases included with
      | true =>
        obtain rfl : .childrenBelow (place label parent) below.width = flaw := by simpa [rowFlaw?, bare] using h
        exact ⟨label, _, .here, .childrenBelow bare⟩
      | false => exact later (by simpa [rowFlaw?, bare] using h)

theorem exists_of_deepFlaw? (h : forest.deepFlaw? parent = some flaw) :
    ∃ path node, forest.Has path node ∧ flaw.Describes (placeBelow parent path) node := by
  induction forest generalizing parent with
  | nil => contradiction
  | cons label included below rest ihBelow ihRest =>
    -- The rest of the row comes first, then the row below the node, then what is deeper.
    rw [deepFlaw?, Option.orElse_eq_some] at h
    rcases h with later | ⟨-, inside⟩
    · obtain ⟨path, node, has, described⟩ := ihRest later
      exact ⟨path, node, .beside has, described⟩
    · cases included with
      | true => contradiction
      | false =>
        rw [if_neg Bool.false_ne_true, Option.orElse_eq_some] at inside
        rcases inside with row | ⟨-, deep⟩
        · obtain ⟨next, node, has, described⟩ := exists_of_rowFlaw? row
          exact ⟨[label, next], node, .inside has, described⟩
        · obtain ⟨path, node, has, described⟩ := ihBelow deep
          exact ⟨label :: path, node, .inside has, described⟩

theorem exists_of_flaw? (h : forest.flaw? = some flaw) :
    ∃ path node, forest.Has path node ∧ flaw.Describes (placeBelow "" path) node := by
  rw [flaw?, Option.orElse_eq_some] at h
  rcases h with row | ⟨-, deep⟩
  · obtain ⟨label, node, has, described⟩ := exists_of_rowFlaw? row
    exact ⟨[label], node, has, described⟩
  · exact exists_of_deepFlaw? deep

theorem flaw?_eq_none_iff (forest : Forest) :
    forest.flaw? = none ↔ ∀ node ∈ forest.nodes, node.included = true ↔ node.children = nil := by
  rw [flaw?, Option.orElse_eq_none, flaws_eq_none_iff]

end

theorem place_of_ne {parent : String} (h : parent ≠ "") (label : String) : place label parent = label ++ "." ++ parent :=
  if_neg h

theorem intercalate_place (front : List String) (label parent : String) :
    ".".intercalate (front ++ [label ++ "." ++ parent]) = ".".intercalate (front ++ [label, parent]) := by
  by_cases bare : front = []
  · simp [bare]
  · rw [String.intercalate_append_of_ne_nil bare (List.cons_ne_nil _ _),
      String.intercalate_append_of_ne_nil bare (List.cons_ne_nil _ _)]
    simp

theorem placeBelow_of_ne {parent : String} (h : parent ≠ "") (path : List String) :
    placeBelow parent path = ".".intercalate (path.reverse ++ [parent]) := by
  induction path generalizing parent with
  | nil => simp [placeBelow]
  | cons label path ih =>
    have filled : label ++ "." ++ parent ≠ "" := by simp
    calc placeBelow parent (label :: path)
      _ = placeBelow (label ++ "." ++ parent) path := by
        rw [placeBelow, List.foldl_cons, place_of_ne h, placeBelow]
      _ = ".".intercalate (path.reverse ++ [label ++ "." ++ parent]) := ih filled
      _ = ".".intercalate ((label :: path).reverse ++ [parent]) := by
        rw [intercalate_place, List.reverse_cons, List.append_assoc, List.singleton_append]

/-- The labels below a root, without the empty ones at the top. -/
theorem placeBelow_empty (path : List String) : placeBelow "" path = ".".intercalate (path.dropWhile (· = "")).reverse := by
  induction path with
  | nil => rfl
  | cons label path ih =>
    by_cases bare : label = ""
    · subst bare
      simpa [placeBelow, place] using ih
    · simpa [placeBelow, place, bare] using placeBelow_of_ne bare path

/-- Behind other labels an empty one at the top is told of by a dot at the end. -/
theorem length_intercalate_empty {path : List String} (nonempty : path ≠ []) :
    (".".intercalate ("" :: path).reverse).length = (".".intercalate path.reverse).length + 1 := by
  rw [List.reverse_cons, String.intercalate_append_of_ne_nil (by simpa) (List.cons_ne_nil _ _)]
  simp
  rfl

theorem length_placeBelow_empty_le (path : List String) :
    (placeBelow "" path).length ≤ (".".intercalate path.reverse).length := by
  induction path with
  | nil => simp [placeBelow]
  | cons label path ih =>
    by_cases bare : label = ""
    · subst bare
      have dropped : placeBelow "" ("" :: path) = placeBelow "" path := rfl
      by_cases last : path = []
      · simp [last, placeBelow, place]
      · rw [dropped, length_intercalate_empty last]
        exact Nat.le_succ_of_le ih
    · simp [placeBelow_empty, bare]

/-- A place spells all of its labels just if the top one is not empty or stands alone. -/
theorem placeBelow_empty_eq_iff {path : List String} (nonempty : path ≠ []) :
    placeBelow "" path = ".".intercalate path.reverse ↔ path.head? ≠ some "" ∨ path = [""] := by
  obtain ⟨label, path, rfl⟩ := List.exists_cons_of_ne_nil nonempty
  by_cases bare : label = ""
  · subst bare
    by_cases last : path = []
    · simp [last, placeBelow, place]
    · have shorter : placeBelow "" ("" :: path) ≠ ".".intercalate ("" :: path).reverse := by
        intro same
        have spelled := length_intercalate_empty last
        rw [← same] at spelled
        have within := length_placeBelow_empty_le path
        exact absurd (spelled.symm.le.trans within) (Nat.not_succ_le_self _)
      simpa [last] using shorter
  · simp [placeBelow_empty, bare]

end Forest

namespace Trie

variable {trie : Trie} {row : Frozen} {flaw : Flaw}

/-- A root that is not included, above nodes each of which either is included or leads on. -/
structure WellShaped (trie : Trie) : Prop where
  plain : trie.included = false
  ends_iff : ∀ node ∈ trie.children.nodes, node.included = true ↔ node.children = .nil

/-- What a frozen trie shares with the one it comes from. -/
structure Keeps (trie : Trie) (row : Frozen) : Prop where
  leafCount_eq : row.leafCount = trie.children.nodes.countP (·.included)
  length_rules : row.leafCount = row.rules.length
  rules_eq : row.rules = trie.rules
  covers_eq : ∀ name, row.covers name = trie.covers name
  coversRecursive_eq : ∀ calls name, row.coversRecursive calls name = trie.coversRecursive calls name

theorem WellShaped.freeze (h : trie.WellShaped) : trie.freeze = .ok trie.children.freeze := by
  have sound : trie.children.flaw? = none := (Forest.flaw?_eq_none_iff _).mpr h.ends_iff
  simp [Trie.freeze, h.plain, sound]

theorem WellShaped.keeps (h : trie.WellShaped) : trie.Keeps trie.children.freeze where
  leafCount_eq := Forest.leafCount_freeze h.ends_iff
  length_rules := (Frozen.length_rules _).symm
  rules_eq := rules_freeze trie
  covers_eq := covers_freeze trie
  coversRecursive_eq := coversRecursive_freeze trie

theorem wellShaped_of_freeze (h : trie.freeze = .ok row) : trie.WellShaped := by
  rw [Trie.freeze] at h
  split at h
  · contradiction
  · rename_i plain
    cases found : trie.children.flaw? with
    | none => exact ⟨by simpa using plain, (Forest.flaw?_eq_none_iff _).mp found⟩
    | some flaw => simp [found] at h

theorem flaw?_of_freeze (plain : trie.included = false) (h : trie.freeze = .error flaw) :
    trie.children.flaw? = some flaw := by
  rw [Trie.freeze, plain, if_neg Bool.false_ne_true] at h
  split at h
  · obtain rfl := Except.error.inj h
    assumption
  · contradiction

theorem wellShaped_ofList (suffixes : List String) : (ofList suffixes).WellShaped :=
  ⟨included_ofList suffixes, fun _ mem => (tidy_ofList suffixes).included_iff mem⟩

theorem freeze_ofList (suffixes : List String) : (ofList suffixes).freeze = .ok (ofList suffixes).children.freeze :=
  (wellShaped_ofList suffixes).freeze

theorem Reached.wellShaped (h : trie.Reached) : trie.WellShaped := by
  obtain ⟨suffixes, rfl⟩ := h.exists_ofList
  exact wellShaped_ofList suffixes

/-- Freezing is exact: it refuses ill-shaped tries, whatever insertions lead to is well-shaped, and what it makes of a
well-shaped trie has the same rules in the same order and gives the same answers. -/
theorem freeze_exact (trie : Trie) :
    ((∃ row, trie.freeze = .ok row) ↔ trie.WellShaped) ∧
    (¬ trie.WellShaped → ∃ flaw, trie.freeze = .error flaw ∧
      ∀ recursive, (Collector.Store.suffixTrie recursive trie).freeze = .error (.flawedTrie flaw)) ∧
    (∀ row, trie.freeze = .ok row → trie.Keeps row) ∧
    (trie.Reached → ∃ row, trie.freeze = .ok row) := by
  refine ⟨⟨fun ⟨_, h⟩ => wellShaped_of_freeze h, fun shaped => ⟨_, shaped.freeze⟩⟩, fun ill => ?_, fun row h => ?_,
    fun reached => ⟨_, reached.wellShaped.freeze⟩⟩
  · cases frozen : trie.freeze with
    | ok row => exact absurd (wellShaped_of_freeze frozen) ill
    | error flaw => exact ⟨flaw, rfl, fun recursive => by rw [Collector.Store.freeze, frozen]⟩
  · have shaped := wellShaped_of_freeze h
    obtain rfl := Except.ok.inj (shaped.freeze.symm.trans h)
    exact shaped.keeps

/-- Empty labels at the top and inside, and an included node with another one below it. -/
theorem freeze_exact_empty_labels :
    let trie : Trie := ⟨false, .cons "" false (.cons "a" true .nil .nil) (.cons "b" false (.cons "" true .nil .nil) .nil)⟩
    let edited : Trie := ⟨false, .cons "b" false (.cons "a" true (.cons "c" true .nil .nil) .nil) .nil⟩
    (∃ row, trie.freeze = .ok row ∧ row.rules = [".b", "a."] ∧ trie.Keeps row) ∧
    (∃ flaw, edited.freeze = .error flaw ∧ edited.children.flaw? = some flaw) ∧
    ∃ row, (empty.insert "a..b").freeze = .ok row := by
  intro trie edited
  have frozen : trie.freeze = .ok trie.children.freeze := by decide
  have ill : ¬ edited.WellShaped := fun shaped => absurd (shaped.ends_iff ⟨true, .cons "c" true .nil .nil⟩ (by decide)) (by decide)
  obtain ⟨flaw, refused, -⟩ := (freeze_exact edited).2.1 ill
  exact ⟨⟨_, frozen, by decide, (freeze_exact trie).2.2.1 _ frozen⟩, ⟨flaw, refused, flaw?_of_freeze rfl refused⟩,
    (freeze_exact _).2.2.2 (.insert "a..b" .empty)⟩

/-- Where a trie is refused for one of its nodes, that node is as it is told, and its place spells the labels that lead to
it, without the empty ones at the top. -/
theorem flaw_names_node (plain : trie.included = false) (refused : trie.freeze = .error flaw) :
    ∃ path node place, trie.children.Has path node ∧ flaw.Describes place node ∧
      place = ".".intercalate (path.dropWhile (· = "")).reverse ∧
      (place = ".".intercalate path.reverse ↔ path.head? ≠ some "" ∨ path = [""]) := by
  obtain ⟨path, node, has, described⟩ := Forest.exists_of_flaw? (flaw?_of_freeze plain refused)
  exact ⟨path, node, _, has, described, Forest.placeBelow_empty path, Forest.placeBelow_empty_eq_iff has.ne_nil⟩

theorem flaw_names_node_inner_empty_label :
    let trie : Trie := ⟨false, .cons "com" false (.cons "" true (.cons "a" true .nil .nil) .nil) .nil⟩
    trie.freeze = .error (.childrenBelow ".com" 1) ∧
    ∃ path node place, trie.children.Has path node ∧ (Flaw.childrenBelow ".com" 1).Describes place node ∧
      place = ".".intercalate (path.dropWhile (· = "")).reverse ∧
      (place = ".".intercalate path.reverse ↔ path.head? ≠ some "" ∨ path = [""]) := by
  intro trie
  have refused : trie.freeze = .error (.childrenBelow ".com" 1) := by decide
  exact ⟨refused, flaw_names_node rfl refused⟩

/-- Below an empty label at the top the place lacks its dot: no node of the trie has the labels that it spells. -/
theorem place_lacks_empty_label :
    let trie : Trie := ⟨false, .cons "" false (.cons "a" false .nil .nil) .nil⟩
    trie.included = false ∧ trie.freeze = .error (.dangling "a") ∧
    ¬ ∃ path node, trie.children.Has path node ∧ (Flaw.dangling "a").Describes (".".intercalate path.reverse) node := by
  refine ⟨rfl, by decide, ?_⟩
  rintro ⟨path, node, has, described⟩
  obtain ⟨spelled, rfl⟩ := described.dangling_inv
  obtain rfl : path = ["", "a"] := by
    cases has with
    | inside deeper =>
      cases deeper with
      | here => rfl
      | inside none | beside none => cases none
    | beside none => cases none
  exact absurd spelled (by decide)

end Trie

end DomainRules.Suffix
