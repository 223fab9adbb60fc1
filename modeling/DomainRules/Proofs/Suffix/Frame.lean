import DomainRules.Proofs.Suffix.Freezing

/-! What one insertion leaves alone. A suffix that is covered changes nothing. Any other one ends in a new or emptied node;
the rows on the way to it keep their labels in order, and every other node stays as it is. -/

namespace DomainRules.Suffix

/-- The node that labels lead to, the rightmost label first. -/
def Node.at? : List String → Node → Option Node
  | [], node => some node
  | label :: path, node => (node.children.find? label).bind (at? path)

namespace Forest

def labels : Forest → List String
  | nil => []
  | cons label _ _ rest => label :: rest.labels

/-- The labels of the row that labels lead to, in order; where they lead nowhere, there are none. -/
def rowAt : List String → Forest → List String
  | [], forest => forest.labels
  | label :: path, forest => rowAt path (forest.under label)

/-- A label joins a row at its end, unless it is there already. -/
def joined (label : String) (row : List String) : List String := if label ∈ row then row else row ++ [label]

theorem prefix_joined (label : String) (row : List String) : row <+: joined label row := by
  unfold joined
  split
  · exact List.prefix_refl row
  · exact List.prefix_append row [label]

theorem labels_put (label : String) (node : Node) (forest : Forest) :
    (forest.put label node).labels = joined label forest.labels := by
  induction forest with
  | nil => rfl
  | cons head included below rest _ ih =>
    by_cases same : head = label
    · simp [put, labels, joined, same]
    · simp only [put, labels, if_neg same, ih, joined, List.mem_cons, Ne.symm same, false_or, apply_ite (head :: ·),
        List.cons_append]

theorem put_of_find? {label : String} {node : Node} {forest : Forest} (h : forest.find? label = some node) :
    forest.put label node = forest := by
  induction forest with
  | nil => contradiction
  | cons head included below rest _ ih =>
    by_cases same : head = label
    · obtain rfl : ⟨included, below⟩ = node := by simpa [find?, same] using h
      simp [put, same]
    · simp [put, same, ih (by simpa [find?, same] using h)]

/-- A label that is not included leads to a plain node, or nowhere. -/
theorem find?_eq_some_of_under {label : String} {forest : Forest} (plain : forest.includes label = false)
    (filled : forest.under label ≠ nil) : forest.find? label = some ⟨false, forest.under label⟩ := by
  rcases found : forest.find? label with _ | ⟨_ | _, below⟩ <;> simp_all [includes, under]

/-- A path that is covered changes nothing. -/
theorem insertPath_of_coversPath {path : List String} {forest : Forest} (covered : coversPath path forest = true) :
    insertPath path forest = forest := by
  induction path generalizing forest with
  | nil => rfl
  | cons label path ih =>
    rw [coversPath_cons, Bool.or_eq_true] at covered
    rw [insertPath_cons]
    cases included : forest.includes label with
    | true => rfl
    | false =>
      have inside : coversPath path (forest.under label) = true := by simpa [included] using covered
      have more : path ≠ [] := by rintro rfl; simp at inside
      have filled : forest.under label ≠ nil := fun bare => by
        rw [bare, coversPath_iff] at inside
        simp at inside
      rw [if_neg Bool.false_ne_true, if_neg more, ih inside, put_of_find? (find?_eq_some_of_under included filled)]

/-- Off the end of the path, each row keeps its labels in order and may get another one behind them. -/
theorem rowAt_prefix_insertPath {path probe : List String} (above : ¬ path <+: probe) (forest : Forest) :
    rowAt probe forest <+: rowAt probe (insertPath path forest) := by
  induction path generalizing probe forest with
  | nil => simp at above
  | cons label path ih =>
    rw [insertPath_cons]
    split
    · exact List.prefix_refl _
    · cases probe with
      | nil =>
        rw [rowAt, rowAt, labels_put]
        exact prefix_joined label forest.labels
      | cons head probe =>
        rw [rowAt, rowAt, under_put]
        by_cases same : label = head
        · subst same
          have inner : ¬ path <+: probe := by simpa using above
          have more : path ≠ [] := by rintro rfl; simp at inner
          simpa [more] using ih inner (forest.under label)
        · rw [if_neg same]

end Forest

namespace Node

/-- What becomes of a node when a path is inserted below it. -/
def grow (path : List String) (node : Node) : Node := { node with children := node.children.insertPath path }

theorem at?_append (path more : List String) (node : Node) : node.at? (path ++ more) = (node.at? path).bind (at? more) := by
  induction path generalizing node with
  | nil => rfl
  | cons label path ih =>
    rw [List.cons_append, at?, at?, Option.bind_assoc]
    exact congrArg (Option.bind _) (funext ih)

@[simp] theorem at?_cons_childless (label : String) (path : List String) (flag : Bool) :
    at? (label :: path) ⟨flag, .nil⟩ = none := rfl

section
variable {label : String} {path : List String} {node : Node}

/-- Below a label, its flag does not matter. -/
theorem at?_cons_under (flag : Bool) (label next : String) (path : List String) (forest : Forest) :
    at? (next :: path) ⟨flag, forest.under label⟩ = (forest.find? label).bind (at? (next :: path)) := by
  cases found : forest.find? label <;> simp [Forest.under, found, at?, Forest.find?]

theorem grow_of_includes (h : node.children.includes label = true) (path : List String) : node.grow (label :: path) = node := by
  rw [grow, Forest.insertPath_cons, if_pos h]

theorem find?_grow_of_ne {head : String} (differ : label ≠ head) (path : List String) :
    (node.grow (label :: path)).children.find? head = node.children.find? head := by
  rw [grow, Forest.insertPath_cons]
  split
  · rfl
  · rw [Forest.find?_put, if_neg differ]

theorem find?_grow_self (plain : node.children.includes label = false) (path : List String) :
    (node.grow (label :: path)).children.find? label =
      some (if path = [] then ⟨true, .nil⟩ else grow path ⟨false, node.children.under label⟩) := by
  rw [grow, Forest.insertPath_cons, plain, if_neg Bool.false_ne_true, Forest.find?_put, if_pos rfl]
  rfl

/-- A node beside the path, neither on the way to its end nor below it, stays as it is. -/
theorem at?_grow_of_beside {probe : List String} (above : ¬ path <+: probe) (below : ¬ probe <+: path) :
    (node.grow path).at? probe = node.at? probe := by
  induction path generalizing probe node with
  | nil => simp at above
  | cons label path ih =>
    obtain ⟨head, probe, rfl⟩ := List.exists_cons_of_ne_nil (l := probe) (by rintro rfl; simp at below)
    by_cases same : label = head
    · subst same
      have inner : ¬ path <+: probe := by simpa using above
      have outer : ¬ probe <+: path := by simpa using below
      have more : path ≠ [] := by rintro rfl; simp at inner
      obtain ⟨next, deeper, rfl⟩ := List.exists_cons_of_ne_nil (l := probe) (by rintro rfl; simp at outer)
      cases included : node.children.includes label with
      | true => rw [grow_of_includes included]
      | false =>
        rw [at?, find?_grow_self included, if_neg more, Option.bind_some, ih inner outer, at?_cons_under]
        rfl
    · rw [at?, at?, find?_grow_of_ne same]

/-- A path that is not covered, looked at behind its first label. -/
theorem uncovered_cons_iff :
    (node.children.coversPath (label :: path)) = false ↔
      node.children.includes label = false ∧ (node.children.under label).coversPath path = false := by
  rw [Forest.coversPath_cons, Bool.or_eq_false_iff]

/-- A path that is not covered leads to an included node without children. -/
theorem at?_grow_self (nonempty : path ≠ []) (uncovered : node.children.coversPath path = false) :
    (node.grow path).at? path = some ⟨true, .nil⟩ := by
  induction path generalizing node with
  | nil => contradiction
  | cons label path ih =>
    obtain ⟨plain, inner⟩ := uncovered_cons_iff.mp uncovered
    rw [at?, find?_grow_self plain, Option.bind_some]
    by_cases last : path = []
    · rw [if_pos last, last]
      rfl
    · rw [if_neg last, ih last inner]

theorem coversPath_of_at? {reached : Node} (nonempty : path ≠ []) (found : node.at? path = some reached)
    (included : reached.included = true) : node.children.coversPath path = true := by
  induction path generalizing node with
  | nil => contradiction
  | cons label path ih =>
    rw [at?, Option.bind_eq_some_iff] at found
    obtain ⟨child, first, found⟩ := found
    rw [Forest.coversPath_cons, Forest.includes, Forest.under, first]
    by_cases last : path = []
    · obtain rfl : child = reached := by simpa [last, at?] using found
      simp [included]
    · simp [ih last found]

/-- On the way to its end a path leads to plain nodes, and each row gets the next label. -/
theorem at?_grow_of_way {rest : List String} (plain : node.included = false)
    (uncovered : node.children.coversPath (path ++ label :: rest) = false) :
    ∃ reached, (node.grow (path ++ label :: rest)).at? path = some reached ∧ reached.included = false ∧
      reached.children.labels = Forest.joined label (node.children.rowAt path) := by
  induction path generalizing node with
  | nil =>
    refine ⟨_, rfl, plain, ?_⟩
    obtain ⟨included, -⟩ := uncovered_cons_iff.mp uncovered
    rw [List.nil_append, grow, Forest.insertPath_cons, included, if_neg Bool.false_ne_true, Forest.labels_put, Forest.rowAt]
  | cons head path ih =>
    obtain ⟨included, inner⟩ := uncovered_cons_iff.mp uncovered
    have more : path ++ label :: rest ≠ [] := by simp
    obtain ⟨reached, found, rest⟩ := @ih ⟨false, node.children.under head⟩ rfl inner
    exact ⟨reached, by rw [List.cons_append, at?, find?_grow_self included, if_neg more, Option.bind_some, found], rest⟩

end

end Node

namespace Trie

theorem insert_eq_grow (trie : Trie) (suffix : String) : trie.insert suffix = trie.grow (Name.path suffix) :=
  insert_eq trie suffix

theorem mem_rules_insert {trie : Trie} (reached : trie.Reached) {suffix : String} (uncovered : trie.covers suffix = false)
    (rule : String) : rule ∈ (trie.insert suffix).rules ↔ rule = suffix ∨ rule ∈ trie.rules ∧ ¬ Name.Covers suffix rule := by
  obtain ⟨suffixes, rfl⟩ := reached.exists_ofList
  have apart : ¬ ∃ part ∈ suffixes.map Name.path, part <+: Name.path suffix := by
    rintro ⟨_, mem, before⟩
    obtain ⟨other, taken, rfl⟩ := List.mem_map.mp mem
    have covered := (covers_ofList suffixes suffix).mpr ⟨other, taken, (Name.covers_iff_path other suffix).mpr before⟩
    exact Bool.false_ne_true (uncovered.symm.trans covered)
  rw [← ofList_append, mem_rules_ofList, mem_rules_ofList, ← isMinimal_path, ← isMinimal_path, List.map_append,
    List.map_singleton, Forest.isMinimal_append_of_uncovered apart, Name.covers_iff_path, Name.path_injective.eq_iff]

theorem insert_eq_self_iff {trie : Trie} (suffix : String) : trie.insert suffix = trie ↔ trie.covers suffix = true := by
  rw [covers_eq, insert_eq_grow]
  constructor
  · intro same
    by_contra uncovered
    -- The included node at the end of the path would have been there before.
    have last := Node.at?_grow_self (Name.path_ne_nil suffix) (Bool.eq_false_of_not_eq_true uncovered)
    rw [same] at last
    exact uncovered (Node.coversPath_of_at? (Name.path_ne_nil suffix) last rfl)
  · intro covered
    rw [Node.grow, Forest.insertPath_of_coversPath covered]

/-- An insertion changes nothing just if the suffix was covered before. Any other one adds the suffix to the rules and takes
away those that it covers. It reaches its end by plain nodes, each in the row of the one before, and leaves an included node
without children there; every node beside this way stays as it is, and every label that stays keeps its place. -/
theorem insert_updates_antichain {trie : Trie} (reached : trie.Reached) (suffix : String) :
    let grown := trie.insert suffix
    (grown = trie ↔ trie.covers suffix = true) ∧
    (trie.covers suffix = false →
      (∀ rule, rule ∈ grown.rules ↔ rule = suffix ∨ rule ∈ trie.rules ∧ ¬ Name.Covers suffix rule) ∧
      (∀ path, ¬ path <+: Name.path suffix → ¬ Name.path suffix <+: path → grown.at? path = trie.at? path) ∧
      grown.at? (Name.path suffix) = some ⟨true, .nil⟩ ∧
      (∀ path label, path ++ [label] <+: Name.path suffix → ∃ node, grown.at? path = some node ∧ node.included = false ∧
        node.children.labels = Forest.joined label (trie.children.rowAt path)) ∧
      ∀ path label (i : Nat), (trie.children.rowAt path)[i]? = some label → (grown.at? (path ++ [label])).isSome = true →
        (grown.children.rowAt path)[i]? = some label) := by
  intro grown
  refine ⟨insert_eq_self_iff suffix, fun uncovered => ?_⟩
  have same : grown = trie.grow (Name.path suffix) := insert_eq_grow trie suffix
  have free : trie.children.coversPath (Name.path suffix) = false := by rwa [← covers_eq]
  have last : grown.at? (Name.path suffix) = some ⟨true, .nil⟩ := by
    rw [same, Node.at?_grow_self (Name.path_ne_nil suffix) free]
  refine ⟨mem_rules_insert reached uncovered, fun path below above => ?_, last, fun path label before => ?_,
    fun path label i found stays => ?_⟩
  · rw [same, Node.at?_grow_of_beside above below]
  · obtain ⟨rest, split⟩ := before
    rw [List.append_assoc, List.singleton_append] at split
    rw [same, ← split]
    exact Node.at?_grow_of_way reached.wellShaped.plain (split ▸ free)
  · have above : ¬ Name.path suffix <+: path := by
      rintro ⟨more, rfl⟩
      rw [List.append_assoc, Node.at?_append, last, Option.bind_some] at stays
      obtain ⟨head, tail, split⟩ := List.exists_cons_of_ne_nil (l := more ++ [label]) (by simp)
      rw [split] at stays
      contradiction
    obtain ⟨more, kept⟩ := Forest.rowAt_prefix_insertPath above trie.children
    obtain ⟨within, -⟩ := List.getElem?_eq_some_iff.mp found
    rw [same, Node.grow, ← kept, List.getElem?_append_left within, found]

/-- A suffix in the middle of a trie takes the place of the two below it; one that is covered changes nothing. -/
theorem insert_updates_antichain_midway :
    let trie := ofList ["a.b.c", "x.c", "d", "..b.c"]
    let grown := trie.insert "b.c"
    trie.covers "b.c" = false ∧ (∀ rule, rule ∈ grown.rules ↔ rule = "b.c" ∨ rule ∈ trie.rules ∧ ¬ Name.Covers "b.c" rule) ∧
    grown.at? ["c", "b"] = some ⟨true, .nil⟩ ∧ grown.at? ["c", "x"] = trie.at? ["c", "x"] ∧
    trie.children.rowAt ["c"] = ["b", "x"] ∧ (grown.children.rowAt ["c"])[1]? = some "x" ∧ trie.insert "e.x.c" = trie := by
  intro trie grown
  have reached : trie.Reached := .insert _ (.insert _ (.insert _ (.insert _ .empty)))
  have uncovered : trie.covers "b.c" = false := by decide
  obtain ⟨-, update⟩ := insert_updates_antichain reached "b.c"
  obtain ⟨rules, beside, last, -, places⟩ := update uncovered
  exact ⟨uncovered, rules, last, beside ["c", "x"] (by decide) (by decide), by decide, places ["c"] "x" 1 (by decide) (by decide),
    (insert_updates_antichain reached "e.x.c").1.mpr (by decide)⟩

end Trie

end DomainRules.Suffix
