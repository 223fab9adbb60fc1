import DomainRules.Proofs.Suffix.Calls
import DomainRules.Suffix.Trie
import Mathlib.Data.List.Induction

/-! What insertion does to a forest: a path that an included node covers changes nothing, and any other one
takes the place of everything below it. Forests grown this way are tidy and hold the minimal paths. -/

namespace DomainRules.Suffix

namespace Forest

def includes (label : String) (forest : Forest) : Bool :=
  (forest.find? label).elim false Node.included

def under (label : String) (forest : Forest) : Forest :=
  (forest.find? label).elim nil Node.children

/-- Whether a path leads to an included node. -/
def holds : List String → Forest → Bool
  | [], _ => false
  | label :: path, forest => if path = [] then forest.includes label else holds path (forest.under label)

def coversPath (path : List String) (forest : Forest) : Bool := Suffix.coversPath next? path forest

@[simp] theorem includes_nil (label : String) : includes label nil = false := rfl

@[simp] theorem under_nil (label : String) : under label nil = nil := rfl

@[simp] theorem includes_cons (label head : String) (included : Bool) (below rest : Forest) :
    (cons head included below rest).includes label = if head = label then included else rest.includes label := by
  by_cases same : head = label <;> simp [includes, find?, same]

@[simp] theorem under_cons (label head : String) (included : Bool) (below rest : Forest) :
    (cons head included below rest).under label = if head = label then below else rest.under label := by
  by_cases same : head = label <;> simp [under, find?, same]

@[simp] theorem includes_put (label head : String) (node : Node) (forest : Forest) :
    (forest.put label node).includes head = if label = head then node.included else forest.includes head := by
  by_cases same : label = head <;> simp [includes, same]

@[simp] theorem under_put (label head : String) (node : Node) (forest : Forest) :
    (forest.put label node).under head = if label = head then node.children else forest.under head := by
  by_cases same : label = head <;> simp [under, same]

theorem put_put (forest : Forest) (label : String) (first second : Node) :
    (forest.put label first).put label second = forest.put label second := by
  induction forest with
  | nil => simp [put]
  | cons head _ _ _ _ ih => by_cases same : head = label <;> simp [put, same, ih]

@[simp] theorem holds_path_nil (forest : Forest) : holds [] forest = false := rfl

theorem holds_cons (label : String) (path : List String) (forest : Forest) :
    holds (label :: path) forest =
      if path = [] then forest.includes label else holds path (forest.under label) := rfl

@[simp] theorem holds_nil (path : List String) : holds path nil = false := by
  induction path with
  | nil => rfl
  | cons label path ih => simp [holds_cons, ih]

@[simp] theorem coversPath_path_nil (forest : Forest) : coversPath [] forest = false := rfl

@[simp] theorem coversPath_nil (path : List String) : coversPath path nil = false := by
  cases path <;> rfl

theorem coversPath_cons (label : String) (path : List String) (forest : Forest) :
    coversPath (label :: path) forest = (forest.includes label || coversPath path (forest.under label)) := by
  rcases found : forest.find? label with _ | ⟨_ | _, below⟩
  · have bare : coversPath (label :: path) forest = false := by simp [coversPath, Suffix.coversPath, next?, found]
    simp [bare, includes, under, found]
  · simp [coversPath, Suffix.coversPath, next?, includes, under, found]
  · simp [coversPath, Suffix.coversPath, next?, includes, found]

theorem insertPath_cons (label : String) (path : List String) (forest : Forest) :
    insertPath (label :: path) forest =
      if forest.includes label then forest
      else forest.put label (if path = [] then ⟨true, nil⟩ else ⟨false, insertPath path (forest.under label)⟩) := by
  cases path with
  | nil =>
    rcases found : forest.find? label with _ | ⟨_ | _, below⟩ <;>
      simp [insertPath, mark, includes, found]
  | cons next path =>
    rcases found : forest.find? label with _ | ⟨_ | _, below⟩ <;>
      simp [insertPath, includes, under, found]

/-- A forest covers what begins with a path it holds. -/
theorem coversPath_iff (path : List String) (forest : Forest) :
    coversPath path forest = true ↔ ∃ part, part <+: path ∧ holds part forest = true := by
  induction path generalizing forest with
  | nil => simp
  | cons label path ih =>
    rw [coversPath_cons, Bool.or_eq_true, ih]
    constructor
    · rintro (included | ⟨part, before, held⟩)
      · exact ⟨[label], by simp, by simpa [holds_cons] using included⟩
      · have nonempty : part ≠ [] := by rintro rfl; simp at held
        exact ⟨label :: part, by simpa using before, by simpa [holds_cons, nonempty] using held⟩
    · rintro ⟨_ | ⟨head, part⟩, before, held⟩
      · simp at held
      · obtain ⟨rfl, tail⟩ := List.cons_prefix_cons.mp before
        by_cases last : part = []
        · exact .inl (by simpa [holds_cons, last] using held)
        · exact .inr ⟨part, tail, by simpa [holds_cons, last] using held⟩

/-- What one insertion does to what a forest holds. -/
theorem holds_insertPath {path : List String} (nonempty : path ≠ []) (probe : List String) (forest : Forest) :
    holds probe (insertPath path forest) =
      if coversPath path forest then holds probe forest
      else decide (probe = path) || (holds probe forest && !path.isPrefixOf probe) := by
  induction path generalizing probe forest with
  | nil => contradiction
  | cons label path ih =>
    cases probe with
    | nil => simp
    | cons head probe =>
      rw [insertPath_cons, coversPath_cons]
      by_cases covered : forest.includes label
      · simp [covered]
      · by_cases same : head = label
        · subst same
          by_cases last : path = []
          · by_cases here : probe = [] <;> simp [holds_cons, covered, last, here]
          · by_cases here : probe = []
            · simp [holds_cons, covered, last, here, Ne.symm last]
            · simp [holds_cons, covered, last, here, ih last]
        · simp [holds_cons, covered, same, Ne.symm same, List.isPrefixOf_cons_cons]

/-- Labels in a row differ, and a node is either included or leads on. -/
def Tidy : Forest → Prop
  | nil => True
  | cons label included below rest =>
    rest.find? label = none ∧ (included = true ↔ below = nil) ∧ below.Tidy ∧ rest.Tidy

theorem Tidy.put {forest : Forest} (h : forest.Tidy) (label : String) {node : Node}
    (only : node.included = true ↔ node.children = nil) (below : node.children.Tidy) :
    (forest.put label node).Tidy := by
  induction forest with
  | nil => exact ⟨rfl, only, below, trivial⟩
  | cons head included inner rest _ ih =>
    obtain ⟨fresh, ends, tidyInner, tidyRest⟩ := h
    by_cases same : head = label
    · simpa [Forest.put, same, Tidy] using ⟨same ▸ fresh, only, below, tidyRest⟩
    · simpa [Forest.put, same, Tidy, Ne.symm same] using ⟨fresh, ends, tidyInner, ih tidyRest⟩

theorem Tidy.under {forest : Forest} (h : forest.Tidy) (label : String) : (forest.under label).Tidy := by
  induction forest with
  | nil => trivial
  | cons head included inner rest _ ih =>
    obtain ⟨-, -, tidyInner, tidyRest⟩ := h
    by_cases same : head = label
    · simpa [same] using tidyInner
    · simpa [same] using ih tidyRest

theorem put_ne_nil (label : String) (node : Node) (forest : Forest) : forest.put label node ≠ nil := by
  cases forest with
  | nil => simp [put]
  | cons head => by_cases same : head = label <;> simp [put, same]

theorem insertPath_ne_nil {path : List String} (nonempty : path ≠ []) (forest : Forest) :
    insertPath path forest ≠ nil := by
  cases path with
  | nil => contradiction
  | cons label path =>
    rw [insertPath_cons]
    split
    · rintro rfl
      simp_all
    · apply put_ne_nil

theorem Tidy.insertPath {forest : Forest} (h : forest.Tidy) (path : List String) :
    (forest.insertPath path).Tidy := by
  induction path generalizing forest with
  | nil => exact h
  | cons label path ih =>
    rw [insertPath_cons]
    split
    · exact h
    · by_cases last : path = []
      · exact h.put label (by simp [last]) (by simp [last, Tidy])
      · exact h.put label (by simp [last, insertPath_ne_nil last]) (by simpa [last] using ih (h.under label))

theorem Tidy.under_eq_nil {forest : Forest} (h : forest.Tidy) {label : String}
    (included : forest.includes label = true) : forest.under label = nil := by
  induction forest with
  | nil => rfl
  | cons head _ inner rest _ ih =>
    obtain ⟨-, ends, -, tidyRest⟩ := h
    by_cases same : head = label
    · simp_all
    · simpa [same] using ih tidyRest (by simpa [same] using included)

/-- A path that none of the given ones properly begins. -/
def IsMinimal (paths : List (List String)) (path : List String) : Prop :=
  path ∈ paths ∧ ∀ part ∈ paths, part <+: path → part = path

theorem exists_isMinimal {paths : List (List String)} {path : List String} (mem : path ∈ paths) :
    ∃ part, part <+: path ∧ IsMinimal paths part := by
  by_cases minimal : ∀ part ∈ paths, part <+: path → part = path
  · exact ⟨path, List.prefix_refl path, mem, minimal⟩
  · push Not at minimal
    obtain ⟨shorter, memShorter, before, differ⟩ := minimal
    have less : shorter.length < path.length :=
      Nat.lt_of_le_of_ne before.length_le fun same => differ (before.eq_of_length same)
    obtain ⟨part, first, h⟩ := exists_isMinimal memShorter
    exact ⟨part, first.trans before, h⟩
termination_by path.length

def ofPaths (paths : List (List String)) : Forest :=
  paths.foldl (fun forest path => forest.insertPath path) nil

theorem ofPaths_append (paths : List (List String)) (path : List String) :
    ofPaths (paths ++ [path]) = (ofPaths paths).insertPath path := by
  simp [ofPaths]

theorem tidy_ofPaths (paths : List (List String)) : (ofPaths paths).Tidy := by
  induction paths using List.reverseRecOn with
  | nil => trivial
  | append_singleton paths path ih =>
    rw [ofPaths_append]
    exact ih.insertPath path

theorem isMinimal_append_of_covered {paths : List (List String)} {part path : List String}
    (mem : part ∈ paths) (before : part <+: path) (probe : List String) :
    IsMinimal (paths ++ [path]) probe ↔ IsMinimal paths probe := by
  simp only [IsMinimal, List.mem_append, List.mem_singleton, or_imp, forall_and, forall_eq]
  constructor
  · rintro ⟨memProbe | rfl, minimal, -⟩
    · exact ⟨memProbe, minimal⟩
    · exact ⟨minimal part mem before ▸ mem, minimal⟩
  · rintro ⟨memProbe, minimal⟩
    refine ⟨.inl memProbe, minimal, fun h => ?_⟩
    obtain rfl := minimal part mem (before.trans h)
    exact h.eq_of_length_le before.length_le

theorem isMinimal_append_of_uncovered {paths : List (List String)} {path : List String}
    (uncovered : ¬ ∃ part ∈ paths, part <+: path) (probe : List String) :
    IsMinimal (paths ++ [path]) probe ↔ probe = path ∨ (IsMinimal paths probe ∧ ¬ path <+: probe) := by
  simp only [IsMinimal, List.mem_append, List.mem_singleton, or_imp, forall_and, forall_eq]
  constructor
  · rintro ⟨mem, minimal, last⟩
    by_cases same : probe = path
    · exact .inl same
    · exact .inr ⟨⟨mem.resolve_right same, minimal⟩, fun h => same (last h).symm⟩
  · rintro (rfl | ⟨⟨mem, minimal⟩, apart⟩)
    · exact ⟨.inr rfl, fun part mem before => absurd ⟨part, mem, before⟩ uncovered, fun _ => rfl⟩
    · exact ⟨.inl mem, minimal, fun h => absurd h apart⟩

/-- A forest that holds the minimal paths covers what begins with any of them. -/
theorem coversPath_iff_of_holds {forest : Forest} {paths : List (List String)}
    (h : ∀ probe, holds probe forest = true ↔ IsMinimal paths probe) (path : List String) :
    coversPath path forest = true ↔ ∃ part ∈ paths, part <+: path := by
  simp only [coversPath_iff, h]
  constructor
  · rintro ⟨part, before, mem, -⟩
    exact ⟨part, mem, before⟩
  · rintro ⟨part, mem, before⟩
    obtain ⟨first, h, minimal⟩ := exists_isMinimal mem
    exact ⟨first, h.trans before, minimal⟩

/-- Insertions in any order leave a forest that holds the minimal paths. -/
theorem holds_ofPaths {paths : List (List String)} (nonempty : ∀ path ∈ paths, path ≠ [])
    (probe : List String) : holds probe (ofPaths paths) = true ↔ IsMinimal paths probe := by
  induction paths using List.reverseRecOn generalizing probe with
  | nil => simp [ofPaths, IsMinimal]
  | append_singleton paths path ih =>
    have held := ih fun other mem => nonempty other (by simp [mem])
    rw [ofPaths_append, holds_insertPath (nonempty path (by simp))]
    by_cases covered : coversPath path (ofPaths paths) = true
    · obtain ⟨part, mem, before⟩ := (coversPath_iff_of_holds held path).mp covered
      simpa [covered, isMinimal_append_of_covered mem before] using held probe
    · have uncovered := mt (coversPath_iff_of_holds held path).mpr covered
      simp [covered, isMinimal_append_of_uncovered uncovered, held, ← List.isPrefixOf_iff_prefix]

theorem coversPath_ofPaths {paths : List (List String)} (nonempty : ∀ path ∈ paths, path ≠ [])
    (path : List String) : coversPath path (ofPaths paths) = true ↔ ∃ part ∈ paths, part <+: path :=
  coversPath_iff_of_holds (holds_ofPaths nonempty) path

end Forest

end DomainRules.Suffix
