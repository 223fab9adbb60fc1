import DomainRules.Proofs.Suffix.Lookup
import Mathlib.Data.List.Nodup

/-! What a tidy forest lists: each path it holds once, and every beginning of such a path as one node. -/

namespace DomainRules.Suffix

namespace Forest

/-- The paths of included nodes, each before the given labels, in the order in which a forest lists them. -/
def pathsFrom (path : List String) (forest : Forest) : List (List String) :=
  forest.included path ++ forest.deeper path

theorem pathsFrom_cons_true (path : List String) (label : String) (below rest : Forest) :
    pathsFrom path (cons label true below rest) = (label :: path) :: pathsFrom path rest := rfl

theorem pathsFrom_cons_false (path : List String) (label : String) (below rest : Forest) :
    pathsFrom path (cons label false below rest) = pathsFrom path rest ++ pathsFrom (label :: path) below := by
  simp [pathsFrom, Forest.included, deeper]

theorem includes_of_find? {label : String} {forest : Forest} (h : forest.find? label = none) :
    forest.includes label = false := by
  simp [includes, h]

theorem under_of_find? {label : String} {forest : Forest} (h : forest.find? label = none) :
    forest.under label = nil := by
  simp [under, h]

/-- A path into a row leads through its first node or through the others. -/
theorem Tidy.holds_cons_iff {label : String} {included : Bool} {below rest : Forest}
    (h : (cons label included below rest).Tidy) (path : List String) :
    holds path (cons label included below rest) = true ↔
      (path = [label] ∧ included = true) ∨ (∃ inner, path = label :: inner ∧ holds inner below = true) ∨
        holds path rest = true := by
  obtain ⟨fresh, -, -, -⟩ := h
  cases path with
  | nil => simp
  | cons head inner =>
    by_cases same : label = head
    · subst same
      by_cases last : inner = [] <;>
        simp [holds_cons, last, includes_of_find? fresh, under_of_find? fresh]
    · by_cases last : inner = [] <;> simp [holds_cons, last, same, Ne.symm same]

theorem Tidy.mem_pathsFrom {forest : Forest} (h : forest.Tidy) (path full : List String) :
    full ∈ forest.pathsFrom path ↔ ∃ inner, holds inner forest = true ∧ full = inner.reverse ++ path := by
  induction forest generalizing path with
  | nil => simp [pathsFrom, Forest.included, deeper]
  | cons label included below rest ihBelow ihRest =>
    obtain ⟨-, ends, tidyBelow, tidyRest⟩ := id h
    simp only [h.holds_cons_iff]
    cases included with
    | true =>
      obtain rfl := ends.mp rfl
      simp [pathsFrom_cons_true, ihRest tidyRest, or_and_right, exists_or]
    | false =>
      rw [pathsFrom_cons_false, List.mem_append, ihRest tidyRest, ihBelow tidyBelow, or_comm]
      constructor
      · rintro (⟨inner, held, rfl⟩ | ⟨inner, held, rfl⟩)
        · exact ⟨label :: inner, .inr (.inl ⟨inner, rfl, held⟩), by simp⟩
        · exact ⟨inner, .inr (.inr held), rfl⟩
      · rintro ⟨_, ⟨-, absurd⟩ | ⟨inner, rfl, held⟩ | held, rfl⟩
        · cases absurd
        · exact .inl ⟨inner, held, by simp⟩
        · exact .inr ⟨_, held, rfl⟩

theorem holds_eq_false_of_find? {label : String} {forest : Forest} (h : forest.find? label = none)
    (path : List String) : holds (label :: path) forest = false := by
  simp [holds_cons, includes_of_find? h, under_of_find? h]

theorem Tidy.nodup_pathsFrom {forest : Forest} (h : forest.Tidy) (path : List String) :
    (forest.pathsFrom path).Nodup := by
  induction forest generalizing path with
  | nil => exact List.nodup_nil
  | cons label included below rest ihBelow ihRest =>
    obtain ⟨fresh, -, tidyBelow, tidyRest⟩ := h
    -- What leads through the first node has its label, and no path of the others has.
    have apart : ∀ inner, (inner ++ [label]) ++ path ∉ rest.pathsFrom path := by
      simp only [tidyRest.mem_pathsFrom, List.append_left_inj]
      rintro inner ⟨other, held, same⟩
      obtain rfl : other = label :: inner.reverse := by simpa using (congrArg List.reverse same).symm
      simp [holds_eq_false_of_find? fresh] at held
    cases included with
    | true => exact List.nodup_cons.mpr ⟨apart [], ihRest tidyRest path⟩
    | false =>
      rw [pathsFrom_cons_false]
      refine List.Nodup.append (ihRest tidyRest path) (ihBelow tidyBelow _) fun full memRest memBelow => ?_
      obtain ⟨inner, -, rfl⟩ := (tidyBelow.mem_pathsFrom _ _).mp memBelow
      exact apart inner.reverse (by simpa using memRest)

theorem paths_eq (forest : Forest) : forest.paths = forest.pathsFrom [] := rfl

theorem leaves_freeze (path : List String) (forest : Forest) : forest.freeze.leaves path = forest.included path := by
  induction forest with
  | nil => rfl
  | cons label included below rest _ ih => cases included <;> simp [freeze, Frozen.leaves, Forest.included, ih]

theorem deeper_freeze (path : List String) (forest : Forest) : forest.freeze.deeper path = forest.deeper path := by
  induction forest generalizing path with
  | nil => rfl
  | cons label included below rest ihBelow ihRest =>
    cases included <;> simp [freeze, Frozen.deeper, deeper, ihBelow, ihRest, leaves_freeze]

theorem paths_freeze (forest : Forest) : forest.freeze.paths = forest.paths := by
  simp [Frozen.paths, paths, leaves_freeze, deeper_freeze]

def places : Forest → List (List String)
  | nil => []
  | cons label _ below rest => [label] :: (below.places.map (label :: ·) ++ rest.places)

theorem length_places (forest : Forest) : forest.places.length = forest.size := by
  induction forest with
  | nil => rfl
  | cons label included below rest ihBelow ihRest =>
    simp [places, size, ihBelow, ihRest]

theorem Tidy.exists_holds {label : String} {included : Bool} {below rest : Forest}
    (h : (cons label included below rest).Tidy) :
    ∃ path, holds (label :: path) (cons label included below rest) = true := by
  induction below generalizing label included rest with
  | nil =>
    obtain ⟨-, ends, -, -⟩ := h
    exact ⟨[], by simpa [holds_cons] using ends⟩
  | cons next _ _ _ ih =>
    obtain ⟨-, ends, tidyBelow, -⟩ := id h
    obtain ⟨path, held⟩ := ih tidyBelow
    exact ⟨next :: path, h.holds_cons_iff _ |>.mpr (.inr (.inl ⟨_, rfl, held⟩))⟩

/-- Every node of a tidy forest is on the way to an included one. -/
theorem Tidy.mem_places {forest : Forest} (h : forest.Tidy) (path : List String) :
    path ∈ forest.places ↔ path ≠ [] ∧ ∃ full, holds full forest = true ∧ path <+: full := by
  induction forest generalizing path with
  | nil => simp [places]
  | cons label included below rest ihBelow ihRest =>
    obtain ⟨-, ends, tidyBelow, tidyRest⟩ := id h
    simp only [places, List.mem_cons, List.mem_append, List.mem_map, ihBelow tidyBelow, ihRest tidyRest]
    constructor
    · rintro (rfl | ⟨inner, ⟨-, full, held, before⟩, rfl⟩ | ⟨nonempty, full, held, before⟩)
      · obtain ⟨full, held⟩ := h.exists_holds
        exact ⟨by simp, label :: full, held, by simp⟩
      · exact ⟨by simp, label :: full, h.holds_cons_iff _ |>.mpr (.inr (.inl ⟨full, rfl, held⟩)), by simpa⟩
      · exact ⟨nonempty, full, h.holds_cons_iff _ |>.mpr (.inr (.inr held)), before⟩
    · rintro ⟨nonempty, full, held, before⟩
      obtain ⟨rfl, -⟩ | ⟨inner, rfl, inside⟩ | beside := h.holds_cons_iff _ |>.mp held
      · simpa [List.prefix_cons_iff, nonempty] using Or.inl before
      · obtain rfl | ⟨part, rfl, tail⟩ := List.prefix_cons_iff.mp before
        · contradiction
        · by_cases last : part = []
          · exact .inl (by rw [last])
          · exact .inr (.inl ⟨part, ⟨last, inner, inside, tail⟩, rfl⟩)
      · exact .inr (.inr ⟨nonempty, full, beside, before⟩)

theorem Tidy.nodup_places {forest : Forest} (h : forest.Tidy) : forest.places.Nodup := by
  induction forest with
  | nil => exact List.nodup_nil
  | cons label included below rest ihBelow ihRest =>
    obtain ⟨fresh, -, tidyBelow, tidyRest⟩ := h
    have apart : ∀ inner, label :: inner ∉ rest.places := by
      intro inner mem
      obtain ⟨-, full, held, before⟩ := (tidyRest.mem_places _).mp mem
      obtain ⟨more, rfl⟩ := before
      simp [holds_eq_false_of_find? fresh] at held
    have inside := (ihBelow tidyBelow).map (f := (label :: ·)) fun _ _ same => by simpa using same
    refine List.nodup_cons.mpr ⟨?_, inside.append (ihRest tidyRest) fun path memBelow memRest => ?_⟩
    · simp [apart, tidyBelow.mem_places]
    · obtain ⟨inner, -, rfl⟩ := List.mem_map.mp memBelow
      exact apart inner memRest

end Forest

namespace Frozen

theorem length_leaves_deeper (path : List String) (row : Frozen) :
    (row.leaves path).length + (row.deeper path).length = row.leafCount := by
  induction row generalizing path with
  | nil => rfl
  | leaf label rest ih => simp [leaves, deeper, leafCount, ← ih path, Nat.add_right_comm]
  | branch label below rest ihBelow ihRest =>
    simp [leaves, deeper, leafCount, ← ihBelow (label :: path), ← ihRest path]
    omega

theorem length_rules (row : Frozen) : row.rules.length = row.leafCount := by
  simp [rules, paths, length_leaves_deeper]

end Frozen

end DomainRules.Suffix
