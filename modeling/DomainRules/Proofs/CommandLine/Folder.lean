import DomainRules.CommandLine.Folder
import DomainRules.Proofs.Name
import DomainRules.Proofs.Outcome

/-! Reading what was written. A file that is written can be read, and every other file stays as readable as it was. -/

namespace DomainRules.CommandLine.Folder

theorem step_of_mem_path {name : String} {step : List Char} (h : step ∈ path name) :
    '/' ∉ step ∧ step ≠ [] ∧ step ≠ ['.'] := by
  obtain ⟨piece, moves⟩ := List.mem_filter.mp h
  exact ⟨Text.separator_not_mem piece, by simpa using moves⟩

theorem path_nameOf {steps : List (List Char)} (filled : steps ≠ [])
    (h : ∀ step ∈ steps, '/' ∉ step ∧ step ≠ [] ∧ step ≠ ['.']) : path (nameOf steps) = steps := by
  have split : (['/'].intercalate steps).splitOn '/' = steps :=
    List.splitOn_intercalate '/' (fun step mem => (h step mem).1) filled
  have spelled : (nameOf steps).toList = ['/'].intercalate steps := by
    simp [nameOf, Function.comp_def]
  rw [path, spelled, Text.splitOn_eq, split, List.filter_eq_self]
  intro step mem
  simpa using (h step mem).2

theorem path_nameOf_path {name : String} (filled : path name ≠ []) : path (nameOf (path name)) = path name :=
  path_nameOf filled fun _ => step_of_mem_path

@[simp] theorem path_empty : path "" = [] := rfl

section
variable {folder saved : Folder} {name other : String} {bytes found : List UInt8} {file : String × List UInt8}

/-- A name may be one of a file if it leads somewhere, and no file lies above that place or below it. -/
theorem obstacle?_eq_none_iff :
    folder.obstacle? name = none ↔ '\x00' ∉ name.toList ∧ path name ≠ [] ∧
      ∀ file ∈ folder.files, isBelow (path name) (path file.1) = false ∧ isBelow (path file.1) (path name) = false := by
  have skip {P : Prop} [Decidable P] (fault : Fault) (others : Option Fault) :
      (if P then some fault else others) = none ↔ ¬P ∧ others = none := by
    by_cases h : P <;> simp [h]
  have filled : path name ≠ [] → name ≠ "" := fun leads empty => leads (by rw [empty, path_empty])
  simp only [obstacle?, skip, forall₂_and, List.contains_iff_mem, String.isEmpty_iff, List.any_eq_true, not_exists, not_and,
    Bool.not_eq_true, Bool.or_eq_true, decide_eq_true_eq, not_or, and_true]
  tauto

theorem read_eq_ok_iff :
    folder.read name = .ok bytes ↔ folder.obstacle? name = none ∧
      ∃ file, folder.files.find? (fun file => path file.1 == path name) = some file ∧ file.2 = bytes := by
  rw [read]
  cases folder.obstacle? name with
  | some fault => simp
  | none => cases folder.files.find? fun file => path file.1 == path name <;> simp

/-- What a write leads to: the file and what is in it, next to the others. -/
structure Saves (folder : Folder) (name : String) (bytes : List UInt8) (saved : Folder) : Prop where
  written : saved.read name = .ok bytes
  kept : ∀ other, path other ≠ path name → ∀ found, saved.read other = .ok found ↔ folder.read other = .ok found

/-- The files with other bytes under one path. -/
def replaced (folder : Folder) (name : String) (bytes : List UInt8) : Folder :=
  ⟨folder.files.map fun file => if path file.1 == path name then (file.1, bytes) else file⟩

def added (folder : Folder) (name : String) (bytes : List UInt8) : Folder :=
  ⟨folder.files ++ [(nameOf (path name), bytes)]⟩

theorem write_eq_ok (h : folder.write name bytes = .ok saved) :
    folder.obstacle? name = none ∧
      ((∃ file ∈ folder.files, path file.1 = path name) ∧ saved = folder.replaced name bytes ∨
        (∀ file ∈ folder.files, path file.1 ≠ path name) ∧ saved = folder.added name bytes) := by
  unfold write at h
  dsimp only at h
  split at h
  · contradiction
  · rename_i free
    refine ⟨free, ?_⟩
    split at h
    · rename_i present
      obtain rfl := Except.ok.inj h
      exact .inl ⟨by simpa using present, rfl⟩
    · rename_i absent
      split at h
      · obtain rfl := Except.ok.inj h
        exact .inr ⟨by simpa using absent, rfl⟩
      · contradiction

theorem obstacle?_replaced : (folder.replaced name bytes).obstacle? other = none ↔ folder.obstacle? other = none := by
  simp only [obstacle?_eq_none_iff, replaced, List.forall_mem_map, apply_ite Prod.fst, ite_self]

theorem obstacle?_added (free : folder.obstacle? name = none) :
    (folder.added name bytes).obstacle? other = none ↔ folder.obstacle? other = none ∧
      isBelow (path other) (path name) = false ∧ isBelow (path name) (path other) = false := by
  obtain ⟨-, filled, -⟩ := obstacle?_eq_none_iff.mp free
  simp only [obstacle?_eq_none_iff, added, List.forall_mem_append, List.forall_mem_singleton, path_nameOf_path filled]
  tauto

theorem isBelow_self (steps : List (List Char)) : isBelow steps steps = false := by
  simp [isBelow]

theorem find?_replaced :
    (folder.replaced name bytes).files.find? (fun file => path file.1 == path other) =
      (folder.files.find? fun file => path file.1 == path other).map fun file =>
        if path file.1 == path name then (file.1, bytes) else file := by
  rw [replaced, List.find?_map]
  simp only [Function.comp_def, apply_ite Prod.fst, ite_self]

theorem saves_replaced (free : folder.obstacle? name = none) (present : ∃ file ∈ folder.files, path file.1 = path name) :
    folder.Saves name bytes (folder.replaced name bytes) where
  written := by
    refine read_eq_ok_iff.mpr ⟨obstacle?_replaced.mpr free, ?_⟩
    obtain ⟨file, found⟩ : ∃ file, folder.files.find? (fun file => path file.1 == path name) = some file :=
      Option.isSome_iff_exists.mp (by simpa using present)
    have same : path file.1 = path name := by simpa using List.find?_some found
    exact ⟨(file.1, bytes), by simp [find?_replaced, found, same], rfl⟩
  kept other apart found := by
    rw [read_eq_ok_iff, read_eq_ok_iff, obstacle?_replaced, find?_replaced]
    cases held : folder.files.find? fun file => path file.1 == path other with
    | none => simp
    | some file =>
      have same : path file.1 = path other := by simpa using List.find?_some held
      simp [same, apart]

theorem find?_added (filled : path name ≠ []) :
    (folder.added name bytes).files.find? (fun file => path file.1 == path other) =
      (folder.files.find? fun file => path file.1 == path other).or
        (if path name = path other then some (nameOf (path name), bytes) else none) := by
  simp [added, path_nameOf_path filled]

theorem saves_added (free : folder.obstacle? name = none) (absent : ∀ file ∈ folder.files, path file.1 ≠ path name) :
    folder.Saves name bytes (folder.added name bytes) where
  written := by
    obtain ⟨-, filled, -⟩ := obstacle?_eq_none_iff.mp free
    refine read_eq_ok_iff.mpr ⟨(obstacle?_added free).mpr ⟨free, isBelow_self _, isBelow_self _⟩, ?_⟩
    have none : (folder.files.find? fun file => path file.1 == path name) = none := by simpa using absent
    exact ⟨(nameOf (path name), bytes), by simp [find?_added filled, none], rfl⟩
  kept other apart found := by
    obtain ⟨-, filled, clear⟩ := obstacle?_eq_none_iff.mp free
    rw [read_eq_ok_iff, read_eq_ok_iff, obstacle?_added free, find?_added filled, if_neg apart.symm, Option.or_none]
    constructor
    · rintro ⟨⟨allowed, -, -⟩, held⟩
      exact ⟨allowed, held⟩
    · rintro ⟨allowed, file, held, within⟩
      -- The new name had no obstacle, so a file that was there lies neither above it nor below it.
      have same : path file.1 = path other := by simpa using List.find?_some held
      obtain ⟨above, below⟩ := clear file (List.mem_of_find?_eq_some held)
      rw [same] at above below
      exact ⟨⟨allowed, below, above⟩, file, held, within⟩

theorem saves_of_write (h : folder.write name bytes = .ok saved) : folder.Saves name bytes saved := by
  obtain ⟨free, ⟨present, rfl⟩ | ⟨absent, rfl⟩⟩ := write_eq_ok h
  · exact saves_replaced free present
  · exact saves_added free absent

end

end DomainRules.CommandLine.Folder
