import DomainRules.Proofs.Name
import DomainRules.Proofs.Suffix.Insertion

/-! Lookups and insertions by characters do what those by labels do, and freezing a forest keeps its
answers. Every way to ask a trie says whether one of the inserted suffixes covers the name. -/

namespace DomainRules

namespace Name

/-- The labels of a text read backwards; `label` holds the characters since the last dot. -/
def pathFrom (label : List Char) : List Char → List String
  | [] => [String.ofList label]
  | c :: before => if c = '.' then String.ofList label :: pathFrom [] before else pathFrom (c :: label) before

theorem pathFrom_ne_nil (label before : List Char) : pathFrom label before ≠ [] := by
  induction before generalizing label with
  | nil => simp [pathFrom]
  | cons c before ih => by_cases dot : c = '.' <;> simp [pathFrom, dot, ih]

theorem pathFrom_eq {label : List Char} (h : '.' ∉ label) (before : List Char) :
    pathFrom label before = (labels (String.ofList (before.reverse ++ label))).reverse := by
  induction before generalizing label with
  | nil => simp [pathFrom, labels, Text.splitOn_eq, List.splitOn_eq_singleton h]
  | cons c before ih =>
    by_cases dot : c = '.'
    · simp [pathFrom, dot, ih, labels, Text.splitOn_eq, List.splitOn_append_cons_self,
        List.splitOn_eq_singleton h]
    · rw [pathFrom, if_neg dot, ih (by simp [h, Ne.symm dot])]
      simp

theorem pathFrom_reverse (name : String) : pathFrom [] name.toList.reverse = path name := by
  simp [pathFrom_eq, path]

end Name

namespace Suffix

namespace Forest

theorem insertScan_eq (steps : List Step) (row : Forest) (label before : List Char) :
    insertScan steps row label before = climb (insertPath (Name.pathFrom label before) row) steps := by
  induction before generalizing steps row label with
  | nil => rfl
  | cons c before ih =>
    by_cases dot : c = '.'
    · have more := Name.pathFrom_ne_nil [] before
      rcases found : row.find? (String.ofList label) with _ | ⟨_ | _, below⟩ <;>
        simp [insertScan, Name.pathFrom, dot, found, ih, climb, insertPath_cons, more, includes, under]
    · simp [insertScan, Name.pathFrom, dot, ih]

theorem coversScan_eq (row : Forest) (label before : List Char) :
    coversScan row label before = coversPath (Name.pathFrom label before) row := by
  induction before generalizing row label with
  | nil =>
    cases found : row.find? (String.ofList label) <;>
      simp [coversScan, coversPath_cons, Name.pathFrom, includes, found]
  | cons c before ih =>
    by_cases dot : c = '.'
    · cases found : row.find? (String.ofList label) <;>
        simp [coversScan, coversPath_cons, Name.pathFrom, dot, includes, under, found, ih]
    · simp [coversScan, Name.pathFrom, dot, ih]

/-- A frozen row has under each label what it was frozen from. -/
theorem find?_freeze (label : String) (forest : Forest) :
    forest.freeze.find? label = (forest.next? label).map (Entry.map freeze) := by
  induction forest with
  | nil => rfl
  | cons head included below rest _ ih =>
    rw [next?] at ih
    cases included <;> by_cases same : head = label <;>
      simp [freeze, find?, next?, Frozen.find?, same, ih, Entry.map]

end Forest

namespace Frozen

def coversPath (path : List String) (row : Frozen) : Bool := Suffix.coversPath find? path row

theorem coversScan_eq (row : Frozen) (label before : List Char) :
    coversScan row label before = coversPath (Name.pathFrom label before) row := by
  induction before generalizing row label with
  | nil =>
    rcases found : row.find? (String.ofList label) with _ | _ | below <;>
      simp [coversScan, coversPath, Suffix.coversPath, Name.pathFrom, found]
  | cons c before ih =>
    by_cases dot : c = '.'
    · rcases found : row.find? (String.ofList label) with _ | _ | below
      · simp [coversScan, coversPath, Suffix.coversPath, Name.pathFrom, dot, found]
      · simp [coversScan, coversPath, Suffix.coversPath, Name.pathFrom, dot, found]
      · rw [Name.pathFrom, if_pos dot, coversScan, if_pos dot, found, coversPath, Suffix.coversPath, found]
        exact ih below []
    · simp [coversScan, Name.pathFrom, dot, ih]

theorem covers_eq (row : Frozen) (name : String) : row.covers name = row.coversPath (Name.path name) := by
  rw [covers, coversScan_eq, Name.pathFrom_reverse]

/-- The calls of a lookup by recursion that are open at its end. -/
def calls (row : Frozen) (name : String) : Nat := Suffix.calls find? (Name.path name) row

theorem coversRecursive_eq (limit : Nat) (row : Frozen) (name : String) :
    row.coversRecursive limit name = if row.calls name ≤ limit then some (row.covers name) else none := by
  rw [covers_eq]
  exact lookup_eq find? limit (Name.path name) row

theorem calls_le_depth (row : Frozen) (name : String) : row.calls name ≤ Name.depth name := by
  simpa [calls, Name.path, Name.depth_eq] using calls_le_length find? (Name.path name) row

end Frozen

namespace Trie

theorem insert_eq (trie : Trie) (suffix : String) :
    trie.insert suffix = { trie with children := trie.children.insertPath (Name.path suffix) } := by
  simp [insert, Forest.insertScan_eq, Forest.climb, Name.pathFrom_reverse]

/-- Both ways to insert lead to the same trie. -/
theorem insertRecursive?_eq (trie : Trie) (suffix : String) :
    trie.insertRecursive? suffix =
      if recursionLimit < Name.depth suffix then none else some (trie.insert suffix) := by
  simp [insertRecursive?, insert_eq, Name.path]

theorem foldlM_insertRecursive? {suffixes : List String} (shallow : ∀ suffix ∈ suffixes, Name.depth suffix ≤ recursionLimit)
    (trie : Trie) : suffixes.foldlM insertRecursive? trie = some (suffixes.foldl insert trie) := by
  induction suffixes generalizing trie with
  | nil => rfl
  | cons suffix suffixes ih =>
    have within : ¬ recursionLimit < Name.depth suffix := by simpa using shallow suffix (by simp)
    simp [insertRecursive?_eq, within, ih fun suffix mem => shallow suffix (by simp [mem])]

theorem covers_eq (trie : Trie) (name : String) :
    trie.covers name = trie.children.coversPath (Name.path name) := by
  rw [covers, Forest.coversScan_eq, Name.pathFrom_reverse]

/-- The calls of a lookup by recursion that are open at its end. -/
def calls (trie : Trie) (name : String) : Nat := Suffix.calls Forest.next? (Name.path name) trie.children

theorem coversRecursive_eq (limit : Nat) (trie : Trie) (name : String) :
    trie.coversRecursive limit name = if trie.calls name ≤ limit then some (trie.covers name) else none := by
  rw [covers_eq]
  exact lookup_eq Forest.next? limit (Name.path name) trie.children

theorem calls_le_depth (trie : Trie) (name : String) : trie.calls name ≤ Name.depth name := by
  simpa [calls, Name.path, Name.depth_eq] using calls_le_length Forest.next? (Name.path name) trie.children

theorem covers_freeze (trie : Trie) (name : String) : trie.children.freeze.covers name = trie.covers name := by
  rw [Frozen.covers_eq, covers_eq]
  exact coversPath_map Forest.find?_freeze (Name.path name) trie.children

theorem calls_freeze (trie : Trie) (name : String) : trie.children.freeze.calls name = trie.calls name :=
  calls_map Forest.find?_freeze (Name.path name) trie.children

theorem coversRecursive_freeze (trie : Trie) (limit : Nat) (name : String) :
    trie.children.freeze.coversRecursive limit name = trie.coversRecursive limit name := by
  rw [Frozen.coversRecursive_eq, coversRecursive_eq, calls_freeze, covers_freeze]

def ofList (suffixes : List String) : Trie := suffixes.foldl insert empty

@[simp] theorem ofList_nil : ofList [] = empty := rfl

theorem ofList_append (suffixes : List String) (suffix : String) :
    ofList (suffixes ++ [suffix]) = (ofList suffixes).insert suffix := by
  simp [ofList]

theorem ofList_eq (suffixes : List String) : ofList suffixes = ⟨false, .ofPaths (suffixes.map Name.path)⟩ := by
  induction suffixes using List.reverseRecOn with
  | nil => rfl
  | append_singleton suffixes suffix ih => simp [ofList_append, ih, insert_eq, Forest.ofPaths_append]

theorem included_ofList (suffixes : List String) : (ofList suffixes).included = false := by
  rw [ofList_eq]

theorem tidy_ofList (suffixes : List String) : (ofList suffixes).children.Tidy := by
  simp [ofList_eq, Forest.tidy_ofPaths]

theorem coversPath_ofList (suffixes : List String) (name : String) :
    (ofList suffixes).children.coversPath (Name.path name) = true ↔
      ∃ suffix ∈ suffixes, Name.Covers suffix name := by
  have nonempty : ∀ path ∈ suffixes.map Name.path, path ≠ [] := by
    simp [Name.path_ne_nil]
  simp [ofList_eq, Forest.coversPath_ofPaths nonempty, Name.covers_iff_path]

theorem covers_ofList (suffixes : List String) (name : String) :
    (ofList suffixes).covers name = true ↔ ∃ suffix ∈ suffixes, Name.Covers suffix name := by
  rw [covers_eq, coversPath_ofList]

theorem covers_freeze_ofList (suffixes : List String) (name : String) :
    (ofList suffixes).children.freeze.covers name = true ↔ ∃ suffix ∈ suffixes, Name.Covers suffix name := by
  rw [covers_freeze, covers_ofList]

end Trie

end Suffix

end DomainRules
