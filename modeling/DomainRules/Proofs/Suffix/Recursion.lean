import DomainRules.Proofs.Suffix.Lookup

/-! Insertion by recursion. It leads where one pass over the characters leads, as long as recursion reaches the suffix, so that
insertions of both kinds lead to the same tries. -/

namespace DomainRules.Suffix.Trie

theorem insertRecursive?_of_le {suffix : String} (shallow : Name.depth suffix ≤ recursionLimit) (trie : Trie) :
    trie.insertRecursive? suffix = some (trie.insert suffix) := by
  rw [insertRecursive?_eq, if_neg (Nat.not_lt.mpr shallow)]

theorem insertRecursive?_of_lt {suffix : String} (deep : recursionLimit < Name.depth suffix) (trie : Trie) :
    trie.insertRecursive? suffix = none := by
  rw [insertRecursive?_eq, if_pos deep]

theorem insertRecursive?_eq_some {trie grown : Trie} {suffix : String} (h : trie.insertRecursive? suffix = some grown) :
    grown = trie.insert suffix := by
  rw [insertRecursive?_eq] at h
  split at h
  · contradiction
  · exact (Option.some.inj h).symm

/-- Tries that insertions of both kinds lead to. -/
inductive Reached : Trie → Prop
  | empty : Reached empty
  | insert {trie} (suffix : String) : Reached trie → Reached (trie.insert suffix)
  | insertRecursive {trie grown suffix} : trie.insertRecursive? suffix = some grown → Reached trie → Reached grown

theorem Reached.exists_ofList {trie : Trie} (h : trie.Reached) : ∃ suffixes, trie = ofList suffixes := by
  induction h with
  | empty => exact ⟨[], rfl⟩
  | insert suffix _ ih =>
    obtain ⟨suffixes, rfl⟩ := ih
    exact ⟨suffixes ++ [suffix], (ofList_append suffixes suffix).symm⟩
  | @insertRecursive _ _ suffix taken _ ih =>
    obtain ⟨suffixes, rfl⟩ := ih
    exact ⟨suffixes ++ [suffix], by rw [insertRecursive?_eq_some taken, ofList_append]⟩

end DomainRules.Suffix.Trie
