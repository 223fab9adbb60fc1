import DomainRules.Matcher
import DomainRules.Proofs.Name

/-! The order that suffixes put on names: a name lies above its suffixes. It is the order by rows of labels at the end, and
what lies below a name is the chain of its tails. -/

namespace DomainRules.Name

section
variable {suffix name : String}

theorem covers_iff : covers suffix name = true ↔ Covers suffix name := coversChars_iff_covers suffix name

theorem Covers.refl (name : String) : Covers name name := .inl rfl

theorem Covers.trans {middle : String} (h : Covers suffix middle) (h' : Covers middle name) : Covers suffix name := by
  rw [covers_iff_labels] at h h' ⊢
  exact h.trans h'

theorem Covers.length_le (h : Covers suffix name) : suffix.length ≤ name.length := by
  rcases h with rfl | ⟨front, rfl⟩
  · exact Nat.le_refl _
  · simp only [String.length_append]
    omega

theorem Covers.antisymm (h : Covers suffix name) (h' : Covers name suffix) : suffix = name := by
  rw [covers_iff_labels] at h h'
  exact labels_injective (h.eq_of_length_le h'.length_le)

/-- Of two suffixes of a name the shorter one covers the other. -/
theorem Covers.of_length_le {other : String} (h : Covers suffix name) (h' : Covers other name)
    (shorter : suffix.length ≤ other.length) : Covers suffix other := by
  have comparable : Covers suffix other ∨ Covers other suffix := by
    simp only [covers_iff_labels] at h h' ⊢
    exact List.suffix_or_suffix_of_suffix h h'
  rcases comparable with below | rfl | ⟨front, rfl⟩
  · exact below
  · exact .refl _
  · have longer : other.length < (front ++ "." ++ other).length := by
      have dot : ".".length = 1 := rfl
      simp only [String.length_append, dot]
      omega
    exact absurd shorter (Nat.not_le.mpr longer)

end

theorem length_le_of_mem_tailsFrom {tail : String} {behind before : List Char} (mem : tail ∈ tailsFrom behind before) :
    behind.length ≤ tail.length := by
  have spelled := (mem_tailsFrom tail behind before).mp mem
  rw [← String.length_toList]
  rcases spelled with whole | ⟨taken, _, _, part⟩
  · simp [whole]
  · simp [part]

theorem pairwise_length_tailsFrom (behind before : List Char) :
    (tailsFrom behind before).Pairwise fun shorter longer => shorter.length < longer.length := by
  induction before generalizing behind with
  | nil => exact List.pairwise_singleton _ _
  | cons c before ih =>
    by_cases dot : c = '.'
    · rw [tailsFrom, if_pos dot]
      refine List.pairwise_cons.mpr ⟨fun tail mem => ?_, ih (c :: behind)⟩
      rw [String.length_ofList]
      exact length_le_of_mem_tailsFrom mem
    · rw [tailsFrom, if_neg dot]
      exact ih (c :: behind)

/-- The tails of a name are listed from the shortest on, and each covers those behind it. -/
theorem pairwise_tails (name : String) :
    (tails name).Pairwise fun shorter longer => Covers shorter longer ∧ shorter ≠ longer := by
  refine (pairwise_length_tailsFrom [] name.toList.reverse).imp_of_mem fun mem mem' less => ⟨?_, ?_⟩
  · exact ((mem_tails _ name).mp mem).of_length_le ((mem_tails _ name).mp mem') (Nat.le_of_lt less)
  · rintro rfl
    exact Nat.lt_irrefl _ less

/-- The test on characters compares rows of labels from the right, where labels are what stands between dots and the empty
name is one empty label. This orders the names. Below a name are its tails, which are the name and what stands behind each of
its dots; they form a chain, from the shortest on, and a set of suffixes is asked for just these. -/
theorem covers_orders_names :
    (∀ name, labels name ≠ [] ∧ (∀ label ∈ labels name, '.' ∉ label.toList) ∧ ".".intercalate (labels name) = name) ∧
    (∀ suffix name, covers suffix name = true ↔ labels suffix <:+ labels name) ∧
    (∀ name, covers name name = true) ∧
    (∀ one other, covers one other = true → covers other one = true → one = other) ∧
    (∀ short middle long, covers short middle = true → covers middle long = true → covers short long = true) ∧
    (∀ suffix name, covers suffix name = true ↔ suffix ∈ tails name) ∧
    (∀ suffix name, suffix ∈ tails name ↔ name = suffix ∨ ∃ front, name = front ++ "." ++ suffix) ∧
    (∀ name, (tails name).Pairwise fun shorter longer => covers shorter longer = true ∧ shorter ≠ longer) ∧
    ∀ suffixes name, (Matcher.suffixSet suffixes).covers name = true ↔ ∃ tail ∈ tails name, tail ∈ suffixes := by
  simp only [covers_iff]
  refine ⟨fun name => ⟨labels_ne_nil name, fun _ => dot_not_mem_of_mem_labels, intercalate_labels name⟩, covers_iff_labels,
    Covers.refl, fun _ _ => Covers.antisymm, fun _ _ _ => Covers.trans, fun suffix name => (mem_tails suffix name).symm,
    mem_tails, pairwise_tails, fun suffixes name => ?_⟩
  simp [Matcher.covers]

/-- A name that is a lone dot, and the empty suffix below names that end in a dot. -/
theorem covers_orders_names_empty_labels :
    covers "." "." = true ∧ "." = "." ∧ covers "" "b." = true ∧ covers "b." ".b." = true ∧ covers "" ".b." = true ∧
    labels ".b." = ["", "b", ""] ∧ tails ".b." = ["", "b.", ".b."] := by
  obtain ⟨-, -, reflexive, antisymm, trans, -⟩ := covers_orders_names
  exact ⟨reflexive ".", antisymm "." "." (reflexive ".") (reflexive "."), by decide, by decide,
    trans "" "b." ".b." (by decide) (by decide), by decide, by decide⟩

end DomainRules.Name
