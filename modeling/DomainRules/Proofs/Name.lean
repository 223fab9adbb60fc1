import DomainRules.Name

/-! Suffixes of names, as texts and as rows of labels. The test on characters, the tails of a name and the rows
of labels all speak of one order on names. -/

namespace DomainRules

theorem Text.splitOn_eq (separator : Char) (text : List Char) :
    splitOn separator text = text.splitOn separator := by
  induction text with
  | nil => rfl
  | cons c text ih => simp [splitOn_cons, List.splitOn_cons_eq_if_modifyHead, ih]

theorem Text.splitOn_ne_nil (separator : Char) (text : List Char) : splitOn separator text ≠ [] := by
  simp [splitOn_eq]

theorem Text.separator_not_mem {separator : Char} {text part : List Char} (h : part ∈ splitOn separator text) :
    separator ∉ part := by
  induction text generalizing part with
  | nil => simp_all
  | cons c text ih =>
    rw [splitOn_cons] at h
    obtain ⟨first, others, eq⟩ := List.exists_cons_of_ne_nil (Text.splitOn_ne_nil separator text)
    by_cases same : c = separator
    · obtain rfl | later : part = [] ∨ part ∈ splitOn separator text := by simpa [same] using h
      · simp
      · exact ih later
    · obtain rfl | later : part = c :: first ∨ part ∈ others := by simpa [same, eq] using h
      · have before : separator ∉ first := ih (by simp [eq])
        simpa [Ne.symm same] using before
      · exact ih (by simp [eq, later])

theorem Text.length_splitOn (separator : Char) (text : List Char) :
    (splitOn separator text).length = text.count separator + 1 := by
  induction text with
  | nil => rfl
  | cons c text ih => by_cases same : c = separator <;> simp [splitOn_cons, same, ih]

namespace Name

/-- The name is the suffix, or ends in it just behind a dot. -/
def Covers (suffix name : String) : Prop :=
  name = suffix ∨ ∃ front, name = front ++ "." ++ suffix

/-- The labels from the right, as a forest reads them. -/
def path (name : String) : List String := (labels name).reverse

theorem labels_ne_nil (name : String) : labels name ≠ [] := by
  simp [labels, Text.splitOn_ne_nil]

theorem path_ne_nil (name : String) : path name ≠ [] := by
  simp [path, labels_ne_nil]

theorem dot_not_mem_of_mem_labels {label name : String} (h : label ∈ labels name) :
    '.' ∉ label.toList := by
  simp only [labels, List.mem_map] at h
  obtain ⟨part, mem, rfl⟩ := h
  simpa using Text.separator_not_mem mem

@[simp] theorem intercalate_labels (name : String) : ".".intercalate (labels name) = name := by
  apply String.toList_inj.mp
  simp [labels, Text.splitOn_eq, Function.comp_def]

theorem labels_intercalate {parts : List String} (nonempty : parts ≠ [])
    (h : ∀ part ∈ parts, '.' ∉ part.toList) : labels (".".intercalate parts) = parts := by
  have split : (['.'].intercalate (parts.map String.toList)).splitOn '.' = parts.map String.toList :=
    List.splitOn_intercalate '.' (by simpa using h) (by simpa using nonempty)
  simp [labels, Text.splitOn_eq, split, Function.comp_def]

theorem labels_injective : Function.Injective labels := by
  intro a b h
  simpa using congrArg (".".intercalate ·) h

theorem path_injective : Function.Injective path := by
  intro a b h
  exact labels_injective (List.reverse_inj.mp h)

theorem labels_append (front suffix : String) :
    labels (front ++ "." ++ suffix) = labels front ++ labels suffix := by
  simp [labels, Text.splitOn_eq, List.splitOn_append_cons_self]

theorem depth_eq (name : String) : depth name = (labels name).length := by
  simp [depth, labels, Text.length_splitOn]

theorem labels_of_not_mem {label : String} (bare : '.' ∉ label.toList) : labels label = [label] := by
  simpa using labels_intercalate (List.cons_ne_nil label []) (List.forall_mem_singleton.mpr bare)

theorem depth_append (front name : String) : depth (front ++ "." ++ name) = depth front + depth name := by
  simp [depth_eq, labels_append]

/-- The label behind the last dot. -/
def top (name : String) : String := (labels name).getLast (labels_ne_nil name)

theorem top_append (front name : String) : top (front ++ "." ++ name) = top name := by
  simp [top, labels_append, List.getLast_append_of_ne_nil _ (labels_ne_nil name)]

theorem Covers.top_eq {suffix name : String} (h : Covers suffix name) : top name = top suffix := by
  rcases h with rfl | ⟨front, rfl⟩
  · rfl
  · exact top_append front suffix

theorem covers_iff_labels (suffix name : String) : Covers suffix name ↔ labels suffix <:+ labels name := by
  constructor
  · rintro (rfl | ⟨front, rfl⟩)
    · exact List.suffix_refl _
    · exact ⟨labels front, (labels_append front suffix).symm⟩
  · rintro ⟨front, h⟩
    by_cases bare : front = []
    · exact .inl (labels_injective (by simpa [bare] using h.symm))
    · refine .inr ⟨".".intercalate front, ?_⟩
      have joined := String.intercalate_append_of_ne_nil (s := ".") bare (labels_ne_nil suffix)
      simpa [h] using joined

theorem covers_iff_path (suffix name : String) : Covers suffix name ↔ path suffix <+: path name := by
  simp [covers_iff_labels, path, List.reverse_prefix]

theorem coversChars_iff (suffix name : List Char) :
    coversChars suffix name = true ↔ name = suffix ∨ ∃ front, name = front ++ '.' :: suffix := by
  simp only [coversChars, Bool.or_eq_true, beq_iff_eq, Bool.and_eq_true, decide_eq_true_eq]
  constructor
  · rintro (rfl | ⟨-, h⟩)
    · exact .inl rfl
    · refine .inr ⟨name.take (name.length - suffix.length - 1), ?_⟩
      rw [← h, List.take_append_drop]
  · rintro (rfl | ⟨front, rfl⟩)
    · exact .inl rfl
    · have behind : front.length + (suffix.length + 1) - suffix.length - 1 = front.length := by omega
      exact .inr ⟨by simp; omega, by simp [behind]⟩

theorem coversChars_iff_covers (suffix name : String) :
    coversChars suffix.toList name.toList = true ↔ Covers suffix name := by
  rw [coversChars_iff, Covers, String.toList_inj]
  apply or_congr Iff.rfl
  constructor
  · rintro ⟨front, h⟩
    exact ⟨String.ofList front, String.toList_inj.mp (by simpa using h)⟩
  · rintro ⟨front, rfl⟩
    exact ⟨front.toList, by simp⟩

/-- A cut of a text at a dot is in front of it or further on. -/
theorem exists_cut_cons {c : Char} {text : List Char} {P : List Char → Prop} :
    (∃ taken rest, c :: text = taken ++ '.' :: rest ∧ P taken) ↔
      (c = '.' ∧ P []) ∨ ∃ taken rest, text = taken ++ '.' :: rest ∧ P (c :: taken) := by
  constructor
  · rintro ⟨_ | ⟨d, taken⟩, rest, h, p⟩
    · simp_all
    · obtain ⟨rfl, rfl⟩ := List.cons.inj h
      exact .inr ⟨taken, rest, rfl, p⟩
  · rintro (⟨rfl, p⟩ | ⟨taken, rest, rfl, p⟩)
    · exact ⟨[], text, rfl, p⟩
    · exact ⟨c :: taken, rest, rfl, p⟩

theorem mem_tailsFrom (suffix : String) (behind before : List Char) :
    suffix ∈ tailsFrom behind before ↔ suffix.toList = before.reverse ++ behind ∨
      ∃ taken rest, before = taken ++ '.' :: rest ∧ suffix.toList = taken.reverse ++ behind := by
  induction before generalizing behind with
  | nil => simp [tailsFrom, ← String.toList_inj]
  | cons c before ih =>
    rw [exists_cut_cons (P := fun taken => suffix.toList = taken.reverse ++ behind)]
    by_cases dot : c = '.'
    · simp [tailsFrom, dot, ih, ← String.toList_inj, or_left_comm]
    · simp [tailsFrom, dot, ih]

theorem mem_tails (suffix name : String) : suffix ∈ tails name ↔ Covers suffix name := by
  rw [tails, mem_tailsFrom, ← coversChars_iff_covers, coversChars_iff]
  apply or_congr (by simp [eq_comm])
  constructor
  · rintro ⟨taken, rest, h, same⟩
    exact ⟨rest.reverse, by simp_all [List.reverse_eq_iff]⟩
  · rintro ⟨front, h⟩
    exact ⟨suffix.toList.reverse, front.reverse, by simp [h], by simp⟩

end Name

end DomainRules
