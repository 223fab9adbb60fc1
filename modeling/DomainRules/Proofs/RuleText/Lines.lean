import DomainRules.Proofs.Name
import DomainRules.Proofs.Text.Utf8
import DomainRules.RuleText.Lines

/-! Cutting text into lines. The lines of a text are its cuts behind line feeds without their terminators, and cutting
commutes with encoding, as no byte of another character is a line feed. -/

namespace DomainRules.RuleText

section
variable {α : Type}

/-- Puts items in front of the first piece, which may be the only one. -/
def prepend (front : List α) : List (List α) → List (List α)
  | [] => [front]
  | piece :: others => (front ++ piece) :: others

@[simp] theorem flatten_prepend (front : List α) (pieces : List (List α)) :
    (prepend front pieces).flatten = front ++ pieces.flatten := by
  cases pieces <;> simp [prepend]

theorem prepend_append (front more : List α) (pieces : List (List α)) :
    prepend (front ++ more) pieces = prepend front (prepend more pieces) := by
  cases pieces <;> simp [prepend]

theorem map_prepend {β : Type} (f : α → List β) (front : List α) (pieces : List (List α)) :
    (prepend front pieces).map (List.flatMap f) = prepend (front.flatMap f) (pieces.map (List.flatMap f)) := by
  cases pieces <;> simp [prepend]

theorem length_prepend_le (front : List α) (pieces : List (List α)) : (prepend front pieces).length ≤ pieces.length + 1 := by
  cases pieces <;> simp [prepend]

variable [DecidableEq α] {mark item : α}

@[simp] theorem cutAfter_nil : cutAfter mark [] = [] := rfl

@[simp] theorem cutAfter_cons_self (items : List α) : cutAfter mark (mark :: items) = [mark] :: cutAfter mark items :=
  if_pos rfl

theorem cutAfter_cons_of_ne (h : item ≠ mark) (items : List α) :
    cutAfter mark (item :: items) = prepend [item] (cutAfter mark items) := by
  rw [cutAfter, List.foldr_cons, if_neg h, ← cutAfter]
  cases cutAfter mark items <;> rfl

@[simp] theorem flatten_cutAfter (mark : α) (items : List α) : (cutAfter mark items).flatten = items := by
  induction items with
  | nil => rfl
  | cons item items ih =>
    by_cases same : item = mark
    · subst same
      simp [ih]
    · simp [cutAfter_cons_of_ne same, ih]

theorem cutAfter_append {front : List α} (filled : front ≠ []) (bare : mark ∉ front) (items : List α) :
    cutAfter mark (front ++ items) = prepend front (cutAfter mark items) := by
  induction front with
  | nil => contradiction
  | cons item front ih =>
    obtain ⟨differ, bare⟩ := List.ne_and_not_mem_of_not_mem_cons bare
    rw [List.cons_append, cutAfter_cons_of_ne differ.symm]
    by_cases last : front = []
    · rw [last, List.nil_append]
    · rw [ih last bare, ← prepend_append, List.singleton_append]

theorem length_cutAfter_le (mark : α) (items : List α) : (cutAfter mark items).length ≤ items.length := by
  induction items with
  | nil => rfl
  | cons item items ih =>
    by_cases same : item = mark
    · subst same
      simpa using ih
    · rw [cutAfter_cons_of_ne same]
      exact Nat.le_trans (length_prepend_le _ _) (Nat.succ_le_succ ih)

end

theorem lineFeed_not_mem_encodeChar {c : Char} (h : c ≠ '\n') : 0x0A ∉ String.utf8EncodeChar c := by
  have value : c.val.toNat ≠ 10 := fun same => h (Char.ext (UInt32.toNat_inj.mp same))
  unfold String.utf8EncodeChar
  generalize c.val.toNat = v at value ⊢
  simp only
  split_ifs <;> simp [← UInt8.toNat_inj] <;> omega

theorem cutAfter_encode (chars : List Char) :
    cutAfter 0x0A (chars.flatMap String.utf8EncodeChar) = (cutAfter '\n' chars).map (List.flatMap String.utf8EncodeChar) := by
  induction chars with
  | nil => rfl
  | cons c chars ih =>
    rw [List.flatMap_cons]
    by_cases feed : c = '\n'
    · subst feed
      have one : String.utf8EncodeChar '\n' = [0x0A] := rfl
      simp [one, ih]
    · rw [cutAfter_append String.utf8EncodeChar_ne_nil (lineFeed_not_mem_encodeChar feed), ih, cutAfter_cons_of_ne feed,
        map_prepend, List.flatMap_singleton]

theorem dropMark_cons {mark c : Char} (h : c ≠ mark) (line : List Char) :
    dropMark mark (c :: line) = c :: dropMark mark line := by
  cases line with
  | nil => simp [dropMark, h]
  | cons d line =>
    rw [dropMark, dropMark, List.getLast?_cons_cons, List.dropLast_cons_cons, apply_ite (c :: ·)]

@[simp] theorem rawLines_nil : rawLines [] = [] := rfl

@[simp] theorem rawLines_feed (text : List Char) : rawLines ('\n' :: text) = [] :: rawLines text := by
  obtain ⟨first, others, parts⟩ := List.exists_cons_of_ne_nil (Text.splitOn_ne_nil '\n' text)
  simp only [rawLines, runs, Text.splitOn_cons, if_pos, parts, List.getLast?_cons_cons, List.dropLast_cons_cons, apply_ite ([] :: ·)]

theorem rawLines_cons {c : Char} (h : c ≠ '\n') (text : List Char) :
    rawLines (c :: text) = prepend [c] (rawLines text) := by
  obtain ⟨first, others, parts⟩ := List.exists_cons_of_ne_nil (Text.splitOn_ne_nil '\n' text)
  simp only [rawLines, runs, Text.splitOn_cons, if_neg h, parts, List.modifyHead_cons]
  cases others with
  | nil => by_cases bare : first = [] <;> simp [bare, prepend]
  | cons other others =>
    simp only [List.getLast?_cons_cons, List.dropLast_cons_cons]
    split <;> rfl

theorem rawLines_eq (text : List Char) : rawLines text = (cutAfter '\n' text).map (dropMark '\n') := by
  induction text with
  | nil => rfl
  | cons c text ih =>
    by_cases feed : c = '\n'
    · subst feed
      rw [rawLines_feed, cutAfter_cons_self, ih]
      rfl
    · rw [rawLines_cons feed, cutAfter_cons_of_ne feed, ih]
      cases cutAfter '\n' text with
      | nil => simp [prepend, dropMark, feed]
      | cons piece others => simp [prepend, dropMark_cons feed]

/-- The two ways of reading lines: runs between line feeds, or cuts behind them that lose their ends. -/
theorem lines_eq (text : String) : lines text = (terminatedLines text).map withoutTerminator := by
  simp [lines, rawLines_eq, terminatedLines, withoutTerminator, dropTerminator, Function.comp_def]

/-- Lines that a text is cut into: each run up to a line feed, and what is left behind the last one if it is not empty, all
without a carriage return at the end. -/
inductive Cut : List Char → List String → Prop
  | nil : Cut [] []
  | last {run} : run ≠ [] → '\n' ∉ run → Cut run [String.ofList (dropReturn run)]
  | feed {run rest lines} : '\n' ∉ run → Cut rest lines →
      Cut (run ++ '\n' :: rest) (String.ofList (dropReturn run) :: lines)

theorem rawLines_of_not_mem {run : List Char} (filled : run ≠ []) (whole : '\n' ∉ run) : rawLines run = [run] := by
  simp [rawLines, runs, Text.splitOn_eq, List.splitOn_eq_singleton whole, filled]

theorem rawLines_append {run : List Char} (whole : '\n' ∉ run) (rest : List Char) :
    rawLines (run ++ '\n' :: rest) = run :: rawLines rest := by
  induction run with
  | nil => rw [List.nil_append, rawLines_feed]
  | cons c run ih =>
    obtain ⟨differ, inner⟩ := List.ne_and_not_mem_of_not_mem_cons whole
    rw [List.cons_append, rawLines_cons differ.symm, ih inner]
    rfl

theorem exists_cut (text : List Char) : ∃ found, Cut text found := by
  by_cases feed : '\n' ∈ text
  · obtain ⟨run, rest, rfl, whole⟩ := List.eq_append_cons_of_mem feed
    obtain ⟨found, cut⟩ := exists_cut rest
    exact ⟨_, .feed whole cut⟩
  · by_cases bare : text = []
    · exact ⟨[], bare ▸ .nil⟩
    · exact ⟨_, .last bare feed⟩
termination_by text.length

theorem cut_iff {text : String} {found : List String} : Cut text.toList found ↔ found = lines text := by
  have only {text : List Char} {found : List String} (cut : Cut text found) :
      found = (rawLines text).map fun line => String.ofList (dropReturn line) := by
    induction cut with
    | nil => rfl
    | last filled whole => rw [rawLines_of_not_mem filled whole, List.map_singleton]
    | feed whole _ ih => rw [rawLines_append whole, List.map_cons, ih]
  constructor
  · exact only
  · rintro rfl
    obtain ⟨found, cut⟩ := exists_cut text.toList
    rwa [lines, ← only cut]

theorem prefix_dropMark (mark : Char) (line : List Char) : dropMark mark line <+: line := by
  unfold dropMark
  split
  · exact List.dropLast_prefix line
  · exact List.prefix_refl line

theorem dropTerminator_sublist (line : List Char) : (dropTerminator line).Sublist line :=
  (prefix_dropMark '\r' _).sublist.trans (prefix_dropMark '\n' line).sublist

theorem sublist_of_mem_lines {line text : String} (h : line ∈ lines text) : line.toList.Sublist text.toList := by
  rw [lines_eq, terminatedLines, List.map_map, List.mem_map] at h
  obtain ⟨piece, mem, rfl⟩ := h
  have inside : piece.Sublist text.toList := by
    rw [← flatten_cutAfter '\n' text.toList]
    exact List.sublist_flatten_of_mem mem
  simpa [withoutTerminator] using (dropTerminator_sublist piece).trans inside

theorem length_lines_le (text : String) : (lines text).length ≤ text.toList.length := by
  simpa [lines_eq, terminatedLines] using length_cutAfter_le '\n' text.toList

end DomainRules.RuleText
