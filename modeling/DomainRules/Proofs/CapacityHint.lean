import DomainRules.CapacityHint
import DomainRules.Proofs.Name
import DomainRules.Proofs.Outcome
import DomainRules.RuleText.Parse

/-! The form of hint lines: which lines give which counts. Reading accepts just this form, and what is written has it unless a
count is negative. -/

namespace DomainRules

theorem Text.isDigit_of_isAsciiDigit {code : Nat} (h : isAsciiDigit code = true) : isDigit code = true := by
  have low : code < 0x80 := by
    simp only [isAsciiDigit, Bool.and_eq_true, decide_eq_true_eq] at h
    omega
  simp [isDigit, isDecimal, decimalValue?, low, h]

namespace CapacityHint

/-- A run of ASCII digits and the number that it stands for. -/
def IsCount (n : Int) (field : String) : Prop :=
  field ≠ "" ∧ (∀ c ∈ field.toList, Text.isAsciiDigit c.toNat = true) ∧ n = Nat.ofDigitChars 10 field.toList 0

/-- Behind the marker a count for each kind and the trailer, one space between them. -/
inductive Gives (hint : CapacityHint) : String → Prop
  | mk {fields : Kind → String} : (∀ kind, IsCount (hint.get kind) (fields kind)) →
      Gives hint (marker ++ " ".intercalate (Kind.all.map fields ++ [trailer]))

theorem readCount_eq_ok {field : List Char} {n : Int} : readCount field = .ok n ↔ IsCount n (String.ofList field) := by
  have form : IsCount n (String.ofList field) ↔
      (field ≠ [] && field.all fun c => Text.isAsciiDigit c.toNat) = true ∧ n = Nat.ofDigitChars 10 field 0 := by
    simp [IsCount, and_assoc]
  rw [form]
  unfold readCount
  split
  · rename_i digits
    constructor
    · intro h
      exact ⟨digits, (Except.ok.inj h).symm⟩
    · rintro ⟨-, rfl⟩
      rfl
  · rename_i others
    refine iff_of_false ?_ fun h => others h.1
    split
    · split <;> simp
    · simp

theorem readFields_eq_ok {fields : List (List Char)} {hint : CapacityHint} :
    readFields fields = .ok hint ↔ ∃ counts : Kind → String, (∀ kind, IsCount (hint.get kind) (counts kind)) ∧
      fields.map String.ofList = Kind.all.map counts ++ [trailer] := by
  constructor
  · intro h
    unfold readFields at h
    split at h
    · rename_i domain suffix keyword regexp last
      split at h
      · rename_i ended
        simp only [bind_eq_ok, pure_eq_ok, readCount_eq_ok] at h
        obtain ⟨d, first, s, second, k, third, r, fourth, rfl⟩ := h
        let counts : ByKind String := ⟨.ofList domain, .ofList suffix, .ofList keyword, .ofList regexp⟩
        refine ⟨counts.get, fun kind => ?_, by rw [← ended]; rfl⟩
        cases kind with
        | domain => exact first
        | suffix => exact second
        | keyword => exact third
        | regexp => exact fourth
      · contradiction
    · contradiction
  · rintro ⟨counts, told, split⟩
    have shape : fields = [(counts .domain).toList, (counts .suffix).toList, (counts .keyword).toList,
        (counts .regexp).toList, trailer.toList] := by
      have := congrArg (List.map String.toList) split
      simpa [Kind.all, Function.comp_def] using this
    have count (kind : Kind) : readCount (counts kind).toList = .ok (hint.get kind) :=
      readCount_eq_ok.mpr (by simpa using told kind)
    rw [shape, readFields, if_pos String.ofList_toList, count, count, count, count]
    rfl

theorem IsCount.space_not_mem {n : Int} {field : String} (h : IsCount n field) : ' ' ∉ field.toList :=
  fun mem => absurd (h.2.1 ' ' mem) (by decide)

theorem Gives.marked {hint : CapacityHint} {line : String} (h : Gives hint line) : marker.toList <+: line.toList := by
  cases h with
  | mk told => exact ⟨_, String.toList_append.symm⟩

theorem splitOn_fields {fields : Kind → String} (bare : ∀ kind, ' ' ∉ (fields kind).toList) :
    Text.splitOn ' ' (" ".intercalate (Kind.all.map fields ++ [trailer])).toList =
      (Kind.all.map fields ++ [trailer]).map String.toList := by
  have whole : ∀ part ∈ (Kind.all.map fields ++ [trailer]).map String.toList, ' ' ∉ part := by
    simp only [List.map_append, List.map_map, List.forall_mem_append, List.forall_mem_map]
    exact ⟨fun kind _ => bare kind, by decide⟩
  rw [Text.splitOn_eq, String.toList_intercalate]
  exact List.splitOn_intercalate ' ' whole (by simp)

theorem parse_marked (rest : String) : parse (marker ++ rest) = some <$> readFields (Text.splitOn ' ' rest.toList) := by
  have marked : marker.toList.isPrefixOf (marker ++ rest).toList = true :=
    List.isPrefixOf_iff_prefix.mpr ⟨_, String.toList_append.symm⟩
  rw [parse, if_pos marked, String.toList_append, List.drop_left]

theorem parse_eq_ok_some {line : String} {hint : CapacityHint} : parse line = .ok (some hint) ↔ Gives hint line := by
  constructor
  · intro h
    unfold parse at h
    split at h
    · rename_i marked
      obtain ⟨rest, whole⟩ := List.isPrefixOf_iff_prefix.mp marked
      obtain ⟨found, read, same⟩ := map_eq_ok.mp h
      obtain rfl := Option.some.inj same
      rw [← whole, List.drop_left, readFields_eq_ok] at read
      obtain ⟨counts, told, split⟩ := read
      have joined : String.ofList rest = " ".intercalate ((Text.splitOn ' ' rest).map String.ofList) := by
        apply String.toList_inj.mp
        simp [Text.splitOn_eq, Function.comp_def]
      have line_eq : line = marker ++ " ".intercalate (Kind.all.map counts ++ [trailer]) := by
        rw [← split, ← joined, ← String.toList_inj, ← whole, String.toList_append, String.toList_ofList]
      exact line_eq ▸ .mk told
    · simp at h
  · intro h
    cases h with
    | @mk counts told =>
      rw [parse_marked, splitOn_fields fun kind => (told kind).space_not_mem,
        readFields_eq_ok.mpr ⟨counts, told, by simp [Function.comp_def]⟩, map_ok]

theorem parse_of_unmarked {line : String} (unmarked : ¬marker.toList <+: line.toList) : parse line = .ok none := by
  rw [parse, if_neg (by rwa [List.isPrefixOf_iff_prefix])]

/-- A line is refused if it has the marker and gives no counts behind it. -/
theorem parse_eq_error_iff {line : String} :
    (∃ flaw, parse line = .error flaw) ↔ marker.toList <+: line.toList ∧ ∀ hint, ¬Gives hint line := by
  simp only [← parse_eq_ok_some]
  unfold parse
  split
  · rename_i marked
    have marked := List.isPrefixOf_iff_prefix.mp marked
    cases readFields _ <;> simp [marked]
  · rename_i unmarked
    simpa [List.isPrefixOf_iff_prefix] using unmarked

theorem isAsciiDigit_of_mem_toDigits {k : Nat} {c : Char} (mem : c ∈ Nat.toDigits 10 k) :
    Text.isAsciiDigit c.toNat = true := by
  have digit := Nat.isDigit_of_mem_toDigits (by decide) (by decide) mem
  simpa [Text.isAsciiDigit, Char.isDigit, UInt32.le_iff_toNat_le] using digit

theorem isCount_toString {n : Int} (h : 0 ≤ n) : IsCount n (toString n) := by
  obtain ⟨k, rfl⟩ := Int.eq_ofNat_of_zero_le h
  have digits : (toString (k : Int)).toList = Nat.toDigits 10 k := Nat.toList_repr
  refine ⟨?_, fun c mem => ?_, ?_⟩
  · intro blank
    rw [blank] at digits
    exact Nat.toDigits_ne_nil digits.symm
  · rw [digits] at mem
    exact isAsciiDigit_of_mem_toDigits mem
  · rw [digits, Nat.ofDigitChars_ten_toDigits]

theorem gives_line {hint : CapacityHint} (h : ∀ kind, 0 ≤ hint.get kind) : Gives hint hint.line :=
  @Gives.mk hint (fun kind => toString (hint.get kind)) fun kind => isCount_toString (h kind)

theorem parse_eq_ok_none {line : String} : parse line = .ok none ↔ ¬marker.toList <+: line.toList := by
  refine ⟨fun h marked => ?_, parse_of_unmarked⟩
  rw [parse, if_pos (List.isPrefixOf_iff_prefix.mpr marked)] at h
  obtain ⟨hint, -, found⟩ := map_eq_ok.mp h
  contradiction

/-- A minus sign before digits is told apart from what is no number. -/
theorem readCount_minus {digits : List Char} (nonempty : digits ≠ [])
    (ascii : ∀ c ∈ digits, Text.isAsciiDigit c.toNat = true) :
    readCount ('-' :: digits) = .error (.negative (String.ofList ('-' :: digits))) := by
  have anyScript : digits.all (fun c => Text.isDigit c.toNat) = true :=
    List.all_eq_true.mpr fun c mem => Text.isDigit_of_isAsciiDigit (ascii c mem)
  rw [readCount, if_neg (by simp [Text.isAsciiDigit])]
  simp [nonempty, anyScript]

theorem toList_toString_of_neg {n : Int} (h : n < 0) : ∃ k, (toString n).toList = '-' :: Nat.toDigits 10 k := by
  obtain ⟨k, rfl⟩ := Int.eq_negSucc_of_lt_zero h
  have sign : toString (Int.negSucc k) = "-" ++ Nat.repr (k + 1) := rfl
  exact ⟨k + 1, by rw [sign, String.toList_append, Nat.toList_repr]; rfl⟩

theorem readCount_toString (n : Int) :
    readCount (toString n).toList = if n < 0 then .error (.negative (toString n)) else .ok n := by
  by_cases negative : n < 0
  · obtain ⟨k, digits⟩ := toList_toString_of_neg negative
    rw [if_pos negative, digits, readCount_minus Nat.toDigits_ne_nil fun c => isAsciiDigit_of_mem_toDigits, ← digits,
      String.ofList_toList]
  · rw [if_neg negative, readCount_eq_ok, String.ofList_toList]
    exact isCount_toString (Int.not_lt.mp negative)

theorem space_not_mem_toString (n : Int) : ' ' ∉ (toString n).toList := by
  by_cases negative : n < 0
  · obtain ⟨k, digits⟩ := toList_toString_of_neg negative
    rw [digits, List.mem_cons, not_or]
    exact ⟨by decide, fun mem => absurd (isAsciiDigit_of_mem_toDigits mem) (by decide)⟩
  · exact (isCount_toString (Int.not_lt.mp negative)).space_not_mem

/-- A written line reads back, or is refused for its first negative count. -/
theorem parse_line (hint : CapacityHint) :
    parse hint.line = match Kind.all.find? fun kind => hint.get kind < 0 with
      | none => .ok (some hint)
      | some kind => .error (.negative (toString (hint.get kind))) := by
  have form : hint.line = marker ++ " ".intercalate (Kind.all.map (fun kind => toString (hint.get kind)) ++ [trailer]) := rfl
  rw [form, parse_marked, splitOn_fields fun kind => space_not_mem_toString (hint.get kind)]
  simp only [Kind.all, List.map_cons, List.map_nil, List.cons_append, List.nil_append, readFields, String.ofList_toList,
    if_true, readCount_toString, List.find?, ByKind.get]
  -- Counts are read in turn, so that the first negative one ends the reading.
  by_cases domain : hint.domain < 0
  · simp [domain]
  by_cases suffix : hint.suffix < 0
  · simp [domain, suffix]
  by_cases keyword : hint.keyword < 0
  · simp [domain, suffix, keyword]
  by_cases regexp : hint.regexp < 0
  · simp [domain, suffix, keyword, regexp]
  · simp [domain, suffix, keyword, regexp]

theorem takeHint_of_marked {line : String} {flaw : Flaw} (marked : marker.toList <+: line.toList)
    (bad : parse line = .error flaw) (others : List String) :
    RuleText.takeHint .ok (line :: others) = .error (.malformedHint line flaw) := by
  have filled : line ≠ "" := by
    rintro rfl
    exact absurd marked (by decide)
  simp [RuleText.takeHint, filled, bad]

/-- Lines are of three sorts. One without the marker is no hint, one of the form gives its counts, and any other is refused, so
that a text which opens with it has a fault that tells the line. Counts written in a line are read from it again, unless one
of them is negative: then the first such count is what is wrong. -/
theorem parse_inverts_line :
    (∀ line, parse line = .ok none ↔ ¬marker.toList <+: line.toList) ∧
    (∀ line hint, parse line = .ok (some hint) ↔ Gives hint line) ∧
    (∀ line, (marker.toList <+: line.toList ∧ ∀ hint, ¬Gives hint line) ↔ ∃ flaw, parse line = .error flaw ∧
      ∀ others, RuleText.takeHint .ok (line :: others) = .error (.malformedHint line flaw)) ∧
    (∀ hint : CapacityHint, (∀ kind, 0 ≤ hint.get kind) → parse hint.line = .ok (some hint)) ∧
    ∀ (hint : CapacityHint) (kind : Kind), hint.get kind < 0 → ∃ first, (Kind.all.find? fun kind => hint.get kind < 0) = some first ∧
      parse hint.line = .error (.negative (toString (hint.get first))) := by
  refine ⟨fun line => parse_eq_ok_none, fun line hint => parse_eq_ok_some, fun line => ⟨fun others => ?_, ?_⟩,
    fun hint natural => parse_eq_ok_some.mpr (gives_line natural), fun hint kind negative => ?_⟩
  · obtain ⟨flaw, bad⟩ := parse_eq_error_iff.mpr others
    exact ⟨flaw, bad, takeHint_of_marked others.1 bad⟩
  · rintro ⟨flaw, bad, -⟩
    exact parse_eq_error_iff.mp ⟨flaw, bad⟩
  · have some : (Kind.all.find? fun kind => hint.get kind < 0).isSome = true :=
      List.find?_isSome.mpr ⟨kind, kind.mem_all, by simpa using negative⟩
    obtain ⟨first, found⟩ := Option.isSome_iff_exists.mp some
    exact ⟨first, found, by rw [parse_line, found]⟩

/-- The second and the last count are negative; the second is told. -/
theorem parse_inverts_line_two_negative :
    (∀ kind, 0 ≤ CapacityHint.unknown.get kind) ∧ parse CapacityHint.unknown.line = .ok (some CapacityHint.unknown) ∧
    let hint : CapacityHint := ⟨3, -20, 0, -7⟩
    hint.get .regexp < 0 ∧ parse hint.line = .error (.negative (toString (-20 : Int))) := by
  have natural : ∀ kind, 0 ≤ CapacityHint.unknown.get kind := fun kind => by cases kind <;> decide
  obtain ⟨-, -, -, restored, refused⟩ := parse_inverts_line
  obtain ⟨first, found, bad⟩ := refused ⟨3, -20, 0, -7⟩ .regexp (by decide)
  obtain rfl : Kind.suffix = first := Option.some.inj found
  exact ⟨natural, restored _ natural, by decide, bad⟩

end CapacityHint

end DomainRules
