import DomainRules.Text.Utf8
import Mathlib.Data.Char
import Mathlib.Data.List.Flatten

/-! Decoding undoes encoding, and what it accepts is an encoding. -/

namespace DomainRules.Text.Utf8

section
variable {byte : UInt8} {n : Nat}

theorem ofFirst?_two (value : byte.toNat = n + 0xC0) (low : 2 ≤ n) (high : n < 0x20) :
    Pending.ofFirst? byte = some ⟨byte, n, 1, 1, 0x80, 0xBF⟩ := by
  have two : 0xC2 ≤ byte ∧ byte ≤ 0xDF := by
    simp [UInt8.le_iff_toNat_le, value]
    omega
  simp [Pending.ofFirst?, two, value]

theorem ofFirst?_three (value : byte.toNat = n + 0xE0) (high : n < 0x10) :
    Pending.ofFirst? byte =
      some ⟨byte, n, 1, 2, if n = 0 then 0xA0 else 0x80, if n = 0xD then 0x9F else 0xBF⟩ := by
  have notTwo : ¬(0xC2 ≤ byte ∧ byte ≤ 0xDF) := by simp [UInt8.le_iff_toNat_le, value]
  have three : 0xE0 ≤ byte ∧ byte ≤ 0xEF := by
    simp [UInt8.le_iff_toNat_le, value]
    omega
  have lowest : byte = 0xE0 ↔ n = 0 := by simp [← UInt8.toNat_inj, value]
  have surrogates : byte = 0xED ↔ n = 0xD := by simp [← UInt8.toNat_inj, value]
  simp [Pending.ofFirst?, notTwo, three, value, lowest, surrogates]

theorem ofFirst?_four (value : byte.toNat = n + 0xF0) (high : n < 5) :
    Pending.ofFirst? byte =
      some ⟨byte, n, 1, 3, if n = 0 then 0x90 else 0x80, if n = 4 then 0x8F else 0xBF⟩ := by
  have notTwo : ¬(0xC2 ≤ byte ∧ byte ≤ 0xDF) := by simp [UInt8.le_iff_toNat_le, value]
  have notThree : ¬(0xE0 ≤ byte ∧ byte ≤ 0xEF) := by simp [UInt8.le_iff_toNat_le, value]
  have four : 0xF0 ≤ byte ∧ byte ≤ 0xF4 := by
    simp [UInt8.le_iff_toNat_le, value]
    omega
  have lowest : byte = 0xF0 ↔ n = 0 := by simp [← UInt8.toNat_inj, value]
  have highest : byte = 0xF4 ↔ n = 4 := by simp [← UInt8.toNat_inj, value]
  simp [Pending.ofFirst?, notTwo, notThree, four, value, lowest, highest]

end

section
variable {position taken bits n low high : Nat} {done : List Char} {first byte lowest highest : UInt8} {bytes : List UInt8}

theorem decodeFrom_one (value : byte.toNat = n) (high : n < 0x80) :
    decodeFrom position done none (byte :: bytes) = decodeFrom (position + 1) (Char.ofNat n :: done) none bytes := by
  have one : byte < 0x80 := by simp [UInt8.lt_iff_toNat_lt, value, high]
  simp [decodeFrom, one, value]

theorem decodeFrom_first {pending : Pending} (h : Pending.ofFirst? byte = some pending) (low : 0x80 ≤ byte.toNat) :
    decodeFrom position done none (byte :: bytes) = decodeFrom position done (some pending) bytes := by
  have notOne : ¬byte < 0x80 := by simpa [UInt8.lt_iff_toNat_lt] using low
  simp [decodeFrom, notOne, h]

theorem decodeFrom_last (value : byte.toNat = n + 0x80) (low : lowest.toNat ≤ n + 0x80)
    (high : n + 0x80 ≤ highest.toNat) :
    decodeFrom position done (some ⟨first, bits, taken, 1, lowest, highest⟩) (byte :: bytes) =
      decodeFrom (position + (taken + 1)) (Char.ofNat (bits * 64 + n) :: done) none bytes := by
  have bounds : lowest ≤ byte ∧ byte ≤ highest := by simp [UInt8.le_iff_toNat_le, value, low, high]
  simp [decodeFrom, bounds, Pending.extend, value]

theorem decodeFrom_more {wanted : Nat} (value : byte.toNat = n + 0x80) (low : lowest.toNat ≤ n + 0x80)
    (high : n + 0x80 ≤ highest.toNat) :
    decodeFrom position done (some ⟨first, bits, taken, wanted + 2, lowest, highest⟩) (byte :: bytes) =
      decodeFrom position done (some ⟨first, bits * 64 + n, taken + 1, wanted + 1, 0x80, 0xBF⟩) bytes := by
  have bounds : lowest ≤ byte ∧ byte ≤ highest := by simp [UInt8.le_iff_toNat_le, value, low, high]
  simp [decodeFrom, bounds, Pending.extend, value]

end

theorem toNat_ofNat {n : Nat} (h : n < 0x100) : (UInt8.ofNat n).toNat = n := by
  rw [UInt8.toNat_ofNat', Nat.mod_eq_of_lt h]

theorem decodeFrom_encodeChar (position : Nat) (done : List Char) (c : Char) (bytes : List UInt8) :
    decodeFrom position done none (String.utf8EncodeChar c ++ bytes) =
      decodeFrom (position + (String.utf8EncodeChar c).length) (c :: done) none bytes := by
  have whole : Char.ofNat c.val.toNat = c := Char.ofNat_toNat c
  have scalar : c.val.toNat < 0xD800 ∨ 0xDFFF < c.val.toNat ∧ c.val.toNat < 0x110000 := c.valid
  unfold String.utf8EncodeChar
  generalize c.val.toNat = v at whole scalar ⊢
  -- Each byte carries digits of `v` to the base 64; the second one is bounded by what the first one says.
  have last : (UInt8.ofNat (v % 0x40 + 0x80)).toNat = v % 0x40 + 0x80 := toNat_ofNat (by omega)
  have middle : (UInt8.ofNat (v / 0x40 % 0x40 + 0x80)).toNat = v / 0x40 % 0x40 + 0x80 := toNat_ofNat (by omega)
  simp only
  split_ifs with one two three
  · rw [List.singleton_append, decodeFrom_one (toNat_ofNat (by omega)) (by omega), whole]
    rfl
  · have lead : (UInt8.ofNat (v / 0x40 % 0x20 + 0xC0)).toNat = v / 0x40 + 0xC0 := by
      rw [toNat_ofNat (by omega)]
      omega
    have sum : v / 0x40 * 64 + v % 0x40 = v := by omega
    simp only [List.cons_append, List.nil_append]
    rw [decodeFrom_first (ofFirst?_two lead (by omega) (by omega)) (by omega),
      decodeFrom_last last (by simp) (by simp; omega), sum, whole]
    rfl
  · have lead : (UInt8.ofNat (v / 0x1000 % 0x10 + 0xE0)).toNat = v / 0x1000 + 0xE0 := by
      rw [toNat_ofNat (by omega)]
      omega
    have sum : (v / 0x1000 * 64 + v / 0x40 % 0x40) * 64 + v % 0x40 = v := by omega
    simp only [List.cons_append, List.nil_append]
    rw [decodeFrom_first (ofFirst?_three lead (by omega)) (by omega),
      decodeFrom_more middle (by split_ifs <;> simp; omega) (by split_ifs <;> simp <;> omega),
      decodeFrom_last last (by simp) (by simp; omega), sum, whole]
    rfl
  · have lead : (UInt8.ofNat (v / 0x40000 % 8 + 0xF0)).toNat = v / 0x40000 + 0xF0 := by
      rw [toNat_ofNat (by omega)]
      omega
    have second : (UInt8.ofNat (v / 0x1000 % 0x40 + 0x80)).toNat = v / 0x1000 % 0x40 + 0x80 := toNat_ofNat (by omega)
    have sum : ((v / 0x40000 * 64 + v / 0x1000 % 0x40) * 64 + v / 0x40 % 0x40) * 64 + v % 0x40 = v := by omega
    simp only [List.cons_append, List.nil_append]
    rw [decodeFrom_first (ofFirst?_four lead (by omega)) (by omega),
      decodeFrom_more second (by split_ifs <;> simp; omega) (by split_ifs <;> simp <;> omega),
      decodeFrom_more middle (by simp) (by simp; omega), decodeFrom_last last (by simp) (by simp; omega), sum, whole]
    rfl

theorem decodeFrom_encode (position : Nat) (done chars : List Char) :
    decodeFrom position done none (chars.flatMap String.utf8EncodeChar) = .ok (done.reverse ++ chars) := by
  induction chars generalizing position done with
  | nil => simp [decodeFrom]
  | cons c chars ih => simp [decodeFrom_encodeChar, ih]

theorem decode_encode (text : String) : decode (encode text) = .ok text := by
  rw [decode, encode, decodeFrom_encode]
  exact congrArg Except.ok String.ofList_toList

theorem encode_flatMap (texts : List String) :
    encode (String.ofList (texts.flatMap String.toList)) = texts.flatMap encode := by
  induction texts with
  | nil => rfl
  | cons text texts ih => simpa [encode] using ih

theorem ofFirst?_eq_some {byte : UInt8} {pending : Pending} (h : Pending.ofFirst? byte = some pending) :
    (∃ n, byte.toNat = n + 0xC0 ∧ 2 ≤ n ∧ n < 0x20) ∨ (∃ n, byte.toNat = n + 0xE0 ∧ n < 0x10) ∨
      ∃ n, byte.toNat = n + 0xF0 ∧ n < 5 := by
  simp only [Pending.ofFirst?, Bool.and_eq_true, decide_eq_true_eq, UInt8.le_iff_toNat_le, UInt8.toNat_ofNat] at h
  split at h
  · exact .inl ⟨byte.toNat - 0xC0, by omega, by omega, by omega⟩
  · split at h
    · exact .inr (.inl ⟨byte.toNat - 0xE0, by omega, by omega⟩)
    · split at h
      · exact .inr (.inr ⟨byte.toNat - 0xF0, by omega, by omega⟩)
      · contradiction

theorem val_ofNat {v : Nat} (h : v < 0xD800 ∨ 0xDFFF < v ∧ v < 0x110000) : (Char.ofNat v).val.toNat = v := by
  have valid : v.isValidChar := h
  rw [Char.ofNat, dif_pos valid]
  rfl

theorem encodeChar_two {n m : Nat} (low : 2 ≤ n) (high : n < 0x20) (tail : m ≤ 0x3F) :
    String.utf8EncodeChar (Char.ofNat (n * 64 + m)) = [.ofNat (n + 0xC0), .ofNat (m + 0x80)] := by
  simp only [String.utf8EncodeChar, val_ofNat (v := n * 64 + m) (by omega)]
  rw [if_neg (by omega), if_pos (by omega)]
  congr 3 <;> omega

theorem encodeChar_three {n m k : Nat} (high : n < 0x10) (second : m ≤ 0x3F) (tail : k ≤ 0x3F)
    (long : n = 0 → 0x20 ≤ m) (scalar : n = 0xD → m ≤ 0x1F) :
    String.utf8EncodeChar (Char.ofNat ((n * 64 + m) * 64 + k)) =
      [.ofNat (n + 0xE0), .ofNat (m + 0x80), .ofNat (k + 0x80)] := by
  simp only [String.utf8EncodeChar, val_ofNat (v := (n * 64 + m) * 64 + k) (by omega)]
  rw [if_neg (by omega), if_neg (by omega), if_pos (by omega)]
  congr 4 <;> omega

theorem encodeChar_four {n m k l : Nat} (high : n < 5) (second : m ≤ 0x3F) (third : k ≤ 0x3F) (tail : l ≤ 0x3F)
    (long : n = 0 → 0x10 ≤ m) (last : n = 4 → m ≤ 0xF) :
    String.utf8EncodeChar (Char.ofNat (((n * 64 + m) * 64 + k) * 64 + l)) =
      [.ofNat (n + 0xF0), .ofNat (m + 0x80), .ofNat (k + 0x80), .ofNat (l + 0x80)] := by
  simp only [String.utf8EncodeChar, val_ofNat (v := ((n * 64 + m) * 64 + k) * 64 + l) (by omega)]
  rw [if_neg (by omega), if_neg (by omega), if_neg (by omega)]
  congr 5 <;> omega

/-- Bytes that begin with a character, behind which decoding goes on. -/
def ReadsChar (done chars : List Char) (bytes : List UInt8) : Prop :=
  ∃ c rest position, bytes = String.utf8EncodeChar c ++ rest ∧ decodeFrom position (c :: done) none rest = .ok chars

section
variable {position n : Nat} {done chars : List Char} {byte : UInt8} {bytes : List UInt8}

/-- A character that has begun goes on with a byte in its bounds. -/
theorem exists_tail {pending : Pending} (tail : 0x80 ≤ pending.low.toNat)
    (h : decodeFrom position done (some pending) bytes = .ok chars) :
    ∃ m rest, bytes = .ofNat (m + 0x80) :: rest ∧ pending.low.toNat ≤ m + 0x80 ∧ m + 0x80 ≤ pending.high.toNat := by
  cases bytes with
  | nil => contradiction
  | cons byte rest =>
    by_cases bounds : pending.low ≤ byte ∧ byte ≤ pending.high
    · simp only [UInt8.le_iff_toNat_le] at bounds
      have value : byte.toNat - 0x80 + 0x80 = byte.toNat := by omega
      exact ⟨byte.toNat - 0x80, rest, by rw [value, UInt8.ofNat_toNat], by omega, by omega⟩
    · simp [decodeFrom, bounds] at h

theorem readsChar_two (value : byte.toNat = n + 0xC0) (low : 2 ≤ n) (high : n < 0x20)
    (h : decodeFrom position done (some ⟨byte, n, 1, 1, 0x80, 0xBF⟩) bytes = .ok chars) :
    ReadsChar done chars (byte :: bytes) := by
  obtain ⟨m, rest, rfl, below, above⟩ := exists_tail (by simp) h
  have tail : m ≤ 0x3F := by simpa using above
  rw [decodeFrom_last (toNat_ofNat (by omega)) below above] at h
  refine ⟨_, _, _, ?_, h⟩
  rw [encodeChar_two low high tail, ← value, UInt8.ofNat_toNat]
  rfl

theorem readsChar_three (value : byte.toNat = n + 0xE0) (high : n < 0x10)
    (h : decodeFrom position done
      (some ⟨byte, n, 1, 2, if n = 0 then 0xA0 else 0x80, if n = 0xD then 0x9F else 0xBF⟩) bytes = .ok chars) :
    ReadsChar done chars (byte :: bytes) := by
  obtain ⟨m, rest, rfl, below, above⟩ := exists_tail (by split_ifs <;> simp) h
  have long : n = 0 → 0x20 ≤ m := fun zero => by simpa [zero] using below
  have scalar : n = 0xD → m ≤ 0x1F := fun surrogates => by simpa [surrogates] using above
  have second : m ≤ 0x3F := by split_ifs at above <;> simp at above <;> omega
  rw [decodeFrom_more (toNat_ofNat (by omega)) below above] at h
  obtain ⟨k, rest, rfl, below, above⟩ := exists_tail (by simp) h
  have tail : k ≤ 0x3F := by simpa using above
  rw [decodeFrom_last (toNat_ofNat (by omega)) below above] at h
  refine ⟨_, _, _, ?_, h⟩
  rw [encodeChar_three high second tail long scalar, ← value, UInt8.ofNat_toNat]
  rfl

theorem readsChar_four (value : byte.toNat = n + 0xF0) (high : n < 5)
    (h : decodeFrom position done
      (some ⟨byte, n, 1, 3, if n = 0 then 0x90 else 0x80, if n = 4 then 0x8F else 0xBF⟩) bytes = .ok chars) :
    ReadsChar done chars (byte :: bytes) := by
  obtain ⟨m, rest, rfl, below, above⟩ := exists_tail (by split_ifs <;> simp) h
  have long : n = 0 → 0x10 ≤ m := fun zero => by simpa [zero] using below
  have last : n = 4 → m ≤ 0xF := fun four => by simpa [four] using above
  have second : m ≤ 0x3F := by split_ifs at above <;> simp at above <;> omega
  rw [decodeFrom_more (toNat_ofNat (by omega)) below above] at h
  obtain ⟨k, rest, rfl, below, above⟩ := exists_tail (by simp) h
  have third : k ≤ 0x3F := by simpa using above
  rw [decodeFrom_more (toNat_ofNat (by omega)) below above] at h
  obtain ⟨l, rest, rfl, below, above⟩ := exists_tail (by simp) h
  have tail : l ≤ 0x3F := by simpa using above
  rw [decodeFrom_last (toNat_ofNat (by omega)) below above] at h
  refine ⟨_, _, _, ?_, h⟩
  rw [encodeChar_four high second third tail long last, ← value, UInt8.ofNat_toNat]
  rfl

theorem readsChar (h : decodeFrom position done none (byte :: bytes) = .ok chars) :
    ReadsChar done chars (byte :: bytes) := by
  by_cases one : byte.toNat < 0x80
  · rw [decodeFrom_one rfl one] at h
    refine ⟨_, _, _, ?_, h⟩
    simp [String.utf8EncodeChar, val_ofNat (v := byte.toNat) (by omega), Nat.le_of_lt_succ one]
  · cases begun : Pending.ofFirst? byte with
    | none => simp [decodeFrom, UInt8.lt_iff_toNat_lt, one, begun] at h
    | some pending =>
      rw [decodeFrom_first begun (by omega)] at h
      rcases ofFirst?_eq_some begun with ⟨n, value, low, high⟩ | ⟨n, value, high⟩ | ⟨n, value, high⟩
      · obtain rfl := Option.some.inj (begun.symm.trans (ofFirst?_two value low high))
        exact readsChar_two value low high h
      · obtain rfl := Option.some.inj (begun.symm.trans (ofFirst?_three value high))
        exact readsChar_three value high h
      · obtain rfl := Option.some.inj (begun.symm.trans (ofFirst?_four value high))
        exact readsChar_four value high h

theorem decodeFrom_eq_ok (h : decodeFrom position done none bytes = .ok chars) :
    ∃ rest, chars = done.reverse ++ rest ∧ bytes = rest.flatMap String.utf8EncodeChar := by
  -- Characters take one to four bytes, so the induction is on how many bytes are left.
  induction size : bytes.length using Nat.strong_induction_on generalizing position done bytes with
  | _ total ih =>
    cases bytes with
    | nil =>
      cases h
      exact ⟨[], by simp⟩
    | cons byte bytes =>
      obtain ⟨c, rest, later, split, h⟩ := readsChar h
      have shorter : rest.length < total := by
        have filled := List.length_pos_iff.mpr (String.utf8EncodeChar_ne_nil (c := c))
        have sum := congrArg List.length split
        rw [List.length_append] at sum
        omega
      obtain ⟨more, whole, encoded⟩ := ih _ shorter h rfl
      exact ⟨c :: more, by simpa using whole, by rw [split, encoded, List.flatMap_cons]⟩

end

/-- Each text has one encoding. -/
theorem decode_eq_ok {bytes : List UInt8} {text : String} : decode bytes = .ok text ↔ encode text = bytes := by
  constructor
  · intro h
    rw [decode] at h
    cases decoded : decodeFrom 0 [] none bytes with
    | error fault => simp [decoded] at h
    | ok chars =>
      obtain ⟨rest, rfl, rfl⟩ := decodeFrom_eq_ok decoded
      rw [decoded] at h
      cases h
      simp [encode]
  · rintro rfl
    exact decode_encode text

theorem length_encode_le {part whole : String} (h : part.toList.Sublist whole.toList) :
    (encode part).length ≤ (encode whole).length :=
  (h.flatMap _).length_le

theorem length_le_length_encode (text : String) : text.toList.length ≤ (encode text).length := by
  rw [encode]
  induction text.toList with
  | nil => rfl
  | cons c chars ih =>
    have filled := Char.utf8Size_pos c
    simp only [List.length_cons, List.flatMap_cons, List.length_append, String.length_utf8EncodeChar]
    omega

end DomainRules.Text.Utf8
