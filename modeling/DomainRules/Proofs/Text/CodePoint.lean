import DomainRules.Proofs.Outcome
import DomainRules.Text.CodePoint

/-! Texts of characters among the texts of any code points: they are those that have a UTF-8 form. -/

namespace DomainRules.Text.Loose

theorem char_injective : Function.Injective CodePoint.char := fun _ _ => CodePoint.char.inj

theorem ofString_injective : Function.Injective ofString := fun _ _ same =>
  String.toList_inj.mp (List.map_injective_iff.mpr char_injective same)

theorem ofString_ofList (chars : List Char) : ofString (String.ofList chars) = chars.map .char := by
  rw [ofString, String.toList_ofList]

@[simp] theorem ofString_append (front behind : String) : ofString (front ++ behind) = ofString front ++ ofString behind := by
  simp [ofString]

@[simp] theorem ofString_eq_nil {plain : String} : ofString plain = [] ↔ plain = "" := by
  simp [ofString]

theorem ofString_eq_append {plain front : String} {behind : Loose} :
    ofString plain = ofString front ++ behind ↔ ∃ rest, behind = ofString rest ∧ plain = front ++ rest := by
  constructor
  · intro same
    obtain ⟨first, rest, split, fronts, rfl⟩ := List.map_eq_append_iff.mp same
    obtain rfl := List.map_injective_iff.mpr char_injective fronts
    refine ⟨String.ofList rest, (ofString_ofList rest).symm, ?_⟩
    rw [← String.toList_inj, split, String.toList_append, String.toList_ofList]
  · rintro ⟨rest, rfl, rfl⟩
    exact ofString_append front rest

theorem characters_eq_ok {text : Loose} {position : Nat} {chars : List Char} :
    characters position text = .ok chars ↔ text = chars.map .char := by
  induction text generalizing position chars with
  | nil => simp [characters, eq_comm]
  | cons point text ih =>
    cases point with
    | char c => cases chars <;> simp [characters, map_eq_ok, ih, and_comm]
    | surrogate index => cases chars <;> simp [characters]

theorem strict_eq_ok {text : Loose} {plain : String} : text.strict = .ok plain ↔ text = ofString plain := by
  simp only [strict, map_eq_ok, characters_eq_ok, ofString]
  constructor
  · rintro ⟨chars, rfl, rfl⟩
    rw [String.toList_ofList]
  · rintro rfl
    exact ⟨_, rfl, String.ofList_toList⟩

@[simp] theorem strict_ofString (plain : String) : (ofString plain).strict = .ok plain := strict_eq_ok.mpr rfl

end DomainRules.Text.Loose
