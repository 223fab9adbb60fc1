import DomainRules.Proofs.Outcome
import DomainRules.Random.Twister

/-! What holds of draws whatever the words of the generator are. A choice is one of the options, a shuffle only moves
members, a sample consists of members, and a longer computation yields what its parts lead to. -/

namespace DomainRules.Random

variable {α β : Type} {P : α → Prop} {Q : β → Prop} {draw : Random α}

/-- Whatever is drawn, the answer satisfies `P`. -/
def Yields (P : α → Prop) (draw : Random α) : Prop := ∀ source, P (draw.run source).1

theorem Yields.pure {a : α} (h : P a) : Yields P (pure a) := fun _ => h

theorem Yields.mono (h : Yields P draw) {P' : α → Prop} (weaken : ∀ a, P a → P' a) : Yields P' draw :=
  fun source => weaken _ (h source)

theorem Yields.bind (h : Yields P draw) {f : α → Random β} (next : ∀ a, P a → Yields Q (f a)) :
    Yields Q (draw >>= f) :=
  fun source => next _ (h source) (draw.run source).2

theorem yields_true (draw : Random α) : Yields (fun _ => True) draw := fun _ => trivial

theorem Yields.mapM {R : α → β → Prop} {f : α → Random β} (h : ∀ value, Yields (R value) (f value))
    (values : List α) : Yields (List.Forall₂ R values) (values.mapM f) := by
  induction values with
  | nil => exact .pure .nil
  | cons value values ih =>
    rw [List.mapM_cons]
    exact (h value).bind fun _ first => ih.bind fun _ others => .pure (.cons first others)

theorem yields_choose (options : Array α) (nonempty : 0 < options.size) :
    Yields (· ∈ options) (choose options nonempty) :=
  (yields_true _).bind fun place _ => .pure (Array.getElem_mem place.isLt)

theorem swapIfInBounds_perm (values : Array α) (i j : Nat) : (values.swapIfInBounds i j).Perm values := by
  unfold Array.swapIfInBounds
  split_ifs
  · exact Array.swap_perm _ _
  · exact .refl values
  · exact .refl values

theorem yields_shuffleFrom (values : Array α) (last : Nat) : Yields (·.Perm values) (shuffleFrom values last) := by
  induction last generalizing values with
  | zero => exact .pure (.refl values)
  | succ i ih =>
    refine (yields_true _).bind fun j _ source => ?_
    exact (ih (values.swapIfInBounds (i + 1) j) source).trans (swapIfInBounds_perm values (i + 1) j)

theorem yields_shuffle (values : Array α) : Yields (·.Perm values) (shuffle values) :=
  yields_shuffleFrom values _

theorem length_sums (weights : List Float) : (sums weights).length = weights.length := by
  have summed (acc : List Float × Float) : (weights.foldl (fun (acc : List Float × Float) weight =>
      let sum := acc.2 + weight
      (sum :: acc.1, sum)) acc).1.length = acc.1.length + weights.length := by
    induction weights generalizing acc with
    | nil => rfl
    | cons weight weights ih =>
      rw [List.foldl_cons, ih, List.length_cons, List.length_cons]
      omega
  rw [sums, List.length_reverse, summed, List.length_nil, Nat.zero_add]

theorem placeOf_lt {sums : List Float} (filled : sums ≠ []) (point : Float) : placeOf point sums < sums.length := by
  have short := (List.takeWhile_prefix (· ≤ point) (l := sums.dropLast)).length_le
  have some := List.length_pos_of_ne_nil filled
  rw [List.length_dropLast] at short
  exact Nat.lt_of_le_of_lt short (Nat.sub_lt some Nat.one_pos)

theorem yields_sample {values : Array String} {weights : List Float} (each : weights.length = values.size)
    (nonempty : 0 < values.size) (count : Nat) : Yields (∀ value ∈ ·, value ∈ values) (sample values weights count) := by
  have filled : sums weights ≠ [] := List.ne_nil_of_length_pos (by rwa [length_sums, each])
  have member (point : Float) : values.getD (placeOf point (sums weights)) "" ∈ values := by
    have inside : placeOf point (sums weights) < values.size := each ▸ length_sums weights ▸ placeOf_lt filled point
    simp [Array.getD, inside]
  have drawn : Yields (List.Forall₂ (fun _ value => value ∈ values) (List.range count)) (sample values weights count) :=
    Yields.mapM (fun _ => (yields_true real).bind fun _ _ => .pure (member _)) _
  refine drawn.mono fun found members value mem => ?_
  obtain ⟨-, -, held⟩ := exists_of_mem_right members mem
  exact held

end DomainRules.Random
