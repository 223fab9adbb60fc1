import Mathlib.Data.List.Forall2

/-! Computations that may fail. Two of them agree when both fail with one fault or both succeed with related results.
What a function does is then told by a plainer computation that it agrees with. -/

namespace DomainRules

section
variable {ε α β : Type}

@[simp] theorem ok_bind (a : α) (f : α → Except ε β) : .ok a >>= f = f a := rfl

@[simp] theorem error_bind (fault : ε) (f : α → Except ε β) : .error fault >>= f = .error fault := rfl

@[simp] theorem map_ok (f : α → β) (a : α) : f <$> (.ok a : Except ε α) = .ok (f a) := rfl

@[simp] theorem map_error (f : α → β) (fault : ε) : f <$> (.error fault : Except ε α) = .error fault := rfl

theorem exists_of_isOk {x : Except ε α} (h : x.isOk = true) : ∃ a, x = .ok a := by
  cases x with
  | ok a => exact ⟨a, rfl⟩
  | error => contradiction

def fault? : Except ε α → Option ε
  | .ok _ => none
  | .error fault => some fault

theorem eq_error_of_fault? {x : Except ε α} {fault : ε} (h : fault? x = some fault) : x = .error fault := by
  cases x with
  | ok a => contradiction
  | error other => rw [Option.some.inj h]

theorem bind_eq_ok {x : Except ε α} {f : α → Except ε β} {b : β} :
    x >>= f = .ok b ↔ ∃ a, x = .ok a ∧ f a = .ok b := by
  cases x <;> simp

theorem bind_eq_error {x : Except ε α} {f : α → Except ε β} {fault : ε} :
    x >>= f = .error fault ↔ x = .error fault ∨ ∃ a, x = .ok a ∧ f a = .error fault := by
  cases x <;> simp

theorem map_eq_error {x : Except ε α} {f : α → β} {fault : ε} : f <$> x = .error fault ↔ x = .error fault := by
  cases x <;> simp

theorem map_eq_ok {x : Except ε α} {f : α → β} {b : β} : f <$> x = .ok b ↔ ∃ a, x = .ok a ∧ f a = b := by
  cases x <;> simp

theorem exists_bind {x : Except ε α} {f : α → Except ε β} :
    (∃ b, x >>= f = .ok b) ↔ ∃ a, x = .ok a ∧ ∃ b, f a = .ok b := by
  cases x <;> simp

theorem exists_map {x : Except ε α} {f : α → β} : (∃ b, f <$> x = .ok b) ↔ ∃ a, x = .ok a := by
  cases x <;> simp

theorem mapError_eq_ok {δ : Type} {x : Except δ α} {f : δ → ε} {a : α} : x.mapError f = .ok a ↔ x = .ok a := by
  cases x <;> simp [Except.mapError]

theorem mapError_eq_error {δ : Type} {x : Except δ α} {f : δ → ε} {fault : ε} :
    x.mapError f = .error fault ↔ ∃ cause, x = .error cause ∧ f cause = fault := by
  cases x <;> simp [Except.mapError]

@[simp] theorem pure_eq_ok {a b : α} : (pure a : Except ε α) = .ok b ↔ a = b := by
  simp [pure, Except.pure]

@[simp] theorem mapM_ok (f : α → β) (values : List α) :
    values.mapM (fun value => (.ok (f value) : Except ε β)) = .ok (values.map f) :=
  List.mapM_pure

@[simp] theorem mapM_ok_self (values : List α) : values.mapM (Except.ok : α → Except ε α) = .ok values := by
  simpa using mapM_ok id values

theorem forM_eq_ok {check : α → Except ε Unit} {values : List α} :
    forM values check = .ok () ↔ ∀ value ∈ values, check value = .ok () := by
  induction values with
  | nil => simp [pure, Except.pure]
  | cons value values ih => cases h : check value <;> simp [List.forM_cons, h, ih]

theorem exists_of_forM_ne_ok {check : α → Except ε Unit} {values : List α} (h : forM values check ≠ .ok ()) :
    ∃ value ∈ values, ∃ fault, check value = .error fault ∧ forM values check = .error fault := by
  induction values with
  | nil => exact absurd rfl h
  | cons value values ih =>
    cases passed : check value with
    | error fault => exact ⟨value, by simp, fault, passed, by simp [List.forM_cons, passed]⟩
    | ok =>
      rw [List.forM_cons, passed, ok_bind] at h ⊢
      obtain ⟨other, mem, fault, refused, stopped⟩ := ih h
      exact ⟨other, by simp [mem], fault, refused, stopped⟩

theorem exists_of_forM_eq_error {check : α → Except ε Unit} {values : List α} {fault : ε}
    (h : forM values check = .error fault) : ∃ value ∈ values, check value = .error fault := by
  obtain ⟨value, mem, other, refused, stopped⟩ := exists_of_forM_ne_ok (ne_of_eq_of_ne h nofun)
  obtain rfl := Except.error.inj (h.symm.trans stopped)
  exact ⟨value, mem, refused⟩

theorem mapM_eq_ok {f : α → Except ε β} {values : List α} {results : List β} :
    values.mapM f = .ok results ↔ List.Forall₂ (fun value result => f value = .ok result) values results := by
  induction values generalizing results with
  | nil => rw [List.mapM_nil, pure_eq_ok, List.forall₂_nil_left_iff, eq_comm]
  | cons value values ih =>
    simp only [List.mapM_cons, bind_eq_ok, pure_eq_ok, ih, List.forall₂_cons_left_iff, exists_and_left,
      @eq_comm _ results]

theorem exists_mapM {f : α → Except ε β} {values : List α} :
    (∃ results, values.mapM f = .ok results) ↔ ∀ value ∈ values, ∃ result, f value = .ok result := by
  induction values with
  | nil => simp
  | cons value values ih =>
    simp only [List.mapM_cons, bind_pure_comp, exists_bind, exists_map, exists_and_right, ih, List.forall_mem_cons]

/-- Results that do not depend on the checks may as well be made after all of them. -/
theorem mapM_check (check : α → Except ε Unit) (f : α → β) (values : List α) :
    values.mapM (fun value => (fun _ => f value) <$> check value) = (fun _ => values.map f) <$> forM values check := by
  induction values with
  | nil => rfl
  | cons value values ih =>
    rw [List.mapM_cons, ih, List.forM_cons]
    cases check value with
    | error fault => rfl
    | ok => cases forM values check <;> rfl

theorem forM_flatMap (check : β → Except ε Unit) (f : α → List β) (values : List α) :
    forM (values.flatMap f) check = forM values fun value => forM (f value) check := by
  induction values with
  | nil => rfl
  | cons value values ih => rw [List.flatMap_cons, List.forM_append, List.forM_cons, ih]

/-- A run over values ends at the first of them that fails. -/
theorem mapM_eq_error {f : α → Except ε β} {values : List α} {fault : ε} (h : values.mapM f = .error fault) :
    ∃ good bad rest, values = good ++ bad :: rest ∧ (∀ value ∈ good, ∃ result, f value = .ok result) ∧
      f bad = .error fault := by
  induction values with
  | nil => contradiction
  | cons value values ih =>
    rw [List.mapM_cons] at h
    cases first : f value with
    | error other =>
      rw [first, error_bind] at h
      obtain rfl := Except.error.inj h
      exact ⟨[], value, values, rfl, by simp, first⟩
    | ok result =>
      rw [first, ok_bind] at h
      cases others : values.mapM f with
      | ok results =>
        rw [others] at h
        contradiction
      | error other =>
        rw [others, error_bind] at h
        obtain ⟨good, bad, rest, rfl, passed, failed⟩ := ih (others.trans h)
        exact ⟨value :: good, bad, rest, rfl, List.forall_mem_cons.mpr ⟨⟨result, first⟩, passed⟩, failed⟩

theorem exists_of_mem_right {R : α → β → Prop} {values : List α} {results : List β}
    (h : List.Forall₂ R values results) {result : β} (mem : result ∈ results) : ∃ value ∈ values, R value result := by
  induction h with
  | nil => simp at mem
  | cons first _ ih =>
    rcases List.mem_cons.mp mem with rfl | mem
    · exact ⟨_, List.mem_cons_self, first⟩
    · obtain ⟨value, held, related⟩ := ih mem
      exact ⟨value, List.mem_cons_of_mem _ held, related⟩

theorem exists_ok_of_mem_mapM {f : α → Except ε β} {values : List α} {results : List β}
    (h : values.mapM f = .ok results) {value : α} (mem : value ∈ values) : ∃ result, f value = .ok result := by
  obtain ⟨result, -, made⟩ := exists_of_mem_right (mapM_eq_ok.mp h).flip mem
  exact ⟨result, made⟩

theorem exists_of_mem_mapM {f : α → Except ε β} {values : List α} {results : List β}
    (h : values.mapM f = .ok results) {result : β} (mem : result ∈ results) : ∃ value ∈ values, f value = .ok result :=
  exists_of_mem_right (mapM_eq_ok.mp h) mem

end

inductive Agree {ε α β : Type} (R : α → β → Prop) : Except ε α → Except ε β → Prop
  | ok {a b} : R a b → Agree R (.ok a) (.ok b)
  | error (fault : ε) : Agree R (.error fault) (.error fault)

namespace Agree

variable {ε α β γ δ : Type} {R : α → β → Prop} {S : γ → δ → Prop} {x : Except ε α} {y : Except ε β}

theorem bind (h : Agree R x y) {f : α → Except ε γ} {g : β → Except ε δ}
    (next : ∀ a b, R a b → Agree S (f a) (g b)) : Agree S (x >>= f) (y >>= g) := by
  cases h with
  | ok related => exact next _ _ related
  | error fault => exact .error fault

theorem map (h : Agree R x y) {f : α → γ} {g : β → δ} (next : ∀ a b, R a b → S (f a) (g b)) :
    Agree S (f <$> x) (g <$> y) := by
  cases h with
  | ok related => exact .ok (next _ _ related)
  | error fault => exact .error fault

theorem imp {T : α → β → Prop} (h : Agree R x y) (next : ∀ a b, x = .ok a → R a b → T a b) : Agree T x y := by
  cases h with
  | ok related => exact .ok (next _ _ rfl related)
  | error fault => exact .error fault

/-- What follows agreeing computations is equal if it is equal behind their results. -/
theorem bind_eq (h : Agree R x y) {f : α → Except ε γ} {g : β → Except ε γ} (next : ∀ a b, R a b → f a = g b) :
    x >>= f = y >>= g := by
  cases h with
  | ok related => exact next _ _ related
  | error fault => rfl

theorem exists_ok {b : β} (h : Agree R x (.ok b)) : ∃ a, x = .ok a ∧ R a b := by
  cases h with
  | ok related => exact ⟨_, rfl, related⟩

theorem of_ok {a : α} (h : Agree R (.ok a) y) : ∃ b, y = .ok b ∧ R a b := by
  cases h with
  | ok related => exact ⟨_, rfl, related⟩

theorem ok_iff (h : Agree R x y) : (∃ a, x = .ok a) ↔ ∃ b, y = .ok b := by
  cases h <;> simp

theorem error_iff (h : Agree R x y) (fault : ε) : x = .error fault ↔ y = .error fault := by
  cases h <;> simp

theorem refl (x : Except ε α) : Agree Eq x x := by
  cases x with
  | ok a => exact .ok rfl
  | error fault => exact .error fault

end Agree

/-- Every fault that a computation ends in satisfies `P`. -/
def Faults {ε α : Type} (P : ε → Prop) (x : Except ε α) : Prop := ∀ fault, x = .error fault → P fault

namespace Faults

variable {ε α β : Type} {P Q : ε → Prop} {x : Except ε α}

@[simp] theorem ok (a : α) : Faults P (.ok a : Except ε α) := nofun

@[simp] theorem error {fault : ε} : Faults P (.error fault : Except ε α) ↔ P fault := by simp [Faults]

theorem mono (h : Faults P x) (weaken : ∀ fault, P fault → Q fault) : Faults Q x :=
  fun fault fails => weaken fault (h fault fails)

theorem bind (h : Faults P x) {f : α → Except ε β} (next : ∀ a, Faults P (f a)) : Faults P (x >>= f) := by
  cases x with
  | ok a => exact next a
  | error fault => exact error.mpr (error.mp h)

theorem map (h : Faults P x) (f : α → β) : Faults P (f <$> x) := by
  cases x with
  | ok a => exact ok _
  | error fault => exact error.mpr (error.mp h)

theorem mapError {δ : Type} (x : Except δ α) {f : δ → ε} (h : ∀ fault, P (f fault)) : Faults P (x.mapError f) := by
  cases x with
  | ok a => exact ok a
  | error fault => exact error.mpr (h fault)

theorem mapM {f : α → Except ε β} (h : ∀ value, Faults P (f value)) (values : List α) : Faults P (values.mapM f) := by
  induction values with
  | nil => exact ok []
  | cons value values ih =>
    rw [List.mapM_cons]
    exact (h value).bind fun _ => ih.bind fun _ => ok _

theorem of_agree {R : α → β → Prop} {y : Except ε β} (agree : Agree R x y) (h : Faults P y) : Faults P x :=
  fun fault fails => h fault ((agree.error_iff fault).mp fails)

end Faults

end DomainRules
