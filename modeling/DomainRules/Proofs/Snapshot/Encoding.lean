import DomainRules.Proofs.Snapshot.Reading
import DomainRules.Proofs.Text.Utf8

/-! The format of snapshots, told without reader and writer: which bytes hold which rules. Saving makes just these bytes,
and has none to make just if a count or a length is beyond four bytes. Reading them comes to the rules they hold. -/

namespace DomainRules

def RuleSet.allRules (set : RuleSet) : List Rule :=
  Kind.all.flatMap fun kind => (set.rules kind).map fun payload => (kind, payload)

@[simp] theorem RuleSet.payloads_allRules (set : RuleSet) (kind : Kind) : payloads kind set.allRules = set.rules kind :=
  payloads_listing set.rules kind

theorem RuleSet.mem_allRules {set : RuleSet} {rule : Rule} : rule ∈ set.allRules ↔ rule.2 ∈ set.rules rule.1 :=
  Rule.mem_listing

namespace Snapshot

/-- Four bytes that stand for a number, the most significant first. -/
inductive IsNumber : Nat → List UInt8 → Prop
  | mk (a b c d : UInt8) : IsNumber (a.toNat * 2 ^ 24 + b.toNat * 2 ^ 16 + c.toNat * 2 ^ 8 + d.toNat) [a, b, c, d]

/-- A number and as many bytes, the UTF-8 of a rule. -/
inductive IsRule (rule : String) : List UInt8 → Prop
  | mk {length} : IsNumber (Text.Utf8.encode rule).length length → IsRule rule (length ++ Text.Utf8.encode rule)

/-- A number and as many rules. -/
inductive IsSection (rules : List String) : List UInt8 → Prop
  | mk {count parts} : IsNumber rules.length count → List.Forall₂ IsRule rules parts → IsSection rules (count ++ parts.flatten)

/-- The header and a section for each kind. -/
inductive IsSnapshot (rules : Kind → List String) : List UInt8 → Prop
  | mk {parts} : List.Forall₂ (fun kind part => IsSection (rules kind) part) Kind.all parts →
      IsSnapshot rules (header ++ parts.flatten)

/-- A set whose counts and lengths fit into four bytes. -/
structure Fits (set : RuleSet) : Prop where
  count : ∀ kind, (set.rules kind).length < 2 ^ 32
  size : ∀ kind, ∀ rule ∈ set.rules kind, (Text.Utf8.encode rule).length < 2 ^ 32

section
variable {n : Nat} {rule : String} {rules : List String} {bytes : List UInt8} {set : RuleSet}

theorem IsNumber.lt (h : IsNumber n bytes) : n < 2 ^ 32 := by
  obtain ⟨a, b, c, d⟩ := h
  have := a.toNat_lt
  have := b.toNat_lt
  have := c.toNat_lt
  have := d.toNat_lt
  omega

theorem IsNumber.length_eq (h : IsNumber n bytes) : bytes.length = 4 := by
  cases h
  rfl

theorem encodeNumber_eq_ok : encodeNumber n = .ok bytes ↔ IsNumber n bytes := by
  constructor
  · intro made
    unfold encodeNumber at made
    split at made
    · have value : (n / 0x1000000).toUInt8.toNat * 2 ^ 24 + (n / 0x10000).toUInt8.toNat * 2 ^ 16
          + (n / 0x100).toUInt8.toNat * 2 ^ 8 + n.toUInt8.toNat = n := by
        simp only [UInt8.toNat_ofNat']
        omega
      have told := IsNumber.mk (n / 0x1000000).toUInt8 (n / 0x10000).toUInt8 (n / 0x100).toUInt8 n.toUInt8
      rw [value] at told
      exact Except.ok.inj made ▸ told
    · contradiction
  · intro told
    have small : n < 0x100000000 := told.lt
    rw [encodeNumber, if_pos small]
    obtain ⟨a, b, c, d⟩ := told
    have := a.toNat_lt
    have := b.toNat_lt
    have := c.toNat_lt
    have := d.toNat_lt
    simp [← UInt8.toNat_inj]
    omega

theorem encodeRule_eq_ok : encodeRule rule = .ok bytes ↔ IsRule rule bytes := by
  simp only [encodeRule, bind_eq_ok, pure_eq_ok, encodeNumber_eq_ok]
  constructor
  · rintro ⟨length, told, rfl⟩
    exact .mk told
  · rintro ⟨told⟩
    exact ⟨_, told, rfl⟩

theorem encodeRules_eq_ok : encodeRules rules = .ok bytes ↔ IsSection rules bytes := by
  simp only [encodeRules, bind_eq_ok, pure_eq_ok, encodeNumber_eq_ok, mapM_eq_ok, encodeRule_eq_ok]
  constructor
  · rintro ⟨count, told, parts, held, rfl⟩
    exact .mk told held
  · rintro ⟨told, held⟩
    exact ⟨_, told, _, held, rfl⟩

theorem encode_eq_ok : encode set = .ok bytes ↔ IsSnapshot set.rules bytes := by
  simp only [encode, bind_eq_ok, pure_eq_ok, mapM_eq_ok, encodeRules_eq_ok]
  constructor
  · rintro ⟨parts, held, rfl⟩
    exact .mk held
  · rintro ⟨held⟩
    exact ⟨_, held, rfl⟩

theorem exists_encodeNumber : (∃ bytes, encodeNumber n = .ok bytes) ↔ n < 2 ^ 32 := by
  rw [encodeNumber]
  split <;> simp_all

theorem exists_encodeRule : (∃ bytes, encodeRule rule = .ok bytes) ↔ (Text.Utf8.encode rule).length < 2 ^ 32 := by
  simp only [encodeRule, bind_pure_comp, exists_map, exists_encodeNumber]

theorem exists_encodeRules : (∃ bytes, encodeRules rules = .ok bytes) ↔
    rules.length < 2 ^ 32 ∧ ∀ rule ∈ rules, (Text.Utf8.encode rule).length < 2 ^ 32 := by
  simp only [encodeRules, bind_pure_comp, exists_bind, exists_map, exists_and_right, exists_encodeNumber, exists_mapM,
    exists_encodeRule]

/-- A set can be saved just if its counts and lengths fit into four bytes. -/
theorem exists_encode : (∃ bytes, encode set = .ok bytes) ↔ Fits set := by
  simp only [encode, bind_pure_comp, exists_map, exists_mapM, exists_encodeRules, Kind.mem_all, forall_const, forall_and]
  exact ⟨fun ⟨count, size⟩ => ⟨count, size⟩, fun ⟨count, size⟩ => ⟨count, size⟩⟩

end

theorem faults_encodeNumber (n : Nat) : Faults (· = .numberTooLarge) (encodeNumber n) := by
  unfold encodeNumber
  split
  · exact .ok _
  · exact Faults.error.mpr rfl

/-- Saving fails for one reason. -/
theorem faults_encode (set : RuleSet) : Faults (· = .numberTooLarge) (encode set) := by
  refine Faults.bind (Faults.mapM (fun kind => ?_) Kind.all) fun _ => .ok _
  refine (faults_encodeNumber _).bind fun _ => Faults.bind (Faults.mapM (fun rule => ?_) _) fun _ => .ok _
  exact (faults_encodeNumber _).bind fun _ => .ok _

section
variable {n offset : Nat} {rule : String} {rules : List String} {own rest : List UInt8} {parts : List (List UInt8)} {kind : Kind}

theorem IsNumber.read (h : IsNumber n own) : Cursor.number ⟨offset, own ++ rest⟩ = .ok (n, ⟨offset + 4, rest⟩) := by
  obtain ⟨a, b, c, d⟩ := h
  have value : ((a.toNat * 256 + b.toNat) * 256 + c.toNat) * 256 + d.toNat =
      a.toNat * 2 ^ 24 + b.toNat * 2 ^ 16 + c.toNat * 2 ^ 8 + d.toNat := by omega
  simp only [List.cons_append, List.nil_append, Cursor.number, value]

theorem IsRule.read (h : IsRule rule own) :
    Cursor.rule ⟨offset, own ++ rest⟩ kind = .ok (rule, ⟨offset + own.length, rest⟩) := by
  cases h with
  | mk length =>
    rw [Cursor.rule, List.append_assoc, length.read]
    simp [Text.Utf8.decode_encode, pure, Except.pure, length.length_eq, Nat.add_assoc]

variable {check : Rule → Except Fault Unit}

theorem rulesAt_parts (h : List.Forall₂ IsRule rules parts) :
    rulesAt check kind rules.length ⟨offset, parts.flatten ++ rest⟩ =
      (fun _ => (rules.map fun payload => (kind, payload), ⟨offset + parts.flatten.length, rest⟩)) <$>
        forM (rules.map fun payload => (kind, payload)) check := by
  induction h generalizing offset with
  | nil => rfl
  | cons told _ ih =>
    rw [List.length_cons, rulesAt, List.flatten_cons, List.append_assoc, told.read]
    simp only [Except.mapError, ok_bind, List.map_cons, List.forM_cons, map_bind, ih]
    simp [Nat.add_assoc]

theorem sections_parts {rules : Kind → List String} {kinds : List Kind}
    (h : List.Forall₂ (fun kind part => IsSection (rules kind) part) kinds parts) :
    sections check kinds ⟨offset, parts.flatten ++ rest⟩ =
      (fun _ => (kinds.flatMap fun kind => (rules kind).map fun payload => (kind, payload),
        ⟨offset + parts.flatten.length, rest⟩)) <$>
          forM (kinds.flatMap fun kind => (rules kind).map fun payload => (kind, payload)) check := by
  induction h generalizing offset with
  | nil => rfl
  | cons held _ ih =>
    obtain ⟨count, payloads⟩ := held
    rw [sections, List.flatten_cons, List.append_assoc, List.append_assoc, count.read]
    simp only [Except.mapError, ok_bind, rulesAt_parts payloads]
    simp [ih, count.length_eq, Nat.add_assoc]

theorem body_header (rest : List UInt8) : body (header ++ rest) = .ok ⟨header.length, rest⟩ := by
  simp [body, header, magic]

theorem IsSnapshot.reading {rules : Kind → List String} {bytes : List UInt8} (h : IsSnapshot rules bytes) :
    reading check bytes =
      (fun _ => Kind.all.flatMap fun kind => (rules kind).map fun payload => (kind, payload)) <$>
        forM (Kind.all.flatMap fun kind => (rules kind).map fun payload => (kind, payload)) check := by
  obtain @⟨parts, held⟩ := h
  rw [Snapshot.reading, body_header, ← List.append_nil parts.flatten]
  simp only [Except.mapError, ok_bind, sections_parts held]
  simp

theorem reading_encode {set : RuleSet} {bytes : List UInt8} (saved : encode set = .ok bytes) :
    Snapshot.reading check bytes = (fun _ => set.allRules) <$> forM set.allRules check :=
  (encode_eq_ok.mp saved).reading

end

end Snapshot

end DomainRules
