import DomainRules.Proofs.Snapshot.Format

/-! Which rules restoring comes to in bytes that need not be a snapshot to the end. It ends at the first of them that is
refused, and otherwise fails for a flaw of the bytes. -/

namespace DomainRules.Snapshot

/-- Bytes of rules of a kind among which there is a rule, and only such before it as are not refused. -/
inductive RulesReach (check : Rule → Except Fault Unit) (kind : Kind) (text : String) : Nat → List UInt8 → Prop
  | here {count own rest} : IsRule text own → RulesReach check kind text (count + 1) (own ++ rest)
  | behind {count passed own rest} : IsRule passed own → check (kind, passed) = .ok () →
      RulesReach check kind text count rest → RulesReach check kind text (count + 1) (own ++ rest)

inductive SectionsReach (check : Rule → Except Fault Unit) : Rule → List Kind → List UInt8 → Prop
  | here {kind kinds text count number rest} : IsNumber count number → RulesReach check kind text count rest →
      SectionsReach check (kind, text) (kind :: kinds) (number ++ rest)
  | behind {rule kind kinds passed own rest} : IsSection passed own → (∀ text ∈ passed, check (kind, text) = .ok ()) →
      SectionsReach check rule kinds rest → SectionsReach check rule (kind :: kinds) (own ++ rest)

/-- Bytes that hold a rule where restoring comes to it, whether or not they are a snapshot as a whole. -/
def Reaches (check : Rule → Except Fault Unit) (rule : Rule) (bytes : List UInt8) : Prop :=
  ∃ rest, bytes = header ++ rest ∧ SectionsReach check rule Kind.all rest

section
variable {check : Rule → Except Fault Unit} {kind : Kind} {text : String} {count offset : Nat} {own rest bytes : List UInt8}
  {cursor : Cursor} {rule : Rule} {fault : Fault}

theorem rulesAt_of_reach (h : RulesReach check kind text count bytes) (refused : check (kind, text) = .error fault) :
    rulesAt check kind count ⟨offset, bytes⟩ = .error fault := by
  induction h generalizing offset with
  | here told =>
    rw [rulesAt, told.read]
    simp [Except.mapError, refused]
  | behind told passed _ ih =>
    rw [rulesAt, told.read]
    simp [Except.mapError, passed, ih]

theorem sections_of_reach {kinds : List Kind} (h : SectionsReach check rule kinds bytes) (refused : check rule = .error fault) :
    sections check kinds ⟨offset, bytes⟩ = .error fault := by
  induction h generalizing offset with
  | here number reach =>
    rw [sections, number.read]
    simp [Except.mapError, rulesAt_of_reach reach refused]
  | @behind rule kind kinds passed own rest held all _ ih =>
    have taken : forM (passed.map fun text => (kind, text)) check = .ok () :=
      forM_eq_ok.mpr (List.forall_mem_map.mpr all)
    obtain ⟨number, payloads⟩ := held
    rw [sections, List.append_assoc, number.read]
    simp [Except.mapError, rulesAt_parts payloads, taken, ih refused]

theorem reading_of_reaches (h : Reaches check rule bytes) (refused : check rule = .error fault) :
    reading check bytes = .error fault := by
  obtain ⟨rest, rfl, reach⟩ := h
  rw [reading, body_header]
  simp [Except.mapError, sections_of_reach reach refused]

theorem rulesAt_eq_error (h : rulesAt check kind count cursor = .error fault) :
    (∃ flaw, fault = .badSnapshot flaw) ∨
      ∃ text, RulesReach check kind text count cursor.bytes ∧ check (kind, text) = .error fault := by
  induction count generalizing cursor with
  | zero => contradiction
  | succ count ih =>
    rcases bind_eq_error.mp h with cut | ⟨⟨text, behind⟩, read, h⟩
    · obtain ⟨flaw, -, rfl⟩ := mapError_eq_error.mp cut
      exact .inl ⟨flaw, rfl⟩
    · obtain ⟨own, told, split⟩ := rule_eq_ok (mapError_eq_ok.mp read)
      rw [split]
      rcases bind_eq_error.mp h with refused | ⟨_, passed, h⟩
      · exact .inr ⟨text, .here told, refused⟩
      · rcases bind_eq_error.mp h with later | ⟨_, -, h⟩
        · refine (ih later).imp_right ?_
          rintro ⟨other, reach, refused⟩
          exact ⟨other, .behind told passed reach, refused⟩
        · contradiction

theorem sections_eq_error {kinds : List Kind} (h : sections check kinds cursor = .error fault) :
    (∃ flaw, fault = .badSnapshot flaw) ∨
      ∃ rule, SectionsReach check rule kinds cursor.bytes ∧ check rule = .error fault := by
  induction kinds generalizing cursor with
  | nil => contradiction
  | cons kind kinds ih =>
    rcases bind_eq_error.mp h with cut | ⟨⟨count, behind⟩, counted, h⟩
    · obtain ⟨flaw, -, rfl⟩ := mapError_eq_error.mp cut
      exact .inl ⟨flaw, rfl⟩
    · obtain ⟨number, told, split⟩ := number_eq_ok (mapError_eq_ok.mp counted)
      rw [split]
      rcases bind_eq_error.mp h with stopped | ⟨⟨rules, middle⟩, read, h⟩
      · refine (rulesAt_eq_error stopped).imp_right ?_
        rintro ⟨text, reach, refused⟩
        exact ⟨(kind, text), .here told reach, refused⟩
      · obtain ⟨texts, parts, rfl, rfl, all, body, checked⟩ := rulesAt_eq_ok read
        rcases bind_eq_error.mp h with later | ⟨_, -, h⟩
        · refine (ih later).imp_right ?_
          rintro ⟨rule, reach, refused⟩
          rw [body, ← List.append_assoc]
          exact ⟨rule, .behind (.mk told all) (fun text mem => checked _ (List.mem_map_of_mem mem)) reach, refused⟩
        · contradiction

theorem reading_eq_error (h : reading check bytes = .error fault) :
    (∃ flaw, fault = .badSnapshot flaw) ∨ ∃ rule, Reaches check rule bytes ∧ check rule = .error fault := by
  rcases bind_eq_error.mp h with unopened | ⟨cursor, opened, h⟩
  · obtain ⟨flaw, -, rfl⟩ := mapError_eq_error.mp unopened
    exact .inl ⟨flaw, rfl⟩
  · rcases bind_eq_error.mp h with stopped | ⟨⟨rules, rest⟩, -, h⟩
    · refine (sections_eq_error stopped).imp_right ?_
      rintro ⟨rule, reach, refused⟩
      exact ⟨rule, ⟨_, body_eq_ok (mapError_eq_ok.mp opened), reach⟩, refused⟩
    · dsimp only at h
      split at h
      · exact .inl ⟨_, (Except.error.inj h).symm⟩
      · contradiction

end

end DomainRules.Snapshot
