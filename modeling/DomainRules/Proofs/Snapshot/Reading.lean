import DomainRules.Proofs.Building
import DomainRules.Snapshot

/-! What restoring a snapshot amounts to: the rules in its bytes, each checked as it is read. -/

namespace DomainRules.Snapshot

section
variable (check : Rule → Except Fault Unit)

/-- The next rules, which are of one kind, and where they end. -/
def rulesAt (kind : Kind) : Nat → Cursor → Except Fault (List Rule × Cursor)
  | 0, cursor => .ok ([], cursor)
  | count + 1, cursor => do
    let (payload, cursor) ← (cursor.rule kind).mapError .badSnapshot
    check (kind, payload)
    let (rules, cursor) ← rulesAt kind count cursor
    return ((kind, payload) :: rules, cursor)

/-- The rules of the given kinds, section by section, and where they end. -/
def sections : List Kind → Cursor → Except Fault (List Rule × Cursor)
  | [], cursor => .ok ([], cursor)
  | kind :: kinds, cursor => do
    let (count, cursor) ← cursor.number.mapError .badSnapshot
    let (rules, cursor) ← rulesAt check kind count cursor
    let (others, cursor) ← sections kinds cursor
    return (rules ++ others, cursor)

def reading (bytes : List UInt8) : Except Fault (List Rule) := do
  let cursor ← (body bytes).mapError .badSnapshot
  let (rules, cursor) ← sections check Kind.all cursor
  if cursor.bytes ≠ [] then throw (.badSnapshot (.trailing cursor.bytes.length))
  return rules

end

section
variable [Regex.Host] {options : Options} {hint : CapacityHint} {rules : List Rule} {builder : Builder}

theorem readRules_agree (holds : builder.Holds options hint rules) (kind : Kind) (count : Nat) (cursor : Cursor) :
    Agree (fun reached found => reached.1.Holds options hint (rules ++ found.1) ∧ reached.2 = found.2)
      (readRules kind count builder cursor) (rulesAt (Rule.check options) kind count cursor) := by
  induction count generalizing rules builder cursor with
  | zero => exact .ok ⟨by simpa using holds, rfl⟩
  | succ count ih =>
    rw [readRules, rulesAt]
    refine (Agree.refl _).bind fun (payload, cursor) _ same => ?_
    subst same
    refine (holds.insert (kind, payload)).bind fun grown _ holds => ?_
    rw [← bind_pure (readRules kind count grown cursor)]
    refine (ih holds cursor).bind fun reached found ⟨holds, same⟩ => .ok ⟨?_, same⟩
    simpa using holds

theorem readKinds_agree (holds : builder.Holds options hint rules) (kinds : List Kind) (cursor : Cursor) :
    Agree (fun reached found => reached.1.Holds options hint (rules ++ found.1) ∧ reached.2 = found.2)
      (readKinds kinds builder cursor) (sections (Rule.check options) kinds cursor) := by
  induction kinds generalizing rules builder cursor with
  | nil => exact .ok ⟨by simpa using holds, rfl⟩
  | cons kind kinds ih =>
    rw [readKinds, sections]
    refine (Agree.refl _).bind fun (count, cursor) _ same => ?_
    subst same
    refine (readRules_agree holds kind count cursor).bind fun (grown, cursor) (more, _) ⟨holds, same⟩ => ?_
    subst same
    dsimp only
    rw [← bind_pure (readKinds kinds grown cursor)]
    refine (ih holds cursor).bind fun reached found ⟨holds, same⟩ => .ok ⟨?_, same⟩
    simpa using holds

end

theorem restore_agree [Regex.Host] (bytes : List UInt8) (options : Options) :
    Agree (fun builder rules => builder.Holds options .unknown rules) (restore bytes options)
      (reading (Rule.check options) bytes) := by
  rw [restore, reading]
  refine (Agree.refl _).bind fun cursor _ same => ?_
  subst same
  refine (readKinds_agree (Builder.holds_new options .unknown) Kind.all cursor).bind fun (builder, cursor) (rules, _) ⟨holds, same⟩ => ?_
  subst same
  dsimp only
  by_cases done : cursor.bytes = []
  · rw [if_neg (not_not.mpr done), if_neg (not_not.mpr done)]
    exact .ok holds
  · rw [if_pos done, if_pos done]
    exact .error _

/-- A snapshot restores to a set of the rules in it, or fails as reading them does. -/
theorem decode_agree [Regex.Host] (bytes : List UInt8) (options : Options) :
    Agree (fun set rules => set.Represents options rules) (decode bytes options)
      (reading (Rule.check options) bytes) :=
  Builder.agree_freeze (restore_agree bytes options)

inductive IsSnapshotFault (check : Rule → Except Fault Unit) : Fault → Prop
  | badSnapshot (flaw : Flaw) : IsSnapshotFault check (.badSnapshot flaw)
  | refused {rule fault} : check rule = .error fault → IsSnapshotFault check fault

section
variable {check : Rule → Except Fault Unit}

theorem faults_rulesAt (kind : Kind) (count : Nat) (cursor : Cursor) :
    Faults (IsSnapshotFault check) (rulesAt check kind count cursor) := by
  induction count generalizing cursor with
  | zero => exact .ok _
  | succ count ih =>
    refine (Faults.mapError _ .badSnapshot).bind fun (payload, cursor) => ?_
    exact Faults.bind (fun _ => .refused) fun _ => (ih cursor).bind fun _ => .ok _

theorem faults_sections (kinds : List Kind) (cursor : Cursor) :
    Faults (IsSnapshotFault check) (sections check kinds cursor) := by
  induction kinds generalizing cursor with
  | nil => exact .ok _
  | cons kind kinds ih =>
    refine (Faults.mapError _ .badSnapshot).bind fun (count, cursor) => ?_
    exact (faults_rulesAt kind count cursor).bind fun (_, cursor) => (ih cursor).bind fun _ => .ok _

theorem faults_reading (bytes : List UInt8) : Faults (IsSnapshotFault check) (reading check bytes) := by
  refine (Faults.mapError _ .badSnapshot).bind fun cursor => (faults_sections _ cursor).bind fun (rules, cursor) => ?_
  dsimp only
  split
  · exact Faults.error.mpr (.badSnapshot _)
  · exact .ok _

end

end DomainRules.Snapshot
