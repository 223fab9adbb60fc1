import DomainRules.Proofs.CapacityHint
import DomainRules.Proofs.Determinacy
import DomainRules.Proofs.RuleText.Reading

/-! Whether a hint is read does not matter to what a text builds, unless the line in its place is malformed. -/

namespace DomainRules.RuleText

theorem build_eq [Regex.Host] (source : Source) (useHint : Bool) (options : Options) :
    build source useHint options =
      source.reading (Rule.check options) useHint >>= fun found => RuleSet.ofRules options found.2 :=
  Builder.bind_freeze_eq (parse_agree source useHint options)

/-- The first line that is not empty. -/
inductive Opens (readable : α → Except Fault String) (line : String) : List α → Prop
  | here {raw others} : readable raw = .ok line → line ≠ "" → Opens readable line (raw :: others)
  | behind {raw others} : readable raw = .ok "" → Opens readable line others → Opens readable line (raw :: others)

def Source.Opens (line : String) : Source → Prop
  | text whole => RuleText.Opens .ok line (RuleText.lines whole)
  | bytes raw => ∃ whole, decode raw = .ok whole ∧ RuleText.Opens .ok line (RuleText.lines whole)
  | lines given => RuleText.Opens (fun line => .ok (withoutTerminator line)) line given
  | byteLines given => RuleText.Opens (fun line => withoutTerminator <$> decode line) line given

section
variable {α : Type} {readable : α → Except Fault String} {raw : List α}

theorem takeHint_of_opens {line : String} {flaw : CapacityHint.Flaw} (h : Opens readable line raw)
    (bad : CapacityHint.parse line = .error flaw) : takeHint readable raw = .error (.malformedHint line flaw) := by
  induction h with
  | here read filled => simp [takeHint, read, String.isEmpty_iff, filled, bad]
  | behind read _ ih => simpa [takeHint, read] using ih

theorem takeHint_eq_error (check : Rule → Except Fault Unit) {fault : Fault} (h : takeHint readable raw = .error fault) :
    (∃ line flaw, Opens readable line raw ∧ CapacityHint.parse line = .error flaw) ∨
      rulesOf check readable raw = .error fault := by
  induction raw with
  | nil => contradiction
  | cons raw others ih =>
    rw [takeHint] at h
    cases read : readable raw with
    | error unreadable =>
      rw [read] at h
      exact .inr (by rw [rulesOf, read]; exact congrArg _ (Except.error.inj h))
    | ok line =>
      rw [read, ok_bind] at h
      split at h
      · rename_i blank
        rw [rulesOf_cons_of_none read (by simp [ruleOf, blank])]
        rw [String.isEmpty_iff.mp blank] at read
        rcases ih h with ⟨line, flaw, opens, bad⟩ | stopped
        · exact .inl ⟨line, flaw, .behind read opens, bad⟩
        · exact .inr stopped
      · rename_i filled
        split at h
        · rename_i flaw bad
          exact .inl ⟨line, flaw, .here read (by simpa [String.isEmpty_iff] using filled), bad⟩
        · contradiction
        · contradiction

theorem reading_eq_malformedHint {check : Rule → Except Fault Unit} {line : String} {flaw : CapacityHint.Flaw}
    (opens : Opens readable line raw) (bad : CapacityHint.parse line = .error flaw) :
    reading check readable raw true = .error (.malformedHint line flaw) := by
  rw [reading, opening, if_pos rfl, takeHint_of_opens opens bad, error_bind]

/-- Unless a malformed line opens the text, what keeps a hint from being read keeps rules from being read. -/
theorem opening_eq_error (check : Rule → Except Fault Unit) {useHint : Bool} {fault : Fault}
    (sound : useHint = true → ∀ line flaw, Opens readable line raw → CapacityHint.parse line ≠ .error flaw)
    (h : opening readable raw useHint = .error fault) : rulesOf check readable raw = .error fault := by
  cases useHint with
  | false => contradiction
  | true =>
    rcases takeHint_eq_error check h with ⟨line, flaw, opens, bad⟩ | stopped
    · exact absurd bad (sound rfl line flaw opens)
    · exact stopped

theorem reading_eq_error {check : Rule → Except Fault Unit} {useHint : Bool} {fault : Fault}
    (sound : useHint = true → ∀ line flaw, Opens readable line raw → CapacityHint.parse line ≠ .error flaw)
    (stopped : rulesOf check readable raw = .error fault) : reading check readable raw useHint = .error fault := by
  rw [reading, stopped]
  cases opened : opening readable raw useHint with
  | ok taken => rfl
  | error early =>
    rw [opening_eq_error check sound opened] at stopped
    rw [error_bind, Except.error.inj stopped]

/-- Reading with and without hints differ in the hint alone. -/
theorem reading_bind_eq {γ : Type} {check : Rule → Except Fault Unit} (f : List Rule → Except Fault γ)
    (sound : ∀ line flaw, Opens readable line raw → CapacityHint.parse line ≠ .error flaw) :
    (reading check readable raw true >>= fun found => f found.2) =
      reading check readable raw false >>= fun found => f found.2 := by
  have plain : opening readable raw false = .ok (.unknown, raw) := rfl
  rw [reading, reading, plain, ok_bind]
  cases opened : opening readable raw true with
  | ok taken => simp only [ok_bind, bind_assoc, pure_bind]
  | error fault =>
    rw [opening_eq_error check (fun _ => sound) opened]
    rfl

end

theorem Source.reading_bind_eq {γ : Type} {source : Source} {check : Rule → Except Fault Unit}
    (f : List Rule → Except Fault γ) (sound : ∀ line flaw, source.Opens line → CapacityHint.parse line ≠ .error flaw) :
    (source.reading check true >>= fun found => f found.2) = source.reading check false >>= fun found => f found.2 := by
  cases source with
  | text whole => exact RuleText.reading_bind_eq f sound
  | bytes raw =>
    rw [reading, reading]
    cases decoded : decode raw with
    | error fault => rfl
    | ok whole => exact RuleText.reading_bind_eq f fun line flaw opens => sound line flaw ⟨whole, decoded, opens⟩
  | lines given => exact RuleText.reading_bind_eq f sound
  | byteLines given => exact RuleText.reading_bind_eq f sound

theorem Source.reading_eq_malformedHint {source : Source} {check : Rule → Except Fault Unit} {line : String}
    {flaw : CapacityHint.Flaw} (opens : source.Opens line) (bad : CapacityHint.parse line = .error flaw) :
    source.reading check true = .error (.malformedHint line flaw) := by
  cases source with
  | text whole => exact RuleText.reading_eq_malformedHint opens bad
  | bytes raw =>
    obtain ⟨whole, decoded, opens⟩ := opens
    rw [reading, decoded, ok_bind]
    exact RuleText.reading_eq_malformedHint opens bad
  | lines given => exact RuleText.reading_eq_malformedHint opens bad
  | byteLines given => exact RuleText.reading_eq_malformedHint opens bad

/-- A malformed line in the place of a hint is refused if hints are read. But for that, reading the hint changes nothing,
whatever numbers it claims. -/
theorem hint_only_advises [Regex.Host] (source : Source) (options : Options) :
    (∀ line, source.Opens line → CapacityHint.marker.toList <+: line.toList → (∀ hint, ¬CapacityHint.Gives hint line) →
      ∃ flaw, build source true options = .error (.malformedHint line flaw)) ∧
    ((∀ line, source.Opens line → CapacityHint.marker.toList <+: line.toList → ∃ hint, CapacityHint.Gives hint line) →
      build source true options = build source false options) := by
  constructor
  · intro line opens marked malformed
    obtain ⟨flaw, bad⟩ := CapacityHint.parse_eq_error_iff.mpr ⟨marked, malformed⟩
    exact ⟨flaw, by rw [build_eq, Source.reading_eq_malformedHint opens bad, error_bind]⟩
  · intro sound
    rw [build_eq, build_eq]
    refine Source.reading_bind_eq _ fun line flaw opens bad => ?_
    obtain ⟨marked, malformed⟩ := CapacityHint.parse_eq_error_iff.mp ⟨flaw, bad⟩
    obtain ⟨hint, gives⟩ := sound line opens marked
    exact malformed hint gives

/-- A line with two counts behind empty lines, and counts that are wrong for all kinds. -/
theorem hint_only_advises_at_odds :
    let bad := "# domain set capacity hint 1 2 DSKR"
    let malformed := Source.text ("\n\r\n" ++ bad ++ "\ndomain:a")
    let wrong := Source.text "\n# domain set capacity hint 9 0 00 7 DSKR\r\nsuffix:a.b\nkeyword:#"
    let options : Options := { storage := .arena }
    (malformed.Opens bad ∧ CapacityHint.marker.toList <+: bad.toList ∧ (∀ hint, ¬CapacityHint.Gives hint bad) ∧
      ∃ flaw, build malformed true options = .error (.malformedHint bad flaw)) ∧
    (∀ line, wrong.Opens line → CapacityHint.marker.toList <+: line.toList → ∃ hint, CapacityHint.Gives hint line) ∧
      build wrong true options = build wrong false options := by
  intro bad malformed wrong options
  have split : lines ("\n\r\n" ++ bad ++ "\ndomain:a") = ["", "", bad, "domain:a"] := by decide +kernel
  have opens : malformed.Opens bad := by
    rw [Source.Opens, split]
    exact .behind rfl (.behind rfl (.here rfl (by decide)))
  have refused : CapacityHint.parse bad = .error .fieldCount := by decide +kernel
  obtain ⟨marked, ungiven⟩ := CapacityHint.parse_eq_error_iff.mp ⟨_, refused⟩
  have sound : ∀ line, wrong.Opens line → CapacityHint.marker.toList <+: line.toList →
      ∃ hint, CapacityHint.Gives hint line := by
    intro line opens marked
    by_contra none
    obtain ⟨flaw, refused⟩ := CapacityHint.parse_eq_error_iff.mpr ⟨marked, fun hint gives => none ⟨hint, gives⟩⟩
    have taken : (takeHint .ok (lines "\n# domain set capacity hint 9 0 00 7 DSKR\r\nsuffix:a.b\nkeyword:#")).isOk = true := by
      decide +kernel
    rw [takeHint_of_opens opens refused] at taken
    exact Bool.false_ne_true taken
  exact ⟨⟨opens, marked, ungiven, (hint_only_advises malformed options).1 bad opens marked ungiven⟩, sound,
    (hint_only_advises wrong options).2 sound⟩

end DomainRules.RuleText
