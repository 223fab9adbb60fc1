import DomainRules.Proofs.Snapshot.Encoding

/-! Damaged snapshots. Bytes that end inside a snapshot are refused as cut short, wherever they end, and bytes that go on
behind one are refused by the number of bytes that are left over. -/

namespace DomainRules.Snapshot

/-- Flaws of bytes that end too early. -/
def Flaw.isTruncation : Flaw → Bool
  | noHeader | noNumber _ | shortRule .. => true
  | _ => false

def Truncated {α : Type} (read : Except Fault α) : Prop :=
  ∃ flaw : Flaw, flaw.isTruncation = true ∧ read = .error (.badSnapshot flaw)

/-- Bytes that are the beginning of others, which go on. -/
def EndsInside (bytes whole : List UInt8) : Prop := ∃ missing, missing ≠ [] ∧ bytes ++ missing = whole

section
variable {bytes front behind whole : List UInt8}

theorem endsInside_iff : EndsInside bytes whole ↔ bytes <+: whole ∧ bytes ≠ whole := by
  constructor
  · rintro ⟨missing, some, rfl⟩
    exact ⟨List.prefix_append bytes missing, by simpa [eq_comm] using some⟩
  · rintro ⟨⟨missing, rfl⟩, differ⟩
    exact ⟨missing, by rintro rfl; simp at differ, rfl⟩

theorem EndsInside.length_lt (h : EndsInside bytes whole) : bytes.length < whole.length := by
  obtain ⟨missing, some, rfl⟩ := h
  have := List.length_pos_iff.mpr some
  simpa using this

@[simp] theorem not_endsInside_nil : ¬EndsInside bytes [] := fun h => absurd h.length_lt (Nat.not_lt_zero _)

theorem EndsInside.append (h : EndsInside bytes (front ++ behind)) :
    EndsInside bytes front ∨ ∃ rest, bytes = front ++ rest ∧ EndsInside rest behind := by
  obtain ⟨missing, some, whole⟩ := h
  rcases List.append_eq_append_iff.mp whole with ⟨more, rfl, rfl⟩ | ⟨rest, rfl, rfl⟩
  · by_cases none : more = []
    · subst none
      exact .inr ⟨[], by simp, behind, some, rfl⟩
    · exact .inl ⟨more, none, rfl⟩
  · exact .inr ⟨rest, rfl, missing, some, rfl⟩

end

section
variable {bytes own : List UInt8} {parts : List (List UInt8)} {kind : Kind} (offset : Nat)

theorem IsNumber.endsInside {n : Nat} (told : IsNumber n own) (h : EndsInside bytes own) :
    Cursor.number ⟨offset, bytes⟩ = .error (.noNumber offset) := by
  have short := h.length_lt
  rw [told.length_eq] at short
  unfold Cursor.number
  split
  · rename_i full
    dsimp only at full
    rw [full] at short
    simp only [List.length_cons] at short
    omega
  · rfl

theorem IsRule.endsInside {rule : String} (told : IsRule rule own) (kind : Kind) (h : EndsInside bytes own) :
    ∃ flaw : Flaw, flaw.isTruncation = true ∧ Cursor.rule ⟨offset, bytes⟩ kind = .error flaw := by
  obtain ⟨length⟩ := told
  rw [Cursor.rule]
  rcases h.append with cut | ⟨rest, rfl, cut⟩
  · rw [length.endsInside offset cut, error_bind]
    exact ⟨_, rfl, rfl⟩
  · rw [length.read, ok_bind]
    have short : (rest.take (Text.Utf8.encode rule).length).length < (Text.Utf8.encode rule).length :=
      List.length_take_le' .. |>.trans_lt cut.length_lt
    simp only [short, if_true]
    exact ⟨_, rfl, rfl⟩

variable {check : Rule → Except Fault Unit}

theorem rulesAt_endsInside {rules : List String} (told : List.Forall₂ IsRule rules parts)
    (passed : ∀ rule ∈ rules, check (kind, rule) = .ok ()) (h : EndsInside bytes parts.flatten) :
    Truncated (rulesAt check kind rules.length ⟨offset, bytes⟩) := by
  induction told generalizing offset bytes with
  | nil => simp at h
  | @cons rule own rules parts first _ ih =>
    obtain ⟨taken, later⟩ := List.forall_mem_cons.mp passed
    rw [List.length_cons, rulesAt]
    rcases h.append with cut | ⟨rest, rfl, cut⟩
    · obtain ⟨flaw, truncation, refused⟩ := first.endsInside offset kind cut
      exact ⟨flaw, truncation, by rw [refused]; rfl⟩
    · obtain ⟨flaw, truncation, refused⟩ := ih (offset + own.length) later cut
      refine ⟨flaw, truncation, ?_⟩
      rw [first.read]
      simp only [Except.mapError, ok_bind, taken, refused, error_bind]

theorem sections_endsInside {rules : Kind → List String} (passed : ∀ kind, ∀ rule ∈ rules kind, check (kind, rule) = .ok ())
    {kinds : List Kind} (told : List.Forall₂ (fun kind part => IsSection (rules kind) part) kinds parts)
    (h : EndsInside bytes parts.flatten) : Truncated (sections check kinds ⟨offset, bytes⟩) := by
  induction told generalizing offset bytes with
  | nil => simp at h
  | @cons kind own kinds parts first _ ih =>
    obtain @⟨number, payloads, count, held⟩ := first
    rw [List.flatten_cons, List.append_assoc] at h
    rw [sections]
    rcases h.append with cut | ⟨counted, rfl, cut⟩
    · exact ⟨_, rfl, by rw [count.endsInside offset cut]; rfl⟩
    · rw [count.read]
      simp only [Except.mapError, ok_bind]
      rcases cut.append with inside | ⟨rest, rfl, inside⟩
      · obtain ⟨flaw, truncation, refused⟩ := rulesAt_endsInside (offset + 4) held (passed kind) inside
        exact ⟨flaw, truncation, by rw [refused, error_bind]⟩
      · have taken : forM ((rules kind).map fun payload => (kind, payload)) check = .ok () :=
          forM_eq_ok.mpr (List.forall_mem_map.mpr (passed kind))
        obtain ⟨flaw, truncation, refused⟩ := ih (offset + 4 + payloads.flatten.length) inside
        refine ⟨flaw, truncation, ?_⟩
        rw [rulesAt_parts held, taken, map_ok, ok_bind]
        simp only [refused, error_bind]

variable {rules : Kind → List String} {whole : List UInt8}

theorem IsSnapshot.reading_endsInside (told : IsSnapshot rules whole)
    (passed : ∀ kind, ∀ rule ∈ rules kind, check (kind, rule) = .ok ()) (h : EndsInside bytes whole) :
    Truncated (Snapshot.reading check bytes) := by
  obtain ⟨held⟩ := told
  rw [Snapshot.reading]
  rcases h.append with cut | ⟨rest, rfl, cut⟩
  · have short : body bytes = .error .noHeader := if_pos cut.length_lt
    exact ⟨_, rfl, by rw [short]; rfl⟩
  · obtain ⟨flaw, truncation, refused⟩ := sections_endsInside header.length passed held cut
    refine ⟨flaw, truncation, ?_⟩
    rw [body_header]
    simp only [Except.mapError, ok_bind, refused, error_bind]

theorem IsSnapshot.reading_append (told : IsSnapshot rules whole)
    (passed : ∀ kind, ∀ rule ∈ rules kind, check (kind, rule) = .ok ()) {extra : List UInt8} (some : extra ≠ []) :
    Snapshot.reading check (whole ++ extra) = .error (.badSnapshot (.trailing extra.length)) := by
  obtain ⟨held⟩ := told
  have taken : forM (Kind.all.flatMap fun kind => (rules kind).map fun payload => (kind, payload)) check = .ok () :=
    forM_eq_ok.mpr fun rule mem => passed rule.1 rule.2 (Rule.mem_listing.mp mem)
  rw [Snapshot.reading, List.append_assoc, body_header]
  simp only [Except.mapError, ok_bind, sections_parts held, taken, map_ok]
  exact if_pos some

end

/-- The rules of a set are taken by every index but the recursive trie, as long as its patterns compile. -/
theorem check_of_compiled [Regex.Host] {set : RuleSet}
    (compiled : ∀ rule ∈ set.rules .regexp, ∃ pattern, Regex.Pattern.compile rule = .ok pattern) {options : Options}
    (flat : options.suffix ≠ .trieRecursive) (kind : Kind) (rule : String) (mem : rule ∈ set.rules kind) :
    Rule.check options (kind, rule) = .ok () := by
  cases kind with
  | domain => rfl
  | suffix => exact Kind.check_suffix_eq_ok.mpr fun recursive => absurd recursive flat
  | keyword => rfl
  | regexp => exact Kind.check_regexp_eq_ok.mpr (compiled rule mem)

/-- A snapshot that lost its end is refused as cut short, and one that got more bytes is refused by their number. The
patterns of a set that collectors have frozen all compile. -/
theorem damage_detected [Regex.Host] (set : RuleSet) (fits : Fits set)
    (compiled : ∀ rule ∈ set.rules .regexp, ∃ pattern, Regex.Pattern.compile rule = .ok pattern) (options : Options)
    (flat : options.suffix ≠ .trieRecursive) :
    ∃ whole, encode set = .ok whole ∧
    (∀ bytes, bytes <+: whole → bytes ≠ whole →
      ∃ flaw : Flaw, flaw.isTruncation = true ∧ decode bytes options = .error (.badSnapshot flaw)) ∧
    ∀ extra, extra ≠ [] → decode (whole ++ extra) options = .error (.badSnapshot (.trailing extra.length)) := by
  obtain ⟨whole, saved⟩ := exists_encode.mpr fits
  have told : IsSnapshot set.rules whole := encode_eq_ok.mp saved
  have passed := check_of_compiled compiled flat
  refine ⟨whole, saved, fun bytes front differ => ?_, fun extra some => ?_⟩
  · obtain ⟨flaw, truncation, refused⟩ := told.reading_endsInside passed (endsInside_iff.mpr ⟨front, differ⟩)
    exact ⟨flaw, truncation, ((decode_agree bytes options).error_iff _).mpr refused⟩
  · exact ((decode_agree _ options).error_iff _).mpr (told.reading_append passed some)

/-- A set of a pattern and a name of one character in two bytes, cut inside the character and prolonged by a byte. -/
theorem damage_detected_inside_character :
    let bytes : List UInt8 := header ++ [0, 0, 0, 1, 0, 0, 0, 2, 0xC3]
    ∃ (set : RuleSet) (whole : List UInt8), set.rules .domain = ["é"] ∧ set.rules .regexp = ["a+"] ∧ Fits set ∧
      (∀ rule ∈ set.rules .regexp, ∃ pattern, Regex.Pattern.compile rule = .ok pattern) ∧
      Options.linear.suffix ≠ .trieRecursive ∧ encode set = .ok whole ∧ bytes <+: whole ∧ bytes ≠ whole ∧
      (∃ flaw : Flaw, flaw.isTruncation = true ∧ decode bytes .linear = .error (.badSnapshot flaw)) ∧
      decode (whole ++ [0]) .linear = .error (.badSnapshot (.trailing 1)) := by
  intro bytes
  obtain ⟨pattern, compiles⟩ := exists_of_isOk (x := Regex.Pattern.compile "a+") (by decide +kernel)
  let set : RuleSet := ⟨[.patternList [pattern], .domainList ["é"]]⟩
  have listed : ∀ kind, set.rules kind = match kind with
      | .domain => ["é"]
      | .regexp => ["a+"]
      | _ => [] := fun kind => by
    cases kind with
    | domain => rfl
    | suffix => rfl
    | keyword => rfl
    | regexp =>
      have source := Regex.Pattern.source_of_compile compiles
      simp [set, RuleSet.rules, RuleSet.ofKind, Matcher.kind, Matcher.rules, source]
  have fits : Fits set := by
    constructor
    · intro kind
      rw [listed]
      cases kind <;> decide
    · intro kind
      rw [listed]
      cases kind <;> decide
  have compiled : ∀ rule ∈ set.rules .regexp, ∃ pattern, Regex.Pattern.compile rule = .ok pattern := by
    rw [listed]
    exact List.forall_mem_singleton.mpr ⟨pattern, compiles⟩
  obtain ⟨whole, saved, cut, prolonged⟩ := damage_detected set fits compiled .linear (by decide)
  have encoded : encode set = .ok (bytes ++ [0xA9, 0, 0, 0, 0, 0, 0, 0, 0, 0, 0, 0, 1, 0, 0, 0, 2, 0x61, 0x2B]) := by
    rw [encode, funext listed]
    decide
  have made : whole = bytes ++ _ := Except.ok.inj (saved.symm.trans encoded)
  have front : bytes <+: whole := made ▸ List.prefix_append ..
  have differ : bytes ≠ whole := by
    rw [made]
    decide
  exact ⟨set, whole, listed .domain, listed .regexp, fits, compiled, by decide, saved, front, differ, cut bytes front differ,
    prolonged [0] (by decide)⟩

end DomainRules.Snapshot
