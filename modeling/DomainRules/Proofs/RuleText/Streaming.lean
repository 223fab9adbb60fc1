import DomainRules.Proofs.RuleText.Hinting
import DomainRules.Proofs.RuleText.Lines
import DomainRules.RuleFile

/-! Reading a text line by line. Lines that are decoded when they are reached build what the whole text builds; a line that
cannot be decoded is met unless a line before it ends the reading. -/

namespace DomainRules.RuleText

section
variable {α β : Type} (readable : β → Except Fault String) (f : α → β)

theorem Progress.readAll_map [Regex.Host] (progress : Progress) (raw : List α) :
    progress.readAll readable (raw.map f) = progress.readAll (readable ∘ f) raw := by
  induction raw generalizing progress with
  | nil => rfl
  | cons first others ih =>
    rw [List.map_cons, readAll, readAll, Function.comp_apply]
    cases readable (f first) with
    | error fault => rfl
    | ok line =>
      dsimp only
      obtain ⟨later, _ | fault⟩ := progress.read line
      · exact ih later
      · rfl

theorem takeHint_map (raw : List α) :
    takeHint readable (raw.map f) = Prod.map id (List.map f) <$> takeHint (readable ∘ f) raw := by
  induction raw with
  | nil => rfl
  | cons first others ih =>
    rw [List.map_cons, takeHint, takeHint, Function.comp_apply, map_bind]
    refine bind_congr fun line => ?_
    split
    · exact ih
    · cases CapacityHint.parse line with
      | error flaw => rfl
      | ok found => cases found <;> rfl

/-- It does not matter whether lines are changed before they are read or as they are read. -/
theorem attempt_map [Regex.Host] (raw : List α) (useHint : Bool) (options : Options) :
    attempt readable (raw.map f) useHint options = attempt (readable ∘ f) raw useHint options := by
  have opened : opening readable (raw.map f) useHint = Prod.map id (List.map f) <$> opening (readable ∘ f) raw useHint := by
    cases useHint with
    | false => rfl
    | true => exact takeHint_map readable f raw
  rw [attempt_eq, attempt_eq, opened, bind_map_left]
  exact bind_congr fun (hint, rest) => congrArg Except.ok (Progress.readAll_map readable f _ rest)

end

section
variable {α : Type} {check : Rule → Except Fault Unit} {readable : α → Except Fault String}

theorem rulesOf_append (good behind : List α) :
    rulesOf check readable (good ++ behind) = rulesOf check readable good >>= fun rules =>
      (rules ++ ·) <$> rulesOf check readable behind := by
  induction good with
  | nil => simp [rulesOf]
  | cons raw good ih =>
    simp only [List.cons_append, rulesOf, ih, bind_assoc]
    refine bind_congr fun line => bind_congr fun rule => bind_congr fun rules => ?_
    simp

theorem Opens.append {line : String} {good : List α} (h : Opens readable line good) (behind : List α) :
    Opens readable line (good ++ behind) := by
  induction h with
  | here read filled => exact .here read filled
  | behind read _ ih => exact .behind read ih

/-- Lines are opened by one of the first of them, or the first ones are all empty. -/
theorem Opens.of_append (check : Rule → Except Fault Unit) {line : String} {good behind : List α}
    (h : Opens readable line (good ++ behind)) :
    Opens readable line good ∨ Opens readable line behind ∧ rulesOf check readable good = .ok [] := by
  induction good with
  | nil => exact .inr ⟨h, rfl⟩
  | cons raw good ih =>
    cases h with
    | here read filled => exact .inl (.here read filled)
    | behind read h =>
      rw [rulesOf_cons_of_none read (by simp [ruleOf])]
      exact (ih h).imp_left (.behind read)

/-- A line that cannot be read is the fault, or the lines before it end in a fault whatever is behind them. -/
theorem reading_unreadable (check : Rule → Except Fault Unit) (readable : α → Except Fault String) {bad : α} {fault : Fault}
    (unreadable : readable bad = .error fault) (good rest : List α) (useHint : Bool) :
    reading check readable (good ++ bad :: rest) useHint = .error fault ∨
      ∃ early, ∀ behind, reading check readable (good ++ behind) useHint = .error early := by
  by_cases malformed : useHint = true ∧ ∃ line flaw, Opens readable line good ∧ CapacityHint.parse line = .error flaw
  · obtain ⟨rfl, line, flaw, opens, refused⟩ := malformed
    exact .inr ⟨_, fun behind => reading_eq_malformedHint (opens.append behind) refused⟩
  · push Not at malformed
    cases taken : rulesOf check readable good with
    | ok rules =>
      have stopped : rulesOf check readable (good ++ bad :: rest) = .error fault := by
        simp [rulesOf_append, taken, rulesOf, unreadable]
      refine .inl (reading_eq_error (fun hinted line flaw opens => ?_) stopped)
      -- A line that cannot be read opens nothing, so a line that is taken for a hint is one of those before it.
      rcases opens.of_append check with opens | ⟨opens, -⟩
      · exact malformed hinted line flaw opens
      · cases opens <;> simp_all
    | error early =>
      have stopped (behind : List α) : rulesOf check readable (good ++ behind) = .error early := by
        simp [rulesOf_append, taken]
      refine .inr ⟨early, fun behind => reading_eq_error (fun hinted line flaw opens => ?_) (stopped behind)⟩
      rcases opens.of_append check with opens | ⟨-, bare⟩
      · exact malformed hinted line flaw opens
      · rw [taken] at bare
        contradiction

end

theorem decode_eq_ok {bytes : List UInt8} {text : String} : decode bytes = .ok text ↔ Text.Utf8.encode text = bytes := by
  rw [decode, mapError_eq_ok, Text.Utf8.decode_eq_ok]

theorem decode_eq_error {bytes : List UInt8} {fault : Fault} (h : decode bytes = .error fault) :
    ∃ cause, fault = .undecodable cause := by
  rw [decode] at h
  cases decoded : Text.Utf8.decode bytes with
  | ok text => simp [decoded, Except.mapError] at h
  | error cause =>
    rw [decoded] at h
    exact ⟨cause, (Except.error.inj h).symm⟩

theorem byteLines_encode (text : String) :
    RuleFile.byteLines (Text.Utf8.encode text) = (terminatedLines text).map Text.Utf8.encode := by
  simp [RuleFile.byteLines, Text.Utf8.encode, cutAfter_encode, terminatedLines]

theorem parse_terminatedLines [Regex.Host] (text : String) (useHint : Bool) (options : Options) :
    parse (.lines (terminatedLines text)) useHint options = parse (.text text) useHint options := by
  rw [parse, parse, Source.attempt, Source.attempt, lines_eq, attempt_map]
  rfl

theorem parse_byteLines_encode [Regex.Host] (text : String) (useHint : Bool) (options : Options) :
    parse (.byteLines (RuleFile.byteLines (Text.Utf8.encode text))) useHint options = parse (.text text) useHint options := by
  rw [← parse_terminatedLines, parse, parse, Source.attempt, Source.attempt, byteLines_encode, attempt_map]
  simp only [Function.comp_def, decode_eq_ok.mpr rfl, map_ok]

theorem parse_bytes_encode [Regex.Host] (text : String) (useHint : Bool) (options : Options) :
    parse (.bytes (Text.Utf8.encode text)) useHint options = parse (.text text) useHint options := by
  rw [parse, parse, Source.attempt, Source.attempt, decode_eq_ok.mpr rfl, ok_bind]

/-- Bytes that encode no text have a first line that encodes none. -/
theorem exists_undecodable_line {bytes : List UInt8} (h : ∀ text, Text.Utf8.encode text ≠ bytes) :
    ∃ good bad rest fault, RuleFile.byteLines bytes = good ++ bad :: rest ∧
      (∀ line ∈ good, ∃ text, Text.Utf8.encode text = line) ∧ decode bad = .error (.undecodable fault) := by
  cases decoded : RuleFile.decodedLines bytes with
  | ok texts =>
    have pieces : RuleFile.byteLines bytes = texts.map Text.Utf8.encode := by
      rw [← List.forall₂_eq_eq_eq, List.forall₂_map_right_iff]
      exact (mapM_eq_ok.mp decoded).imp fun line text read => (decode_eq_ok.mp read).symm
    have whole : Text.Utf8.encode (String.ofList (texts.flatMap String.toList)) = bytes := by
      rw [Text.Utf8.encode_flatMap, List.flatMap_def, ← pieces, RuleFile.byteLines, flatten_cutAfter]
    exact absurd whole (h _)
  | error fault =>
    obtain ⟨good, bad, rest, split, read, failed⟩ := mapM_eq_error decoded
    obtain ⟨cause, rfl⟩ := decode_eq_error failed
    exact ⟨good, bad, rest, cause, split, fun line mem => (read line mem).imp fun text => decode_eq_ok.mp, failed⟩

/-- A text and its lines read alike, and so do a file that encodes a text and its lines of bytes. A file that encodes none
is refused: as a whole, and by its lines at the first that encodes none or before it. -/
theorem streaming_agrees [Regex.Host] (useHint : Bool) (options : Options) :
    (∀ text, parse (.lines (terminatedLines text)) useHint options = parse (.text text) useHint options) ∧
    (∀ text, RuleFile.load (Text.Utf8.encode text) .byLine useHint options =
      RuleFile.load (Text.Utf8.encode text) .whole useHint options) ∧
    ∀ bytes, (∀ text, Text.Utf8.encode text ≠ bytes) →
      (∃ fault, RuleFile.load bytes .whole useHint options = .error (.undecodable fault)) ∧
      ∃ good bad rest fault, RuleFile.byteLines bytes = good ++ bad :: rest ∧
        (∀ line ∈ good, ∃ text, Text.Utf8.encode text = line) ∧ decode bad = .error (.undecodable fault) ∧
        (RuleFile.load bytes .byLine useHint options = .error (.undecodable fault) ∨
          ∃ early, RuleFile.load bytes .byLine useHint options = .error early ∧
            ∀ behind, build (.byteLines (good ++ behind)) useHint options = .error early) := by
  refine ⟨fun text => parse_terminatedLines text useHint options, fun text => ?_, fun bytes undecodable => ⟨?_, ?_⟩⟩
  · rw [RuleFile.load, RuleFile.load, build, build, RuleFile.source, RuleFile.source, parse_byteLines_encode,
      parse_bytes_encode]
  · cases decoded : decode bytes with
    | ok text => exact absurd (decode_eq_ok.mp decoded) (undecodable text)
    | error fault =>
      obtain ⟨cause, rfl⟩ := decode_eq_error decoded
      exact ⟨cause, by rw [RuleFile.load, RuleFile.source, build_eq, Source.reading, decoded, error_bind, error_bind]⟩
  · obtain ⟨good, bad, rest, fault, split, read, failed⟩ := exists_undecodable_line undecodable
    refine ⟨good, bad, rest, fault, split, read, failed, ?_⟩
    simp only [RuleFile.load, RuleFile.source, split, build_eq, Source.reading]
    have unreadable : withoutTerminator <$> decode bad = .error (.undecodable fault) := by rw [failed, map_error]
    rcases reading_unreadable (Rule.check options) (fun line => withoutTerminator <$> decode line) unreadable good rest
      useHint with stopped | ⟨early, stopped⟩
    · exact .inl (by rw [stopped, error_bind])
    · exact .inr ⟨early, by rw [stopped, error_bind], fun behind => by rw [stopped, error_bind]⟩

/-- Lines that end in all ways, and a file that ends inside a character. -/
theorem streaming_agrees_cut_short :
    let text := "keyword:é\r\r\n\r\nsuffix:b\r"
    let bytes := Text.Utf8.encode "keyword:é\n" ++ [0xC3]
    parse (.lines ["keyword:é\r\r\n", "\r\n", "suffix:b\r"]) true {} = parse (.text text) true {} ∧
    RuleFile.load (Text.Utf8.encode text) .byLine true {} = RuleFile.load (Text.Utf8.encode text) .whole true {} ∧
    (∀ text, Text.Utf8.encode text ≠ bytes) ∧
    (∃ fault, RuleFile.load bytes .whole true {} = .error (.undecodable fault)) ∧
    ∃ fault, RuleFile.load bytes .byLine true {} = .error fault := by
  intro text bytes
  have cuts : terminatedLines text = ["keyword:é\r\r\n", "\r\n", "suffix:b\r"] := by decide +kernel
  have undecodable : ∀ text, Text.Utf8.encode text ≠ bytes := fun text same => by
    have refused : (Text.Utf8.decode bytes).isOk = false := by decide +kernel
    rw [Text.Utf8.decode_eq_ok.mpr same] at refused
    contradiction
  obtain ⟨alike, loaded, refused⟩ := streaming_agrees true {}
  obtain ⟨whole, good, bad, rest, fault, -, -, -, byLine⟩ := refused bytes undecodable
  refine ⟨cuts ▸ alike text, loaded text, undecodable, whole, ?_⟩
  rcases byLine with stopped | ⟨early, stopped, -⟩
  · exact ⟨_, stopped⟩
  · exact ⟨early, stopped⟩

end DomainRules.RuleText
