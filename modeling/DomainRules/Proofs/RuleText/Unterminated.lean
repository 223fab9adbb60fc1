import DomainRules.Proofs.RuleText.Grammar
import Mathlib.Data.Finset.Max

/-! Lines that come without their terminators. A line loses a carriage return that it ends in, as if that were left of a
terminator, and so a payload may lose its last character. -/

namespace DomainRules

def EndsInReturn (value : String) : Prop := value.toList.getLast? = some '\r'

instance (value : String) : Decidable (EndsInReturn value) := inferInstanceAs (Decidable (_ = _))

/-- How many carriage returns a value ends in. -/
def returns (value : String) : Nat := (value.toList.reverse.takeWhile (· = '\r')).length

namespace RuleText

/-- A line without the carriage return at its end. -/
def shed (line : String) : String := .ofList (dropReturn line.toList)

/-- The text that has a line feed behind each of the lines. -/
def refed (lines : List String) : String := .ofList (lines.flatMap fun line => line.toList ++ ['\n'])

/-- A line that reads differently without the carriage return at its end: one that is no comment, or that has the marker
where a hint is looked for. -/
def Spoiled (useHint : Bool) (lines : List String) (line : String) : Prop :=
  EndsInReturn line ∧
    (isComment line = false ∨ useHint = true ∧ Opens .ok line lines ∧ CapacityHint.marker.toList <+: line.toList)

theorem dropReturn_concat (line : List Char) (c : Char) :
    dropReturn (line ++ [c]) = if c = '\r' then line else line ++ [c] := by
  simp [dropReturn, dropMark]

theorem dropReturn_eq_self_iff {line : List Char} : dropReturn line = line ↔ line.getLast? ≠ some '\r' := by
  rcases List.eq_nil_or_concat line with rfl | ⟨init, last, rfl⟩
  · simp [dropReturn, dropMark]
  · rw [List.concat_eq_append, dropReturn_concat]
    by_cases same : last = '\r' <;> simp [same]

theorem dropReturn_append {mark : Char} (h : mark ≠ '\r') (front back : List Char) :
    dropReturn (front ++ mark :: back) = front ++ mark :: dropReturn back := by
  rcases List.eq_nil_or_concat back with rfl | ⟨init, last, rfl⟩
  · simp [dropReturn, dropMark, h]
  · have whole : front ++ mark :: init.concat last = (front ++ mark :: init) ++ [last] := by simp
    rw [whole, dropReturn_concat, List.concat_eq_append, dropReturn_concat]
    split <;> simp

theorem shed_eq_self_iff {line : String} : shed line = line ↔ ¬EndsInReturn line := by
  rw [shed, ← String.toList_inj, String.toList_ofList, dropReturn_eq_self_iff, EndsInReturn]

theorem shed_tag (kind : Kind) (payload : String) : shed (kind.tag ++ payload) = kind.tag ++ shed payload := by
  have whole : (kind.tag ++ payload).toList = kind.name.toList ++ ':' :: payload.toList := by simp [Kind.tag]
  rw [shed, whole, dropReturn_append (by decide), ← String.toList_inj]
  simp [shed, Kind.tag]

theorem endsInReturn_tag {kind : Kind} {payload : String} : EndsInReturn (kind.tag ++ payload) ↔ EndsInReturn payload := by
  rw [← not_iff_not, ← shed_eq_self_iff, ← shed_eq_self_iff, shed_tag]
  simp [← String.toList_inj]

theorem shed_comment (comment : String) : shed ("#" ++ comment) = "#" ++ shed comment := by
  have whole : ("#" ++ comment).toList = [] ++ '#' :: comment.toList := by simp
  rw [shed, whole, dropReturn_append (by decide), ← String.toList_inj]
  simp [shed]

theorem isSkipped_shed {line : String} (h : IsSkipped line) : IsSkipped (shed line) := by
  rcases h with rfl | ⟨comment, rfl⟩
  · exact .inl rfl
  · exact .inr ⟨shed comment, shed_comment comment⟩

theorem Lists.shed {lines : List String} {rules : List Rule} (h : Lists lines rules) :
    Lists (lines.map shed) (rules.map fun rule => (rule.1, RuleText.shed rule.2)) := by
  induction h with
  | nil => exact .nil
  | skip skipped _ ih => exact .skip (isSkipped_shed skipped) ih
  | rule kind payload _ ih =>
    rw [List.map_cons, shed_tag]
    exact .rule kind (RuleText.shed payload) ih

theorem Lists.mem {lines : List String} {rules : List Rule} (h : Lists lines rules) {line : String} (mem : line ∈ lines) :
    IsSkipped line ∨ ∃ kind payload, (kind, payload) ∈ rules ∧ line = Kind.tag kind ++ payload := by
  induction h with
  | nil => simp at mem
  | skip skipped _ ih =>
    rcases List.mem_cons.mp mem with rfl | mem
    · exact .inl skipped
    · exact ih mem
  | rule kind payload _ ih =>
    rcases List.mem_cons.mp mem with rfl | mem
    · exact .inr ⟨kind, payload, by simp, rfl⟩
    · exact (ih mem).imp_right fun ⟨other, value, held, same⟩ => ⟨other, value, by simp [held], same⟩

theorem lineFeed_not_mem_of_cut {text : List Char} {found : List String} (cut : Cut text found) :
    ∀ line ∈ found, '\n' ∉ line.toList := by
  have shorter {run : List Char} (whole : '\n' ∉ run) : '\n' ∉ (String.ofList (dropReturn run)).toList := fun mem =>
    whole ((prefix_dropMark _ run).subset (by simpa [dropReturn] using mem))
  induction cut with
  | nil => simp
  | last _ whole => simpa using shorter whole
  | feed whole _ ih => exact List.forall_mem_cons.mpr ⟨shorter whole, ih⟩

theorem lines_refed {given : List String} (bare : ∀ line ∈ given, '\n' ∉ line.toList) :
    lines (refed given) = given.map shed := by
  apply Eq.symm
  rw [← cut_iff, refed, String.toList_ofList]
  induction given with
  | nil => exact .nil
  | cons line given ih =>
    obtain ⟨whole, others⟩ := List.forall_mem_cons.mp bare
    simpa [shed] using Cut.feed whole (ih others)

theorem withoutTerminator_of_not_mem {line : String} (bare : '\n' ∉ line.toList) : withoutTerminator line = shed line := by
  rw [withoutTerminator, dropTerminator, dropMark, if_neg fun last => bare (List.mem_of_getLast? last), shed]

/-- Lines without terminators are read as if they were terminated anew. -/
theorem parse_refed [Regex.Host] {given : List String} (bare : ∀ line ∈ given, '\n' ∉ line.toList) (useHint : Bool)
    (options : Options) :
    parse (.lines given) useHint options = parse (.text (refed given)) useHint options := by
  have stripped : given.map withoutTerminator = given.map shed :=
    List.map_congr_left fun line mem => withoutTerminator_of_not_mem (bare line mem)
  rw [parse, parse, Source.attempt, Source.attempt, lines_refed bare, ← stripped, attempt_map]
  rfl

theorem parse_eq [Regex.Host] (source : Source) (useHint : Bool) (options : Options) :
    parse source useHint options =
      source.reading (Rule.check options) useHint >>= fun found => (Builder.new options found.1).insertAll found.2 := by
  rw [← bind_pure (parse source useHint options)]
  exact (parse_agree source useHint options).bind_eq fun _ _ holds => holds.inserted.symm

section
variable {check : Rule → Except Fault Unit} {lines : List String} {useHint : Bool}

theorem isComment_shed {line : String} (h : isComment line = true) : isComment (shed line) = true := by
  obtain ⟨comment, rfl⟩ := isComment_iff.mp h
  exact isComment_iff.mpr ⟨shed comment, shed_comment comment⟩

theorem ruleOf_shed {line : String} (kept : EndsInReturn line → isComment line = true) :
    ruleOf check (shed line) = ruleOf check line := by
  by_cases returned : EndsInReturn line
  · simp [ruleOf, kept returned, isComment_shed (kept returned)]
  · rw [shed_eq_self_iff.mpr returned]

theorem rulesOf_shed (kept : ∀ line ∈ lines, EndsInReturn line → isComment line = true) :
    rulesOf check .ok (lines.map shed) = rulesOf check .ok lines := by
  induction lines with
  | nil => rfl
  | cons line lines ih =>
    obtain ⟨first, others⟩ := List.forall_mem_cons.mp kept
    rw [List.map_cons, rulesOf_cons, rulesOf_cons, ruleOf_shed first, ih others]

/-- What a line says in the place of a hint. -/
def hintIn (line : String) : Except Fault CapacityHint :=
  match CapacityHint.parse line with
  | .error flaw => .error (.malformedHint line flaw)
  | .ok found => .ok (found.getD .unknown)

theorem hintIn_of_unmarked {line : String} (unmarked : ¬CapacityHint.marker.toList <+: line.toList) :
    hintIn line = .ok .unknown := by
  rw [hintIn, CapacityHint.parse_of_unmarked unmarked]
  rfl

theorem fst_takeHint_cons {line : String} (filled : line ≠ "") (behind : List String) :
    Prod.fst <$> takeHint .ok (line :: behind) = hintIn line := by
  rw [takeHint, ok_bind, if_neg (by simpa [String.isEmpty_iff] using filled), hintIn]
  cases CapacityHint.parse line with
  | error flaw => rfl
  | ok found => cases found <;> rfl

theorem map_shed_of_blank {blank : List String} (h : ∀ line ∈ blank, line = "") : blank.map shed = blank := by
  refine (List.map_congr_left fun line mem => ?_).trans (List.map_id blank)
  rw [h line mem]
  rfl

theorem hintIn_shed {line : String} (unmarked : ¬CapacityHint.marker.toList <+: line.toList) :
    hintIn (shed line) = hintIn line := by
  have still : ¬CapacityHint.marker.toList <+: (shed line).toList := fun marked =>
    unmarked (marked.trans (by simpa [shed, dropReturn] using prefix_dropMark _ line.toList))
  rw [hintIn_of_unmarked still, hintIn_of_unmarked unmarked]

theorem takeHint_shed (sound : ∀ line ∈ lines, ¬Spoiled true lines line) :
    Prod.fst <$> takeHint .ok (lines.map shed) = Prod.fst <$> takeHint .ok lines := by
  rcases blank_or_opens lines with blank | ⟨blank, line, behind, rfl, bare, filled⟩
  · rw [map_shed_of_blank blank]
  · rw [List.map_append, map_shed_of_blank bare, takeHint_blank bare, takeHint_blank bare, List.map_cons,
      fst_takeHint_cons filled]
    by_cases returned : EndsInReturn line
    · have unspoiled := sound line (by simp)
      simp only [Spoiled, returned, Opens.append_blank filled bare behind, true_and, not_or, Bool.not_eq_false] at unspoiled
      obtain ⟨comment, unmarked⟩ := unspoiled
      have still : shed line ≠ "" := fun none => by
        have told := isComment_shed comment
        rw [none] at told
        contradiction
      rw [fst_takeHint_cons still, hintIn_shed unmarked]
    · rw [shed_eq_self_iff.mpr returned, fst_takeHint_cons filled]

theorem reading_congr {others : List String} (opened : Prod.fst <$> opening .ok lines useHint = Prod.fst <$> opening .ok others useHint)
    (taken : rulesOf check .ok lines = rulesOf check .ok others) :
    reading check .ok lines useHint = reading check .ok others useHint := by
  have parts (raw : List String) : reading check .ok raw useHint = (Prod.fst <$> opening .ok raw useHint) >>= fun hint =>
      rulesOf check .ok raw >>= fun rules => (hint, ·) <$> required rules := by
    rw [reading, bind_map_left]
    simp only [map_eq_pure_bind]
  rw [parts, parts, opened, taken]

theorem reading_shed (sound : ∀ line ∈ lines, ¬Spoiled useHint lines line) :
    reading check .ok (lines.map shed) useHint = reading check .ok lines useHint := by
  refine reading_congr ?_ (rulesOf_shed fun line mem returned => ?_)
  · cases useHint with
    | false => rfl
    | true => exact takeHint_shed sound
  · by_contra rule
    exact sound line mem ⟨returned, .inl (Bool.eq_false_of_not_eq_true rule)⟩

end

theorem not_endsInReturn_of_gives {hint : CapacityHint} {line : String} (h : CapacityHint.Gives hint line) :
    ¬EndsInReturn line := by
  cases h with
  | @mk fields told =>
    have ended (front : String) : ¬EndsInReturn (front ++ CapacityHint.trailer) := by
      simp [EndsInReturn, CapacityHint.trailer]
    rw [String.intercalate_append_of_ne_nil (by simp [Kind.all]) (by simp), String.intercalate_singleton,
      ← String.append_assoc]
    exact ended _

end RuleText

theorem EndsInReturn.eq {value : String} (h : EndsInReturn value) : value = RuleText.shed value ++ "\r" := by
  obtain ⟨init, whole⟩ := List.getLast?_eq_some_iff.mp h
  rw [← String.toList_inj, RuleText.shed, whole, RuleText.dropReturn_concat]
  simp

theorem returns_append (value : String) : returns (value ++ "\r") = returns value + 1 := by
  simp [returns]

theorem returns_shed {value : String} (h : EndsInReturn value) : returns value = returns (RuleText.shed value) + 1 := by
  rw [← returns_append, ← h.eq]

theorem endsInReturn_iff {value : String} : EndsInReturn value ↔ 0 < returns value := by
  rw [EndsInReturn, returns, ← List.head?_reverse]
  cases value.toList.reverse with
  | nil => simp
  | cons last others => by_cases same : last = '\r' <;> simp [same]

theorem takeWhile_append_cons {α : Type} {p : α → Bool} {stop : α} (h : p stop = false) (front behind : List α) :
    (front ++ stop :: behind).takeWhile p = front.takeWhile p := by
  induction front with
  | nil => simp [h]
  | cons item front ih => simp [List.takeWhile_cons, ih]

theorem returns_of_covers {suffix name : String} (h : Name.Covers suffix name) : returns suffix = returns name := by
  rcases h with rfl | ⟨front, rfl⟩
  · rfl
  · simp [returns, takeWhile_append_cons]

/-- Among the rules that an index lists for values there is one that ends as a value does. -/
theorem Kind.exists_listed (options : Options) {values : List String} (kind : Kind) {value : String} (mem : value ∈ values) :
    ∃ rule ∈ kind.listed options values, returns rule = returns value := by
  have covering := (kind.listed_iff options values value).mpr
  cases kind with
  | domain =>
    obtain ⟨rule, held, rfl⟩ := covering ⟨value, mem, rfl⟩
    exact ⟨_, held, rfl⟩
  | suffix =>
    obtain ⟨rule, held, covers⟩ := covering ⟨value, mem, .inl rfl⟩
    exact ⟨rule, held, returns_of_covers covers⟩
  | keyword | regexp => exact ⟨value, mem, rfl⟩

/-- If an index lists the same rules although values have lost their carriage returns, none of them had one to lose. -/
theorem Kind.not_endsInReturn_of_listed {options : Options} {values : List String} {kind : Kind}
    (same : kind.listed options (values.map RuleText.shed) = kind.listed options values) :
    ∀ value ∈ values, ¬EndsInReturn value := by
  intro value mem returned
  -- A value with the longest run of returns at its end is what another one has become, whose run was longer.
  obtain ⟨most, held, greatest⟩ := values.toFinset.exists_max_image returns ⟨value, by simpa using mem⟩
  simp only [List.mem_toFinset] at held greatest
  obtain ⟨rule, listed, alike⟩ := kind.exists_listed options held
  rw [← same] at listed
  obtain ⟨source, among, rfl⟩ := List.mem_map.mp (kind.listed_subset options _ listed)
  have some : 0 < returns value := endsInReturn_iff.mp returned
  have least := greatest value mem
  by_cases lost : EndsInReturn source
  · have longer := returns_shed lost
    have bound := greatest source among
    omega
  · have none : ¬0 < returns source := endsInReturn_iff.not.mp lost
    rw [RuleText.shed_eq_self_iff.mpr lost] at alike
    omega

theorem payloads_map_snd (f : String → String) (kind : Kind) (rules : List Rule) :
    payloads kind (rules.map fun rule => (rule.1, f rule.2)) = (payloads kind rules).map f := by
  simp [payloads, List.filter_map, Function.comp_def]

namespace RuleText

section
variable {text : String} {useHint : Bool} {options : Options}

theorem lineFeed_not_mem_of_mem_lines (text : String) : ∀ line ∈ lines text, '\n' ∉ line.toList :=
  lineFeed_not_mem_of_cut (cut_iff.mpr rfl)

theorem parse_lines_of_unspoiled [Regex.Host] (sound : ∀ line ∈ lines text, ¬Spoiled useHint (lines text) line)
    (options : Options) :
    parse (.lines (lines text)) useHint options = parse (.text text) useHint options := by
  have bare := lineFeed_not_mem_of_mem_lines text
  rw [parse_refed bare, parse_eq, parse_eq, Source.reading, Source.reading, lines_refed bare, reading_shed sound]

theorem lists_of_reading {check : Rule → Except Fault Unit} {found : CapacityHint × List Rule}
    (h : Source.reading check useHint (.text text) = .ok found) : Lists (lines text) found.2 :=
  lists_of_rulesOf (reading_eq_ok h)

/-- If a text builds a set, only comments and rules can end in a carriage return. -/
theorem unspoiled_of_build [Regex.Host] {set : RuleSet} (built : build (.text text) useHint options = .ok set)
    (kept : ∀ line ∈ lines text, EndsInReturn line → isComment line = true) :
    ∀ line ∈ lines text, ¬Spoiled useHint (lines text) line := by
  rintro line mem ⟨returned, rule | ⟨hinted, opens, marked⟩⟩
  · rw [kept line mem returned] at rule
    contradiction
  · have malformed : Malformed useHint (lines text) line :=
      ⟨hinted, opens, marked, fun hint gives => not_endsInReturn_of_gives gives returned⟩
    obtain ⟨flaw, refused⟩ : ∃ flaw, parse (.text text) useHint options = .error (.malformedHint line flaw) :=
      parse_malformed malformed
    rw [build, refused] at built
    contradiction

theorem not_endsInReturn_of_build [Regex.Host] {set other : RuleSet} (built : build (.text text) useHint options = .ok set)
    (rebuilt : build (.lines (lines text)) useHint options = .ok other) (same : ∀ kind, other.rules kind = set.rules kind) :
    ∀ line ∈ lines text, EndsInReturn line → isComment line = true := by
  have bare := lineFeed_not_mem_of_mem_lines text
  obtain ⟨found, read, represents⟩ := (built ▸ build_agree (.text text) useHint options).of_ok
  rw [build, parse_refed bare, ← build] at rebuilt
  obtain ⟨later, reread, rerepresents⟩ := (rebuilt ▸ build_agree (.text (refed (lines text))) useHint options).of_ok
  have listed := lists_of_reading read
  have relisted := lists_of_reading reread
  rw [lines_refed bare] at relisted
  intro line mem returned
  rcases listed.mem mem with (rfl | comment) | ⟨kind, payload, held, rfl⟩
  · contradiction
  · exact isComment_iff.mpr comment
  · have alike := same kind
    rw [rerepresents.rules_eq, represents.rules_eq, relisted.unique listed.shed, payloads_map_snd] at alike
    have none := Kind.not_endsInReturn_of_listed alike payload (mem_payloads.mpr held)
    exact absurd (endsInReturn_tag.mp returned) none

end

/-- The lines of a text, without their terminators, are read as if each was terminated anew, and so each loses a carriage
return that it ends in. Unless that spoils one of them, they read as the text does. If the text builds a set, they build one
with the same rules just if no line but a comment ends in a carriage return. -/
theorem unterminated_lines_lose_returns [Regex.Host] (text : String) (useHint : Bool) (options : Options) :
    parse (.lines (lines text)) useHint options = parse (.text (refed (lines text))) useHint options ∧
    ((∀ line ∈ lines text, ¬Spoiled useHint (lines text) line) →
      parse (.lines (lines text)) useHint options = parse (.text text) useHint options) ∧
    ∀ set, build (.text text) useHint options = .ok set →
      ((∃ other, build (.lines (lines text)) useHint options = .ok other ∧ ∀ kind, other.rules kind = set.rules kind) ↔
        ∀ line ∈ lines text, EndsInReturn line → isComment line = true) := by
  refine ⟨parse_refed (lineFeed_not_mem_of_mem_lines text) useHint options,
    fun sound => parse_lines_of_unspoiled sound options, fun set built => ⟨?_, fun kept => ?_⟩⟩
  · rintro ⟨other, rebuilt, same⟩
    exact not_endsInReturn_of_build built rebuilt same
  · have agree := parse_lines_of_unspoiled (unspoiled_of_build built kept) options
    exact ⟨set, by rw [build, agree, ← build, built], fun _ => rfl⟩

/-- A comment that ends in a carriage return behind a hint, and payloads that hold one elsewhere. -/
theorem unterminated_lines_lose_returns_comment :
    let text := "# domain set capacity hint 1 0 1 0 DSKR\n# a\r\r\nkeyword:a\rb\r\ndomain:\rb"
    lines text = ["# domain set capacity hint 1 0 1 0 DSKR", "# a\r", "keyword:a\rb", "domain:\rb"] ∧
    (∀ line ∈ lines text, ¬Spoiled true (lines text) line) ∧
    parse (.lines (lines text)) true {} = parse (.text text) true {} ∧
    ∃ set, build (.text text) true {} = .ok set ∧
      ∃ other, build (.lines (lines text)) true {} = .ok other ∧ ∀ kind, other.rules kind = set.rules kind := by
  intro text
  have split : lines text = ["# domain set capacity hint 1 0 1 0 DSKR", "# a\r", "keyword:a\rb", "domain:\rb"] := by
    decide +kernel
  have kept : ∀ line ∈ lines text, EndsInReturn line → isComment line = true := by
    rw [split]
    decide
  obtain ⟨set, built⟩ := exists_of_isOk (show (build (.text text) true {}).isOk = true by decide +kernel)
  have sound := unspoiled_of_build built kept
  obtain ⟨-, agrees, builds⟩ := unterminated_lines_lose_returns text true {}
  exact ⟨split, sound, agrees sound, set, built, (builds set built).mpr kept⟩

/-- The carriage return in front of a terminator belongs to the payload, and is lost from the line alone. -/
theorem inner_return_lost :
    let text := "domain:a\r\r\ndomain:b"
    lines text = ["domain:a\r", "domain:b"] ∧
    build (.text text) true .linear = .ok ⟨[.domainList ["a\r", "b"]]⟩ ∧
    build (.lines (lines text)) true .linear = .ok ⟨[.domainList ["a", "b"]]⟩ ∧
    parse (.lines (lines text)) true .linear ≠ parse (.text text) true .linear := by
  intro text
  have split : lines text = ["domain:a\r", "domain:b"] := by decide +kernel
  have whole : build (.text text) true .linear = .ok ⟨[.domainList ["a\r", "b"]]⟩ := by
    rw [build, parse, Source.attempt, split]
    rfl
  have lost : build (.lines (lines text)) true .linear = .ok ⟨[.domainList ["a", "b"]]⟩ := by
    rw [split]
    rfl
  refine ⟨split, whole, lost, fun same => ?_⟩
  rw [build, same, ← build, whole] at lost
  simp at lost

end RuleText

end DomainRules
