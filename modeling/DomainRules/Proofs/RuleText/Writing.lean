import DomainRules.Proofs.RuleText.Unterminated
import DomainRules.Proofs.Snapshot.RoundTrip
import DomainRules.RuleText.Write

/-! Written rule text. Each rule has a line of its own, and what is read back from the lines is what is read back from a
snapshot. A rule is refused only if a line cannot hold it. -/

namespace DomainRules

theorem RuleSet.allRules_eq_nil_iff {set : RuleSet} : set.allRules = [] ↔ ∀ kind, set.rules kind = [] :=
  Rule.listing_eq_nil_iff

theorem Snapshot.decode_eq [Regex.Host] (bytes : List UInt8) (options : Options) :
    decode bytes options = reading (Rule.check options) bytes >>= RuleSet.ofRules options :=
  Builder.bind_freeze_eq (restore_agree bytes options)

namespace RuleText

/-- A rule that would come back from a line cut or without its last character. -/
def BreaksLine (rule : String) : Prop := '\n' ∈ rule.toList ∨ rule.toList.getLast? = some '\r'

instance (rule : String) : Decidable (BreaksLine rule) := inferInstanceAs (Decidable (_ ∨ _))

theorem isUnwritable_iff {rule : String} : isUnwritable rule = true ↔ BreaksLine rule := by
  simp [isUnwritable, BreaksLine]

theorem lines_intercalate {parts : List String} (filled : parts ≠ []) (whole : ∀ part ∈ parts, ¬BreaksLine part) :
    lines ("\n".intercalate parts ++ "\n") = parts := by
  have joined : "\n".intercalate parts ++ "\n" = "\n".intercalate (parts ++ [""]) := by
    simp [String.intercalate_append_of_ne_nil filled]
  have split : Text.splitOn '\n' ("\n".intercalate (parts ++ [""])).toList = parts.map String.toList ++ [[]] := by
    rw [Text.splitOn_eq, String.toList_intercalate, List.map_append]
    refine List.splitOn_intercalate '\n' ?_ (by simp)
    simp only [List.forall_mem_append, List.forall_mem_map]
    exact ⟨fun part mem feed => whole part mem (.inl feed), by simp⟩
  have kept : ∀ part ∈ parts, String.ofList (dropReturn part.toList) = part := fun part mem => by
    rw [dropReturn, dropMark, if_neg fun last => whole part mem (.inr last), String.ofList_toList]
  rw [lines, joined, rawLines, runs, split]
  simpa [Function.comp_def] using List.map_congr_left kept

def lineOf (rule : Rule) : String := rule.1.tag ++ rule.2

def writable (rule : Rule) : Except Fault Unit :=
  if isUnwritable rule.2 then .error (.unwritable rule.1 rule.2) else .ok ()

/-- The lines of a text. One empty line stands in for no lines at all. -/
def writtenLines : Option CapacityHint → List Rule → List String
  | some hint, rules => hint.line :: rules.map lineOf
  | none, [] => [""]
  | none, rule :: rules => lineOf rule :: rules.map lineOf

def header (set : RuleSet) (withHint : Bool) : Option CapacityHint := if withHint then some (hintOf set) else none

theorem ruleLines_eq (set : RuleSet) (kind : Kind) :
    ruleLines set kind = (fun _ => (set.rules kind).map fun rule => lineOf (kind, rule)) <$>
      forM ((set.rules kind).map fun rule => (kind, rule)) writable := by
  have line : ruleLine kind = fun rule => (fun _ => lineOf (kind, rule)) <$> writable (kind, rule) := by
    funext rule
    rw [ruleLine, writable, apply_ite ((fun _ => lineOf (kind, rule)) <$> ·)]
    rfl
  rw [ruleLines, List.forM_map, line, mapM_check]

theorem joined_eq (hint : CapacityHint) (withHint : Bool) (rules : List Rule) :
    "\n".intercalate ((if withHint then [hint.line] else []) ++ rules.map lineOf) =
      "\n".intercalate (writtenLines (if withHint then some hint else none) rules) := by
  cases withHint with
  | true => rfl
  | false => cases rules <;> simp [writtenLines]

theorem write_eq (set : RuleSet) (withHint : Bool) :
    write set withHint = (fun _ => "\n".intercalate (writtenLines (header set withHint) set.allRules) ++ "\n") <$>
      forM set.allRules writable := by
  have lines : (Kind.all.map fun kind => (set.rules kind).map fun rule => lineOf (kind, rule)).flatten =
      set.allRules.map lineOf := by
    simp [RuleSet.allRules, List.flatMap_def, Function.comp_def]
  rw [write, funext (ruleLines_eq set), mapM_check, ← forM_flatMap, ← RuleSet.allRules]
  simp only [bind_map_left, lines, joined_eq, header]
  rw [map_eq_pure_bind]

theorem writable_eq_ok {rule : Rule} : writable rule = .ok () ↔ ¬BreaksLine rule.2 := by
  rw [writable, ← isUnwritable_iff]
  split <;> simp_all

theorem write_eq_ok {set : RuleSet} (whole : ∀ kind, ∀ rule ∈ set.rules kind, ¬BreaksLine rule) (withHint : Bool) :
    write set withHint = .ok ("\n".intercalate (writtenLines (header set withHint) set.allRules) ++ "\n") := by
  have passed : forM set.allRules writable = .ok () :=
    forM_eq_ok.mpr fun rule mem => writable_eq_ok.mpr (whole rule.1 rule.2 (RuleSet.mem_allRules.mp mem))
  rw [write_eq, passed, map_ok]

theorem write_eq_error_iff (set : RuleSet) (withHint : Bool) :
    (∃ kind rule, write set withHint = .error (.unwritable kind rule)) ↔
      ∃ kind, ∃ rule ∈ set.rules kind, BreaksLine rule := by
  constructor
  · rintro ⟨kind, rule, failed⟩
    by_contra whole
    push Not at whole
    rw [write_eq_ok whole] at failed
    contradiction
  · rintro ⟨kind, rule, mem, breaks⟩
    have refused : forM set.allRules writable ≠ .ok () := fun passed =>
      writable_eq_ok.mp (forM_eq_ok.mp passed (kind, rule) (RuleSet.mem_allRules.mpr mem)) breaks
    obtain ⟨other, -, fault, fails, stopped⟩ := exists_of_forM_ne_ok refused
    rw [writable] at fails
    split at fails
    · exact ⟨other.1, other.2, by rw [write_eq, stopped, map_error, Except.error.inj fails]⟩
    · contradiction

theorem BreaksLine.lineOf_iff {rule : Rule} : BreaksLine (lineOf rule) ↔ BreaksLine rule.2 := by
  obtain ⟨kind, payload⟩ := rule
  have fed : '\n' ∈ (lineOf (kind, payload)).toList ↔ '\n' ∈ payload.toList := by
    cases kind <;> simp [lineOf, Kind.tag, Kind.name]
  exact or_congr fed endsInReturn_tag

theorem not_breaksLine_hint {hint : CapacityHint} (h : ∀ kind, 0 ≤ hint.get kind) : ¬BreaksLine hint.line := by
  have digits (kind : Kind) : '\n' ∉ (hint.get kind).repr.toList := fun mem =>
    absurd ((CapacityHint.isCount_toString (h kind)).2.1 '\n' mem) (by decide)
  rintro (feed | last)
  · simp [CapacityHint.line, CapacityHint.marker, CapacityHint.trailer] at feed
    rcases feed with feed | feed | feed | feed
    · exact digits .domain feed
    · exact digits .suffix feed
    · exact digits .keyword feed
    · exact digits .regexp feed
  · exact not_endsInReturn_of_gives (CapacityHint.gives_line h) last

section
variable {check : Rule → Except Fault Unit}

theorem lineOf_ne_empty (rule : Rule) : lineOf rule ≠ "" := by
  obtain ⟨kind, payload⟩ := rule
  cases kind <;> simp [lineOf, Kind.tag, Kind.name]

theorem lists_map_lineOf (rules : List Rule) : Lists (rules.map lineOf) rules := by
  induction rules with
  | nil => exact .nil
  | cons rule rules ih => exact .rule rule.1 rule.2 ih

theorem parse_hintLine {hint : CapacityHint} (h : ∀ kind, 0 ≤ hint.get kind) :
    CapacityHint.parse hint.line = .ok (some hint) :=
  CapacityHint.parse_eq_ok_some.mpr (CapacityHint.gives_line h)

theorem parse_lineOf (rule : Rule) : CapacityHint.parse (lineOf rule) = .ok none := by
  obtain ⟨kind, payload⟩ := rule
  cases kind <;> simp [CapacityHint.parse, CapacityHint.marker, lineOf, Kind.tag, Kind.name, List.isPrefixOf]

theorem takeHint_filled {line : String} {found : Option CapacityHint} (filled : line ≠ "")
    (parsed : CapacityHint.parse line = .ok found) (others : List String) :
    takeHint .ok (line :: others) = .ok (found.getD .unknown, if found.isSome then others else line :: others) := by
  cases found <;> simp [takeHint, filled, parsed]

section
variable {hint : Option CapacityHint} (counts : ∀ given ∈ hint, ∀ kind, 0 ≤ given.get kind) (rules : List Rule)
include counts

theorem rulesOf_writtenLines : rulesOf check .ok (writtenLines hint rules) = (fun _ => rules) <$> forM rules check := by
  cases hint with
  | some given =>
    have comment : ruleOf check given.line = .ok none := by
      simp [ruleOf, isComment_of_hint (parse_hintLine (counts given rfl))]
    rw [writtenLines, rulesOf_cons_of_none rfl comment, rulesOf_of_lists (lists_map_lineOf rules)]
  | none =>
    cases rules with
    | nil => rfl
    | cons rule rules => exact rulesOf_of_lists (lists_map_lineOf (rule :: rules))

theorem opening_writtenLines (useHint : Bool) :
    ∃ rest, opening .ok (writtenLines hint rules) useHint =
      .ok (if useHint then hint.getD .unknown else .unknown, rest) := by
  cases useHint with
  | false => exact ⟨_, rfl⟩
  | true =>
    cases hint with
    | some given =>
      have parsed := parse_hintLine (counts given rfl)
      have bare : CapacityHint.parse "" = .ok none := rfl
      have filled : given.line ≠ "" := fun blank => by
        rw [blank, bare] at parsed
        cases parsed
      exact ⟨_, takeHint_filled filled parsed _⟩
    | none =>
      cases rules with
      | nil => exact ⟨[], rfl⟩
      | cons rule rules => exact ⟨_, takeHint_filled (lineOf_ne_empty rule) (parse_lineOf rule) _⟩

/-- What is written is read back as it was, if each rule passes. -/
theorem reading_writtenLines (useHint : Bool) :
    reading check .ok (writtenLines hint rules) useHint =
      forM rules check >>= fun _ => (if useHint then hint.getD .unknown else .unknown, ·) <$> required rules := by
  obtain ⟨rest, opened⟩ := opening_writtenLines counts rules useHint
  rw [reading, opened, ok_bind, rulesOf_writtenLines counts]
  dsimp only
  rw [bind_map_left]
  simp only [map_eq_pure_bind]

theorem not_breaksLine_writtenLines (whole : ∀ rule ∈ rules, ¬BreaksLine rule.2) :
    ∀ line ∈ writtenLines hint rules, ¬BreaksLine line := by
  have all : ∀ line ∈ rules.map lineOf, ¬BreaksLine line :=
    List.forall_mem_map.mpr fun rule mem => BreaksLine.lineOf_iff.not.mpr (whole rule mem)
  cases hint with
  | some given => exact List.forall_mem_cons.mpr ⟨not_breaksLine_hint (counts given rfl), all⟩
  | none =>
    cases rules with
    | nil => simp [writtenLines, BreaksLine]
    | cons rule rules => exact all

end

theorem writtenLines_ne_nil (hint : Option CapacityHint) (rules : List Rule) : writtenLines hint rules ≠ [] := by
  cases hint <;> cases rules <;> simp [writtenLines]

theorem reading_joined {hint : Option CapacityHint} (counts : ∀ given ∈ hint, ∀ kind, 0 ≤ given.get kind) {rules : List Rule}
    (whole : ∀ rule ∈ rules, ¬BreaksLine rule.2) (useHint : Bool) :
    Source.reading check useHint (.text ("\n".intercalate (writtenLines hint rules) ++ "\n")) =
      forM rules check >>= fun _ => (if useHint then hint.getD .unknown else .unknown, ·) <$> required rules := by
  have unbroken := not_breaksLine_writtenLines counts rules whole
  rw [Source.reading, lines_intercalate (writtenLines_ne_nil hint rules) unbroken, reading_writtenLines counts]

end

theorem header_nonneg (set : RuleSet) (withHint : Bool) :
    ∀ given ∈ header set withHint, ∀ kind, 0 ≤ given.get kind := by
  cases withHint with
  | false => nofun
  | true =>
    rintro _ ⟨⟩ kind
    simp [hintOf]

section
variable {set : RuleSet} {withHint : Bool} {text : String} (whole : ∀ kind, ∀ rule ∈ set.rules kind, ¬BreaksLine rule)
  (written : write set withHint = .ok text)
include whole written

theorem reading_written (check : Rule → Except Fault Unit) (useHint : Bool) :
    Source.reading check useHint (.text text) = forM set.allRules check >>= fun _ =>
      (if useHint then (header set withHint).getD .unknown else .unknown, ·) <$> required set.allRules := by
  rw [write_eq_ok whole, Except.ok.injEq] at written
  rw [← written]
  exact reading_joined (header_nonneg set withHint) (fun rule mem => whole rule.1 rule.2 (RuleSet.mem_allRules.mp mem)) useHint

theorem reading_written_eq_ok {check : Rule → Except Fault Unit} {useHint : Bool} {found : CapacityHint × List Rule}
    (read : Source.reading check useHint (.text text) = .ok found) :
    found = (if useHint then (header set withHint).getD .unknown else .unknown, set.allRules) := by
  rw [reading_written whole written] at read
  obtain ⟨-, -, read⟩ := bind_eq_ok.mp read
  obtain ⟨rules, full, rfl⟩ := map_eq_ok.mp read
  rw [(required_eq_ok.mp full).1]

theorem build_written [Regex.Host] {bytes : List UInt8} (saved : Snapshot.encode set = .ok bytes) (filled : set.allRules ≠ [])
    (useHint : Bool) (options : Options) : build (.text text) useHint options = Snapshot.decode bytes options := by
  rw [build_eq, reading_written whole written, Snapshot.decode_eq, Snapshot.reading_encode saved, required,
    if_neg filled, bind_map_left, bind_assoc]
  rfl

end

/-- A set is refused as text just if a line cannot hold one of its rules. Otherwise the text builds what the snapshot of
the set restores, and a hint in it counts the rules; without rules there is nothing to build. -/
theorem write_restores [Regex.Host] (set : RuleSet) (frozen : ∀ matcher ∈ set.matchers, matcher.Frozen) (fits : Snapshot.Fits set)
    (withHint : Bool) :
    ((∃ kind rule, write set withHint = .error (.unwritable kind rule)) ↔
      ∃ kind, ∃ rule ∈ set.rules kind, BreaksLine rule) ∧
    ((∀ kind, ∀ rule ∈ set.rules kind, ¬BreaksLine rule) →
      ∃ text bytes, write set withHint = .ok text ∧ Snapshot.encode set = .ok bytes ∧ ∀ useHint options,
        ((∃ kind, set.rules kind ≠ []) → build (.text text) useHint options = Snapshot.decode bytes options) ∧
        (∀ restored, build (.text text) useHint options = .ok restored → ∀ name, restored.covers name = set.covers name) ∧
        (withHint = true → useHint = true → ∀ builder, parse (.text text) useHint options = .ok builder →
          ∀ kind, builder.hint.get kind = builder.countOf kind) ∧
        ((∀ kind, set.rules kind = []) → build (.text text) useHint options = .error .emptyRules)) := by
  refine ⟨write_eq_error_iff set withHint, fun whole => ?_⟩
  obtain ⟨text, written⟩ : ∃ text, write set withHint = .ok text := ⟨_, write_eq_ok whole withHint⟩
  obtain ⟨bytes, saved⟩ := Snapshot.exists_encode.mpr fits
  refine ⟨text, bytes, written, saved, fun useHint options => ⟨fun ⟨kind, filled⟩ => ?_, fun restored built name => ?_,
    fun headed wanted builder parsed kind => ?_, fun bare => ?_⟩⟩
  · have some : set.allRules ≠ [] := fun bare => filled (RuleSet.allRules_eq_nil_iff.mp bare kind)
    exact build_written whole written saved some useHint options
  · obtain ⟨found, read, represents⟩ := (built ▸ build_agree (.text text) useHint options).of_ok
    rw [reading_written_eq_ok whole written read] at represents
    rw [Bool.eq_iff_iff, represents.covers_iff, RuleSet.covers_iff_allRules frozen]
  · obtain ⟨found, read, holds⟩ := (parsed ▸ parse_agree (.text text) useHint options).of_ok
    rw [reading_written_eq_ok whole written read] at holds
    rw [Builder.countOf, (holds.collector kind).inserted, holds.hint_eq, RuleSet.payloads_allRules, if_pos wanted, header,
      if_pos headed, Option.getD_some, hintOf, ByKind.get_ofFn]
  · have nothing : set.allRules = [] := RuleSet.allRules_eq_nil_iff.mpr bare
    rw [build_eq, reading_written whole written, nothing]
    rfl

/-- Rules that look like a comment, like a hint and like a tag, or hold a return or nothing; and a rule of two lines. -/
theorem write_restores_odd_rules :
    let set : RuleSet := ⟨[.domainList ["#", "# domain set capacity hint 0 0 0 0 DSKR", ""], .keywordList ["a\rb", ":"]]⟩
    let broken : RuleSet := ⟨[.keywordList ["b", "b\nc"]]⟩
    ((∀ matcher ∈ set.matchers, matcher.Frozen) ∧ Snapshot.Fits set ∧
      (∀ kind, ∀ rule ∈ set.rules kind, ¬BreaksLine rule) ∧
      ∃ text bytes, write set true = .ok text ∧ Snapshot.encode set = .ok bytes ∧
        build (.text text) true {} = Snapshot.decode bytes {}) ∧
    (∀ matcher ∈ broken.matchers, matcher.Frozen) ∧ Snapshot.Fits broken ∧
      ∃ kind rule, write broken true = .error (.unwritable kind rule) := by
  intro set broken
  have frozen : ∀ matcher ∈ set.matchers, matcher.Frozen :=
    List.forall_mem_cons.mpr ⟨⟨.domain, .linear, 0, ["#", "# domain set capacity hint 0 0 0 0 DSKR", ""], _, rfl, rfl⟩,
      List.forall_mem_singleton.mpr ⟨.keyword, {}, 0, ["a\rb", ":"], _, rfl, rfl⟩⟩
  have fits : Snapshot.Fits set := ⟨fun kind => by cases kind <;> decide, fun kind => by cases kind <;> decide⟩
  have whole : ∀ kind, ∀ rule ∈ set.rules kind, ¬BreaksLine rule := fun kind => by cases kind <;> decide
  have cut : ∀ matcher ∈ broken.matchers, matcher.Frozen :=
    List.forall_mem_singleton.mpr ⟨.keyword, {}, 0, ["b", "b\nc"], _, rfl, rfl⟩
  have small : Snapshot.Fits broken := ⟨fun kind => by cases kind <;> decide, fun kind => by cases kind <;> decide⟩
  obtain ⟨text, bytes, written, saved, reads⟩ := (write_restores set frozen fits true).2 whole
  exact ⟨⟨frozen, fits, whole, text, bytes, written, saved, (reads true {}).1 ⟨.domain, by decide⟩⟩, cut, small,
    (write_restores broken cut small true).1.mpr ⟨.keyword, "b\nc", by decide, by decide⟩⟩

end RuleText

end DomainRules
