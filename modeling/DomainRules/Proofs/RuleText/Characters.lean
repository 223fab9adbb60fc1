import DomainRules.Proofs.RuleText.Loose

/-! Texts of characters among the rule texts of any code points: they hold the rules, and are refused for the faults, that
they hold and are refused for as strings. -/

namespace DomainRules

open Text (Loose)

section
variable {α β : Type} [DecidableEq α] [DecidableEq β] {f : α → β} (injective : Function.Injective f) (mark : α)
include injective

theorem Text.splitOn_map (text : List α) : splitOn (f mark) (text.map f) = (splitOn mark text).map (List.map f) := by
  induction text with
  | nil => rfl
  | cons c text ih =>
    rw [List.map_cons, splitOn_cons, splitOn_cons, ih]
    by_cases ends : c = mark
    · simp [ends]
    · cases splitOn mark text <;> simp [ends, injective.eq_iff]

theorem RuleText.runs_map (text : List α) : runs (f mark) (text.map f) = (runs mark text).map (List.map f) := by
  simp only [runs, Text.splitOn_map injective, List.getLast?_map]
  by_cases closed : (Text.splitOn mark text).getLast? = some []
  · simp [closed, List.map_dropLast]
  · have also : Option.map (List.map f) (Text.splitOn mark text).getLast? ≠ some [] := by simpa using closed
    rw [if_neg closed, if_neg also]

theorem RuleText.dropMark_map (line : List α) : dropMark (f mark) (line.map f) = (dropMark mark line).map f := by
  simp only [dropMark, List.getLast?_map]
  by_cases ends : line.getLast? = some mark
  · simp [ends, List.map_dropLast]
  · have also : Option.map f line.getLast? ≠ some (f mark) := by simpa [injective.eq_iff] using ends
    rw [if_neg ends, if_neg also]

end

namespace LooseText

def Rule.ofStrings (rule : DomainRules.Rule) : Rule := (rule.1, .ofString rule.2)

/-- A fault of a text of characters; what is wrong with a hint is left out. -/
def Fault.ofStrings : DomainRules.Fault → Fault
  | .emptyRules => .emptyRules
  | .malformedHint line _ => .malformedHint (.ofString line)
  | .invalidLine line => .invalidLine (.ofString line)
  | cause => .refused cause

theorem lines_ofString (whole : String) : lines (.ofString whole) = (RuleText.lines whole).map Loose.ofString := by
  simp only [lines, Loose.ofString, RuleText.lines, RuleText.rawLines, RuleText.dropReturn,
    RuleText.runs_map Text.Loose.char_injective, List.map_map]
  refine List.map_congr_left fun line _ => ?_
  simp [RuleText.dropMark_map Text.Loose.char_injective, Loose.ofString]

@[simp] theorem isEmpty_ofString (line : String) : (Loose.ofString line).isEmpty = line.isEmpty := by
  rw [Bool.eq_iff_iff, List.isEmpty_iff, String.isEmpty_iff, Text.Loose.ofString_eq_nil]

@[simp] theorem isComment_ofString (line : String) : isComment (.ofString line) = RuleText.isComment line := by
  rw [isComment, RuleText.isComment, Loose.ofString, List.head?_map]
  cases line.toList.head? <;> simp

theorem ruleOfLine?_ofString (line : String) :
    ruleOfLine? (.ofString line) = (RuleText.ruleOfLine? line).map Rule.ofStrings := by
  ext ⟨kind, payload⟩
  rw [ruleOfLine?_eq_some, Text.Loose.ofString_eq_append]
  simp only [Option.map_eq_some_iff, Prod.exists, RuleText.ruleOfLine?_eq_some, Rule.ofStrings, Prod.mk.injEq]
  constructor
  · rintro ⟨rest, rfl, rfl⟩
    exact ⟨kind, rest, rfl, rfl, rfl⟩
  · rintro ⟨_, rest, rfl, rfl, rfl⟩
    exact ⟨rest, rfl, rfl⟩

theorem hintOf?_ofString (line : String) :
    hintOf? (.ofString line) = (CapacityHint.parse line).mapError fun _ => .malformedHint (.ofString line) := by
  rw [hintOf?, Text.Loose.strict_ofString]

theorem takeHint_ofString (lines : List String) :
    takeHint (lines.map Loose.ofString) =
      (fun opened => (opened.1, opened.2.map Loose.ofString)) <$> (RuleText.takeHint .ok lines).mapError Fault.ofStrings := by
  induction lines with
  | nil => rfl
  | cons line others ih =>
    rw [List.map_cons, takeHint, RuleText.takeHint, ok_bind, isEmpty_ofString, hintOf?_ofString]
    cases line.isEmpty with
    | true => exact ih
    | false =>
      cases CapacityHint.parse line with
      | error flaw => rfl
      | ok found => cases found <;> rfl

theorem Fault.ofStrings_of_check [Regex.Host] {options : Options} {rule : DomainRules.Rule} {fault : DomainRules.Fault}
    (h : rule.check options = .error fault) : ofStrings fault = .refused fault := by
  rcases Kind.check_eq_error.mp h with ⟨-, -, -, rfl⟩ | ⟨-, cause, -, rfl⟩
  · rfl
  · cases cause <;> rfl

section
variable {plain : DomainRules.Rule → Except DomainRules.Fault Unit} {check : Rule → Except DomainRules.Fault Unit}
  {storage : Storage} (same : ∀ rule, check (.ofStrings rule) = plain rule)
  (refuses : ∀ rule fault, plain rule = .error fault → Fault.ofStrings fault = .refused fault)
include same refuses

theorem ruleOf_ofString (line : String) :
    ruleOf check storage (.ofString line) =
      Option.map Rule.ofStrings <$> (RuleText.ruleOf plain line).mapError Fault.ofStrings := by
  rw [ruleOf, RuleText.ruleOf, isEmpty_ofString, isComment_ofString, ruleOfLine?_ofString]
  split
  · rfl
  · cases RuleText.ruleOfLine? line with
    | none => rfl
    | some rule =>
      have kept : storage.kept (Rule.ofStrings rule).2 = .ok _ := storage.kept_ofString rule.2
      simp only [Option.map_some, kept, same, Except.mapError, ok_bind]
      cases checked : plain rule with
      | error fault => simp [refuses rule fault checked]
      | ok => rfl

theorem rulesOf_ofString (lines : List String) :
    rulesOf check storage (lines.map Loose.ofString) =
      List.map Rule.ofStrings <$> (RuleText.rulesOf plain .ok lines).mapError Fault.ofStrings := by
  induction lines with
  | nil => rfl
  | cons line others ih =>
    rw [List.map_cons, rulesOf, RuleText.rulesOf, ok_bind, ruleOf_ofString same refuses, ih]
    cases RuleText.ruleOf plain line with
    | error fault => rfl
    | ok rule =>
      cases RuleText.rulesOf plain .ok others with
      | error fault => rfl
      | ok rules => cases rule <;> rfl

theorem rules_ofString (whole : String) (useHint : Bool) :
    rules check (.ofString whole) useHint storage =
      (fun found => found.2.map Rule.ofStrings) <$>
        ((RuleText.Source.text whole).reading plain useHint).mapError Fault.ofStrings := by
  have begun : opening (.ofString whole) useHint = (fun opened => (opened.1, opened.2.map Loose.ofString)) <$>
      (RuleText.opening .ok (RuleText.lines whole) useHint).mapError Fault.ofStrings := by
    cases useHint with
    | true => rw [opening, if_pos rfl, lines_ofString, takeHint_ofString]; rfl
    | false => rw [opening, if_neg Bool.false_ne_true, lines_ofString]; rfl
  rw [rules_eq, begun, RuleText.Source.reading, RuleText.reading]
  cases told : RuleText.opening .ok (RuleText.lines whole) useHint with
  | error fault => rfl
  | ok opened =>
    obtain ⟨hint, rest⟩ := opened
    have read : rulesOf check storage (rest.map Loose.ofString) = _ := rulesOf_ofString same refuses rest
    rw [RuleText.rulesOf_opening told] at read
    simp only [Except.mapError, map_ok, ok_bind, read]
    cases RuleText.rulesOf plain .ok (RuleText.lines whole) with
    | error fault => rfl
    | ok found => cases found <;> rfl

end

/-- A text of characters is refused for the fault that it is refused for as a string, or else has the rules of the set that
the string builds. -/
theorem rules_agree_build [Regex.Host] {check : Rule → Except DomainRules.Fault Unit} {options : Options}
    (same : ∀ rule, check (.ofStrings rule) = rule.check options) (whole : String) (useHint : Bool) :
    Agree (fun set rules => ∃ plain, rules = plain.map Rule.ofStrings ∧ set.Represents options plain)
      ((RuleText.build (.text whole) useHint options).mapError Fault.ofStrings)
      (rules check (.ofString whole) useHint options.storage) := by
  rw [rules_ofString same (fun _ _ => Fault.ofStrings_of_check)]
  have agree := RuleText.build_agree (.text whole) useHint options
  generalize RuleText.build (.text whole) useHint options = built at agree ⊢
  generalize (RuleText.Source.text whole).reading (DomainRules.Rule.check options) useHint = read at agree ⊢
  cases agree with
  | ok represents => exact .ok ⟨_, rfl, represents⟩
  | error fault => exact .error _

end LooseText

end DomainRules
