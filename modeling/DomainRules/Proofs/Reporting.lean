import DomainRules.CommandLine.Run
import DomainRules.Proofs.RuleText.Reaching
import DomainRules.Proofs.Snapshot.Reaching
import DomainRules.Proofs.Snapshot.Saving

/-! Which faults are told as problems with the rules. Every fault of a text or a snapshot is, unless reading comes to a
pattern that is refused without a complaint. -/

namespace DomainRules

namespace Regex

/-- The other faults, of bounds beyond all bounds or too long to read, of two alphabets and of groups nested too deep, are told
as if they had nothing to do with the expression. -/
def Fault.isComplaint : Fault → Bool
  | complaint .. => true
  | _ => false

/-- A pattern that is refused without a complaint. -/
def Strays [Regex.Host] (pattern : String) : Prop := ∃ cause, Pattern.compile pattern = .error cause ∧ cause.isComplaint = false

end Regex

namespace Fault

@[simp] theorem isAboutRules_ofRegex (pattern : String) (cause : Regex.Fault) :
    (ofRegex pattern cause).isAboutRules = cause.isComplaint := by
  cases cause <;> rfl

@[simp] theorem isReported_ofRegex (pattern : String) (cause : Regex.Fault) :
    (ofRegex pattern cause).isReported = cause.isComplaint := by
  cases cause <;> rfl

theorem isAboutRules_of_isReported {fault : Fault} (h : fault.isReported = false) : fault.isAboutRules = false := by
  cases fault <;> simp_all [isReported, isAboutRules]

end Fault

theorem compilePattern_eq_badPattern [Regex.Host] {pattern : String} {cause : Regex.Fault}
    (refused : Regex.Pattern.compile pattern = .error cause) :
    (∃ complaint position, compilePattern pattern = .error (.badPattern pattern complaint position)) ↔
      ¬Regex.Strays pattern := by
  cases cause <;> simp [compilePattern, Regex.Strays, refused, Except.mapError, Fault.ofRegex, Regex.Fault.isComplaint]

/-- Of the rules that are refused, only patterns are refused with a fault that is not about the rules. -/
theorem Rule.strays_of_check [Regex.Host] {options : Options} {rule : Rule} {fault : Fault}
    (refused : rule.check options = .error fault) (stray : fault.isAboutRules = false) : ∃ pattern, rule = (.regexp, pattern) ∧ Regex.Strays pattern := by
  obtain ⟨kind, payload⟩ := rule
  rcases Kind.check_eq_error.mp refused with ⟨-, -, -, rfl⟩ | ⟨rfl, cause, uncompiled, rfl⟩
  · contradiction
  · exact ⟨payload, rfl, cause, uncompiled, by simpa using stray⟩

theorem Rule.check_of_strays [Regex.Host] (options : Options) {pattern : String} (h : Regex.Strays pattern) :
    ∃ fault, Rule.check options (.regexp, pattern) = .error fault ∧ fault.isReported = false := by
  obtain ⟨cause, refused, quiet⟩ := h
  exact ⟨.ofRegex pattern cause, Kind.check_eq_error.mpr (.inr ⟨rfl, cause, refused, rfl⟩), by simpa using quiet⟩

namespace RuleText

variable [Regex.Host]

/-- Reading comes to a stray pattern before anything else ends it. -/
def Source.Strays (source : Source) (useHint : Bool) (options : Options) : Prop :=
  source.HintFits useHint ∧ ∃ pattern, source.Reaches (Rule.check options) (.regexp, pattern) ∧ Regex.Strays pattern

section
variable {source : Source} {useHint : Bool} {options : Options}

theorem build_of_strays (h : source.Strays useHint options) :
    ∃ fault, build source useHint options = .error fault ∧ fault.isReported = false := by
  obtain ⟨fits, pattern, reaches, strays⟩ := h
  obtain ⟨fault, refused, unreported⟩ := Rule.check_of_strays options strays
  refine ⟨fault, ?_, unreported⟩
  rw [(build_agree source useHint options).error_iff]
  exact Source.reading_of_reaches fits reaches refused

theorem strays_of_build {fault : Fault} (h : build source useHint options = .error fault)
    (stray : fault.isAboutRules = false) :
    (∃ cause, fault = .undecodable cause ∧ ∀ whole, source ≠ .text whole) ∨ source.Strays useHint options := by
  rw [(build_agree source useHint options).error_iff] at h
  refine (Source.reading_stray h stray).imp_right ?_
  rintro ⟨fits, rule, reaches, refused⟩
  obtain ⟨pattern, rfl, strays⟩ := Rule.strays_of_check refused stray
  exact ⟨fits, pattern, reaches, strays⟩

theorem build_strays_iff {whole : String} :
    (∃ fault, build (.text whole) useHint options = .error fault ∧ fault.isAboutRules = false) ↔
      (Source.text whole).Strays useHint options := by
  constructor
  · rintro ⟨fault, h, stray⟩
    exact (strays_of_build h stray).resolve_left fun ⟨_, _, other⟩ => other whole rfl
  · intro h
    obtain ⟨fault, fails, unreported⟩ := build_of_strays h
    exact ⟨fault, fails, Fault.isAboutRules_of_isReported unreported⟩

theorem build_unreported_iff :
    (∃ fault, build source useHint options = .error fault ∧ fault.isReported = false) ↔ source.Strays useHint options := by
  refine ⟨?_, build_of_strays⟩
  rintro ⟨fault, h, unreported⟩
  refine (strays_of_build h (Fault.isAboutRules_of_isReported unreported)).resolve_left ?_
  rintro ⟨cause, rfl, -⟩
  contradiction

end

end RuleText

namespace Snapshot

variable [Regex.Host]

def Strays (bytes : List UInt8) (options : Options) : Prop :=
  ∃ pattern, Reaches (Rule.check options) (.regexp, pattern) bytes ∧ Regex.Strays pattern

section
variable {bytes : List UInt8} {options : Options}

theorem decode_of_strays (h : Strays bytes options) :
    ∃ fault, decode bytes options = .error fault ∧ fault.isReported = false := by
  obtain ⟨pattern, reaches, strays⟩ := h
  obtain ⟨fault, refused, unreported⟩ := Rule.check_of_strays options strays
  refine ⟨fault, ?_, unreported⟩
  rw [(decode_agree bytes options).error_iff]
  exact reading_of_reaches reaches refused

theorem strays_of_decode {fault : Fault} (h : decode bytes options = .error fault) (stray : fault.isAboutRules = false) :
    Strays bytes options := by
  rw [(decode_agree bytes options).error_iff] at h
  rcases reading_eq_error h with ⟨flaw, rfl⟩ | ⟨rule, reaches, refused⟩
  · contradiction
  · obtain ⟨pattern, rfl, strays⟩ := Rule.strays_of_check refused stray
    exact ⟨pattern, reaches, strays⟩

theorem decode_strays_iff :
    (∃ fault, decode bytes options = .error fault ∧ fault.isAboutRules = false) ↔ Strays bytes options := by
  refine ⟨fun ⟨fault, h, stray⟩ => strays_of_decode h stray, fun h => ?_⟩
  obtain ⟨fault, fails, unreported⟩ := decode_of_strays h
  exact ⟨fault, fails, Fault.isAboutRules_of_isReported unreported⟩

theorem decode_unreported_iff :
    (∃ fault, decode bytes options = .error fault ∧ fault.isReported = false) ↔ Strays bytes options :=
  ⟨fun ⟨_, h, unreported⟩ => strays_of_decode h (Fault.isAboutRules_of_isReported unreported), decode_of_strays⟩

end

end Snapshot

namespace CommandLine

namespace Folder

variable {folder : Folder} {name : String} {fault : Fault}

theorem isReported_of_obstacle? (h : folder.obstacle? name = some fault) (plain : '\x00' ∉ name.toList) :
    fault.isReported = true := by
  rw [obstacle?, if_neg (by simpa using plain)] at h
  split at h
  · exact Option.some.inj h ▸ rfl
  · split at h
    · exact Option.some.inj h ▸ rfl
    · split at h
      · exact Option.some.inj h ▸ rfl
      · contradiction

theorem isReported_of_write {bytes : List UInt8} (h : folder.write name bytes = .error fault)
    (plain : '\x00' ∉ name.toList) : fault.isReported = true := by
  unfold write at h
  dsimp only at h
  split at h
  · rename_i obstacle
    exact isReported_of_obstacle? (Except.error.inj h ▸ obstacle) plain
  · split at h
    · contradiction
    · split at h
      · contradiction
      · exact Except.error.inj h ▸ rfl

end Folder

theorem Result.status_le (result : Result) : result.status ≤ 1 := by
  unfold status
  split
  · split <;> decide
  · decide

namespace Request

variable {request : Request} {folder : Folder}

/-- A run that ends with a status for success, for names that are not covered, or for a fault that is told. -/
def Ends [Regex.Host] (request : Request) (folder : Folder) : Prop := ∃ status ≤ 2, (request.run folder).1.ending = .ok status

theorem ending_fail (request : Request) (journal : Journal) (fault : Fault) :
    (∃ status ≤ 2, (request.fail journal fault).ending = .ok status) ↔ fault.isReported = true := by
  rw [fail]
  cases told : fault.isReported with
  | true => simp
  | false => simp

theorem ends_of_check [Regex.Host] {names : List String} {loaded : Except Fault RuleSet}
    (ran : request.command.run folder.read = Command.verdicts names <$> loaded) :
    request.Ends folder ↔ ¬∃ fault, loaded = .error fault ∧ fault.isReported = false := by
  rw [Ends, Request.run, ran]
  cases loaded with
  | error fault => simp [ending_fail]
  | ok set =>
    have fits : (Command.verdicts names set).status ≤ 2 := (Result.status_le _).trans (by decide)
    simpa [Command.verdicts, Result.file?, succeed] using fits

theorem ends_of_compile [Regex.Host] {rules output : String} {building : Building}
    (asked : request.command = .compile rules (some output) building) (plain : '\x00' ∉ output.toList) :
    request.Ends folder ↔ (¬∃ fault, Command.load folder.read rules building = .error fault ∧ fault.isReported = false) ∧
      ∀ set, Command.load folder.read rules building = .ok set → Snapshot.Fits set := by
  rw [Ends, Request.run, asked, Command.run]
  cases Command.load folder.read rules building with
  | error fault => simp [ending_fail]
  | ok set =>
    simp only [ok_bind, Except.ok.injEq, reduceCtorEq, false_and, exists_false, not_false_eq_true, true_and, forall_eq',
      ← Snapshot.exists_encode]
    cases saved : Snapshot.encode set with
    | error fault => simp [ending_fail, Snapshot.faults_encode set fault saved, Fault.isReported, Fault.isAboutRules]
    | ok data =>
      have told {fault : Fault} (h : folder.write output data = .error fault) : fault.isReported = true :=
        Folder.isReported_of_write h plain
      simp only [ok_bind, pure, Except.pure, Result.file?]
      cases written : folder.write output data with
      | error fault => simp [ending_fail, told written]
      | ok left => simp [succeed, Result.status]

end Request

end CommandLine

/-- Every refused pattern is told as a problem with the rules, or strays. Building a text and restoring a snapshot fail with
other faults than such problems just if reading comes to a stray pattern, and only then a command ends without a status.
Compiling also ends so where the rules do not fit into a snapshot, as those of a file of less than four gibibytes do. -/
theorem faults_told_unless_stray [Regex.Host] (useHint : Bool) (options : Options) :
    (∀ pattern cause, Regex.Pattern.compile pattern = .error cause →
      ((∃ complaint position, compilePattern pattern = .error (.badPattern pattern complaint position)) ↔
        ¬Regex.Strays pattern)) ∧
    (∀ text, (∃ fault, RuleText.build (.text text) useHint options = .error fault ∧ fault.isAboutRules = false) ↔
      (RuleText.Source.text text).Strays useHint options) ∧
    (∀ bytes, (∃ fault, Snapshot.decode bytes options = .error fault ∧ fault.isAboutRules = false) ↔
      Snapshot.Strays bytes options) ∧
    ∀ (request : CommandLine.Request) (folder : CommandLine.Folder) (rules : String) (bytes : List UInt8)
      (building : CommandLine.Building), folder.read rules = .ok bytes →
      (∀ names, request.command = .check rules names true building →
        (request.Ends folder ↔ ¬Snapshot.Strays bytes building.options)) ∧
      (∀ names, request.command = .check rules names false building →
        (request.Ends folder ↔ ¬(RuleFile.source bytes building.access).Strays building.useHint building.options)) ∧
      (∀ output, '\x00' ∉ output.toList → request.command = .compile rules (some output) building →
        (request.Ends folder ↔ ¬(RuleFile.source bytes building.access).Strays building.useHint building.options ∧
          ∀ set, RuleFile.load bytes building.access building.useHint building.options = .ok set → Snapshot.Fits set) ∧
        (bytes.length < 2 ^ 32 →
          (request.Ends folder ↔ ¬(RuleFile.source bytes building.access).Strays building.useHint building.options))) := by
  refine ⟨fun pattern cause refused => compilePattern_eq_badPattern refused, fun text => RuleText.build_strays_iff,
    fun bytes => Snapshot.decode_strays_iff, fun request folder rules bytes building read => ⟨?_, ?_, ?_⟩⟩
  · intro names asked
    have ran : request.command.run folder.read = CommandLine.Command.verdicts names <$> Snapshot.decode bytes building.options := by
      rw [asked, CommandLine.Command.run, read]
      rfl
    rw [CommandLine.Request.ends_of_check ran, Snapshot.decode_unreported_iff]
  · intro names asked
    have ran : request.command.run folder.read =
        CommandLine.Command.verdicts names <$> CommandLine.Command.load folder.read rules building := by
      rw [asked]
      rfl
    rw [CommandLine.Request.ends_of_check ran, CommandLine.Command.load, read, ok_bind, RuleFile.load,
      RuleText.build_unreported_iff]
  · intro output plain asked
    have ends : request.Ends folder ↔ _ := CommandLine.Request.ends_of_compile asked plain
    rw [CommandLine.Command.load, read, ok_bind, RuleFile.load, RuleText.build_unreported_iff] at ends
    exact ⟨ends, fun small => ends.trans (and_iff_left fun set built => RuleFile.fits_of_load small built)⟩

/-- A pattern that is complained about, in front of one with a bound beyond all bounds; and the latter alone. -/
theorem faults_told_unless_stray_behind_complaint :
    let text := "\nregexp:(\nregexp:a\x7b99999999999\x7d"
    let folder : CommandLine.Folder := ⟨[("rules", Text.Utf8.encode text)]⟩
    let building : CommandLine.Building := ⟨{}, true, .byLine⟩
    let compile : CommandLine.Request := ⟨false, .compile "rules" (some "rules/out") building⟩
    (∃ cause, Regex.Pattern.compile "(" = .error cause) ∧ ¬Regex.Strays "(" ∧
    folder.read "rules" = .ok (Text.Utf8.encode text) ∧ '\x00' ∉ "rules/out".toList ∧
    ¬(RuleFile.source (Text.Utf8.encode text) .byLine).Strays true {} ∧ compile.Ends folder ∧
    (RuleText.Source.text "regexp:a\x7b99999999999\x7d").Strays true {} := by
  intro text folder building compile
  have refused : Regex.Pattern.compile "(" = .error (.complaint .unterminatedGroup (some 0)) :=
    eq_error_of_fault? (by decide +kernel)
  have told : compilePattern "(" = .error (.badPattern "(" .unterminatedGroup (some 0)) :=
    eq_error_of_fault? (by decide +kernel)
  have read : folder.read "rules" = .ok (Text.Utf8.encode text) := by decide +kernel
  have plain : '\x00' ∉ "rules/out".toList := by decide
  let check : CommandLine.Request := ⟨true, .check "rules" ["b"] false building⟩
  have status : (check.run folder).1.ending = .ok 2 := by decide +kernel
  have alone : RuleText.build (.text "regexp:a\x7b99999999999\x7d") true {} = .error .hugeBound :=
    eq_error_of_fault? (by decide +kernel)
  obtain ⟨patterns, texts, -, commands⟩ := faults_told_unless_stray true {}
  obtain ⟨-, checks, -⟩ := commands check folder "rules" (Text.Utf8.encode text) building read
  obtain ⟨-, -, compiles⟩ := commands compile folder "rules" (Text.Utf8.encode text) building read
  have sound := (checks ["b"] rfl).mp ⟨2, le_refl 2, status⟩
  exact ⟨⟨_, refused⟩, (patterns "(" _ refused).mp ⟨_, _, told⟩, read, plain, sound,
    ((compiles "rules/out" plain rfl).2 (by decide +kernel)).mpr sound, (texts _).mp ⟨_, alone, rfl⟩⟩

/-- A bound beyond all bounds is told neither for a text nor for a snapshot nor by a command. -/
theorem huge_bound_strays :
    let pattern := "a\x7b99999999999\x7d"
    let folder : CommandLine.Folder := ⟨[("rules", Text.Utf8.encode ("regexp:" ++ pattern))]⟩
    let check : CommandLine.Request := ⟨false, .check "rules" ["a"] false ⟨{}, true, .whole⟩⟩
    compilePattern pattern = .error .hugeBound ∧
    RuleText.build (.text ("regexp:" ++ pattern)) true {} = .error .hugeBound ∧
    (∃ part, Snapshot.encodeRules [pattern] = .ok part ∧
      Snapshot.decode (Snapshot.header ++ [0, 0, 0, 0, 0, 0, 0, 0, 0, 0, 0, 0] ++ part) {} = .error .hugeBound) ∧
    Fault.isAboutRules .hugeBound = false ∧ (check.run folder).1.ending = .error .hugeBound :=
  ⟨eq_error_of_fault? (by decide +kernel), eq_error_of_fault? (by decide +kernel),
    ⟨_, rfl, eq_error_of_fault? (by decide +kernel)⟩, rfl, by decide +kernel⟩

end DomainRules
