import DomainRules.CommandLine.Run
import DomainRules.Proofs.CommandLine.Folder
import DomainRules.Proofs.Snapshot.Saving

/-! Compiling and then checking names against what was compiled, which tells the same as checking them against the rule
file. -/

namespace DomainRules.CommandLine

/-- What a check tells: each name with its answer, in turn, and by its status whether all of them are covered. -/
structure Outcome.Tells (names : List String) (set : RuleSet) (outcome : Outcome) : Prop where
  output_eq : outcome.output =
    String.join (names.map fun name => name ++ "\t" ++ (if set.covers name then "true" else "false") ++ "\n")
  ending_eq : outcome.ending = .ok (if ∀ name ∈ names, set.covers name = true then 0 else 1)

theorem Outcome.Tells.congr {names : List String} {one other : RuleSet} {outcome : Outcome} (h : outcome.Tells names one)
    (same : ∀ name, one.covers name = other.covers name) : outcome.Tells names other := by
  obtain ⟨output_eq, ending_eq⟩ := h
  simp only [same] at output_eq ending_eq
  exact ⟨output_eq, ending_eq⟩

namespace Request

/-- The same names checked against rules in a file, as a text or as a snapshot. -/
def checking (file : String) (names : List String) (isSnapshot : Bool) (building : Building) (verbose : Bool) : Request :=
  ⟨verbose, .check file names isSnapshot building⟩

def compiling (rules output : String) (building : Building) (verbose : Bool) : Request :=
  ⟨verbose, .compile rules (some output) building⟩

section
variable {request : Request} {folder left : Folder} {rules output : String} {names : List String} {building : Building}
  {set : RuleSet} {data : List UInt8} {fault : Fault} {journal : Journal} {verbose : Bool}

theorem ending_fail_of_isReported (told : fault.isReported = true) : (request.fail journal fault).ending = .ok 2 := by
  rw [fail, if_pos told]

theorem ending_fail_ne : (request.fail journal fault).ending ≠ .ok 0 := by
  rw [fail]
  split <;> simp

variable [Regex.Host]

theorem tells_of_verdicts (ran : request.command.run folder.read = .ok (Command.verdicts names set)) :
    (request.run folder).1.Tells names set := by
  rw [run, ran]
  constructor
  · simp [Command.verdicts, Result.file?, succeed, Result.output, Function.comp_def]
  · simp [Command.verdicts, Result.file?, succeed, Result.status]

theorem tells_of_load (h : Command.load folder.read rules building = .ok set) :
    ((checking rules names false building verbose).run folder).1.Tells names set :=
  tells_of_verdicts (by rw [checking, Command.run, h, ok_bind]; rfl)

theorem tells_of_decode {bytes : List UInt8} (read : folder.read rules = .ok bytes)
    (h : Snapshot.decode bytes building.options = .ok set) :
    ((checking rules names true building verbose).run folder).1.Tells names set :=
  tells_of_verdicts (by rw [checking, Command.run, read, ok_bind, h, ok_bind]; rfl)

theorem compile_of_unloaded (h : Command.load folder.read rules building = .error fault) :
    (compiling rules output building verbose).command.run folder.read = .error fault := by
  rw [compiling, Command.run, h, error_bind]

theorem compile_of_unsaved (loaded : Command.load folder.read rules building = .ok set)
    (h : Snapshot.encode set = .error fault) :
    (compiling rules output building verbose).command.run folder.read = .error fault := by
  rw [compiling, Command.run, loaded, ok_bind, h, error_bind]

theorem compile_of_saved (loaded : Command.load folder.read rules building = .ok set) (saved : Snapshot.encode set = .ok data) :
    (compiling rules output building verbose).command.run folder.read = .ok (.snapshot set.count data output) := by
  rw [compiling, Command.run, loaded, ok_bind, saved, ok_bind]
  rfl

theorem compiling_of_failed (h : (compiling rules output building verbose).command.run folder.read = .error fault) :
    (compiling rules output building verbose).run folder =
      ((compiling rules output building verbose).fail
        ((compiling rules output building verbose).command.journal folder.read) fault, folder) := by
  rw [run, h]

theorem compiling_of_unwritten (loaded : Command.load folder.read rules building = .ok set)
    (saved : Snapshot.encode set = .ok data) (h : folder.write output data = .error fault) :
    (compiling rules output building verbose).run folder =
      ((compiling rules output building verbose).fail
        ((compiling rules output building verbose).command.journal folder.read) fault, folder) := by
  rw [run, compile_of_saved loaded saved]
  simp only [Result.file?, h]

theorem compiling_of_written (loaded : Command.load folder.read rules building = .ok set)
    (saved : Snapshot.encode set = .ok data) (h : folder.write output data = .ok left) :
    (compiling rules output building verbose).run folder =
      ((compiling rules output building verbose).succeed
        ((compiling rules output building verbose).command.journal folder.read) (.snapshot set.count data output), left) := by
  rw [run, compile_of_saved loaded saved]
  simp only [Result.file?, h]

/-- Compiling succeeds just if the rules load, fit into a snapshot, and the output can be written. -/
theorem ending_compiling_iff :
    ((compiling rules output building verbose).run folder).1.ending = .ok 0 ↔
      ∃ set data left, Command.load folder.read rules building = .ok set ∧ Snapshot.encode set = .ok data ∧
        folder.write output data = .ok left := by
  cases loaded : Command.load folder.read rules building with
  | error fault => simp [compiling_of_failed (compile_of_unloaded loaded), ending_fail_ne]
  | ok set =>
    cases saved : Snapshot.encode set with
    | error fault => simp [compiling_of_failed (compile_of_unsaved loaded saved), saved, ending_fail_ne]
    | ok data =>
      cases written : folder.write output data with
      | error fault => simp [compiling_of_unwritten loaded saved written, saved, written, ending_fail_ne]
      | ok left => simp [compiling_of_written loaded saved written, saved, written, succeed, Result.status]

end

/-- Where compiling a rule file succeeds, the output holds the snapshot of the rules and no other file changes, and names
checked against the snapshot get the lines and the status that they get against the rule file. It succeeds where the rules
load, have a snapshot and it can be written; only beyond four gibibytes a file may hold rules that have none. Where the rules
are refused, compiling ends with status 2 and changes no file. -/
theorem compile_then_check [Regex.Host] (folder : Folder) (rules output : String) (building : Building) (verbose : Bool)
    (apart : Folder.path output ≠ Folder.path rules) :
    let compiled := (compiling rules output building verbose).run folder
    (compiled.1.ending = .ok 0 →
      ∃ bytes set data, folder.read rules = .ok bytes ∧ Command.load folder.read rules building = .ok set ∧
        Snapshot.encode set = .ok data ∧ folder.Saves output data compiled.2 ∧
        ∀ names,
          let ofText := ((checking rules names false building verbose).run compiled.2).1
          let ofSnapshot := ((checking output names true building verbose).run compiled.2).1
          ofText.Tells names set ∧ ofSnapshot.output = ofText.output ∧ ofSnapshot.ending = ofText.ending) ∧
    (∀ set data left, Command.load folder.read rules building = .ok set → Snapshot.encode set = .ok data →
      folder.write output data = .ok left → compiled.1.ending = .ok 0) ∧
    (∀ bytes set, folder.read rules = .ok bytes → bytes.length < 2 ^ 32 → Command.load folder.read rules building = .ok set →
      ∃ data, Snapshot.encode set = .ok data) ∧
    ∀ fault, Command.load folder.read rules building = .error fault →
      compiled.2 = folder ∧ (fault.isReported = true → compiled.1.ending = .ok 2) := by
  intro compiled
  refine ⟨fun succeeded => ?_,
    fun set data left loaded saved written => ending_compiling_iff.mpr ⟨set, data, left, loaded, saved, written⟩,
    fun bytes set read small loaded => ?_, fun fault refused => ?_⟩
  · obtain ⟨set, data, left, loaded, saved, written⟩ := ending_compiling_iff.mp succeeded
    obtain ⟨bytes, read, built⟩ := bind_eq_ok.mp loaded
    have reached : compiled.2 = left := congrArg Prod.snd (compiling_of_written loaded saved written)
    have saves : folder.Saves output data compiled.2 := reached ▸ Folder.saves_of_write written
    refine ⟨bytes, set, data, read, loaded, saved, saves, fun names => ?_⟩
    -- The rule file reads as before, so that checking it loads the very set that was compiled.
    have reread : compiled.2.read rules = .ok bytes := (saves.kept rules apart.symm bytes).mpr read
    have ofText : ((checking rules names false building verbose).run compiled.2).1.Tells names set :=
      tells_of_load (by rw [Command.load, reread, ok_bind, built])
    obtain ⟨_, represents, passed, -⟩ := RuleText.exists_represents_of_build built
    obtain ⟨restored, decoded, same⟩ := Snapshot.decode_encode_of_represents represents passed saved
    have ofSnapshot : ((checking output names true building verbose).run compiled.2).1.Tells names set :=
      (tells_of_decode saves.written decoded).congr same
    exact ⟨ofText, ofSnapshot.output_eq.trans ofText.output_eq.symm, ofSnapshot.ending_eq.trans ofText.ending_eq.symm⟩
  · rw [Command.load, read, ok_bind] at loaded
    exact Snapshot.exists_encode.mpr (RuleFile.fits_of_load small loaded)
  · have stopped : compiled = _ := compiling_of_failed (compile_of_unloaded refused)
    exact ⟨congrArg Prod.snd stopped, fun told => (congrArg (·.1.ending) stopped).trans (ending_fail_of_isReported told)⟩

/-- A snapshot with fewer rules than its file has lines with rules, next to that file in a directory; and a file that is
refused. -/
theorem compile_then_check_pruned :
    let text := "suffix:a.b\nsuffix:b\r\nregexp:^é+$\n\ndomain:"
    let folder : Folder := ⟨[("d/rules", Text.Utf8.encode text), ("bad", Text.Utf8.encode "suffix:b\nsuffix;b")]⟩
    let building : Building := ⟨{ suffix := .trieRecursive, storage := .arena }, true, .byLine⟩
    Folder.path "./d//out" ≠ Folder.path "d/rules" ∧
    ((compiling "d/rules" "./d//out" building true).run folder).1.ending = .ok 0 ∧
    (∃ set data left, ((compiling "d/rules" "./d//out" building true).run folder).2 = left ∧
      Snapshot.encode set = .ok data ∧ folder.Saves "./d//out" data left ∧ ∀ names,
      ((checking "./d//out" names true building true).run left).1.output =
        ((checking "d/rules" names false building true).run left).1.output) ∧
    ((compiling "bad" "./d//out" building true).run folder).2 = folder ∧
    ((compiling "bad" "./d//out" building true).run folder).1.ending = .ok 2 := by
  intro text folder building
  have apart : Folder.path "./d//out" ≠ Folder.path "d/rules" := by decide +kernel
  have succeeded : ((compiling "d/rules" "./d//out" building true).run folder).1.ending = .ok 0 := by decide +kernel
  have invalid : Command.load folder.read "bad" building = .error (.invalidLine "suffix;b") :=
    eq_error_of_fault? (by decide +kernel)
  obtain ⟨compiles, -, -, -⟩ := compile_then_check folder "d/rules" "./d//out" building true apart
  obtain ⟨_, set, data, -, -, saved, saves, checks⟩ := compiles succeeded
  obtain ⟨-, -, -, refuses⟩ := compile_then_check folder "bad" "./d//out" building true (by decide +kernel)
  obtain ⟨unchanged, told⟩ := refuses _ invalid
  exact ⟨apart, succeeded, ⟨set, data, _, rfl, saved, saves, fun names => (checks names).2.1⟩, unchanged, told rfl⟩

end Request

end DomainRules.CommandLine
