import DomainRules.CommandLine.Folder
import DomainRules.CommandLine.Request
import DomainRules.Decimal.Fixed
import DomainRules.Journal
import DomainRules.Workload

/-! Running commands: what each of them finds out about the files of a folder, and what it prints, writes and
exits with. -/

namespace DomainRules.CommandLine

variable [Regex.Host]

/-- Everything that a benchmark times: a text of rules, a trial for each preset, and one more that is profiled
if that is asked for. -/
structure Bench where
  source : RuleText.Source
  trials : List Benchmark.Trial
  profiled : Option Benchmark.Trial

/-- What the names looked up are called, in order of first mention. -/
def Bench.titles (bench : Bench) : List String :=
  (bench.trials.flatMap fun trial => trial.lookups.map (·.1)).eraseDups

inductive Result
  | verdicts (answers : List (String × Bool))
  | snapshot (rules : Nat) (bytes : List UInt8) (output : Option String)
  | bench (bench : Bench)

namespace Command

abbrev Files := String → Except Fault (List UInt8)

def load (files : Files) (rules : String) (building : Building) : Except Fault RuleSet := do
  RuleFile.load (← files rules) building.access building.useHint building.options

def verdicts (names : List String) (set : RuleSet) : Result :=
  .verdicts (names.map fun name => (name, set.covers name))

/-- The rules in a file, or generated ones; and names to look up, which are drawn in either case. -/
def material (files : Files) (rules : Option String) (benching : Benching) :
    Except Fault (RuleText.Source × List String) := do
  let draw : Random (Workload × List String) := do
    let workload ← Workload.generate ⟨200, benching.suffixes, 4, 2⟩
    return (workload, ← workload.queries 1000)
  let (workload, names) := (draw (.ofSeed benching.seed)).1
  match rules with
  | none => return (.text (workload.text true), names)
  | some name => return (.text (← RuleText.decode (← files name)), names)

def runBench (source : RuleText.Source) (names : List String) (benching : Benching) :
    Except Fault Bench := do
  let trials ← Benchmark.compare RuleSet.covers source benching.iterations names Benchmark.presets
  let profiled ←
    if benching.profiled then some <$> Benchmark.trial source {} benching.iterations [] "trie"
    else pure none
  return ⟨source, trials, profiled⟩

def run (files : Files) (command : Command) : Except Fault Result :=
  match command with
  | .check rules names true building => do
    return verdicts names (← Snapshot.decode (← files rules) building.options)
  | .check rules names false building => do return verdicts names (← load files rules building)
  | .compile rules output building => do
    let set ← load files rules building
    return .snapshot set.count (← Snapshot.encode set) output
  | .bench rules benching => do
    let (source, names) ← material files rules benching
    return .bench (← runBench source names benching)

def journalOfLoad (files : Files) (rules : String) (building : Building) : Journal :=
  match files rules with
  | .error _ => []
  | .ok bytes => .ofLoad rules bytes building.access building.useHint building.options

def journal (files : Files) (command : Command) : Journal :=
  match command with
  | .check rules _ true building =>
    match files rules with
    | .error _ => []
    | .ok bytes => .ofDecode bytes building.options
  | .check rules _ false building => journalOfLoad files rules building
  | .compile rules _ building =>
    journalOfLoad files rules building ++ match load files rules building with
      | .error _ => []
      | .ok set => .ofEncode set
  | .bench rules benching =>
    match material files rules benching with
    | .error _ => []
    | .ok (source, names) =>
      .ofPresets source Benchmark.presets ++ match runBench source names benching with
        | .error _ => []
        | .ok found => (found.trials ++ found.profiled.toList).flatMap (Journal.ofTrial source ·)

end Command

namespace Result

def status : Result → Nat
  | verdicts answers => if answers.all (·.2) then 0 else 1
  | _ => 0

/-- What is printed; a benchmark has nothing to print until it has been timed. -/
def output : Result → String
  | verdicts answers =>
    let line (answer : String × Bool) :=
      answer.1 ++ "\t" ++ (if answer.2 then "true" else "false") ++ "\n"
    String.join (answers.map line)
  | snapshot rules bytes output =>
    "wrote " ++ Decimal.grouped rules ++ " rules (" ++ Decimal.grouped bytes.length ++ " bytes) to "
      ++ output.getD "" ++ "\n"
  | bench _ => ""

def bench? : Result → Option Bench
  | bench found => some found
  | _ => none

def file? : Result → Except Fault (Option (String × List UInt8))
  | snapshot _ bytes (some name) => .ok (some (name, bytes))
  | snapshot _ _ none => .error .noOutputName
  | _ => .ok none

end Result

/-- What is left of a run: text, notes, what is to be timed, and the exit status, unless there was a fault that
is not reported. -/
structure Outcome where
  ending : Except Fault Nat
  output : String := ""
  errors : String := ""
  journal : Journal := []
  bench : Option Bench := none

def Stop.outcome : Stop → Outcome
  | .help usage => { ending := .ok 0, output := usage ++ "\n" }
  | .refused program problem =>
    { ending := .ok 2, errors := program ++ ": error: " ++ problem.message ++ "\n" }

namespace Request

def shown (request : Request) (journal : Journal) : String :=
  if request.verbose then String.join (journal.map fun note => note.line ++ "\n") else ""

/-- A reported fault is told behind a last note. -/
def fail (request : Request) (journal : Journal) (fault : Fault) : Outcome :=
  if fault.isReported then
    let journal := journal ++ [⟨"domainset_lite", "command " ++ request.command.name ++ " failed"⟩]
    let errors := request.shown journal ++ "error: " ++ fault.message ++ "\n"
    { ending := .ok 2, errors, journal }
  else { ending := .error fault, errors := request.shown journal, journal }

def succeed (request : Request) (journal : Journal) (result : Result) : Outcome where
  ending := .ok result.status
  output := result.output
  errors := request.shown journal
  journal := journal
  bench := result.bench?

def run (request : Request) (folder : Folder) : Outcome × Folder :=
  let journal := request.command.journal folder.read
  match request.command.run folder.read with
  | .error fault => (request.fail journal fault, folder)
  | .ok result =>
    match result.file? with
    | .error fault => (request.fail journal fault, folder)
    | .ok none => (request.succeed journal result, folder)
    | .ok (some (name, bytes)) =>
      match folder.write name bytes with
      | .error fault => (request.fail journal fault, folder)
      | .ok saved => (request.succeed journal result, saved)

end Request

def run (words : List String) (folder : Folder) : Outcome × Folder :=
  match Request.read words with
  | .error stop => (stop.outcome, folder)
  | .ok request => request.run folder

end DomainRules.CommandLine
