import DomainRules.CommandLine.Run
import DomainRules.Report

/-! The program. It reads the file that a command names, writes the one that it makes, and holds the clock for
benchmarks. -/

namespace DomainRules.Program

open CommandLine

variable [Regex.Host]

/-- The runtime counts problems up or down from zero. -/
def isCode (code : UInt32) (problem : FileProblem) : Bool :=
  code.toNat = problem.code || code.toNat + problem.code = UInt32.size

def problemOf : IO.Error → FileProblem
  | .permissionDenied .. => .denied
  | .inappropriateType _ code _ =>
    if isCode code .notADirectory then .notADirectory else .isADirectory
  | _ => .missing

/-- The bytes of a file, or why it cannot be read. -/
def readFile (name : String) : IO (Except Fault (List UInt8)) := do
  if name.toList.contains '\x00' then return .error .nullInName
  try return .ok (← IO.FS.readBinFile name).toList
  catch error => return .error (.file (problemOf error) name)

def writeFile (name : String) (bytes : List UInt8) : IO (Except Fault Unit) := do
  if name.toList.contains '\x00' then return .error .nullInName
  try
    IO.FS.writeBinFile name ⟨bytes.toArray⟩
    return .ok ()
  catch error => return .error (.file (problemOf error) name)

/-- Nanoseconds that passed while an action ran a number of times. -/
def elapsed (times : Nat) (action : IO Unit) : IO Float := do
  let start ← IO.monoNanosNow
  for _ in [0:times] do action
  return ((← IO.monoNanosNow) - start).toFloat

/-- Nanoseconds for one look at a name. -/
def timeLookups (set : RuleSet) (names : List String) (rounds : Nat) : IO Float := do
  let seen ← IO.mkRef true
  let spent ← elapsed rounds (names.forM fun name => seen.set (set.covers name))
  let calls := rounds * names.length
  return if calls = 0 then 0.0 else spent / calls.toFloat

/-- Names that stand alone are looked up as often as is asked for; a list of them is gone through as often as
that takes, but at least once. -/
def rounds (lookups : Int) : List String → Nat
  | [_] => lookups.toNat
  | names => Nat.max 1 (lookups.toNat / names.length)

def measure (source : RuleText.Source) (lookups : Int) (trial : Benchmark.Trial) : IO Measurement := do
  let times := trial.iterations.toNat
  let built ← IO.mkRef (Except.ok trial.set)
  let setup ← elapsed times (built.set (RuleText.build source true trial.options))
  let restore ← elapsed times (built.set (Snapshot.decode trial.snapshot trial.options))
  let lookups ← trial.lookups.mapM fun (title, names) =>
    return (title, ← timeLookups trial.set names (rounds lookups names))
  return {
    label := trial.label
    options := trial.options.description
    rules := trial.set.count
    iterations := trial.iterations
    snapshotBytes := trial.snapshot.length
    setup := setup / 1000000.0 / times.toFloat
    restore := restore / 1000000.0 / times.toFloat
    lookups }

/-- Times a benchmark and prints the comparison. -/
def report (request : Request) (lookups : Int) (bench : Bench) : IO Unit := do
  let out ← IO.getStdout
  let errors ← IO.getStderr
  errors.putStr (request.shown (.ofPresets bench.source Benchmark.presets))
  let time (lookups : Int) (trial : Benchmark.Trial) : IO Measurement := do
    let measured ← measure bench.source lookups trial
    errors.putStr (request.shown (.ofTrial bench.source trial measured.setup))
    return measured
  let measurements ← bench.trials.mapM (time lookups)
  out.putStr (Report.comparison measurements ++ "\n")
  if let some trial := bench.profiled then
    let measured ← time 1 trial
    out.putStr ("\n--- cProfile top functions (setup) ---\n" ++ toString measured.iterations
      ++ " builds, " ++ Report.milliseconds measured.setup ++ " ms each\n")

/-- Prints what is left of a run, and ends with its status. -/
def finish (outcome : Outcome) : IO UInt32 := do
  (← IO.getStdout).putStr outcome.output
  (← IO.getStderr).putStr outcome.errors
  match outcome.ending with
  | .ok status => return status.toUInt32
  | .error fault => throw (IO.userError fault.message)

def run (request : Request) : IO UInt32 := do
  let read ← match request.command.rules? with
    | some name => readFile name
    | none => pure (.ok [])
  let files (_ : String) := read
  let journal := request.command.journal files
  match request.command.run files with
  | .error fault => finish (request.fail journal fault)
  | .ok (.bench bench) =>
    report request request.command.lookups bench
    return 0
  | .ok result =>
    let written ← match result.file? with
      | .ok (some (name, bytes)) => writeFile name bytes
      | .ok none => pure (.ok ())
      | .error fault => pure (.error fault)
    finish (match written with
      | .error fault => request.fail journal fault
      | .ok () => request.succeed journal result)

end DomainRules.Program

def main (words : List String) : IO UInt32 :=
  match DomainRules.CommandLine.Request.read words with
  | .error stop => DomainRules.Program.finish stop.outcome
  | .ok request => DomainRules.Program.run request
