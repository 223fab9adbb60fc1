import DomainRules.RuleText.Parse
import DomainRules.Snapshot

/-! Benchmarks compare presets: first whether they agree, then what each of them costs. What is measured is
fixed here; clocks belong to the program. -/

namespace DomainRules.Benchmark

abbrev Preset := String × Options

def presets : List Preset := [
  ("linear", .linear),
  ("suffix-map", .fast),
  ("trie", {}),
  ("trie-recursive", { suffix := .trieRecursive }),
  ("trie-clone", { storage := .clone }),
  ("trie-arena", { storage := .arena })]

/-- Names of different depth that every benchmark looks up. -/
def fixedNames : List (String × String) := [
  ("short", "localhost"),
  ("medium", "www.example.com"),
  ("long", "cant.come.up.with.a.long.domain.name")]

/-- What the names of a run of lookups are called, and the names. -/
abbrev Lookup := String × List String

structure Trial where
  label : String
  options : Options
  set : RuleSet
  snapshot : List UInt8
  iterations : Int
  lookups : List Lookup

/-- Presets of one name are one preset, with the options given last. -/
def distinct (given : List Preset) : List Preset :=
  given.foldl
    (fun known preset =>
      if known.any (·.1 == preset.1) then
        known.map fun other => if other.1 == preset.1 then preset else other
      else known ++ [preset])
    []

def lookups (workload : List String) : List Lookup :=
  fixedNames.map (fun (title, name) => (title, [name]))
    ++ if workload.isEmpty then [] else [("mixed", workload)]

variable [Regex.Host]

/-- Builds a configuration and restores it once from its snapshot. -/
def trial (source : RuleText.Source) (options : Options) (iterations : Int) (workload : List String)
    (label : String) : Except Fault Trial := do
  if iterations ≤ 0 then throw (.iterations iterations)
  let set ← RuleText.build source true options
  let snapshot ← Snapshot.encode set
  let _ ← Snapshot.decode snapshot options
  return {
    label := if label.isEmpty then options.description else label
    options, set, snapshot, iterations
    lookups := lookups workload }

abbrev Judge := RuleSet → String → Bool

def mismatches (judge : Judge) (sets : List RuleSet) (names : List String) : List String :=
  names.filter fun name =>
    let answers := sets.map (judge · name)
    answers.contains true && answers.contains false

def disagreements (judge : Judge) (source : RuleText.Source) (names : List String)
    (presets : List Preset) : Except Fault (List String) := do
  let sets ← presets.mapM fun (_, options) => RuleText.build source true options
  return mismatches judge sets names

/-- A trial for each preset, provided that all agree on the fixed names and the workload. -/
def compare (judge : Judge) (source : RuleText.Source) (iterations : Int) (workload : List String)
    (presets : List Preset) : Except Fault (List Trial) := do
  let names := fixedNames.map (·.2) ++ workload
  let differing ← disagreements judge source names presets
  if differing ≠ [] then throw (.disagreement differing)
  presets.mapM fun (label, options) => trial source options iterations workload label

end DomainRules.Benchmark
