import DomainRules.Benchmark
import DomainRules.Decimal.Fixed
import DomainRules.RuleFile

/-! The journal: what each activity notes while it runs, computed from what it starts from. -/

namespace DomainRules

/-- A note and the part of the program that makes it. -/
structure Note where
  source : String
  message : String

abbrev Journal := List Note

def Note.line (note : Note) : String := "DEBUG " ++ note.source ++ ": " ++ note.message

namespace Journal

variable [Regex.Host]

def parsing : String := "domainset_lite.parser"
def storing : String := "domainset_lite.materialize"
def freezing : String := "domainset_lite.domainset"
def saving : String := "domainset_lite.snapshot"
def loading : String := "domainset_lite.loader"
def timing : String := "domainset_lite.profiling.harness"

/-- A note for each retired chunk, numbered from `number` on. -/
def ofChunks (number : Nat) : List Arena.Chunk → Journal
  | [] => []
  | chunk :: chunks =>
    ⟨storing, "arena chunk " ++ toString number ++ " full (" ++ toString chunk.used ++ "/"
      ++ toString chunk.capacity ++ " bytes), starting a new one"⟩ :: ofChunks (number + 1) chunks

def ofStrings (strings : StringStore) : Journal := ofChunks 1 strings.retired

def ofAttempt : RuleText.Attempt → Journal
  | .error _ => []
  | .ok (progress, fault) =>
    let count kind := kind.name ++ "=" ++ toString (progress.builder.countOf kind)
    ofStrings progress.strings ++
      if fault.isSome then []
      else [⟨parsing, "parsed " ++ toString progress.rules ++ " rules from " ++ toString progress.lines
        ++ " lines (" ++ " ".intercalate (Kind.all.map count) ++ ")"⟩]

/-- Where a hint other than zeros was wrong. -/
def ofHint (builder : Builder) : Journal :=
  if builder.hint = .unknown then []
  else (Kind.all.filter fun kind => builder.hint.get kind ≠ builder.countOf kind).map fun kind =>
    ⟨freezing, "capacity hint for " ++ kind.name ++ " was " ++ toString (builder.hint.get kind)
      ++ ", got " ++ toString (builder.countOf kind) ++ " rules"⟩

def ofFreeze (builder : Builder) : Journal :=
  if builder.frozen then []
  else ofHint builder ++ match builder.freeze.1 with
    | .error _ => []
    | .ok set =>
      let member (matcher : Matcher) := matcher.kind.name ++ "=" ++ toString matcher.count
      let members := ", ".intercalate (set.matchers.map member)
      [⟨freezing, "froze domain set (" ++ builder.options.description ++ "): "
        ++ if members.isEmpty then "empty" else members⟩]

/-- Parsing and, if it succeeds, further notes and freezing. -/
def ofParse (attempt : RuleText.Attempt) (between : Journal := []) : Journal :=
  ofAttempt attempt ++ match attempt.builder with
    | .error _ => []
    | .ok builder => between ++ ofFreeze builder

def ofBuild (source : RuleText.Source) (useHint : Bool) (options : Options) : Journal :=
  ofParse (source.attempt useHint options)

def ofLoad (name : String) (bytes : List UInt8) (access : RuleFile.Access) (useHint : Bool)
    (options : Options) : Journal :=
  let mapped := if access = .byLine then "True" else "False"
  ofParse ((RuleFile.source bytes access).attempt useHint options)
    [⟨loading, "loaded " ++ name ++ " (mmap=" ++ mapped ++ ")"⟩]

def ofEncode (set : RuleSet) : Journal :=
  match Snapshot.encode set with
  | .error _ => []
  | .ok bytes =>
    let rules := (Kind.all.flatMap set.rules).length
    [⟨saving, "serialized " ++ toString rules ++ " rules into " ++ toString bytes.length ++ " bytes"⟩]

def ofDecode (bytes : List UInt8) (options : Options) : Journal :=
  match Snapshot.restore bytes options with
  | .error _ => []
  | .ok builder =>
    ⟨saving, "restored " ++ toString builder.count ++ " rules from " ++ toString bytes.length
      ++ " bytes"⟩ :: ofFreeze builder

/-- Building presets in turn, as far as they can be built. -/
def ofPresets (source : RuleText.Source) : List Benchmark.Preset → Journal
  | [] => []
  | (_, options) :: others =>
    ofBuild source true options ++ match RuleText.build source true options with
      | .error _ => []
      | .ok _ => ofPresets source others

/-- Building a configuration and restoring it, as often as it is timed, and the time of a build if that is
known. -/
def ofTrial (source : RuleText.Source) (trial : Benchmark.Trial) (setup : Option Float := none) :
    Journal :=
  let each (journal : Journal) := (List.replicate trial.iterations.toNat journal).flatten
  let timed (setup : Float) : Note :=
    ⟨timing, "benchmarked " ++ trial.label ++ ": setup " ++ Decimal.fixed 2 setup ++ " ms"⟩
  each (ofBuild source true trial.options) ++ ofEncode trial.set
    ++ each (ofDecode trial.snapshot trial.options) ++ (setup.map timed).toList

end Journal

end DomainRules
