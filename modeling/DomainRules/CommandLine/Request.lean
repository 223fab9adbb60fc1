import DomainRules.CommandLine.Grammar
import DomainRules.Options
import DomainRules.RuleFile

/-! Requests: the commands, the words that ask for them, and their defaults. -/

namespace DomainRules.CommandLine

structure Building where
  options : Options
  useHint : Bool
  access : RuleFile.Access

/-- What a benchmark runs on, unless a rule file is given, and how long. -/
structure Benching where
  suffixes : Int
  seed : Int
  iterations : Int
  lookups : Int
  profiled : Bool
  access : RuleFile.Access

inductive Command
  | check (rules : String) (names : List String) (isSnapshot : Bool) (building : Building)
  | compile (rules : String) (output : Option String) (building : Building)
  | bench (rules : Option String) (benching : Benching)

def Command.name : Command → String
  | check .. => "match"
  | compile .. => "compile"
  | bench .. => "bench"

def Command.rules? : Command → Option String
  | check rules .. => some rules
  | compile rules .. => some rules
  | bench rules _ => rules

def Command.lookups : Command → Int
  | bench _ benching => benching.lookups
  | _ => 0

structure Request where
  verbose : Bool
  command : Command

namespace Request

def program : String := "domainset-lite"

def help : Switch := ⟨["-h", "--help"], .help⟩

def buildSwitches : List Switch := [
  ⟨["--domain-strategy"], .choice (DomainIndex.all.map DomainIndex.name)⟩,
  ⟨["--suffix-strategy"], .choice (SuffixIndex.all.map SuffixIndex.name)⟩,
  ⟨["--materialize"], .choice (Storage.all.map Storage.name)⟩,
  ⟨["--no-capacity-hint"], .nothing⟩,
  ⟨["--mmap"], .nothing⟩]

def checkGrammar : Grammar where
  program := program ++ " match"
  switches := help :: ⟨["--snapshot"], .nothing⟩ :: buildSwitches
  operands := [⟨"rules", .one⟩, ⟨"domains", .many⟩]

def compileGrammar : Grammar where
  program := program ++ " compile"
  switches := help :: buildSwitches
  operands := [⟨"rules", .one⟩, ⟨"output", .one⟩]

def benchGrammar : Grammar where
  program := program ++ " bench"
  switches := [
    help,
    ⟨["--iterations"], .number⟩,
    ⟨["--lookups"], .number⟩,
    ⟨["--suffixes"], .number⟩,
    ⟨["--seed"], .number⟩,
    ⟨["--cprofile"], .nothing⟩,
    ⟨["--mmap"], .nothing⟩]
  operands := [⟨"rules", .optional⟩]

def grammar : Grammar where
  program := program
  switches := [help, ⟨["-v", "--verbose"], .nothing⟩]
  operands := [⟨"command", .command ["match", "compile", "bench"]⟩]

def access (reading : Reading) : RuleFile.Access :=
  if reading.has "--mmap" then .byLine else .whole

/-- Names that are not given, or that mean nothing, stand for the defaults. -/
def building (reading : Reading) : Building where
  options := {
    domain := ((reading.word? "--domain-strategy").bind DomainIndex.ofName?).getD .hash
    suffix := ((reading.word? "--suffix-strategy").bind SuffixIndex.ofName?).getD .trie
    storage := ((reading.word? "--materialize").bind Storage.ofName?).getD .asIs }
  useHint := !reading.has "--no-capacity-hint"
  access := access reading

def benching (reading : Reading) : Benching where
  suffixes := (reading.number? "--suffixes").getD 2000
  seed := (reading.number? "--seed").getD 42
  iterations := (reading.number? "--iterations").getD 20
  lookups := (reading.number? "--lookups").getD 100000
  profiled := reading.has "--cprofile"
  access := access reading

/-- Reads a command by name, and the words that it has no use for. -/
def readCommand (name : String) (words : List String) : Except Stop (Command × List String) :=
  match name with
  | "compile" => do
    let reading ← compileGrammar.read words
    return (.compile ((reading.word? "rules").getD "") (reading.word? "output") (building reading),
      reading.extra)
  | "bench" => do
    let reading ← benchGrammar.read words
    let rules := (reading.word? "rules").filter (!·.isEmpty)
    return (.bench rules (benching reading), reading.extra)
  | _ => do
    let reading ← checkGrammar.read words
    return (.check ((reading.word? "rules").getD "") (reading.words "domains")
      (reading.has "--snapshot") (building reading), reading.extra)

/-- Reads the words of a command line. Without a command, help is all there is; words without use are refused
after everything else. -/
def read (words : List String) : Except Stop Request := do
  let reading ← grammar.read words
  match reading.words "command" with
  | [] =>
    if reading.extra = [] then throw (.help grammar.usage)
    else grammar.refuse (.unrecognized reading.extra)
  | name :: rest =>
    let (command, extra) ← readCommand name rest
    let extra := reading.extra ++ extra
    if extra = [] then return ⟨reading.has "--verbose", command⟩
    else grammar.refuse (.unrecognized extra)

end Request

end DomainRules.CommandLine
