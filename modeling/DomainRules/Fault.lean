import DomainRules.CapacityHint
import DomainRules.Options
import DomainRules.Regex.Fault
import DomainRules.Suffix.Trie
import DomainRules.Text.Utf8

/-! Everything that can go wrong, and how it is told. -/

namespace DomainRules

/-- Why bytes are no snapshot. -/
inductive Snapshot.Flaw
  | noHeader
  | magic (bytes : List UInt8)
  | version (given : Nat)
  | noNumber (offset : Nat)
  | shortRule (kind : Kind) (offset : Nat)
  | undecodableRule (kind : Kind) (offset : Nat)
  | trailing (count : Nat)
  deriving DecidableEq

/-- Why the system does not open a file. -/
inductive FileProblem
  | missing
  | denied
  | notADirectory
  | isADirectory
  deriving DecidableEq

inductive Fault
  | emptyRules
  | malformedHint (line : String) (flaw : CapacityHint.Flaw)
  | invalidLine (line : String)
  | badPattern (pattern : String) (complaint : Regex.Complaint) (position : Option Nat)
  | hugeBound
  | longBound (digits : Nat)
  | twoAlphabets
  | nestedTooDeep
  | flawedTrie (flaw : Suffix.Flaw)
  | tooDeep (suffix : String)
  | badSnapshot (flaw : Snapshot.Flaw)
  | numberTooLarge
  | alreadyFrozen (owner : String)
  | undecodable (fault : Text.Utf8.Fault)
  | file (problem : FileProblem) (name : String)
  | nullInName
  | noOutputName
  | unwritable (kind : Kind) (rule : String)
  | badOptions (flaw : Options.Flaw)
  | unknownStorage (value : String)
  | chunkSize (given : Int)
  | noLabel (label : String)
  | iterations (given : Int)
  | disagreement (names : List String)
  deriving DecidableEq

namespace Fault

def ofRegex (pattern : String) : Regex.Fault → Fault
  | .complaint complaint position => .badPattern pattern complaint position
  | .hugeBound => .hugeBound
  | .longBound digits => .longBound digits
  | .twoAlphabets => .twoAlphabets
  | .nestedTooDeep => .nestedTooDeep

/-- Problems with the rules themselves, as opposed to their use. -/
def isAboutRules : Fault → Bool
  | emptyRules | malformedHint .. | invalidLine _ | badPattern .. | flawedTrie _ | tooDeep _
  | badSnapshot _ => true
  | _ => false

/-- Faults that end a command with a message. -/
def isReported : Fault → Bool
  | file .. | undecodable _ => true
  | fault => fault.isAboutRules

end Fault

def Suffix.Flaw.message : Suffix.Flaw → String
  | includedRoot => "trie root must not be marked included"
  | childrenBelow place count =>
    "included node " ++ Text.quoted place ++ " still has " ++ toString count ++ " children"
  | dangling place => "dangling node " ++ Text.quoted place ++ ": not included and no children"

def Snapshot.Flaw.message : Snapshot.Flaw → String
  | noHeader => "truncated snapshot header"
  | magic bytes => "bad snapshot magic " ++ Text.quotedBytes bytes
  | version given => "unsupported snapshot version " ++ toString given
  | noNumber offset => "truncated snapshot at offset " ++ toString offset
  | shortRule kind offset => "truncated " ++ kind.name ++ " rule at offset " ++ toString offset
  | undecodableRule kind offset => kind.name ++ " rule at offset " ++ toString offset ++ " is not UTF-8"
  | trailing count => toString count ++ " trailing bytes after snapshot"

/-- The number of a problem among those of the system, and its text. -/
def FileProblem.code : FileProblem → Nat
  | missing => 2
  | denied => 13
  | notADirectory => 20
  | isADirectory => 21

def FileProblem.text : FileProblem → String
  | missing => "No such file or directory"
  | denied => "Permission denied"
  | notADirectory => "Not a directory"
  | isADirectory => "Is a directory"

def Text.Utf8.Fault.message (fault : Text.Utf8.Fault) : String :=
  let place :=
    if fault.length = 1 then
      "byte 0x" ++ String.ofList (Text.hexDigits 2 fault.first.toNat) ++ " in position "
        ++ toString fault.position
    else
      "bytes in position " ++ toString fault.position ++ "-"
        ++ toString (fault.position + fault.length - 1)
  "'utf-8' codec can't decode " ++ place ++ ": " ++ fault.reason.message

def Fault.message : Fault → String
  | emptyRules => "empty ruleset: no rule lines found"
  | malformedHint line flaw => "bad capacity hint (" ++ flaw.message ++ "): " ++ line
  | invalidLine line => "invalid line: " ++ line
  | badPattern pattern complaint position =>
    "bad regexp " ++ Text.quoted pattern ++ ": " ++ complaint.reason pattern.toList position
  | hugeBound => "the repetition number is too large"
  | longBound digits =>
    "Exceeds the limit (" ++ toString 4300 ++ " digits) for integer string conversion: value has "
      ++ toString digits ++ " digits; use sys.set_int_max_str_digits() to increase the limit"
  | twoAlphabets => "ASCII and UNICODE flags are incompatible"
  | nestedTooDeep => "maximum recursion depth exceeded"
  | flawedTrie flaw => flaw.message
  | tooDeep suffix =>
    "suffix too deep for recursive insert (" ++ toString (Name.depth suffix) ++ " labels, limit "
      ++ toString Suffix.Trie.recursionLimit
      ++ "); the iterative trie, hash and linear strategies accept it: "
      ++ String.ofList (suffix.toList.take 64) ++ "..."
  | badSnapshot flaw => flaw.message
  | numberTooLarge => "'I' format requires 0 <= number <= " ++ toString 0xFFFFFFFF
  | alreadyFrozen owner => owner ++ " already frozen"
  | undecodable fault => fault.message
  | file problem name =>
    "[Errno " ++ toString problem.code ++ "] " ++ problem.text ++ ": " ++ Text.quoted name
  | nullInName => "embedded null byte"
  | noOutputName => "expected str, bytes or os.PathLike object, not list"
  | unwritable kind rule =>
    kind.name ++ " rule cannot be written as a line: " ++ Text.quoted rule
  | badOptions flaw => flaw.message
  | unknownStorage value => "unknown materialize strategy: " ++ Text.quoted value
  | chunkSize given => "chunk_size must be positive, got " ++ toString given
  | noLabel label => Text.quoted label
  | iterations given => "iterations must be positive, got " ++ toString given
  | disagreement names =>
    "presets disagree on " ++ toString names.length ++ " domains, e.g. "
      ++ Text.quotedList (names.take 5)

end DomainRules
