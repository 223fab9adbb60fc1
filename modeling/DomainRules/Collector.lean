import DomainRules.Fault
import DomainRules.Matcher

/-! Collectors: they take the rules of one kind and freeze once into a matcher. -/

namespace DomainRules

/-- Rules collected so far, in the representation that they will be frozen from. -/
inductive Collector.Store
  | domainList (names : Array String)
  | domainSet (names : Std.TreeSet String)
  | suffixList (suffixes : Array String)
  | suffixSet (suffixes : Std.TreeSet String)
  | suffixTrie (recursive : Bool) (trie : Suffix.Trie)
  | keywordList (keywords : Array String)
  | patternList (patterns : Array Regex.Pattern)

/-- The capacity is what a hint expects and has no effect. `inserted` counts the values taken, duplicates
included. -/
structure Collector where
  capacity : Int
  store : Collector.Store
  inserted : Nat := 0
  frozen : Bool := false

variable [Regex.Host]

def compilePattern (source : String) : Except Fault Regex.Pattern :=
  (Regex.Pattern.compile source).mapError (Fault.ofRegex source)

namespace Collector

namespace Store

def insert (value : String) : Store → Except Fault Store
  | domainList names => .ok (.domainList (names.push value))
  | domainSet names => .ok (.domainSet (names.insert value))
  | suffixList suffixes => .ok (.suffixList (suffixes.push value))
  | suffixSet suffixes => .ok (.suffixSet (suffixes.insert value))
  | suffixTrie false trie => .ok (.suffixTrie false (trie.insert value))
  | suffixTrie true trie =>
    match trie.insertRecursive? value with
    | some grown => .ok (.suffixTrie true grown)
    | none => .error (.tooDeep value)
  | keywordList keywords => .ok (.keywordList (keywords.push value))
  | patternList patterns => do
    let pattern ← compilePattern value
    return .patternList (patterns.push pattern)

def freeze : Store → Except Fault Matcher
  | domainList names => .ok (.domainList names.toList)
  | domainSet names => .ok (.domainSet names)
  | suffixList suffixes => .ok (.suffixList suffixes.toList)
  | suffixSet suffixes => .ok (.suffixSet suffixes)
  | suffixTrie recursive trie =>
    match trie.freeze with
    | .ok row => .ok (.suffixTrie recursive row)
    | .error flaw => .error (.flawedTrie flaw)
  | keywordList keywords => .ok (.keywordList keywords.toList)
  | patternList patterns => .ok (.patternList patterns.toList)

def title : Store → String
  | domainList _ => "DomainLinearBuilder"
  | domainSet _ => "DomainHashBuilder"
  | suffixList _ => "SuffixLinearBuilder"
  | suffixSet _ => "SuffixHashBuilder"
  | suffixTrie .. => "SuffixTrieBuilder"
  | keywordList _ => "KeywordLinearBuilder"
  | patternList _ => "RegexpLinearBuilder"

def new (options : Options) : Kind → Store
  | .domain =>
    match options.domain with
    | .linear => .domainList #[]
    | .hash => .domainSet ∅
  | .suffix =>
    match options.suffix with
    | .linear => .suffixList #[]
    | .hash => .suffixSet ∅
    | .trie => .suffixTrie false .empty
    | .trieRecursive => .suffixTrie true .empty
  | .keyword => .keywordList #[]
  | .regexp => .patternList #[]

end Store

def new (kind : Kind) (options : Options) (capacity : Int := 0) : Collector :=
  { capacity, store := .new options kind }

def title (collector : Collector) : String := collector.store.title

/-- A value that is refused leaves the collector as it was. -/
def insert (collector : Collector) (value : String) : Except Fault Collector :=
  if collector.frozen then .error (.alreadyFrozen collector.title)
  else do
    let store ← collector.store.insert value
    return { collector with store, inserted := collector.inserted + 1 }

def insertAll (collector : Collector) (values : List String) : Except Fault Collector :=
  values.foldlM insert collector

/-- The matcher and the collector afterwards, which stays frozen even when its rules are refused. -/
def freeze (collector : Collector) : Except Fault Matcher × Collector :=
  if collector.frozen then (.error (.alreadyFrozen collector.title), collector)
  else (collector.store.freeze, { collector with frozen := true })

/-- Puts a new label without children under the root of a trie; other stores have no root. -/
def graft (collector : Collector) (label : String) : Collector :=
  match collector.store with
  | .suffixTrie recursive trie =>
    let children := trie.children.put label ⟨false, .nil⟩
    { collector with store := .suffixTrie recursive { trie with children } }
  | _ => collector

/-- Whether suffixes are inserted by recursion; only a trie can tell. -/
def recursive? (collector : Collector) : Option Bool :=
  match collector.store with
  | .suffixTrie recursive _ => some recursive
  | _ => none

end Collector

end DomainRules
