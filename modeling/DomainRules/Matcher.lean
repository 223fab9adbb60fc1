import DomainRules.Name
import DomainRules.Regex.Pattern
import DomainRules.Rule
import DomainRules.Suffix.Trie
import Std.Data.TreeSet

/-! Matchers: rules of one kind, frozen in one representation. -/

namespace DomainRules

inductive Matcher
  | domainList (names : List String)
  | domainSet (names : Std.TreeSet String)
  | suffixList (suffixes : List String)
  | suffixSet (suffixes : Std.TreeSet String)
  | suffixTrie (recursive : Bool) (row : Suffix.Frozen)
  | keywordList (keywords : List String)
  | patternList (patterns : List Regex.Pattern)

namespace Matcher

def kind : Matcher → Kind
  | domainList _ | domainSet _ => .domain
  | suffixList _ | suffixSet _ | suffixTrie .. => .suffix
  | keywordList _ => .keyword
  | patternList _ => .regexp

/-- Whether the first text occurs in the second. -/
def occursIn (part : List Char) : List Char → Bool
  | [] => part.isEmpty
  | c :: text => part.isPrefixOf (c :: text) || occursIn part text

/-- Whether a name is covered. A lookup by recursion may take as many calls as the suffixes may have labels. -/
def covers (matcher : Matcher) (name : String) : Bool :=
  match matcher with
  | domainList names => names.contains name
  | domainSet names => names.contains name
  | suffixList suffixes =>
    let chars := name.toList
    suffixes.any fun suffix => Name.coversChars suffix.toList chars
  | suffixSet suffixes => (Name.tails name).any suffixes.contains
  | suffixTrie recursive row =>
    if recursive then row.coversRecursive Suffix.Trie.recursionLimit name == some true else row.covers name
  | keywordList keywords =>
    let chars := name.toList
    keywords.any fun keyword => occursIn keyword.toList chars
  | patternList patterns => patterns.any (·.search name)

/-- The answer for a name, with so many calls that may be open at once. Only recursion can be left without one. -/
def ask (calls : Nat) (matcher : Matcher) (name : String) : Option Bool :=
  match matcher with
  | suffixTrie true row => row.coversRecursive calls name
  | matcher => some (matcher.covers name)

/-- Rules that suffice to build an equal matcher again. -/
def rules : Matcher → List String
  | domainList names => names
  | domainSet names => names.toList
  | suffixList suffixes => suffixes
  | suffixSet suffixes => suffixes.toList
  | suffixTrie _ row => row.rules
  | keywordList keywords => keywords
  | patternList patterns => patterns.map (·.source)

/-- Rules held, duplicates and covered ones left out where the representation drops them. -/
def count : Matcher → Nat
  | domainList names => names.length
  | domainSet names => names.size
  | suffixList suffixes => suffixes.length
  | suffixSet suffixes => suffixes.size
  | suffixTrie _ row => row.leafCount
  | keywordList keywords => keywords.length
  | patternList patterns => patterns.length

def title : Matcher → String
  | domainList _ => "DomainLinearMatcher"
  | domainSet _ => "DomainHashMatcher"
  | suffixList _ => "SuffixLinearMatcher"
  | suffixSet _ => "SuffixHashMatcher"
  | suffixTrie false _ => "FrozenSuffixTrie"
  | suffixTrie true _ => "FrozenSuffixTrieR"
  | keywordList _ => "KeywordLinearMatcher"
  | patternList _ => "RegexpLinearMatcher"

def shown (matcher : Matcher) : String :=
  matcher.title ++ "(rules=" ++ toString matcher.count ++ ")"

end Matcher

end DomainRules
