import DomainRules.CapacityHint
import DomainRules.Random.Twister

/-! Synthetic rules and queries. Suffixes share few top labels, and some lie below others. Queries mix names
that rules cover with near misses and strangers; a few candidates get most of the traffic. -/

namespace DomainRules

/-- Rules of each kind, and the names that queries are drawn from. -/
structure Workload where
  rules : ByKind (List String)
  candidates : Array String

namespace Workload

def topLabels : Array String := #["com", "org", "io", "net", "dev", "cn", "xyz"]

def words : Array String := #[
  "example", "github", "google", "archlinux", "ipify", "cloudflare", "mozilla", "wikipedia", "kernel",
  "debian", "fedora", "python", "rust", "golang", "docker", "npmjs", "cdn", "static", "media", "edge"]

def hosts : Array String := #["www", "api", "cdn", "mail", "ws", "auth", "img", "dl"]

def host : Random String := Random.choose hosts (by decide)

def hostBefore (name : String) : Random String := return (← host) ++ "." ++ name

/-- The suffix with number `i`: a numbered word, one below a host, or a bare word. -/
def suffix (i : Nat) : Random String := do
  let top ← Random.choose topLabels (by decide)
  let word ← Random.choose words (by decide)
  let roll ← Random.real
  if roll < 0.5 then return word ++ toString i ++ "." ++ top
  else if roll < 0.8 then hostBefore (word ++ toString (i / 2) ++ "." ++ top)
  else return word ++ "." ++ top

/-- A host below one of the suffixes; without any, a numbered host elsewhere. -/
def domain (suffixes : Array String) (i : Nat) : Random String :=
  if nonempty : 0 < suffixes.size then do
    let before ← host
    return before ++ "." ++ (← Random.choose suffixes nonempty)
  else return "host" ++ toString i ++ ".example.net"

def keyword (i : Nat) : String := "kw" ++ toString i ++ "track"

def regexp (i : Nat) : String := "^ad" ++ toString i ++ "\\.[a-z]+\\.(com|net)$"

/-- A covered name and a near miss for a suffix. -/
def suffixCandidates (suffix : String) : Random (List String) :=
  return [← hostBefore suffix, "not" ++ suffix]

def unshuffled (suffixes domains keywords : List String) : Random (List String) := do
  let nested ← (suffixes.take 200).mapM suffixCandidates
  let carriers ← keywords.mapM fun keyword => hostBefore (keyword ++ ".example.org")
  let strangers ← (List.range 100).mapM fun i => hostBefore ("miss" ++ toString i ++ ".invalid")
  return nested.flatten ++ domains.take 100 ++ carriers ++ strangers

/-- Rules in the wanted numbers, of which negative ones count as zero, and their candidates. -/
def generate (sizes : ByKind Int) : Random Workload := do
  let upTo (size : Int) := List.range size.toNat
  let suffixes ← (upTo sizes.suffix).mapM suffix
  let domains ← (upTo sizes.domain).mapM (domain suffixes.toArray)
  let keywords := (upTo sizes.keyword).map keyword
  let candidates ← Random.shuffle (← unshuffled suffixes domains keywords).toArray
  return ⟨⟨domains, suffixes, keywords, (upTo sizes.regexp).map regexp⟩, candidates⟩

/-- The candidate with number `i` has weight `1 / (i + 1)`. -/
def weights (workload : Workload) : List Float :=
  (List.range workload.candidates.size).map fun i => 1.0 / (i + 1).toFloat

def queries (workload : Workload) (count : Int) : Random (List String) :=
  if workload.candidates.isEmpty then return []
  else Random.sample workload.candidates workload.weights count.toNat

def hint (workload : Workload) : CapacityHint :=
  .ofFn fun kind => ((workload.rules.get kind).length : Int)

/-- The rules as text, by kinds, behind the exact hint if one is wanted. -/
def text (workload : Workload) (withHint : Bool) : String :=
  let header := if withHint then [workload.hint.line] else []
  let lines := Kind.all.flatMap fun kind => (workload.rules.get kind).map (kind.tag ++ ·)
  "\n".intercalate (header ++ lines) ++ "\n"

end Workload

end DomainRules
