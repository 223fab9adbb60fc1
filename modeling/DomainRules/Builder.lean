import DomainRules.Collector
import DomainRules.RuleSet

/-! Builders: one collector for each kind, frozen together into a rule set. -/

namespace DomainRules

structure Builder where
  options : Options
  hint : CapacityHint
  collectors : ByKind Collector
  frozen : Bool := false

namespace Builder

variable [Regex.Host]

def new (options : Options) (hint : CapacityHint := .unknown) : Builder :=
  { options, hint, collectors := .ofFn fun kind => .new kind options (hint.get kind) }

def title : String := "Builder"

/-- Inserts into the collector of a kind, whether or not the builder is frozen. -/
def insertInto (builder : Builder) (kind : Kind) (value : String) : Except Fault Builder := do
  let collector ← (builder.collectors.get kind).insert value
  return { builder with collectors := builder.collectors.set kind collector }

def insert (builder : Builder) (kind : Kind) (value : String) : Except Fault Builder :=
  if builder.frozen then .error (.alreadyFrozen title) else builder.insertInto kind value

/-- Freezes the collector of a kind, whether or not the builder is frozen. -/
def freezeKind (builder : Builder) (kind : Kind) : Except Fault Matcher × Builder :=
  let (result, collector) := (builder.collectors.get kind).freeze
  (result, { builder with collectors := builder.collectors.set kind collector })

def countOf (builder : Builder) (kind : Kind) : Nat := (builder.collectors.get kind).inserted

def counts (builder : Builder) : List Nat := Kind.all.map builder.countOf

def count (builder : Builder) : Nat := builder.counts.foldr (· + ·) 0

/-- Grafts a label onto the suffix trie, which insertion would not do. -/
def graft (builder : Builder) (label : String) : Builder :=
  { builder with collectors := { builder.collectors with suffix := builder.collectors.suffix.graft label } }

/-- Freezes the collectors of the kinds in turn. Empty ones are left out and stay as they are; after a
refusal the rest stays as it is too. -/
def freezeKinds : List Kind → ByKind Collector → Except Fault (List Matcher) × ByKind Collector
  | [], collectors => (.ok [], collectors)
  | kind :: kinds, collectors =>
    if (collectors.get kind).inserted = 0 then freezeKinds kinds collectors
    else
      let (result, collector) := (collectors.get kind).freeze
      let collectors := collectors.set kind collector
      match result with
      | .error fault => (.error fault, collectors)
      | .ok matcher =>
        let (others, collectors) := freezeKinds kinds collectors
        (others.map (matcher :: ·), collectors)

/-- The rule set and the builder afterwards, which is frozen in any case. -/
def freeze (builder : Builder) : Except Fault RuleSet × Builder :=
  if builder.frozen then (.error (.alreadyFrozen title), builder)
  else
    let (matchers, collectors) := freezeKinds builder.options.order builder.collectors
    (matchers.map RuleSet.mk, { builder with collectors, frozen := true })

end Builder

end DomainRules
