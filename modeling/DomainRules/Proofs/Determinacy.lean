import DomainRules.Proofs.Building

/-! Which set rules freeze into depends on the options and on the rules in their order, and on no hint: without it each
step is the same. -/

namespace DomainRules

theorem ByKind.ofFn_get_set (values : ByKind α) (kind : Kind) (value : α) (f : α → β) :
    (ofFn fun other => f ((values.set kind value).get other)) = (ofFn fun other => f (values.get other)).set kind (f value) := by
  cases kind <;> rfl

namespace Collector

def unhinted (collector : Collector) : Collector := { collector with capacity := 0 }

theorem frozen_unhinted (collector : Collector) : collector.unhinted.frozen = collector.frozen := rfl

theorem inserted_unhinted (collector : Collector) : collector.unhinted.inserted = collector.inserted := rfl

theorem insert_unhinted [Regex.Host] (collector : Collector) (value : String) :
    collector.unhinted.insert value = unhinted <$> collector.insert value := by
  rw [insert, insert, frozen_unhinted]
  split
  · rfl
  · rw [map_bind]
    rfl

theorem freeze_unhinted (collector : Collector) :
    collector.unhinted.freeze = (collector.freeze.1, collector.freeze.2.unhinted) := by
  rw [freeze, freeze, frozen_unhinted]
  split
  · rfl
  · rfl

end Collector

namespace Builder

def unhinted (builder : Builder) : Builder :=
  { builder with hint := .unknown, collectors := .ofFn fun kind => (builder.collectors.get kind).unhinted }

theorem frozen_unhinted (builder : Builder) : builder.unhinted.frozen = builder.frozen := rfl

theorem unhinted_new (options : Options) (hint : CapacityHint) : (new options hint).unhinted = new options := rfl

theorem insert_unhinted [Regex.Host] (builder : Builder) (kind : Kind) (value : String) :
    builder.unhinted.insert kind value = unhinted <$> builder.insert kind value := by
  rw [insert, insert, frozen_unhinted]
  split
  · rfl
  · rw [insertInto, insertInto]
    simp only [unhinted, ByKind.get_ofFn, Collector.insert_unhinted, map_bind, bind_map_left]
    refine bind_congr fun collector => ?_
    rw [← ByKind.ofFn_get_set builder.collectors kind collector Collector.unhinted]
    rfl

theorem insertAll_unhinted [Regex.Host] (builder : Builder) (rules : List Rule) :
    builder.unhinted.insertAll rules = unhinted <$> builder.insertAll rules := by
  induction rules generalizing builder with
  | nil => rfl
  | cons rule rules ih =>
    rw [insertAll, insertAll, List.foldlM_cons, List.foldlM_cons, insert_unhinted, bind_map_left, map_bind]
    exact bind_congr fun grown => ih grown

theorem freezeKinds_unhinted (kinds : List Kind) (collectors : ByKind Collector) :
    (freezeKinds kinds (.ofFn fun kind => (collectors.get kind).unhinted)).1 = (freezeKinds kinds collectors).1 := by
  induction kinds generalizing collectors with
  | nil => rfl
  | cons kind kinds ih =>
    rw [freezeKinds, freezeKinds, ByKind.get_ofFn, Collector.inserted_unhinted]
    by_cases bare : (collectors.get kind).inserted = 0
    · rw [if_pos bare, if_pos bare, ih]
    · rw [if_neg bare, if_neg bare, Collector.freeze_unhinted]
      cases (collectors.get kind).freeze with
      | mk result collector =>
        cases result with
        | error fault => rfl
        | ok matcher =>
          have later := ih (collectors.set kind collector)
          rw [ByKind.ofFn_get_set collectors kind collector Collector.unhinted] at later
          exact congrArg (Except.map (matcher :: ·)) later

theorem freeze_unhinted (builder : Builder) : builder.unhinted.freeze.1 = builder.freeze.1 := by
  rw [freeze, freeze, frozen_unhinted]
  split
  · rfl
  · exact congrArg (Except.map RuleSet.mk) (freezeKinds_unhinted builder.options.order builder.collectors)

end Builder

/-- The set that rules build, taken in their order. -/
def RuleSet.ofRules [Regex.Host] (options : Options) (rules : List Rule) : Except Fault RuleSet := do
  (← (Builder.new options).insertAll rules).freeze.1

namespace Builder

variable [Regex.Host] {options : Options}

theorem Holds.freeze_eq {hint : CapacityHint} {rules : List Rule} {builder : Builder} (h : builder.Holds options hint rules) :
    builder.freeze.1 = RuleSet.ofRules options rules := by
  rw [RuleSet.ofRules, ← unhinted_new options hint, insertAll_unhinted, h.inserted, map_ok, ok_bind, freeze_unhinted]

theorem bind_freeze_eq {α : Type} {hint : α → CapacityHint} {rules : α → List Rule} {built : Except Fault Builder}
    {read : Except Fault α}
    (h : Agree (fun builder found => builder.Holds options (hint found) (rules found)) built read) :
    (built >>= fun builder => builder.freeze.1) = read >>= fun found => RuleSet.ofRules options (rules found) :=
  h.bind_eq fun _ _ holds => holds.freeze_eq

end Builder

end DomainRules
