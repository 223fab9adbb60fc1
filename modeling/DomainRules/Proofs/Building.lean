import DomainRules.Builder
import DomainRules.Proofs.Collecting

/-! Builders hold the rules that they have taken, each kind its own, and freeze into a set that covers what one of
them covers. -/

namespace DomainRules

abbrev Rule := Kind × String

def Rule.Covers [Regex.Host] (rule : Rule) (name : String) : Prop := rule.1.Covers rule.2 name

def Rule.check [Regex.Host] (options : Options) (rule : Rule) : Except Fault Unit := rule.1.check options rule.2

def payloads (kind : Kind) (rules : List Rule) : List String :=
  (rules.filter (·.1 = kind)).map Prod.snd

@[simp] theorem payloads_nil (kind : Kind) : payloads kind [] = [] := rfl

@[simp] theorem payloads_append (kind : Kind) (rules more : List Rule) :
    payloads kind (rules ++ more) = payloads kind rules ++ payloads kind more := by
  simp [payloads]

theorem payloads_map (kind other : Kind) (values : List String) :
    payloads kind (values.map fun payload => (other, payload)) = if other = kind then values else [] := by
  by_cases same : other = kind <;> simp [payloads, List.filter_map, Function.comp_def, same]

theorem mem_payloads {kind : Kind} {rules : List Rule} {payload : String} :
    payload ∈ payloads kind rules ↔ (kind, payload) ∈ rules := by
  simp only [payloads, List.mem_map, List.mem_filter, decide_eq_true_eq]
  constructor
  · rintro ⟨⟨_, _⟩, ⟨mem, rfl⟩, rfl⟩
    exact mem
  · intro mem
    exact ⟨_, ⟨mem, rfl⟩, rfl⟩

/-- The rules with the given payloads, kind by kind. -/
def Rule.listing (values : Kind → List String) : List Rule :=
  Kind.all.flatMap fun kind => (values kind).map fun payload => (kind, payload)

@[simp] theorem payloads_listing (values : Kind → List String) (kind : Kind) :
    payloads kind (Rule.listing values) = values kind := by
  cases kind <;> simp [Rule.listing, Kind.all, payloads_map]

theorem Rule.mem_listing {values : Kind → List String} {rule : Rule} : rule ∈ listing values ↔ rule.2 ∈ values rule.1 := by
  rw [← payloads_listing values, mem_payloads]

theorem Rule.listing_eq_nil_iff {values : Kind → List String} : listing values = [] ↔ ∀ kind, values kind = [] := by
  simp [listing, Kind.mem_all]

namespace Builder

variable [Regex.Host]

def insertAll (builder : Builder) (rules : List Rule) : Except Fault Builder :=
  rules.foldlM (fun grown rule => grown.insert rule.1 rule.2) builder

/-- A builder that has taken the given rules, one after the other, and is not frozen. -/
structure Holds (options : Options) (hint : CapacityHint) (rules : List Rule) (builder : Builder) : Prop where
  options_eq : builder.options = options
  hint_eq : builder.hint = hint
  unfrozen : builder.frozen = false
  collector : ∀ kind, (builder.collectors.get kind).Holds options kind (payloads kind rules)
  inserted : (new options hint).insertAll rules = .ok builder

theorem holds_new (options : Options) (hint : CapacityHint) : (new options hint).Holds options hint [] where
  options_eq := rfl
  hint_eq := rfl
  unfrozen := rfl
  collector kind := by simpa [new] using Collector.holds_new options kind (hint.get kind)
  inserted := rfl

theorem Holds.insert {options : Options} {hint : CapacityHint} {rules : List Rule} {builder : Builder}
    (h : builder.Holds options hint rules) (rule : Rule) :
    Agree (fun grown _ => grown.Holds options hint (rules ++ [rule])) (builder.insert rule.1 rule.2)
      (rule.check options) := by
  have step : Agree (fun grown _ => grown.options = options ∧ grown.hint = hint ∧ grown.frozen = false ∧
      ∀ kind, (grown.collectors.get kind).Holds options kind (payloads kind (rules ++ [rule])))
      (builder.insert rule.1 rule.2) (rule.check options) := by
    rw [Builder.insert, h.unfrozen, if_neg Bool.false_ne_true, insertInto, ← bind_pure (rule.check options)]
    refine ((h.collector rule.1).insert rule.2).bind fun collector _ holds =>
      .ok ⟨h.options_eq, h.hint_eq, h.unfrozen, fun kind => ?_⟩
    by_cases same : kind = rule.1
    · subst same
      simpa [payloads] using holds
    · simpa [payloads, same, Ne.symm same] using h.collector kind
  refine step.imp fun grown _ taken ⟨options_eq, hint_eq, unfrozen, collector⟩ =>
    ⟨options_eq, hint_eq, unfrozen, collector, ?_⟩
  rw [insertAll, List.foldlM_append, ← insertAll, h.inserted, ok_bind, List.foldlM_cons, taken, ok_bind]
  rfl

theorem Holds.insertAll {options : Options} {hint : CapacityHint} {rules : List Rule} {builder : Builder}
    (h : builder.Holds options hint rules) (more : List Rule) :
    Agree (fun grown _ => grown.Holds options hint (rules ++ more)) (builder.insertAll more)
      (forM more (Rule.check options)) := by
  induction more generalizing builder rules with
  | nil => exact .ok (by simpa using h)
  | cons rule more ih =>
    rw [Builder.insertAll, List.foldlM_cons, List.forM_cons]
    refine (h.insert rule).bind fun grown _ holds => ?_
    simpa [Builder.insertAll] using ih holds

theorem Holds.countOf_eq {options : Options} {hint : CapacityHint} {rules : List Rule} {builder : Builder}
    (h : builder.Holds options hint rules) (kind : Kind) : builder.countOf kind = (payloads kind rules).length :=
  (h.collector kind).inserted

/-- What a builder holds has passed the checks. -/
theorem Holds.passed {options : Options} {hint : CapacityHint} {rules : List Rule} {builder : Builder}
    (h : builder.Holds options hint rules) : forM rules (Rule.check options) = .ok () := by
  obtain ⟨_, passed, -⟩ := (h.inserted ▸ (holds_new options hint).insertAll rules).of_ok
  exact passed

end Builder

abbrev Matcher.Row [Regex.Host] (options : Options) (rules : List Rule) : List Kind → List Matcher → Prop :=
  List.Forall₂ fun kind matcher => matcher.Represents options kind (payloads kind rules)

section
variable [Regex.Host] {options : Options} {rules : List Rule} {kinds : List Kind} {matchers : List Matcher}

theorem Matcher.Row.covers_iff (h : Row options rules kinds matchers) (name : String) :
    matchers.any (·.covers name) = true ↔ ∃ kind ∈ kinds, ∃ payload ∈ payloads kind rules, kind.Covers payload name := by
  induction h with
  | nil => simp
  | cons represents _ ih => simp [List.any_cons, ih, represents.covers_iff]

theorem Matcher.Row.map_kind (h : Row options rules kinds matchers) : matchers.map Matcher.kind = kinds := by
  induction h with
  | nil => rfl
  | cons represents _ ih => rw [List.map_cons, represents.kind_eq, ih]

theorem Matcher.Row.exists_represents (h : Row options rules kinds matchers) {matcher : Matcher} (mem : matcher ∈ matchers) :
    ∃ kind ∈ kinds, matcher.Represents options kind (payloads kind rules) :=
  exists_of_mem_right h mem

theorem Matcher.Row.rules_eq (h : Row options rules kinds matchers) (nodup : kinds.Nodup) (kind : Kind) :
    (matchers.filter fun matcher => matcher.kind = kind).flatMap Matcher.rules =
      if kind ∈ kinds then kind.listed options (payloads kind rules) else [] := by
  induction h with
  | nil => rfl
  | @cons head matcher kinds matchers represents _ ih =>
    obtain ⟨fresh, nodup⟩ := List.nodup_cons.mp nodup
    by_cases same : head = kind
    · subst same
      simp [represents.kind_eq, represents.rules_eq, ih nodup, fresh]
    · simp [represents.kind_eq, same, Ne.symm same, ih nodup]

end

/-- The kinds that have rules, in the order of the options. -/
def Options.kindsOf (options : Options) (rules : List Rule) : List Kind :=
  options.order.filter fun kind => payloads kind rules ≠ []

theorem Options.mem_order (options : Options) (kind : Kind) : kind ∈ options.order :=
  options.order_perm.mem_iff.mpr kind.mem_all

theorem Options.mem_kindsOf {options : Options} {rules : List Rule} {kind : Kind} :
    kind ∈ options.kindsOf rules ↔ payloads kind rules ≠ [] := by
  simp [kindsOf, options.mem_order]

theorem Options.nodup_order (options : Options) : options.order.Nodup :=
  options.order_perm.nodup_iff.mpr (by decide)

namespace RuleSet

variable [Regex.Host]

/-- A set of one matcher for each kind that has rules, in the order of the options. -/
def Represents (options : Options) (rules : List Rule) (set : RuleSet) : Prop :=
  Matcher.Row options rules (options.kindsOf rules) set.matchers

section
variable {options : Options} {rules : List Rule} {set : RuleSet}

theorem Represents.covers_iff (h : set.Represents options rules) (name : String) :
    set.covers name = true ↔ ∃ rule ∈ rules, rule.Covers name := by
  rw [covers, Matcher.Row.covers_iff h]
  simp only [Options.mem_kindsOf, mem_payloads]
  constructor
  · rintro ⟨kind, -, payload, mem, covers⟩
    exact ⟨(kind, payload), mem, covers⟩
  · rintro ⟨⟨kind, payload⟩, mem, covers⟩
    exact ⟨kind, List.ne_nil_of_mem (mem_payloads.mpr mem), payload, mem, covers⟩

theorem Represents.map_kind (h : set.Represents options rules) : set.matchers.map Matcher.kind = options.kindsOf rules :=
  Matcher.Row.map_kind h

theorem Represents.rules_ne_nil (h : set.Represents options rules) {matcher : Matcher} (mem : matcher ∈ set.matchers) :
    matcher.rules ≠ [] := by
  obtain ⟨kind, held, represents⟩ := Matcher.Row.exists_represents h mem
  rw [represents.rules_eq, Ne, Kind.listed_eq_nil]
  exact Options.mem_kindsOf.mp held

theorem Represents.rules_eq (h : set.Represents options rules) (kind : Kind) :
    set.rules kind = kind.listed options (payloads kind rules) := by
  rw [RuleSet.rules, ofKind, Matcher.Row.rules_eq h (options.nodup_order.filter _) kind]
  by_cases bare : payloads kind rules = []
  · simp [Options.mem_kindsOf, bare, Kind.listed_nil]
  · simp [Options.mem_kindsOf, bare]

end

end RuleSet

namespace Builder

/-- What keeps collectors from being frozen together: one that has rules is frozen already. -/
def refusal (collectors : ByKind Collector) (kind : Kind) : Except Fault Unit :=
  if (collectors.get kind).inserted ≠ 0 ∧ (collectors.get kind).frozen = true then
    .error (.alreadyFrozen (collectors.get kind).title)
  else .ok ()

variable [Regex.Host]

theorem freezeKinds_agree {options : Options} {rules : List Rule} {kinds : List Kind} (nodup : kinds.Nodup)
    {collectors : ByKind Collector} {refused : Kind → Except Fault Unit}
    (same : ∀ kind ∈ kinds, refused kind = refusal collectors kind)
    (h : ∀ kind ∈ kinds, (collectors.get kind).Keeps options kind (payloads kind rules)) :
    Agree (fun matchers _ => Matcher.Row options rules (kinds.filter fun kind => payloads kind rules ≠ []) matchers)
      (freezeKinds kinds collectors).1 (forM kinds refused) := by
  induction kinds generalizing collectors with
  | nil => exact .ok .nil
  | cons kind kinds ih =>
    obtain ⟨fresh, nodup⟩ := List.nodup_cons.mp nodup
    obtain ⟨first, others⟩ := List.forall_mem_cons.mp same
    obtain ⟨keeps, later⟩ := List.forall_mem_cons.mp h
    rw [List.forM_cons, first, refusal, freezeKinds]
    by_cases bare : payloads kind rules = []
    · have none := keeps.inserted_eq_zero.mpr bare
      simpa [none, bare] using ih nodup others later
    · have some : (collectors.get kind).inserted ≠ 0 := fun none => bare (keeps.inserted_eq_zero.mp none)
      cases frozen : (collectors.get kind).frozen with
      | true => simpa [some, Collector.freeze, frozen] using Agree.error _
      | false =>
        obtain ⟨matcher, made, represents⟩ := (keeps.holds frozen).freeze
        -- Freezing a collector changes none of those still to come.
        have untouched : ∀ other ∈ kinds, (collectors.set kind (collectors.get kind).freeze.2).get other = collectors.get other :=
          fun other mem => by
            have differ : other ≠ kind := by rintro rfl; exact fresh mem
            simp [differ]
        have rest := ih nodup
          (fun other mem => (others other mem).trans (by rw [refusal, refusal, untouched other mem]))
          (fun other mem => (untouched other mem).symm ▸ later other mem)
        rw [if_neg some, if_neg (by simp), ok_bind, List.filter_cons_of_pos (by simpa using bare)]
        simp only [made]
        rw [← id_map (forM kinds refused)]
        exact rest.map fun matchers _ row => List.Forall₂.cons represents row

theorem Holds.freeze {options : Options} {hint : CapacityHint} {rules : List Rule} {builder : Builder}
    (h : builder.Holds options hint rules) :
    ∃ set, builder.freeze.1 = .ok set ∧ set.Represents options rules := by
  have free : forM options.order (refusal builder.collectors) = .ok () :=
    forM_eq_ok.mpr fun kind _ => by simp [refusal, (h.collector kind).unfrozen]
  have agree := freezeKinds_agree options.nodup_order (fun _ _ => rfl) fun kind _ => (h.collector kind).keeps
  obtain ⟨matchers, frozen, row⟩ := (free ▸ agree).exists_ok
  exact ⟨⟨matchers⟩, by simp [Builder.freeze, h.unfrozen, h.options_eq, frozen, Except.map], row⟩

/-- What builders hold is what the sets that they freeze into represent. -/
theorem agree_freeze {α : Type} {options : Options} {hint : α → CapacityHint} {rules : α → List Rule}
    {built : Except Fault Builder} {read : Except Fault α}
    (h : Agree (fun builder found => builder.Holds options (hint found) (rules found)) built read) :
    Agree (fun set found => set.Represents options (rules found)) (built >>= fun builder => builder.freeze.1) read := by
  rw [← bind_pure read]
  refine h.bind fun builder found holds => ?_
  obtain ⟨set, frozen, represents⟩ := holds.freeze
  rw [frozen]
  exact .ok represents

end Builder

end DomainRules
