import DomainRules.Proofs.Building

/-! The life of a builder, under calls of its own and calls to the collectors that it hands out. Up to its first freezing it
keeps what either way took; from then on it refuses every insertion and every freezing of its own. A collector that had no
rules at that time goes on taking them, and no set will hold them. -/

namespace DomainRules

namespace Collector

theorem freeze_snd (collector : Collector) : collector.freeze.2 = { collector with frozen := true } := by
  obtain ⟨capacity, store, inserted, frozen⟩ := collector
  cases frozen <;> rfl

section
variable [Regex.Host] {options : Options} {kind : Kind} {values : List String} {collector grown : Collector} {value : String}

theorem insert_of_frozen (h : collector.frozen = true) (value : String) :
    collector.insert value = .error (.alreadyFrozen collector.title) := if_pos h

/-- Only a collector that is not frozen takes a value, and only a value that can be a rule. -/
theorem Keeps.insert (h : collector.Keeps options kind values) (taken : collector.insert value = .ok grown) :
    collector.frozen = false ∧ kind.check options value = .ok () ∧ grown.Holds options kind (values ++ [value]) := by
  cases frozen : collector.frozen with
  | true =>
    rw [insert_of_frozen frozen] at taken
    contradiction
  | false =>
    obtain ⟨_, passed, holds⟩ := (taken ▸ (h.holds frozen).insert value).of_ok
    exact ⟨rfl, passed, holds⟩

theorem Keeps.refuses_iff (h : collector.Keeps options kind values) (value : String) :
    (∃ owner, collector.insert value = .error (.alreadyFrozen owner)) ↔ collector.frozen = true := by
  constructor
  · rintro ⟨owner, refused⟩
    cases frozen : collector.frozen with
    | true => rfl
    | false =>
      rw [((h.holds frozen).insert value).error_iff, Kind.check_eq_error] at refused
      rcases refused with ⟨-, -, -, same⟩ | ⟨-, cause, -, same⟩
      · contradiction
      · cases cause <;> contradiction
  · intro frozen
    exact ⟨_, insert_of_frozen frozen value⟩

theorem Keeps.freeze (h : collector.Keeps options kind values) : collector.freeze.2.Keeps options kind values := by
  rw [freeze_snd]
  exact ⟨h.store, h.inserted⟩

end

end Collector

namespace Builder

/-- What may be asked of a builder, or through it of the collector of a kind. -/
inductive Call
  | insert (kind : Kind) (value : String)
  | insertInto (kind : Kind) (value : String)
  | freeze
  | freezeKind (kind : Kind)
  deriving DecidableEq

inductive Reply
  | taken
  | set (set : RuleSet)
  | matcher (matcher : Matcher)

/-- The rule that a call offers. -/
def Call.rule? : Call → Option Rule
  | .insert kind value | .insertInto kind value => some (kind, value)
  | _ => none

/-- What a call adds, by the reply to it. -/
def Call.taken (call : Call) : Except Fault Reply → List Rule
  | .ok _ => call.rule?.toList
  | .error _ => []

def Reply.set? : Except Fault Reply → Option RuleSet
  | .ok (.set made) => some made
  | _ => none

/-- A refused insertion changes nothing. -/
def settle (builder : Builder) : Except Fault Builder → Except Fault Reply × Builder
  | .ok grown => (.ok .taken, grown)
  | .error fault => (.error fault, builder)

def answer [Regex.Host] (builder : Builder) : Call → Except Fault Reply × Builder
  | .insert kind value => builder.settle (builder.insert kind value)
  | .insertInto kind value => builder.settle (builder.insertInto kind value)
  | .freeze => (builder.freeze.1.map .set, builder.freeze.2)
  | .freezeKind kind => ((builder.freezeKind kind).1.map .matcher, (builder.freezeKind kind).2)

abbrev History := List (Call × Except Fault Reply)

/-- The calls with their replies, and the builder that is left. -/
def play [Regex.Host] : Builder → List Call → History × Builder
  | builder, [] => ([], builder)
  | builder, call :: calls =>
    let (reply, next) := builder.answer call
    let (history, last) := next.play calls
    ((call, reply) :: history, last)

/-- The rules that were taken, in their order. -/
def History.accepted (history : History) : List Rule := history.flatMap fun entry => entry.1.taken entry.2

def History.sets (history : History) : List RuleSet := history.filterMap fun entry => Reply.set? entry.2

@[simp] theorem Call.taken_ok (call : Call) (reply : Reply) : call.taken (.ok reply) = call.rule?.toList := rfl

@[simp] theorem Call.taken_error (call : Call) (fault : Fault) : call.taken (.error fault) = [] := rfl

@[simp] theorem play_nil [Regex.Host] (builder : Builder) : builder.play [] = ([], builder) := rfl

theorem play_cons [Regex.Host] (builder : Builder) (call : Call) (calls : List Call) :
    builder.play (call :: calls) =
      ((call, (builder.answer call).1) :: ((builder.answer call).2.play calls).1, ((builder.answer call).2.play calls).2) := rfl

@[simp] theorem Call.taken_freeze (reply : Except Fault Reply) : Call.freeze.taken reply = [] := by
  cases reply <;> rfl

@[simp] theorem Call.taken_freezeKind (kind : Kind) (reply : Except Fault Reply) : (Call.freezeKind kind).taken reply = [] := by
  cases reply <;> rfl

@[simp] theorem History.accepted_nil : History.accepted [] = [] := rfl

theorem History.accepted_cons (call : Call) (reply : Except Fault Reply) (history : History) :
    History.accepted ((call, reply) :: history) = call.taken reply ++ history.accepted := List.flatMap_cons

theorem frozen_freeze (builder : Builder) : builder.freeze.2.frozen = true := by
  rw [freeze]
  split
  · assumption
  · rfl

/-- Freezing passes over the collectors without rules. -/
theorem get_freezeKinds {kinds : List Kind} {collectors : ByKind Collector} {matchers : List Matcher}
    (made : (freezeKinds kinds collectors).1 = .ok matchers) (kind : Kind) :
    (freezeKinds kinds collectors).2.get kind =
      if kind ∈ kinds ∧ (collectors.get kind).inserted ≠ 0 then { collectors.get kind with frozen := true }
      else collectors.get kind := by
  induction kinds generalizing collectors matchers with
  | nil => simp [freezeKinds]
  | cons first kinds ih =>
    rw [freezeKinds] at made ⊢
    by_cases bare : (collectors.get first).inserted = 0
    · rw [if_pos bare] at made ⊢
      rw [ih made]
      by_cases same : kind = first
      · simp [same, bare]
      · simp [same]
    · rw [if_neg bare] at made ⊢
      cases frozen : (collectors.get first).freeze.1 with
      | error fault => simp [frozen] at made
      | ok matcher =>
        simp only [frozen] at made ⊢
        obtain ⟨others, rest, -⟩ := map_eq_ok.mp made
        rw [ih rest]
        by_cases same : kind = first
        · subst same
          simp [bare, Collector.freeze_snd]
        · simp [same]

section
variable [Regex.Host] {builder grown : Builder} {call : Call}

theorem insertInto_eq_ok {kind : Kind} {value : String} (h : builder.insertInto kind value = .ok grown) :
    ∃ collector, (builder.collectors.get kind).insert value = .ok collector ∧
      grown = { builder with collectors := builder.collectors.set kind collector } := by
  obtain ⟨collector, taken, made⟩ := bind_eq_ok.mp h
  exact ⟨collector, taken, (pure_eq_ok.mp made).symm⟩

theorem answer_insertInto_eq_error {kind : Kind} {value : String} {fault : Fault} :
    builder.answer (.insertInto kind value) = (.error fault, builder) ↔
      (builder.collectors.get kind).insert value = .error fault := by
  rw [answer, insertInto]
  cases (builder.collectors.get kind).insert value <;> simp [settle]

theorem refuses_insert (h : builder.frozen = true) (kind : Kind) (value : String) :
    builder.answer (.insert kind value) = (.error (.alreadyFrozen title), builder) := by
  rw [answer, insert, if_pos h]
  rfl

theorem refuses_freeze (h : builder.frozen = true) : builder.answer .freeze = (.error (.alreadyFrozen title), builder) := by
  rw [answer, freeze, if_pos h]
  rfl

theorem answer_insert (h : builder.frozen = false) (kind : Kind) (value : String) :
    builder.answer (.insert kind value) = builder.answer (.insertInto kind value) := by
  rw [answer, insert, h, if_neg Bool.false_ne_true]
  rfl

theorem frozen_insertInto (kind : Kind) (value : String) :
    (builder.answer (.insertInto kind value)).2.frozen = builder.frozen := by
  rw [answer]
  cases taken : builder.insertInto kind value with
  | error fault => rfl
  | ok grown =>
    obtain ⟨collector, -, rfl⟩ := insertInto_eq_ok taken
    rfl

/-- What a call adds has gone into the collector of its kind. -/
theorem exists_insertInto_of_taken {rule : Rule} (taken : rule ∈ call.taken (builder.answer call).1) :
    ∃ grown, builder.insertInto rule.1 rule.2 = .ok grown := by
  have offered (kind : Kind) (value : String)
      (taken : rule ∈ Call.taken (.insertInto kind value) (builder.answer (.insertInto kind value)).1) :
      ∃ grown, builder.insertInto rule.1 rule.2 = .ok grown := by
    rw [answer] at taken
    cases grows : builder.insertInto kind value with
    | error fault => simp [settle, grows] at taken
    | ok grown =>
      obtain rfl : rule = (kind, value) := by simpa [settle, grows, Call.rule?] using taken
      exact ⟨grown, grows⟩
  cases call with
  | insert kind value =>
    cases frozen : builder.frozen with
    | true => simp [refuses_insert frozen] at taken
    | false =>
      rw [answer_insert frozen] at taken
      exact offered kind value taken
  | insertInto kind value => exact offered kind value taken
  | freeze => simp at taken
  | freezeKind kind => simp at taken

/-- Only freezing the builder marks it as frozen. -/
theorem frozen_answer (spare : call = .freeze → builder.frozen = true) : (builder.answer call).2.frozen = builder.frozen := by
  cases call with
  | insert kind value =>
    cases frozen : builder.frozen with
    | true => rw [refuses_insert frozen, frozen]
    | false => rw [answer_insert frozen, frozen_insertInto, frozen]
  | insertInto kind value => exact frozen_insertInto kind value
  | freeze => rw [refuses_freeze (spare rfl)]
  | freezeKind kind => rfl

/-- Calls that freeze no open builder, seen from the second of them. -/
theorem spare_cons {calls : List Call} (spare : .freeze ∈ call :: calls → builder.frozen = true) :
    (call = .freeze → builder.frozen = true) ∧ (.freeze ∈ calls → (builder.answer call).2.frozen = true) := by
  have first : call = .freeze → builder.frozen = true := fun same => spare (by simp [same])
  exact ⟨first, fun later => (frozen_answer first).trans (spare (List.mem_cons_of_mem _ later))⟩

theorem frozen_play {calls : List Call} (spare : .freeze ∈ calls → builder.frozen = true) :
    (builder.play calls).2.frozen = builder.frozen := by
  induction calls generalizing builder with
  | nil => rfl
  | cons call calls ih =>
    obtain ⟨first, later⟩ := spare_cons spare
    rw [play_cons, ih later, frozen_answer first]

theorem frozen_freeze_play (builder : Builder) (calls : List Call) : (builder.freeze.2.play calls).2.frozen = true :=
  (frozen_play fun _ => builder.frozen_freeze).trans builder.frozen_freeze

theorem set?_answer (spare : call = .freeze → builder.frozen = true) : Reply.set? (builder.answer call).1 = none := by
  cases call with
  | insert kind value => cases taken : builder.insert kind value <;> simp [answer, settle, taken, Reply.set?]
  | insertInto kind value => cases taken : builder.insertInto kind value <;> simp [answer, settle, taken, Reply.set?]
  | freeze =>
    rw [refuses_freeze (spare rfl)]
    rfl
  | freezeKind kind => cases made : (builder.freezeKind kind).1 <;> simp [answer, made, Except.map, Reply.set?]

theorem sets_play_cons (spare : call = .freeze → builder.frozen = true) (calls : List Call) :
    (builder.play (call :: calls)).1.sets = ((builder.answer call).2.play calls).1.sets := by
  rw [play_cons, History.sets, List.filterMap_cons, set?_answer spare]
  rfl

theorem sets_play_of_frozen (h : builder.frozen = true) (calls : List Call) : (builder.play calls).1.sets = [] := by
  induction calls generalizing builder with
  | nil => rfl
  | cons call calls ih => rw [sets_play_cons fun _ => h, ih ((frozen_answer fun _ => h).trans h)]

/-- Nothing behind the first freezing returns a set. -/
theorem sets_play_freeze (builder : Builder) (calls : List Call) :
    (builder.play (.freeze :: calls)).1.sets = builder.freeze.1.toOption.toList := by
  have last : ((builder.answer .freeze).2.play calls).1.sets = [] := sets_play_of_frozen builder.frozen_freeze calls
  rw [play_cons, History.sets, List.filterMap_cons, ← History.sets, last]
  cases made : builder.freeze.1 <;> simp [answer, made, Except.map, Except.toOption, Reply.set?]

/-- A builder returns one set at most, whatever is asked of it. -/
theorem length_sets_play (builder : Builder) (calls : List Call) : (builder.play calls).1.sets.length ≤ 1 := by
  induction calls generalizing builder with
  | nil => exact Nat.zero_le _
  | cons call calls ih =>
    by_cases freezes : call = .freeze
    · subst freezes
      rw [sets_play_freeze]
      exact Option.length_toList_le
    · rw [sets_play_cons fun same => absurd same freezes]
      exact ih _

end

/-- A builder that keeps the rules that it has taken, with the collectors of some kinds frozen. -/
structure Keeps [Regex.Host] (options : Options) (rules : List Rule) (shut : Kind → Prop) (builder : Builder) : Prop where
  options_eq : builder.options = options
  collector : ∀ kind, (builder.collectors.get kind).Keeps options kind (payloads kind rules)
  frozen_iff : ∀ kind, (builder.collectors.get kind).frozen = true ↔ shut kind

theorem keeps_new [Regex.Host] (options : Options) (hint : CapacityHint) : (new options hint).Keeps options [] fun _ => False where
  options_eq := rfl
  collector kind := ((holds_new options hint).collector kind).keeps
  frozen_iff kind := by simp [new, Collector.new]

section
variable [Regex.Host] {options : Options} {rules : List Rule} {shut : Kind → Prop} {builder grown : Builder} {kind : Kind}
  {value : String}

theorem Keeps.congr {closed : Kind → Prop} (h : builder.Keeps options rules shut) (same : ∀ kind, shut kind ↔ closed kind) :
    builder.Keeps options rules closed :=
  ⟨h.options_eq, h.collector, fun kind => (h.frozen_iff kind).trans (same kind)⟩

theorem Keeps.countOf_eq (h : builder.Keeps options rules shut) (kind : Kind) :
    builder.countOf kind = (payloads kind rules).length :=
  (h.collector kind).inserted

theorem Keeps.set {more : List Rule} {closed : Kind → Prop} {collector : Collector} (h : builder.Keeps options rules shut)
    (keeps : collector.Keeps options kind (payloads kind more)) (frozen : collector.frozen = true ↔ closed kind)
    (others : ∀ other, other ≠ kind → payloads other more = payloads other rules ∧ (shut other ↔ closed other)) :
    Keeps options more closed { builder with collectors := builder.collectors.set kind collector } := by
  refine ⟨h.options_eq, fun other => ?_, fun other => ?_⟩
  · by_cases same : other = kind
    · subst same
      simpa using keeps
    · simpa [same, (others other same).1] using h.collector other
  · by_cases same : other = kind
    · subst same
      simpa using frozen
    · simpa [same, (others other same).2] using h.frozen_iff other

theorem Keeps.insertInto (h : builder.Keeps options rules shut) (taken : builder.insertInto kind value = .ok grown) :
    ¬shut kind ∧ kind.check options value = .ok () ∧ grown.Keeps options (rules ++ [(kind, value)]) shut := by
  obtain ⟨collector, inserted, rfl⟩ := insertInto_eq_ok taken
  obtain ⟨free, passed, holds⟩ := (h.collector kind).insert inserted
  have closed : ¬shut kind := by simp [← h.frozen_iff kind, free]
  have own : payloads kind (rules ++ [(kind, value)]) = payloads kind rules ++ [value] := by simp [payloads]
  refine ⟨closed, passed, h.set (own ▸ holds.keeps) (by simp [holds.unfrozen, closed]) fun other differ => ⟨?_, Iff.rfl⟩⟩
  simp [payloads, Ne.symm differ]

theorem Keeps.settle {call : Call} (h : builder.Keeps options rules shut) (offers : call.rule? = some (kind, value)) :
    (builder.answer (.insertInto kind value)).2.Keeps options
      (rules ++ call.taken (builder.answer (.insertInto kind value)).1) shut := by
  rw [Builder.answer]
  cases taken : builder.insertInto kind value with
  | error fault => simpa [Builder.settle] using h
  | ok grown => simpa [Builder.settle, offers] using (h.insertInto taken).2.2

theorem Keeps.freezeKind (h : builder.Keeps options rules shut) (kind : Kind) :
    (builder.freezeKind kind).2.Keeps options rules fun other => shut other ∨ kind = other := by
  have closes : (builder.collectors.get kind).freeze.2.frozen = true := by rw [Collector.freeze_snd]
  exact h.set (h.collector kind).freeze (iff_of_true closes (.inr rfl)) fun other differ => ⟨rfl, by simp [Ne.symm differ]⟩

theorem Keeps.freeze_agree (h : builder.Keeps options rules shut) (unfrozen : builder.frozen = false) :
    Agree (fun set _ => set.Represents options rules) builder.freeze.1 (forM options.order (refusal builder.collectors)) := by
  rw [Builder.freeze, unfrozen, if_neg Bool.false_ne_true, h.options_eq,
    ← id_map (forM options.order (refusal builder.collectors))]
  exact (freezeKinds_agree options.nodup_order (fun _ _ => rfl) fun kind _ => h.collector kind).map fun _ _ row => row

theorem Keeps.refusal_ne_ok (h : builder.Keeps options rules shut) (kind : Kind) :
    refusal builder.collectors kind ≠ .ok () ↔ builder.countOf kind ≠ 0 ∧ shut kind := by
  simp [refusal, ← h.frozen_iff kind, countOf]

/-- A first freezing fails just if a collector with rules was frozen by itself. -/
theorem Keeps.freeze_eq_error (h : builder.Keeps options rules shut) (unfrozen : builder.frozen = false) :
    (∃ fault, builder.freeze.1 = .error fault) ↔ ∃ kind, builder.countOf kind ≠ 0 ∧ shut kind := by
  simp only [(h.freeze_agree unfrozen).error_iff, ← h.refusal_ne_ok]
  constructor
  · rintro ⟨fault, fails⟩
    obtain ⟨kind, -, refused⟩ := exists_of_forM_eq_error fails
    exact ⟨kind, by simp [refused]⟩
  · rintro ⟨kind, refused⟩
    have fails : forM options.order (refusal builder.collectors) ≠ .ok () := fun passed =>
      refused (forM_eq_ok.mp passed kind (options.mem_order kind))
    obtain ⟨_, -, fault, -, fails⟩ := exists_of_forM_ne_ok fails
    exact ⟨fault, fails⟩

theorem Keeps.fault_of_freeze (h : builder.Keeps options rules shut) (unfrozen : builder.frozen = false) {fault : Fault}
    (fails : builder.freeze.1 = .error fault) : ∃ owner, fault = .alreadyFrozen owner := by
  rw [(h.freeze_agree unfrozen).error_iff] at fails
  obtain ⟨kind, -, refused⟩ := exists_of_forM_eq_error fails
  rw [refusal] at refused
  split at refused
  · exact ⟨_, (Except.error.inj refused).symm⟩
  · contradiction

/-- Freezing passes over the collectors without rules and leaves them open. -/
theorem Keeps.freeze {set : RuleSet} (h : builder.Keeps options rules shut) (made : builder.freeze.1 = .ok set) :
    builder.freeze.2.Keeps options rules fun kind => shut kind ∨ builder.countOf kind ≠ 0 := by
  cases frozen : builder.frozen with
  | true => simp [Builder.freeze, frozen] at made
  | false =>
    rw [Builder.freeze, frozen, if_neg Bool.false_ne_true] at made ⊢
    obtain ⟨matchers, made, -⟩ := map_eq_ok.mp made
    have after := get_freezeKinds made
    refine ⟨h.options_eq, fun kind => ?_, fun kind => ?_⟩
    · rw [after]
      split
      · exact ⟨(h.collector kind).store, (h.collector kind).inserted⟩
      · exact h.collector kind
    · by_cases bare : (builder.collectors.get kind).inserted = 0
      · simpa [after, bare, countOf] using h.frozen_iff kind
      · simp [after, builder.options.mem_order, bare, countOf]

/-- A call adds what it takes, and closes a collector only if it asks for that. -/
theorem Keeps.answer {call : Call} (h : builder.Keeps options rules shut) (spare : call = .freeze → builder.frozen = true) :
    (builder.answer call).2.Keeps options (rules ++ call.taken (builder.answer call).1)
      fun kind => shut kind ∨ call = .freezeKind kind := by
  cases call with
  | insert kind value =>
    suffices kept : Keeps options _ shut _ from kept.congr (by simp)
    cases frozen : builder.frozen with
    | true => simpa [refuses_insert frozen] using h
    | false =>
      rw [answer_insert frozen]
      exact h.settle rfl
  | insertInto kind value => exact (h.settle rfl).congr (by simp)
  | freeze =>
    suffices kept : Keeps options _ shut _ from kept.congr (by simp)
    simpa [refuses_freeze (spare rfl)] using h
  | freezeKind kind => simpa [Builder.answer] using h.freezeKind kind

theorem Keeps.play {calls : List Call} (h : builder.Keeps options rules shut)
    (spare : .freeze ∈ calls → builder.frozen = true) :
    (builder.play calls).2.Keeps options (rules ++ (builder.play calls).1.accepted)
      fun kind => shut kind ∨ .freezeKind kind ∈ calls := by
  induction calls generalizing builder rules shut with
  | nil => simpa using h
  | cons call calls ih =>
    obtain ⟨first, more⟩ := spare_cons spare
    have later := ih (h.answer first) more
    rw [List.append_assoc] at later
    rw [play_cons, History.accepted_cons]
    exact later.congr fun kind => by simp [or_assoc, eq_comm]

/-- What is taken is of a kind whose collector is open, and passes the checks. -/
theorem Keeps.of_taken {call : Call} (h : builder.Keeps options rules shut) {rule : Rule}
    (taken : rule ∈ call.taken (builder.answer call).1) : ¬shut rule.1 ∧ rule.check options = .ok () := by
  obtain ⟨grown, grows⟩ := exists_insertInto_of_taken taken
  obtain ⟨closed, passed, -⟩ := h.insertInto grows
  exact ⟨closed, passed⟩

theorem Keeps.of_accepted {calls : List Call} (h : builder.Keeps options rules shut)
    (spare : .freeze ∈ calls → builder.frozen = true) {rule : Rule} (taken : rule ∈ (builder.play calls).1.accepted) :
    ¬shut rule.1 ∧ rule.check options = .ok () := by
  induction calls generalizing builder rules shut with
  | nil => simp at taken
  | cons call calls ih =>
    rw [play_cons, History.accepted_cons, List.mem_append] at taken
    obtain ⟨first, more⟩ := spare_cons spare
    rcases taken with now | later
    · exact h.of_taken now
    · obtain ⟨closed, passed⟩ := ih (h.answer first) more later
      exact ⟨fun shut => closed (.inl shut), passed⟩

theorem Keeps.refuses_iff (h : builder.Keeps options rules shut) (kind : Kind) (value : String) :
    (∃ owner, builder.answer (.insertInto kind value) = (.error (.alreadyFrozen owner), builder)) ↔ shut kind := by
  simp only [answer_insertInto_eq_error, (h.collector kind).refuses_iff, h.frozen_iff]

/-- An open collector takes what can be a rule of its kind. -/
theorem Keeps.takes (h : builder.Keeps options rules shut) (free : ¬shut kind) (fits : kind.check options value = .ok ()) :
    ∃ grown, builder.answer (.insertInto kind value) = (.ok .taken, grown) ∧
      grown.countOf kind = builder.countOf kind + 1 := by
  have unfrozen : (builder.collectors.get kind).frozen = false :=
    Bool.eq_false_iff.mpr fun frozen => free ((h.frozen_iff kind).mp frozen)
  obtain ⟨collector, taken, -⟩ := (fits ▸ ((h.collector kind).holds unfrozen).insert value).exists_ok
  have grows : builder.insertInto kind value = .ok { builder with collectors := builder.collectors.set kind collector } := by
    rw [Builder.insertInto, taken]
    rfl
  refine ⟨_, by rw [Builder.answer, grows, Builder.settle], ?_⟩
  rw [(h.insertInto grows).2.2.countOf_eq, h.countOf_eq]
  simp [payloads]

/-- A new builder keeps what it takes before it is frozen, and has those collectors frozen that were frozen by themselves. -/
theorem keeps_play_new (options : Options) (hint : CapacityHint) {calls : List Call} (first : .freeze ∉ calls) :
    ((new options hint).play calls).2.Keeps options ((new options hint).play calls).1.accepted
      (fun kind => .freezeKind kind ∈ calls) ∧
    ((new options hint).play calls).2.frozen = false := by
  have spare : .freeze ∈ calls → (new options hint).frozen = true := fun mem => absurd mem first
  exact ⟨by simpa using (keeps_new options hint).play spare, frozen_play spare⟩

end

/-- Up to the first freezing a builder counts what was taken of each kind. That freezing fails just if a collector with rules
was frozen by itself; otherwise it returns one matcher for each kind with rules, and together they cover what the rules cover.
After it, failed or not, the builder refuses insertions and freezings and stays as it is, so that there is no second set. -/
theorem freezes_once [Regex.Host] (options : Options) (hint : CapacityHint) (calls : List Call) (first : .freeze ∉ calls) :
    let history := ((new options hint).play calls).1
    let builder := ((new options hint).play calls).2
    (∀ kind, builder.countOf kind = (payloads kind history.accepted).length) ∧
    ((∃ fault, builder.freeze.1 = .error fault) ↔ ∃ kind, builder.countOf kind ≠ 0 ∧ .freezeKind kind ∈ calls) ∧
    (∀ fault, builder.freeze.1 = .error fault → ∃ owner, fault = .alreadyFrozen owner) ∧
    (∀ set, builder.freeze.1 = .ok set →
      set.matchers.map Matcher.kind = options.order.filter (fun kind => builder.countOf kind ≠ 0) ∧
      (∀ matcher ∈ set.matchers, matcher.rules ≠ [] ∧ matcher.count ≠ 0) ∧
      ∀ name, set.covers name = true ↔ ∃ rule ∈ history.accepted, rule.Covers name) ∧
    (∀ run, ((new options hint).play run).1.sets.length ≤ 1) ∧
    ∀ later,
      let reached := (builder.freeze.2.play later).2
      (∀ kind value, reached.answer (.insert kind value) = (.error (.alreadyFrozen title), reached)) ∧
      reached.answer .freeze = (.error (.alreadyFrozen title), reached) := by
  intro history builder
  obtain ⟨keeps, unfrozen⟩ : builder.Keeps options history.accepted (fun kind => .freezeKind kind ∈ calls) ∧
    builder.frozen = false := keeps_play_new options hint first
  refine ⟨keeps.countOf_eq, keeps.freeze_eq_error unfrozen, fun fault fails => keeps.fault_of_freeze unfrozen fails,
    fun set made => ?_, length_sets_play _, fun later => ?_⟩
  · obtain ⟨-, -, represents⟩ := (made ▸ keeps.freeze_agree unfrozen).of_ok
    refine ⟨?_, fun matcher mem => ?_, represents.covers_iff⟩
    · rw [represents.map_kind, Options.kindsOf]
      simp [keeps.countOf_eq, List.length_eq_zero_iff]
    · rw [← matcher.length_rules, Ne, Ne, List.length_eq_zero_iff, and_self]
      exact represents.rules_ne_nil mem
  · have frozen := builder.frozen_freeze_play later
    exact ⟨refuses_insert frozen, refuses_freeze frozen⟩

/-- The collector of the domains has a rule when it is frozen by itself; that of the keywords has none. -/
theorem freezes_once_spoilt :
    let calls : List Call := [.insert .domain "a.b", .freezeKind .keyword, .freezeKind .domain, .insertInto .suffix "b"]
    .freeze ∉ calls ∧ (∃ fault, ((new {}).play calls).2.freeze.1 = .error fault) ∧
      ∀ later, let reached := (((new {}).play calls).2.freeze.2.play later).2
        reached.answer .freeze = (.error (.alreadyFrozen title), reached) := by
  intro calls
  have first : .freeze ∉ calls := by decide
  obtain ⟨-, fails, -, -, -, refused⟩ := freezes_once {} .unknown calls first
  exact ⟨first, fails.mpr ⟨.domain, by decide +kernel, by decide⟩, fun later => (refused later).2⟩

/-- Once a builder has returned a set, it refuses insertions, and so does the collector of a kind if it had rules or was
frozen by itself. The set covers what was taken before. Another collector goes on taking rules, for which the set has no
matcher. -/
theorem late_insert_refused_iff [Regex.Host] (options : Options) (hint : CapacityHint) (calls later : List Call)
    (first : .freeze ∉ calls)
    {set : RuleSet} (made : ((new options hint).play calls).2.freeze.1 = .ok set) :
    let history := ((new options hint).play calls).1
    let builder := ((new options hint).play calls).2
    let reached := (builder.freeze.2.play later).2
    (∀ kind value, reached.answer (.insert kind value) = (.error (.alreadyFrozen title), reached)) ∧
    (∀ kind value, (∃ owner, reached.answer (.insertInto kind value) = (.error (.alreadyFrozen owner), reached)) ↔
      builder.countOf kind ≠ 0 ∨ .freezeKind kind ∈ calls ++ later) ∧
    (∀ kind, builder.countOf kind ≠ 0 → reached.countOf kind = builder.countOf kind) ∧
    (∀ rule ∈ history.accepted, ∀ name, rule.Covers name → set.covers name = true) ∧
    (∀ kind value, builder.countOf kind = 0 → .freezeKind kind ∉ calls ++ later → kind.check options value = .ok () →
      ∃ grown, reached.answer (.insertInto kind value) = (.ok .taken, grown) ∧
        grown.countOf kind = reached.countOf kind + 1) ∧
    ∀ rule ∈ (builder.freeze.2.play later).1.accepted,
      builder.countOf rule.1 = 0 ∧ rule.1 ∉ set.matchers.map Matcher.kind := by
  intro history builder reached
  obtain ⟨keeps, unfrozen⟩ : builder.Keeps options history.accepted (fun kind => .freezeKind kind ∈ calls) ∧
    builder.frozen = false := keeps_play_new options hint first
  have spare : .freeze ∈ later → builder.freeze.2.frozen = true := fun _ => builder.frozen_freeze
  have closed := keeps.freeze made
  have after : reached.Keeps options (history.accepted ++ (builder.freeze.2.play later).1.accepted)
      fun kind => builder.countOf kind ≠ 0 ∨ .freezeKind kind ∈ calls ++ later :=
    (closed.play spare).congr fun kind => by rw [List.mem_append, or_comm (a := .freezeKind kind ∈ calls), or_assoc]
  obtain ⟨-, -, represents⟩ := (made ▸ keeps.freeze_agree unfrozen).of_ok
  have fresh : ∀ rule ∈ (builder.freeze.2.play later).1.accepted, builder.countOf rule.1 = 0 := fun rule taken =>
    not_not.mp fun some => (closed.of_accepted spare taken).1 (.inr some)
  refine ⟨refuses_insert (builder.frozen_freeze_play later), after.refuses_iff, fun kind some => ?_,
    fun rule taken name covers => (represents.covers_iff name).mpr ⟨rule, taken, covers⟩,
    fun kind value bare unasked fits => after.takes (by simp [bare, unasked]) fits, fun rule taken => ⟨fresh rule taken, ?_⟩⟩
  · have none : payloads kind (builder.freeze.2.play later).1.accepted = [] :=
      List.eq_nil_iff_forall_not_mem.mpr fun value mem => some (fresh _ (mem_payloads.mp mem))
    rw [after.countOf_eq, payloads_append, none, List.append_nil, keeps.countOf_eq]
  · rw [represents.map_kind, Options.mem_kindsOf, not_not, ← List.length_eq_zero_iff, ← keeps.countOf_eq]
    exact fresh rule taken

/-- The collector of the keywords had a rule; that of the suffixes had none, and was frozen by itself later. -/
theorem late_insert_refused_iff_two_kinds :
    let calls : List Call := [.insert .domain "a", .insertInto .keyword "b"]
    let later : List Call := [.insertInto .suffix "c", .freezeKind .suffix]
    .freeze ∉ calls ∧ ∃ set, ((new {}).play calls).2.freeze.1 = .ok set ∧
      let reached := (((new {}).play calls).2.freeze.2.play later).2
      (∃ owner, reached.answer (.insertInto .keyword "d") = (.error (.alreadyFrozen owner), reached)) ∧
      ∃ owner, reached.answer (.insertInto .suffix "d") = (.error (.alreadyFrozen owner), reached) := by
  intro calls later
  have first : .freeze ∉ calls := by decide
  have made : ((new {}).play calls).2.freeze.1 =
      .ok ⟨[.domainSet ((∅ : Std.TreeSet String).insert "a"), .keywordList ["b"]]⟩ := rfl
  obtain ⟨-, refused, -⟩ := late_insert_refused_iff {} .unknown calls later first made
  exact ⟨first, _, made, (refused .keyword "d").mpr (.inl (by decide +kernel)), (refused .suffix "d").mpr (.inr (by decide))⟩

/-- The collector of the keywords is empty when the set is made, and takes a rule that the set does not cover. -/
theorem keyword_lost_after_freeze :
    let builder := ((new {}).play [.insert .domain "a"]).2
    ∃ set, builder.freeze.1 = .ok set ∧
      (builder.freeze.2.answer (.insertInto .keyword "b")).1 = .ok .taken ∧
      (builder.freeze.2.count, (builder.freeze.2.answer (.insertInto .keyword "b")).2.count) = (1, 2) ∧
      Kind.keyword.Covers "b" "b" ∧ set.covers "b" = false :=
  ⟨⟨[.domainSet ((∅ : Std.TreeSet String).insert "a")]⟩, rfl, rfl, rfl, ⟨"", "", rfl⟩, by decide +kernel⟩

end Builder

end DomainRules
