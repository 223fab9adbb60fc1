import DomainRules.Proofs.Lifecycle

/-! Insertions that fail. In place, an insertion changes a builder bit by bit, and what it has changed before a fault stays
changed; but each fault comes before the first change. So rules leave what the accepted ones alone would leave, and each
collector has what its own kind was given. -/

namespace DomainRules

/-- A computation that changes a state in place. What is changed before a fault stays changed. -/
abbrev InPlace (σ α : Type) := EStateM Fault σ α

namespace InPlace

section
variable {σ τ : Type}

/-- Changes a part of a state, as far as the change comes. -/
def on (part : σ → τ) (back : σ → τ → σ) (change : InPlace τ Unit) : InPlace σ Unit := fun state =>
  match change.run (part state) with
  | .ok done changed => .ok done (back state changed)
  | .error fault changed => .error fault (back state changed)

/-- What a step comes to that changes nothing at a fault. -/
def settled (state : σ) : Except Fault σ → EStateM.Result Fault σ Unit
  | .ok next => .ok () next
  | .error fault => .error fault state

@[simp] theorem settled_ok (state next : σ) : settled state (.ok next) = .ok () next := rfl

@[simp] theorem settled_error (state : σ) (fault : Fault) : settled state (.error fault) = .error fault state := rfl

/-- Does in place what a step does, and at a fault leaves the state as it was. -/
def Does (change : InPlace σ Unit) (step : σ → Except Fault σ) : Prop :=
  ∀ state, change.run state = settled state (step state)

theorem run_on_ok {part : σ → τ} {back : σ → τ → σ} {change : InPlace τ Unit} {state : σ} {changed : τ}
    (h : change.run (part state) = .ok () changed) : (on part back change).run state = .ok () (back state changed) := by
  rw [EStateM.run, on, h]

/-- A part that a change leaves as it was is put back unchanged. -/
theorem Does.run_on {change : InPlace τ Unit} {step : τ → Except Fault τ} (h : Does change step) {part : σ → τ}
    {back : σ → τ → σ} {state : σ} (unchanged : back state (part state) = state) :
    (on part back change).run state = settled state (back state <$> step (part state)) := by
  rw [EStateM.run, on, h]
  cases step (part state) with
  | ok next => rfl
  | error fault => exact congrArg (EStateM.Result.error fault) unchanged

end

end InPlace

namespace Suffix

namespace Forest

/-- Recursion down a path. A node that is missing is made before anything below it. -/
def growInPlace : List String → InPlace Forest Unit
  | [] => pure ()
  | [label] => modify (mark label)
  | label :: next :: path => do
    let below := InPlace.on (under label) (fun row inner => row.put label ⟨false, inner⟩) (growInPlace (next :: path))
    match (← get).find? label with
    | none =>
      modify fun row => row.put label ⟨false, nil⟩
      below
    | some ⟨true, _⟩ => pure ()
    | some ⟨false, _⟩ => below

theorem run_growInPlace (path : List String) (forest : Forest) :
    (growInPlace path).run forest = .ok () (forest.insertPath path) := by
  induction path generalizing forest with
  | nil => rfl
  | cons label path ih =>
    cases path with
    | nil => rfl
    | cons next path =>
      rcases found : forest.find? label with _ | ⟨_ | _, below⟩
      · have made : (forest.put label ⟨false, nil⟩).under label = nil := by simp
        simp [growInPlace, insertPath, found, InPlace.run_on_ok (ih _), made, put_put]
      · have inner : forest.under label = below := by simp [under, found]
        simp [growInPlace, insertPath, found, InPlace.run_on_ok (ih _), inner]
      · simp [growInPlace, insertPath, found]

end Forest

namespace Trie

/-- The depth of a suffix is looked at before the first node is made. -/
def insertInPlace (suffix : String) : InPlace Trie Unit := do
  if recursionLimit < Name.depth suffix then throw (.tooDeep suffix)
  InPlace.on Node.children (fun trie children => { trie with children }) (Forest.growInPlace (Name.labels suffix).reverse)

theorem does_insertInPlace (suffix : String) :
    InPlace.Does (insertInPlace suffix) fun trie =>
      match trie.insertRecursive? suffix with
      | some grown => .ok grown
      | none => .error (.tooDeep suffix) := by
  intro trie
  by_cases deep : recursionLimit < Name.depth suffix
  · simp [insertInPlace, insertRecursive?, deep]
  · simp [insertInPlace, insertRecursive?, deep, InPlace.run_on_ok (Forest.run_growInPlace _ _)]

end Trie

end Suffix

namespace Collector

/-- How each store takes a value. A pattern is compiled before it is added. -/
def Store.insertInPlace [Regex.Host] (value : String) : InPlace Store Unit := do
  match ← get with
  | .domainList names => set (Store.domainList (names.push value))
  | .domainSet names => set (Store.domainSet (names.insert value))
  | .suffixList suffixes => set (Store.suffixList (suffixes.push value))
  | .suffixSet suffixes => set (Store.suffixSet (suffixes.insert value))
  | .suffixTrie false trie => set (Store.suffixTrie false (trie.insert value))
  | .suffixTrie true trie =>
    InPlace.on (fun _ => trie) (fun _ grown => .suffixTrie true grown) (Suffix.Trie.insertInPlace value)
  | .keywordList keywords => set (Store.keywordList (keywords.push value))
  | .patternList patterns =>
    match compilePattern value with
    | .error fault => throw fault
    | .ok pattern => set (Store.patternList (patterns.push pattern))

theorem Store.does_insertInPlace [Regex.Host] (value : String) : InPlace.Does (insertInPlace value) (insert value) := by
  intro store
  rw [insertInPlace, EStateM.run_bind, EStateM.run_get]
  cases store with
  | domainList | domainSet | suffixList | suffixSet | keywordList => rfl
  | suffixTrie recursive trie =>
    cases recursive with
    | false => rfl
    | true =>
      dsimp only
      rw [(Suffix.Trie.does_insertInPlace value).run_on rfl, insert]
      cases trie.insertRecursive? value <;> rfl
  | patternList patterns =>
    dsimp only
    rw [insert]
    cases compilePattern value <;> rfl

/-- Changes the store of a collector. -/
def onStore (change : InPlace Store Unit) : InPlace Collector Unit :=
  InPlace.on store (fun collector store => { collector with store }) change

/-- The values are counted when the store has taken them. -/
def insertInPlace [Regex.Host] (value : String) : InPlace Collector Unit := do
  let collector ← get
  if collector.frozen then throw (.alreadyFrozen collector.title)
  onStore (Store.insertInPlace value)
  modify fun collector => { collector with inserted := collector.inserted + 1 }

theorem does_insertInPlace [Regex.Host] (value : String) : InPlace.Does (insertInPlace value) (insert · value) := by
  intro collector
  have stored : (onStore (Store.insertInPlace value)).run collector =
      InPlace.settled collector ((fun store => { collector with store }) <$> collector.store.insert value) :=
    (Store.does_insertInPlace value).run_on rfl
  cases frozen : collector.frozen with
  | true => simp [insertInPlace, insert, frozen]
  | false =>
    simp only [insertInPlace, insert, EStateM.run_bind, EStateM.run_get, frozen, Bool.false_eq_true, if_false, stored]
    cases collector.store.insert value <;> rfl

end Collector

theorem ByKind.set_get {α : Type} (values : ByKind α) (kind : Kind) : values.set kind (values.get kind) = values := by
  cases kind <;> rfl

theorem ByKind.ext_get {α : Type} {values others : ByKind α} (h : ∀ kind, values.get kind = others.get kind) :
    values = others := by
  obtain ⟨_, _, _, _⟩ := values
  obtain ⟨_, _, _, _⟩ := others
  have domain := h .domain
  have suffix := h .suffix
  have keyword := h .keyword
  have regexp := h .regexp
  simp_all [get]

namespace Builder

/-- Changes the collector of a kind. -/
def onCollector (kind : Kind) (change : InPlace Collector Unit) : InPlace Builder Unit :=
  InPlace.on (fun builder => builder.collectors.get kind)
    (fun builder collector => { builder with collectors := builder.collectors.set kind collector }) change

def insertInPlace [Regex.Host] (rule : Rule) : InPlace Builder Unit := do
  if (← get).frozen then throw (.alreadyFrozen title)
  onCollector rule.1 (Collector.insertInPlace rule.2)

theorem run_insertInPlace [Regex.Host] (rule : Rule) (builder : Builder) :
    (insertInPlace rule).run builder = InPlace.settled builder (builder.insert rule.1 rule.2) := by
  have collected : (onCollector rule.1 (Collector.insertInPlace rule.2)).run builder =
      InPlace.settled builder (builder.insertInto rule.1 rule.2) :=
    (Collector.does_insertInPlace rule.2).run_on (by rw [ByKind.set_get])
  cases frozen : builder.frozen with
  | true => simp [insertInPlace, insert, frozen]
  | false => simp [insertInPlace, insert, frozen, collected]

/-- Offers a rule. Behind a fault the caller goes on with what the fault has left. -/
def offer [Regex.Host] (builder : Builder) (rule : Rule) : Except Fault Unit × Builder :=
  match (insertInPlace rule).run builder with
  | .ok done next => (.ok done, next)
  | .error fault left => (.error fault, left)

/-- Offers rules one after the other, whatever becomes of each. -/
def offerAll [Regex.Host] (builder : Builder) : List Rule → List (Except Fault Unit) × Builder
  | [] => ([], builder)
  | rule :: rules =>
    let (reply, next) := builder.offer rule
    let (replies, last) := next.offerAll rules
    (reply :: replies, last)

/-- The rules that pass the checks. -/
def accepted [Regex.Host] (options : Options) (rules : List Rule) : List Rule := rules.filter fun rule => (rule.check options).isOk

section
variable [Regex.Host] {options : Options} {hint : CapacityHint} {rules : List Rule} {builder grown : Builder}

theorem accepted_cons (rule : Rule) (rules : List Rule) :
    accepted options (rule :: rules) = accepted options [rule] ++ accepted options rules := by
  rw [accepted, ← List.singleton_append, List.filter_append]
  rfl

theorem mem_accepted {rule : Rule} : rule ∈ accepted options rules ↔ rule ∈ rules ∧ rule.check options = .ok () := by
  rw [accepted, List.mem_filter]
  cases rule.check options <;> simp [Except.isOk, Except.toBool]

theorem accepted_accepted (rules : List Rule) : accepted options (accepted options rules) = accepted options rules :=
  List.filter_filter.trans (by simp [accepted])

theorem offerAll_cons (builder : Builder) (rule : Rule) (rules : List Rule) :
    builder.offerAll (rule :: rules) =
      ((builder.offer rule).1 :: ((builder.offer rule).2.offerAll rules).1, ((builder.offer rule).2.offerAll rules).2) := rfl

theorem offer_of_ok {rule : Rule} (h : builder.insert rule.1 rule.2 = .ok grown) : builder.offer rule = (.ok (), grown) := by
  rw [offer, run_insertInPlace, h, InPlace.settled_ok]

/-- A rule that is refused leaves no trace. -/
theorem offer_of_error {rule : Rule} {fault : Fault} (h : builder.insert rule.1 rule.2 = .error fault) :
    builder.offer rule = (.error fault, builder) := by
  rw [offer, run_insertInPlace, h, InPlace.settled_error]

/-- To offer a rule is to ask for its insertion. -/
theorem answer_insert_eq (builder : Builder) (rule : Rule) :
    builder.answer (.insert rule.1 rule.2) = ((fun _ => Reply.taken) <$> (builder.offer rule).1, (builder.offer rule).2) := by
  rw [answer]
  cases inserted : builder.insert rule.1 rule.2 with
  | ok grown =>
    rw [offer_of_ok inserted]
    rfl
  | error fault =>
    rw [offer_of_error inserted]
    rfl

/-- A rule is answered by its check, and the builder holds one more or is what it was. -/
theorem Holds.offer (h : builder.Holds options hint rules) (rule : Rule) :
    (builder.offer rule).1 = rule.check options ∧
      (builder.offer rule).2.Holds options hint (rules ++ accepted options [rule]) := by
  have agree := h.insert rule
  cases checked : rule.check options with
  | ok =>
    rw [checked] at agree
    obtain ⟨grown, taken, holds⟩ := agree.exists_ok
    have kept : accepted options [rule] = [rule] := by simp [accepted, checked, Except.isOk, Except.toBool]
    rw [offer_of_ok taken, kept]
    exact ⟨rfl, holds⟩
  | error fault =>
    have lost : accepted options [rule] = [] := by simp [accepted, checked, Except.isOk, Except.toBool]
    rw [offer_of_error ((agree.error_iff fault).mpr checked), lost, List.append_nil]
    exact ⟨rfl, h⟩

theorem Holds.offerAll (h : builder.Holds options hint rules) (more : List Rule) :
    (builder.offerAll more).1 = more.map (Rule.check options) ∧
      (builder.offerAll more).2.Holds options hint (rules ++ accepted options more) := by
  induction more generalizing builder rules with
  | nil =>
    rw [accepted, List.filter_nil, List.append_nil]
    exact ⟨rfl, h⟩
  | cons rule more ih =>
    obtain ⟨reply, holds⟩ := h.offer rule
    obtain ⟨replies, last⟩ := ih holds
    rw [offerAll_cons, reply, replies, accepted_cons, ← List.append_assoc]
    exact ⟨rfl, last⟩

theorem offerAll_new (options : Options) (hint : CapacityHint) (rules : List Rule) :
    ((new options hint).offerAll rules).1 = rules.map (Rule.check options) ∧
      ((new options hint).offerAll rules).2.Holds options hint (accepted options rules) :=
  (holds_new options hint).offerAll rules

theorem get_of_insert {rule : Rule} (taken : builder.insert rule.1 rule.2 = .ok grown) (kind : Kind) :
    (builder.collectors.get kind).insertAll (payloads kind [rule]) = .ok (grown.collectors.get kind) := by
  rw [insert] at taken
  split at taken
  · contradiction
  · obtain ⟨collector, inserted, rfl⟩ := insertInto_eq_ok taken
    by_cases same : rule.1 = kind
    · subst same
      simpa [payloads, Collector.insertAll] using inserted
    · simp [payloads, same, Ne.symm same, Collector.insertAll]

/-- Each collector takes the values of its own kind, as if there was no other. -/
theorem get_of_insertAll (taken : builder.insertAll rules = .ok grown) (kind : Kind) :
    (builder.collectors.get kind).insertAll (payloads kind rules) = .ok (grown.collectors.get kind) := by
  induction rules generalizing builder with
  | nil =>
    cases taken
    rfl
  | cons rule rules ih =>
    obtain ⟨next, first, others⟩ := bind_eq_ok.mp taken
    have one := get_of_insert first kind
    rw [← List.singleton_append, payloads_append, Collector.insertAll, List.foldlM_append, ← Collector.insertAll, one, ok_bind]
    exact ih others

theorem Holds.get_eq (h : builder.Holds options hint rules) (kind : Kind) :
    (Collector.new kind options (hint.get kind)).insertAll (payloads kind rules) = .ok (builder.collectors.get kind) := by
  simpa [new] using get_of_insertAll h.inserted kind

theorem Holds.eq_mk (h : builder.Holds options hint rules) : builder = ⟨options, hint, builder.collectors, false⟩ := by
  rw [← h.options_eq, ← h.hint_eq, ← h.unfrozen]

/-- What a builder is depends on what each kind was given, and not on how the kinds took turns. -/
theorem Holds.eq_of_payloads {others : List Rule} {other : Builder} (h : builder.Holds options hint rules)
    (h' : other.Holds options hint others) (same : ∀ kind, payloads kind others = payloads kind rules) : other = builder := by
  have collectors : other.collectors = builder.collectors := ByKind.ext_get fun kind => by
    have own := h'.get_eq kind
    rw [same kind, h.get_eq kind] at own
    exact (Except.ok.inj own).symm
  rw [h'.eq_mk, collectors, ← h.eq_mk]

/-- Rules that are refused leave no trace, and kinds do not meet. Each rule is answered by its check. Without the refused ones
all are taken and the builder is the same; the collector of a kind is what the values of that kind make of it, and so is the
trie. Other rules that offer each kind the same accepted values, in whatever turns and between whatever refused ones, lead to
the same builder, which freezes into the same set. -/
theorem refused_leave_no_trace (options : Options) (hint : CapacityHint) (rules : List Rule) :
    let replies := ((new options hint).offerAll rules).1
    let builder := ((new options hint).offerAll rules).2
    let taken := accepted options rules
    replies = rules.map (Rule.check options) ∧
    (new options hint).offerAll taken = (taken.map fun _ => .ok (), builder) ∧
    (new options hint).insertAll taken = .ok builder ∧
    (∀ kind, (Collector.new kind options (hint.get kind)).insertAll (payloads kind taken) = .ok (builder.collectors.get kind)) ∧
    (∀ kind, builder.countOf kind = (payloads kind taken).length) ∧
    (∀ recursive trie, (builder.collectors.get .suffix).store = .suffixTrie recursive trie →
      trie = .ofList (payloads .suffix taken)) ∧
    ∃ set, builder.freeze.1 = .ok set ∧ set.Represents options taken ∧
      ∀ others, (∀ kind, payloads kind (accepted options others) = payloads kind taken) →
        ((new options hint).offerAll others).2 = builder ∧ ((new options hint).offerAll others).2.freeze.1 = .ok set := by
  intro replies builder taken
  obtain ⟨answered, holds⟩ : replies = rules.map (Rule.check options) ∧ builder.Holds options hint taken :=
    offerAll_new options hint rules
  obtain ⟨again, kept⟩ := offerAll_new options hint taken
  rw [accepted_accepted] at kept
  have allTaken : taken.map (Rule.check options) = taken.map fun _ => .ok () :=
    List.map_congr_left fun rule mem => (mem_accepted.mp mem).2
  obtain ⟨set, frozen, represents⟩ := holds.freeze
  refine ⟨answered, Prod.ext (again.trans allTaken) (holds.eq_of_payloads kept fun _ => rfl), holds.inserted,
    holds.get_eq, fun kind => (holds.collector kind).inserted, fun recursive trie stored => ?_, set, frozen, represents,
    fun others same => ?_⟩
  · have store := (holds.collector .suffix).store
    rw [stored] at store
    cases store
    rfl
  · have one := holds.eq_of_payloads (offerAll_new options hint others).2 same
    exact ⟨one, one ▸ frozen⟩

end

/-- A suffix of 501 labels and patterns that do not compile, before and between rules that are accepted. -/
theorem refused_leave_no_trace_in_turns :
    let options : Options := { suffix := .trieRecursive }
    let deep := String.ofList (List.replicate 500 '.')
    let rules : List Rule :=
      [(.suffix, deep), (.suffix, "b.a"), (.regexp, "("), (.domain, "d"), (.suffix, "a"), (.regexp, "a+"), (.suffix, "c.a")]
    let others : List Rule :=
      [(.suffix, "b.a"), (.regexp, "["), (.regexp, "a+"), (.suffix, "a"), (.suffix, "c.a"), (.domain, "d")]
    accepted options rules ≠ rules ∧
    (∀ kind, payloads kind (accepted options others) = payloads kind (accepted options rules)) ∧
    ((new options).offerAll others).2 = ((new options).offerAll rules).2 ∧
    ∃ set, ((new options).offerAll rules).2.freeze.1 = .ok set ∧ ((new options).offerAll others).2.freeze.1 = .ok set ∧
      ∀ kind, set.rules kind = kind.listed options (payloads kind (accepted options rules)) := by
  intro options deep rules others
  have many : Suffix.Trie.recursionLimit < Name.depth deep := by
    rw [Name.depth, String.toList_ofList, List.count_replicate_self]
    exact Nat.lt_succ_self 500
  have refused : Rule.check options (.suffix, deep) = .error (.tooDeep deep) :=
    Kind.check_eq_error.mpr (.inl ⟨rfl, rfl, many, rfl⟩)
  have kept : accepted options rules = accepted options rules.tail := List.filter_cons_of_neg (by rw [refused]; decide)
  have fewer : (accepted options rules).length ≠ rules.length := by
    rw [kept]
    decide +kernel
  have same : ∀ kind, payloads kind (accepted options others) = payloads kind (accepted options rules) := by
    rw [kept]
    intro kind
    cases kind <;> decide +kernel
  obtain ⟨-, -, -, -, -, -, set, frozen, represents, alike⟩ := refused_leave_no_trace options .unknown rules
  obtain ⟨one, refrozen⟩ := alike others same
  exact ⟨fun all => fewer (congrArg List.length all), same, one, set, frozen, refrozen, represents.rules_eq⟩

end Builder

end DomainRules
