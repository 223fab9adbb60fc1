import DomainRules.Proofs.Interleaving

/-! The limits of recursion. Where a lookup by recursion has an answer, it is that of one pass over the characters, and it has none
if it would take more calls than there may be. Insertion by recursion keeps every node within its own limit, so that a trie that is
filled in this way is looked up within the limit too. -/

namespace DomainRules

namespace Suffix.Trie

theorem run_insertInPlace_of_le {suffix : String} (shallow : Name.depth suffix ≤ recursionLimit) (trie : Trie) :
    (insertInPlace suffix).run trie = .ok () (trie.insert suffix) := by
  rw [does_insertInPlace suffix]
  simp only [insertRecursive?_of_le shallow, InPlace.settled_ok]

theorem run_insertInPlace_of_lt {suffix : String} (deep : recursionLimit < Name.depth suffix) (trie : Trie) :
    (insertInPlace suffix).run trie = .error (.tooDeep suffix) trie := by
  rw [does_insertInPlace suffix]
  simp only [insertRecursive?_of_lt deep, InPlace.settled_error]

/-- Recursion and one pass over the characters agree, node for node and answer for answer, on tries of any shape and on frozen
ones. A lookup by recursion has an answer just if it may take its calls, which are no more than the name has labels. A suffix that
recursion does not reach is refused before anything is changed. -/
theorem recursion_agrees [Regex.Host] (trie : Trie) (row : Frozen) :
    (∀ suffix, Name.depth suffix ≤ recursionLimit → trie.insertRecursive? suffix = some (trie.insert suffix) ∧
      (insertInPlace suffix).run trie = .ok () (trie.insert suffix)) ∧
    (∀ calls name, trie.coversRecursive calls name = if trie.calls name ≤ calls then some (trie.covers name) else none) ∧
    (∀ calls name, row.coversRecursive calls name = if row.calls name ≤ calls then some (row.covers name) else none) ∧
    (∀ name, trie.calls name ≤ Name.depth name ∧ row.calls name ≤ Name.depth name) ∧
    ∀ suffix, recursionLimit < Name.depth suffix → trie.insertRecursive? suffix = none ∧
      (insertInPlace suffix).run trie = .error (.tooDeep suffix) trie ∧
      (Collector.Store.insertInPlace suffix).run (.suffixTrie true trie) =
        .error (.tooDeep suffix) (Collector.Store.suffixTrie true trie) := by
  refine ⟨fun suffix shallow => ⟨insertRecursive?_of_le shallow trie, run_insertInPlace_of_le shallow trie⟩,
    fun calls => trie.coversRecursive_eq calls, fun calls => row.coversRecursive_eq calls,
    fun name => ⟨trie.calls_le_depth name, row.calls_le_depth name⟩, fun suffix deep => ?_⟩
  have refused := insertRecursive?_of_lt deep trie
  refine ⟨refused, run_insertInPlace_of_lt deep trie, ?_⟩
  rw [Collector.Store.does_insertInPlace suffix, Collector.Store.insert, refused, InPlace.settled_error]

/-- An included root, a childless node that is not included, empty labels, and a suffix of one label too many. -/
theorem recursion_agrees_ill_shaped :
    let trie : Trie := ⟨true, .cons "" true (.cons "a" false .nil .nil) (.cons "b" false .nil .nil)⟩
    let deep := String.ofList (List.replicate 500 '.')
    Name.depth "a..b" ≤ recursionLimit ∧ (insertInPlace "a..b").run trie = .ok () (trie.insert "a..b") ∧
    trie.coversRecursive 2 "a." = some (trie.covers "a.") ∧
    recursionLimit < Name.depth deep ∧ (insertInPlace deep).run trie = .error (.tooDeep deep) trie := by
  intro trie deep
  obtain ⟨inserts, answers, -, -, refuses⟩ := recursion_agrees trie .nil
  have many : recursionLimit < Name.depth deep := by
    rw [Name.depth, String.toList_ofList, List.count_replicate_self]
    exact Nat.lt_succ_self 500
  exact ⟨by decide, (inserts "a..b" (by decide)).2, by rw [answers, if_pos (by decide)], many, (refuses deep many).2.1⟩

/-- A chain of 1500 labels covers its own name, but neither it nor what it freezes into says so within 1000 calls. -/
theorem no_answer_for_long_chain :
    let name := String.ofList (List.replicate 1499 '.')
    let trie := ofList [name]
    trie.covers name = true ∧ trie.coversRecursive 1000 name = none ∧
    ∃ row, trie.freeze = .ok row ∧ row.covers name = true ∧ row.coversRecursive 1000 name = none := by
  intro name trie
  have covered : trie.covers name = true := (covers_ofList [name] name).mpr ⟨name, by simp, .inl rfl⟩
  have unanswered : trie.coversRecursive 1000 name = none := by
    rw [coversRecursive_eq, calls_ofList_singleton, Name.depth, String.toList_ofList, List.count_replicate_self]
    exact if_neg (by decide)
  exact ⟨covered, unanswered, trie.children.freeze, freeze_ofList [name], (covers_freeze trie name).trans covered,
    (coversRecursive_freeze trie 1000 name).trans unanswered⟩

end Suffix.Trie

namespace Collector

/-- Offers a value. Behind a fault the caller goes on with what the fault has left. -/
def offer [Regex.Host] (collector : Collector) (value : String) : Collector :=
  match (insertInPlace value).run collector with
  | .ok _ next => next
  | .error _ left => left

/-- Offers values one after the other, whatever becomes of each. -/
def offerAll [Regex.Host] (collector : Collector) (values : List String) : Collector := values.foldl offer collector

/-- A collector that is not frozen and has a trie within the limit of recursion. -/
structure Shallow (trie : Suffix.Trie) (collector : Collector) : Prop where
  store : collector.store = .suffixTrie true trie
  unfrozen : collector.frozen = false
  reached : trie.Reached
  height_le : trie.children.height ≤ Suffix.Trie.recursionLimit

section
variable {collector : Collector} {trie : Suffix.Trie}

theorem shallow_new (options : Options) (capacity : Int) :
    (new .suffix { options with suffix := .trieRecursive } capacity).Shallow .empty :=
  ⟨rfl, rfl, .empty, Nat.zero_le _⟩

theorem Shallow.freeze (h : collector.Shallow trie) :
    collector.freeze.1 = .ok (.suffixTrie true trie.children.freeze) := by
  rw [Collector.freeze, h.unfrozen, if_neg Bool.false_ne_true, h.store, Store.freeze, h.reached.wellShaped.freeze]

theorem Shallow.calls_le (h : collector.Shallow trie) (name : String) :
    trie.children.freeze.calls name ≤ Suffix.Trie.recursionLimit := by
  obtain ⟨suffixes, rfl⟩ := h.reached.exists_ofList
  rw [Suffix.Trie.calls_freeze]
  exact (Suffix.Trie.calls_le_height (Suffix.Trie.tidy_ofList suffixes) name).trans (max_le (by decide) h.height_le)

theorem Shallow.calls_of_mem_rules (h : collector.Shallow trie) {rule : String} (mem : rule ∈ trie.children.freeze.rules) :
    trie.children.freeze.calls rule = Name.depth rule := by
  obtain ⟨suffixes, rfl⟩ := h.reached.exists_ofList
  rw [Suffix.Trie.rules_freeze] at mem
  rw [Suffix.Trie.calls_freeze, Suffix.Trie.calls_of_mem_rules mem]

variable [Regex.Host]

theorem offer_eq (collector : Collector) (value : String) :
    collector.offer value = ((collector.insert value).toOption).getD collector := by
  rw [offer, does_insertInPlace]
  dsimp only
  cases collector.insert value <;> rfl

/-- A suffix is refused before it makes a node beyond the limit. -/
theorem Shallow.offer_of_lt (h : collector.Shallow trie) {value : String}
    (deep : Suffix.Trie.recursionLimit < Name.depth value) : collector.offer value = collector := by
  rw [offer_eq, Collector.insert, h.unfrozen, h.store, Store.insert, Suffix.Trie.insertRecursive?_of_lt deep]
  rfl

theorem Shallow.offer_of_le (h : collector.Shallow trie) {value : String}
    (shallow : Name.depth value ≤ Suffix.Trie.recursionLimit) : (collector.offer value).Shallow (trie.insert value) := by
  have taken : collector.offer value =
      { collector with store := .suffixTrie true (trie.insert value), inserted := collector.inserted + 1 } := by
    rw [offer_eq, Collector.insert, h.unfrozen, h.store, Store.insert, Suffix.Trie.insertRecursive?_of_le shallow]
    rfl
  rw [taken]
  exact ⟨rfl, h.unfrozen, h.reached.insert value, (Suffix.Trie.height_insert trie value).trans (max_le h.height_le shallow)⟩

theorem Shallow.offer (h : collector.Shallow trie) (value : String) : ∃ grown, (collector.offer value).Shallow grown := by
  by_cases deep : Suffix.Trie.recursionLimit < Name.depth value
  · exact ⟨trie, (h.offer_of_lt deep).symm ▸ h⟩
  · exact ⟨trie.insert value, h.offer_of_le (Nat.le_of_not_lt deep)⟩

theorem Shallow.offerAll (h : collector.Shallow trie) (values : List String) :
    ∃ grown, (collector.offerAll values).Shallow grown := by
  induction values generalizing collector trie with
  | nil => exact ⟨trie, h⟩
  | cons value values ih =>
    obtain ⟨grown, holds⟩ := h.offer value
    exact ih holds

end

/-- Whatever values a trie filled by recursion is offered, taken or refused, no node lies deeper than the limit. Frozen, it is
looked up within as many calls for every name, so that a lookup limited to them, or to more, has the answer of one pass over the
characters, which knows no limit. A rule itself is looked up in as many calls as it has labels. -/
theorem recursive_lookups_bounded [Regex.Host] (options : Options) (capacity : Int) (values : List String) :
    let collector := (new .suffix { options with suffix := .trieRecursive } capacity).offerAll values
    ∃ trie row, collector.store = .suffixTrie true trie ∧
      (∀ path node, trie.children.Has path node → path.length ≤ Suffix.Trie.recursionLimit) ∧
      collector.freeze.1 = .ok (.suffixTrie true row) ∧
      (∀ name, row.calls name ≤ Suffix.Trie.recursionLimit ∧
        (∀ calls, Suffix.Trie.recursionLimit ≤ calls →
          row.coversRecursive calls name = some ((Matcher.suffixTrie true row).covers name)) ∧
        (Matcher.suffixTrie true row).covers name = row.covers name) ∧
      ∀ rule ∈ row.rules, row.calls rule = Name.depth rule := by
  intro collector
  obtain ⟨trie, h⟩ := (shallow_new options capacity).offerAll values
  have answers {calls : Nat} (enough : Suffix.Trie.recursionLimit ≤ calls) (name : String) :
      trie.children.freeze.coversRecursive calls name = some (trie.children.freeze.covers name) := by
    rw [Suffix.Frozen.coversRecursive_eq, if_pos ((h.calls_le name).trans enough)]
  have covers (name : String) :
      (Matcher.suffixTrie true trie.children.freeze).covers name = trie.children.freeze.covers name := by
    simp [Matcher.covers, answers (Nat.le_refl _)]
  refine ⟨trie, trie.children.freeze, h.store, fun path node has => has.length_le.trans h.height_le, h.freeze,
    fun name => ⟨h.calls_le name, fun calls enough => ?_, covers name⟩, fun rule => h.calls_of_mem_rules⟩
  rw [covers, answers enough]

/-- A suffix of 501 labels is refused, the next one gives way to a shorter one, and a name of 1001 labels is looked up. -/
theorem recursive_lookups_bounded_long_name :
    let deep := String.ofList (List.replicate 500 '.')
    let name := String.ofList (List.replicate 1000 '.')
    let collector := (new .suffix { suffix := .trieRecursive }).offerAll [deep, "c.b.a", "b.a"]
    ∃ trie row, collector.store = .suffixTrie true trie ∧ trie.children.Has ["a", "b"] ⟨true, .nil⟩ ∧
      ["a", "b"].length ≤ Suffix.Trie.recursionLimit ∧ collector.freeze.1 = .ok (.suffixTrie true row) ∧
      row.coversRecursive Suffix.Trie.recursionLimit name = some ((Matcher.suffixTrie true row).covers name) ∧
      "b.a" ∈ row.rules ∧ row.calls "b.a" = 2 := by
  intro deep name collector
  have many : Suffix.Trie.recursionLimit < Name.depth deep := by
    rw [Name.depth, String.toList_ofList, List.count_replicate_self]
    exact Nat.lt_succ_self 500
  let pair : Suffix.Trie := ⟨false, .cons "a" false (.cons "b" true .nil .nil) .nil⟩
  have start := shallow_new {} 0
  have refused : (new .suffix { suffix := .trieRecursive }).offer deep = new .suffix { suffix := .trieRecursive } :=
    start.offer_of_lt many
  have inserted : (Suffix.Trie.empty.insert "c.b.a").insert "b.a" = pair := by decide
  have reached : collector.Shallow pair := by
    rw [← inserted]
    simp only [collector, offerAll, List.foldl_cons, List.foldl_nil, refused]
    exact (start.offer_of_le (by decide)).offer_of_le (by decide)
  obtain ⟨trie, row, stored, within, frozen, bounded, ruled⟩ := recursive_lookups_bounded {} 0 [deep, "c.b.a", "b.a"]
  obtain rfl : pair = trie := by simpa using reached.store.symm.trans stored
  obtain rfl : pair.children.freeze = row := by simpa using reached.freeze.symm.trans frozen
  have has : pair.children.Has ["a", "b"] ⟨true, .nil⟩ := .inside .here
  have rule : "b.a" ∈ pair.children.freeze.rules := by decide
  exact ⟨pair, _, reached.store, has, within _ _ has, frozen, (bounded name).2.1 _ (Nat.le_refl _), rule, ruled "b.a" rule⟩

end Collector

end DomainRules
