import DomainRules.Proofs.Random
import DomainRules.Workload

/-! What workloads are drawn to be. The generator decides which of the given words and labels stand in a name, but not
how the name is put together, nor how many names there are. -/

namespace DomainRules.Workload

open DomainRules.Random (Yields)

/-- One of the hosts in front of a name. -/
def Hosted (name hosted : String) : Prop := ∃ host ∈ hosts, hosted = host ++ "." ++ name

inductive IsSuffix (i : Nat) : String → Prop
  | numbered {word top} : word ∈ words → top ∈ topLabels → IsSuffix i (word ++ toString i ++ "." ++ top)
  | nested {word top hosted} : word ∈ words → top ∈ topLabels → Hosted (word ++ toString (i / 2) ++ "." ++ top) hosted →
      IsSuffix i hosted
  | bare {word top} : word ∈ words → top ∈ topLabels → IsSuffix i (word ++ "." ++ top)

inductive IsDomain (suffixes : List String) (i : Nat) : String → Prop
  | below {suffix hosted} : suffix ∈ suffixes → Hosted suffix hosted → IsDomain suffixes i hosted
  | elsewhere : suffixes = [] → IsDomain suffixes i ("host" ++ toString i ++ ".example.net")

inductive IsCandidates (suffix : String) : List String → Prop
  | mk {hosted} : Hosted suffix hosted → IsCandidates suffix [hosted, "not" ++ suffix]

/-- Candidates in the order before they are shuffled. -/
inductive IsPool (suffixes domains keywords : List String) : List String → Prop
  | mk {nested carriers strangers} :
      List.Forall₂ IsCandidates (suffixes.take 200) nested →
      List.Forall₂ (fun keyword => Hosted (keyword ++ ".example.org")) keywords carriers →
      List.Forall₂ (fun i => Hosted ("miss" ++ toString i ++ ".invalid")) (List.range 100) strangers →
      IsPool suffixes domains keywords (nested.flatten ++ domains.take 100 ++ carriers ++ strangers)

/-- A workload of the wanted sizes. -/
structure Drawn (sizes : ByKind Int) (workload : Workload) : Prop where
  suffixes : List.Forall₂ IsSuffix (List.range sizes.suffix.toNat) workload.rules.suffix
  domains : List.Forall₂ (IsDomain workload.rules.suffix) (List.range sizes.domain.toNat) workload.rules.domain
  keywords : workload.rules.keyword = (List.range sizes.keyword.toNat).map keyword
  regexps : workload.rules.regexp = (List.range sizes.regexp.toNat).map regexp
  candidates : ∃ pool, IsPool workload.rules.suffix workload.rules.domain workload.rules.keyword pool ∧
    workload.candidates.toList.Perm pool

theorem yields_hostBefore (name : String) : Yields (Hosted name) (hostBefore name) :=
  (Random.yields_choose hosts _).bind fun host mem => .pure ⟨host, mem, rfl⟩

theorem yields_suffix (i : Nat) : Yields (IsSuffix i) (suffix i) := by
  refine (Random.yields_choose topLabels _).bind fun top labelled => ?_
  refine (Random.yields_choose words _).bind fun word listed => ?_
  refine (Random.yields_true Random.real).bind fun roll _ => ?_
  split_ifs
  · exact .pure (.numbered listed labelled)
  · exact (yields_hostBefore _).mono fun hosted below => .nested listed labelled below
  · exact .pure (.bare listed labelled)

theorem yields_domain (suffixes : List String) (i : Nat) :
    Yields (IsDomain suffixes i) (domain suffixes.toArray i) := by
  unfold domain
  split
  · refine (Random.yields_choose hosts _).bind fun host listed => ?_
    refine (Random.yields_choose suffixes.toArray _).bind fun suffix mem => ?_
    exact .pure (.below (List.mem_toArray.mp mem) ⟨host, listed, rfl⟩)
  · rename_i none
    exact .pure (.elsewhere (by simpa using none))

theorem yields_suffixCandidates (suffix : String) : Yields (IsCandidates suffix) (suffixCandidates suffix) :=
  (yields_hostBefore suffix).bind fun _ hosted => .pure (.mk hosted)

theorem yields_unshuffled (suffixes domains keywords : List String) :
    Yields (IsPool suffixes domains keywords) (unshuffled suffixes domains keywords) := by
  refine (Yields.mapM yields_suffixCandidates _).bind fun nested pairs => ?_
  refine (Yields.mapM (fun keyword => yields_hostBefore _) _).bind fun carriers carried => ?_
  refine (Yields.mapM (fun i => yields_hostBefore _) _).bind fun strangers strange => ?_
  exact .pure (.mk pairs carried strange)

theorem yields_generate (sizes : ByKind Int) : Yields (Drawn sizes) (generate sizes) := by
  refine (Yields.mapM yields_suffix _).bind fun suffixes drawn => ?_
  refine (Yields.mapM (yields_domain suffixes) _).bind fun domains below => ?_
  refine (yields_unshuffled suffixes domains _).bind fun pool pooled => ?_
  refine (Random.yields_shuffle pool.toArray).bind fun candidates moved => ?_
  exact .pure ⟨drawn, below, rfl, rfl, pool, pooled, moved.toList⟩

theorem yields_queries (workload : Workload) (count : Int) :
    Yields (∀ name ∈ ·, name ∈ workload.candidates) (workload.queries count) := by
  unfold queries
  split_ifs with bare
  · exact .pure (by simp)
  · refine Random.yields_sample (by simp [weights]) ?_ _
    exact Array.size_pos_iff.mpr fun none => bare (by simp [none])

end DomainRules.Workload
