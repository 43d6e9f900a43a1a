import NetSketch.Proofs.Knowledge.Conflict

/-!
# Look-ups and scans

A store answers from its indexes what a scan of the corpus would answer, entry by entry and in the
same order.

* `filter_mergeSort_key`, `eq_flatMap_of_sorted`: sorting by a key puts the entries of each key
  together and leaves them in order;
* `byImpact_eq`: failures by impact;
* `Relationship.endsOf`, `Store.relationshipsFor_ofCorpus`, `Store.failuresFor_ofCorpus`;
* **`Store.lookups_scan`**: every look-up as a scan.
-/

namespace NetSketch

/-! ## Sorting by a key -/

section Keys

variable {α : Type} {l : List α} {key : α → Nat} {k : Nat} {keys : List Nat}

theorem filter_mergeSort_key :
    (l.mergeSort fun a b => key a ≤ key b).filter (key · = k) = l.filter (key · = k) := by
  have hsorted : (l.filter (key · = k)).Pairwise fun a b => decide (key a ≤ key b) = true := by
    refine List.pairwise_of_forall_mem_list fun a ha b hb => ?_
    have ha : key a = k := by simpa using (List.mem_filter.mp ha).2
    have hb : key b = k := by simpa using (List.mem_filter.mp hb).2
    simp [ha, hb]
  have hsub : (l.filter (key · = k)).Sublist (l.mergeSort fun a b => key a ≤ key b) :=
    List.sublist_mergeSort (by simpa using fun a b c => Nat.le_trans)
      (by simpa using fun a b => Nat.le_total (key a) (key b)) hsorted List.filter_sublist
  have hfilter := hsub.filter (key · = k)
  simp only [List.filter_filter, Bool.and_self] at hfilter
  refine (hfilter.eq_of_length ?_).symm
  exact ((List.mergeSort_perm l _).filter _).length_eq.symm

theorem pairwise_mergeSort_key :
    (l.mergeSort fun a b => key a ≤ key b).Pairwise (key · ≤ key ·) := by
  have h : (l.mergeSort fun a b => key a ≤ key b).Pairwise fun a b => decide (key a ≤ key b) = true :=
    List.pairwise_mergeSort (by simpa using fun a b c => Nat.le_trans)
      (by simpa using fun a b => Nat.le_total _ _) l
  simpa only [decide_eq_true_eq] using h

theorem eq_filter_append_of_sorted (hl : l.Pairwise (key · ≤ key ·)) (hk : ∀ a ∈ l, k ≤ key a) :
    l = l.filter (key · = k) ++ l.filter (key · ≠ k) := by
  induction l with
  | nil => rfl
  | cons a l ih =>
    obtain ⟨hle, hl⟩ := List.pairwise_cons.mp hl
    have hrest := ih hl fun b hb => hk b (List.mem_cons_of_mem a hb)
    by_cases ha : key a = k
    · simpa [ha] using hrest
    · have hnone : l.filter (key · = k) = [] := by
        rw [List.filter_eq_nil_iff]
        intro b hb
        have := hk a List.mem_cons_self
        have := hle b hb
        simp
        omega
      rw [hnone, List.nil_append] at hrest
      simpa [ha, hnone] using hrest

/-- **A sorted list has the entries of one key after those of another.** -/
theorem eq_flatMap_of_sorted (hkeys : keys.Pairwise (· < ·)) (hl : l.Pairwise (key · ≤ key ·))
    (hmem : ∀ a ∈ l, key a ∈ keys) : l = keys.flatMap fun k => l.filter (key · = k) := by
  induction keys generalizing l with
  | nil =>
    cases l with
    | nil => rfl
    | cons a l => exact absurd (hmem a List.mem_cons_self) List.not_mem_nil
  | cons k keys ih =>
    obtain ⟨hlt, hkeys⟩ := List.pairwise_cons.mp hkeys
    have hleast : ∀ a ∈ l, k ≤ key a := fun a ha => by
      rcases List.mem_cons.mp (hmem a ha) with h | h
      · exact Nat.le_of_eq h.symm
      · exact Nat.le_of_lt (hlt _ h)
    have hothers : ∀ a ∈ l.filter (key · ≠ k), key a ∈ keys := fun a ha => by
      obtain ⟨ha, hne⟩ := List.mem_filter.mp ha
      exact (List.mem_cons.mp (hmem a ha)).resolve_left (by simpa using hne)
    have hsame : ∀ k' ∈ keys,
        (l.filter (key · ≠ k)).filter (key · = k') = l.filter (key · = k') := fun k' hk' => by
      rw [List.filter_filter]
      refine List.filter_congr fun a _ => ?_
      have := hlt k' hk'
      simp
      omega
    conv_lhs => rw [eq_filter_append_of_sorted hl hleast, ih hkeys (hl.filter _) hothers]
    rw [List.flatMap_cons, List.flatMap_congr hsame]

theorem flatMap_filter_eq {β : Type} {p : α → Bool} {f g : α → List β}
    (h : ∀ a ∈ l, g a = if p a then f a else []) : (l.filter p).flatMap f = l.flatMap g := by
  induction l with
  | nil => rfl
  | cons a l ih =>
    have hl := ih fun b hb => h b (List.mem_cons_of_mem a hb)
    rw [List.flatMap_cons, h a List.mem_cons_self, ← hl, List.filter_cons]
    split_ifs <;> rfl

end Keys

/-! ## Failures by impact -/

/-- **The failures of the worst impact come first**, then those of the next one; those of one impact
are in order. -/
theorem byImpact_eq (failures : List Failure) :
    byImpact failures = Impact.all.flatMap fun i => failures.filter (·.impact = i) := by
  have horder (i j : Impact) : i.order = j.order ↔ i = j := by
    cases i <;> cases j <;> decide
  have hmem : ∀ f ∈ byImpact failures, f.impact.order ∈ Impact.all.map (·.order) := fun f _ => by
    cases f.impact <;> decide
  have hkeys : (Impact.all.map (·.order)).Pairwise (· < ·) := by decide
  have hgroups : byImpact failures = (Impact.all.map (·.order)).flatMap fun k =>
      (byImpact failures).filter (·.impact.order = k) :=
    eq_flatMap_of_sorted hkeys pairwise_mergeSort_key hmem
  rw [hgroups, List.flatMap_map]
  refine List.flatMap_congr fun i _ => ?_
  rw [byImpact, filter_mergeSort_key]
  simp only [horder]

/-! ## Scans -/

variable {corpus : Corpus} {c : Component}

/-- A relationship of a type, once for each end that has the type. -/
def Relationship.endsOf (r : Relationship) (c : Component) : List Relationship :=
  (if c = r.source then [r] else []) ++ if c = r.target then [r] else []

theorem Relationship.endsOf_eq_nil {r : Relationship} :
    r.endsOf c = [] ↔ c ≠ r.source ∧ c ≠ r.target := by
  simp [endsOf]

theorem Relationship.dependenciesOf_eq_nil {r : Relationship} (h : c ≠ r.source ∧ c ≠ r.target) :
    r.dependenciesOf c = [] := by
  unfold dependenciesOf
  cases r.relation <;> simp [h.1, h.2]

theorem Relationship.conflictsOf_eq {r : Relationship} :
    r.conflictsOf c = if r.relation = .conflicts then r.endsOf c else [] := by
  unfold conflictsOf
  cases r.relation <;> rfl

namespace Store

theorem relationshipsFor_ofCorpus : (ofCorpus corpus).relationshipsFor c =
    corpus.relationships.flatMap (·.endsOf c) := by
  refine foldl_learn (·.relationshipsFor c) (fun store r => ?_) _
  have hget : ((store.byType.add r.source r).add r.target r).get c =
      store.byType.get c ++ r.endsOf c := by
    rw [Index.get_add, Index.get_add, List.append_assoc]
    rfl
  unfold learn relationshipsFor
  cases r.relation <;> exact hget

theorem mandatoryFor_ofCorpus : (ofCorpus corpus).mandatoryFor c =
    ((corpus.relationships.filter (·.isMandatory)).flatMap (·.dependenciesOf c)).map (·.2) := by
  rw [mandatoryFor, dependenciesFor_ofCorpus, List.filter_flatMap]
  refine congrArg (List.map _) (flatMap_filter_eq fun r _ => ?_).symm
  -- a dependency is mandatory if its relationship is
  have hfst : ∀ d ∈ r.dependenciesOf c, d.1.isMandatory = r.isMandatory := fun d hd => by
    rw [Relationship.fst_of_mem_dependenciesOf hd]
  split_ifs with h
  · exact List.filter_eq_self.mpr fun d hd => (hfst d hd).trans h
  · exact List.filter_eq_nil_iff.mpr fun d hd => by rwa [hfst d hd]

theorem get_foldl_add (failures : List Failure) (index : Index Failure) :
    (failures.foldl (fun index f => index.add f.component f) index).get c =
      index.get c ++ failures.filter (c = ·.component) := by
  induction failures generalizing index with
  | nil => exact (List.append_nil _).symm
  | cons f failures ih =>
    rw [List.foldl_cons, ih, Index.get_add, List.append_assoc, List.filter_cons]
    by_cases h : c = f.component <;> simp [h]

theorem failuresFor_ofCorpus : (ofCorpus corpus).failuresFor c =
    Impact.all.flatMap fun i => corpus.failures.filter fun f => c = f.component ∧ f.impact = i := by
  have hget : (ofCorpus corpus).failures.get c = corpus.failures.filter (c = ·.component) :=
    get_foldl_add corpus.failures []
  rw [failuresFor, hget, byImpact_eq]
  simp only [List.filter_filter, Bool.decide_and, Bool.and_comm]

/-- **Every look-up is a scan of the corpus**: what is found under a type stands in the order of the
corpus, a relationship once for each end that has the type, dependencies from the end that depends,
and failures the worst impact first. Of a type that nothing is about nothing is found. -/
theorem lookups_scan (corpus : Corpus) (c : Component) :
    (ofCorpus corpus).relationshipsFor c = corpus.relationships.flatMap (·.endsOf c) ∧
    (ofCorpus corpus).conflictsFor c =
      (corpus.relationships.filter (·.relation = .conflicts)).flatMap (·.endsOf c) ∧
    (ofCorpus corpus).dependenciesFor c = corpus.relationships.flatMap (·.dependenciesOf c) ∧
    (ofCorpus corpus).mandatoryFor c =
      ((corpus.relationships.filter (·.isMandatory)).flatMap (·.dependenciesOf c)).map (·.2) ∧
    (ofCorpus corpus).failuresFor c = (Impact.all.flatMap fun i =>
      corpus.failures.filter fun f => c = f.component ∧ f.impact = i) ∧
    ((∀ r ∈ corpus.relationships, c ≠ r.source ∧ c ≠ r.target) →
      (ofCorpus corpus).relationshipsFor c = [] ∧ (ofCorpus corpus).conflictsFor c = [] ∧
        (ofCorpus corpus).dependenciesFor c = [] ∧ (ofCorpus corpus).mandatoryFor c = []) ∧
    ((∀ f ∈ corpus.failures, c ≠ f.component) → (ofCorpus corpus).failuresFor c = []) := by
  have hconflicts : (ofCorpus corpus).conflictsFor c =
      (corpus.relationships.filter (·.relation = .conflicts)).flatMap (·.endsOf c) := by
    rw [conflictsFor_ofCorpus]
    refine (flatMap_filter_eq fun r _ => ?_).symm
    simp only [decide_eq_true_eq]
    exact Relationship.conflictsOf_eq
  refine ⟨relationshipsFor_ofCorpus, hconflicts, dependenciesFor_ofCorpus, mandatoryFor_ofCorpus,
    failuresFor_ofCorpus, fun h => ?_, fun h => ?_⟩
  · have hends : ∀ r ∈ corpus.relationships, r.endsOf c = [] := fun r hr =>
      Relationship.endsOf_eq_nil.mpr (h r hr)
    have hdependencies : (ofCorpus corpus).dependenciesFor c = [] := by
      rw [dependenciesFor_ofCorpus, List.flatMap_eq_nil_iff]
      exact fun r hr => Relationship.dependenciesOf_eq_nil (h r hr)
    refine ⟨?_, ?_, hdependencies, ?_⟩
    · rw [relationshipsFor_ofCorpus, List.flatMap_eq_nil_iff]
      exact hends
    · rw [hconflicts, List.flatMap_eq_nil_iff]
      exact fun r hr => hends r (List.mem_of_mem_filter hr)
    · rw [mandatoryFor, hdependencies]
      rfl
  · rw [failuresFor_ofCorpus, List.flatMap_eq_nil_iff]
    refine fun i _ => List.filter_eq_nil_iff.mpr fun f hf => ?_
    simp [h f hf]

end Store

end NetSketch
