import NetSketch.Proofs.Knowledge.Alike
import NetSketch.Proofs.Knowledge.Breaking
import NetSketch.Proofs.Knowledge.Risk

/-!
# Changes that change nothing

A diagram with its nodes and connections in another order is the same diagram. Between the two there
is no difference, no anti-pattern is new and no type is missed, so that none of the rules for
factors finds one, whatever the store knows. Only a signature that breaks on the diagram keeps the
risk from being told.

* `Spec.Reordered`: another order; `Spec.Reordered.redrawn`;
* `Diff.between_reordered`, `Store.introduced_reordered`, `Store.found_reordered`: nothing is found;
* `Store.risk_reordered`, **`risk_of_reordered`**: the risk of such a change.
-/

namespace NetSketch

open Course

variable {s t : Spec} {store : Store}

/-! ## Another order -/

/-- **The same nodes and the same connections**, in any order. -/
structure Spec.Reordered (s t : Spec) : Prop where
  nodes : t.nodes.Perm s.nodes
  connections : t.connections.Perm s.connections

namespace Spec.Reordered

theorem types (h : s.Reordered t) : t.types.Perm s.types := h.nodes.map Node.type

theorem ends (h : s.Reordered t) : t.ends.Perm s.ends := h.connections.map Connection.ends

/-- A diagram in another order is drawn again under the same ids. -/
theorem redrawn (h : s.Reordered t) (hs : s.WellFormed) : s.Redrawn t := by
  refine ⟨id, Set.injOn_id _, fun a ha => ?_, ?_, ?_⟩
  · obtain ⟨n, hn, rfl⟩ := Spec.mem_ids.mp ha
    exact hs.id_not_blank n hn
  · exact h.nodes.trans (.of_eq (List.map_id s.nodes).symm)
  · exact h.connections.trans (.of_eq (List.map_id s.connections).symm)

end Spec.Reordered

/-! ## No difference -/

/-- The difference between a diagram and itself. -/
def Diff.nothing : Diff := ⟨[], [], [], [], []⟩

theorem Diff.between_reordered (hs : s.ids.Nodup) (h : s.Reordered t) :
    between s t = nothing := by
  have hadded : (between s t).added = [] := List.eq_nil_iff_forall_not_mem.mpr fun n hn => by
    obtain ⟨hn, hid⟩ := mem_added_between.mp hn
    exact hid (Spec.id_mem_ids (h.nodes.subset hn))
  have hremoved : (between s t).removed = [] := List.eq_nil_iff_forall_not_mem.mpr fun n hn => by
    obtain ⟨hn, hid⟩ := mem_removed_between.mp hn
    exact hid (Spec.id_mem_ids (h.nodes.symm.subset hn))
  have hmodified : (between s t).modified = [] :=
    List.eq_nil_iff_forall_not_mem.mpr fun (m, n) hmn => by
      obtain ⟨hm, hn, hid, hface⟩ := (mem_modified_between hs).mp hmn
      exact hface (by rw [Spec.node_ext_of_nodup hs hm (h.nodes.subset hn) hid])
  have haddedEnds : (between s t).addedEnds = [] :=
    List.eq_nil_iff_forall_not_mem.mpr fun e he => by
      obtain ⟨he, hnew⟩ := mem_addedEnds_between.mp he
      exact hnew (h.ends.subset he)
  have hremovedEnds : (between s t).removedEnds = [] :=
    List.eq_nil_iff_forall_not_mem.mpr fun e he => by
      obtain ⟨he, hgone⟩ := mem_removedEnds_between.mp he
      exact hgone (h.ends.symm.subset he)
  calc between s t
      = ⟨(between s t).added, (between s t).removed, (between s t).modified,
          (between s t).addedEnds, (between s t).removedEnds⟩ := rfl
    _ = nothing := by rw [hadded, hremoved, hmodified, haddedEnds, hremovedEnds, nothing]

/-! ## No factors -/

theorem redundancyLosses_reordered (h : s.Reordered t) : redundancyLosses s t = [] := by
  rw [redundancyLosses, List.map_eq_nil_iff, List.filter_eq_nil_iff]
  intro ⟨c, n⟩ hc
  obtain ⟨c', -, hc'⟩ := List.mem_map.mp hc
  obtain ⟨rfl, rfl⟩ := Prod.mk.inj hc'
  have hcount : t.types.count c' = s.types.count c' := h.types.count_eq c'
  simp only [hcount, Bool.and_eq_true, decide_eq_true_eq, beq_iff_eq]
  omega

theorem Store.brokenDependencies_reordered (h : s.Reordered t) :
    store.brokenDependencies s t = [] := by
  refine List.eq_nil_iff_forall_not_mem.mpr fun f hf => ?_
  obtain ⟨c, m, ⟨-, -, hbefore, hafter⟩, -⟩ := mem_brokenDependencies.mp hf
  exact hafter (h.types.symm.subset hbefore)

theorem Store.introduced_reordered (hs : s.WellFormed) (h : s.Reordered t) :
    store.introduced (some s) t = (store.antiPatternsIn (.ofSpec? s)).map fun _ => [] := by
  have hsame := store.antiPatternsIn_alike ((h.redrawn hs).alike hs)
  simp only [introduced, ← hsame]
  cases store.antiPatternsIn (.ofSpec? s) with
  | error f => rfl
  | ok found =>
    refine congrArg Except.ok (List.filter_eq_nil_iff.mpr fun a ha => ?_)
    have hold : (found.map (·.id.key?)).contains a.id.key? = true :=
      List.contains_iff_mem.mpr (List.mem_map_of_mem ha)
    rw [hold]
    exact Bool.false_ne_true

/-- **None of the rules finds a factor.** -/
theorem Store.found_reordered (hs : s.ids.Nodup) (h : s.Reordered t) : store.found s t [] = [] := by
  have hempty : s.nodes.isEmpty = t.nodes.isEmpty := h.nodes.isEmpty_eq.symm
  rw [found, Diff.between_reordered hs h, brokenDependencies_reordered h,
    redundancyLosses_reordered h, hempty, Bool.not_and_self, if_neg Bool.false_ne_true]
  simp [Diff.nothing, Diff.losses, Diff.scale, Diff.exposures, Diff.guardsAdded]

/-! ## The risk -/

theorem Store.risk_reordered (hs : s.WellFormed) (h : s.Reordered t) : store.risk s t =
    (store.antiPatternsIn (.ofSpec? s)).map fun _ => ⟨[.nothing], Diff.nothing.counts⟩ := by
  have hintroduced : store.introduced (some s) t = _ := introduced_reordered hs h
  cases hfound : store.antiPatternsIn (.ofSpec? s) with
  | error f =>
    rw [hfound] at hintroduced
    rw [risk, factors, hintroduced]
    rfl
  | ok found =>
    rw [hfound] at hintroduced
    rw [risk, factors_eq hintroduced, found_reordered hs.ids_nodup h,
      Diff.between_reordered hs.ids_nodup h]
    rfl

/-- **A change that changes nothing is told to have no risk**, unless a signature breaks on the
diagram, and then the risk ends in the fault of the first one that does. Signatures whose parts are
of the right kinds never break. -/
theorem risk_of_reordered (corpus : Corpus) (hs : s.WellFormed) (h : s.Reordered t) :
    EndsIn (corpus.ShapesBreak (.ofSpec? s)) ((Store.ofCorpus corpus).risk s t) ∧
      ((Store.ofCorpus corpus).Typed → Succeeds ((Store.ofCorpus corpus).risk s t)) ∧
      ∀ r, (Store.ofCorpus corpus).risk s t = .ok r →
        r.factors = [.nothing] ∧ r.factors.map (·.code) = ["NO_RISK"] ∧ r.level = .low ∧
          r.level.recommendation.1 = "auto-apply" ∧ r.counts = ⟨0, 0, 0, 0, 0⟩ := by
  rw [Store.risk_reordered hs h]
  refine ⟨.of_fault_iff fun f => ?_, fun htyped => ?_, fun r hr => ?_⟩
  · rw [← Store.antiPatternsIn_eq_error]
    cases (Store.ofCorpus corpus).antiPatternsIn (.ofSpec? s) <;> simp [Except.map]
  · obtain ⟨found, hfound⟩ := Store.antiPatternsIn_succeeds htyped (.ofSpec? s)
    rw [hfound]
    exact .ok
  · cases hfound : (Store.ofCorpus corpus).antiPatternsIn (.ofSpec? s) with
    | error f =>
      rw [hfound] at hr
      cases hr
    | ok found =>
      rw [hfound] at hr
      obtain rfl := Except.ok.inj hr
      exact ⟨rfl, rfl, rfl, rfl, rfl⟩

/-- The shop with its parts in another order. -/
def shopReordered : Spec := { shop with
  nodes := shop.nodes.reverse, connections := shop.connections.reverse }

/-- The internet reaches the database of the shop past no firewall, before and after. -/
theorem risk_of_reordered_shop : shop.WellFormed ∧ shop.Reordered shopReordered ∧
    ∃ r, Store.bundled.risk shop shopReordered = .ok r ∧ r.factors = [.nothing] ∧
      r.level = .low ∧ r.level.recommendation.1 = "auto-apply" ∧ r.counts = ⟨0, 0, 0, 0, 0⟩ := by
  have hs : shop.WellFormed := by decide
  have h : shop.Reordered shopReordered := ⟨List.reverse_perm _, List.reverse_perm _⟩
  obtain ⟨-, htold, hnone⟩ := risk_of_reordered .bundled hs h
  obtain ⟨r, hr⟩ := htold Store.bundled_typed
  obtain ⟨hfactors, -, hlevel, hadvice, hcounts⟩ := hnone r hr
  exact ⟨hs, h, r, hr, hfactors, hlevel, hadvice, hcounts⟩

/-- The risk of no change is not told where a signature asks for a number of nodes by a text. -/
theorem no_risk_told_worded :
    Corpus.load wordedAntiPatterns = .ok { antiPatterns := [wordedAntiPattern] } ∧
      loneWeb.WellFormed ∧ loneWeb.Reordered loneWeb ∧
      (Store.ofCorpus { antiPatterns := [wordedAntiPattern] }).risk loneWeb loneWeb =
        .error (.notOrdered "<" .int .str) := by
  have hs : loneWeb.WellFormed := by decide
  have h : loneWeb.Reordered loneWeb := ⟨.refl _, .refl _⟩
  refine ⟨rfl, hs, h, ?_⟩
  rw [Store.risk_reordered hs h]
  rfl

end NetSketch
