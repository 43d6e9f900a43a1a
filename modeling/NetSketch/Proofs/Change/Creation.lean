import NetSketch.Proofs.Change.Addition
import NetSketch.Proofs.Diagram.Chain

/-!
# Diagrams from scratch

Components can always be made into a diagram, and the diagram is a tidy one.

* `Spec.Tidy`: well-formed diagrams whose connections lead inwards and whose nodes have the tiers of
  their types;
* **`Spec.exists_sketch`**, `Spec.exists_ofPrompt`: diagrams of components are tidy.
-/

namespace NetSketch.Spec

variable {s : Spec}

/-- What every diagram made from scratch is. -/
structure Tidy (s : Spec) : Prop where
  wellFormed : s.WellFormed
  tiersByType : s.TiersByType
  inwards : s.Inwards

theorem TiersByType.withWanted (h : s.TiersByType) (w : Wanted) :
    (s.withWanted w).TiersByType := by
  intro n hn
  rcases List.mem_append.mp hn with hn | hn
  · exact h n hn
  · rw [List.mem_singleton.mp hn]
    rfl

theorem exists_addWanted (hs : s.WellFormed) (htier : s.TiersByType) (wanted : List Wanted) :
    ∃ t, wanted.foldlM addWanted s = .ok t ∧ t.WellFormed ∧ t.TiersByType ∧ t.ends = s.ends := by
  induction wanted generalizing s with
  | nil => exact ⟨s, rfl, hs, htier, rfl⟩
  | cons w wanted ih =>
    obtain ⟨t, ht, hwf, htt, hends⟩ := ih (hs.withWanted w) (htier.withWanted w)
    refine ⟨t, ?_, hwf, htt, hends⟩
    rw [List.foldlM_cons, addWanted, hs.addNode_wanted w]
    exact ht

/-- **Components can be made into a tidy diagram.** -/
theorem exists_sketch (wanted : List Wanted) :
    ∃ t, sketch wanted = .ok t ∧ t.Tidy ∧ t.ends.Nodup := by
  have hempty : empty.WellFormed := by decide
  obtain ⟨s, hs, hwf, htier, hends⟩ :=
    exists_addWanted hempty (fun _ h => by cases h) wanted
  have hends : s.ends = [] := hends
  have hpair : ∀ c ∈ (chainPairs s.nodes).map joining, ∃ a ∈ s.nodes, ∃ b ∈ s.nodes,
      c.ends = (a.id, b.id) ∧ Inward s.nodes a b := by
    intro c hc
    obtain ⟨⟨a, b⟩, hp, rfl⟩ := List.mem_map.mp hc
    obtain ⟨ha, hb, hin⟩ := inward_of_mem_chainPairs hp
    exact ⟨a, ha, b, hb, rfl, hin⟩
  have hloop : ∀ c ∈ (chainPairs s.nodes).map joining, c.source ≠ c.target := by
    intro c hc hloop
    obtain ⟨a, ha, b, hb, he, hin⟩ := hpair c hc
    obtain ⟨hsource, htarget⟩ := Prod.mk.inj he
    refine hin.ne (.of_map _ hwf.ids_nodup) (node_ext_of_nodup hwf.ids_nodup ha hb ?_)
    rw [← hsource, ← htarget, hloop]
  have hwf' := hwf.connectAll hloop
  refine ⟨s.connectAll ((chainPairs s.nodes).map joining), ?_, ⟨hwf', ?_, ?_⟩, ?_⟩
  · rw [sketch, hs]
    change (chain s.nodes >>= _) = _
    rw [chain_eq hwf.ids_nodup]
    rfl
  · rw [TiersByType, connectAll_nodes]
    exact htier
  · refine inwards_of_ends hwf'.ids_nodup fun e he => ?_
    rw [mem_ends_connectAll, hends] at he
    obtain ⟨c, hc, rfl, -⟩ := he.resolve_left (List.not_mem_nil)
    rw [connectAll_nodes]
    exact hpair c hc
  · refine nodup_ends_connectAll ?_
    rw [hends]
    exact List.nodup_nil

theorem exists_ofPrompt (text : String) :
    ∃ o, ofPrompt text = .ok o ∧ ∀ t, o = some t → t.Tidy ∧ t.ends.Nodup := by
  unfold ofPrompt
  cases Prompt.allNamed text with
  | nil => exact ⟨none, rfl, nofun⟩
  | cons type types =>
    obtain ⟨t, ht, h⟩ := exists_sketch (withEntry ((type :: types).map fun type => { type }))
    refine ⟨some t, ?_, ?_⟩
    · dsimp only
      rw [ht]
      rfl
    · rintro _ ⟨rfl⟩
      exact h

end NetSketch.Spec
