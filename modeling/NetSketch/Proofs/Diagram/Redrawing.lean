import Mathlib.Data.Set.Function
import NetSketch.Proofs.Diagram.Spreading

/-!
# Diagrams drawn again

A diagram can be drawn again with its nodes and connections in another order and its nodes under
other ids. What is asked about types, neighbours and ways has the same answer then.

* `Node.renamed`, `Connection.renamed`: parts under other ids;
* `Spec.RedrawnBy`, `Spec.Redrawn`: a diagram drawn again; **`Spec.RedrawnBy.symm`**: the old one is
  the new one drawn again;
* `Spec.RedrawnBy.wellFormed`, `Spec.RedrawnBy.isOf_iff`, `Spec.RedrawnBy.adjacent`;
* **`Spec.Redrawn.unguarded_iff`**, **`Spec.Redrawn.directLink_eq`**: its shape is the same.
-/

open Relation (ReflTransGen)

namespace NetSketch

/-- A node under another id. -/
def Node.renamed (f : String → String) (n : Node) : Node := { n with id := f n.id }

/-- A connection between other ids. -/
def Connection.renamed (f : String → String) (c : Connection) : Connection :=
  { c with source := f c.source, target := f c.target }

namespace Spec

/-- **A diagram drawn again**: its ids are changed by a function that tells them apart, and nodes
and connections stand in any order. Zones are of no account. -/
structure RedrawnBy (f : String → String) (s t : Spec) : Prop where
  injOn : Set.InjOn f {id | id ∈ s.ids}
  not_blank : ∀ id ∈ s.ids, Text.isAllBlank (f id) = false
  nodes : t.nodes.Perm (s.nodes.map (·.renamed f))
  connections : t.connections.Perm (s.connections.map (·.renamed f))

/-- A diagram drawn again under some ids. -/
def Redrawn (s t : Spec) : Prop := ∃ f, s.RedrawnBy f t

variable {s t : Spec} {f : String → String} {types others sources targets guards : List Component}
  {a b : String}

namespace RedrawnBy

theorem perm_ids (h : s.RedrawnBy f t) : t.ids.Perm (s.ids.map f) := by
  have hids := h.nodes.map (·.id)
  rw [List.map_map] at hids
  rw [ids, ids, List.map_map]
  exact hids

theorem perm_types (h : s.RedrawnBy f t) : t.types.Perm s.types := by
  have htypes := h.nodes.map (·.type)
  rwa [List.map_map] at htypes

theorem mem_nodes (h : s.RedrawnBy f t) {m : Node} :
    m ∈ t.nodes ↔ ∃ n ∈ s.nodes, n.renamed f = m :=
  h.nodes.mem_iff.trans List.mem_map

theorem mem_ids (h : s.RedrawnBy f t) (ha : a ∈ s.ids) : f a ∈ t.ids :=
  h.perm_ids.mem_iff.mpr (List.mem_map_of_mem ha)

theorem eq_iff (h : s.RedrawnBy f t) (ha : a ∈ s.ids) (hb : b ∈ s.ids) : f a = f b ↔ a = b :=
  h.injOn.eq_iff ha hb

theorem wellFormed (h : s.RedrawnBy f t) (hs : s.WellFormed) : t.WellFormed := by
  have hconnection : ∀ c' ∈ t.connections, ∃ c ∈ s.connections, c.renamed f = c' :=
    fun c' hc' => List.mem_map.mp (h.connections.mem_iff.mp hc')
  refine ⟨?_, ?_, ?_, ?_, ?_⟩
  · exact h.perm_ids.nodup_iff.mpr (hs.ids_nodup.map_on fun a ha b hb => h.injOn ha hb)
  · intro m hm
    obtain ⟨n, hn, rfl⟩ := h.mem_nodes.mp hm
    exact h.not_blank n.id (id_mem_ids hn)
  · intro c' hc'
    obtain ⟨c, hc, rfl⟩ := hconnection c' hc'
    exact mt (h.eq_iff (hs.source_mem c hc) (hs.target_mem c hc)).mp (hs.no_loop c hc)
  · intro c' hc'
    obtain ⟨c, hc, rfl⟩ := hconnection c' hc'
    exact h.mem_ids (hs.source_mem c hc)
  · intro c' hc'
    obtain ⟨c, hc, rfl⟩ := hconnection c' hc'
    exact h.mem_ids (hs.target_mem c hc)

/-- **A diagram is one that is drawn again with its ids put back.** -/
theorem symm {g : String → String} (h : s.RedrawnBy f t) (hs : s.WellFormed)
    (hleft : ∀ a ∈ s.ids, g (f a) = a) : t.RedrawnBy g s := by
  have hback : ∀ b ∈ t.ids, ∃ a ∈ s.ids, f a = b := fun b hb =>
    List.mem_map.mp (h.perm_ids.mem_iff.mp hb)
  refine ⟨?_, ?_, ?_, ?_⟩
  · rintro b hb b' hb' heq
    obtain ⟨a, ha, rfl⟩ := hback b hb
    obtain ⟨a', ha', rfl⟩ := hback b' hb'
    rw [hleft a ha, hleft a' ha'] at heq
    rw [heq]
  · intro b hb
    obtain ⟨a, ha, rfl⟩ := hback b hb
    obtain ⟨n, hn, rfl⟩ := Spec.mem_ids.mp ha
    rw [hleft _ ha]
    exact hs.id_not_blank n hn
  · refine (List.Perm.of_eq ?_).trans (h.nodes.map _).symm
    rw [List.map_map]
    conv_lhs => rw [← List.map_id s.nodes]
    refine List.map_congr_left fun n hn => ?_
    simp only [Function.comp_apply, Node.renamed, hleft n.id (id_mem_ids hn), id]
  · refine (List.Perm.of_eq ?_).trans (h.connections.map _).symm
    rw [List.map_map]
    conv_lhs => rw [← List.map_id s.connections]
    refine List.map_congr_left fun c hc => ?_
    simp only [Function.comp_apply, Connection.renamed, hleft c.source (hs.source_mem c hc),
      hleft c.target (hs.target_mem c hc), id]

/-! ## Types and neighbours -/

theorem isOf_iff (h : s.RedrawnBy f t) (ha : a ∈ s.ids) : t.IsOf types (f a) ↔ s.IsOf types a := by
  constructor
  · rintro ⟨m, hm, hid, htype⟩
    obtain ⟨n, hn, rfl⟩ := h.mem_nodes.mp hm
    exact ⟨n, hn, (h.eq_iff (id_mem_ids hn) ha).mp hid, htype⟩
  · rintro ⟨n, hn, rfl, htype⟩
    exact ⟨n.renamed f, h.mem_nodes.mpr ⟨n, hn, rfl⟩, rfl, htype⟩

theorem joins (h : s.RedrawnBy f t) (hjoins : s.Joins a b) : t.Joins (f a) (f b) := by
  obtain ⟨c, hc, he⟩ := mem_ends.mp hjoins
  obtain ⟨rfl, rfl⟩ := Prod.mk.inj he
  exact mem_ends.mpr ⟨c.renamed f, h.connections.mem_iff.mpr (List.mem_map_of_mem hc), rfl⟩

theorem adjacent (h : s.RedrawnBy f t) (hab : s.Adjacent a b) : t.Adjacent (f a) (f b) :=
  hab.imp h.joins h.joins

/-! ## Ways -/

theorem wayPast (h : s.RedrawnBy f t) (hs : s.WellFormed)
    (hway : WayPast s.Adjacent (s.IsOf guards) a b) :
    WayPast t.Adjacent (t.IsOf guards) (f a) (f b) := by
  refine ReflTransGen.lift f (fun c d hcd => ⟨h.adjacent hcd.1, ?_⟩) _ _ hway
  have hc : c ∈ s.ids := hcd.1.elim (fun h => (hs.ends_mem_ids h).1) fun h => (hs.ends_mem_ids h).2
  exact hcd.2.imp (congrArg f) (mt (h.isOf_iff hc).mp)

theorem unguarded (h : s.RedrawnBy f t) (hs : s.WellFormed)
    (hway : s.Unguarded sources targets guards) : t.Unguarded sources targets guards := by
  obtain ⟨a, b, ha, hb, hne, hway⟩ := hway
  exact ⟨f a, f b, (h.isOf_iff ha.mem_ids).mpr ha, (h.isOf_iff hb.mem_ids).mpr hb,
    mt (h.eq_iff hb.mem_ids ha.mem_ids).mp hne, h.wayPast hs hway⟩

/-! ## Links -/

theorem directLink (h : s.RedrawnBy f t) (hs : s.WellFormed)
    (hlink : (View.ofSpec? (some s)).directLink types others = true) :
    (View.ofSpec? (some t)).directLink types others = true := by
  obtain ⟨⟨a, b⟩, he, htypes⟩ := (directLink_view hs).mp hlink
  obtain ⟨ha, hb⟩ := hs.ends_mem_ids he
  refine (directLink_view (h.wellFormed hs)).mpr ⟨(f a, f b), h.joins he, ?_⟩
  simpa only [h.isOf_iff ha, h.isOf_iff hb] using htypes

end RedrawnBy

/-! ## The same answers -/

namespace Redrawn

theorem wellFormed (h : s.Redrawn t) (hs : s.WellFormed) : t.WellFormed :=
  h.elim fun _ h => h.wellFormed hs

theorem symm (h : s.Redrawn t) (hs : s.WellFormed) : t.Redrawn s :=
  h.elim fun _ h => ⟨_, h.symm hs fun _ ha => h.injOn.leftInvOn_invFunOn ha⟩

/-- **The ways past no guard are the same.** -/
theorem unguarded_iff (h : s.Redrawn t) (hs : s.WellFormed) :
    s.Unguarded sources targets guards ↔ t.Unguarded sources targets guards := by
  have ht := h.wellFormed hs
  obtain ⟨g, hback⟩ := h.symm hs
  obtain ⟨f, h⟩ := h
  exact ⟨h.unguarded hs, hback.unguarded ht⟩

theorem unguardedPath_eq (h : s.Redrawn t) (hs : s.WellFormed) :
    (View.ofSpec? (some s)).unguardedPath sources targets guards =
      (View.ofSpec? (some t)).unguardedPath sources targets guards := by
  rw [Bool.eq_iff_iff, unguardedPath_view hs, unguardedPath_view (h.wellFormed hs)]
  exact h.unguarded_iff hs

/-- **The direct links are the same.** -/
theorem directLink_eq (h : s.Redrawn t) (hs : s.WellFormed) :
    (View.ofSpec? (some s)).directLink types others =
      (View.ofSpec? (some t)).directLink types others := by
  have ht := h.wellFormed hs
  obtain ⟨g, hback⟩ := h.symm hs
  obtain ⟨f, h⟩ := h
  exact Bool.eq_iff_iff.mpr ⟨h.directLink hs, hback.directLink ht⟩

end Redrawn

end Spec

end NetSketch
