import Mathlib.Data.List.Nodup
import Mathlib.Logic.Relation
import NetSketch.Proofs.Diagram.Rewiring

/-!
# Diagrams whose connections lead inwards

Places on the path are ordered by tier and rank. A connection leads inwards if it goes from a path
node to one further in, from a path node to a side node, or from a side node to a later one. Where
all connections do so none can close a cycle.

* `PathKey.before_trans`, `PathKey.eq_of_not_before`: the order of places;
* `Inward`: pairs of nodes that lead inwards; `Inward.trans`, `Inward.ne`;
  `not_transGen_of_inward`: such pairs do not close a cycle;
* `Spec.Inwards`: diagrams in which all connections do; **`Spec.Inwards.acyclic`**;
* `Spec.Inwards.rewired`: wiring by tier keeps it so.
-/

open Relation (TransGen)

namespace NetSketch

/-! ## The order of places -/

namespace PathKey

variable {a b c : PathKey}

theorem before_iff :
    a.before b = true ↔ a.tier < b.tier ∨ a.tier = b.tier ∧ a.rank < b.rank := by
  simp [before]

theorem before_irrefl : a.before a = false := by
  simp [before]

theorem before_trans (hab : a.before b = true) (hbc : b.before c = true) :
    a.before c = true := by
  rw [before_iff] at *
  omega

theorem not_before_of_before (h : a.before b = true) : b.before a = false := by
  rw [← Bool.not_eq_true, before_iff]
  rw [before_iff] at h
  omega

theorem not_before_trans (hab : a.before b = false) (hbc : b.before c = false) :
    a.before c = false := by
  rw [← Bool.not_eq_true, before_iff] at *
  omega

theorem eq_of_not_before (hab : a.before b = false) (hba : b.before a = false) : a = b := by
  have h₁ := mt before_iff.mpr (Bool.eq_false_iff.mp hab)
  have h₂ := mt before_iff.mpr (Bool.eq_false_iff.mp hba)
  obtain ⟨t, r⟩ := a
  obtain ⟨t', r'⟩ := b
  simp only [mk.injEq]
  dsimp only at h₁ h₂
  omega

end PathKey

/-! ## Pairs of nodes -/

/-- One node leads inwards to another among some nodes in order. -/
inductive Inward (nodes : List Node) (a b : Node) : Prop
  /-- From a path node to one further in. -/
  | along (ha : a.isSide = false) (hb : b.isSide = false) (h : a.pathKey.before b.pathKey = true)
  /-- From a path node to a side node. -/
  | aside (ha : a.isSide = false) (hb : b.isSide = true)
  /-- From a side node to a later one. -/
  | inRow (ha : a.isSide = true) (hb : b.isSide = true) (h : [a, b].Sublist nodes)

namespace Inward

variable {nodes nodes' : List Node} {a b c : Node}

theorem mono (h : Inward nodes a b) (hsub : nodes.Sublist nodes') : Inward nodes' a b := by
  cases h with
  | along ha hb h => exact .along ha hb h
  | aside ha hb => exact .aside ha hb
  | inRow ha hb h => exact .inRow ha hb (h.trans hsub)

theorem filter {p : Node → Bool} (h : Inward nodes a b) (ha : p a = true) (hb : p b = true) :
    Inward (nodes.filter p) a b := by
  cases h with
  | along ha hb h => exact .along ha hb h
  | aside ha hb => exact .aside ha hb
  | inRow ha' hb' h =>
    have := h.filter p
    rw [List.filter_cons_of_pos ha, List.filter_cons_of_pos hb, List.filter_nil] at this
    exact .inRow ha' hb' this

theorem ne (hn : nodes.Nodup) (h : Inward nodes a b) : a ≠ b := by
  rintro rfl
  cases h with
  | along _ _ h => simp [PathKey.before_irrefl] at h
  | aside ha hb => simp [ha] at hb
  | inRow _ _ h => exact List.nodup_iff_sublist.mp hn a h

theorem isPath_of_target (h : Inward nodes a b) (hb : b.isSide = false) :
    a.isSide = false ∧ a.pathKey.before b.pathKey = true := by
  cases h with
  | along ha _ h => exact ⟨ha, h⟩
  | aside _ hb' => simp [hb] at hb'
  | inRow _ hb' => simp [hb] at hb'

theorem sublist_trans {α : Type} {l : List α} {x y z : α} (hl : l.Nodup)
    (hxy : [x, y].Sublist l) (hyz : [y, z].Sublist l) : [x, z].Sublist l := by
  induction l with
  | nil => cases hxy
  | cons w l ih =>
    obtain ⟨hw, hl⟩ := List.nodup_cons.mp hl
    have hy : y ∈ l := by
      rcases List.cons_sublist_cons'.mp hxy with h | ⟨-, h⟩
      · exact h.subset (by simp)
      · exact List.singleton_sublist.mp h
    have hyz' : [y, z].Sublist l := by
      rcases List.cons_sublist_cons'.mp hyz with h | ⟨rfl, -⟩
      · exact h
      · exact absurd hy hw
    rcases List.cons_sublist_cons'.mp hxy with h | ⟨rfl, -⟩
    · exact (ih hl h hyz').cons w
    · exact (List.singleton_sublist.mpr (hyz'.subset (by simp))).cons_cons x

theorem trans (hn : nodes.Nodup) (hab : Inward nodes a b) (hbc : Inward nodes b c) :
    Inward nodes a c := by
  cases hbc with
  | along hb hc h =>
    obtain ⟨ha, h'⟩ := hab.isPath_of_target hb
    exact .along ha hc (PathKey.before_trans h' h)
  | aside hb hc => exact .aside (hab.isPath_of_target hb).1 hc
  | inRow hb hc h =>
    cases hab with
    | along _ hb' => simp [hb] at hb'
    | aside ha _ => exact .aside ha hc
    | inRow ha _ h' => exact .inRow ha hc (sublist_trans hn h' h)

end Inward

/-- **Where all ends are those of nodes that lead inwards there is no cycle.** -/
theorem not_transGen_of_inward {nodes : List Node} {ends : List (String × String)}
    (hn : (nodes.map (·.id)).Nodup)
    (h : ∀ e ∈ ends, ∃ a ∈ nodes, ∃ b ∈ nodes, e = (a.id, b.id) ∧ Inward nodes a b)
    (id : String) : ¬ TransGen (fun x y => (x, y) ∈ ends) id id := by
  have hnodes : nodes.Nodup := .of_map _ hn
  have hway : ∀ {x y}, TransGen (fun x y => (x, y) ∈ ends) x y →
      ∃ a ∈ nodes, ∃ b ∈ nodes, a.id = x ∧ b.id = y ∧ Inward nodes a b := by
    intro x y hxy
    induction hxy with
    | single hxy =>
      obtain ⟨a, ha, b, hb, he, hin⟩ := h _ hxy
      obtain ⟨rfl, rfl⟩ := Prod.mk.inj he
      exact ⟨a, ha, b, hb, rfl, rfl, hin⟩
    | tail _ hyz ih =>
      obtain ⟨a, ha, b, hb, hax, hby, hin⟩ := ih
      obtain ⟨b', hb', c, hc, he, hin'⟩ := h _ hyz
      obtain ⟨hby', rfl⟩ := Prod.mk.inj he
      obtain rfl := Spec.node_ext_of_nodup hn hb hb' (hby.trans hby')
      exact ⟨a, ha, c, hc, hax, rfl, hin.trans hnodes hin'⟩
  intro hcycle
  obtain ⟨a, ha, b, hb, hax, hby, hin⟩ := hway hcycle
  exact hin.ne hnodes (Spec.node_ext_of_nodup hn ha hb (hax.trans hby.symm))

namespace Spec

variable {s t u : Spec} {n : Node}

/-! ## Diagrams -/

/-- **All connections lead inwards.** -/
def Inwards (s : Spec) : Prop :=
  ∀ a ∈ s.nodes, ∀ b ∈ s.nodes, s.Joins a.id b.id → Inward s.nodes a b

theorem inwards_of_ends (hn : s.ids.Nodup) (h : ∀ e ∈ s.ends, ∃ a ∈ s.nodes, ∃ b ∈ s.nodes,
    e = (a.id, b.id) ∧ Inward s.nodes a b) : s.Inwards := by
  intro a ha b hb hab
  obtain ⟨a', ha', b', hb', he, hin⟩ := h _ hab
  obtain ⟨hae, hbe⟩ := Prod.mk.inj he
  rw [node_ext_of_nodup hn ha ha' hae, node_ext_of_nodup hn hb hb' hbe]
  exact hin

theorem Inwards.ends (h : s.Inwards) (hs : s.WellFormed) {e : String × String} (he : e ∈ s.ends) :
    ∃ a ∈ s.nodes, ∃ b ∈ s.nodes, e = (a.id, b.id) ∧ Inward s.nodes a b := by
  obtain ⟨a, ha, ha'⟩ := mem_ids.mp (hs.ends_mem_ids he).1
  obtain ⟨b, hb, hb'⟩ := mem_ids.mp (hs.ends_mem_ids he).2
  obtain rfl : e = (a.id, b.id) := Prod.ext ha'.symm hb'.symm
  exact ⟨a, ha, b, hb, rfl, h a ha b hb he⟩

/-- **Where all connections lead inwards there is no cycle.** -/
theorem Inwards.acyclic (h : s.Inwards) (hs : s.WellFormed) (id : String) :
    ¬ TransGen s.Joins id id :=
  not_transGen_of_inward hs.ids_nodup (fun _ he => h.ends hs he) id

/-! ## Wiring by tier -/

/-- No node says its tier itself. -/
def TiersByType (s : Spec) : Prop := ∀ n ∈ s.nodes, n.tierOverride = none

theorem pathKey_eq_of_type {m n : Node} (hm : m.tierOverride = none) (hn : n.tierOverride = none)
    (h : m.type = n.type) : m.pathKey = n.pathKey := by
  rw [Node.pathKey, Node.pathKey, Node.tier, Node.tier, hm, hn, h]

/-- The connections that wiring by tier brings for the last node lead inwards. -/
theorem TierEdge.inward (hs : s.WellFormed) (hin : s.Inwards) (htier : s.TiersByType)
    (hid : n.id ∉ s.ids) (hn : n.tierOverride = none) {e : String × String}
    (h : TierEdge (s.withNode n) n e) : ∃ a ∈ (s.withNode n).nodes, ∃ b ∈ (s.withNode n).nodes,
      e = (a.id, b.id) ∧ Inward (s.withNode n).nodes a b := by
  have hlast : n ∈ (s.withNode n).nodes := by simp
  have hmono : s.nodes.Sublist (s.withNode n).nodes := List.sublist_append_left _ _
  have hold : ∀ {m}, m ∈ (s.withNode n).nodes → m.id ≠ n.id → m ∈ s.nodes := by
    intro m hm hne
    rcases List.mem_append.mp hm with hm | hm
    · exact hm
    · exact absurd (congrArg Node.id (List.mem_singleton.mp hm)) hne
  cases h with
  | @hung a ha hne hside =>
    refine ⟨a, ha, n, hlast, rfl, ?_⟩
    cases hat : a.isSide with
    | false => exact .aside hat hside
    | true =>
      have := List.singleton_sublist.mpr (hold ha hne)
      exact .inRow hat hside (this.append (List.Sublist.refl [n]))
  | @copiedIn peer e hp hps ht he hpe =>
    obtain ⟨a, ha, b, hb, rfl, hab⟩ := hin.ends hs he
    obtain rfl : b = peer := by
      refine node_ext_of_nodup hs.ids_nodup hb (hold hp fun h => hid ?_) hpe
      exact h ▸ hpe ▸ id_mem_ids hb
    obtain ⟨has, hbefore⟩ := hab.isPath_of_target hps
    refine ⟨a, hmono.subset ha, n, hlast, rfl, .along has ?_ ?_⟩
    · rw [Node.isSide, ← ht]
      exact hps
    · rwa [← pathKey_eq_of_type (htier b hb) hn ht]
  | @copiedOut peer e hp hps ht he hpe =>
    obtain ⟨a, ha, b, hb, rfl, hab⟩ := hin.ends hs he
    obtain rfl : a = peer := by
      refine node_ext_of_nodup hs.ids_nodup ha (hold hp fun h => hid ?_) hpe
      exact h ▸ hpe ▸ id_mem_ids ha
    have hside : n.isSide = false := by
      rw [Node.isSide, ← ht]
      exact hps
    refine ⟨n, hlast, b, hmono.subset hb, rfl, ?_⟩
    cases hab with
    | along _ hbs hbefore =>
      refine .along hside hbs ?_
      rwa [← pathKey_eq_of_type (htier a ha) hn ht]
    | aside _ hbs => exact .aside hside hbs
    | inRow has => simp [hps] at has
  | @fromOuter a ha has hns hbefore => exact ⟨a, ha, n, hlast, rfl, .along has hns hbefore⟩
  | @toInner b hb hbs hns hbefore => exact ⟨n, hlast, b, hb, rfl, .along hns hbs hbefore⟩

/-- **A new node wired by tier keeps all connections leading inwards.** -/
theorem Inwards.rewired (hin : s.Inwards) (hs : s.WellFormed) (htier : s.TiersByType)
    (hid : n.id ∉ s.ids) (hn : n.tierOverride = none) (ht : (s.withNode n).WellFormed)
    (hu : Rewired (TierEdge (s.withNode n) n) (s.withNode n) u) : u.Inwards := by
  refine inwards_of_ends (hu.wellFormed ht).ids_nodup fun e he => ?_
  rw [hu.nodes_eq]
  rcases hu.ends_sub he with he | he
  · obtain ⟨a, ha, b, hb, heq, hab⟩ := hin.ends hs he
    have hmono : s.nodes.Sublist (s.withNode n).nodes := List.sublist_append_left _ _
    exact ⟨a, hmono.subset ha, b, hmono.subset hb, heq, hab.mono hmono⟩
  · exact he.inward hs hin htier hid hn

end Spec

end NetSketch
