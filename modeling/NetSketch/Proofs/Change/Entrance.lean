import Mathlib.Order.WellFoundedSet
import NetSketch.Proofs.Change.Reachability
import NetSketch.Proofs.Diagram.Insertion
import NetSketch.Proofs.Diagram.Inward

/-!
# A node put in front of all others

Where connections close no cycle, whoever goes back along them comes to a node that nothing leads
to. So a node that is put in front of all of those is in front of every other one.

* `Spec.Acyclic`, `Spec.Acyclic.wellFounded`: connections that close no cycle can only be followed
  back so far;
* `Spec.Acyclic.exists_entry`: every node is reached from one that nothing leads to;
* `Spec.transGen_of_entrance`: a new first node is on no cycle;
* **`Spec.insertAtStart_leads`**.
-/

open Relation (ReflTransGen TransGen)

namespace NetSketch.Spec

variable {s t : Spec} {a b id : String} {n : Node}

/-! ## Connections without a cycle -/

/-- Connections close no cycle. -/
def Acyclic (s : Spec) : Prop := ∀ id, ¬ TransGen s.Joins id id

/-- **Connections that close no cycle can only be followed back so far.** -/
theorem Acyclic.wellFounded (h : s.Acyclic) (hs : s.WellFormed) : WellFounded s.Joins := by
  have : IsStrictOrder String (TransGen s.Joins) :=
    { irrefl := h, trans := fun _ _ _ => TransGen.trans }
  -- All that is joined is among the ids, and they are finitely many.
  have hfin : {id | id ∈ s.ids}.WellFoundedOn (TransGen s.Joins) :=
    (List.finite_toSet s.ids).wellFoundedOn
  refine Subrelation.wf (fun hab => ?_) (Set.wellFoundedOn_iff.mp hfin)
  exact ⟨.single hab, hs.ends_mem_ids hab⟩

/-- **Every node is reached from one that nothing leads to.** Apart from a node without connections,
that one is another node as well. -/
theorem Acyclic.exists_entry (h : s.Acyclic) (hs : s.WellFormed) (hiso : s.Isolated id)
    (ha : a ∈ s.ids) (hne : a ≠ id) :
    ∃ m ∈ s.others id, (∀ p, ¬ s.Joins p m.id) ∧ s.Reaches m.id a := by
  induction a using (h.wellFounded hs).induction with
  | _ a ih =>
    by_cases hin : ∃ p, s.Joins p a
    · obtain ⟨p, hp⟩ := hin
      obtain ⟨m, hm, hentry, hway⟩ := ih p hp (hs.ends_mem_ids hp).1 (hiso _ hp).1
      exact ⟨m, hm, hentry, hway.tail hp⟩
    · obtain ⟨m, hm, rfl⟩ := mem_ids.mp ha
      exact ⟨m, mem_others.mpr ⟨hm, hne⟩, not_exists.mp hin, .refl⟩

theorem mem_entries (h : ∃ m ∈ s.others id, ∀ p, ¬ s.Joins p m.id) :
    n ∈ s.entries id ↔ n ∈ s.others id ∧ ∀ p, ¬ s.Joins p n.id := by
  have hmem : ∀ m, m ∈ (s.others id).filter (fun n => (s.incoming n.id).isEmpty) ↔
      m ∈ s.others id ∧ ∀ p, ¬ s.Joins p m.id := fun m => by
    rw [List.mem_filter, incoming_isEmpty]
  obtain ⟨m, hm⟩ := h
  have hsome := List.ne_nil_of_mem ((hmem m).mpr hm)
  rw [entries, if_neg (by simpa using hsome), hmem]

/-! ## A new first node -/

section Entrance

/- A node that led nowhere and now leads to some others. -/
variable {entered : String → Prop}
  (hjoins : ∀ a b, t.Joins a b ↔ s.Joins a b ∨ a = id ∧ entered b)
include hjoins

theorem not_joins_entrance (hiso : s.Isolated id) (hentered : ¬ entered id) (p : String) :
    ¬ t.Joins p id := by
  rw [hjoins]
  rintro (h | ⟨-, h⟩)
  · exact (hiso _ h).2 rfl
  · exact hentered h

/-- Ways from other nodes are old ones, as none of them comes past the new first node. -/
theorem transGen_of_entrance (hiso : s.Isolated id) (hentered : ¬ entered id) (hne : a ≠ id)
    (h : TransGen t.Joins a b) : TransGen s.Joins a b := by
  have hfirst := not_joins_entrance hjoins hiso hentered
  induction h with
  | single hab => exact .single (((hjoins _ _).mp hab).resolve_right fun h => hne h.1)
  | @tail b c hab hbc ih =>
    have hb : b ≠ id := by
      rintro rfl
      obtain ⟨p, -, hp⟩ := TransGen.tail'_iff.mp hab
      exact hfirst p hp
    exact ih.tail (((hjoins _ _).mp hbc).resolve_right fun h => hb h.1)

theorem Acyclic.entrance (h : s.Acyclic) (hiso : s.Isolated id) (hentered : ¬ entered id) :
    t.Acyclic := by
  intro a hcycle
  have hne : a ≠ id := by
    rintro rfl
    obtain ⟨p, -, hp⟩ := TransGen.tail'_iff.mp hcycle
    exact not_joins_entrance hjoins hiso hentered p hp
  exact h a (transGen_of_entrance hjoins hiso hentered hne hcycle)

end Entrance

/-- **A node put in front of all others, where connections close no cycle.** It is the only node that
nothing leads to, every node is reached from it, there still is no cycle, and the old connections are
as they were. -/
theorem insertAtStart_leads (hs : s.WellFormed) (hacyclic : s.Acyclic) (hid : id ∈ s.ids)
    (hiso : s.Isolated id) (hother : ∃ a ∈ s.ids, a ≠ id) :
    ∃ t, s.insertAtStart id = .ok t ∧ t.nodes = s.nodes ∧
      (∀ a ∈ t.ids, (∀ p, ¬ t.Joins p a) ↔ a = id) ∧
      (∀ a ∈ t.ids, t.Reaches id a) ∧ t.Acyclic ∧
      ∃ new, t.connections = s.connections ++ new := by
  obtain ⟨t, ht, hnodes, hends⟩ := insertAtStart_leaves hid
  have hids : t.ids = s.ids := ids_congr hnodes
  have hentry : ∃ m ∈ s.others id, ∀ p, ¬ s.Joins p m.id := by
    obtain ⟨a, ha, hne⟩ := hother
    obtain ⟨m, hm, hnone, -⟩ := hacyclic.exists_entry hs hiso ha hne
    exact ⟨m, hm, hnone⟩
  have hjoins : ∀ a b, t.Joins a b ↔ s.Joins a b ∨ a = id ∧ ∃ m ∈ s.entries id, m.id = b := by
    intro a b
    rw [Joins, hends]
    simp [Insertion.Ends, insertionAtStart, Joins]
  have hentered : ¬ ∃ m ∈ s.entries id, m.id = id := by
    rintro ⟨m, hm, hmid⟩
    exact (mem_others.mp (mem_others_of_mem_entries hm)).2 hmid
  have hlead : ∀ m ∈ s.others id, (∀ p, ¬ s.Joins p m.id) → t.Joins id m.id := fun m hm hnone =>
    (hjoins _ _).mpr (.inr ⟨rfl, m, (mem_entries hentry).mpr ⟨hm, hnone⟩, rfl⟩)
  refine ⟨t, ht, hnodes, fun a ha => ⟨fun hnone => ?_, ?_⟩, fun a ha => ?_,
    hacyclic.entrance hjoins hiso hentered, ?_⟩
  · by_contra hne
    obtain ⟨m, hm, rfl⟩ := mem_ids.mp (hids ▸ ha)
    refine hnone id (hlead m (mem_others.mpr ⟨hm, hne⟩) fun p hp => ?_)
    exact hnone p ((hjoins _ _).mpr (.inl hp))
  · rintro rfl
    exact not_joins_entrance hjoins hiso hentered
  · by_cases hne : a = id
    · exact hne ▸ .refl
    · obtain ⟨m, hm, hnone, hway⟩ := hacyclic.exists_entry hs hiso (hids ▸ ha) hne
      have hkept : t.Reaches m.id a :=
        ReflTransGen.mono (fun _ _ h => (hjoins _ _).mpr (.inl h)) _ _ hway
      exact hkept.head (hlead m hm hnone)
  · obtain ⟨t', ht', hnew⟩ : s.Appends (s.insertAtStart id) := by
      rw [insertAtStart_eq]
      refine connectEach_appends fun x hx => ?_
      obtain ⟨m, hm, rfl⟩ := List.mem_map.mp hx
      exact (mem_others.mp (mem_others_of_mem_entries hm)).2.symm
    obtain rfl : t' = t := Except.ok.inj (ht'.symm.trans ht)
    exact hnew

/-- A web server behind a firewall and behind a gateway, and a user who is not connected yet. -/
def twoDoors : Spec where
  nodes := [⟨"fw-1", .firewall, "", none, none, none⟩, ⟨"web-1", .webServer, "", none, none, none⟩,
    ⟨"user-1", .user, "", none, none, none⟩, ⟨"vpn-1", .vpnGateway, "", none, none, none⟩,
    ⟨"db-1", .dbServer, "", none, none, none⟩]
  connections := [⟨"fw-1", "web-1", none, none, none⟩, ⟨"web-1", "db-1", none, none, none⟩,
    ⟨"vpn-1", "web-1", none, none, none⟩]

theorem acyclic_twoDoors : twoDoors.Acyclic := by
  have hs : twoDoors.WellFormed := by decide
  have hin : ∀ e ∈ twoDoors.ends, ∃ a ∈ twoDoors.nodes, ∃ b ∈ twoDoors.nodes, e = (a.id, b.id) ∧
      a.isSide = false ∧ b.isSide = false ∧ a.pathKey.before b.pathKey = true := by decide
  refine Inwards.acyclic (inwards_of_ends hs.ids_nodup fun e he => ?_) hs
  obtain ⟨a, ha, b, hb, heq, has, hbs, hab⟩ := hin e he
  exact ⟨a, ha, b, hb, heq, .along has hbs hab⟩

theorem insertAtStart_leads_twoDoors : twoDoors.WellFormed ∧ twoDoors.Acyclic ∧
    "user-1" ∈ twoDoors.ids ∧ twoDoors.Isolated "user-1" ∧ (∃ a ∈ twoDoors.ids, a ≠ "user-1") ∧
    ∃ t, twoDoors.insertAtStart "user-1" = .ok t ∧
      t.ends = twoDoors.ends ++ [("user-1", "fw-1"), ("user-1", "vpn-1")] ∧
      t.nodes = twoDoors.nodes ∧ (∀ a ∈ t.ids, (∀ p, ¬ t.Joins p a) ↔ a = "user-1") ∧
      (∀ a ∈ t.ids, t.Reaches "user-1" a) ∧ t.Acyclic ∧
      ∃ new, t.connections = twoDoors.connections ++ new := by
  have hs : twoDoors.WellFormed := by decide
  have hid : "user-1" ∈ twoDoors.ids := by decide
  have hother : ∃ a ∈ twoDoors.ids, a ≠ "user-1" := by decide
  obtain ⟨t, ht, h⟩ := insertAtStart_leads hs acyclic_twoDoors hid (by decide) hother
  obtain ⟨t', ht', hends⟩ : ∃ t, twoDoors.insertAtStart "user-1" = .ok t ∧
      t.ends = twoDoors.ends ++ [("user-1", "fw-1"), ("user-1", "vpn-1")] := ⟨_, rfl, by decide⟩
  obtain rfl : t' = t := Except.ok.inj (ht'.symm.trans ht)
  exact ⟨hs, acyclic_twoDoors, hid, by decide, hother, t', ht, hends, h⟩

end NetSketch.Spec
