import Mathlib.Logic.Relation
import NetSketch.Proofs.Change.Followed
import NetSketch.Proofs.Change.Removal

/-!
# What is still reached after a removal

The removal of a path node bridges its path, but a bridge never starts or ends at another node that
is removed with it. So of the ways along the connections those are kept that do not visit two
removed nodes in a row, and no others.

* `Spec.Reaches`, `Spec.ReachesAcross`: ways along the connections, and those that visit no two
  removed nodes in a row;
* `Spec.reaches_removeEach_iff`: the ways that a removal keeps;
* **`reaches_remove_iff`**: the same of every removal that is followed.
-/

open Relation (ReflTransGen)

namespace NetSketch

namespace Spec

/-- A way leads from one id to another. -/
def Reaches (s : Spec) : String → String → Prop := ReflTransGen s.Joins

/-- A way leads from one id to another that visits no two nodes in a row but those that stay. -/
def ReachesAcross (s : Spec) (stays : String → Prop) : String → String → Prop :=
  ReflTransGen fun a b => s.Joins a b ∧ (stays a ∨ stays b)

variable {s : Spec} {ids : List String} {stays : String → Prop} {u v : String}

theorem reaches_or_joins_of_reachesAcross (hs : s.WellFormed)
    (hpath : ∀ n ∈ s.nodes, n.id ∈ ids → n.isSide = false) (hu : u ∉ ids)
    (h : s.ReachesAcross (· ∉ ids) u v) :
    (v ∉ ids → (removeEach ids s ids).1.Reaches u v) ∧
      (v ∈ ids → ∃ p, p ∉ ids ∧ (removeEach ids s ids).1.Reaches u p ∧ s.Joins p v) := by
  induction h with
  | refl => exact ⟨fun _ => ReflTransGen.refl, fun h => absurd h hu⟩
  | @tail a b _ hab ih =>
    obtain ⟨hjoin, hstays⟩ := hab
    by_cases ha : a ∈ ids
    · obtain ⟨p, hp, hreach, hpa⟩ := ih.2 ha
      have hb : b ∉ ids := hstays.resolve_left (not_not.mpr ha)
      refine ⟨fun _ => ?_, fun h => absurd h hb⟩
      by_cases hpb : p = b
      · exact hpb ▸ hreach
      · obtain ⟨m, hm, rfl⟩ := mem_ids.mp (hs.ends_mem_ids hpa).2
        refine hreach.tail ((mem_ends_removeEach hs (List.Subset.refl ids)).mpr (Or.inr ?_))
        exact ⟨m, hm, ha, hpath m hm ha, hp, hb, hpb, hpa, hjoin⟩
    · refine ⟨fun hb => (ih.1 ha).tail ?_, fun _ => ⟨a, ha, ih.1 ha, hjoin⟩⟩
      exact (mem_ends_removeEach hs (List.Subset.refl ids)).mpr (Or.inl ⟨hjoin, ha, hb⟩)

theorem reaches_removeEach_iff (hs : s.WellFormed)
    (hpath : ∀ n ∈ s.nodes, n.id ∈ ids → n.isSide = false) (hu : u ∉ ids) (hv : v ∉ ids) :
    (removeEach ids s ids).1.Reaches u v ↔ s.ReachesAcross (· ∉ ids) u v := by
  constructor
  · intro h
    clear hv
    induction h with
    | refl => exact ReflTransGen.refl
    | @tail a b _ hab ih =>
      rcases (mem_ends_removeEach hs (List.Subset.refl ids)).mp hab with ⟨he, ha, -⟩ | ⟨m, _, _, hb⟩
      · exact ih.tail ⟨he, Or.inl ha⟩
      · exact (ih.tail ⟨hb.joins_node, Or.inl hb.source_stays⟩).tail
          ⟨hb.node_joins, Or.inr hb.target_stays⟩
  · exact fun h => (reaches_or_joins_of_reachesAcross hs hpath hu h).1 hv

end Spec

variable {store : Store} {prompt : String} {s : Spec} {intent : Option Intent} {c : Change}

/-- **A removal of path nodes keeps the ways between the nodes that stay exactly if they visit no
two removed nodes in a row.** -/
theorem reaches_remove_iff (hs : s.WellFormed)
    (h : remove store prompt (some s) intent = .ok (.done c)) :
    ∃ t, c.spec = some t ∧ ((∀ n ∈ s.nodes, n.id ∉ t.ids → n.isSide = false) →
      ∀ u ∈ t.ids, ∀ v ∈ t.ids, t.Reaches u v ↔ s.ReachesAcross (· ∈ t.ids) u v) := by
  obtain ⟨t, ht, ids, hrem⟩ := remove_followed c h
  obtain rfl : (Spec.removeEach ids s ids).1 = t := congrArg Prod.fst hrem
  refine ⟨_, ht, fun hpath u hu v hv => ?_⟩
  have hstays : ∀ {a}, a ∈ s.ids → (a ∈ (Spec.removeEach ids s ids).1.ids ↔ a ∉ ids) :=
    fun ha => Spec.mem_ids_removeEach.trans (and_iff_right ha)
  have hids : ∀ n ∈ s.nodes, n.id ∈ ids → n.isSide = false := fun n hn hid =>
    hpath n hn fun hmem => (hstays (Spec.id_mem_ids hn)).mp hmem hid
  rw [Spec.reaches_removeEach_iff hs hids (Spec.mem_ids_removeEach.mp hu).2
    (Spec.mem_ids_removeEach.mp hv).2]
  have hjoins : ∀ a b, s.Joins a b ∧ (a ∉ ids ∨ b ∉ ids) ↔ s.Joins a b ∧
      (a ∈ (Spec.removeEach ids s ids).1.ids ∨ b ∈ (Spec.removeEach ids s ids).1.ids) := by
    intro a b
    refine and_congr_right fun hab => ?_
    rw [hstays (hs.ends_mem_ids hab).1, hstays (hs.ends_mem_ids hab).2]
  simp only [Spec.ReachesAcross, hjoins]

/-- A web server and an application server, one behind the other between a firewall and a
database. -/
def serversInRow : Spec where
  nodes := [⟨"fw-1", .firewall, "", none, none, none⟩, ⟨"web-1", .webServer, "", none, none, none⟩,
    ⟨"app-1", .appServer, "", none, none, none⟩, ⟨"db-1", .dbServer, "", none, none, none⟩]
  connections := [⟨"fw-1", "web-1", none, none, none⟩, ⟨"web-1", "app-1", none, none, none⟩,
    ⟨"app-1", "db-1", none, none, none⟩]

/-- A request for the removal of some types of nodes. -/
def without (types : List Component) : Intent :=
  ⟨.remove, editConfidence, types.map fun type => { type }, none, none⟩

theorem reaches_remove_iff_webServer : serversInRow.WellFormed ∧
    ∃ c, remove ⟨{}, [], [], [], []⟩ "" (some serversInRow) (some (without [.webServer])) =
        .ok (.done c) ∧
      ∃ t, c.spec = some t ∧ ((∀ n ∈ serversInRow.nodes, n.id ∉ t.ids → n.isSide = false) →
        ∀ u ∈ t.ids, ∀ v ∈ t.ids, t.Reaches u v ↔ serversInRow.ReachesAcross (· ∈ t.ids) u v) :=
  ⟨by decide, _, rfl,
    @reaches_remove_iff ⟨{}, [], [], [], []⟩ "" serversInRow (some (without [.webServer])) _
      (by decide) rfl⟩

/-- Without both servers the firewall no longer reaches the database. -/
theorem not_reaches_remove_serversInRow : serversInRow.WellFormed ∧
    ∃ c t, remove ⟨{}, [], [], [], []⟩ "" (some serversInRow)
        (some (without [.webServer, .appServer])) = .ok (.done c) ∧
      c.spec = some t ∧ (∀ n ∈ serversInRow.nodes, n.id ∉ t.ids → n.isSide = false) ∧
      "fw-1" ∈ t.ids ∧ "db-1" ∈ t.ids ∧
      serversInRow.Reaches "fw-1" "db-1" ∧ ¬ t.Reaches "fw-1" "db-1" := by
  refine ⟨by decide, _, _, rfl, rfl, by decide, by decide, by decide, ?_, ?_⟩
  · have hweb : serversInRow.Joins "fw-1" "web-1" := by decide
    have happ : serversInRow.Joins "web-1" "app-1" := by decide
    have hdb : serversInRow.Joins "app-1" "db-1" := by decide
    exact ((ReflTransGen.single hweb).tail happ).tail hdb
  · intro h
    rcases ReflTransGen.cases_tail h with h | ⟨b, -, h⟩
    · exact absurd h (by decide)
    · cases h

end NetSketch
