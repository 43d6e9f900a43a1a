import Mathlib.Data.Finset.Basic
import Mathlib.Data.Finset.Dedup
import Mathlib.Data.Finset.Lattice.Lemmas
import Mathlib.Data.Finset.SDiff
import Mathlib.Logic.Function.Basic
import NetSketch.Proofs.Change.Addition
import NetSketch.Proofs.Change.Followed
import NetSketch.Proofs.Change.Removal
import NetSketch.Proofs.Prompt.Reference

/-!
# Replaying the steps of a change

The steps that a change tells are kept apart from the edit itself. They tell the truth: done one
after the other to the outline of the old diagram they lead to the outline of the new one.

* `Outline`, `Spec.outline`: the types of the nodes and the ends of the connections;
* `Outline.apply`, `Outline.replay`: a step, and steps in order;
* `Outline.replay_connectionChanges`, `Spec.replay_removeEach`, `Spec.Added.replay`,
  `Modified.replay`: the steps of every edit;
* **`replay_modifications`**: the steps of every change.
-/

namespace NetSketch

/-- What steps tell of a diagram: the type of the node with an id, and which ids are joined. -/
@[ext] structure Outline where
  typeOf : String → Option Component
  joined : Finset (String × String)

/-- The type of the node with an id. -/
def Spec.typeOf (s : Spec) (id : String) : Option Component := (s.node? id).map (·.type)

/-- The outline of a diagram. -/
def Spec.outline (s : Spec) : Outline := ⟨s.typeOf, s.ends.toFinset⟩

namespace Outline

/-- The outline after a step. -/
def apply (o : Outline) : Modification → Outline
  | .addNode id type _ => { o with typeOf := Function.update o.typeOf id (some type) }
  | .removeNode id _ => { o with typeOf := Function.update o.typeOf id none }
  | .relabel _ _ => o
  | .retype id type =>
    { o with typeOf := Function.update o.typeOf id ((o.typeOf id).map fun _ => type) }
  | .addConnection source target => { o with joined := insert (source, target) o.joined }
  | .removeConnection source target => { o with joined := o.joined.erase (source, target) }

/-- The outline after steps in order. -/
def replay (o : Outline) (steps : List Modification) : Outline := steps.foldl apply o

variable {o : Outline} {s t : Spec}

theorem replay_cons (step : Modification) (steps : List Modification) :
    o.replay (step :: steps) = (o.apply step).replay steps := rfl

theorem replay_append (steps steps' : List Modification) :
    o.replay (steps ++ steps') = (o.replay steps).replay steps' := List.foldl_append

/-! ## Connections -/

theorem replay_removals (l : List (String × String)) :
    o.replay (l.map fun e => .removeConnection e.1 e.2) =
      { o with joined := o.joined \ l.toFinset } := by
  induction l generalizing o with
  | nil => simp [replay]
  | cons e l ih =>
    rw [List.map_cons, replay_cons, ih]
    ext x
    · rfl
    · simp only [apply, Finset.mem_sdiff, Finset.mem_erase, List.toFinset_cons, Finset.mem_insert]
      tauto

theorem replay_additions (l : List (String × String)) :
    o.replay (l.map fun e => .addConnection e.1 e.2) =
      { o with joined := o.joined ∪ l.toFinset } := by
  induction l generalizing o with
  | nil => simp [replay]
  | cons e l ih =>
    rw [List.map_cons, replay_cons, ih]
    ext x
    · rfl
    · simp only [apply, Finset.mem_union, Finset.mem_insert, List.toFinset_cons]
      tauto

theorem replay_connectionChanges (types : String → Option Component) :
    (Outline.mk types s.ends.toFinset).replay (s.connectionChanges t) = ⟨types, t.ends.toFinset⟩ := by
  rw [Spec.connectionChanges, replay_append, replay_removals, replay_additions]
  ext e
  · rfl
  · simp only [Finset.mem_union, Finset.mem_sdiff, List.mem_toFinset, List.mem_filter,
      Bool.not_eq_true', List.contains_eq_mem, decide_eq_false_iff_not]
    tauto

end Outline

namespace Spec

variable {s t : Spec} {n : Node} {id : String} {ids removed : List String}

open Outline

theorem typeOf_congr (h : t.nodes = s.nodes) : t.typeOf = s.typeOf :=
  funext fun id => by rw [typeOf, typeOf, node?_congr h]

theorem replay_connectionChanges (h : t.nodes = s.nodes) :
    s.outline.replay (s.connectionChanges t) = t.outline := by
  rw [outline, outline, typeOf_congr h]
  exact Outline.replay_connectionChanges _

/-! ## Removal and addition -/

theorem typeOf_removeNode : (s.removeNode id).typeOf = Function.update s.typeOf id none := by
  funext i
  by_cases h : i = id
  · subst h
    simp [typeOf, node?, removeNode]
  · rw [Function.update_of_ne h, typeOf, typeOf, node?, removeNode, List.find?_filter, node?]
    congr 2
    funext m
    by_cases hm : m.id = i <;> simp [hm, h]

theorem replay_removeEach :
    s.outline.replay (removeEach removed s ids).2 = (removeEach removed s ids).1.outline := by
  induction ids generalizing s with
  | nil => rfl
  | cons id rest ih =>
    cases h : s.node? id with
    | none =>
      rw [removeEach_cons_of_none h]
      exact ih
    | some n =>
      obtain ⟨_, rfl⟩ := mem_of_node? h
      have hstep : s.outline.apply (.removeNode n.id n.type) =
          ⟨(s.bridgeOver n removed).typeOf, s.ends.toFinset⟩ := by
        rw [typeOf_congr bridgeOver_nodes, typeOf_removeNode]
        rfl
      rw [removeEach_cons_of_some h, List.cons_append, replay_cons, replay_append, hstep,
        Outline.replay_connectionChanges]
      exact ih

theorem typeOf_withNode (h : n.id ∉ s.ids) :
    (s.withNode n).typeOf = Function.update s.typeOf n.id (some n.type) := by
  funext i
  by_cases hi : i = n.id
  · subst hi
    simp [typeOf, node?_withNode, node?_eq_none.mpr h]
  · rw [Function.update_of_ne hi, typeOf, node?_withNode, if_neg (Ne.symm hi), Option.or_none]
    rfl

theorem Added.replay {inRow : Bool} {spot : Spot} {wanted : List Wanted}
    {steps : List Modification} (h : Added inRow spot s wanted t steps) :
    s.outline.replay steps = t.outline := by
  induction h with
  | nil => rfl
  | @cons spot s u _ w _ _ hu _ ih =>
    have hstep : s.outline.apply (.addNode (w.node s).id (w.node s).type (some (w.node s).label)) =
        (s.withWanted w).outline := by
      rw [outline, withWanted, outline, typeOf_withNode (node_id_notMem s w)]
      rfl
    rw [List.cons_append, replay_cons, replay_append, hstep, replay_connectionChanges hu.nodes_eq]
    exact ih

/-! ## Modification -/

theorem typeOf_updateNode {change : Node → Node} (hchange : ∀ n, (change n).id = n.id)
    (h : s.updateNode id change = .ok t) :
    t.typeOf = Function.update s.typeOf id ((s.node? id).map fun n => (change n).type) := by
  obtain rfl := eq_of_check h
  funext i
  rw [typeOf, node?_mapNodes (id_changed hchange), Option.map_map]
  by_cases hi : i = id
  · subst hi
    rw [Function.update_self]
    refine Option.map_congr fun n hn => ?_
    simp [(mem_of_node? hn).2]
  · rw [Function.update_of_ne hi, typeOf]
    refine Option.map_congr fun n hn => ?_
    simp [(mem_of_node? hn).2, hi]

theorem ends_updateNode {change : Node → Node} (h : s.updateNode id change = .ok t) :
    t.ends = s.ends := by
  obtain rfl := eq_of_check h
  rfl

theorem replay_retype {type : Component} {label : String}
    (h : s.updateNode id (·.retype type label) = .ok t) :
    s.outline.apply (.retype id type) = t.outline := by
  have htype := typeOf_updateNode (fun n => show (n.retype type label).id = n.id from rfl) h
  rw [outline, outline, htype, ends_updateNode h]
  change Outline.mk (Function.update s.typeOf id ((s.typeOf id).map fun _ => type)) _ = _
  rw [typeOf, Option.map_map]
  rfl

theorem replay_relabel {label : String} (h : s.updateNode id (·.relabel label) = .ok t) :
    s.outline.apply (.relabel id label) = t.outline := by
  have htype := typeOf_updateNode (fun n => show (n.relabel label).id = n.id from rfl) h
  rw [outline, outline, htype, ends_updateNode h]
  change s.outline = Outline.mk (Function.update s.typeOf id (s.typeOf id)) _
  rw [Function.update_eq_self]
  rfl

end Spec

open Outline in
theorem Modified.replay {s t : Spec} {steps : List Modification} (h : Modified s t steps) :
    s.outline.replay steps = t.outline := by
  cases h with
  | @removed ids _ _ h =>
    have := @Spec.replay_removeEach s ids ids
    rwa [show Spec.removeEach ids s ids = (t, steps) from h] at this
  | relabelled h => exact Spec.replay_relabel h
  | @moved n spot _ h =>
    refine Spec.replay_connectionChanges ?_
    obtain ⟨u, -, h⟩ := bind_eq_ok.mp h
    obtain ⟨v, -, h⟩ := bind_eq_ok.mp h
    rw [Spec.eq_of_check h]
  | @retyped nodes type label _ h =>
    induction nodes generalizing s with
    | nil => rw [← Except.ok.inj h]; rfl
    | cons n nodes ih =>
      rw [List.foldlM_cons] at h
      obtain ⟨u, hu, h⟩ := bind_eq_ok.mp h
      rw [List.map_cons, replay_cons, Spec.replay_retype hu]
      exact ih h

variable {store : Store} {prompt : String} {s : Spec} {intent : Option Intent} {c : Change}

/-- **The steps of every change lead from the outline of the old diagram to that of the new
one.** -/
theorem replay_modifications (hs : s.WellFormed)
    (h : .ok (.done c) ∈ [add store prompt (some s) intent, remove store prompt (some s) intent,
      modify store prompt (some s) intent, connect store prompt (some s) intent,
      disconnect store prompt (some s) intent]) :
    ∃ t, c.spec = some t ∧ s.outline.replay c.modifications = t.outline := by
  simp only [List.mem_cons, List.not_mem_nil, or_false] at h
  rcases h with h | h | h | h | h
  · obtain ⟨t, ht, wanted, -, hadd⟩ := add_followed c h.symm
    refine ⟨t, ht, (Spec.Added.of_addEach hs (Spot.known_of ?_ ?_) hadd).replay⟩
    · exact fun n hn => Spec.mem_of_resolveIn hn
    · exact fun n hn => Spec.mem_of_resolveIn hn
  · obtain ⟨t, ht, ids, hrem⟩ := remove_followed c h.symm
    exact ⟨t, ht, (Modified.removed hrem).replay⟩
  · obtain ⟨t, ht, hmod⟩ := modify_followed c h.symm
    exact ⟨t, ht, hmod.replay⟩
  · obtain ⟨t, ht, a, b, hconn, hsteps⟩ := connect_followed c h.symm
    refine ⟨t, ht, ?_⟩
    obtain ⟨e, -, he⟩ := bind_eq_ok.mp hconn
    rw [hsteps, Spec.replay_connectionChanges]
    rw [← Except.ok.inj he, Spec.addConnection_nodes]
  · obtain ⟨t, ht, a, b, rfl, hsteps⟩ := disconnect_followed c h.symm
    refine ⟨_, ht, ?_⟩
    rw [hsteps]
    exact Spec.replay_connectionChanges rfl

/-- A firewall and a database with two web servers side by side between them. -/
def twoWebs : Spec where
  nodes := [⟨"fw-1", .firewall, "", none, none, none⟩, ⟨"web-1", .webServer, "", none, none, none⟩,
    ⟨"web-2", .webServer, "", none, none, none⟩, ⟨"db-1", .dbServer, "", none, none, none⟩]
  connections := [⟨"fw-1", "web-1", none, none, none⟩, ⟨"web-1", "db-1", none, none, none⟩,
    ⟨"fw-1", "web-2", none, none, none⟩, ⟨"web-2", "db-1", none, none, none⟩]

/-- A request for the removal of all web servers. -/
def noWebs : Intent := ⟨.remove, editConfidence, [{ type := .webServer }], none, none⟩

/-- Both web servers are removed. The second bridge is there already and is not told again. -/
theorem replay_modifications_twoWebs : twoWebs.WellFormed ∧
    ∃ c, remove ⟨{}, [], [], [], []⟩ "" (some twoWebs) (some noWebs) = .ok (.done c) ∧
      c.modifications = [.removeNode "web-1" .webServer, .removeConnection "fw-1" "web-1",
        .removeConnection "web-1" "db-1", .addConnection "fw-1" "db-1",
        .removeNode "web-2" .webServer, .removeConnection "fw-1" "web-2",
        .removeConnection "web-2" "db-1"] ∧
      ∃ t, c.spec = some t ∧ twoWebs.outline.replay c.modifications = t.outline :=
  ⟨by decide, _, rfl, by decide,
    @replay_modifications ⟨{}, [], [], [], []⟩ "" twoWebs (some noWebs) _ (by decide)
      (List.mem_cons_of_mem _ List.mem_cons_self)⟩

end NetSketch
