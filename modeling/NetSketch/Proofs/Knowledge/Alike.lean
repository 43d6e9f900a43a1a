import Mathlib.Data.Option.Basic
import NetSketch.Knowledge.Guidance
import NetSketch.Proofs.Diagram.Redrawing
import NetSketch.Proofs.Knowledge.Typed

/-!
# What the store reads of a diagram

Of a view the store reads how often each type stands in each tier, which flows there are, which
paths and links join which types and how many backends its hubs have. Views that agree in this are
alike, and the store gives the same answers about them. The views of a diagram and of the same
diagram drawn again are alike, so neither the order of nodes and connections nor the spelling of ids
has a meaning.

* `View.Alike`: views that agree; `Shape.fits_alike`, **`Signature.fits_alike`**;
* `Store.antiPatternsIn_alike`, `Store.blueprintsIn_alike`, `Guidance.of_alike`;
* `Spec.fan`, `Spec.fans_view`: backends of hubs; **`Spec.Redrawn.alike`**;
* **`Spec.Redrawn.answers_eq`**: the answers about a diagram drawn again.
-/

namespace NetSketch

/-! ## Lists in another order -/

section Lists

variable {ε α β : Type} {l l' : List α}

theorem anyM_map (f : α → β) (p : β → Except ε Bool) (l : List α) :
    (l.map f).anyM p = l.anyM fun a => p (f a) := by
  induction l with
  | nil => rfl
  | cons a l ih => rw [List.map_cons, List.anyM_cons, List.anyM_cons, ih]

/-- Where everything or nothing is a fault, a search may go in any order. -/
theorem anyM_eq_of_perm {p : α → Except ε Bool} (h : l.Perm l')
    (hp : (∃ e, ∀ a, p a = .error e) ∨ ∀ a, Succeeds (p a)) : l.anyM p = l'.anyM p := by
  induction h with
  | nil => rfl
  | cons a _ ih => rw [List.anyM_cons, List.anyM_cons, ih]
  | swap a b l =>
    rw [List.anyM_cons, List.anyM_cons, List.anyM_cons, List.anyM_cons]
    rcases hp with ⟨e, he⟩ | hp
    · rw [he, he]
    · obtain ⟨x, hx⟩ := hp a
      obtain ⟨y, hy⟩ := hp b
      rw [hx, hy]
      cases x <;> cases y <;> rfl
  | trans _ _ ih₁ ih₂ => exact ih₁.trans ih₂

theorem length_eraseDups_of_perm [BEq α] [LawfulBEq α] (h : l.Perm l') :
    l.eraseDups.length = l'.eraseDups.length := by
  refine ((List.perm_ext_iff_of_nodup (nodup_eraseDups l) (nodup_eraseDups l')).mpr ?_).length_eq
  intro a
  rw [List.mem_eraseDups, List.mem_eraseDups, h.mem_iff]

end Lists

/-! ## Views that agree -/

/-- **Views that agree** in all that the store reads of them. -/
structure View.Alike (v w : View) : Prop where
  standing : (v.nodes.map fun n => (n.type, n.tier)).Perm (w.nodes.map fun n => (n.type, n.tier))
  flows : ∀ flow, flow ∈ v.flows ↔ flow ∈ w.flows
  unguardedPath : ∀ sources targets guards,
    v.unguardedPath sources targets guards = w.unguardedPath sources targets guards
  directLink : ∀ a b, v.directLink a b = w.directLink a b
  fans : ∀ hubs ignored, ((v.nodesOfTypes hubs).map fun n => (v.backends ignored n).length).Perm
    ((w.nodesOfTypes hubs).map fun n => (w.backends ignored n).length)

section Alike

variable {v w : View}

namespace View.Alike

theorem types (h : v.Alike w) : v.types.Perm w.types := by
  have := h.standing.map (·.1)
  rwa [List.map_map, List.map_map] at this

theorem tiers (h : v.Alike w) : (v.nodes.map (·.tier)).Perm (w.nodes.map (·.tier)) := by
  have := h.standing.map (·.2)
  rwa [List.map_map, List.map_map] at this

theorem tiersOf (h : v.Alike w) (types : List Component) :
    (v.tiersOf types).Perm (w.tiersOf types) := by
  have := (h.standing.filter fun k => types.contains k.1).map (·.2)
  rwa [List.filter_map, List.filter_map, List.map_map, List.map_map] at this

theorem length_nodes (h : v.Alike w) : v.nodes.length = w.nodes.length := by
  have := h.standing.length_eq
  rwa [List.length_map, List.length_map] at this

theorem isEmpty_nodes (h : v.Alike w) : v.nodes.isEmpty = w.nodes.isEmpty := by
  rw [Bool.eq_iff_iff, List.isEmpty_iff_length_eq_zero, List.isEmpty_iff_length_eq_zero,
    h.length_nodes]

theorem contains_types (h : v.Alike w) (c : Component) :
    v.types.contains c = w.types.contains c :=
  h.types.contains_eq

theorem countOf (h : v.Alike w) (name : String) : v.countOf name = w.countOf name := by
  rw [View.countOf, View.countOf]
  cases Component.ofName? name with
  | none => rfl
  | some c => exact h.types.count_eq c

theorem any_flows (h : v.Alike w) (p : FlowKind → Bool) : v.flows.any p = w.flows.any p := by
  rw [Bool.eq_iff_iff, List.any_eq_true, List.any_eq_true]
  exact exists_congr fun flow => and_congr_left fun _ => h.flows flow

end View.Alike

/-- Whether a count is no more than a bound. -/
def atMost (most : Json) (n : Nat) : Except Fault Bool := do
  let order ← Json.order "<=" (.int n) most
  return order == some .lt || order == some .eq

theorem atMost_cases (most : Json) :
    (∃ f, ∀ n, atMost most n = .error f) ∨ ∀ n, Succeeds (atMost most n) := by
  cases hmost : most.number? with
  | none =>
    refine Or.inl ⟨.notOrdered "<=" .int most.kind, fun n => ?_⟩
    rw [atMost, Json.order, hmost]
    rfl
  | some x =>
    refine Or.inr fun n => (Json.order_succeeds "<=" rfl ?_).bind fun _ => .ok
    rw [hmost]
    rfl

theorem Shape.fits_fanOut (hub most ignored : Json) (v : View) :
    (Shape.fanOut hub most ignored).fits v = (do
      let ignored ← ignored.componentsIn
      let hubs ← (Json.arr [hub]).componentsIn
      ((v.nodesOfTypes hubs).map fun n => (v.backends ignored n).length).anyM (atMost most)) := by
  simp only [fits, anyM_map]
  rfl

/-- **Views that are alike have the same shapes.** -/
theorem Shape.fits_alike (h : v.Alike w) (shape : Shape) : shape.fits v = shape.fits w := by
  cases shape with
  | presence => rfl
  | unguardedPath sources targets guards => simp only [fits, h.unguardedPath]
  | directLink a b => simp only [fits, h.directLink]
  | tierPlacement types tiers => simp only [fits, fun types p => (h.tiersOf types).any_eq (f := p)]
  | typeCount counts => simp only [fits, h.countOf]
  | singleTier =>
    have hinner := h.tiers.filter (· != Tier.external)
    simp only [fits, hinner.length_eq, length_eraseDups_of_perm hinner]
  | fanOut hub most ignored =>
    simp only [fits_fanOut,
      fun hubs ignored => anyM_eq_of_perm (h.fans hubs ignored) (atMost_cases most)]
  | tierSubset inner outer =>
    have houter : ∀ types, (v.tiersOf types).contains = (w.tiersOf types).contains :=
      fun types => funext fun _ => (h.tiersOf types).contains_eq
    simp only [fits, houter, fun types => (h.tiersOf types).isEmpty_eq,
      fun types p => (h.tiersOf types).all_eq (f := p)]

theorem Signature.prepared_alike (h : v.Alike w) (s : Signature) : s.prepared v = s.prepared w := by
  have hamong : Json.isAmong v.types = Json.isAmong w.types := by
    funext i
    simp only [Json.isAmong, funext h.contains_types]
  simp only [prepared, h.length_nodes, hamong, h.any_flows]

/-- **A signature fits both or neither of two views that are alike.** -/
theorem Signature.fits_alike (h : v.Alike w) (s : Signature) : s.fits v = s.fits w := by
  rw [fits, fits, h.isEmpty_nodes, s.prepared_alike h, s.shape.fits_alike h]

theorem Store.antiPatternsIn_alike (h : v.Alike w) (store : Store) :
    store.antiPatternsIn v = store.antiPatternsIn w := by
  simp only [antiPatternsIn, AntiPattern.fits, Signature.fits_alike h]

theorem Store.blueprintsIn_alike (h : v.Alike w) (store : Store) :
    store.blueprintsIn v = store.blueprintsIn w := by
  simp only [blueprintsIn, Blueprint.fits, Need.isMet, fun c => h.types.count_eq c]

theorem Guidance.of_alike (h : v.Alike w) (relationships : List Relationship)
    (antiPatterns : List AntiPattern) (failures : List Failure) :
    Guidance.of v v relationships antiPatterns failures =
      Guidance.of w w relationships antiPatterns failures := by
  have hasks : asks v.types = asks w.types := by
    funext r
    simp only [asks, h.contains_types]
  simp only [Guidance.of, h.contains_types, hasks, AntiPattern.fits, Signature.fits_alike h]

end Alike

/-! ## Diagrams drawn again -/

namespace Spec

variable {s t : Spec} {f : String → String} {a : String} {types hubs ignored : List Component}

/-- How many connections lead from a node to one that is not of some types. -/
def fan (s : Spec) (ignored : List Component) (id : String) : Nat :=
  s.connections.countP fun c => c.source == id && !(View.ofSpec? (some s)).isOf ignored c.target

theorem length_backends_view (hs : s.WellFormed) (n : Node) :
    ((View.ofSpec? (some s)).backends ignored
      ((View.single n).joined (View.ofSpec? (some s)).links)).length = s.fan ignored n.id := by
  rw [View.backends, connectedTo_joined_view hs, List.filter_map, List.length_map, outgoing,
    List.filter_filter, ← List.countP_eq_length_filter]
  refine List.countP_congr fun c hc => ?_
  have hknown : ((View.ofSpec? (some s)).node? c.target).isSome = true := by
    rw [View.node?, List.find?_isSome]
    obtain ⟨m, hm, hid⟩ := List.mem_map.mp (mem_ids_view.mpr (hs.target_mem c hc))
    exact ⟨m, hm, beq_iff_eq.mpr hid⟩
  simp [hknown, View.single, and_comm]

theorem fans_view (hs : s.WellFormed) :
    ((View.ofSpec? (some s)).nodesOfTypes hubs).map
        (fun n => ((View.ofSpec? (some s)).backends ignored n).length) =
      (s.nodes.filter fun n => hubs.contains n.type).map fun n => s.fan ignored n.id := by
  rw [View.nodesOfTypes, nodes_view hs.ids_nodup, List.filter_map, List.map_map]
  exact List.map_congr_left fun n _ => length_backends_view hs n

namespace RedrawnBy

theorem isOf_view_eq (h : s.RedrawnBy f t) (hs : s.WellFormed) (ha : a ∈ s.ids) :
    (View.ofSpec? (some t)).isOf types (f a) = (View.ofSpec? (some s)).isOf types a := by
  rw [Bool.eq_iff_iff, isOf_view hs.ids_nodup, isOf_view (h.wellFormed hs).ids_nodup, h.isOf_iff ha]

theorem fan_eq (h : s.RedrawnBy f t) (hs : s.WellFormed) (ha : a ∈ s.ids) :
    t.fan ignored (f a) = s.fan ignored a := by
  rw [fan, h.connections.countP_eq, List.countP_map]
  refine List.countP_congr fun c hc => ?_
  simp only [Function.comp_apply, Connection.renamed, Bool.and_eq_true, beq_iff_eq,
    h.eq_iff (hs.source_mem c hc) ha, h.isOf_view_eq hs (hs.target_mem c hc)]

theorem perm_fans (h : s.RedrawnBy f t) (hs : s.WellFormed) :
    ((t.nodes.filter fun n => hubs.contains n.type).map fun n => t.fan ignored n.id).Perm
      ((s.nodes.filter fun n => hubs.contains n.type).map fun n => s.fan ignored n.id) := by
  have hfans := (h.nodes.filter fun n => hubs.contains n.type).map fun n => t.fan ignored n.id
  rw [List.filter_map, List.map_map] at hfans
  refine hfans.trans (List.Perm.of_eq (List.map_congr_left fun n hn => ?_))
  exact h.fan_eq hs (id_mem_ids (List.mem_of_mem_filter hn))

end RedrawnBy

namespace Redrawn

/-- **The views of a diagram and of the same diagram drawn again are alike.** -/
theorem alike (h : s.Redrawn t) (hs : s.WellFormed) :
    (View.ofSpec? (some s)).Alike (View.ofSpec? (some t)) where
  standing := by
    have ht := h.wellFormed hs
    obtain ⟨f, h⟩ := h
    have hstanding := h.nodes.map fun n => (n.type, n.tier)
    rw [nodes_view hs.ids_nodup, nodes_view ht.ids_nodup, List.map_map, List.map_map]
    rw [List.map_map] at hstanding
    exact hstanding.symm
  flows flow := by
    have ht := h.wellFormed hs
    obtain ⟨f, h⟩ := h
    have hflows := h.connections.filterMap (·.flow)
    rw [List.filterMap_map] at hflows
    rw [flows_view hs, flows_view ht]
    exact hflows.mem_iff.symm
  unguardedPath _ _ _ := h.unguardedPath_eq hs
  directLink _ _ := h.directLink_eq hs
  fans hubs ignored := by
    have ht := h.wellFormed hs
    obtain ⟨f, h⟩ := h
    rw [fans_view hs, fans_view ht]
    exact (h.perm_fans hs).symm

theorem introduced_eq (h : s.Redrawn t) (hs : s.WellFormed) {before before' : Option Spec}
    (hb : ∀ b ∈ before, b.WellFormed) (hbefore : Option.Rel Redrawn before before')
    (store : Store) : store.introduced before s = store.introduced before' t := by
  have hnew := store.antiPatternsIn_alike (h.alike hs)
  cases hbefore with
  | none => simp only [Store.introduced, hnew]
  | some hold =>
    have hold := store.antiPatternsIn_alike (hold.alike (hb _ rfl))
    simp only [Store.introduced, hnew, hold]

/-- **Neither the order of nodes and connections nor the spelling of ids has a meaning**: what a
store says about a diagram, and about a change to it, it says about the diagram drawn again. -/
theorem answers_eq (store : Store) (h : s.Redrawn t) (hs : s.WellFormed) :
    store.antiPatternsIn (.ofSpec? s) = store.antiPatternsIn (.ofSpec? t) ∧
      store.blueprintsIn (.ofSpec? s) = store.blueprintsIn (.ofSpec? t) ∧
      Guidance.about store s = Guidance.about store t ∧
      (∀ changed, store.suggestions s changed = store.suggestions t changed) ∧
      ∀ changed before before', (∀ b ∈ before, b.WellFormed) → Option.Rel Redrawn before before' →
        store.warnings s changed before = store.warnings t changed before' := by
  have halike := h.alike hs
  have htypes : ∀ c, s.types.contains c = t.types.contains c := fun c =>
    h.elim fun f h => h.perm_types.symm.contains_eq
  refine ⟨store.antiPatternsIn_alike halike, store.blueprintsIn_alike halike,
    Guidance.of_alike halike _ _ _, fun changed => ?_, fun changed before before' hb hbefore => ?_⟩
  · have hlacking : store.lacking s.types = store.lacking t.types := by
      funext c
      simp only [Store.lacking, htypes]
    rw [Store.suggestions, Store.suggestions, hlacking]
  · simp only [Store.warnings, Store.conflictsAmong, htypes, h.introduced_eq hs hb hbefore store]

end Redrawn

end Spec

/-! ## A shop drawn twice -/

/-- A web server between the internet and a database. -/
def shop : Spec where
  nodes := [⟨"internet-1", .internet, "Internet", none, none, none⟩,
    ⟨"web-1", .webServer, "Web Server", none, none, none⟩,
    ⟨"db-1", .dbServer, "DB Server", none, none, none⟩]
  connections := [⟨"internet-1", "web-1", some .encrypted, none, none⟩,
    ⟨"web-1", "db-1", none, none, none⟩]

/-- The same, where the internet and the database have each other's id. -/
def shopAgain : Spec where
  nodes := [⟨"internet-1", .dbServer, "DB Server", none, none, none⟩,
    ⟨"db-1", .internet, "Internet", none, none, none⟩,
    ⟨"web-1", .webServer, "Web Server", none, none, none⟩]
  connections := [⟨"web-1", "internet-1", none, none, none⟩,
    ⟨"db-1", "web-1", some .encrypted, none, none⟩]

/-- The shop before it had a database. -/
def shopBefore : Spec where
  nodes := shop.nodes.take 2
  connections := shop.connections.take 1

/-- The same under ids in capitals. -/
def shopBeforeAgain : Spec where
  nodes := [⟨"WEB", .webServer, "Web Server", none, none, none⟩,
    ⟨"NET", .internet, "Internet", none, none, none⟩]
  connections := [⟨"NET", "WEB", some .encrypted, none, none⟩]

theorem shop_redrawn : shop.Redrawn shopAgain := by
  refine ⟨fun id => if id = "internet-1" then "db-1" else if id = "db-1" then "internet-1" else id,
    ?_, by decide, by decide, by decide⟩
  have h : ∀ a ∈ shop.ids, ∀ b ∈ shop.ids,
      (if a = "internet-1" then "db-1" else if a = "db-1" then "internet-1" else a) =
        (if b = "internet-1" then "db-1" else if b = "db-1" then "internet-1" else b) → a = b := by
    decide
  exact fun a ha b hb => h a ha b hb

theorem shopBefore_redrawn : shopBefore.Redrawn shopBeforeAgain := by
  refine ⟨fun id => if id = "internet-1" then "NET" else "WEB", ?_, by decide, by decide, by decide⟩
  have h : ∀ a ∈ shopBefore.ids, ∀ b ∈ shopBefore.ids,
      (if a = "internet-1" then "NET" else "WEB") = (if b = "internet-1" then "NET" else "WEB") →
        a = b := by
    decide
  exact fun a ha b hb => h a ha b hb

theorem answers_eq_shop : shop.WellFormed ∧ shop.Redrawn shopAgain ∧
    Store.bundled.antiPatternsIn (.ofSpec? shop) =
      Store.bundled.antiPatternsIn (.ofSpec? shopAgain) ∧
    Store.bundled.blueprintsIn (.ofSpec? shop) = Store.bundled.blueprintsIn (.ofSpec? shopAgain) ∧
    Guidance.about Store.bundled shop = Guidance.about Store.bundled shopAgain ∧
    Store.bundled.suggestions shop [.dbServer] = Store.bundled.suggestions shopAgain [.dbServer] ∧
    Store.bundled.warnings shop [.dbServer] shopBefore =
      Store.bundled.warnings shopAgain [.dbServer] shopBeforeAgain := by
  have hs : shop.WellFormed := by decide
  have hb : ∀ b ∈ some shopBefore, b.WellFormed := by
    rintro b ⟨⟩
    decide
  obtain ⟨hpatterns, hblueprints, hguidance, hsuggestions, hwarnings⟩ :=
    Spec.Redrawn.answers_eq Store.bundled shop_redrawn hs
  exact ⟨hs, shop_redrawn, hpatterns, hblueprints, hguidance, hsuggestions [.dbServer],
    hwarnings [.dbServer] shopBefore shopBeforeAgain hb (.some shopBefore_redrawn)⟩

end NetSketch
