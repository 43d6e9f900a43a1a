import NetSketch.Change.Removal
import NetSketch.Proofs.Diagram.WellFormed

/-!
# What a removal leaves

Nodes are removed one after the other, each bridged in a diagram that already lacks those before
it. As bridges never end at a node that is still to go, the outcome can be read off the first
diagram.

* `Spec.Bridged`: the connections that the removal of a node brings;
* `Spec.mem_ends_bridgeOver`, `Spec.WellFormed.bridgeOver`: one node removed;
* **`Spec.mem_ends_removeEach`**, `Spec.removeEach_nodes`, `Spec.WellFormed.removeEach`: several
  nodes removed;
* `Spec.removeEach_connections`: the connections that are left as they are;
* **`Spec.removed_and_bridged`**: all that a removal leaves, in whatever order the ids are given.
-/

namespace NetSketch.Spec

variable {s t : Spec} {n : Node} {id : String} {ids removed : List String} {e : String × String}

/-! ## One node -/

/-- Ends that a node stands between, none of them to be removed. -/
structure Bridged (s : Spec) (removed : List String) (n : Node) (e : String × String) : Prop where
  isPath : n.isSide = false
  source_stays : e.1 ∉ removed
  target_stays : e.2 ∉ removed
  ne : e.1 ≠ e.2
  joins_node : (e.1, n.id) ∈ s.ends
  node_joins : (n.id, e.2) ∈ s.ends

theorem mem_bridges : (∃ c ∈ s.bridges n removed, c.ends = e) ↔
    e.1 ∉ removed ∧ e.2 ∉ removed ∧ e.1 ≠ e.2 ∧ (e.1, n.id) ∈ s.ends ∧ (n.id, e.2) ∈ s.ends := by
  simp only [bridges, List.mem_flatMap, List.mem_filterMap, List.mem_filter, mem_incoming,
    mem_outgoing]
  constructor
  · rintro ⟨c, ⟨p, ⟨⟨hp, hpn⟩, hpr⟩, q, ⟨⟨hq, hqn⟩, hqr⟩, hc⟩, rfl⟩
    split_ifs at hc with hne
    obtain rfl := Option.some.inj hc
    refine ⟨by simpa using hpr, by simpa using hqr, hne, ?_, ?_⟩
    · exact mem_ends.mpr ⟨p, hp, by rw [Connection.ends, hpn]; rfl⟩
    · exact mem_ends.mpr ⟨q, hq, by rw [Connection.ends, hqn]; rfl⟩
  · obtain ⟨a, b⟩ := e
    rintro ⟨ha, hb, hne, hin, hout⟩
    obtain ⟨p, hp, hpe⟩ := mem_ends.mp hin
    obtain ⟨q, hq, hqe⟩ := mem_ends.mp hout
    obtain ⟨rfl, hpn⟩ := Prod.mk.inj hpe
    obtain ⟨hqn, rfl⟩ := Prod.mk.inj hqe
    refine ⟨⟨p.source, q.target, p.flow, none, none⟩, ⟨p, ⟨⟨hp, hpn⟩, by simpa using ha⟩, q,
      ⟨⟨hq, hqn⟩, by simpa using hb⟩, ?_⟩, rfl⟩
    exact if_neg hne

@[simp] theorem bridgeOver_nodes : (s.bridgeOver n removed).nodes = (s.removeNode n.id).nodes :=
  connectAll_nodes

@[simp] theorem bridgeOver_zones : (s.bridgeOver n removed).zones = s.zones := connectAll_zones

/-- **The ends after one node is removed.** -/
theorem mem_ends_bridgeOver (hs : s.WellFormed) : e ∈ (s.bridgeOver n removed).ends ↔
    (e ∈ s.ends ∧ e.1 ≠ n.id ∧ e.2 ≠ n.id) ∨ s.Bridged removed n e := by
  rw [bridgeOver, mem_ends_connectAll, mem_ends_removeNode]
  refine or_congr_right ?_
  constructor
  · rintro ⟨c, hc, rfl, -⟩
    split_ifs at hc with hside
    · cases hc
    · obtain ⟨h₁, h₂, h₃, h₄, h₅⟩ := mem_bridges.mp ⟨c, hc, rfl⟩
      exact ⟨by simpa using hside, h₁, h₂, h₃, h₄, h₅⟩
  · intro h
    obtain ⟨c, hc, rfl⟩ := mem_bridges.mpr
      ⟨h.source_stays, h.target_stays, h.ne, h.joins_node, h.node_joins⟩
    refine ⟨c, by rwa [if_neg (by simp [h.isPath])], rfl, ?_, ?_⟩
    · exact mem_ids_removeNode.mpr ⟨(hs.ends_mem_ids h.joins_node).1, hs.source_ne_target h.joins_node⟩
    · exact mem_ids_removeNode.mpr
        ⟨(hs.ends_mem_ids h.node_joins).2, (hs.source_ne_target h.node_joins).symm⟩

theorem bridgeOver_connections (s : Spec) (n : Node) (removed : List String) : ∃ new,
    (s.bridgeOver n removed).connections = (s.removeNode n.id).connections ++ new ∧
      ∀ c ∈ new, c.source ∉ removed ∧ c.target ∉ removed ∧ c.ends ∉ (s.removeNode n.id).ends := by
  obtain ⟨new, heq, hnew⟩ := connectAll_connections (s := s.removeNode n.id)
    (l := if n.isSide then [] else s.bridges n removed)
  refine ⟨new, heq, fun c hc => ?_⟩
  obtain ⟨hmem, hends⟩ := hnew c hc
  split_ifs at hmem
  · cases hmem
  · obtain ⟨hsource, htarget, -⟩ := mem_bridges.mp ⟨c, hmem, rfl⟩
    exact ⟨hsource, htarget, hends⟩

theorem WellFormed.bridgeOver (hs : s.WellFormed) : (s.bridgeOver n removed).WellFormed := by
  refine (hs.removeNode n.id).connectAll fun c hc => ?_
  split_ifs at hc
  · cases hc
  · exact (mem_bridges.mp ⟨c, hc, rfl⟩).2.2.1

theorem nodup_ends_bridgeOver (hs : s.ends.Nodup) : (s.bridgeOver n removed).ends.Nodup :=
  nodup_ends_connectAll (nodup_ends_removeNode hs)

/-! ## Several nodes -/

theorem removeEach_cons_of_none {rest : List String} (h : s.node? id = none) :
    removeEach removed s (id :: rest) = removeEach removed s rest := by
  rw [removeEach, h]

theorem removeEach_cons_of_some {rest : List String} (h : s.node? id = some n) :
    removeEach removed s (id :: rest) =
      ((removeEach removed (s.bridgeOver n removed) rest).1,
        .removeNode id n.type :: s.connectionChanges (s.bridgeOver n removed) ++
          (removeEach removed (s.bridgeOver n removed) rest).2) := by
  rw [removeEach, h]

theorem removeEach_induction {P : Spec → Prop} (hs : P s)
    (hstep : ∀ t n, t.node? n.id = some n → P t → P (t.bridgeOver n removed)) :
    P (removeEach removed s ids).1 := by
  induction ids generalizing s with
  | nil => exact hs
  | cons id rest ih =>
    cases h : s.node? id with
    | none =>
      rw [removeEach_cons_of_none h]
      exact ih hs
    | some n =>
      obtain ⟨_, rfl⟩ := mem_of_node? h
      rw [removeEach_cons_of_some h]
      exact ih (hstep s n h hs)

theorem WellFormed.removeEach (hs : s.WellFormed) :
    (Spec.removeEach removed s ids).1.WellFormed :=
  removeEach_induction hs fun _ _ _ ht => ht.bridgeOver

theorem nodup_ends_removeEach (hs : s.ends.Nodup) : (removeEach removed s ids).1.ends.Nodup :=
  removeEach_induction (P := fun t => t.ends.Nodup) hs fun _ _ _ ht => nodup_ends_bridgeOver ht

theorem removeEach_zones : (removeEach removed s ids).1.zones = s.zones :=
  removeEach_induction (P := fun t => t.zones = s.zones) rfl fun _ _ _ ht =>
    bridgeOver_zones.trans ht

theorem removeEach_nodes :
    (removeEach removed s ids).1.nodes = s.nodes.filter fun n => !ids.contains n.id := by
  induction ids generalizing s with
  | nil => simp [removeEach]
  | cons id rest ih =>
    cases h : s.node? id with
    | none =>
      have hid := node?_eq_none.mp h
      rw [removeEach_cons_of_none h, ih]
      refine List.filter_congr fun m hm => ?_
      have : m.id ≠ id := fun e => hid (e ▸ id_mem_ids hm)
      simp [this]
    | some n =>
      obtain ⟨_, rfl⟩ := mem_of_node? h
      rw [removeEach_cons_of_some h]
      change (Spec.removeEach removed (s.bridgeOver n removed) rest).1.nodes = _
      rw [ih, bridgeOver_nodes, removeNode, List.filter_filter]
      refine List.filter_congr fun m _ => ?_
      by_cases hm : m.id = n.id <;> simp [hm]

theorem mem_removeEach_nodes {m : Node} :
    m ∈ (removeEach removed s ids).1.nodes ↔ m ∈ s.nodes ∧ m.id ∉ ids := by
  simp [removeEach_nodes]

theorem mem_ids_removeEach {a : String} :
    a ∈ (removeEach removed s ids).1.ids ↔ a ∈ s.ids ∧ a ∉ ids := by
  simp only [mem_ids, mem_removeEach_nodes]
  constructor
  · rintro ⟨m, ⟨hm, hid⟩, rfl⟩
    exact ⟨⟨m, hm, rfl⟩, hid⟩
  · rintro ⟨⟨m, hm, rfl⟩, hid⟩
    exact ⟨m, ⟨hm, hid⟩, rfl⟩

/-- A bridge ends at no node that is to be removed, so it does not count for a later bridge. -/
theorem bridged_bridgeOver (hs : s.WellFormed) {m : Node} (hm : m.id ∈ removed)
    (hmn : m.id ≠ n.id) (hn : n.id ∈ removed) :
    (s.bridgeOver n removed).Bridged removed m e ↔ s.Bridged removed m e := by
  have hends : ∀ e' : String × String, (e'.1 ∈ removed ∨ e'.2 ∈ removed) →
      (e' ∈ (s.bridgeOver n removed).ends ↔ e' ∈ s.ends ∧ e'.1 ≠ n.id ∧ e'.2 ≠ n.id) := by
    intro e' he'
    rw [mem_ends_bridgeOver hs]
    refine or_iff_left fun hb => ?_
    exact he'.elim hb.source_stays hb.target_stays
  have hne : ∀ {a}, a ∉ removed → a ≠ n.id := fun ha h => ha (h ▸ hn)
  constructor
  · rintro ⟨h₁, h₂, h₃, h₄, h₅, h₆⟩
    exact ⟨h₁, h₂, h₃, h₄, ((hends _ (.inr hm)).mp h₅).1, ((hends _ (.inl hm)).mp h₆).1⟩
  · rintro ⟨h₁, h₂, h₃, h₄, h₅, h₆⟩
    exact ⟨h₁, h₂, h₃, h₄, (hends _ (.inr hm)).mpr ⟨h₅, hne h₂, hmn⟩,
      (hends _ (.inl hm)).mpr ⟨h₆, hmn, hne h₃⟩⟩

/-- **The ends after several nodes are removed**: those that touch none of them, and the ends that
one of them stood between. -/
theorem mem_ends_removeEach (hs : s.WellFormed) (hsub : ids ⊆ removed) :
    e ∈ (removeEach removed s ids).1.ends ↔ (e ∈ s.ends ∧ e.1 ∉ ids ∧ e.2 ∉ ids) ∨
      ∃ m ∈ s.nodes, m.id ∈ ids ∧ s.Bridged removed m e := by
  induction ids generalizing s with
  | nil => simp [removeEach]
  | cons id rest ih =>
    obtain ⟨hid, hrest⟩ := List.cons_subset.mp hsub
    cases h : s.node? id with
    | none =>
      -- No node has the id, so no connection ends there either.
      have hid := node?_eq_none.mp h
      rw [removeEach_cons_of_none h, ih hs hrest]
      refine or_congr ?_ ?_
      · refine and_congr_right fun he => ?_
        obtain ⟨h₁, h₂⟩ := hs.isolated hid e he
        simp [h₁, h₂]
      · refine exists_congr fun m => and_congr_right fun hm => ?_
        have : m.id ≠ id := fun e => hid (e ▸ id_mem_ids hm)
        simp [this]
    | some n =>
      obtain ⟨hn, rfl⟩ := mem_of_node? h
      rw [removeEach_cons_of_some h]
      change e ∈ (Spec.removeEach removed (s.bridgeOver n removed) rest).1.ends ↔ _
      rw [ih hs.bridgeOver hrest, mem_ends_bridgeOver hs]
      constructor
      · rintro (⟨⟨he, h₁, h₂⟩ | hb, h₃, h₄⟩ | ⟨m, hm, hmr, hb⟩)
        · exact Or.inl ⟨he, by simp [h₁, h₃], by simp [h₂, h₄]⟩
        · exact Or.inr ⟨n, hn, List.mem_cons_self, hb⟩
        · rw [bridgeOver_nodes, mem_removeNode_nodes] at hm
          refine Or.inr ⟨m, hm.1, List.mem_cons_of_mem _ hmr, ?_⟩
          exact (bridged_bridgeOver hs (hrest hmr) hm.2 hid).mp hb
      · rintro (⟨he, h₁, h₂⟩ | ⟨m, hm, hmr, hb⟩)
        · rw [List.mem_cons, not_or] at h₁ h₂
          exact Or.inl ⟨Or.inl ⟨he, h₁.1, h₂.1⟩, h₁.2, h₂.2⟩
        · by_cases hmn : m.id = n.id
          · obtain rfl := node_ext_of_nodup hs.ids_nodup hm hn hmn
            exact Or.inl ⟨Or.inr hb, fun h => hb.source_stays (hrest h),
              fun h => hb.target_stays (hrest h)⟩
          · have hmr := (List.mem_cons.mp hmr).resolve_left hmn
            refine Or.inr ⟨m, ?_, hmr, (bridged_bridgeOver hs (hrest hmr) hmn hid).mpr hb⟩
            rw [bridgeOver_nodes, mem_removeNode_nodes]
            exact ⟨hm, hmn⟩

/-! ## All that is left -/

/-- The connections that touch none of some nodes. -/
def apartFrom (s : Spec) (ids : List String) : List Connection :=
  s.connections.filter fun c => !ids.contains c.source && !ids.contains c.target

theorem apartFrom_nil : s.apartFrom [] = s.connections := by
  simp [apartFrom]

theorem apartFrom_cons_of_isolated {rest : List String} (h : s.Isolated id) :
    s.apartFrom (id :: rest) = s.apartFrom rest := by
  refine List.filter_congr fun c hc => ?_
  obtain ⟨h₁, h₂⟩ := h c.ends (ends_mem hc)
  rw [Connection.ends_fst] at h₁
  rw [Connection.ends_snd] at h₂
  simp [h₁, h₂]

theorem apartFrom_cons {rest : List String} :
    (s.removeNode id).apartFrom rest = s.apartFrom (id :: rest) := by
  rw [apartFrom, removeNode, List.filter_filter, apartFrom]
  refine List.filter_congr fun c _ => ?_
  by_cases h₁ : c.source = id <;> by_cases h₂ : c.target = id <;> simp [h₁, h₂]

/-- **The connections after several nodes are removed**: the old ones that touch none of them, as
they were, and behind them bridges between ends that had no connection. -/
theorem removeEach_connections (hs : s.WellFormed) (hsub : ids ⊆ removed) : ∃ new,
    (removeEach removed s ids).1.connections = s.apartFrom ids ++ new ∧
      ∀ c ∈ new, c.source ∉ removed ∧ c.target ∉ removed ∧ c.ends ∉ s.ends := by
  induction ids generalizing s with
  | nil => exact ⟨[], by simp [removeEach, apartFrom_nil]⟩
  | cons id rest ih =>
    obtain ⟨hid, hrest⟩ := List.cons_subset.mp hsub
    cases h : s.node? id with
    | none =>
      rw [removeEach_cons_of_none h, apartFrom_cons_of_isolated (hs.isolated (node?_eq_none.mp h))]
      exact ih hs hrest
    | some n =>
      obtain ⟨-, rfl⟩ := mem_of_node? h
      rw [removeEach_cons_of_some h]
      have hbridged : (s.bridgeOver n removed).WellFormed := hs.bridgeOver
      obtain ⟨new, hnew, hends⟩ := bridgeOver_connections s n removed
      obtain ⟨new', hnew', hends'⟩ := ih hbridged hrest
      have hne : ∀ {a}, a ∉ removed → a ≠ n.id := fun ha h => ha (h ▸ hid)
      -- An old connection between nodes that stay is still there without this one.
      have hold : ∀ {c : Connection}, c.source ∉ removed → c.target ∉ removed → c.ends ∈ s.ends →
          c.ends ∈ (s.removeNode n.id).ends := fun hsource htarget hc =>
        mem_ends_removeNode.mpr ⟨hc, hne hsource, hne htarget⟩
      refine ⟨new ++ new', ?_, fun c hc => ?_⟩
      · have hkept : new.filter (fun c => !rest.contains c.source && !rest.contains c.target) =
            new := by
          refine List.filter_eq_self.mpr fun c hc => ?_
          obtain ⟨hsource, htarget, -⟩ := hends c hc
          simp [mt (@hrest c.source) hsource, mt (@hrest c.target) htarget]
        change (Spec.removeEach removed (s.bridgeOver n removed) rest).1.connections = _
        rw [hnew', apartFrom, hnew, List.filter_append, hkept, ← apartFrom_cons, apartFrom,
          List.append_assoc]
      · rcases List.mem_append.mp hc with hc | hc
        · obtain ⟨hsource, htarget, hc⟩ := hends c hc
          exact ⟨hsource, htarget, mt (hold hsource htarget) hc⟩
        · obtain ⟨hsource, htarget, hc⟩ := hends' c hc
          refine ⟨hsource, htarget, mt (fun hc => ?_) hc⟩
          exact (mem_ends_bridgeOver hs).mpr (Or.inl (mem_ends_removeNode.mp
            (hold hsource htarget hc)))

theorem bridged_congr {ids' : List String} (h : ∀ id, id ∈ ids' ↔ id ∈ ids) :
    s.Bridged ids' n e ↔ s.Bridged ids n e := by
  have hstays : ∀ {id}, id ∉ ids' ↔ id ∉ ids := fun {id} => not_congr (h id)
  exact ⟨fun ⟨h₁, h₂, h₃, h₄, h₅, h₆⟩ => ⟨h₁, hstays.mp h₂, hstays.mp h₃, h₄, h₅, h₆⟩,
    fun ⟨h₁, h₂, h₃, h₄, h₅, h₆⟩ => ⟨h₁, hstays.mpr h₂, hstays.mpr h₃, h₄, h₅, h₆⟩⟩

/-- **What a removal leaves**: the ends that touch no removed node and those that a removed path
node stood between; the other nodes in their order; the connections that touch no removed node as
they were, and behind them only ends that had no connection; and the zones. The order in which the
ids are given, and how often, makes no difference to the nodes and the ends. -/
theorem removed_and_bridged (hs : s.WellFormed) (ids : List String) :
    (∀ e, e ∈ (s.removeAll ids).1.ends ↔ (e ∈ s.ends ∧ e.1 ∉ ids ∧ e.2 ∉ ids) ∨
        ∃ x ∈ s.nodes, x.id ∈ ids ∧ s.Bridged ids x e) ∧
      (s.removeAll ids).1.nodes = s.nodes.filter (fun n => !ids.contains n.id) ∧
      (∃ new, (s.removeAll ids).1.connections = s.apartFrom ids ++ new ∧
        ∀ c ∈ new, c.ends ∉ s.ends) ∧
      (s.removeAll ids).1.zones = s.zones ∧
      ∀ ids', (∀ id, id ∈ ids' ↔ id ∈ ids) →
        (s.removeAll ids').1.nodes = (s.removeAll ids).1.nodes ∧
          ∀ e, e ∈ (s.removeAll ids').1.ends ↔ e ∈ (s.removeAll ids).1.ends := by
  refine ⟨fun e => mem_ends_removeEach hs (List.Subset.refl ids), removeEach_nodes, ?_,
    removeEach_zones, fun ids' h => ⟨?_, fun e => ?_⟩⟩
  · obtain ⟨new, heq, hnew⟩ := removeEach_connections hs (List.Subset.refl ids)
    exact ⟨new, heq, fun c hc => (hnew c hc).2.2⟩
  · rw [removeAll, removeEach_nodes, removeAll, removeEach_nodes]
    refine List.filter_congr fun n _ => ?_
    rw [Bool.eq_iff_iff]
    simp [h]
  · rw [removeAll, mem_ends_removeEach hs (List.Subset.refl ids'), removeAll,
      mem_ends_removeEach hs (List.Subset.refl ids)]
    simp only [h, bridged_congr h]

/-- A web server that a database answers, with a backup beside both. -/
def answered : Spec where
  nodes := [⟨"fw-1", .firewall, "", none, none, none⟩, ⟨"web-1", .webServer, "", none, none, none⟩,
    ⟨"backup-1", .backup, "", none, none, none⟩, ⟨"db-1", .dbServer, "", none, none, none⟩]
  connections := [⟨"fw-1", "web-1", none, none, none⟩, ⟨"web-1", "db-1", none, none, none⟩,
    ⟨"db-1", "web-1", none, none, none⟩, ⟨"fw-1", "backup-1", none, none, none⟩,
    ⟨"backup-1", "web-1", none, none, none⟩]

/-- The ids of the web server and the backup, one of them twice, and of a node that is not there. -/
def leaving : List String := ["web-1", "cdn-1", "backup-1", "web-1"]

/-- Only the web server is bridged, and the database is not led back to itself. -/
theorem removed_and_bridged_answered : answered.WellFormed ∧
    (answered.removeAll leaving).1.ends = [("fw-1", "db-1")] ∧
    (∀ e, e ∈ (answered.removeAll leaving).1.ends ↔
      (e ∈ answered.ends ∧ e.1 ∉ leaving ∧ e.2 ∉ leaving) ∨
        ∃ x ∈ answered.nodes, x.id ∈ leaving ∧ answered.Bridged leaving x e) ∧
    ∀ e, e ∈ (answered.removeAll ["backup-1", "cdn-1", "web-1"]).1.ends ↔
      e ∈ (answered.removeAll leaving).1.ends := by
  have hs : answered.WellFormed := by decide
  obtain ⟨hends, -, -, -, horder⟩ := removed_and_bridged hs leaving
  refine ⟨hs, by decide +kernel, hends, (horder ["backup-1", "cdn-1", "web-1"] fun id => ?_).2⟩
  simp only [leaving, List.mem_cons, List.not_mem_nil, or_false]
  tauto

end NetSketch.Spec
