import NetSketch.Proofs.Diagram.View

/-!
# What a view shows of any nodes and connections

A view can be made of any list of nodes and any list of connections, also of one where ids repeat or
connections end nowhere. Every id is shown once, in the place of its first node and with the data of
its last one. The connections between shown ids are kept, and every node lists its own.

* `kept`, `View.Draws`: the connections that are kept, and the link that one becomes;
* `View.foldl_addOnce`, `View.ids_ofNodes`, `View.exists_last`: ids told once, and their nodes;
* `View.forall₂_draws`, `View.mem_types_iff`: the links, and the types at their ends;
* **`View.Shows`**, **`View.of_shows`**: what a view shows.
-/

namespace NetSketch

variable {nodes : List Node} {connections : List Connection} {n : NodeView} {v : View}
  {id : String} {link : Link} {c : Connection}

/-- The connections between ids that nodes have. -/
def kept (nodes : List Node) (connections : List Connection) : List Connection :=
  connections.filter fun c =>
    (nodes.map (·.id)).contains c.source && (nodes.map (·.id)).contains c.target

namespace View

/-- A link draws a connection between two shown nodes, with their types. -/
structure Draws (v : View) (c : Connection) (l : Link) : Prop where
  source : l.source = c.source
  target : l.target = c.target
  flow : l.flow = c.flow
  label : l.label = c.label
  sourceType : ∃ n ∈ v.nodes, n.id = c.source ∧ n.type = l.sourceType
  targetType : ∃ n ∈ v.nodes, n.id = c.target ∧ n.type = l.targetType

/-- **What a view shows of nodes and connections.** -/
structure Shows (v : View) (nodes : List Node) (connections : List Connection) : Prop where
  /-- Every id is shown once, in the order of first occurrence. -/
  ids : v.ids = (nodes.map (·.id)).eraseDups
  /-- A node is shown with the data of the last one that has its id. -/
  data : ∀ n ∈ v.nodes, ∃ front m back, nodes = front ++ m :: back ∧ (∀ k ∈ back, k.id ≠ m.id) ∧
    n.id = m.id ∧ n.type = m.type ∧ n.label = (if m.label.isEmpty then m.id else m.label) ∧
      n.tier = m.tier
  /-- The connections between known ids are kept, in order. -/
  links : List.Forall₂ v.Draws (kept nodes connections) v.links
  /-- A node lists what it leads to, in the order of the connections. -/
  connectedTo : ∀ n ∈ v.nodes,
    n.connectedTo = ((kept nodes connections).filter (·.source = n.id)).map (·.target)
  /-- A node lists what leads to it, in the order of the connections. -/
  connectedFrom : ∀ n ∈ v.nodes,
    n.connectedFrom = ((kept nodes connections).filter (·.target = n.id)).map (·.source)
  /-- The types of what a node leads to, each told once. -/
  outgoingTypes : ∀ n ∈ v.nodes, n.outgoingTypes.Nodup ∧
    ∀ c, c ∈ n.outgoingTypes ↔ ∃ m ∈ v.nodes, m.id ∈ n.connectedTo ∧ m.type = c
  /-- The types of what leads to a node, each told once. -/
  incomingTypes : ∀ n ∈ v.nodes, n.incomingTypes.Nodup ∧
    ∀ c, c ∈ n.incomingTypes ↔ ∃ m ∈ v.nodes, m.id ∈ n.connectedFrom ∧ m.type = c
  /-- Neighbours are so from either side. -/
  neighbours : ∀ a b, a ∈ v.neighbours b ↔ b ∈ v.neighbours a

/-! ## Told once -/

theorem eraseDups_append_singleton {α : Type} [BEq α] [LawfulBEq α] (l : List α) (a : α) :
    (l ++ [a]).eraseDups = addOnce l.eraseDups a := by
  rw [List.eraseDups_append, addOnce]
  by_cases h : a ∈ l
  · simp [List.removeAll, List.mem_eraseDups, h]
  · simp [List.removeAll, List.mem_eraseDups, List.eraseDups_cons, h]

theorem foldl_addOnce {α : Type} [BEq α] [LawfulBEq α] (l : List α) :
    l.foldl addOnce [] = l.eraseDups := by
  induction l using List.reverseRecOn with
  | nil => rfl
  | append_singleton l a ih =>
    rw [List.foldl_append, ih, eraseDups_append_singleton]
    rfl

/-! ## Nodes -/

theorem ids_ofNodes : (of nodes []).ids = (nodes.map (·.id)).eraseDups := by
  induction nodes using List.reverseRecOn with
  | nil => rfl
  | append_singleton nodes n ih =>
    have hids : (of (nodes ++ [n]) []).ids = addOnce (of nodes []).ids n.id := by
      rw [of_snoc_node, ids, addNode, ids_placed, addOnce]
      simp only [List.contains_iff_mem]
      rfl
    rw [hids, ih, List.map_append, List.map_singleton, eraseDups_append_singleton]

theorem node?_of_mem (hv : v.ids.Nodup) (hn : n ∈ v.nodes) : v.node? n.id = some n := by
  cases h : v.node? n.id with
  | none => simpa using List.find?_eq_none.mp h n hn
  | some m =>
    have hm : m ∈ v.nodes := List.mem_of_find?_eq_some h
    have hid : m.id = n.id := by simpa using List.find?_some h
    rw [List.inj_on_of_nodup_map hv hm hn hid]

/-- A shown node has the data of the last node with its id, and lists the links that touch it. -/
theorem exists_last (hn : n ∈ (of nodes connections).nodes) : ∃ front m back,
    nodes = front ++ m :: back ∧ (∀ k ∈ back, k.id ≠ m.id) ∧
      n = (single m).joined (of nodes connections).links := by
  have hfound := node?_of_mem nodup_ids hn
  rw [node?_of, Option.map_map, Option.map_eq_some_iff] at hfound
  obtain ⟨m, hm, hmn⟩ := hfound
  obtain ⟨hid, back, front, hreverse, hback⟩ := List.find?_eq_some_iff_append.mp hm
  refine ⟨front.reverse, m, back.reverse, ?_, fun k hk => ?_, hmn.symm⟩
  · have := congrArg List.reverse hreverse
    simpa using this
  · have hne := hback k (List.mem_reverse.mp hk)
    simp only [beq_iff_eq] at hid
    simpa [hid] using hne

theorem mem_ids_iff : id ∈ v.ids ↔ ∃ n ∈ v.nodes, n.id = id := by
  simp [ids]

/-! ## Links -/

theorem isSome_link? : ((of nodes []).link? c).isSome =
    ((nodes.map (·.id)).contains c.source && (nodes.map (·.id)).contains c.target) := by
  have hknown (id : String) :
      ((of nodes []).node? id).isSome = (nodes.map (·.id)).contains id := by
    have hids : id ∈ (of nodes []).ids ↔ ∃ n ∈ nodes, n.id = id := mem_ids_of
    rw [Bool.eq_iff_iff, List.contains_iff_mem, List.mem_map, ← hids, mem_ids_iff, node?,
      List.find?_isSome]
    simp only [beq_iff_eq]
  rw [← hknown, ← hknown, link?]
  cases (of nodes []).node? c.source with
  | none => rfl
  | some a => cases (of nodes []).node? c.target <;> rfl

theorem forall₂_filterMap {α β : Type} (f : α → Option β) (l : List α) :
    List.Forall₂ (fun a b => f a = some b) (l.filter fun a => (f a).isSome) (l.filterMap f) := by
  induction l with
  | nil => exact .nil
  | cons a l ih =>
    rw [List.filter_cons, List.filterMap_cons]
    cases h : f a with
    | none => exact ih
    | some b => exact .cons h ih

theorem exists_shown (h : (of nodes []).node? id = some n) :
    ∃ m ∈ (of nodes connections).nodes, m.id = id ∧ m.type = n.type := by
  have hn : n ∈ (of nodes []).nodes := List.mem_of_find?_eq_some h
  have hid : n.id = id := by simpa using List.find?_some h
  refine ⟨n.joined (of nodes connections).links, ?_, hid, rfl⟩
  rw [of_nodes]
  exact List.mem_map_of_mem hn

theorem draws_of_link? (h : (of nodes []).link? c = some link) :
    (of nodes connections).Draws c link := by
  rw [link?] at h
  cases ha : (of nodes []).node? c.source with
  | none => simp [ha] at h
  | some a =>
    cases hb : (of nodes []).node? c.target with
    | none => simp [ha, hb] at h
    | some b =>
      rw [ha, hb] at h
      obtain rfl := Option.some.inj h
      exact ⟨by simpa using List.find?_some ha, by simpa using List.find?_some hb, rfl, rfl,
        exists_shown ha, exists_shown hb⟩

/-- **The links draw the connections that are kept**, one after the other. -/
theorem forall₂_draws : List.Forall₂ (of nodes connections).Draws (kept nodes connections)
    (of nodes connections).links := by
  have h := forall₂_filterMap (of nodes []).link? connections
  simp only [isSome_link?, ← of_links] at h
  exact h.imp fun c l => draws_of_link?

variable (nodes connections) in
theorem ends_links : (of nodes connections).links.map (fun l => (l.source, l.target)) =
    (kept nodes connections).map (·.ends) := by
  have h : List.Forall₂ (· = ·) ((of nodes connections).links.map fun l => (l.source, l.target))
      ((kept nodes connections).map (·.ends)) := by
    rw [List.forall₂_map_left_iff, List.forall₂_map_right_iff]
    exact (forall₂_draws.imp fun c l h => Prod.ext h.source h.target).flip
  rwa [List.forall₂_eq_eq_eq] at h

theorem draws_of_mem_links (h : link ∈ (of nodes connections).links) :
    ∃ c, (of nodes connections).Draws c link := by
  rw [of_links, List.mem_filterMap] at h
  obtain ⟨c, -, hc⟩ := h
  exact ⟨c, draws_of_link? hc⟩

/-! ## Neighbours -/

theorem connectedTo_joined (n : NodeView) : (n.joined (of nodes connections).links).connectedTo =
    ((kept nodes connections).filter (·.source = n.id)).map (·.target) := by
  have h := congrArg (fun es => (es.filter (·.1 = n.id)).map (·.2)) (ends_links nodes connections)
  simp only [List.filter_map, List.map_map] at h
  exact h

theorem connectedFrom_joined (n : NodeView) :
    (n.joined (of nodes connections).links).connectedFrom =
      ((kept nodes connections).filter (·.target = n.id)).map (·.source) := by
  have h := congrArg (fun es => (es.filter (·.2 = n.id)).map (·.1)) (ends_links nodes connections)
  simp only [List.filter_map, List.map_map] at h
  exact h

theorem mem_types_iff (hv : v.ids.Nodup) {links : List Link} {endOf : Link → String}
    {typeOf : Link → Component} {type : Component}
    (h : ∀ l ∈ links, ∃ m ∈ v.nodes, m.id = endOf l ∧ m.type = typeOf l) :
    type ∈ links.map typeOf ↔ ∃ m ∈ v.nodes, m.id ∈ links.map endOf ∧ m.type = type := by
  simp only [List.mem_map]
  constructor
  · rintro ⟨l, hl, rfl⟩
    obtain ⟨m, hm, hid, htype⟩ := h l hl
    exact ⟨m, hm, ⟨l, hl, hid.symm⟩, htype⟩
  · rintro ⟨m, hm, ⟨l, hl, hid⟩, rfl⟩
    obtain ⟨k, hk, hkid, hktype⟩ := h l hl
    refine ⟨l, hl, ?_⟩
    rw [← hktype, List.inj_on_of_nodup_map hv hk hm (hkid.trans hid)]

theorem mem_outgoingTypes_joined {type : Component} :
    type ∈ (n.joined (of nodes connections).links).outgoingTypes ↔
      ∃ m ∈ (of nodes connections).nodes,
        m.id ∈ (n.joined (of nodes connections).links).connectedTo ∧ m.type = type := by
  simp only [NodeView.joined, foldl_addOnce, List.mem_eraseDups]
  refine mem_types_iff nodup_ids fun l hl => ?_
  obtain ⟨c, hc⟩ := draws_of_mem_links (List.mem_of_mem_filter hl)
  rw [hc.target]
  exact hc.targetType

theorem mem_incomingTypes_joined {type : Component} :
    type ∈ (n.joined (of nodes connections).links).incomingTypes ↔
      ∃ m ∈ (of nodes connections).nodes,
        m.id ∈ (n.joined (of nodes connections).links).connectedFrom ∧ m.type = type := by
  simp only [NodeView.joined, foldl_addOnce, List.mem_eraseDups]
  refine mem_types_iff nodup_ids fun l hl => ?_
  obtain ⟨c, hc⟩ := draws_of_mem_links (List.mem_of_mem_filter hl)
  rw [hc.source]
  exact hc.sourceType

/-! ## The whole view -/

/-- **The view of any nodes and connections shows them.** -/
theorem of_shows (nodes : List Node) (connections : List Connection) :
    (of nodes connections).Shows nodes connections where
  ids := ids_of.trans ids_ofNodes
  data n hn := by
    obtain ⟨front, m, back, hsplit, hback, rfl⟩ := exists_last hn
    exact ⟨front, m, back, hsplit, hback, rfl, rfl, rfl, rfl⟩
  links := forall₂_draws
  connectedTo n hn := by
    obtain ⟨-, m, -, -, -, rfl⟩ := exists_last hn
    exact connectedTo_joined (single m)
  connectedFrom n hn := by
    obtain ⟨-, m, -, -, -, rfl⟩ := exists_last hn
    exact connectedFrom_joined (single m)
  outgoingTypes n hn := by
    obtain ⟨-, m, -, -, -, rfl⟩ := exists_last hn
    refine ⟨?_, fun type => mem_outgoingTypes_joined⟩
    rw [NodeView.joined, foldl_addOnce]
    exact nodup_eraseDups _
  incomingTypes n hn := by
    obtain ⟨-, m, -, -, -, rfl⟩ := exists_last hn
    refine ⟨?_, fun type => mem_incomingTypes_joined⟩
    rw [NodeView.joined, foldl_addOnce, foldl_addOnce]
    exact nodup_eraseDups _
  neighbours a b := by
    rw [mem_neighbours_of, mem_neighbours_of]
    simp only [or_comm]

end View

end NetSketch
