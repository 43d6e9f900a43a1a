import Mathlib.Data.List.Induction
import NetSketch.Diagram.View
import NetSketch.Proofs.Diagram.WellFormed

/-!
# What a view shows

A view grows node by node and link by link. In the end every node lists the links that touch it,
and a link is there for every connection between known ids. All questions about the shape of a
diagram can so be asked about its nodes and the ends of its connections.

* `NodeView.joined`: a node that lists its links; `View.link?`: what becomes of a connection;
* `View.node?_ofNodes`, `View.nodup_ids`: of several nodes with one id the last one is shown;
* `View.of_links`, **`View.of_nodes`**: a view, put together;
* `View.isOf_of`, `View.mem_neighbours_of`, `View.mem_links_of`: its answers;
* `Spec.IsOf`, `Spec.Adjacent`, **`Spec.isOf_view`**, **`Spec.nodes_view`**, **`Spec.links_view`**,
  **`Spec.mem_neighbours_view`**, **`Spec.directLink_view`**: the same for a well-formed diagram.
-/

namespace NetSketch

/-- The course of a connection: its ends and its flow. -/
def Connection.course (c : Connection) : String × String × Option FlowKind :=
  (c.source, c.target, c.flow)

/-- The course of a link. -/
def Link.course (l : Link) : String × String × Option FlowKind := (l.source, l.target, l.flow)

/-- A node that lists the links that touch it. -/
def NodeView.joined (n : NodeView) (links : List Link) : NodeView :=
  { n with
    connectedTo := (links.filter (·.source == n.id)).map (·.target)
    connectedFrom := (links.filter (·.target == n.id)).map (·.source)
    outgoingTypes := ((links.filter (·.source == n.id)).map (·.targetType)).foldl addOnce []
    incomingTypes := ((links.filter (·.target == n.id)).map (·.sourceType)).foldl addOnce [] }

@[simp] theorem NodeView.joined_id (n : NodeView) (links : List Link) :
    (n.joined links).id = n.id := rfl

@[simp] theorem NodeView.joined_type (n : NodeView) (links : List Link) :
    (n.joined links).type = n.type := rfl

namespace View

variable {nodes : List Node} {connections : List Connection} {n m : NodeView} {l : List NodeView}
  {v : View} {id a b : String} {types : List Component} {link : Link}

/-- The ids of the nodes. -/
def ids (v : View) : List String := v.nodes.map (·.id)

/-! ## Nodes -/

theorem ids_placed : (placed n l).map (·.id) =
    if n.id ∈ l.map (·.id) then l.map (·.id) else l.map (·.id) ++ [n.id] := by
  induction l with
  | nil => rfl
  | cons m l ih =>
    rw [placed]
    by_cases h : m.id = n.id
    · simp [h]
    · rw [if_neg h, List.map_cons, ih]
      by_cases hn : n.id ∈ l.map (·.id)
      · simp [hn]
      · simp [hn, Ne.symm h]

theorem find?_placed : (placed n l).find? (·.id == id) =
    if n.id = id then some n else l.find? (·.id == id) := by
  induction l with
  | nil => by_cases h : n.id = id <;> simp [placed, h]
  | cons m l ih =>
    rw [placed]
    split_ifs <;> simp_all [List.find?_cons]

theorem mem_of_mem_placed (h : m ∈ placed n l) : m = n ∨ m ∈ l := by
  induction l with
  | nil => exact Or.inl (List.mem_singleton.mp h)
  | cons k l ih =>
    rw [placed] at h
    split_ifs at h
    · rcases List.mem_cons.mp h with h | h
      · exact Or.inl h
      · exact Or.inr (List.mem_cons_of_mem _ h)
    · rcases List.mem_cons.mp h with rfl | h
      · exact Or.inr List.mem_cons_self
      · exact (ih h).imp_right (List.mem_cons_of_mem _)

theorem of_snoc_node (nodes : List Node) (n : Node) :
    of (nodes ++ [n]) [] = (of nodes []).addNode n := by
  simp [of]

/-- Of several nodes with one id the last one is shown. -/
theorem node?_ofNodes :
    (of nodes []).node? id = (nodes.reverse.find? (·.id == id)).map single := by
  induction nodes using List.reverseRecOn with
  | nil => rfl
  | append_singleton nodes n ih =>
    rw [of_snoc_node, node?, addNode, find?_placed, List.reverse_concat, List.find?_cons]
    change (if n.id = id then _ else _) = _
    by_cases h : n.id = id
    · simp [h]
    · have hb : (n.id == id) = false := by simpa using h
      rw [if_neg h, hb]
      exact ih

theorem exists_single (h : n ∈ (of nodes []).nodes) : ∃ m ∈ nodes, n = single m := by
  induction nodes using List.reverseRecOn with
  | nil => cases h
  | append_singleton nodes k ih =>
    rw [of_snoc_node] at h
    rcases mem_of_mem_placed h with rfl | h
    · exact ⟨k, by simp, rfl⟩
    · obtain ⟨m, hm, rfl⟩ := ih h
      exact ⟨m, List.mem_append_left _ hm, rfl⟩

theorem nodup_ids_ofNodes : (of nodes []).ids.Nodup := by
  induction nodes using List.reverseRecOn with
  | nil => exact List.nodup_nil
  | append_singleton nodes n ih =>
    rw [of_snoc_node, ids, addNode, ids_placed]
    split_ifs with h
    · exact ih
    · rw [List.nodup_append]
      refine ⟨ih, by simp, ?_⟩
      rintro i hi j hj rfl
      exact h (List.mem_singleton.mp hj ▸ hi)

theorem placed_of_notMem (h : n.id ∉ l.map (·.id)) : placed n l = l ++ [n] := by
  induction l with
  | nil => rfl
  | cons m l ih =>
    rw [List.map_cons, List.mem_cons, not_or] at h
    rw [placed, if_neg (Ne.symm h.1), ih h.2]
    rfl

theorem nodes_ofNodes (h : (nodes.map (·.id)).Nodup) : (of nodes []).nodes = nodes.map single := by
  induction nodes using List.reverseRecOn with
  | nil => rfl
  | append_singleton nodes n ih =>
    rw [List.map_append, List.nodup_append] at h
    obtain ⟨hnodes, -, hnew⟩ := h
    have hid : (single n).id ∉ (nodes.map single).map (·.id) := by
      rw [List.map_map]
      exact fun hmem => hnew _ hmem _ (List.mem_singleton_self _) rfl
    rw [of_snoc_node, addNode, ih hnodes]
    dsimp only
    rw [placed_of_notMem hid, List.map_append]
    rfl

/-! ## Links -/

/-- The link that a connection becomes, if both its ends are known. -/
def link? (v : View) (c : Connection) : Option Link :=
  match v.node? c.source, v.node? c.target with
  | some a, some b => some ⟨a.id, b.id, a.type, b.type, c.flow, c.label⟩
  | _, _ => none

theorem joined_nil (h : n ∈ (of nodes []).nodes) : n.joined [] = n := by
  obtain ⟨m, -, rfl⟩ := exists_single h
  rfl

theorem joined_snoc (n : NodeView) (links : List Link) (link : Link) :
    (let m := if (n.joined links).id = link.source then
        { n.joined links with
          connectedTo := (n.joined links).connectedTo ++ [link.target],
          outgoingTypes := addOnce (n.joined links).outgoingTypes link.targetType }
        else n.joined links
      if m.id = link.target then
        { m with connectedFrom := m.connectedFrom ++ [link.source],
                 incomingTypes := addOnce m.incomingTypes link.sourceType } else m) =
      n.joined (links ++ [link]) := by
  have hout : (links ++ [link]).filter (·.source == n.id) =
      links.filter (·.source == n.id) ++ if n.id = link.source then [link] else [] := by
    by_cases h : n.id = link.source
    · simp [h]
    · simp [h, Ne.symm h]
  have hin : (links ++ [link]).filter (·.target == n.id) =
      links.filter (·.target == n.id) ++ if n.id = link.target then [link] else [] := by
    by_cases h : n.id = link.target
    · simp [h]
    · simp [h, Ne.symm h]
  unfold NodeView.joined
  rw [hout, hin]
  dsimp only
  by_cases hs : n.id = link.source
  · by_cases ht : n.id = link.target
    · simp only [if_pos hs, if_pos ht, List.map_append, List.foldl_append]
      rfl
    · simp only [if_pos hs, if_neg ht, List.map_append, List.foldl_append, List.append_nil]
      rfl
  · by_cases ht : n.id = link.target
    · simp only [if_neg hs, if_pos ht, List.map_append, List.foldl_append, List.append_nil]
      rfl
    · simp only [if_neg hs, if_neg ht, List.append_nil]

theorem links_ofNodes : (of nodes []).links = [] := by
  induction nodes using List.reverseRecOn with
  | nil => rfl
  | append_singleton nodes n ih =>
    rw [of_snoc_node]
    exact ih

theorem of_snoc_connection (connections : List Connection) (c : Connection) :
    of nodes (connections ++ [c]) = (of nodes connections).addLink c := by
  simp [of]

theorem node?_joined {base v : View} (hv : v.nodes = base.nodes.map (·.joined v.links))
    (id : String) : v.node? id = (base.node? id).map (·.joined v.links) := by
  rw [node?, hv, List.find?_map]
  rfl

/-- A known connection becomes a link that all nodes at its ends list. -/
theorem addLink_of_link? {base v : View} {c : Connection}
    (hv : v.nodes = base.nodes.map (·.joined v.links)) (h : base.link? c = some link) :
    (v.addLink c).links = v.links ++ [link] ∧
      (v.addLink c).nodes = base.nodes.map (·.joined (v.links ++ [link])) := by
  rw [link?] at h
  cases ha : base.node? c.source with
  | none => simp [ha] at h
  | some a =>
    cases hb : base.node? c.target with
    | none => simp [ha, hb] at h
    | some b =>
      rw [ha, hb] at h
      obtain rfl := Option.some.inj h
      rw [addLink, node?_joined hv, node?_joined hv, ha, hb]
      refine ⟨rfl, ?_⟩
      change v.nodes.map _ = _
      rw [hv, List.map_map]
      exact List.map_congr_left fun n _ =>
        joined_snoc n v.links ⟨a.id, b.id, a.type, b.type, c.flow, c.label⟩

theorem addLink_of_link?_eq_none {base v : View} {c : Connection}
    (hv : v.nodes = base.nodes.map (·.joined v.links)) (h : base.link? c = none) :
    v.addLink c = v := by
  rw [link?] at h
  rw [addLink, node?_joined hv, node?_joined hv]
  cases ha : base.node? c.source with
  | none => rfl
  | some a =>
    cases hb : base.node? c.target with
    | none => rfl
    | some b => simp [ha, hb] at h

theorem of_shape : (of nodes connections).links = connections.filterMap (of nodes []).link? ∧
    (of nodes connections).nodes =
      (of nodes []).nodes.map (·.joined (of nodes connections).links) := by
  induction connections using List.reverseRecOn with
  | nil =>
    rw [links_ofNodes]
    refine ⟨rfl, ?_⟩
    conv_lhs => rw [← List.map_id (of nodes []).nodes]
    exact List.map_congr_left fun n hn => (joined_nil hn).symm
  | append_singleton connections c ih =>
    rw [of_snoc_connection, List.filterMap_append, ← ih.1]
    cases h : (of nodes []).link? c with
    | none =>
      rw [addLink_of_link?_eq_none ih.2 h]
      refine ⟨?_, ih.2⟩
      simp [h]
    | some link =>
      obtain ⟨hlinks, hnodes⟩ := addLink_of_link? ih.2 h
      rw [hnodes, hlinks]
      refine ⟨?_, rfl⟩
      simp [h]

/-- The links are the connections between known ids, in order. -/
theorem of_links : (of nodes connections).links = connections.filterMap (of nodes []).link? :=
  of_shape.1

/-- **The nodes of a view list the links that touch them.** -/
theorem of_nodes : (of nodes connections).nodes =
    (of nodes []).nodes.map (·.joined (of nodes connections).links) :=
  of_shape.2

/-! ## Answers -/

theorem node?_of : (of nodes connections).node? id =
    ((nodes.reverse.find? (·.id == id)).map single).map
      (·.joined (of nodes connections).links) := by
  rw [← node?_ofNodes, node?, of_nodes, List.find?_map]
  rfl

theorem ids_of : (of nodes connections).ids = (of nodes []).ids := by
  rw [ids, of_nodes, List.map_map]
  rfl

theorem nodup_ids : (of nodes connections).ids.Nodup := ids_of ▸ nodup_ids_ofNodes

theorem mem_ids_of : id ∈ (of nodes connections).ids ↔ ∃ n ∈ nodes, n.id = id := by
  have hsome : id ∈ (of nodes connections).ids ↔ ((of nodes connections).node? id).isSome := by
    simp [ids, node?, List.find?_isSome]
  rw [hsome, node?_of]
  simp [List.find?_isSome]

theorem isOf_of : (of nodes connections).isOf types id = true ↔
    ∃ n, nodes.reverse.find? (·.id == id) = some n ∧ n.type ∈ types := by
  rw [isOf, node?_of]
  cases nodes.reverse.find? (·.id == id) with
  | none => simp
  | some n =>
    have : types.contains n.type = true ↔ n.type ∈ types := List.contains_iff_mem
    simpa [single, -List.contains_eq_mem] using this

theorem mem_links_of : link ∈ (of nodes connections).links ↔ ∃ c ∈ connections, ∃ a b,
    nodes.reverse.find? (·.id == c.source) = some a ∧
      nodes.reverse.find? (·.id == c.target) = some b ∧
        link = ⟨a.id, b.id, a.type, b.type, c.flow, c.label⟩ := by
  rw [of_links, List.mem_filterMap]
  refine exists_congr fun c => and_congr_right fun _ => ?_
  rw [link?, node?_ofNodes, node?_ofNodes]
  cases nodes.reverse.find? (·.id == c.source) with
  | none => simp
  | some a =>
    cases nodes.reverse.find? (·.id == c.target) with
    | none => simp
    | some b =>
      constructor
      · intro h
        exact ⟨a, b, rfl, rfl, (Option.some.inj h).symm⟩
      · rintro ⟨_, _, ⟨⟩, ⟨⟩, rfl⟩
        rfl

theorem ends_of_mem_links (h : link ∈ (of nodes connections).links) :
    (∃ n, nodes.reverse.find? (·.id == link.source) = some n ∧ n.type = link.sourceType) ∧
      ∃ n, nodes.reverse.find? (·.id == link.target) = some n ∧ n.type = link.targetType := by
  obtain ⟨c, -, a, b, ha, hb, rfl⟩ := mem_links_of.mp h
  have hsource : a.id = c.source := by simpa using List.find?_some ha
  have htarget : b.id = c.target := by simpa using List.find?_some hb
  exact ⟨⟨a, hsource ▸ ha, rfl⟩, b, htarget ▸ hb, rfl⟩

theorem mem_neighbours_of : b ∈ (of nodes connections).neighbours a ↔
    ∃ link ∈ (of nodes connections).links,
      (link.source = a ∧ link.target = b) ∨ (link.source = b ∧ link.target = a) := by
  rw [neighbours, node?_of]
  cases ha : nodes.reverse.find? (·.id == a) with
  | none =>
    refine iff_of_false List.not_mem_nil ?_
    rintro ⟨link, hlink, ⟨rfl, -⟩ | ⟨-, rfl⟩⟩
    · obtain ⟨n, hn, -⟩ := (ends_of_mem_links hlink).1
      simp [ha] at hn
    · obtain ⟨n, hn, -⟩ := (ends_of_mem_links hlink).2
      simp [ha] at hn
  | some n =>
    have hid : (single n).id = a := by simpa [single] using List.find?_some ha
    simp only [Option.map_some, NodeView.joined, hid, List.mem_append, List.mem_map,
      List.mem_filter, beq_iff_eq]
    constructor
    · rintro (⟨link, ⟨hlink, ha⟩, hb⟩ | ⟨link, ⟨hlink, ha⟩, hb⟩)
      · exact ⟨link, hlink, Or.inl ⟨ha, hb⟩⟩
      · exact ⟨link, hlink, Or.inr ⟨hb, ha⟩⟩
    · rintro ⟨link, hlink, ⟨ha, hb⟩ | ⟨hb, ha⟩⟩
      · exact Or.inl ⟨link, ⟨hlink, ha⟩, hb⟩
      · exact Or.inr ⟨link, ⟨hlink, ha⟩, hb⟩

theorem mem_ids_of_mem_neighbours (h : b ∈ (of nodes connections).neighbours a) :
    b ∈ (of nodes connections).ids := by
  rw [mem_ids_of]
  obtain ⟨link, hlink, ⟨-, rfl⟩ | ⟨rfl, -⟩⟩ := mem_neighbours_of.mp h
  · obtain ⟨n, hn, -⟩ := (ends_of_mem_links hlink).2
    exact ⟨n, List.mem_reverse.mp (List.mem_of_find?_eq_some hn), by simpa using List.find?_some hn⟩
  · obtain ⟨n, hn, -⟩ := (ends_of_mem_links hlink).1
    exact ⟨n, List.mem_reverse.mp (List.mem_of_find?_eq_some hn), by simpa using List.find?_some hn⟩

end View

/-! ## Views of well-formed diagrams -/

namespace Spec

variable {s : Spec} {types others : List Component} {id a b : String}

/-- The node of an id is of one of some types. -/
def IsOf (s : Spec) (types : List Component) (id : String) : Prop :=
  ∃ n ∈ s.nodes, n.id = id ∧ n.type ∈ types

/-- Two ids are joined, whichever way the connection runs. -/
def Adjacent (s : Spec) (a b : String) : Prop := s.Joins a b ∨ s.Joins b a

theorem IsOf.mem_ids (h : s.IsOf types id) : id ∈ s.ids := by
  obtain ⟨n, hn, rfl, -⟩ := h
  exact id_mem_ids hn

theorem isOf_id_iff (hs : s.ids.Nodup) {n : Node} (hn : n ∈ s.nodes) :
    s.IsOf types n.id ↔ n.type ∈ types := by
  constructor
  · rintro ⟨m, hm, hid, htype⟩
    rwa [← node_ext_of_nodup hs hm hn hid]
  · exact fun h => ⟨n, hn, rfl, h⟩

theorem find?_reverse_iff (hs : s.ids.Nodup) {n : Node} :
    s.nodes.reverse.find? (·.id == id) = some n ↔ n ∈ s.nodes ∧ n.id = id := by
  constructor
  · intro h
    exact ⟨List.mem_reverse.mp (List.mem_of_find?_eq_some h), by simpa using List.find?_some h⟩
  · rintro ⟨hn, rfl⟩
    cases h : s.nodes.reverse.find? (·.id == n.id) with
    | none => simpa using List.find?_eq_none.mp h n (List.mem_reverse.mpr hn)
    | some m =>
      have hm := List.mem_reverse.mp (List.mem_of_find?_eq_some h)
      have hid : m.id = n.id := by simpa using List.find?_some h
      rw [node_ext_of_nodup hs hm hn hid]

/-- **The types that a view shows.** -/
theorem isOf_view (hs : s.ids.Nodup) :
    (View.ofSpec? (some s)).isOf types id = true ↔ s.IsOf types id := by
  rw [View.ofSpec?, View.isOf_of]
  simp only [find?_reverse_iff hs, IsOf, and_assoc]

theorem mem_ids_view : id ∈ (View.ofSpec? (some s)).ids ↔ id ∈ s.ids := by
  rw [View.ofSpec?, View.mem_ids_of, mem_ids]

theorem mem_links_view (hs : s.WellFormed) {link : Link} :
    link ∈ (View.ofSpec? (some s)).links ↔ ∃ c ∈ s.connections, ∃ m ∈ s.nodes, ∃ n ∈ s.nodes,
      m.id = c.source ∧ n.id = c.target ∧
        link = ⟨m.id, n.id, m.type, n.type, c.flow, c.label⟩ := by
  rw [View.ofSpec?, View.mem_links_of]
  simp only [find?_reverse_iff hs.ids_nodup]
  refine exists_congr fun c => and_congr_right fun _ => ?_
  constructor
  · rintro ⟨m, n, ⟨hm, hms⟩, ⟨hn, hnt⟩, h⟩
    exact ⟨m, hm, n, hn, hms, hnt, h⟩
  · rintro ⟨m, hm, n, hn, hms, hnt, h⟩
    exact ⟨m, n, ⟨hm, hms⟩, ⟨hn, hnt⟩, h⟩

theorem exists_link_view (hs : s.WellFormed) (h : s.Joins a b) :
    ∃ link ∈ (View.ofSpec? (some s)).links, link.source = a ∧ link.target = b := by
  obtain ⟨c, hc, he⟩ := mem_ends.mp h
  obtain ⟨rfl, rfl⟩ := Prod.mk.inj he
  obtain ⟨m, hm, hms⟩ := mem_ids.mp (hs.source_mem c hc)
  obtain ⟨n, hn, hnt⟩ := mem_ids.mp (hs.target_mem c hc)
  exact ⟨_, (mem_links_view hs).mpr ⟨c, hc, m, hm, n, hn, hms, hnt, rfl⟩, hms, hnt⟩

theorem joins_of_mem_links_view (hs : s.WellFormed) {link : Link}
    (h : link ∈ (View.ofSpec? (some s)).links) : s.Joins link.source link.target := by
  obtain ⟨c, hc, m, -, n, -, hms, hnt, rfl⟩ := (mem_links_view hs).mp h
  dsimp only
  rw [hms, hnt]
  exact ends_mem hc

/-- **The neighbours that a view shows.** -/
theorem mem_neighbours_view (hs : s.WellFormed) :
    b ∈ (View.ofSpec? (some s)).neighbours a ↔ s.Adjacent a b := by
  rw [View.ofSpec?, View.mem_neighbours_of]
  constructor
  · rintro ⟨link, hlink, ⟨rfl, rfl⟩ | ⟨rfl, rfl⟩⟩
    · exact Or.inl (joins_of_mem_links_view hs hlink)
    · exact Or.inr (joins_of_mem_links_view hs hlink)
  · rintro (h | h)
    · obtain ⟨link, hlink, hends⟩ := exists_link_view hs h
      exact ⟨link, hlink, Or.inl hends⟩
    · obtain ⟨link, hlink, hends⟩ := exists_link_view hs h
      exact ⟨link, hlink, Or.inr hends⟩

/-- **The nodes that a view shows**, each with the links that touch it. -/
theorem nodes_view (hs : s.ids.Nodup) : (View.ofSpec? (some s)).nodes =
    s.nodes.map fun n => (View.single n).joined (View.ofSpec? (some s)).links := by
  rw [View.ofSpec?, View.of_nodes, View.nodes_ofNodes hs, List.map_map]
  rfl

/-- **The links of a well-formed diagram** take the courses of its connections, in order. -/
theorem links_view (hs : s.WellFormed) :
    (View.ofSpec? (some s)).links.map (·.course) = s.connections.map (·.course) := by
  rw [View.ofSpec?, View.of_links, List.map_filterMap,
    List.filterMap_eq_map_iff_forall_eq_some]
  intro c hc
  obtain ⟨m, hm, hms⟩ := mem_ids.mp (hs.source_mem c hc)
  obtain ⟨n, hn, hnt⟩ := mem_ids.mp (hs.target_mem c hc)
  rw [View.link?, View.node?_ofNodes, View.node?_ofNodes,
    (find?_reverse_iff hs.ids_nodup).mpr ⟨hm, hms⟩, (find?_reverse_iff hs.ids_nodup).mpr ⟨hn, hnt⟩]
  change some (m.id, n.id, c.flow) = _
  rw [hms, hnt]
  rfl

theorem flows_view (hs : s.WellFormed) :
    (View.ofSpec? (some s)).flows = s.connections.filterMap (·.flow) := by
  have h := congrArg (List.filterMap fun k => k.2.2) (links_view hs)
  rwa [List.filterMap_map, List.filterMap_map] at h

theorem connectedTo_joined_view (hs : s.WellFormed) (n : NodeView) :
    (n.joined (View.ofSpec? (some s)).links).connectedTo = (s.outgoing n.id).map (·.target) := by
  have h := congrArg (fun l => (l.filter fun k => k.1 == n.id).map fun k => k.2.1) (links_view hs)
  simp only [List.filter_map, List.map_map] at h
  exact h

/-- **The direct links that a view shows.** -/
theorem directLink_view (hs : s.WellFormed) :
    (View.ofSpec? (some s)).directLink types others = true ↔
      ∃ e ∈ s.ends, (s.IsOf types e.1 ∧ s.IsOf others e.2) ∨
        (s.IsOf others e.1 ∧ s.IsOf types e.2) := by
  simp only [View.directLink, List.any_eq_true, Bool.or_eq_true, Bool.and_eq_true,
    List.contains_iff_mem]
  constructor
  · rintro ⟨link, hlink, h⟩
    have hjoins := joins_of_mem_links_view hs hlink
    obtain ⟨c, -, m, hm, n, hn, -, -, rfl⟩ := (mem_links_view hs).mp hlink
    refine ⟨(m.id, n.id), hjoins, ?_⟩
    simpa only [isOf_id_iff hs.ids_nodup hm, isOf_id_iff hs.ids_nodup hn] using h
  · rintro ⟨⟨a, b⟩, he, h⟩
    obtain ⟨link, hlink, rfl, rfl⟩ := exists_link_view hs he
    refine ⟨link, hlink, ?_⟩
    obtain ⟨c, -, m, hm, n, hn, -, -, rfl⟩ := (mem_links_view hs).mp hlink
    simpa only [isOf_id_iff hs.ids_nodup hm, isOf_id_iff hs.ids_nodup hn] using h

end Spec

end NetSketch
