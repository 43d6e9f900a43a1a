import NetSketch.Proofs.Diagram.Rewiring

/-!
# Insertions

To wire a node is to cut some connections, to let the node be reached from some ids and to let it
lead to some. All three can be read off the diagram in advance, and the wiring functions leave
exactly what they say.

* `Insertion`: what is cut and what is joined to the node; `Insertion.Ends`: what ends it leaves;
* `Spec.Leaves`: an edit that succeeds and leaves certain ends; `Spec.Appends`: one that succeeds
  and cuts nothing;
* `Spec.tierInsertion`, `Spec.insertionAfter`, `Spec.insertionBefore`, `Spec.insertionBetween`,
  `Spec.insertionAtStart`, `Spec.insertionAtEnd`;
* **`Spec.connectByTier_leaves`** and `Spec.insertAfter_leaves`, `Spec.insertBefore_leaves`,
  `Spec.insertBetween_leaves`, `Spec.insertAtStart_leaves`, `Spec.insertAtEnd_leaves`.
-/

namespace NetSketch

/-- How a node is wired. -/
structure Insertion where
  /-- The connections that are cut for it. -/
  cut : List (String × String) := []
  /-- The ids from which it is reached. -/
  sources : List String := []
  /-- The ids to which it leads. -/
  targets : List String := []
  deriving DecidableEq, Repr

/-- The ends that the insertion of a node leaves in a diagram. -/
def Insertion.Ends (w : Insertion) (s : Spec) (id : String) (e : String × String) : Prop :=
  (e ∈ s.ends ∧ e ∉ w.cut) ∨ (e.1 ∈ w.sources ∧ e.2 = id) ∨ (e.1 = id ∧ e.2 ∈ w.targets)

namespace Spec

variable {s : Spec} {a b id : String} {e : String × String} {n : Node}

/-! ## Insertions that the wiring functions make -/

instance (s : Spec) (id : String) : Decidable (s.Isolated id) :=
  inferInstanceAs (Decidable (∀ e ∈ s.ends, e.1 ≠ id ∧ e.2 ≠ id))

/-- The same neighbours as those of another node. -/
def copied (s : Spec) (peer : String) : Insertion where
  sources := (s.incoming peer).map (·.source)
  targets := (s.outgoing peer).map (·.target)

/-- A place between two ids, on both sides of whatever joins them. -/
def insertionBetween (first second : String) : Insertion where
  cut := [(first, second), (second, first)]
  sources := [first]
  targets := [second]

/-- A place between two nodes of the path, either of which may be missing. Where they are not
joined, nothing is cut and the inner one is led to only if nothing else leads to it. -/
def insertionAlong (s : Spec) : Option Node → Option Node → Insertion
  | some a, some b =>
    if s.Joins a.id b.id then insertionBetween a.id b.id
    else { sources := [a.id], targets := if (s.incoming b.id).isEmpty then [b.id] else [] }
  | outer, inner =>
    { sources := (outer.map (·.id)).toList, targets := (inner.map (·.id)).toList }

/-- The other nodes. -/
def others (s : Spec) (id : String) : List Node := s.nodes.filter (·.id != id)

/-- The other nodes on the path. -/
def otherPath (s : Spec) (id : String) : List Node := (s.others id).filter (!·.isSide)

/-- What a side node hangs off: its anchor on the path, or among all others if there is no path. -/
def anchorFor? (s : Spec) (n : Node) : Option Node :=
  sideAnchor? (if (s.otherPath n.id).isEmpty then s.others n.id else s.otherPath n.id) n

/-- The first other path node of the same type that has connections. -/
def peerOf? (s : Spec) (n : Node) : Option Node :=
  (s.otherPath n.id).find? fun m => m.type == n.type && !decide (s.Isolated m.id)

/-- The last of the innermost path nodes further out. -/
def outerOf? (s : Spec) (n : Node) : Option Node :=
  innermost? ((s.otherPath n.id).filter (·.pathKey.before n.pathKey))

/-- The first of the outermost path nodes further in. -/
def innerOf? (s : Spec) (n : Node) : Option Node :=
  outermost? ((s.otherPath n.id).filter (n.pathKey.before ·.pathKey))

/-- A place by tier. -/
def tierInsertion (s : Spec) (n : Node) : Insertion :=
  if n.isSide then { sources := ((s.anchorFor? n).map (·.id)).toList }
  else
    match s.peerOf? n with
    | some peer => s.copied peer.id
    | none => s.insertionAlong (s.outerOf? n) (s.innerOf? n)

/-- A place behind a node. -/
def insertionAfter (s : Spec) (n : Node) (ref : String) : Insertion :=
  if n.isSide then { sources := [ref] }
  else
    { cut := (s.outgoing ref).map (·.ends)
      sources := [ref]
      targets := (s.outgoing ref).map (·.target) }

/-- A place in front of a node. -/
def insertionBefore (s : Spec) (ref : String) : Insertion where
  cut := (s.incoming ref).map (·.ends)
  sources := (s.incoming ref).map (·.source)
  targets := [ref]

/-- The other nodes that nothing leads to, or else the first other node. -/
def entries (s : Spec) (id : String) : List Node :=
  let entries := (s.others id).filter fun n => (s.incoming n.id).isEmpty
  if entries.isEmpty then (s.others id).take 1 else entries

/-- The innermost of the other path nodes that lead nowhere, or else of all other nodes. -/
def sink? (s : Spec) (id : String) : Option Node :=
  let sinks := (s.others id).filter fun n => !n.isSide && (s.outgoing n.id).isEmpty
  innermost? (if sinks.isEmpty then s.others id else sinks)

/-- A place in front of all others. -/
def insertionAtStart (s : Spec) (id : String) : Insertion where
  targets := (s.entries id).map (·.id)

/-- A place behind all others. -/
def insertionAtEnd (s : Spec) (id : String) : Insertion where
  sources := ((s.sink? id).map (·.id)).toList

theorem mem_others {m : Node} : m ∈ s.others id ↔ m ∈ s.nodes ∧ m.id ≠ id := by
  simp [others]

theorem mem_otherPath {m : Node} :
    m ∈ s.otherPath id ↔ m ∈ s.nodes ∧ m.id ≠ id ∧ m.isSide = false := by
  simp [otherPath, mem_others, and_assoc]

theorem mem_others_of_anchorFor? {m : Node} (h : s.anchorFor? n = some m) : m ∈ s.others n.id := by
  have := mem_of_sideAnchor? h
  split_ifs at this
  · exact this
  · exact List.mem_of_mem_filter this

theorem mem_otherPath_of_outerOf? {m : Node} (h : s.outerOf? n = some m) :
    m ∈ s.otherPath n.id ∧ m.pathKey.before n.pathKey = true :=
  List.mem_filter.mp (mem_of_innermost? h)

theorem mem_otherPath_of_innerOf? {m : Node} (h : s.innerOf? n = some m) :
    m ∈ s.otherPath n.id ∧ n.pathKey.before m.pathKey = true :=
  List.mem_filter.mp (mem_of_outermost? h)

theorem mem_others_of_mem_entries {m : Node} (h : m ∈ s.entries id) : m ∈ s.others id := by
  unfold entries at h
  dsimp only at h
  split_ifs at h
  · exact List.mem_of_mem_take h
  · exact List.mem_of_mem_filter h

theorem mem_others_of_sink? {m : Node} (h : s.sink? id = some m) : m ∈ s.others id := by
  have := mem_of_innermost? h
  split_ifs at this
  · exact this
  · exact List.mem_of_mem_filter this

theorem mem_sources_insertionAlong {outer inner : Option Node}
    (h : a ∈ (s.insertionAlong outer inner).sources) : ∃ m, outer = some m ∧ m.id = a := by
  cases outer with
  | none => cases inner <;> exact absurd h List.not_mem_nil
  | some m =>
    refine ⟨m, rfl, ?_⟩
    cases inner with
    | none => exact (List.mem_singleton.mp h).symm
    | some _ =>
      rw [insertionAlong] at h
      split_ifs at h <;> exact (List.mem_singleton.mp h).symm

theorem mem_targets_insertionAlong {outer inner : Option Node}
    (h : b ∈ (s.insertionAlong outer inner).targets) : ∃ m, inner = some m ∧ m.id = b := by
  cases inner with
  | none => cases outer <;> exact absurd h List.not_mem_nil
  | some m =>
    refine ⟨m, rfl, ?_⟩
    cases outer with
    | none => exact (List.mem_singleton.mp h).symm
    | some _ =>
      rw [insertionAlong] at h
      split_ifs at h
      · exact (List.mem_singleton.mp h).symm
      · exact (List.mem_singleton.mp h).symm
      · exact absurd h List.not_mem_nil

theorem eq_of_mem_cut_insertionAlong {outer inner : Option Node}
    (h : e ∈ (s.insertionAlong outer inner).cut) : ∃ x y : Node, s.Joins x.id y.id ∧
      s.insertionAlong outer inner = insertionBetween x.id y.id := by
  rcases outer with - | x <;> rcases inner with - | y
  case some.some =>
    by_cases hjoin : s.Joins x.id y.id
    · exact ⟨x, y, hjoin, by rw [insertionAlong, if_pos hjoin]⟩
    · rw [insertionAlong, if_neg hjoin] at h
      exact absurd h List.not_mem_nil
  all_goals exact absurd h List.not_mem_nil

theorem mem_sources_incoming : a ∈ (s.incoming b).map (·.source) ↔ s.Joins a b := by
  simp only [List.mem_map, mem_incoming, Joins, mem_ends, Connection.ends, Prod.mk.injEq]
  constructor
  · rintro ⟨c, ⟨hc, hb⟩, ha⟩
    exact ⟨c, hc, ha, hb⟩
  · rintro ⟨c, hc, ha, hb⟩
    exact ⟨c, ⟨hc, hb⟩, ha⟩

theorem mem_targets_outgoing : b ∈ (s.outgoing a).map (·.target) ↔ s.Joins a b := by
  simp only [List.mem_map, mem_outgoing, Joins, mem_ends, Connection.ends, Prod.mk.injEq]
  constructor
  · rintro ⟨c, ⟨hc, ha⟩, hb⟩
    exact ⟨c, hc, ha, hb⟩
  · rintro ⟨c, hc, ha, hb⟩
    exact ⟨c, ⟨hc, ha⟩, hb⟩

theorem mem_ends_incoming : e ∈ (s.incoming b).map (·.ends) ↔ e ∈ s.ends ∧ e.2 = b := by
  simp only [List.mem_map, mem_incoming, mem_ends]
  constructor
  · rintro ⟨c, ⟨hc, hb⟩, rfl⟩
    exact ⟨⟨c, hc, rfl⟩, hb⟩
  · rintro ⟨⟨c, hc, rfl⟩, hb⟩
    exact ⟨c, ⟨hc, hb⟩, rfl⟩

theorem mem_ends_outgoing : e ∈ (s.outgoing a).map (·.ends) ↔ e ∈ s.ends ∧ e.1 = a := by
  simp only [List.mem_map, mem_outgoing, mem_ends]
  constructor
  · rintro ⟨c, ⟨hc, ha⟩, rfl⟩
    exact ⟨⟨c, hc, rfl⟩, ha⟩
  · rintro ⟨⟨c, hc, rfl⟩, ha⟩
    exact ⟨c, ⟨hc, ha⟩, rfl⟩

theorem exists_eq_source_iff {l : List Connection} :
    (∃ c ∈ l, e = (c.source, id)) ↔ e.1 ∈ l.map (·.source) ∧ e.2 = id := by
  simp only [Prod.ext_iff, List.mem_map]
  tauto

theorem exists_eq_target_iff {l : List Connection} :
    (∃ c ∈ l, e = (id, c.target)) ↔ e.1 = id ∧ e.2 ∈ l.map (·.target) := by
  simp only [Prod.ext_iff, List.mem_map]
  tauto

theorem isolated_iff : s.Isolated id ↔ s.incoming id = [] ∧ s.outgoing id = [] := by
  simp only [incoming, outgoing, List.filter_eq_nil_iff]
  constructor
  · intro h
    exact ⟨fun c hc => by simpa using (h _ (ends_mem hc)).2,
      fun c hc => by simpa using (h _ (ends_mem hc)).1⟩
  · rintro ⟨hin, hout⟩ e he
    obtain ⟨c, hc, rfl⟩ := mem_ends.mp he
    exact ⟨by simpa using hout c hc, by simpa using hin c hc⟩

theorem incoming_isEmpty : (s.incoming b).isEmpty = true ↔ ∀ a, ¬ s.Joins a b := by
  rw [List.isEmpty_iff, List.eq_nil_iff_forall_not_mem]
  constructor
  · intro h a hab
    obtain ⟨c, hc, he⟩ := mem_ends.mp hab
    exact h c (mem_incoming.mpr ⟨hc, congrArg Prod.snd he⟩)
  · intro h c hc
    obtain ⟨hmem, rfl⟩ := mem_incoming.mp hc
    exact h _ (ends_mem hmem)

theorem outgoing_isEmpty : (s.outgoing a).isEmpty = true ↔ ∀ b, ¬ s.Joins a b := by
  rw [List.isEmpty_iff, List.eq_nil_iff_forall_not_mem]
  constructor
  · intro h b hab
    obtain ⟨c, hc, he⟩ := mem_ends.mp hab
    exact h c (mem_outgoing.mpr ⟨hc, congrArg Prod.fst he⟩)
  · intro h c hc
    obtain ⟨hmem, rfl⟩ := mem_outgoing.mp hc
    exact h _ (ends_mem hmem)

/-! ## Edits that leave certain ends -/

/-- An edit that succeeds, keeps the nodes and leaves connections between exactly these ends. -/
def Leaves (s : Spec) (E : String × String → Prop) (r : Except Breach Spec) : Prop :=
  ∃ t, r = .ok t ∧ t.nodes = s.nodes ∧ ∀ e, e ∈ t.ends ↔ E e

section Leaves

variable {E F : String × String → Prop} {r : Except Breach Spec}

theorem leaves_ok : s.Leaves (· ∈ s.ends) (.ok s) := ⟨s, rfl, rfl, fun _ => Iff.rfl⟩

theorem Leaves.congr (h : s.Leaves E r) (hEF : ∀ e, E e ↔ F e) : s.Leaves F r := by
  obtain ⟨t, ht, hn, he⟩ := h
  exact ⟨t, ht, hn, fun e => (he e).trans (hEF e)⟩

theorem Leaves.bind {f : Spec → Except Breach Spec} (h : s.Leaves E r)
    (hf : ∀ t : Spec, t.nodes = s.nodes → (∀ e, e ∈ t.ends ↔ E e) → t.Leaves F (f t)) :
    s.Leaves F (r >>= f) := by
  obtain ⟨t, rfl, hn, he⟩ := h
  obtain ⟨u, hu, hn', he'⟩ := hf t hn he
  exact ⟨u, hu, hn'.trans hn, he'⟩

theorem connect_leaves (h : a ≠ b) (ha : a ∈ s.ids) (hb : b ∈ s.ids) (flow : Option FlowKind) :
    s.Leaves (fun e => e ∈ s.ends ∨ e = (a, b)) (s.connect a b flow) := by
  refine ⟨_, connect_eq h flow, addConnection_nodes, fun e => ?_⟩
  rw [mem_ends_addConnection]
  exact or_congr_right (and_iff_left ⟨ha, hb⟩)

theorem connectEach_eq {edges : List (String × String × Option FlowKind)}
    (h : ∀ x ∈ edges, x.1 ≠ x.2.1) : s.connectEach edges =
      .ok (s.connectAll (edges.map fun x => ⟨x.1, x.2.1, x.2.2, none, none⟩)) := by
  induction edges generalizing s with
  | nil => rfl
  | cons x edges ih =>
    obtain ⟨a, b, flow⟩ := x
    have hab : a ≠ b := h _ List.mem_cons_self
    rw [connectEach, List.foldlM_cons]
    dsimp only
    rw [connect_eq hab]
    exact ih fun y hy => h y (List.mem_cons_of_mem _ hy)

theorem connectEach_leaves {edges : List (String × String × Option FlowKind)}
    (h : ∀ x ∈ edges, x.1 ≠ x.2.1 ∧ x.1 ∈ s.ids ∧ x.2.1 ∈ s.ids) :
    s.Leaves (fun e => e ∈ s.ends ∨ ∃ x ∈ edges, e = (x.1, x.2.1)) (s.connectEach edges) := by
  refine ⟨_, connectEach_eq fun x hx => (h x hx).1, connectAll_nodes, fun e => ?_⟩
  rw [mem_ends_connectAll]
  simp only [List.mem_map, exists_exists_and_eq_and]
  refine or_congr_right (exists_congr fun x => and_congr_right fun hx => ?_)
  exact and_iff_left (h x hx).2

theorem replaceEach_leaves {l : List Connection} {x y : Connection → String}
    (h : ∀ c ∈ l, x c ≠ y c ∧ x c ∈ s.ids ∧ y c ∈ s.ids)
    (hnew : ∀ c ∈ l, ∀ d ∈ l, (x c, y c) ≠ d.ends) :
    s.Leaves (fun e => (e ∈ s.ends ∧ e ∉ l.map (·.ends)) ∨ ∃ c ∈ l, e = (x c, y c))
      (l.foldlM (fun (t : Spec) c =>
        (t.removeConnection c.source c.target).connect (x c) (y c) c.flow) s) := by
  induction l generalizing s with
  | nil => exact leaves_ok.congr fun e => by simp
  | cons c l ih =>
    obtain ⟨hne, ha, hb⟩ := h c List.mem_cons_self
    rw [List.foldlM_cons]
    have hfirst : s.Leaves (fun e => (e ∈ s.ends ∧ e ≠ c.ends) ∨ e = (x c, y c))
        ((s.removeConnection c.source c.target).connect (x c) (y c) c.flow) := by
      have := connect_leaves (s := s.removeConnection c.source c.target) hne ha hb c.flow
      exact this.congr fun e => or_congr_left mem_ends_removeConnection
    refine hfirst.bind fun t hn he => ?_
    have hrest := fun d hd => h d (List.mem_cons_of_mem _ hd)
    rw [← ids_congr hn] at hrest
    refine (ih hrest fun d hd d' hd' =>
      hnew d (List.mem_cons_of_mem _ hd) d' (List.mem_cons_of_mem _ hd')).congr fun e => ?_
    have hkept : e = (x c, y c) → e ∉ l.map (·.ends) := by
      rintro rfl hmem
      obtain ⟨d, hd, hde⟩ := List.mem_map.mp hmem
      exact hnew c List.mem_cons_self d (List.mem_cons_of_mem _ hd) hde.symm
    simp only [he, List.map_cons, List.mem_cons, exists_eq_or_imp]
    tauto

end Leaves

/-! ## Edits that cut nothing -/

/-- An edit that succeeds and puts its new connections behind the old ones. -/
def Appends (s : Spec) (r : Except Breach Spec) : Prop :=
  ∃ t, r = .ok t ∧ ∃ new, t.connections = s.connections ++ new

theorem Appends.refl : s.Appends (.ok s) := ⟨s, rfl, [], (List.append_nil _).symm⟩

theorem Appends.bind {r : Except Breach Spec} {f : Spec → Except Breach Spec} (h : s.Appends r)
    (hf : ∀ t : Spec, t.Appends (f t)) : s.Appends (r >>= f) := by
  obtain ⟨t, rfl, new, hnew⟩ := h
  obtain ⟨u, hu, new', hnew'⟩ := hf t
  exact ⟨u, hu, new ++ new', by rw [hnew', hnew, List.append_assoc]⟩

theorem connect_appends (h : a ≠ b) (flow : Option FlowKind) : s.Appends (s.connect a b flow) := by
  obtain ⟨new, hnew, -⟩ := addConnection_connections (s := s) (c := ⟨a, b, flow, none, none⟩)
  exact ⟨_, connect_eq h flow, new, hnew⟩

theorem connectEach_appends {edges : List (String × String × Option FlowKind)}
    (h : ∀ x ∈ edges, x.1 ≠ x.2.1) : s.Appends (s.connectEach edges) := by
  obtain ⟨new, hnew, -⟩ := connectAll_connections (s := s)
    (l := edges.map fun x => ⟨x.1, x.2.1, x.2.2, none, none⟩)
  exact ⟨_, connectEach_eq h, new, hnew⟩

/-! ## Wiring at a position -/

theorem insertBetween_leaves {first second : String} (hid : id ∈ s.ids) (h₁ : first ≠ id)
    (h₂ : second ≠ id) (hfirst : first ∈ s.ids) (hsecond : second ∈ s.ids) :
    s.Leaves ((insertionBetween first second).Ends s id) (s.insertBetween id first second) := by
  have hcut : ∀ e, e ∈ ((s.removeConnection first second).removeConnection second first).ends ↔
      e ∈ s.ends ∧ e ∉ [(first, second), (second, first)] := by
    intro e
    simp [mem_ends_removeConnection, and_assoc]
  obtain ⟨t, ht, hn, he⟩ :=
    connect_leaves (s := (s.removeConnection first second).removeConnection second first) h₁ hfirst
      hid (s.flowBetween first second)
  have hids : t.ids = s.ids := ids_congr hn
  obtain ⟨u, hu, hn', he'⟩ :=
    connect_leaves h₂.symm (hids ▸ hid) (hids ▸ hsecond) (s.flowBetween first second)
  refine ⟨u, ?_, hn'.trans hn, fun e => ?_⟩
  · rw [insertBetween, ht]
    exact hu
  · dsimp only at he he'
    rw [he', he, hcut, or_assoc, Insertion.Ends, insertionBetween]
    simp [Prod.ext_iff]

theorem insertAfter_leaves {ref : String} (hs : s.WellFormed) (hn : s.node? n.id = some n)
    (hid : s.Isolated n.id) (href : ref ∈ s.ids) (hne : ref ≠ n.id) :
    s.Leaves ((s.insertionAfter n ref).Ends s n.id) (s.insertAfter n.id ref) := by
  have hmem : n.id ∈ s.ids := id_mem_ids (mem_of_node? hn).1
  have hout : (s.outgoing ref).filter (·.target != n.id) = s.outgoing ref := by
    refine List.filter_eq_self.mpr fun c hc => ?_
    simpa using (hid _ (ends_mem (mem_outgoing.mp hc).1)).2
  rw [insertAfter, hn, insertionAfter]
  dsimp only [Option.map_some, Option.getD_some]
  rw [hout]
  by_cases hside : n.isSide = true
  · rw [if_pos hside, if_neg (by simp [hside])]
    refine (connect_leaves hne href hmem defaultFlow).congr fun e => ?_
    simp [Insertion.Ends, Prod.ext_iff]
  · rw [if_neg hside, if_pos (by simpa using hside)]
    have hold : ∀ c ∈ s.outgoing ref, n.id ≠ c.target ∧ n.id ∈ s.ids ∧ c.target ∈ s.ids := by
      intro c hc
      have hc := (mem_outgoing.mp hc).1
      exact ⟨(hid _ (ends_mem hc)).2.symm, hmem, hs.target_mem c hc⟩
    have hnew : ∀ c ∈ s.outgoing ref, ∀ d ∈ s.outgoing ref, (n.id, c.target) ≠ d.ends := by
      intro c _ d hd he
      exact (hid _ (ends_mem (mem_outgoing.mp hd).1)).1 (congrArg Prod.fst he).symm
    refine (replaceEach_leaves hold hnew).bind fun t hnodes he => ?_
    have hids : t.ids = s.ids := ids_congr hnodes
    refine (connect_leaves hne (hids ▸ href) (hids ▸ hmem) defaultFlow).congr fun e => ?_
    rw [he, exists_eq_target_iff, or_assoc, Insertion.Ends]
    simp only [List.mem_singleton, Prod.ext_iff]
    tauto

theorem insertBefore_leaves {ref : String} (hs : s.WellFormed) (hmem : id ∈ s.ids)
    (hid : s.Isolated id) (href : ref ∈ s.ids) (hne : ref ≠ id) :
    s.Leaves ((s.insertionBefore ref).Ends s id) (s.insertBefore id ref) := by
  have hin : (s.incoming ref).filter (·.source != id) = s.incoming ref := by
    refine List.filter_eq_self.mpr fun c hc => ?_
    simpa using (hid _ (ends_mem (mem_incoming.mp hc).1)).1
  have hold : ∀ c ∈ s.incoming ref, c.source ≠ id ∧ c.source ∈ s.ids ∧ id ∈ s.ids := by
    intro c hc
    have hc := (mem_incoming.mp hc).1
    exact ⟨(hid _ (ends_mem hc)).1, hs.source_mem c hc, hmem⟩
  have hnew : ∀ c ∈ s.incoming ref, ∀ d ∈ s.incoming ref, (c.source, id) ≠ d.ends := by
    intro c _ d hd he
    exact (hid _ (ends_mem (mem_incoming.mp hd).1)).2 (congrArg Prod.snd he).symm
  rw [insertBefore, hin]
  refine (replaceEach_leaves hold hnew).bind fun t hnodes he => ?_
  have hids : t.ids = s.ids := ids_congr hnodes
  refine (connect_leaves hne.symm (hids ▸ hmem) (hids ▸ href) defaultFlow).congr fun e => ?_
  rw [he, exists_eq_source_iff, or_assoc, Insertion.Ends, insertionBefore]
  simp only [List.mem_singleton, Prod.ext_iff]

theorem insertAtStart_eq : s.insertAtStart id =
    s.connectEach ((s.entries id).map fun m => (id, m.id, defaultFlow)) := by
  rw [connectEach, List.foldlM_map]
  rfl

theorem insertAtStart_leaves (hmem : id ∈ s.ids) :
    s.Leaves ((s.insertionAtStart id).Ends s id) (s.insertAtStart id) := by
  rw [insertAtStart_eq]
  refine (connectEach_leaves ?_).congr fun e => ?_
  · rintro x hx
    obtain ⟨m, hm, rfl⟩ := List.mem_map.mp hx
    obtain ⟨hm, hne⟩ := mem_others.mp (mem_others_of_mem_entries hm)
    exact ⟨hne.symm, hmem, id_mem_ids hm⟩
  · simp only [Insertion.Ends, insertionAtStart, List.mem_map, List.not_mem_nil, not_false_iff,
      and_true, false_and, false_or, exists_exists_and_eq_and]
    refine or_congr_right ?_
    constructor
    · rintro ⟨m, hm, rfl⟩
      exact ⟨rfl, m, hm, rfl⟩
    · rintro ⟨h₁, m, hm, h₂⟩
      exact ⟨m, hm, Prod.ext h₁ h₂.symm⟩

/-- A node that is reached from at most one other one, which is given. -/
theorem hung_leaves (hmem : id ∈ s.ids) {o : Option Node} :
    (∀ m, o = some m → m ∈ s.nodes ∧ m.id ≠ id) →
      s.Leaves (Insertion.Ends { sources := (o.map (·.id)).toList } s id)
        (match o with
          | none => .ok s
          | some m => s.connect m.id id defaultFlow) := by
  intro ho
  cases o with
  | none => exact leaves_ok.congr fun e => by simp [Insertion.Ends]
  | some m =>
    obtain ⟨hm, hne⟩ := ho m rfl
    refine (connect_leaves hne (id_mem_ids hm) hmem defaultFlow).congr fun e => ?_
    simp [Insertion.Ends, Prod.ext_iff]

theorem insertAtEnd_leaves (hmem : id ∈ s.ids) :
    s.Leaves ((s.insertionAtEnd id).Ends s id) (s.insertAtEnd id) :=
  hung_leaves hmem fun _ hm => mem_others.mp (mem_others_of_sink? hm)

/-! ## Wiring by tier -/

theorem copyNeighbours_leaves (hs : s.WellFormed) (hmem : id ∈ s.ids) (hid : s.Isolated id)
    (peer : String) : s.Leaves ((s.copied peer).Ends s id) (s.copyNeighbours peer id) := by
  refine (connectEach_leaves ?_).congr fun e => ?_
  · intro x hx
    rcases List.mem_append.mp hx with hx | hx
    · obtain ⟨c, hc, rfl⟩ := List.mem_map.mp hx
      have hc := (mem_incoming.mp hc).1
      exact ⟨(hid _ (ends_mem hc)).1, hs.source_mem c hc, hmem⟩
    · obtain ⟨c, hc, rfl⟩ := List.mem_map.mp hx
      have hc := (mem_outgoing.mp hc).1
      exact ⟨(hid _ (ends_mem hc)).2.symm, hmem, hs.target_mem c hc⟩
  · simp only [List.mem_append, List.mem_map, or_and_right, exists_or, exists_exists_and_eq_and]
    rw [exists_eq_source_iff, exists_eq_target_iff]
    simp [Insertion.Ends, copied]

theorem copyNeighbours_eq_iff (hs : s.WellFormed) (hmem : id ∈ s.ids) (hid : s.Isolated id)
    {peer : String} : s.copyNeighbours peer id = .ok s ↔ s.Isolated peer := by
  obtain ⟨t, ht, -, he⟩ := copyNeighbours_leaves hs hmem hid peer
  constructor
  · rw [ht]
    rintro ⟨⟩
    intro e hmem
    refine ⟨fun h => ?_, fun h => ?_⟩
    · have hout : (id, e.2) ∈ s.ends := (he _).mpr
        (Or.inr (Or.inr ⟨rfl, mem_targets_outgoing.mpr (h ▸ hmem)⟩))
      exact (hid _ hout).1 rfl
    · have hin : (e.1, id) ∈ s.ends := (he _).mpr
        (Or.inr (Or.inl ⟨mem_sources_incoming.mpr (h ▸ hmem), rfl⟩))
      exact (hid _ hin).2 rfl
  · intro h
    obtain ⟨hin, hout⟩ := isolated_iff.mp h
    rw [copyNeighbours, hin, hout]
    rfl

/-- The first peer that has connections is the one whose neighbours are copied. -/
theorem copyFirst?_leaves (hs : s.WellFormed) (hmem : id ∈ s.ids) (hid : s.Isolated id)
    (peers : List Node) : ∃ o, s.copyFirst? id peers = .ok o ∧
      match peers.find? fun m => !decide (s.Isolated m.id) with
      | none => o = none
      | some peer => ∃ t, o = some t ∧ t.nodes = s.nodes ∧
          ∀ e, e ∈ t.ends ↔ (s.copied peer.id).Ends s id e := by
  induction peers with
  | nil => exact ⟨none, rfl, rfl⟩
  | cons p peers ih =>
    obtain ⟨t, ht, hn, he⟩ := copyNeighbours_leaves hs hmem hid p.id
    have heq : t = s ↔ s.Isolated p.id := by
      rw [← copyNeighbours_eq_iff hs hmem hid, ht, Except.ok.injEq]
    rw [copyFirst?, ht]
    change ∃ o, (if t = s then s.copyFirst? id peers else .ok (some t)) = .ok o ∧ _
    by_cases hp : s.Isolated p.id
    · rw [if_pos (heq.mpr hp), List.find?_cons_of_neg (by simpa using hp)]
      exact ih
    · rw [if_neg (mt heq.mp hp), List.find?_cons_of_pos (by simpa using hp)]
      exact ⟨some t, rfl, t, rfl, hn, he⟩

theorem along_leaves (hmem : id ∈ s.ids) {outer inner : Option Node} :
    (∀ m, outer = some m → m ∈ s.nodes ∧ m.id ≠ id) →
    (∀ m, inner = some m → m ∈ s.nodes ∧ m.id ≠ id) →
      s.Leaves ((s.insertionAlong outer inner).Ends s id)
        (match outer, inner with
          | some a, some b =>
            if s.hasConnection a.id b.id then s.insertBetween id a.id b.id
            else do
              let t ← s.connect a.id id defaultFlow
              if (t.incoming b.id).isEmpty then t.connect id b.id defaultFlow else return t
          | some a, none => s.connect a.id id defaultFlow
          | none, some b => s.connect id b.id defaultFlow
          | none, none => .ok s) := by
  intro houter hinner
  rcases outer with - | a <;> rcases inner with - | b
  · exact leaves_ok.congr fun e => by simp [Insertion.Ends, insertionAlong]
  · obtain ⟨hb, hbne⟩ := hinner b rfl
    refine (connect_leaves hbne.symm hmem (id_mem_ids hb) defaultFlow).congr fun e => ?_
    simp [Insertion.Ends, insertionAlong, Prod.ext_iff]
  · obtain ⟨ha, hane⟩ := houter a rfl
    refine (connect_leaves hane (id_mem_ids ha) hmem defaultFlow).congr fun e => ?_
    simp [Insertion.Ends, insertionAlong, Prod.ext_iff]
  · obtain ⟨ha, hane⟩ := houter a rfl
    obtain ⟨hb, hbne⟩ := hinner b rfl
    dsimp only
    rw [insertionAlong]
    by_cases hjoin : s.Joins a.id b.id
    · rw [if_pos (hasConnection_iff.mpr hjoin), if_pos hjoin]
      exact insertBetween_leaves hmem hane hbne (id_mem_ids ha) (id_mem_ids hb)
    · rw [if_neg (mt hasConnection_iff.mp hjoin), if_neg hjoin]
      refine (connect_leaves hane (id_mem_ids ha) hmem defaultFlow).bind fun t hn he => ?_
      have hids : t.ids = s.ids := ids_congr hn
      -- The new connection does not lead to the inner node.
      have hempty : (t.incoming b.id).isEmpty = (s.incoming b.id).isEmpty := by
        rw [Bool.eq_iff_iff, incoming_isEmpty, incoming_isEmpty]
        refine forall_congr' fun x => not_congr ?_
        rw [Joins, he, Joins]
        exact or_iff_left fun h => hbne (congrArg Prod.snd h)
      rw [hempty]
      split_ifs
      · refine (connect_leaves hbne.symm (hids ▸ hmem) (hids ▸ id_mem_ids hb) _).congr fun e => ?_
        rw [he]
        simp [Insertion.Ends, Prod.ext_iff, or_assoc]
      · refine leaves_ok.congr fun e => ?_
        rw [he]
        simp [Insertion.Ends, Prod.ext_iff]

/-- **What wiring by tier leaves.** -/
theorem connectByTier_leaves (hs : s.WellFormed) (hn : s.node? n.id = some n)
    (hid : s.Isolated n.id) :
    s.Leaves ((s.tierInsertion n).Ends s n.id) (s.connectByTier n.id) := by
  have hmem : n.id ∈ s.ids := id_mem_ids (mem_of_node? hn).1
  rw [connectByTier, hn, tierInsertion]
  dsimp only
  change s.Leaves _ (if (s.others n.id).isEmpty then _ else _)
  by_cases hempty : (s.others n.id).isEmpty = true
  · have hothers : s.others n.id = [] := List.isEmpty_iff.mp hempty
    have hpath : s.otherPath n.id = [] := by rw [otherPath, hothers, List.filter_nil]
    rw [if_pos hempty, anchorFor?, peerOf?, outerOf?, innerOf?, hpath, hothers]
    refine leaves_ok.congr fun e => ?_
    cases n.isSide <;> simp [Insertion.Ends, sideAnchor?, insertionAlong, innermost?, outermost?]
  rw [if_neg hempty]
  by_cases hside : n.isSide = true
  · rw [if_pos hside, if_pos hside]
    exact hung_leaves hmem fun m hm => mem_others.mp (mem_others_of_anchorFor? hm)
  · rw [if_neg hside, if_neg hside]
    obtain ⟨o, ho, hcopied⟩ :=
      copyFirst?_leaves hs hmem hid ((s.otherPath n.id).filter (·.type == n.type))
    have hfind : ((s.otherPath n.id).filter (·.type == n.type)).find?
        (fun m => !decide (s.Isolated m.id)) = s.peerOf? n := by
      rw [List.find?_filter, peerOf?]
      simp only [Bool.decide_and, Bool.decide_eq_true]
    rw [hfind] at hcopied
    change s.Leaves _ (s.copyFirst? n.id ((s.otherPath n.id).filter (·.type == n.type)) >>= _)
    rw [ho]
    cases hpeer : s.peerOf? n with
    | some peer =>
      rw [hpeer] at hcopied
      obtain ⟨t, rfl, hnodes, he⟩ := hcopied
      exact ⟨t, rfl, hnodes, he⟩
    | none =>
      rw [hpeer] at hcopied
      subst hcopied
      refine along_leaves hmem (fun m hm => ?_) fun m hm => ?_
      · obtain ⟨hm, hne, -⟩ := mem_otherPath.mp (mem_otherPath_of_outerOf? hm).1
        exact ⟨hm, hne⟩
      · obtain ⟨hm, hne, -⟩ := mem_otherPath.mp (mem_otherPath_of_innerOf? hm).1
        exact ⟨hm, hne⟩

end Spec

end NetSketch
