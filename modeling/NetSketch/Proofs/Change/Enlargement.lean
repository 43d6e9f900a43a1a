import NetSketch.Proofs.Change.Restoration
import NetSketch.Proofs.Diagram.View

/-!
# What an addition leaves as it was

An addition puts new nodes behind the old ones. Every connection that it makes ends at a new node, so
between the old nodes connections can only be missing. Those that are have been cut for a new node
that now stands between their ends, so what held together still does; and if no connections ran both
ways and no place between two nodes was asked for, the node even stands there in the direction of the
connection.

* `Spec.among`, `Spec.Added.among_sublist`: the connections between the old nodes;
  **`add_enlarges`**: the diagram after an addition;
* `Spec.Linked`: nodes joined by a way along connections in either direction;
* `Spec.linked_of_insertion`, `Spec.reaches_of_insertion`: what one new node keeps;
  `Spec.one_way_of_insertion`: it brings no connections that run both ways;
* **`add_keeps_ways`**: the ways that an addition keeps.
-/

open Relation (ReflTransGen)

namespace NetSketch

namespace Spec

variable {s t u : Spec} {n : Node} {spot : Spot} {wanted : List Wanted} {inRow : Bool}
  {steps : List Modification} {a b : String} {e : String × String}

/-! ## The old part -/

/-- The connections of a diagram that join some ids to each other. -/
def among (t : Spec) (ids : List String) : List Connection :=
  t.connections.filter fun c => ids.contains c.source && ids.contains c.target

theorem mem_among {ids : List String} {c : Connection} :
    c ∈ t.among ids ↔ c ∈ t.connections ∧ c.source ∈ ids ∧ c.target ∈ ids := by
  simp [among]

theorem among_eq_filter {ids more : List String} (h : ids ⊆ more) :
    t.among ids =
      (t.among more).filter fun c => ids.contains c.source && ids.contains c.target := by
  rw [among, among, List.filter_filter]
  refine List.filter_congr fun c _ => ?_
  by_cases hc : c.source ∈ ids ∧ c.target ∈ ids
  · simp [hc.1, hc.2, h hc.1, h hc.2]
  · simp [hc]

theorem TierEdge.touches (h : s.TierEdge n e) : Touches n.id e := by
  cases h with
  | hung | copiedIn | fromOuter => exact Or.inr rfl
  | copiedOut | toInner => exact Or.inl rfl

theorem touches_of_edge (h : spot.Edge s n e) : Touches n.id e := by
  cases spot with
  | byTier => exact TierEdge.touches h
  | first | last | after | before | between => exact h

theorem Rewired.among_sublist (hu : Rewired (spot.Edge (s.withNode n) n) (s.withNode n) u)
    (hid : n.id ∉ s.ids) : (u.among s.ids).Sublist s.connections := by
  obtain ⟨kept, new, heq, hkept, hnew⟩ := hu.connections_eq
  have hnone : new.filter (fun c => s.ids.contains c.source && s.ids.contains c.target) = [] := by
    refine List.filter_eq_nil_iff.mpr fun c hc hold => ?_
    rw [Bool.and_eq_true, List.contains_iff_mem, List.contains_iff_mem] at hold
    rcases touches_of_edge (hnew c hc) with h | h
    · exact hid (h ▸ hold.1)
    · exact hid (h ▸ hold.2)
  rw [among, heq, List.filter_append, hnone, List.append_nil]
  exact List.filter_sublist.trans hkept

/-- **Between the old nodes, an addition leaves only connections that were there.** -/
theorem Added.among_sublist (h : Added inRow spot s wanted t steps) :
    (t.among s.ids).Sublist s.connections := by
  induction h with
  | nil => exact List.filter_sublist
  | @cons spot s u v w wanted steps hu _ ih =>
    have hids : u.ids = s.ids ++ [(w.node s).id] := (ids_congr hu.nodes_eq).trans (ids_withNode _)
    have hsub : s.ids ⊆ u.ids := hids ▸ List.subset_append_left _ _
    rw [among_eq_filter hsub]
    exact (ih.filter _).trans (Rewired.among_sublist hu (node_id_notMem s w))

end Spec

variable {store : Store} {prompt : String} {s : Spec} {intent : Option Intent} {change : Change}

/-- **The diagram after an addition**: the old nodes, and behind them one new node for each wanted
component, of its type and with an id of its own; the old zones; of the connections between old nodes
only such as were there, as they were; and otherwise connections that end at a new node. -/
theorem add_enlarges (hs : s.WellFormed)
    (h : add store prompt (some s) intent = .ok (.done change)) :
    ∃ t new, change.spec = some t ∧ t.nodes = s.nodes ++ new ∧
      new.map (·.type) = (s.wantedFor prompt intent).map (·.type) ∧
      (new.map (·.id)).Nodup ∧ (∀ n ∈ new, n.id ∉ s.ids) ∧ t.zones = s.zones ∧
      (t.among s.ids).Sublist s.connections ∧
      ∀ c ∈ t.connections, c ∈ t.among s.ids ∨ ∃ n ∈ new, c.source = n.id ∨ c.target = n.id := by
  obtain ⟨t, ht, -, hadd⟩ := add_wanted change h
  have hadded := Spec.Added.of_addEach hs (s.spotFor_known prompt intent) hadd
  have hwf := hadded.wellFormed hs
  obtain ⟨new, hnodes, htypes⟩ := hadded.exists_nodes_eq
  have hids : t.ids = s.ids ++ new.map (·.id) := by rw [Spec.ids, hnodes, List.map_append, Spec.ids]
  obtain ⟨-, hnodup, hfresh⟩ := List.nodup_append.mp (hids ▸ hwf.ids_nodup)
  have hend : ∀ {id}, id ∈ t.ids → id ∈ s.ids ∨ ∃ n ∈ new, id = n.id := by
    intro id hid
    rw [hids, List.mem_append, List.mem_map] at hid
    rcases hid with hid | ⟨n, hn, rfl⟩
    · exact Or.inl hid
    · exact Or.inr ⟨n, hn, rfl⟩
  refine ⟨t, new, ht, hnodes, htypes, hnodup, fun n hn hid => ?_, hadded.zones_eq,
    hadded.among_sublist, fun c hc => ?_⟩
  · exact hfresh _ hid _ (List.mem_map_of_mem hn) rfl
  · rcases hend (hwf.source_mem c hc) with hsource | ⟨n, hn, hsource⟩
    · rcases hend (hwf.target_mem c hc) with htarget | ⟨n, hn, htarget⟩
      · exact Or.inl (Spec.mem_among.mpr ⟨hc, hsource, htarget⟩)
      · exact Or.inr ⟨n, hn, Or.inr htarget⟩
    · exact Or.inr ⟨n, hn, Or.inl hsource⟩

/-- A request for two filters behind the firewall. -/
def filtersBehind : Intent :=
  ⟨.add, editConfidence, [{ type := .waf }, { type := .idsIps }],
    some ⟨.after, some "fw-1", none, (0, 0)⟩, none⟩

/-- The web server behind the firewall and both filters. -/
def guardedTwice : Spec where
  nodes := guarded.nodes ++ [⟨"waf-1", .waf, "WAF", none, none, none⟩,
    ⟨"ids-ips-1", .idsIps, "IDS/IPS", none, none, none⟩]
  connections := [⟨"fw-1", "waf-1", defaultFlow, none, none⟩,
    ⟨"ids-ips-1", "web-1", none, none, none⟩, ⟨"waf-1", "ids-ips-1", defaultFlow, none, none⟩]

/-- The steps that put both filters there. -/
def filterSteps : List Modification :=
  [.addNode "waf-1" .waf (some "WAF"), .removeConnection "fw-1" "web-1",
    .addConnection "waf-1" "web-1", .addConnection "fw-1" "waf-1",
    .addNode "ids-ips-1" .idsIps (some "IDS/IPS"), .removeConnection "waf-1" "web-1",
    .addConnection "ids-ips-1" "web-1", .addConnection "waf-1" "ids-ips-1"]

theorem add_filtersBehind_eq : add store "" (some guarded) (some filtersBehind) =
    advised store guarded guardedTwice [.waf, .idsIps]
      { command := .add, spec := guardedTwice, confidence := confidenceBy (some filtersBehind)
        modifications := filterSteps } := by
  have hspot : guarded.spotFor "" (some filtersBehind) = .after "fw-1" := by decide +kernel
  have hadd : guarded.addEach true (.after "fw-1") [{ type := .waf }, { type := .idsIps }] =
      .ok (guardedTwice, filterSteps) := by
    decide +kernel
  change (Reading.ofBreach (guarded.addEach true
    (guarded.spotFor "" (some filtersBehind)) [{ type := .waf }, { type := .idsIps }]) >>= _) = _
  rw [hspot, hadd]
  rfl

theorem add_filtersBehind : ∃ change,
    add ⟨{}, [], [], [], []⟩ "" (some guarded) (some filtersBehind) = .ok (.done change) ∧
      change.spec = some guardedTwice := by
  rw [add_filtersBehind_eq]
  exact ⟨_, rfl, rfl⟩

theorem add_enlarges_guarded : guarded.WellFormed ∧ ∃ change t new,
    add ⟨{}, [], [], [], []⟩ "" (some guarded) (some filtersBehind) = .ok (.done change) ∧
      change.spec = some t ∧ t.nodes = guarded.nodes ++ new ∧
      new.map (·.type) = (guarded.wantedFor "" (some filtersBehind)).map (·.type) ∧
      (new.map (·.id)).Nodup ∧ (∀ n ∈ new, n.id ∉ guarded.ids) ∧ t.zones = guarded.zones ∧
      (t.among guarded.ids).Sublist guarded.connections ∧
      ∀ c ∈ t.connections,
        c ∈ t.among guarded.ids ∨ ∃ n ∈ new, c.source = n.id ∨ c.target = n.id := by
  have hs : guarded.WellFormed := by decide
  obtain ⟨change, h, -⟩ := add_filtersBehind
  obtain ⟨t, new, hnew⟩ := add_enlarges hs h
  exact ⟨hs, change, t, new, h, hnew⟩

/-! ## The ways -/

namespace Spec

variable {s t u : Spec} {n : Node} {spot : Spot} {a b : String}

/-- A way leads from one id to another along connections in either direction. -/
def Linked (s : Spec) : String → String → Prop := ReflTransGen s.Adjacent

theorem Linked.symm (h : s.Linked a b) : s.Linked b a := by
  have : Std.Symm s.Adjacent := ⟨fun _ _ => Or.symm⟩
  exact ReflTransGen.stdSymm.symm _ _ h

section Insertion

variable (hends : ∀ e, e ∈ u.ends ↔ (s.insertion n spot).Ends s n.id e)
include hends

theorem joins_of_mem_sources (ha : a ∈ (s.insertion n spot).sources) : u.Joins a n.id :=
  (hends _).mpr (Or.inr (Or.inl ⟨ha, rfl⟩))

theorem joins_of_mem_targets (hb : b ∈ (s.insertion n spot).targets) : u.Joins n.id b :=
  (hends _).mpr (Or.inr (Or.inr ⟨rfl, hb⟩))

/-- The ends of a connection stay joined, or the new node is now joined to both. -/
theorem linked_of_joins (hab : s.Joins a b) : u.Linked a b := by
  by_cases hcut : (a, b) ∈ (s.insertion n spot).cut
  · have hnode : u.Adjacent a n.id ∧ u.Adjacent n.id b := by
      rcases sides_of_mem_cut hcut with ⟨ha, hb⟩ | ⟨hb, ha, -⟩
      · exact ⟨Or.inl (joins_of_mem_sources hends ha), Or.inl (joins_of_mem_targets hends hb)⟩
      · exact ⟨Or.inr (joins_of_mem_targets hends ha), Or.inr (joins_of_mem_sources hends hb)⟩
    exact (ReflTransGen.single hnode.1).tail hnode.2
  · exact .single (Or.inl ((hends _).mpr (Or.inl ⟨hab, hcut⟩)))

/-- **A new node keeps together what held together.** -/
theorem linked_of_insertion (hab : s.Linked a b) : u.Linked a b := by
  refine Relation.reflTransGen_closed (fun a b hab => ?_) a b hab
  rcases hab with hab | hba
  · exact linked_of_joins hends hab
  · exact (linked_of_joins hends hba).symm

/-- **A new node keeps the ways**, if all that is cut for it leads past it. -/
theorem reaches_of_insertion
    (hpast : ∀ e ∈ s.ends, e ∈ (s.insertion n spot).cut → (s.insertion n spot).Past e)
    (hab : s.Reaches a b) : u.Reaches a b := by
  refine Relation.reflTransGen_closed (fun a b hab => ?_) a b hab
  by_cases hcut : (a, b) ∈ (s.insertion n spot).cut
  · obtain ⟨-, ha, hb⟩ := hpast _ hab hcut
    exact (ReflTransGen.single (joins_of_mem_sources hends ha)).tail (joins_of_mem_targets hends hb)
  · exact .single ((hends _).mpr (Or.inl ⟨hab, hcut⟩))

end Insertion

theorem notMem_targets (hs : s.WellFormed) (hone : ∀ a b, s.Joins a b → ¬ s.Joins b a)
    (hspot : ∀ a b, spot ≠ .between a b) (ha : a ∈ (s.insertion n spot).sources) :
    a ∉ (s.insertion n spot).targets := by
  intro ha'
  cases spot with
  | first => exact absurd ha List.not_mem_nil
  | last => exact absurd ha' List.not_mem_nil
  | between a b => exact hspot a b rfl
  | before ref =>
    obtain rfl := List.mem_singleton.mp ha'
    exact hs.source_ne_target (mem_sources_incoming.mp ha) rfl
  | after ref =>
    rw [insertion, insertionAfter] at ha ha'
    split_ifs at ha ha'
    · exact absurd ha' List.not_mem_nil
    · obtain rfl := List.mem_singleton.mp ha
      exact hs.source_ne_target (mem_targets_outgoing.mp ha') rfl
  | byTier =>
    rw [insertion, tierInsertion] at ha ha'
    split_ifs at ha ha'
    · exact absurd ha' List.not_mem_nil
    · cases hpeer : s.peerOf? n with
      | some peer =>
        rw [hpeer] at ha ha'
        exact hone _ _ (mem_sources_incoming.mp ha) (mem_targets_outgoing.mp ha')
      | none =>
        rw [hpeer] at ha ha'
        obtain ⟨x, hx, hxa⟩ := mem_sources_insertionAlong ha
        obtain ⟨y, hy, hya⟩ := mem_targets_insertionAlong ha'
        exact outer_ne_inner hs hx hy (hxa.trans hya.symm)

/-- **A new node brings no connections that run both ways.** -/
theorem one_way_of_insertion (hs : s.WellFormed) (hu : u.WellFormed) (hid : n.id ∉ s.ids)
    (hends : ∀ e, e ∈ u.ends ↔ (s.insertion n spot).Ends s n.id e)
    (hone : ∀ a b, s.Joins a b → ¬ s.Joins b a) (hspot : ∀ a b, spot ≠ .between a b) :
    ∀ a b, u.Joins a b → ¬ u.Joins b a := by
  have hiso := hs.isolated hid
  intro a b hab hba
  rcases (hends _).mp hab with ⟨he, -⟩ | ⟨ha, rfl⟩ | ⟨rfl, hb⟩
  · -- Nothing old touches the new node.
    rcases (hends _).mp hba with ⟨he', -⟩ | ⟨-, rfl⟩ | ⟨rfl, -⟩
    · exact hone a b he he'
    · exact (hiso _ he).1 rfl
    · exact (hiso _ he).2 rfl
  · rcases (hends _).mp hba with ⟨he, -⟩ | ⟨-, hloop⟩ | ⟨-, ha'⟩
    · exact (hiso _ he).1 rfl
    · exact hu.source_ne_target hab hloop
    · exact notMem_targets hs hone hspot ha ha'
  · rcases (hends _).mp hba with ⟨he, -⟩ | ⟨hb', -⟩ | ⟨hloop, -⟩
    · exact (hiso _ he).2 rfl
    · exact notMem_targets hs hone hspot hb' hb
    · exact hu.source_ne_target hab hloop.symm

end Spec

/-- **The ways that an addition keeps**: what held together still does, and all that was reached is
still reached, if no connections ran both ways and no place between two nodes was asked for. -/
theorem add_keeps_ways (hs : s.WellFormed)
    (h : add store prompt (some s) intent = .ok (.done change)) :
    ∃ t, change.spec = some t ∧ (∀ a b, s.Linked a b → t.Linked a b) ∧
      ((∀ a b, s.Joins a b → ¬ s.Joins b a) →
        (∀ h, hintBy intent prompt = some h → h.placement ≠ .between) →
        ∀ a b, s.Reaches a b → t.Reaches a b) := by
  obtain ⟨t, ht, -, hadd⟩ := add_wanted change h
  have hknown := s.spotFor_known prompt intent
  refine ⟨t, ht, ?_, fun hone hhint => ?_⟩
  · refine Spec.addEach_induction (P := fun u => ∀ a b, s.Linked a b → u.Linked a b)
      (Q := fun _ => True) hs hknown trivial (fun _ => trivial) ?_ (fun _ _ hab => hab) hadd
    intro u v n spot _ _ _ _ hends ih a b hab
    exact Spec.linked_of_insertion hends (ih a b hab)
  · -- The ways are kept as long as no connections run both ways, so this goes along.
    refine (Spec.addEach_induction (P := fun u => (∀ a b, u.Joins a b → ¬ u.Joins b a) ∧
        ∀ a b, s.Reaches a b → u.Reaches a b) (Q := fun spot => ∀ a b, spot ≠ .between a b)
      hs hknown (Spot.of_ne_between hhint) (fun _ _ _ => nofun) ?_ ⟨hone, fun _ _ hab => hab⟩
      hadd).2
    rintro u v n spot hu hv hid hspot hends ⟨honeway, ih⟩
    exact ⟨Spec.one_way_of_insertion hu hv hid hends honeway hspot,
      fun a b hab => Spec.reaches_of_insertion hends
        (fun _ he hcut => Spec.past_of_mem_cut hu honeway hspot he hcut) (ih a b hab)⟩

theorem add_keeps_ways_guarded : guarded.WellFormed ∧
    (∀ a b, guarded.Joins a b → ¬ guarded.Joins b a) ∧
    (∀ h, hintBy (some filtersBehind) "" = some h → h.placement ≠ .between) ∧
    ∃ change t, add ⟨{}, [], [], [], []⟩ "" (some guarded) (some filtersBehind) =
        .ok (.done change) ∧ change.spec = some t ∧
      (∀ a b, guarded.Linked a b → t.Linked a b) ∧
      ∀ a b, guarded.Reaches a b → t.Reaches a b := by
  have hs : guarded.WellFormed := by decide
  have hhint : ∀ h, hintBy (some filtersBehind) "" = some h → h.placement ≠ .between := by
    rintro _ ⟨⟩
    decide
  obtain ⟨change, h, -⟩ := add_filtersBehind
  obtain ⟨t, ht, hlinked, hreaches⟩ := add_keeps_ways hs h
  exact ⟨hs, one_way_guarded, hhint, change, t, h, ht, hlinked, hreaches one_way_guarded hhint⟩

end NetSketch
