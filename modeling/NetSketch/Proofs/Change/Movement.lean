import NetSketch.Change.Amendment
import NetSketch.Proofs.Change.Placement
import NetSketch.Proofs.Change.Removal

/-!
# Nodes that are moved

A node is moved by being taken out of the diagram, its path bridged, and put in again as if it were
new. All that counts for where it goes are the other nodes and what is joined without it.

* `Spec.lacking`: a diagram without one of its nodes; **`Spec.exists_move`**: a node moved to a spot;
* `Spec.toMove?`, `Spec.spotOf`: which node is moved, and where to; `reposition_eq`;
  `Spec.known_of_toMove?`: the spot is at other nodes.
-/

namespace NetSketch

open Prompt Text

namespace Spec

variable {s t : Spec} {x : Node} {spot : Spot}

/-! ## A node taken out and put in -/

/-- A diagram without one of its nodes, the path of which is bridged. -/
def lacking (s : Spec) (x : Node) : Spec := (s.removeAll [x.id]).1

theorem mem_lacking_nodes {m : Node} : m ∈ (s.lacking x).nodes ↔ m ∈ s.nodes ∧ m.id ≠ x.id := by
  rw [lacking, removeAll, mem_removeEach_nodes, List.mem_singleton]

theorem lacking_nodes_congr (h : t.nodes = s.nodes) : (t.lacking x).nodes = (s.lacking x).nodes := by
  rw [lacking, removeAll, removeEach_nodes, h, lacking, removeAll, removeEach_nodes]

theorem lacking_zones : (s.lacking x).zones = s.zones := removeEach_zones

theorem notMem_ids_lacking : x.id ∉ (s.lacking x).ids := fun h =>
  (mem_ids_removeEach.mp h).2 List.mem_cons_self

theorem WellFormed.lacking (hs : s.WellFormed) : (s.lacking x).WellFormed := hs.removeEach

/-- **A node can be moved to a spot at other nodes**, where it is inserted like a new one. -/
theorem exists_move (hs : s.WellFormed) (hx : x ∈ s.nodes) (hspot : spot.Known (s.lacking x)) :
    ∃ t, s.move x spot = .ok t ∧ t.nodes = s.nodes ∧ t.zones = s.zones ∧ t.WellFormed ∧
      (s.ends.Nodup → t.ends.Nodup) ∧
      ∀ e, e ∈ t.ends ↔ ((s.lacking x).insertion x spot).Ends (s.lacking x) x.id e := by
  have hwf : (s.lacking x).WellFormed := hs.lacking
  have hid : x.id ∉ (s.lacking x).ids := notMem_ids_lacking
  have hwith := hwf.withNode hid (hs.id_not_blank x hx)
  obtain ⟨u, hu, hrew⟩ := place_rewires hwf hid hspot
  obtain ⟨v, hv, -, hends⟩ := place_leaves hwith hid hspot (hwf.isolated hid)
  obtain rfl : u = v := Except.ok.inj (hu.symm.trans hv)
  have hu' := hrew.wellFormed hwith
  have hids : ∀ i ∈ u.ids, i ∈ s.ids := by
    intro i hi
    rw [ids_congr hrew.nodes_eq, ids_withNode] at hi
    rcases List.mem_append.mp hi with hi | hi
    · exact (mem_ids_removeEach.mp hi).1
    · exact List.mem_singleton.mp hi ▸ id_mem_ids hx
  have ht : (⟨s.nodes, u.connections, u.zones⟩ : Spec).WellFormed := by
    refine hs.of_ends rfl fun e he => ?_
    obtain ⟨ha, hb⟩ := hu'.ends_mem_ids he
    exact ⟨hu'.source_ne_target he, hids _ ha, hids _ hb⟩
  refine ⟨⟨s.nodes, u.connections, u.zones⟩, ?_, rfl, hrew.zones_eq.trans lacking_zones, ht,
    fun h => hrew.nodup_ends (nodup_ends_removeEach h), hends⟩
  rw [move]
  dsimp only
  rw [← lacking, hwf.addNode hid (hs.id_not_blank x hx)]
  change (((s.lacking x).withNode x).place x.id spot >>= _) = _
  rw [hu]
  exact ht.check_eq

/-! ## The node that is moved -/

variable {prompt : String} {hint : Hint} {intent : Option Intent}

/-- The nodes that may be meant to be moved: those of the types of an intent, or else those that the
prompt names. -/
def movable (s : Spec) (prompt : String) (intent : Option Intent) : List Node :=
  if (wantedBy intent).isEmpty then s.named prompt
  else (wantedBy intent).flatMap fun w => s.nodesOfType w.type

/-- The first node that may be meant and that the hint does not refer to. -/
def toMove? (s : Spec) (prompt : String) (hint : Hint) (intent : Option Intent) : Option Node :=
  (s.movable prompt intent).find? fun n =>
    !([s.resolve? hint.reference, s.resolve? hint.second].contains (some n))

/-- The spot that a hint asks for. -/
def spotOf (s : Spec) (hint : Hint) : Spot :=
  .of (some hint) (s.resolve? hint.reference) (s.resolve? hint.second)

theorem mem_of_toMove? (hs : s.WellFormed) (h : s.toMove? prompt hint intent = some x) :
    x ∈ s.nodes := by
  have hmem := List.mem_of_find?_eq_some h
  unfold movable at hmem
  split_ifs at hmem
  · exact (named_told hs.ids_nodup).1 hmem
  · obtain ⟨w, -, hw⟩ := List.mem_flatMap.mp hmem
    exact (mem_nodesOfType.mp hw).1

theorem known_of_toMove? (hs : s.WellFormed) (h : s.toMove? prompt hint intent = some x) :
    (s.spotOf hint).Known (s.lacking x) := by
  have hother := List.find?_some h
  have hstays : ∀ {m : Node}, m ∈ s.nodes → m ≠ x → m ∈ (s.lacking x).nodes := fun hm hne =>
    mem_lacking_nodes.mpr
      ⟨hm, fun e => hne (node_ext_of_nodup hs.ids_nodup hm (mem_of_toMove? hs h) e)⟩
  refine Spot.known_of (fun m hm => hstays (mem_of_resolve? hm) ?_)
    fun m hm => hstays (mem_of_resolve? hm) ?_
  · rintro rfl
    simp [hm] at hother
  · rintro rfl
    simp [hm] at hother

/-- What is moved, and where to, can be read off the nodes alone. -/
theorem toMove?_congr (h : t.nodes = s.nodes) (prompt : String) (hint : Hint)
    (intent : Option Intent) :
    t.toMove? prompt hint intent = s.toMove? prompt hint intent ∧ t.spotOf hint = s.spotOf hint := by
  obtain ⟨nodes, _, _⟩ := s
  obtain ⟨_, _, _⟩ := t
  obtain rfl : _ = nodes := h
  exact ⟨rfl, rfl⟩

end Spec

theorem reposition_eq {store : Store} {prompt : String} {s : Spec} {hint : Hint}
    {intent : Option Intent} : reposition store prompt s hint intent =
      match s.toMove? prompt hint intent with
      | none => .ok (.failed .modify .nothingToModifyFound none)
      | some x => .ofBreach (s.move x (s.spotOf hint)) >>= fun t =>
        advised store s t [x.type]
          { command := .modify, spec := t, confidence := confidenceBy intent
            modifications := s.connectionChanges t } := by
  rw [Spec.toMove?, ← List.head?_filter]
  unfold reposition
  extract_lets ref second asked named
  change _ = match (named.filter _).head? with | none => _ | some x => _
  cases named.filter fun n => !([ref, second].contains (some n)) with
  | nil => rfl
  | cons x rest => rfl

end NetSketch
