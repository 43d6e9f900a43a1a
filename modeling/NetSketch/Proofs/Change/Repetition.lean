import NetSketch.Proofs.Change.Answer
import NetSketch.Proofs.Change.Enlargement

/-!
# Moves that are repeated

A path node that is moved to a position and taken out again leaves what was there without it: what
was cut for it is bridged once it is gone. So it goes to the same place when it is moved there again,
and whoever reached whom past its old place still does.

* `Spec.insertion_ends_congr`: how a node is inserted depends only on the nodes and the ends;
* `Spec.mem_or_past_iff`: what is cut for a path node is what leads past it;
* `Spec.move_again`, `Spec.reaches_of_move`: a path node that is moved;
* **`reposition_settles`**.
-/

open Relation (ReflTransGen)

namespace NetSketch

namespace Spec

variable {s t : Spec} {x : Node} {spot : Spot} {a b id : String} {e : String × String}

/-! ## Insertions in diagrams of the same ends -/

section Congr

variable (hnodes : t.nodes = s.nodes) (hends : ∀ e, e ∈ t.ends ↔ e ∈ s.ends)
include hnodes hends

theorem entries_congr : t.entries id = s.entries id := by
  have hothers : t.others id = s.others id := by rw [others, hnodes, others]
  have hin : (fun n : Node => (t.incoming n.id).isEmpty) = fun n => (s.incoming n.id).isEmpty := by
    funext n
    rw [Bool.eq_iff_iff, incoming_isEmpty, incoming_isEmpty]
    exact forall_congr' fun a => not_congr (hends (a, n.id))
  rw [entries, hothers, hin, entries]

theorem sink?_congr : t.sink? id = s.sink? id := by
  have hothers : t.others id = s.others id := by rw [others, hnodes, others]
  have hout : (fun n : Node => !n.isSide && (t.outgoing n.id).isEmpty) =
      fun n => !n.isSide && (s.outgoing n.id).isEmpty := by
    funext n
    rw [Bool.eq_iff_iff, Bool.and_eq_true, Bool.and_eq_true, outgoing_isEmpty, outgoing_isEmpty]
    exact and_congr_right fun _ => forall_congr' fun b => not_congr (hends (n.id, b))
  rw [sink?, hothers, hout, sink?]

/-- **How a node is inserted at a position depends only on the nodes and the ends.** -/
theorem insertion_ends_congr (hspot : spot ≠ .byTier) :
    (t.insertion x spot).Ends t id e ↔ (s.insertion x spot).Ends s id e := by
  have hjoins : ∀ a b, t.Joins a b ↔ s.Joins a b := fun a b => hends (a, b)
  cases spot with
  | byTier => exact absurd rfl hspot
  | first => simp only [insertion, insertionAtStart, entries_congr hnodes hends, Insertion.Ends, hends]
  | last => simp only [insertion, insertionAtEnd, sink?_congr hnodes hends, Insertion.Ends, hends]
  | between => simp only [insertion, Insertion.Ends, hends]
  | before ref =>
    simp only [insertion, insertionBefore, Insertion.Ends, mem_ends_incoming, mem_sources_incoming,
      hends, hjoins]
  | after ref =>
    simp only [insertion, insertionAfter]
    split_ifs
    · simp only [Insertion.Ends, hends]
    · simp only [Insertion.Ends, mem_ends_outgoing, mem_targets_outgoing, hends, hjoins]

end Congr

/-! ## Path nodes that are moved -/

/-- **What is cut for a path node is what leads past it**, unless it goes between two nodes. -/
theorem mem_or_past_iff (hs : s.WellFormed) (hpath : x.isSide = false) (hspot : spot ≠ .byTier)
    (hbetween : ∀ a b, spot ≠ .between a b) :
    (e ∈ s.ends ∧ e ∉ (s.insertion x spot).cut) ∨ (s.insertion x spot).Past e ↔ e ∈ s.ends := by
  have hne : e ∈ s.ends → e.1 ≠ e.2 := hs.source_ne_target
  cases spot with
  | byTier => exact absurd rfl hspot
  | between a b => exact absurd rfl (hbetween a b)
  | first => simp [insertion, insertionAtStart, Insertion.Past]
  | last => simp [insertion, insertionAtEnd, Insertion.Past]
  | before ref =>
    rw [insertion, insertionBefore, Insertion.Past, mem_ends_incoming, mem_sources_incoming,
      List.mem_singleton]
    constructor
    · rintro (⟨he, -⟩ | ⟨-, hjoin, rfl⟩)
      · exact he
      · exact hjoin
    · intro he
      by_cases href : e.2 = ref
      · subst href
        exact .inr ⟨hne he, he, rfl⟩
      · exact .inl ⟨he, fun h => href h.2⟩
  | after ref =>
    rw [insertion, insertionAfter, if_neg (by simp [hpath]), Insertion.Past, mem_ends_outgoing,
      mem_targets_outgoing, List.mem_singleton]
    constructor
    · rintro (⟨he, -⟩ | ⟨-, rfl, hjoin⟩)
      · exact he
      · exact hjoin
    · intro he
      by_cases href : e.1 = ref
      · subst href
        exact .inr ⟨hne he, rfl, he⟩
      · exact .inl ⟨he, fun h => href h.2⟩

theorem mem_cut_of_past_between (h : (insertionBetween a b).Past e) :
    e ∈ (insertionBetween a b).cut := by
  obtain ⟨-, ha, hb⟩ := h
  exact List.mem_pair.mpr (.inl (Prod.ext (List.mem_singleton.mp ha) (List.mem_singleton.mp hb)))

/-- **A path node that is moved to a position once more** goes where it is. -/
theorem move_again (hs : s.WellFormed) (hx : x ∈ s.nodes) (hpath : x.isSide = false)
    (hknown : spot.Known (s.lacking x)) (hspot : spot ≠ .byTier) (h : s.move x spot = .ok t) :
    ∃ u, t.move x spot = .ok u ∧ ∀ e, e ∈ u.ends ↔ e ∈ t.ends := by
  obtain ⟨t', ht', hnodes, -, ht, -, hends⟩ := exists_move hs hx hknown
  obtain rfl : t' = t := Except.ok.inj (ht'.symm.trans h)
  have hx' : x ∈ t'.nodes := hnodes ▸ hx
  have hlacking : (t'.lacking x).nodes = (s.lacking x).nodes := lacking_nodes_congr hnodes
  have hknown' : spot.Known (t'.lacking x) := hknown.mono (ids_congr hlacking ▸ List.Subset.refl _)
  obtain ⟨u, hu, -, -, -, -, hends'⟩ := exists_move ht hx' hknown'
  refine ⟨u, hu, fun e => ?_⟩
  -- What is there when the node is taken out again.
  have hout : ∀ e, e ∈ (t'.lacking x).ends ↔
      (e ∈ (s.lacking x).ends ∧ e ∉ ((s.lacking x).insertion x spot).cut) ∨
        ((s.lacking x).insertion x spot).Past e := fun e => by
    have hids : ∀ id ∈ t'.ids, id ∈ [x.id] ↔ id = x.id := fun _ _ => List.mem_singleton
    rw [lacking, removeAll,
      mem_ends_detached (hs.lacking.isolated notMem_ids_lacking) ht hends hx' hids,
      and_iff_right hpath]
  rw [hends', hends]
  by_cases hbetween : ∃ a b, spot = .between a b
  · obtain ⟨a, b, rfl⟩ := hbetween
    refine or_congr_left ?_
    rw [hout]
    constructor
    · rintro ⟨h | h, hcut⟩
      · exact h
      · exact absurd (mem_cut_of_past_between h) hcut
    · exact fun h => ⟨.inl h, h.2⟩
  · have hback : ∀ e, e ∈ (t'.lacking x).ends ↔ e ∈ (s.lacking x).ends := fun e => by
      rw [hout, mem_or_past_iff hs.lacking hpath hspot fun a b h => hbetween ⟨a, b, h⟩]
    exact insertion_ends_congr hlacking hback hspot

/-- **A path node that is moved to a position other than between two nodes** leaves all ways between
other nodes as they were, past its old place and past its new one. -/
theorem reaches_of_move (hs : s.WellFormed) (hx : x ∈ s.nodes) (hpath : x.isSide = false)
    (hknown : spot.Known (s.lacking x)) (hspot : spot ≠ .byTier)
    (hbetween : ∀ a b, spot ≠ .between a b) (h : s.move x spot = .ok t) (ha : a ≠ x.id)
    (hb : b ≠ x.id) (hab : s.Reaches a b) : t.Reaches a b := by
  obtain ⟨t', ht', -, -, -, -, hends⟩ := exists_move hs hx hknown
  obtain rfl : t' = t := Except.ok.inj (ht'.symm.trans h)
  have hlacking : (s.lacking x).Reaches a b := by
    have honly : ∀ n ∈ s.nodes, n.id ∈ [x.id] → n.isSide = false := fun n hn hid => by
      rwa [node_ext_of_nodup hs.ids_nodup hn hx (List.mem_singleton.mp hid)]
    refine (reaches_removeEach_iff hs honly (mt List.mem_singleton.mp ha)
      (mt List.mem_singleton.mp hb)).mpr (ReflTransGen.mono (fun p q hpq => ⟨hpq, ?_⟩) _ _ hab)
    -- No connection leads from the node to itself.
    by_contra hboth
    simp only [List.mem_singleton, not_or, not_not] at hboth
    exact hs.source_ne_target hpq (hboth.1.trans hboth.2.symm)
  refine reaches_of_insertion hends (fun e he hcut => ?_) hlacking
  exact ((mem_or_past_iff hs.lacking hpath hspot hbetween).mpr he).resolve_left fun h => h.2 hcut

end Spec

/-! ## Requests that are repeated -/

/-- The nodes that a hint needs to refer to are there. -/
def Hint.ResolvedIn (hint : Hint) (s : Spec) : Prop :=
  match hint.placement with
  | .start | .finish => True
  | .before | .after => ∃ ref, s.resolve? hint.reference = some ref
  | .between => (∃ ref, s.resolve? hint.reference = some ref) ∧
      ∃ second, s.resolve? hint.second = some second

theorem Hint.ResolvedIn.spotOf_ne_byTier {hint : Hint} {s : Spec} (h : hint.ResolvedIn s) :
    s.spotOf hint ≠ .byTier := by
  obtain ⟨placement, reference, second, span⟩ := hint
  cases placement with
  | start => exact Spot.noConfusion
  | finish => exact Spot.noConfusion
  | before =>
    obtain ⟨ref, href⟩ := h
    rw [Spec.spotOf, href, Spot.of_resolved]
    exact Spot.noConfusion
  | after =>
    obtain ⟨ref, href⟩ := h
    rw [Spec.spotOf, href, Spot.of_resolved]
    exact Spot.noConfusion
  | between =>
    obtain ⟨⟨ref, href⟩, node, hnode⟩ := h
    rw [Spec.spotOf, href, hnode, Spot.of_resolved]
    exact Spot.noConfusion

variable {store : Store} {prompt : String} {s : Spec} {hint : Hint} {intent : Option Intent}
  {change : Change}

/-- **A node that is moved on request.** The nodes and the zones stay. If a path node is moved to a
position that is there, then the same request moves it to where it is, and unless the position is
between two nodes, all ways between other nodes are kept. -/
theorem reposition_settles (hs : s.WellFormed)
    (h : reposition store prompt s hint intent = .ok (.done change)) :
    ∃ x t, s.toMove? prompt hint intent = some x ∧ change.spec = some t ∧ t.nodes = s.nodes ∧
      t.zones = s.zones ∧
      (x.isSide = false → hint.ResolvedIn s →
        (∃ u, (∀ e, e ∈ u.ends ↔ e ∈ t.ends) ∧
          (∀ store : Store, store.Typed →
            ∃ again, reposition store prompt t hint intent = .ok (.done again)) ∧
          ∀ store again, reposition store prompt t hint intent = .ok (.done again) →
            again.spec = some u) ∧
        (hint.placement ≠ .between → ∀ a b, a ≠ x.id → b ≠ x.id → s.Reaches a b → t.Reaches a b)) := by
  rw [reposition_eq] at h
  cases hx : s.toMove? prompt hint intent with
  | none =>
    rw [hx] at h
    cases h
  | some x =>
    rw [hx] at h
    obtain ⟨t, ht, hadvised⟩ := bind_eq_ok.mp h
    rw [Reading.ofBreach_eq_ok] at ht
    obtain ⟨_, -, rfl⟩ := advised_eq_done.mp hadvised
    have hmem := Spec.mem_of_toMove? hs hx
    have hknown := Spec.known_of_toMove? hs hx
    obtain ⟨t', ht', hnodes, hzones, -⟩ := Spec.exists_move hs hmem hknown
    obtain rfl : t' = t := Except.ok.inj (ht'.symm.trans ht)
    refine ⟨x, t', rfl, rfl, hnodes, hzones, fun hpath hresolved => ⟨?_, fun hplace a b ha hb => ?_⟩⟩
    · obtain ⟨u, hu, hends⟩ :=
        Spec.move_again hs hmem hpath hknown hresolved.spotOf_ne_byTier ht
      obtain ⟨hto, hspot⟩ := Spec.toMove?_congr hnodes prompt hint intent
      refine ⟨u, hends, fun store hstore => ?_, fun store again hagain => ?_⟩
      · rw [reposition_eq, hto, hx, hspot]
        dsimp only
        rw [hu]
        obtain ⟨again, hagain, -⟩ := Answered.exists_advised hstore t' u [x.type]
          { command := .modify, spec := u, confidence := confidenceBy intent
            modifications := t'.connectionChanges u }
        exact ⟨again, hagain⟩
      · rw [reposition_eq, hto, hx, hspot] at hagain
        dsimp only at hagain
        rw [hu] at hagain
        obtain ⟨_, -, rfl⟩ := advised_eq_done.mp hagain
        rfl
    · refine Spec.reaches_of_move hs hmem hpath hknown hresolved.spotOf_ne_byTier ?_ ht ha hb
      exact Spot.of_ne_between fun h hh => Option.some.inj hh ▸ hplace

/-- The web server of the row. -/
def rowWeb : Node := ⟨"web-1", .webServer, "", none, none, none⟩

/-- A position behind the application server. -/
def behindApp : Hint := ⟨.after, some "app-1", none, (0, 0)⟩

/-- A request to move the web server there. -/
def webBehindApp : Intent :=
  ⟨.modify, editConfidence, [{ type := .webServer }], some behindApp, none⟩

/-- The row with the web server behind the application server. -/
def serversTurned : Spec where
  nodes := serversInRow.nodes
  connections := [⟨"fw-1", "app-1", none, none, none⟩, ⟨"web-1", "db-1", none, none, none⟩,
    ⟨"app-1", "web-1", defaultFlow, none, none⟩]

theorem toMove?_serversInRow :
    serversInRow.toMove? "" behindApp (some webBehindApp) = some rowWeb := by
  decide +kernel

theorem reposition_serversInRow : ∃ change,
    reposition ⟨{}, [], [], [], []⟩ "" serversInRow behindApp (some webBehindApp) =
      .ok (.done change) ∧ change.spec = some serversTurned := by
  have hspot : serversInRow.spotOf behindApp = .after "app-1" := by decide +kernel
  have hmove : serversInRow.move rowWeb (.after "app-1") = .ok serversTurned := by decide +kernel
  rw [reposition_eq, toMove?_serversInRow, hspot]
  dsimp only
  rw [hmove]
  exact ⟨_, rfl, rfl⟩

theorem reposition_settles_serversInRow : serversInRow.WellFormed ∧ rowWeb.isSide = false ∧
    behindApp.ResolvedIn serversInRow ∧ behindApp.placement ≠ .between ∧
    ∃ change, reposition ⟨{}, [], [], [], []⟩ "" serversInRow behindApp (some webBehindApp) =
        .ok (.done change) ∧ change.spec = some serversTurned ∧
      (∃ u, (∀ e, e ∈ u.ends ↔ e ∈ serversTurned.ends) ∧
        ∀ store again, reposition store "" serversTurned behindApp (some webBehindApp) =
          .ok (.done again) → again.spec = some u) ∧
      ∀ a b, a ≠ "web-1" → b ≠ "web-1" → serversInRow.Reaches a b →
        serversTurned.Reaches a b := by
  have hs : serversInRow.WellFormed := by decide
  have hresolved : behindApp.ResolvedIn serversInRow :=
    ⟨⟨"app-1", .appServer, "", none, none, none⟩, by decide +kernel⟩
  obtain ⟨change, h, ht⟩ := reposition_serversInRow
  obtain ⟨x, t, hx, ht', -, -, hsettles⟩ := reposition_settles hs h
  obtain rfl : rowWeb = x := Option.some.inj (toMove?_serversInRow.symm.trans hx)
  obtain rfl : serversTurned = t := Option.some.inj (ht.symm.trans ht')
  obtain ⟨⟨u, hu, -, hagain⟩, hways⟩ := hsettles rfl hresolved
  exact ⟨hs, rfl, hresolved, by decide, change, h, ht, ⟨u, hu, hagain⟩, hways (by decide)⟩

end NetSketch
