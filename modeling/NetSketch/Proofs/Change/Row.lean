import NetSketch.Proofs.Change.Answer
import NetSketch.Proofs.Change.Enlargement

/-!
# Components in a row

Several components that are added at one position stand there in a row, in the order in which they
are wanted. Each is inserted for itself: behind the one before it, or, in front of a node, always
right in front of that node. Either way it takes over the connections on the far side, so that the
row grows at one end and its other end stays what it was joined to.

* `Spec.LeadsOnly`, `Spec.LedOnly`: the only connection from a node, the only one to it;
* `TakesOver`: what one insertion does; `Spec.takesOver_after`, `Spec.takesOver_before`;
* `Spec.Behind`, `Spec.Between`, `Spec.InFront`: rows; `Spec.Behind.cons`, `Spec.InFront.cons`: one
  more component; `Spec.behind_of_addEach`, `Spec.between_of_addEach`, `Spec.inFront_of_addEach`:
  all of them;
* **`add_stands_in_row`**.
-/

namespace NetSketch

/-! ## One insertion -/

/-- A new id takes over what an old one was related to, and the old one is related to it alone. -/
structure TakesOver (R S : String → String → Prop) (ref id : String) : Prop where
  only : ∀ b, S ref b ↔ b = id
  taken : ∀ b, S id b ↔ R ref b
  rest : ∀ a, a ≠ ref → a ≠ id → ∀ b, S a b ↔ R a b

theorem TakesOver.of_iff {R S : String → String → Prop} {ref id : String} (hne : ref ≠ id)
    (hid : ∀ b, ¬ R id b)
    (h : ∀ a b, S a b ↔ (R a b ∧ a ≠ ref) ∨ (a = ref ∧ b = id) ∨ (a = id ∧ R ref b)) :
    TakesOver R S ref id where
  only b := by simp [h, hne]
  taken b := by simp [h, hid, hne.symm]
  rest a href hid b := by simp [h, href, hid]

namespace Spec

variable {s t u : Spec} {n : Node} {a b id ref : String} {row : List String} {w : Wanted}
  {wanted : List Wanted} {steps : List Modification}

theorem takesOver_after (hs : s.WellFormed) (hid : n.id ∉ s.ids) (href : ref ∈ s.ids)
    (hpath : n.isSide = false)
    (hends : ∀ e, e ∈ u.ends ↔ (s.insertion n (.after ref)).Ends s n.id e) :
    TakesOver s.Joins u.Joins ref n.id := by
  refine .of_iff (fun h => hid (h ▸ href)) (fun b h => (hs.isolated hid _ h).1 rfl) fun a b => ?_
  rw [Joins, hends, insertion, insertionAfter, if_neg (by simp [hpath]), Insertion.Ends,
    mem_ends_outgoing, mem_targets_outgoing]
  refine or_congr ?_ (or_congr_left (and_congr_left fun _ => List.mem_singleton))
  exact and_congr_right fun he => not_congr (and_iff_right he)

theorem takesOver_before (hs : s.WellFormed) (hid : n.id ∉ s.ids) (href : ref ∈ s.ids)
    (hends : ∀ e, e ∈ u.ends ↔ (s.insertion n (.before ref)).Ends s n.id e) :
    TakesOver (flip s.Joins) (flip u.Joins) ref n.id := by
  refine .of_iff (fun h => hid (h ▸ href)) (fun a h => (hs.isolated hid _ h).2 rfl) fun b a => ?_
  rw [flip, Joins, hends, insertion, insertionBefore, Insertion.Ends, mem_ends_incoming,
    mem_sources_incoming]
  refine or_congr (and_congr_right fun he => not_congr (and_iff_right he)) ?_
  rw [or_comm, and_comm, List.mem_singleton]
  exact or_congr_right and_comm

/-! ## Rows -/

/-- The only connection from `a` leads to `b`. -/
def LeadsOnly (t : Spec) (a b : String) : Prop := (t.outgoing a).map (·.ends) = [(a, b)]

/-- The only connection to `b` comes from `a`. -/
def LedOnly (t : Spec) (a b : String) : Prop := (t.incoming b).map (·.ends) = [(a, b)]

theorem LeadsOnly.joins (h : t.LeadsOnly a b) : t.Joins a b :=
  (mem_ends_outgoing.mp (h ▸ List.mem_singleton_self _)).1

theorem eq_singleton_of_sublist {α : Type} [BEq α] [LawfulBEq α] {l m : List α} {x : α}
    (hsub : l.Sublist m) (hx : x ∈ l) (hall : ∀ y ∈ l, y = x) (hcount : m.count x ≤ 1) :
    l = [x] := by
  have hl := List.eq_replicate_of_mem hall
  have hpos := List.length_pos_of_mem hx
  have hle := hsub.count_le x
  rw [hl, List.count_replicate_self] at hle
  rw [hl, show l.length = 1 by omega, List.replicate_one]

theorem leadsOnly_of (h : ∀ c, t.Joins a c ↔ c = b) (hcount : t.ends.count (a, b) ≤ 1) :
    t.LeadsOnly a b := by
  refine eq_singleton_of_sublist (List.filter_sublist.map _) ?_ (fun e he => ?_) hcount
  · exact mem_ends_outgoing.mpr ⟨(h b).mpr rfl, rfl⟩
  · obtain ⟨hjoin, rfl⟩ := mem_ends_outgoing.mp he
    exact Prod.ext rfl ((h _).mp hjoin)

theorem ledOnly_of (h : ∀ c, t.Joins c b ↔ c = a) (hcount : t.ends.count (a, b) ≤ 1) :
    t.LedOnly a b := by
  refine eq_singleton_of_sublist (List.filter_sublist.map _) ?_ (fun e he => ?_) hcount
  · exact mem_ends_incoming.mpr ⟨(h a).mpr rfl, rfl⟩
  · obtain ⟨hjoin, rfl⟩ := mem_ends_incoming.mp he
    exact Prod.ext ((h _).mp hjoin) rfl

/-- A row behind a node: the node leads only to the first of the row, each of the row only to the
next one, and the last one to where the node led. -/
structure Behind (s t : Spec) (ref : String) (row : List String) : Prop where
  leads : (ref :: row).IsChain t.LeadsOnly
  leads_on : ∀ z ∈ (ref :: row).getLast?, ∀ b, t.Joins z b ↔ s.Joins ref b
  rest : ∀ a ∈ s.ids, a ≠ ref → ∀ b, t.Joins a b ↔ s.Joins a b

/-- A row in front of a node: the node is led to only from the last of the row, each of the row only
from the one before, and the first one from where the node was led to. -/
structure InFront (s t : Spec) (ref : String) (row : List String) : Prop where
  led : (row ++ [ref]).IsChain t.LedOnly
  led_to : ∀ z ∈ (row ++ [ref]).head?, ∀ a, t.Joins a z ↔ s.Joins a ref
  rest : ∀ b ∈ s.ids, b ≠ ref → ∀ a, t.Joins a b ↔ s.Joins a b

/-- A row between two nodes that are not joined past it. -/
structure Between (t : Spec) (a b : String) (row : List String) : Prop where
  linked : (a :: row ++ [b]).IsChain t.Joins
  apart : ¬ t.Joins a b ∧ ¬ t.Joins b a

theorem Behind.cons (hstep : TakesOver s.Joins u.Joins ref id) (hids : u.ids = s.ids ++ [id])
    (hid : id ∉ s.ids) (href : ref ∈ s.ids) (hcount : t.ends.count (ref, id) ≤ 1)
    (h : u.Behind t id row) : s.Behind t ref (id :: row) := by
  have hold : ∀ {a}, a ∈ s.ids → a ∈ u.ids ∧ a ≠ id := fun ha =>
    ⟨hids ▸ List.mem_append_left _ ha, fun h => hid (h ▸ ha)⟩
  refine ⟨List.isChain_cons_cons.mpr ⟨leadsOnly_of (fun c => ?_) hcount, h.leads⟩,
    fun z hz b => ?_, fun a ha hne b => ?_⟩
  · rw [h.rest ref (hold href).1 (hold href).2, hstep.only]
  · rw [List.getLast?_cons_cons] at hz
    rw [h.leads_on z hz, hstep.taken]
  · rw [h.rest a (hold ha).1 (hold ha).2, hstep.rest a hne (hold ha).2]

theorem InFront.cons (hstep : TakesOver (flip s.Joins) (flip u.Joins) ref id)
    (hids : u.ids = s.ids ++ [id]) (hid : id ∉ s.ids) (href : ref ∈ s.ids)
    (hcount : ∀ b, t.ends.count (id, b) ≤ 1) (h : u.InFront t ref row) :
    s.InFront t ref (id :: row) := by
  have hold : ∀ {b}, b ∈ s.ids → b ∈ u.ids ∧ b ≠ id := fun hb =>
    ⟨hids ▸ List.mem_append_left _ hb, fun h => hid (h ▸ hb)⟩
  have hmem : id ∈ u.ids := hids ▸ List.mem_append_right _ (List.mem_singleton_self id)
  refine ⟨List.isChain_cons.mpr ⟨fun z hz => ledOnly_of (fun c => ?_) (hcount z), h.led⟩,
    fun z hz a => ?_, fun b hb hne a => ?_⟩
  · exact (h.led_to z hz c).trans (hstep.only c)
  · obtain rfl : id = z := by simpa using hz
    exact (h.rest id hmem (hold href).2.symm a).trans (hstep.taken a)
  · exact (h.rest b (hold hb).1 hne a).trans (hstep.rest b hne (hold hb).2 a)

/-! ## Runs of insertions -/

/-- A new node has at most one connection to any id, and at most one from any. -/
theorem count_ends_of_addEach {inRow : Bool} {spot : Spot} (hs : s.WellFormed)
    (hspot : spot.Known s) (h : s.addEach inRow spot wanted = .ok (t, steps)) (hid : id ∉ s.ids) :
    t.ends.count (a, id) ≤ 1 ∧ t.ends.count (id, b) ≤ 1 := by
  have hadded := Added.of_addEach hs hspot h
  have hiso := hs.isolated hid
  have hin : s.ends.count (a, id) = 0 := List.count_eq_zero.mpr fun he => (hiso _ he).2 rfl
  have hout : s.ends.count (id, b) = 0 := List.count_eq_zero.mpr fun he => (hiso _ he).1 rfl
  exact ⟨hadded.count_ends (hin ▸ Nat.zero_le 1), hadded.count_ends (hout ▸ Nat.zero_le 1)⟩

/-- **Path nodes put behind a node stand in a row behind it.** -/
theorem behind_of_addEach (hs : s.WellFormed) (href : ref ∈ s.ids)
    (hpath : ∀ w ∈ wanted, w.type.isSide = false)
    (h : s.addEach true (.after ref) wanted = .ok (t, steps)) :
    ∃ new, t.nodes = s.nodes ++ new ∧ s.Behind t ref (new.map (·.id)) := by
  induction wanted generalizing s ref steps with
  | nil =>
    obtain rfl : s = t := congrArg Prod.fst (Except.ok.inj h)
    refine ⟨[], (List.append_nil _).symm, List.isChain_singleton _, fun z hz b => ?_,
      fun _ _ _ _ => Iff.rfl⟩
    obtain rfl : ref = z := Option.some.inj hz
    exact Iff.rfl
  | cons w wanted ih =>
    have hid := node_id_notMem s w
    have hknown : (Spot.after ref).Known s := href
    obtain ⟨u, rest, hu, hnodes, hends, hnext, hrest⟩ := exists_insertion_of_addEach hs hknown h
    -- The others stand behind the new node, which now leads where the old one led.
    obtain ⟨new, hnew, hbehind⟩ :=
      ih hu hnext (fun v hv => hpath v (List.mem_cons_of_mem _ hv)) hrest
    refine ⟨w.node s :: new, nodes_eq_cons hnodes hnew, ?_⟩
    have hids : u.ids = s.ids ++ [(w.node s).id] := (ids_congr hnodes).trans (ids_withNode _)
    exact hbehind.cons (takesOver_after hs hid href (hpath w List.mem_cons_self) hends) hids hid href
      (count_ends_of_addEach (b := ref) hs hknown h hid).1

/-- **Nodes put in front of a node stand in a row in front of it.** -/
theorem inFront_of_addEach (hs : s.WellFormed) (href : ref ∈ s.ids)
    (h : s.addEach false (.before ref) wanted = .ok (t, steps)) :
    ∃ new, t.nodes = s.nodes ++ new ∧ s.InFront t ref (new.map (·.id)) := by
  induction wanted generalizing s steps with
  | nil =>
    obtain rfl : s = t := congrArg Prod.fst (Except.ok.inj h)
    refine ⟨[], (List.append_nil _).symm, List.isChain_singleton _, fun z hz a => ?_,
      fun _ _ _ _ => Iff.rfl⟩
    obtain rfl : ref = z := Option.some.inj hz
    exact Iff.rfl
  | cons w wanted ih =>
    have hid := node_id_notMem s w
    have hknown : (Spot.before ref).Known s := href
    obtain ⟨u, rest, hu, hnodes, hends, hnext, hrest⟩ := exists_insertion_of_addEach hs hknown h
    -- The others go in front of the same node, and so behind the new one, its only source by now.
    obtain ⟨new, hnew, hfront⟩ := ih hu hnext hrest
    refine ⟨w.node s :: new, nodes_eq_cons hnodes hnew, ?_⟩
    have hids : u.ids = s.ids ++ [(w.node s).id] := (ids_congr hnodes).trans (ids_withNode _)
    exact hfront.cons (takesOver_before hs hid href hends) hids hid href
      fun b => (count_ends_of_addEach (a := ref) hs hknown h hid).2

theorem Behind.between (hu : ∀ e, e ∈ u.ends ↔ (insertionBetween a b).Ends s id e)
    (hids : u.ids = s.ids ++ [id]) (hid : id ∉ s.ids) (ha : a ∈ s.ids) (hb : b ∈ s.ids)
    (h : u.Behind t id row) : t.Between a b (id :: row) := by
  have hold : ∀ {c}, c ∈ s.ids → ∀ d, t.Joins c d ↔ u.Joins c d := fun hc =>
    h.rest _ (hids ▸ List.mem_append_left _ hc) fun he => hid (he ▸ hc)
  have hane : a ≠ id := fun he => hid (he ▸ ha)
  have hbne : b ≠ id := fun he => hid (he ▸ hb)
  refine ⟨List.isChain_append.mpr ⟨List.isChain_cons_cons.mpr ⟨?_, ?_⟩, List.isChain_singleton b,
    ?_⟩, ?_, ?_⟩
  · rw [hold ha, Joins, hu]
    exact .inr (.inl ⟨List.mem_singleton_self a, rfl⟩)
  · exact h.leads.imp fun _ _ => LeadsOnly.joins
  · intro z hz y hy
    obtain rfl : b = y := Option.some.inj hy
    rw [List.getLast?_cons_cons] at hz
    rw [h.leads_on z hz, Joins, hu]
    exact .inr (.inr ⟨rfl, List.mem_singleton_self b⟩)
  · rw [hold ha, Joins, hu]
    simp [Insertion.Ends, insertionBetween, hane, hbne]
  · rw [hold hb, Joins, hu]
    simp [Insertion.Ends, insertionBetween, hane, hbne]

/-- **Path nodes put between two nodes stand in a row between them.** -/
theorem between_of_addEach (hs : s.WellFormed) (ha : a ∈ s.ids) (hb : b ∈ s.ids)
    (hwanted : wanted ≠ []) (hpath : ∀ w ∈ wanted, w.type.isSide = false)
    (h : s.addEach true (.between a b) wanted = .ok (t, steps)) :
    ∃ new, t.nodes = s.nodes ++ new ∧ t.Between a b (new.map (·.id)) := by
  cases wanted with
  | nil => exact absurd rfl hwanted
  | cons w wanted =>
    have hid := node_id_notMem s w
    have hknown : (Spot.between a b).Known s := ⟨ha, hb⟩
    obtain ⟨u, rest, hu, hnodes, hends, hnext, hrest⟩ := exists_insertion_of_addEach hs hknown h
    -- Only the first one goes between the two, and the others behind it.
    obtain ⟨new, hnew, hbehind⟩ :=
      behind_of_addEach hu hnext (fun v hv => hpath v (List.mem_cons_of_mem _ hv)) hrest
    refine ⟨w.node s :: new, nodes_eq_cons hnodes hnew, ?_⟩
    have hids : u.ids = s.ids ++ [(w.node s).id] := (ids_congr hnodes).trans (ids_withNode _)
    exact hbehind.between hends hids hid ha hb

end Spec

variable {prompt : String} {s : Spec} {intent : Option Intent}

/-- What an addition gives does not depend on the store, and a store of typed signatures lets every
addition of something succeed. -/
theorem exists_added (hs : s.WellFormed) (hwanted : s.wantedFor prompt intent ≠ []) :
    ∃ t steps, s.addEach ((hintBy intent prompt).any (·.placement.inRow)) (s.spotFor prompt intent)
        (s.wantedFor prompt intent) = .ok (t, steps) ∧
      (∀ store : Store, store.Typed →
        ∃ change, add store prompt (some s) intent = .ok (.done change)) ∧
      ∀ store change, add store prompt (some s) intent = .ok (.done change) →
        change.spec = some t := by
  obtain ⟨t, steps, ht, -⟩ := Spec.addEach_added hs (s.spotFor_known prompt intent)
    ((hintBy intent prompt).any (·.placement.inRow)) (s.wantedFor prompt intent)
  refine ⟨t, steps, ht, fun store hstore => ?_, fun store change h => ?_⟩
  · obtain ⟨change, hchange, -⟩ := Answered.exists_advised hstore s t
      ((s.wantedFor prompt intent).map (·.type))
      { command := .add, spec := t, confidence := confidenceBy intent, modifications := steps }
    refine ⟨change, ?_⟩
    unfold add
    dsimp -zeta only
    extract_lets hint ref second asked wanted
    have hsome : ¬ wanted.isEmpty = true := mt List.isEmpty_iff.mp hwanted
    rw [if_neg hsome]
    change (Reading.ofBreach (s.addEach _ (s.spotFor prompt intent)
      (s.wantedFor prompt intent)) >>= _) = _
    rw [ht]
    exact hchange
  · obtain ⟨t', ht', -, hadd⟩ := add_wanted change h
    obtain rfl : t' = t := congrArg Prod.fst (Except.ok.inj (hadd.symm.trans ht))
    exact ht'

/-- **Components added at a position stand there in a row.** Path nodes put behind a node: it leads
only to the first one, they are linked in the order in which they are wanted, and the last one leads
to where the node led. Path nodes put between two nodes: they lead from the one to the other, and
nothing joins the two directly. Nodes put in front of a node: only the last one leads to it, they
are linked in order, and the first one is reached from where the node was reached. -/
theorem add_stands_in_row (hs : s.WellFormed) {hint : Hint} {r : Node}
    (hhint : hintBy intent prompt = some hint) (hr : s.resolve? hint.reference = some r)
    (hwanted : s.wantedFor prompt intent ≠ []) :
    ∃ t new,
      (∀ store : Store, store.Typed →
        ∃ change, add store prompt (some s) intent = .ok (.done change)) ∧
      (∀ store change, add store prompt (some s) intent = .ok (.done change) →
        change.spec = some t) ∧
      t.nodes = s.nodes ++ new ∧
      new.map (·.type) = (s.wantedFor prompt intent).map (·.type) ∧
      (hint.placement = .after → (∀ n ∈ new, n.isSide = false) →
        s.Behind t r.id (new.map (·.id))) ∧
      (hint.placement = .between → (∀ n ∈ new, n.isSide = false) →
        ∀ b, s.resolve? hint.second = some b → t.Between r.id b.id (new.map (·.id))) ∧
      (hint.placement = .before → s.InFront t r.id (new.map (·.id))) := by
  obtain ⟨t, steps, ht, hdone, hspec⟩ := exists_added hs hwanted
  obtain ⟨new, hnew, htypes⟩ :=
    (Spec.Added.of_addEach hs (s.spotFor_known prompt intent) ht).exists_nodes_eq
  have hpath : (∀ n ∈ new, n.isSide = false) →
      ∀ w ∈ s.wantedFor prompt intent, w.type.isSide = false := by
    intro hside w hw
    obtain ⟨n, hn, hnw⟩ := List.mem_map.mp (htypes ▸ List.mem_map_of_mem hw)
    exact hnw ▸ hside n hn
  have hrow : ∀ {new'}, t.nodes = s.nodes ++ new' → new' = new := fun h =>
    List.append_cancel_left (h.symm.trans hnew)
  have href := Spec.id_mem_ids (Spec.mem_of_resolve? hr)
  have hinRow : (hintBy intent prompt).any (·.placement.inRow) = hint.placement.inRow := by
    rw [hhint]
    rfl
  have hspot : s.spotFor prompt intent = Spot.of (some hint) (some r) (s.resolve? hint.second) := by
    rw [Spec.spotFor, hhint, ← hr]
    rfl
  rw [hinRow, hspot, Spot.of_resolved] at ht
  refine ⟨t, new, hdone, hspec, hnew, htypes, fun hafter hside => ?_,
    fun hbetween hside b hb => ?_, fun hbefore => ?_⟩
  · rw [hafter] at ht
    obtain ⟨new', hnew', hbehind⟩ := Spec.behind_of_addEach hs href (hpath hside) ht
    exact hrow hnew' ▸ hbehind
  · rw [hbetween, hb] at ht
    obtain ⟨new', hnew', hrowed⟩ := Spec.between_of_addEach hs href
      (Spec.id_mem_ids (Spec.mem_of_resolve? hb)) hwanted (hpath hside) ht
    exact hrow hnew' ▸ hrowed
  · rw [hbefore] at ht
    obtain ⟨new', hnew', hfront⟩ := Spec.inFront_of_addEach hs href ht
    exact hrow hnew' ▸ hfront

theorem add_stands_in_row_guarded : guarded.WellFormed ∧
    hintBy (some filtersBehind) "" = some ⟨.after, some "fw-1", none, (0, 0)⟩ ∧
    guarded.resolve? (some "fw-1") = some ⟨"fw-1", .firewall, "Firewall", none, none, none⟩ ∧
    guarded.wantedFor "" (some filtersBehind) ≠ [] ∧
    ∃ change, add ⟨{}, [], [], [], []⟩ "" (some guarded) (some filtersBehind) =
        .ok (.done change) ∧ change.spec = some guardedTwice ∧
      guarded.Behind guardedTwice "fw-1" ["waf-1", "ids-ips-1"] := by
  have hs : guarded.WellFormed := by decide
  have hhint : hintBy (some filtersBehind) "" = some ⟨.after, some "fw-1", none, (0, 0)⟩ := rfl
  have hr : guarded.resolve? (some "fw-1") =
      some ⟨"fw-1", .firewall, "Firewall", none, none, none⟩ := by decide +kernel
  have hwanted : guarded.wantedFor "" (some filtersBehind) ≠ [] := by decide
  obtain ⟨change, h, ht⟩ := add_filtersBehind
  obtain ⟨t, new, -, hspec, hnodes, -, hafter, -⟩ := add_stands_in_row hs hhint hr hwanted
  obtain rfl : guardedTwice = t := Option.some.inj (ht.symm.trans (hspec _ _ h))
  obtain rfl := List.append_cancel_left hnodes
  exact ⟨hs, hhint, hr, hwanted, change, h, ht, hafter rfl (by decide)⟩

end NetSketch
