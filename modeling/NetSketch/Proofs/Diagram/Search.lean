import Mathlib.Data.Finset.Card
import Mathlib.Data.List.Chain
import NetSketch.Proofs.Diagram.Spreading

/-!
# Searches in any order

A search past no guard need not go in rounds. What is still to be looked at may stand in one queue,
and the neighbours of each node may be gone through in any order; the first unseen target ends the
search, whether it is a guard or not. Every step takes an id out of the queue, and only ids that
were unseen are put there, so the search ends. What holds before each round holds before each step
too, so it finds the same.

* `View.Order`, `View.lookThrough`, `View.search`, `View.unguardedPathIn`: searches in any order;
* `View.Explored.see`, `View.Explored.leave`: what a step keeps; **`View.Explored.search_iff`**;
* **`View.unguardedPathIn_eq`**: the order does not matter;
* `PastGuards`, **`View.unguardedPath_of_iff`**: what is found in nodes and connections.
-/

namespace NetSketch

namespace View

/-! ## Searches -/

/-- An order in which the neighbours of every node are gone through. -/
structure Order (v : View) where
  next : String → List String
  mem_next : ∀ {a b}, b ∈ next a ↔ b ∈ v.neighbours a

instance (v : View) : Inhabited v.Order := ⟨⟨v.neighbours, Iff.rfl⟩⟩

variable {v : View} {order : v.Order} {orders : String → v.Order}
  {sources targets guards : List Component} {queue queue' seen seen' rest : List String}
  {start a b : String}

/-- The queue with one more id; a guard is not put there. -/
def queued (v : View) (guards : List Component) (queue : List String) (b : String) : List String :=
  if v.isOf guards b then queue else queue ++ [b]

/-- The queue and what is seen when some neighbours have been looked at, one after the other; none
if an unseen one of them is a target. -/
def lookThrough (v : View) (targets guards : List Component) :
    List String → List String → List String → Option (List String × List String)
  | [], queue, seen => some (queue, seen)
  | b :: rest, queue, seen =>
    if seen.contains b then lookThrough v targets guards rest queue seen
    else if v.isOf targets b then none
    else lookThrough v targets guards rest (v.queued guards queue b) (seen ++ [b])

/-- The ids that some node lists. -/
def listed (v : View) : List String := v.nodes.flatMap fun n => n.connectedTo ++ n.connectedFrom

/-- How many listed ids are unseen. -/
def unseen (v : View) (seen : List String) : Nat := (v.listed.toFinset \ seen.toFinset).card

theorem mem_listed (h : b ∈ v.neighbours a) : b ∈ v.listed := by
  rw [neighbours] at h
  cases hn : v.node? a with
  | none => simp [hn] at h
  | some n =>
    rw [hn] at h
    exact List.mem_flatMap.mpr ⟨n, List.mem_of_find?_eq_some hn, h⟩

theorem unseen_snoc_lt (hb : b ∈ v.listed) (hnew : b ∉ seen) :
    v.unseen (seen ++ [b]) < v.unseen seen := by
  refine Finset.card_lt_card ((Finset.ssubset_iff_of_subset ?_).mpr ⟨b, ?_, ?_⟩)
  · intro x
    simp +contextual
  · simp [hb, hnew]
  · simp

theorem length_add_unseen_le (hrest : ∀ b ∈ rest, b ∈ v.listed)
    (h : v.lookThrough targets guards rest queue seen = some (queue', seen')) :
    queue'.length + v.unseen seen' ≤ queue.length + v.unseen seen := by
  induction rest generalizing queue seen with
  | nil =>
    obtain ⟨rfl, rfl⟩ := Prod.mk.inj (Option.some.inj h)
    exact le_rfl
  | cons b rest ih =>
    obtain ⟨hb, hrest⟩ := List.forall_mem_cons.mp hrest
    rw [lookThrough] at h
    split_ifs at h with hseen
    · exact ih hrest h
    · have hle := ih hrest h
      have hlt := unseen_snoc_lt hb (mt List.contains_iff_mem.mpr hseen)
      have hqueue : (v.queued guards queue b).length ≤ queue.length + 1 := by
        unfold queued
        split_ifs <;> simp
      omega

/-- **A search in some order** from a queue on: whether a target is found. -/
def search (order : v.Order) (targets guards : List Component) : List String → List String → Bool
  | [], _ => false
  | a :: queue, seen =>
    match _h : v.lookThrough targets guards (order.next a) queue seen with
    | none => true
    | some (queue, seen) => search order targets guards queue seen
termination_by queue seen => queue.length + v.unseen seen
decreasing_by
  have := length_add_unseen_le (fun b hb => mem_listed (order.mem_next.mp hb)) _h
  simp only [List.length_cons]
  omega

/-- Whether some node of the first types reaches one of the second without passing a guard, by a
search from each in an order of its own. -/
def unguardedPathIn (orders : String → v.Order) (sources targets guards : List Component) : Bool :=
  (v.nodesOfTypes sources).any fun n => search (orders n.id) targets guards [n.id] [n.id]

/-! ## Steps -/

theorem mem_cons_queued {c : String} : c ∈ a :: v.queued guards queue b ↔
    c ∈ a :: queue ∨ c = b ∧ ¬ v.isOf guards b = true := by
  unfold queued
  split_ifs with h <;> simp [h, or_assoc]

namespace Explored

/-- An unseen neighbour of the first in the queue is seen. -/
theorem see (h : v.Explored guards start (a :: queue) seen) (hv : v.Closed)
    (hb : b ∈ v.neighbours a) (hnew : b ∉ seen) :
    v.Explored guards start (a :: v.queued guards queue b) (seen ++ [b]) where
  nodup := by
    refine List.nodup_append.mpr ⟨h.nodup, List.nodup_singleton b, ?_⟩
    rintro c hc d hd rfl
    exact hnew (List.mem_singleton.mp hd ▸ hc)
  known c hc := by
    rcases List.mem_append.mp hc with hc | hc
    · exact h.known c hc
    · exact List.mem_singleton.mp hc ▸ hv a b hb
  start_mem := List.mem_append_left _ h.start_mem
  reached c hc := by
    rcases List.mem_append.mp hc with hc | hc
    · exact h.reached c hc
    · obtain ⟨hseen, hpass⟩ := h.frontier_sub a List.mem_cons_self
      exact List.mem_singleton.mp hc ▸ (h.reached a hseen).tail ⟨hb, hpass⟩
  frontier_sub c hc := by
    rcases mem_cons_queued.mp hc with hc | ⟨rfl, hguard⟩
    · exact (h.frontier_sub c hc).imp_left (List.mem_append_left _)
    · exact ⟨List.mem_append_right _ (List.mem_singleton_self c), Or.inr hguard⟩
  closed c hc hpass hnot d hd := by
    rw [mem_cons_queued, not_or] at hnot
    rcases List.mem_append.mp hc with hc | hc
    · exact List.mem_append_left _ (h.closed c hc hpass hnot.1 d hd)
    · -- What was unseen is not the start, so it is a guard or in the queue.
      obtain rfl := List.mem_singleton.mp hc
      have hne : c ≠ start := fun e => hnew (e ▸ h.start_mem)
      exact absurd ⟨rfl, hpass.resolve_left hne⟩ hnot.2

/-- The first in the queue is left when all its neighbours are seen. -/
theorem leave (h : v.Explored guards start (a :: queue) seen)
    (hall : ∀ b ∈ v.neighbours a, b ∈ seen) : v.Explored guards start queue seen where
  nodup := h.nodup
  known := h.known
  start_mem := h.start_mem
  reached := h.reached
  frontier_sub c hc := h.frontier_sub c (List.mem_cons_of_mem _ hc)
  closed c hc hpass hnot := by
    by_cases hca : c = a
    · exact hca ▸ hall
    · exact h.closed c hc hpass (by simp [hca, hnot])

end Explored

/-- No target is seen, unless it is the start. -/
def Missed (v : View) (targets : List Component) (start : String) (seen : List String) : Prop :=
  ∀ a ∈ seen, a ≠ start → ¬ v.isOf targets a = true

/-- A target other than the start is reached. -/
def Finds (v : View) (targets guards : List Component) (start : String) : Prop :=
  ∃ b, v.isOf targets b = true ∧ b ≠ start ∧ v.Reaches guards start b

namespace Explored

theorem finds_of_lookThrough (h : v.Explored guards start (a :: queue) seen) (hv : v.Closed)
    (hrest : ∀ b ∈ rest, b ∈ v.neighbours a)
    (hnone : v.lookThrough targets guards rest queue seen = none) :
    v.Finds targets guards start := by
  induction rest generalizing queue seen with
  | nil => cases hnone
  | cons b rest ih =>
    obtain ⟨hb, hrest⟩ := List.forall_mem_cons.mp hrest
    rw [lookThrough] at hnone
    split_ifs at hnone with hseen htarget
    · exact ih h hrest hnone
    · obtain ⟨ha, hpass⟩ := h.frontier_sub a List.mem_cons_self
      refine ⟨b, htarget, ?_, (h.reached a ha).tail ⟨hb, hpass⟩⟩
      rintro rfl
      exact hseen (List.contains_iff_mem.mpr h.start_mem)
    · exact ih (h.see hv hb (mt List.contains_iff_mem.mpr hseen)) hrest hnone

theorem of_lookThrough (h : v.Explored guards start (a :: queue) seen) (hv : v.Closed)
    (hmissed : v.Missed targets start seen) (hrest : ∀ b ∈ rest, b ∈ v.neighbours a)
    (hsome : v.lookThrough targets guards rest queue seen = some (queue', seen')) :
    v.Explored guards start (a :: queue') seen' ∧ v.Missed targets start seen' ∧
      (∀ b ∈ rest, b ∈ seen') ∧ ∀ b ∈ seen, b ∈ seen' := by
  induction rest generalizing queue seen with
  | nil =>
    obtain ⟨rfl, rfl⟩ := Prod.mk.inj (Option.some.inj hsome)
    exact ⟨h, hmissed, nofun, fun _ hb => hb⟩
  | cons b rest ih =>
    obtain ⟨hb, hrest⟩ := List.forall_mem_cons.mp hrest
    rw [lookThrough] at hsome
    split_ifs at hsome with hseen htarget
    · obtain ⟨h', hmissed', hall, hold⟩ := ih h hmissed hrest hsome
      exact ⟨h', hmissed', List.forall_mem_cons.mpr
        ⟨hold b (List.contains_iff_mem.mp hseen), hall⟩, hold⟩
    · have hmissed : v.Missed targets start (seen ++ [b]) := by
        intro c hc hne
        rcases List.mem_append.mp hc with hc | hc
        · exact hmissed c hc hne
        · exact List.mem_singleton.mp hc ▸ htarget
      obtain ⟨h', hmissed', hall, hold⟩ :=
        ih (h.see hv hb (mt List.contains_iff_mem.mpr hseen)) hmissed hrest hsome
      rw [List.forall_mem_append] at hold
      exact ⟨h', hmissed', List.forall_mem_cons.mpr ⟨hold.2 b (List.mem_singleton_self b), hall⟩,
        hold.1⟩

/-- **A search finds what is reached**, from whatever has been explored on. -/
theorem search_iff (h : v.Explored guards start queue seen) (hv : v.Closed)
    (hmissed : v.Missed targets start seen) :
    search order targets guards queue seen = true ↔ v.Finds targets guards start := by
  induction queue, seen using search.induct order targets guards with
  | case1 seen =>
    rw [search]
    refine iff_of_false Bool.false_ne_true ?_
    rintro ⟨b, htarget, hne, hreach⟩
    exact hmissed b ((h.mem_iff_of_fresh_eq_nil rfl).mpr hreach) hne htarget
  | case2 seen a queue hnone =>
    have hfinds := h.finds_of_lookThrough hv (fun b hb => order.mem_next.mp hb) hnone
    refine iff_of_true ?_ hfinds
    rw [search]
    split
    · rfl
    · rename_i hsome
      cases hnone.symm.trans hsome
  | case3 seen a queue queue' seen' hsome ih =>
    obtain ⟨h', hmissed', hall, -⟩ :=
      h.of_lookThrough hv hmissed (fun b hb => order.mem_next.mp hb) hsome
    have hleave := h'.leave fun b hb => hall b (order.mem_next.mpr hb)
    rw [← ih hleave hmissed', search]
    split
    · rename_i hnone
      cases hnone.symm.trans hsome
    · rename_i hsome'
      obtain ⟨rfl, rfl⟩ := Prod.mk.inj (Option.some.inj (hsome.symm.trans hsome'))
      rfl

end Explored

/-- **The order does not matter**: searches in any order find what those in rounds do. -/
theorem unguardedPathIn_eq (hv : v.Closed) :
    v.unguardedPathIn orders sources targets guards = v.unguardedPath sources targets guards := by
  rw [Bool.eq_iff_iff, unguardedPathIn, unguardedPath, List.any_eq_true, List.any_eq_true]
  refine exists_congr fun n => and_congr_right fun hn => ?_
  have hid : n.id ∈ v.ids := List.mem_map_of_mem (List.mem_filter.mp hn).1
  have hfirst : v.Missed targets n.id [n.id] := fun a ha hne =>
    absurd (List.mem_singleton.mp ha) hne
  rw [(Explored.first hid).search_iff hv hfirst, List.any_eq_true]
  simp only [mem_reached hv hid, Finds]
  exact exists_congr fun b => by tauto

end View

/-! ## Paths in nodes and connections -/

/-- The node of an id, of several the last one, is of one of some types. -/
def ShownAs (nodes : List Node) (types : List Component) (id : String) : Prop :=
  ∃ n, nodes.reverse.find? (·.id == id) = some n ∧ n.type ∈ types

/-- Two ids of nodes are joined by a connection, whichever way it runs. -/
def JoinedIn (nodes : List Node) (connections : List Connection) (a b : String) : Prop :=
  a ∈ nodes.map (·.id) ∧ b ∈ nodes.map (·.id) ∧
    ∃ c ∈ connections, c.ends = (a, b) ∨ c.ends = (b, a)

/-- **A path from a node of the first types to another node of the second ones** along joined nodes
of which none in between is a guard. -/
structure PastGuards (nodes : List Node) (connections : List Connection)
    (sources targets guards : List Component) (start : String) (between : List String)
    (stop : String) : Prop where
  source : ShownAs nodes sources start
  target : ShownAs nodes targets stop
  ne : stop ≠ start
  joined : (start :: between ++ [stop]).IsChain (JoinedIn nodes connections)
  unguarded : ∀ id ∈ between, ¬ ShownAs nodes guards id

theorem wayPast_iff_exists_isChain {joined : String → String → Prop} {guard : String → Prop}
    {start stop : String} (hne : stop ≠ start) : WayPast joined guard start stop ↔
      ∃ between, (start :: between ++ [stop]).IsChain joined ∧ ∀ id ∈ between, ¬ guard id := by
  constructor
  · intro h
    induction h with
    | refl => exact absurd rfl hne
    | @tail b stop _ hstep ih =>
      by_cases hb : b = start
      · exact ⟨[], by simpa [hb] using hstep.1, nofun⟩
      · -- Where a way comes back to its start, what lies before is left out.
        obtain ⟨between, hchain, hguard⟩ := ih hb
        refine ⟨between ++ [b], ?_, ?_⟩
        · have := List.isChain_append_cons_cons.mpr ⟨hchain, hstep.1, .singleton stop⟩
          simpa using this
        · rw [List.forall_mem_append]
          exact ⟨hguard, by simpa using hstep.2.resolve_left hb⟩
  · rintro ⟨between, hchain, hguard⟩
    clear hne
    induction between using List.reverseRecOn generalizing stop with
    | nil => exact .single ⟨by simpa using hchain, Or.inl rfl⟩
    | append_singleton between b ih =>
      rw [List.forall_mem_append] at hguard
      have hsplit : ((start :: between) ++ b :: stop :: []).IsChain joined := by
        simpa using hchain
      obtain ⟨hfront, hlast, -⟩ := List.isChain_append_cons_cons.mp hsplit
      exact (ih hfront hguard.1).tail ⟨hlast, Or.inr (hguard.2 b (List.mem_singleton_self b))⟩

namespace View

variable {nodes : List Node} {connections : List Connection}

theorem exists_link_iff {a b : String} :
    (∃ link ∈ (of nodes connections).links, link.source = a ∧ link.target = b) ↔
      a ∈ nodes.map (·.id) ∧ b ∈ nodes.map (·.id) ∧ ∃ c ∈ connections, c.ends = (a, b) := by
  have hfound : ∀ {id n}, nodes.reverse.find? (·.id == id) = some n →
      n.id = id ∧ id ∈ nodes.map (·.id) := by
    intro id n hn
    have hid : n.id = id := by simpa using List.find?_some hn
    exact ⟨hid, hid ▸ List.mem_map_of_mem (List.mem_reverse.mp (List.mem_of_find?_eq_some hn))⟩
  have hknown : ∀ {id}, id ∈ nodes.map (·.id) →
      ∃ n, nodes.reverse.find? (·.id == id) = some n := by
    intro id hid
    rw [← Option.isSome_iff_exists, List.find?_isSome]
    simpa using hid
  constructor
  · rintro ⟨link, hlink, rfl, rfl⟩
    obtain ⟨c, hc, m, n, hm, hn, rfl⟩ := mem_links_of.mp hlink
    obtain ⟨hms, hsource⟩ := hfound hm
    obtain ⟨hnt, htarget⟩ := hfound hn
    exact ⟨hms ▸ hsource, hnt ▸ htarget, c, hc, Prod.ext hms.symm hnt.symm⟩
  · rintro ⟨ha, hb, c, hc, hends⟩
    obtain ⟨rfl, rfl⟩ := Prod.mk.inj hends
    obtain ⟨m, hm⟩ := hknown ha
    obtain ⟨n, hn⟩ := hknown hb
    exact ⟨_, mem_links_of.mpr ⟨c, hc, m, n, hm, hn, rfl⟩, (hfound hm).1, (hfound hn).1⟩

theorem mem_neighbours_iff_joinedIn {a b : String} :
    b ∈ (of nodes connections).neighbours a ↔ JoinedIn nodes connections a b := by
  simp only [mem_neighbours_of, and_or_left, exists_or, exists_link_iff, JoinedIn]
  exact or_congr_right and_left_comm

/-- **What an unguarded path is.** The view of any nodes and connections has one exactly if a path
leads past all guards, and searches find it in whatever order they go through neighbours. -/
theorem unguardedPath_of_iff (nodes : List Node) (connections : List Connection)
    (sources targets guards : List Component) :
    ((of nodes connections).unguardedPath sources targets guards = true ↔
        ∃ start between stop,
          PastGuards nodes connections sources targets guards start between stop) ∧
      ∀ orders : String → (of nodes connections).Order,
        (of nodes connections).unguardedPathIn orders sources targets guards =
          (of nodes connections).unguardedPath sources targets guards := by
  have hclosed : (of nodes connections).Closed := fun _ _ => mem_ids_of_mem_neighbours
  refine ⟨?_, fun orders => unguardedPathIn_eq hclosed⟩
  have hguard : ∀ id, (of nodes connections).isOf guards id = true ↔ ShownAs nodes guards id :=
    fun _ => isOf_of
  have hreach : ∀ a b, (of nodes connections).Reaches guards a b ↔
      WayPast (JoinedIn nodes connections) (ShownAs nodes guards) a b := by
    intro a b
    rw [Reaches]
    simp only [mem_neighbours_iff_joinedIn, hguard]
  rw [unguardedPath_iff nodup_ids hclosed]
  constructor
  · rintro ⟨start, stop, hsource, htarget, hne, hway⟩
    obtain ⟨between, hjoined, hunguarded⟩ :=
      (wayPast_iff_exists_isChain hne).mp ((hreach _ _).mp hway)
    exact ⟨start, between, stop, isOf_of.mp hsource, isOf_of.mp htarget, hne, hjoined, hunguarded⟩
  · rintro ⟨start, between, stop, h⟩
    exact ⟨start, stop, isOf_of.mpr h.source, isOf_of.mpr h.target, h.ne,
      (hreach _ _).mpr ((wayPast_iff_exists_isChain h.ne).mpr ⟨between, h.joined, h.unguarded⟩)⟩

end View

end NetSketch
