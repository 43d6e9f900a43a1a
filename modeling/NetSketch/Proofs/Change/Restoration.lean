import NetSketch.Proofs.Change.Placement
import NetSketch.Proofs.Change.Reachability
import NetSketch.Proofs.Diagram.Inward

/-!
# Additions that are taken back

A component is added and just its node is removed again. The nodes are then the old ones. Of the
connections those are missing that were cut for the node, and if it was a path node, what led to it
now leads to whatever it led to.

* `RemovesOne`: the removal of a single node; `Spec.mem_ends_detached`: what is joined after a node
  that was inserted is removed;
* `AddsOne.nodes_restored`, **`AddsOne.mem_ends_restored`**: what is there afterwards;
* **`AddsOne.restored_byTier`**: the same for a path node put by its tier;
* **`AddsOne.reaches_restored_iff`**: when all that was reached is reached again.
-/

open Relation (ReflTransGen)

namespace NetSketch

/-- What leads to a node is led past it, to whatever the node leads to. -/
def Insertion.Past (w : Insertion) (e : String × String) : Prop :=
  e.1 ≠ e.2 ∧ e.1 ∈ w.sources ∧ e.2 ∈ w.targets

variable {prompt : String} {intent : Option Intent} {s t u : Spec} {x : Node} {e : String × String}

/-! ## Removals of one node -/

/-- A prompt or an intent removes a single node. -/
structure RemovesOne (t : Spec) (x : Node) (u : Spec) : Prop where
  followed : ∃ store prompt intent c,
    remove store prompt (some t) intent = .ok (.done c) ∧ c.spec = some u
  mem_ids : ∀ id, id ∈ u.ids ↔ id ∈ t.ids ∧ id ≠ x.id

theorem Spec.mem_ids_of_last (h : t.ids = u.ids ++ [x.id]) (hx : x.id ∉ u.ids) (id : String) :
    id ∈ u.ids ↔ id ∈ t.ids ∧ id ≠ x.id := by
  rw [h, List.mem_append, List.mem_singleton]
  constructor
  · intro hid
    exact ⟨Or.inl hid, fun e => hx (e ▸ hid)⟩
  · rintro ⟨hid | hid, hne⟩
    · exact hid
    · exact absurd hid hne

namespace RemovesOne

theorem exists_removeEach (h : RemovesOne t x u) :
    ∃ ids, u = (Spec.removeEach ids t ids).1 ∧ ∀ id ∈ t.ids, id ∈ ids ↔ id = x.id := by
  obtain ⟨store, prompt, intent, c, hc, hu⟩ := h.followed
  obtain ⟨u', hu', ids, hrem⟩ := remove_followed c hc
  obtain rfl : u' = u := Option.some.inj (hu'.symm.trans hu)
  obtain rfl : (Spec.removeEach ids t ids).1 = u' := congrArg Prod.fst hrem
  refine ⟨ids, rfl, fun id hid => ?_⟩
  have hkept := Spec.mem_ids_removeEach.symm.trans (h.mem_ids id)
  rw [and_congr_right_iff] at hkept
  exact not_iff_not.mp (hkept hid)

theorem nodes_eq (h : RemovesOne t x u) : u.nodes = t.nodes.filter (·.id != x.id) := by
  obtain ⟨ids, rfl, hids⟩ := h.exists_removeEach
  rw [Spec.removeEach_nodes]
  refine List.filter_congr fun n hn => ?_
  have := hids n.id (Spec.id_mem_ids hn)
  by_cases hnx : n.id = x.id <;> simp_all

end RemovesOne

theorem Spec.mem_ends_removeEach_one {ids : List String} (ht : t.WellFormed) (hx : x ∈ t.nodes)
    (hids : ∀ id ∈ t.ids, id ∈ ids ↔ id = x.id) :
    e ∈ (Spec.removeEach ids t ids).1.ends ↔ (e ∈ t.ends ∧ e.1 ≠ x.id ∧ e.2 ≠ x.id) ∨
      (x.isSide = false ∧ e.1 ≠ e.2 ∧ t.Joins e.1 x.id ∧ t.Joins x.id e.2) := by
  rw [Spec.mem_ends_removeEach ht (List.Subset.refl ids)]
  refine or_congr ?_ ?_
  · refine and_congr_right fun he => ?_
    rw [hids _ (ht.ends_mem_ids he).1, hids _ (ht.ends_mem_ids he).2]
  · constructor
    · rintro ⟨m, hm, hmid, hb⟩
      have hmx := (hids m.id (Spec.id_mem_ids hm)).mp hmid
      obtain rfl := Spec.node_ext_of_nodup ht.ids_nodup hm hx hmx
      exact ⟨hb.isPath, hb.ne, hb.joins_node, hb.node_joins⟩
    · rintro ⟨hpath, hne, hin, hout⟩
      refine ⟨x, hx, (hids x.id (Spec.id_mem_ids hx)).mpr rfl, hpath, ?_, ?_, hne, hin, hout⟩
      · exact mt (hids _ (ht.ends_mem_ids hin).1).mp (ht.source_ne_target hin)
      · exact mt (hids _ (ht.ends_mem_ids hout).2).mp (ht.source_ne_target hout).symm

/-! ## A node inserted and removed -/

namespace Spec

section Inserted

variable {w : Insertion} {id a b : String} (hiso : s.Isolated id) (ht : t.WellFormed)
  (hends : ∀ e, e ∈ t.ends ↔ w.Ends s id e)
include hiso ht hends

theorem joins_inserted_iff : t.Joins a id ↔ a ∈ w.sources := by
  constructor
  · intro h
    rcases (hends _).mp h with ⟨he, -⟩ | ⟨ha, -⟩ | ⟨ha, -⟩
    · exact absurd rfl (hiso _ he).2
    · exact ha
    · exact absurd ha (ht.source_ne_target h)
  · intro h
    exact (hends _).mpr (Or.inr (Or.inl ⟨h, rfl⟩))

theorem inserted_joins_iff : t.Joins id b ↔ b ∈ w.targets := by
  constructor
  · intro h
    rcases (hends _).mp h with ⟨he, -⟩ | ⟨-, hb⟩ | ⟨-, hb⟩
    · exact absurd rfl (hiso _ he).1
    · exact absurd hb.symm (ht.source_ne_target h)
    · exact hb
  · intro h
    exact (hends _).mpr (Or.inr (Or.inr ⟨rfl, h⟩))

end Inserted

/-- **The ends after a node is inserted and just this node removed**: the old ones that were not cut,
and if it is a path node, those that lead past it. -/
theorem mem_ends_detached {w : Insertion} {ids : List String} (hiso : s.Isolated x.id)
    (ht : t.WellFormed) (hends : ∀ e, e ∈ t.ends ↔ w.Ends s x.id e) (hx : x ∈ t.nodes)
    (hids : ∀ id ∈ t.ids, id ∈ ids ↔ id = x.id) :
    e ∈ (removeEach ids t ids).1.ends ↔
      (e ∈ s.ends ∧ e ∉ w.cut) ∨ (x.isSide = false ∧ w.Past e) := by
  rw [mem_ends_removeEach_one ht hx hids, joins_inserted_iff hiso ht hends,
    inserted_joins_iff hiso ht hends]
  refine or_congr_left ?_
  constructor
  · rintro ⟨he, h₁, h₂⟩
    rcases (hends _).mp he with h | ⟨-, h⟩ | ⟨h, -⟩
    · exact h
    · exact absurd h h₂
    · exact absurd h h₁
  · rintro ⟨he, hcut⟩
    exact ⟨(hends _).mpr (Or.inl ⟨he, hcut⟩), hiso e he⟩

end Spec

namespace AddsOne

theorem nodes_restored (hadd : AddsOne prompt intent s x t) (hs : s.WellFormed)
    (hrem : RemovesOne t x u) : u.nodes = s.nodes := by
  have hid := hadd.notMem_ids hs
  rw [hrem.nodes_eq, hadd.nodes_eq, List.filter_append, List.filter_eq_self.mpr]
  · simp
  · intro n hn
    have : n.id ≠ x.id := fun h => hid (h ▸ Spec.id_mem_ids hn)
    simpa using this

/-- **The ends after a component is added and its node removed**: the old ones that were not cut,
and if it was a path node, those that lead past it. -/
theorem mem_ends_restored (hadd : AddsOne prompt intent s x t) (hs : s.WellFormed)
    (hrem : RemovesOne t x u) :
    e ∈ u.ends ↔ (e ∈ s.ends ∧ e ∉ (s.insertion x (s.spotFor prompt intent)).cut) ∨
      (x.isSide = false ∧ (s.insertion x (s.spotFor prompt intent)).Past e) := by
  have hx : x ∈ t.nodes := by simp [hadd.nodes_eq]
  obtain ⟨ids, rfl, hids⟩ := hrem.exists_removeEach
  exact Spec.mem_ends_detached (hs.isolated (hadd.notMem_ids hs)) (hadd.wellFormed hs)
    (fun _ => hadd.mem_ends hs) hx hids

end AddsOne

/-! ## Path nodes put by tier -/

theorem Spec.copied_past {peer : String} :
    (s.copied peer).Past e ↔ e.1 ≠ e.2 ∧ s.Joins e.1 peer ∧ s.Joins peer e.2 := by
  rw [Insertion.Past, copied, mem_sources_incoming, mem_targets_outgoing]

/-- Between two nodes of the path, the way past a new one is the connection that was there, or a
new one where nothing else leads further in. -/
theorem Spec.mem_ends_insertionAlong {a b : Node} (hne : a.id ≠ b.id) :
    (e ∈ s.ends ∧ e ∉ (s.insertionAlong (some a) (some b)).cut) ∨
        (s.insertionAlong (some a) (some b)).Past e ↔
      if s.Joins a.id b.id then e ∈ s.ends ∧ e ≠ (b.id, a.id)
      else e ∈ s.ends ∨ (e = (a.id, b.id) ∧ ∀ p, ¬ s.Joins p b.id) := by
  rw [insertionAlong]
  split_ifs with hjoin hin
  · have hab : (a.id, b.id) ≠ (b.id, a.id) := fun h => hne (congrArg Prod.fst h)
    simp only [Insertion.Past, insertionBetween, List.mem_cons, List.not_mem_nil, or_false, not_or]
    constructor
    · rintro (⟨he, -, h⟩ | ⟨-, h₁, h₂⟩)
      · exact ⟨he, h⟩
      · obtain rfl : e = (a.id, b.id) := Prod.ext h₁ h₂
        exact ⟨hjoin, hab⟩
    · rintro ⟨he, h⟩
      by_cases hea : e = (a.id, b.id)
      · subst hea
        exact Or.inr ⟨hne, rfl, rfl⟩
      · exact Or.inl ⟨he, hea, h⟩
  · rw [incoming_isEmpty] at hin
    simp only [Insertion.Past, List.not_mem_nil, not_false_iff, and_true, List.mem_singleton]
    refine or_congr_right ⟨?_, ?_⟩
    · rintro ⟨-, h₁, h₂⟩
      exact ⟨Prod.ext h₁ h₂, hin⟩
    · rintro ⟨rfl, -⟩
      exact ⟨hne, rfl, rfl⟩
  · rw [incoming_isEmpty] at hin
    simp [Insertion.Past, hin]

theorem Spec.outer_ne_inner (hs : s.WellFormed) {a b : Node} (ha : s.outerOf? x = some a)
    (hb : s.innerOf? x = some b) : a.id ≠ b.id := by
  obtain ⟨ha, hax⟩ := mem_otherPath_of_outerOf? ha
  obtain ⟨hb, hxb⟩ := mem_otherPath_of_innerOf? hb
  intro hid
  obtain rfl := node_ext_of_nodup hs.ids_nodup (mem_otherPath.mp ha).1 (mem_otherPath.mp hb).1 hid
  have := PathKey.before_trans hax hxb
  simp [PathKey.before_irrefl] at this

/-- **A path node put by its tier and removed again.** Past a peer whose neighbours it had, all
that led to the peer now leads to all that the peer leads to. Without such a peer, its two
neighbours on the path are joined in one direction only, or newly if nothing led to the inner
one. -/
theorem AddsOne.restored_byTier (hs : s.WellFormed) (hadd : AddsOne prompt intent s x t)
    (hhint : hintBy intent prompt = none) (hside : x.isSide = false) (hrem : RemovesOne t x u) :
    u.nodes = s.nodes ∧ ∀ e, e ∈ u.ends ↔
      match s.peerOf? x, s.outerOf? x, s.innerOf? x with
      | some peer, _, _ =>
        e ∈ s.ends ∨ (e.1 ≠ e.2 ∧ s.Joins e.1 peer.id ∧ s.Joins peer.id e.2)
      | none, some a, some b =>
        if s.Joins a.id b.id then e ∈ s.ends ∧ e ≠ (b.id, a.id)
        else e ∈ s.ends ∨ (e = (a.id, b.id) ∧ ∀ p, ¬ s.Joins p b.id)
      | none, _, _ => e ∈ s.ends := by
  refine ⟨hadd.nodes_restored hs hrem, fun e => ?_⟩
  have hspot : s.spotFor prompt intent = .byTier := by rw [Spec.spotFor, hhint]; rfl
  rw [hadd.mem_ends_restored hs hrem, and_iff_right hside, hspot, Spec.insertion,
    Spec.tierInsertion, if_neg (by simp [hside])]
  cases hpeer : s.peerOf? x with
  | some peer =>
    dsimp only
    rw [Spec.copied_past]
    simp [Spec.copied]
  | none =>
    cases houter : s.outerOf? x with
    | none => cases s.innerOf? x <;> simp [Spec.insertionAlong, Insertion.Past]
    | some a =>
      cases hinner : s.innerOf? x with
      | none => simp [Spec.insertionAlong, Insertion.Past]
      | some b => exact Spec.mem_ends_insertionAlong (Spec.outer_ne_inner hs houter hinner)

/-- A web server between a load balancer and a database. -/
def balanced : Spec where
  nodes := [⟨"lb-1", .loadBalancer, "Load Balancer", none, none, none⟩,
    ⟨"web-1", .webServer, "Web Server", none, none, none⟩,
    ⟨"db-1", .dbServer, "DB Server", none, none, none⟩]
  connections := [⟨"lb-1", "web-1", none, none, none⟩, ⟨"web-1", "db-1", none, none, none⟩]

/-- The second web server. -/
def secondServer : Node := ⟨"web-server-1", .webServer, "Web Server", none, none, none⟩

/-- The same with two web servers. -/
def balancedTwice : Spec where
  nodes := balanced.nodes ++ [secondServer]
  connections := balanced.connections ++
    [⟨"lb-1", "web-server-1", none, none, none⟩, ⟨"web-server-1", "db-1", none, none, none⟩]

/-- The same without the second web server again. -/
def balancedOnce : Spec where
  nodes := balanced.nodes
  connections := balanced.connections ++ [⟨"lb-1", "db-1", none, none, none⟩]

/-- A request for one more node of a type. -/
def another (type : Component) (position : Option Hint) : Intent :=
  ⟨.add, editConfidence, [{ type }], position, none⟩

theorem hintBy_another : hintBy (some (another .webServer none)) "" = none := by decide +kernel

theorem addsOne_balanced :
    AddsOne "" (some (another .webServer none)) balanced secondServer balancedTwice := by
  have hadd : balanced.addEach false .byTier [{ type := .webServer }] = .ok (balancedTwice,
      [.addNode "web-server-1" .webServer (some "Web Server"),
        .addConnection "lb-1" "web-server-1", .addConnection "web-server-1" "db-1"]) := by
    decide +kernel
  refine ⟨⟨⟨{}, [], [], [], []⟩, ?_⟩, rfl⟩
  unfold add
  rw [hintBy_another]
  change ∃ c, (Reading.ofBreach (balanced.addEach false .byTier [{ type := .webServer }]) >>= _) =
    _ ∧ _
  rw [hadd]
  exact ⟨_, rfl, rfl⟩

theorem removesOne_balancedTwice : RemovesOne balancedTwice secondServer balancedOnce := by
  have hfound : ((Prompt.mentions (Text.lower "remove web-server-1")).foldl
      balancedTwice.withMention (balancedTwice.namedById (Text.lower "remove web-server-1"))).map
        (·.node) = [secondServer] := by
    decide +kernel
  -- there is nothing to be sorted
  have hnamed : balancedTwice.named "remove web-server-1" = [secondServer] :=
    List.perm_singleton.mp (hfound ▸ (List.mergeSort_perm _ _).map _)
  have hunwanted : balancedTwice.unwanted "remove web-server-1" = [secondServer] := by
    rw [Spec.unwanted, hnamed]
    decide +kernel
  refine ⟨⟨⟨{}, [], [], [], []⟩, "remove web-server-1", none, ?_⟩, fun id => ?_⟩
  · unfold remove
    dsimp only
    rw [hunwanted]
    exact ⟨_, rfl, rfl⟩
  · exact Spec.mem_ids_of_last rfl (by decide) id

theorem restored_byTier_balanced : balanced.WellFormed ∧
    hintBy (some (another .webServer none)) "" = none ∧ secondServer.isSide = false ∧
    balancedOnce.nodes = balanced.nodes ∧ ∀ e, e ∈ balancedOnce.ends ↔
      match balanced.peerOf? secondServer, balanced.outerOf? secondServer,
          balanced.innerOf? secondServer with
      | some peer, _, _ =>
        e ∈ balanced.ends ∨
          (e.1 ≠ e.2 ∧ balanced.Joins e.1 peer.id ∧ balanced.Joins peer.id e.2)
      | none, some a, some b =>
        if balanced.Joins a.id b.id then e ∈ balanced.ends ∧ e ≠ (b.id, a.id)
        else e ∈ balanced.ends ∨ (e = (a.id, b.id) ∧ ∀ p, ¬ balanced.Joins p b.id)
      | none, _, _ => e ∈ balanced.ends := by
  have hs : balanced.WellFormed := by decide
  exact ⟨hs, hintBy_another, rfl,
    AddsOne.restored_byTier hs addsOne_balanced hintBy_another rfl removesOne_balancedTwice⟩

/-- The load balancer now leads to the database past both web servers. -/
theorem bypass_balanced : balanced.WellFormed ∧ balanced.ends.Nodup ∧
    (∃ n ∈ balanced.nodes, n.type = secondServer.type ∧ n.isSide = false) ∧
    hintBy (some (another .webServer none)) "" = none ∧
    AddsOne "" (some (another .webServer none)) balanced secondServer balancedTwice ∧
    RemovesOne balancedTwice secondServer balancedOnce ∧
    ("lb-1", "db-1") ∈ balancedOnce.ends ∧ ("lb-1", "db-1") ∉ balanced.ends :=
  ⟨by decide, by decide, by decide, hintBy_another, addsOne_balanced, removesOne_balancedTwice,
    by decide, by decide⟩

/-! ## Ways that are restored -/

theorem Spot.of_ne_between {hint : Option Hint} {ref second : Option Node}
    (h : ∀ h, hint = some h → h.placement ≠ .between) (a b : String) :
    Spot.of hint ref second ≠ .between a b := by
  unfold Spot.of
  split
  · exact nofun
  · rename_i hint
    have := h hint rfl
    split <;> simp_all

namespace Spec

variable {spot : Spot}

/-- A connection that is cut for a node leads past it, if none runs the other way. -/
theorem past_of_mem_cut (hs : s.WellFormed) (hone : ∀ a b, s.Joins a b → ¬ s.Joins b a)
    (hspot : ∀ a b, spot ≠ .between a b) (he : e ∈ s.ends)
    (hcut : e ∈ (s.insertion x spot).cut) : (s.insertion x spot).Past e := by
  refine ⟨hs.source_ne_target he, ?_⟩
  rcases sides_of_mem_cut hcut with h | ⟨-, -, hback | hbetween⟩
  · exact h
  · exact absurd he (hone _ _ hback)
  · exact absurd hbetween (hspot _ _)

theorem eq_before_of_mem_cut (hside : x.isSide = true) (hspot : ∀ a b, spot ≠ .between a b)
    (hcut : e ∈ (s.insertion x spot).cut) : spot = .before e.2 := by
  cases spot with
  | first | last => exact absurd hcut List.not_mem_nil
  | between a b => exact absurd rfl (hspot a b)
  | before ref =>
    obtain ⟨-, rfl⟩ := mem_ends_incoming.mp hcut
    rfl
  | after ref =>
    rw [insertion, insertionAfter, if_pos hside] at hcut
    exact absurd hcut List.not_mem_nil
  | byTier =>
    rw [insertion, tierInsertion, if_pos hside] at hcut
    exact absurd hcut List.not_mem_nil

end Spec

/-- **After a component is added and its node removed, all that was reached is reached again,**
unless a side node was put in front of a node to which something led. -/
theorem AddsOne.reaches_restored_iff (hs : s.WellFormed)
    (hone : ∀ a b, s.Joins a b → ¬ s.Joins b a) (hadd : AddsOne prompt intent s x t)
    (hhint : ∀ h, hintBy intent prompt = some h → h.placement ≠ .between)
    (hrem : RemovesOne t x u) :
    (∀ a b, s.Reaches a b → u.Reaches a b) ↔
      ¬ (x.isSide = true ∧ ∃ a b, s.spotFor prompt intent = .before b ∧ s.Joins a b) := by
  have hspot : ∀ a b, s.spotFor prompt intent ≠ .between a b := Spot.of_ne_between hhint
  constructor
  · rintro hreach ⟨hside, a, b, hbefore, hab⟩
    -- Nothing leads to the node in front of which the side node was.
    have hlost : ∀ p, ¬ u.Joins p b := by
      intro p hp
      rcases (hadd.mem_ends_restored hs hrem).mp hp with ⟨he, hcut⟩ | ⟨hpath, -⟩
      · rw [hbefore] at hcut
        exact hcut (Spec.mem_ends_incoming.mpr ⟨he, rfl⟩)
      · simp [hside] at hpath
    rcases ReflTransGen.cases_tail (hreach a b (.single hab)) with h | ⟨p, -, hp⟩
    · exact hs.source_ne_target hab h.symm
    · exact hlost p hp
  · intro hnot a b hab
    refine ReflTransGen.mono (fun p q hpq => (hadd.mem_ends_restored hs hrem).mpr ?_) a b hab
    by_cases hcut : (p, q) ∈ (s.insertion x (s.spotFor prompt intent)).cut
    · refine Or.inr ⟨?_, Spec.past_of_mem_cut hs hone hspot hpq hcut⟩
      by_contra hside
      have hside : x.isSide = true := by simpa using hside
      exact hnot ⟨hside, p, q, Spec.eq_before_of_mem_cut hside hspot hcut, hpq⟩
    · exact Or.inl ⟨hpq, hcut⟩

/-- A web server behind a firewall. -/
def guarded : Spec where
  nodes := [⟨"fw-1", .firewall, "Firewall", none, none, none⟩,
    ⟨"web-1", .webServer, "Web Server", none, none, none⟩]
  connections := [⟨"fw-1", "web-1", none, none, none⟩]

/-- A backup. -/
def backupNode : Node := ⟨"backup-1", .backup, "Backup", none, none, none⟩

/-- The same with a backup in front of the web server. -/
def guardedBackup : Spec where
  nodes := guarded.nodes ++ [backupNode]
  connections := [⟨"fw-1", "backup-1", none, none, none⟩,
    ⟨"backup-1", "web-1", defaultFlow, none, none⟩]

/-- The same without the backup again. -/
def guardedNoMore : Spec where
  nodes := guarded.nodes
  connections := []

/-- A position in front of the web server. -/
def beforeWeb : Hint := ⟨.before, some "web-1", none, (0, 0)⟩

theorem spotFor_guarded :
    guarded.spotFor "" (some (another .backup (some beforeWeb))) = .before "web-1" := by
  decide +kernel

theorem addsOne_guarded :
    AddsOne "" (some (another .backup (some beforeWeb))) guarded backupNode guardedBackup := by
  have hadd : guarded.addEach false (.before "web-1") [{ type := .backup }] = .ok (guardedBackup,
      [.addNode "backup-1" .backup (some "Backup"), .removeConnection "fw-1" "web-1",
        .addConnection "fw-1" "backup-1", .addConnection "backup-1" "web-1"]) := by
    decide +kernel
  refine ⟨⟨⟨{}, [], [], [], []⟩, ?_⟩, rfl⟩
  change ∃ c, (Reading.ofBreach (guarded.addEach false
    (guarded.spotFor "" (some (another .backup (some beforeWeb)))) [{ type := .backup }]) >>= _) =
      _ ∧ _
  rw [spotFor_guarded, hadd]
  exact ⟨_, rfl, rfl⟩

theorem removesOne_guardedBackup : RemovesOne guardedBackup backupNode guardedNoMore where
  followed := ⟨⟨{}, [], [], [], []⟩, "", some (without [.backup]), _, rfl, rfl⟩
  mem_ids := Spec.mem_ids_of_last rfl (by decide)

theorem one_way_guarded (a b : String) (h : guarded.Joins a b) : ¬ guarded.Joins b a := by
  obtain ⟨rfl, rfl⟩ := Prod.mk.inj (List.mem_singleton.mp h)
  decide

theorem reaches_restored_iff_guarded : guarded.WellFormed ∧
    (∀ a b, guarded.Joins a b → ¬ guarded.Joins b a) ∧
    (∀ h, hintBy (some (another .backup (some beforeWeb))) "" = some h → h.placement ≠ .between) ∧
    ((∀ a b, guarded.Reaches a b → guardedNoMore.Reaches a b) ↔
      ¬ (backupNode.isSide = true ∧ ∃ a b,
        guarded.spotFor "" (some (another .backup (some beforeWeb))) = .before b ∧
          guarded.Joins a b)) := by
  have hs : guarded.WellFormed := by decide
  have hhint : ∀ h, hintBy (some (another .backup (some beforeWeb))) "" = some h →
      h.placement ≠ .between := by
    rintro _ ⟨⟩
    decide
  exact ⟨hs, one_way_guarded, hhint, AddsOne.reaches_restored_iff hs one_way_guarded
    addsOne_guarded hhint removesOne_guardedBackup⟩

/-- The firewall reaches the web server no more. -/
theorem not_reaches_guardedNoMore : guarded.WellFormed ∧
    (∀ a b, guarded.Joins a b → ¬ guarded.Joins b a) ∧
    hintBy (some (another .backup (some beforeWeb))) "" = some beforeWeb ∧
    beforeWeb.placement ≠ .between ∧
    AddsOne "" (some (another .backup (some beforeWeb))) guarded backupNode guardedBackup ∧
    RemovesOne guardedBackup backupNode guardedNoMore ∧
    guarded.Reaches "fw-1" "web-1" ∧ ¬ guardedNoMore.Reaches "fw-1" "web-1" := by
  refine ⟨by decide, one_way_guarded, rfl, by decide, addsOne_guarded, removesOne_guardedBackup,
    .single (show guarded.Joins "fw-1" "web-1" by decide), fun h => ?_⟩
  rcases ReflTransGen.cases_tail h with h | ⟨p, -, hp⟩
  · exact absurd h (by decide)
  · exact absurd hp List.not_mem_nil

end NetSketch
