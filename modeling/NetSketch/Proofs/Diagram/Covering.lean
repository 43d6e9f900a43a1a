import Mathlib.Data.List.Permutation
import NetSketch.Proofs.Diagram.Ranked

/-!
# The graph of nodes placed from scratch

Places order the path nodes, several of which may share one. The connections from scratch are the
covering relation of this order, with every side node hung off one path node. What they join falls
apart only where all path nodes stand at one place.

* `Node.NextIn`, `Node.HangsOff`: one path node next to another, a side node and its anchor;
* `Chained`: what is known of the graph;
* `not_before_of_innermost?`, `hangsOff_of_sideAnchor?`: the choice of an anchor;
* `mem_chainPairs_iff`: the pairs that are joined; `held_iff_not_level`: what holds together;
* **`chain_chained`**.
-/

open Relation (EqvGen TransGen)

namespace NetSketch

/-! ## The graph -/

/-- A path node stands next to another one on its inner side: no path node stands between. -/
def Node.NextIn (nodes : List Node) (a b : Node) : Prop :=
  a.pathKey.before b.pathKey = true ∧ ∀ c ∈ nodes, c.isSide = false →
    ¬ (a.pathKey.before c.pathKey = true ∧ c.pathKey.before b.pathKey = true)

/-- The tier of `a` is not beyond that of `n`. -/
def Node.Within (n a : Node) : Prop := a.tier.index ≤ n.tier.index

/-- A node is hung off a path node: the innermost of those not beyond its tier, or else one of the
outermost. -/
structure Node.HangsOff (nodes : List Node) (n a : Node) : Prop where
  mem : a ∈ nodes
  isPath : a.isSide = false
  innermost : (∃ b ∈ nodes, b.isSide = false ∧ n.Within b) →
    n.Within a ∧ ∀ b ∈ nodes, b.isSide = false → n.Within b → a.pathKey.before b.pathKey = false
  outermost : (¬ ∃ b ∈ nodes, b.isSide = false ∧ n.Within b) →
    ∀ b ∈ nodes, b.isSide = false → b.pathKey.before a.pathKey = false

/-- There are different path nodes and all stand at one place. -/
def Level (nodes : List Node) : Prop :=
  ∃ a ∈ nodes, ∃ b ∈ nodes, a.isSide = false ∧ b.isSide = false ∧ a ≠ b ∧
    ∀ c ∈ nodes, c.isSide = false → c.pathKey = a.pathKey

/-- **The graph of nodes placed from scratch**, by the ends of its connections. -/
structure Chained (nodes : List Node) (ends : List (String × String)) : Prop where
  nodup : ends.Nodup
  no_loop : ∀ e ∈ ends, e.1 ≠ e.2
  ends_mem : ∀ e ∈ ends, e.1 ∈ nodes.map (·.id) ∧ e.2 ∈ nodes.map (·.id)
  /-- Path nodes are joined where one is next to the other. -/
  along : ∀ a ∈ nodes, ∀ b ∈ nodes, a.isSide = false → b.isSide = false →
    ((a.id, b.id) ∈ ends ↔ a.NextIn nodes b)
  /-- A side node has one connection, from its anchor. -/
  aside : (∃ p ∈ nodes, p.isSide = false) → ∀ n ∈ nodes, n.isSide = true →
    ∃ a, n.HangsOff nodes a ∧
      ∀ e, e ∈ ends ∧ (e.1 = n.id ∨ e.2 = n.id) ↔ e = (a.id, n.id)
  /-- Side nodes alone stand in a row. -/
  inRow : (¬ ∃ p ∈ nodes, p.isSide = false) →
    ends = (nodes.map (·.id)).zip (nodes.map (·.id)).tail
  acyclic : ∀ id, ¬ TransGen (fun x y => (x, y) ∈ ends) id id
  /-- Connections in either direction lead from every node to every other. -/
  connected : (∀ x ∈ nodes.map (·.id), ∀ y ∈ nodes.map (·.id),
    EqvGen (fun x y => (x, y) ∈ ends) x y) ↔ ¬ Level nodes

/-! ## Anchors -/

theorem innermost?_concat (l : List Node) (n : Node) : innermost? (l ++ [n]) =
    match innermost? l with
    | none => some n
    | some b => if n.pathKey.before b.pathKey then some b else some n :=
  List.foldl_concat ..

/-- **No node is further in than the innermost one.** -/
theorem not_before_of_innermost? {l : List Node} {n : Node} (h : innermost? l = some n) :
    ∀ m ∈ l, n.pathKey.before m.pathKey = false := by
  induction l using List.reverseRecOn generalizing n with
  | nil => cases h
  | append_singleton l k ih =>
    rw [innermost?_concat] at h
    cases hl : innermost? l with
    | none =>
      rw [hl] at h
      obtain rfl := Option.some.inj h
      rw [innermost?_eq_none.mp hl, List.nil_append, List.forall_mem_singleton]
      exact PathKey.before_irrefl
    | some b =>
      rw [hl] at h
      dsimp only at h
      rw [List.forall_mem_append, List.forall_mem_singleton]
      split_ifs at h with hkb
      · obtain rfl := Option.some.inj h
        exact ⟨ih hl, PathKey.not_before_of_before hkb⟩
      · obtain rfl := Option.some.inj h
        exact ⟨fun m hm => PathKey.not_before_trans (Bool.eq_false_iff.mpr hkb) (ih hl m hm),
          PathKey.before_irrefl⟩

/-- **The anchor of a side node** among the path nodes from the outside inwards. -/
theorem hangsOff_of_sideAnchor? {nodes path : List Node} {n a : Node}
    (hpath : ∀ p, p ∈ path ↔ p ∈ nodes ∧ p.isSide = false)
    (hsorted : path.Pairwise fun a b => b.pathKey.before a.pathKey = false)
    (h : sideAnchor? path n = some a) : n.HangsOff nodes a := by
  obtain ⟨hmem, hside⟩ := (hpath a).mp (mem_of_sideAnchor? h)
  cases path with
  | nil => cases h
  | cons first rest =>
    have ha := Option.some.inj h
    cases hi : innermost? ((first :: rest).filter (·.tier.index ≤ n.tier.index)) with
    | none =>
      -- All path nodes are beyond the tier.
      rw [hi, Option.getD_none] at ha
      subst ha
      have hnone : ¬ ∃ b ∈ nodes, b.isSide = false ∧ n.Within b := by
        rintro ⟨b, hb, hbs, hwithin⟩
        have := List.filter_eq_nil_iff.mp (innermost?_eq_none.mp hi) b ((hpath b).mpr ⟨hb, hbs⟩)
        exact this (decide_eq_true hwithin)
      refine ⟨hmem, hside, fun h => absurd h hnone, fun _ b hb hbs => ?_⟩
      rcases List.mem_cons.mp ((hpath b).mpr ⟨hb, hbs⟩) with rfl | hb
      · exact PathKey.before_irrefl
      · exact (List.pairwise_cons.mp hsorted).1 b hb
    | some m =>
      rw [hi, Option.getD_some] at ha
      subst ha
      have hwithin : m.tier.index ≤ n.tier.index := by
        simpa using (List.mem_filter.mp (mem_of_innermost? hi)).2
      refine ⟨hmem, hside, fun _ => ⟨hwithin, fun b hb hbs hbw => ?_⟩,
        fun h => absurd ⟨m, hmem, hside, hwithin⟩ h⟩
      refine not_before_of_innermost? hi b (List.mem_filter.mpr ⟨(hpath b).mpr ⟨hb, hbs⟩, ?_⟩)
      exact decide_eq_true hbw

/-! ## Pairs that are joined -/

section Pairs

variable {nodes : List Node} {a b n : Node}

/-- The path nodes from the outside inwards. -/
def pathInwards (nodes : List Node) : List Node := (pathGroups (nodes.filter (!·.isSide))).flatten

theorem mem_pathInwards : n ∈ pathInwards nodes ↔ n ∈ nodes ∧ n.isSide = false := by
  rw [pathInwards, mem_flatten_pathGroups]
  simp

theorem pathInwards_eq_nil : pathInwards nodes = [] ↔ ¬ ∃ p ∈ nodes, p.isSide = false := by
  simp [List.eq_nil_iff_forall_not_mem, mem_pathInwards]

theorem pathGroups_eq_nil :
    pathGroups (nodes.filter (!·.isSide)) = [] ↔ ¬ ∃ p ∈ nodes, p.isSide = false := by
  rw [← pathInwards_eq_nil, pathInwards]
  cases hgroups : pathGroups (nodes.filter (!·.isSide)) with
  | nil => exact iff_of_true rfl rfl
  | cons g rest =>
    obtain ⟨a, ha⟩ := (hgroups ▸ ranked_pathGroups : Ranked (g :: rest)).exists_mem
    exact iff_of_false (by simp) (List.ne_nil_of_mem (List.mem_append_left _ ha))

theorem exists_sideAnchor? (hp : ∃ p ∈ nodes, p.isSide = false) (n : Node) :
    ∃ a, sideAnchor? (pathInwards nodes) n = some a := by
  cases h : pathInwards nodes with
  | nil => exact absurd hp (pathInwards_eq_nil.mp h)
  | cons first rest => exact ⟨_, rfl⟩

theorem hangsOff (h : sideAnchor? (pathInwards nodes) n = some a) : n.HangsOff nodes a :=
  hangsOff_of_sideAnchor? (fun _ => mem_pathInwards) pairwise_flatten_pathGroups h

/-- The side nodes with their anchors. -/
def hungPairs (nodes : List Node) : List (Node × Node) :=
  (nodes.filter (·.isSide)).filterMap fun n => (sideAnchor? (pathInwards nodes) n).map (·, n)

theorem mem_hungPairs : (a, b) ∈ hungPairs nodes ↔
    b ∈ nodes ∧ b.isSide = true ∧ sideAnchor? (pathInwards nodes) b = some a := by
  rw [hungPairs, List.mem_filterMap]
  constructor
  · rintro ⟨n, hn, hp⟩
    obtain ⟨anchor, hanchor, hp⟩ := Option.map_eq_some_iff.mp hp
    obtain ⟨rfl, rfl⟩ := Prod.mk.inj hp
    exact ⟨(List.mem_filter.mp hn).1, (List.mem_filter.mp hn).2, hanchor⟩
  · rintro ⟨hb, hbs, ha⟩
    exact ⟨b, List.mem_filter.mpr ⟨hb, hbs⟩, by rw [ha]; rfl⟩

theorem chainPairs_of_path (hp : ∃ p ∈ nodes, p.isSide = false) :
    chainPairs nodes = pairsAlong (pathGroups (nodes.filter (!·.isSide))) ++ hungPairs nodes := by
  have hgroups := mt pathGroups_eq_nil.mp (not_not_intro hp)
  rw [chainPairs, if_neg (mt List.isEmpty_iff.mp hgroups)]
  rfl

theorem chainPairs_of_no_path (hp : ¬ ∃ p ∈ nodes, p.isSide = false) :
    chainPairs nodes = nodes.zip nodes.tail := by
  have hgroups := pathGroups_eq_nil.mpr hp
  have hside : nodes.filter (·.isSide) = nodes := List.filter_eq_self.mpr fun n hn => by
    by_contra h
    exact hp ⟨n, hn, Bool.eq_false_iff.mpr h⟩
  rw [chainPairs, if_pos (List.isEmpty_iff.mpr hgroups), hgroups, hside]
  rfl

/-- **The covering relation of the path, and the side nodes hung off it.** -/
theorem mem_chainPairs_iff (hp : ∃ p ∈ nodes, p.isSide = false) : (a, b) ∈ chainPairs nodes ↔
    ((a ∈ nodes ∧ a.isSide = false) ∧ (b ∈ nodes ∧ b.isSide = false) ∧ a.NextIn nodes b) ∨
      (b ∈ nodes ∧ b.isSide = true ∧ sideAnchor? (pathInwards nodes) b = some a) := by
  rw [chainPairs_of_path hp, List.mem_append, mem_hungPairs, mem_pairsAlong_iff ranked_pathGroups]
  have hmem : ∀ c, c ∈ (pathGroups (nodes.filter (!·.isSide))).flatten ↔
      c ∈ nodes ∧ c.isSide = false := fun _ => mem_pathInwards
  simp only [Covers, hmem, Node.NextIn, and_imp]

theorem nodup_chainPairs (hn : nodes.Nodup) : (chainPairs nodes).Nodup := by
  by_cases hp : ∃ p ∈ nodes, p.isSide = false
  · rw [chainPairs_of_path hp]
    refine List.nodup_append'.mpr ⟨nodup_pairsAlong ?_, ?_, ?_⟩
    · rw [flatten_pathGroups]
      exact (List.mergeSort_perm _ _).nodup_iff.mpr (hn.filter _)
    · refine (hn.filter _).filterMap fun m m' p hm hm' => ?_
      obtain ⟨_, -, rfl⟩ := Option.map_eq_some_iff.mp hm
      obtain ⟨_, -, h⟩ := Option.map_eq_some_iff.mp hm'
      exact (congrArg Prod.snd h).symm
    · rintro ⟨a, b⟩ hab hab'
      have hb := (mem_pathInwards.mp (mem_flatten_of_mem_pairsAlong hab).2).2
      simp [(mem_hungPairs.mp hab').2.1] at hb
  · rw [chainPairs_of_no_path hp]
    refine .of_map Prod.snd ?_
    rw [List.map_snd_zip (by simp)]
    exact hn.tail

/-! ## What holds together -/

theorem held_zip_tail {l : List Node} : ∀ a ∈ l, ∀ b ∈ l, Held (l.zip l.tail) a b := by
  cases l with
  | nil => exact fun a ha => absurd ha List.not_mem_nil
  | cons first rest =>
    -- All nodes of the row are held to its first one.
    have hfirst : ∀ a ∈ first :: rest, Held ((first :: rest).zip rest) first a := by
      induction rest generalizing first with
      | nil =>
        intro a ha
        rw [List.mem_singleton.mp ha]
        exact .refl first
      | cons next rest ih =>
        intro a ha
        rcases List.mem_cons.mp ha with rfl | ha
        · exact .refl a
        · refine Held.trans (.of_mem (b := next) List.mem_cons_self) ?_
          exact (ih next a ha).mono (List.subset_cons_self _ _)
    exact fun a ha b hb => (hfirst a ha).symm.trans (hfirst b hb)

/-- The path node that a side node is hung off. A path node stands for itself. -/
def home (nodes : List Node) (n : Node) : Node :=
  if n.isSide then (sideAnchor? (pathInwards nodes) n).getD n else n

theorem held_pathInwards (hlevel : ¬ Level nodes) :
    ∀ a ∈ pathInwards nodes, ∀ b ∈ pathInwards nodes, Held (chainPairs nodes) a b := by
  intro a ha b hb
  rw [chainPairs_of_path ⟨a, mem_pathInwards.mp ha⟩]
  have hranked := @ranked_pathGroups (nodes.filter (!·.isSide))
  cases hgroups : pathGroups (nodes.filter (!·.isSide)) with
  | nil => simp [pathInwards, hgroups] at ha
  | cons g groups =>
    rw [hgroups] at hranked
    have hmem : ∀ c, c ∈ pathInwards nodes ↔ c ∈ (g :: groups).flatten := fun c => by
      rw [pathInwards, hgroups]
    cases groups with
    | nil =>
      -- All path nodes stand at one place, so there is only one.
      simp only [List.flatten_singleton] at hmem
      obtain ⟨ha', has⟩ := mem_pathInwards.mp ha
      obtain ⟨hb', hbs⟩ := mem_pathInwards.mp hb
      obtain rfl : a = b := by
        by_contra hne
        refine hlevel ⟨a, ha', b, hb', has, hbs, hne, fun c hc hcs => ?_⟩
        have hcg := (hmem c).mp (mem_pathInwards.mpr ⟨hc, hcs⟩)
        exact hranked.level g List.mem_cons_self c hcg a ((hmem a).mp ha)
      exact .refl a
    | cons g' groups =>
      exact (held_pairsAlong hranked a ((hmem a).mp ha) b ((hmem b).mp hb)).mono
        (List.subset_append_left _ _)

/-- **All nodes hold together unless there are several path nodes and all at one place.** -/
theorem held_iff_not_level :
    (∀ a ∈ nodes, ∀ b ∈ nodes, Held (chainPairs nodes) a b) ↔ ¬ Level nodes := by
  constructor
  · rintro hheld ⟨p, hp, q, hq, hps, hqs, hne, hlevel⟩
    -- Only hung nodes are joined, so nodes held together have one home.
    have hhome : ∀ e ∈ chainPairs nodes, home nodes e.1 = home nodes e.2 := by
      rintro ⟨a, b⟩ he
      rcases (mem_chainPairs_iff ⟨p, hp, hps⟩).mp he with ⟨ha, hb, hab, -⟩ | ⟨-, hbs, hanchor⟩
      · rw [hlevel a ha.1 ha.2, hlevel b hb.1 hb.2, PathKey.before_irrefl] at hab
        cases hab
      · simp [home, hbs, hanchor, (hangsOff hanchor).isPath]
    have := (hheld p hp q hq).eq_of_forall hhome
    rw [home, home, hps, hqs] at this
    exact hne this
  · intro hlevel
    by_cases hp : ∃ p ∈ nodes, p.isSide = false
    · have hside : ∀ n ∈ nodes, ∃ a ∈ pathInwards nodes, Held (chainPairs nodes) a n := by
        intro n hn
        cases hns : n.isSide with
        | false => exact ⟨n, mem_pathInwards.mpr ⟨hn, hns⟩, .refl n⟩
        | true =>
          obtain ⟨a, ha⟩ := exists_sideAnchor? hp n
          exact ⟨a, mem_of_sideAnchor? ha,
            .of_mem ((mem_chainPairs_iff hp).mpr (.inr ⟨hn, hns, ha⟩))⟩
      intro a ha b hb
      obtain ⟨a', ha', haa'⟩ := hside a ha
      obtain ⟨b', hb', hbb'⟩ := hside b hb
      exact haa'.symm.trans ((held_pathInwards hlevel a' ha' b' hb').trans hbb')
    · rw [chainPairs_of_no_path hp]
      exact held_zip_tail

/-! ## Ends -/

/-- The ends of the connections from scratch. -/
def chainEnds (nodes : List Node) : List (String × String) :=
  (chainPairs nodes).map fun p => (p.1.id, p.2.id)

theorem exists_of_mem_chainEnds {e : String × String} (he : e ∈ chainEnds nodes) :
    ∃ a ∈ nodes, ∃ b ∈ nodes, e = (a.id, b.id) ∧ (a, b) ∈ chainPairs nodes := by
  obtain ⟨⟨a, b⟩, hp, rfl⟩ := List.mem_map.mp he
  obtain ⟨ha, hb, -⟩ := inward_of_mem_chainPairs hp
  exact ⟨a, ha, b, hb, rfl, hp⟩

theorem mem_chainEnds_iff (hn : (nodes.map (·.id)).Nodup) (ha : a ∈ nodes) (hb : b ∈ nodes) :
    (a.id, b.id) ∈ chainEnds nodes ↔ (a, b) ∈ chainPairs nodes := by
  refine ⟨fun he => ?_, fun hp => List.mem_map.mpr ⟨(a, b), hp, rfl⟩⟩
  obtain ⟨a', ha', b', hb', he, hp⟩ := exists_of_mem_chainEnds he
  obtain ⟨hae, hbe⟩ := Prod.mk.inj he
  rwa [Spec.node_ext_of_nodup hn ha ha' hae, Spec.node_ext_of_nodup hn hb hb' hbe]

theorem nodup_chainEnds (hn : (nodes.map (·.id)).Nodup) : (chainEnds nodes).Nodup := by
  refine (nodup_chainPairs (.of_map _ hn)).map_on ?_
  rintro ⟨a, b⟩ hp ⟨a', b'⟩ hp' he
  obtain ⟨ha, hb, -⟩ := inward_of_mem_chainPairs hp
  obtain ⟨ha', hb', -⟩ := inward_of_mem_chainPairs hp'
  obtain ⟨hae, hbe⟩ := Prod.mk.inj he
  exact Prod.ext (Spec.node_ext_of_nodup hn ha ha' hae) (Spec.node_ext_of_nodup hn hb hb' hbe)

/-- **The one connection of a side node comes from its anchor.** -/
theorem mem_chainEnds_aside (hn : (nodes.map (·.id)).Nodup) (hmem : n ∈ nodes)
    (hside : n.isSide = true) (ha : sideAnchor? (pathInwards nodes) n = some a)
    (e : String × String) :
    e ∈ chainEnds nodes ∧ (e.1 = n.id ∨ e.2 = n.id) ↔ e = (a.id, n.id) := by
  have hpath := mem_pathInwards.mp (mem_of_sideAnchor? ha)
  constructor
  · rintro ⟨he, htouch⟩
    obtain ⟨x, hx, y, hy, rfl, hp⟩ := exists_of_mem_chainEnds he
    rcases (mem_chainPairs_iff ⟨a, hpath⟩).mp hp with ⟨hx', hy', -⟩ | ⟨-, -, hxy⟩
    · -- Neither of two path nodes is the side node.
      rcases htouch with hid | hid
      · obtain rfl := Spec.node_ext_of_nodup hn hx hmem hid
        simp [hside] at hx'
      · obtain rfl := Spec.node_ext_of_nodup hn hy hmem hid
        simp [hside] at hy'
    · rcases htouch with hid | hid
      · obtain rfl := Spec.node_ext_of_nodup hn hx hmem hid
        simp [(hangsOff hxy).isPath] at hside
      · obtain rfl := Spec.node_ext_of_nodup hn hy hmem hid
        rw [Option.some.inj (hxy.symm.trans ha)]
  · rintro rfl
    exact ⟨(mem_chainEnds_iff hn hpath.1 hmem).mpr
      ((mem_chainPairs_iff ⟨a, hpath⟩).mpr (.inr ⟨hmem, hside, ha⟩)), .inr rfl⟩

theorem held_of_eqvGen (hn : (nodes.map (·.id)).Nodup) {x y : String}
    (h : EqvGen (fun x y => (x, y) ∈ chainEnds nodes) x y) :
    x = y ∨ ∃ a ∈ nodes, ∃ b ∈ nodes, a.id = x ∧ b.id = y ∧ Held (chainPairs nodes) a b := by
  induction h with
  | rel x y he =>
    obtain ⟨a, ha, b, hb, he, hp⟩ := exists_of_mem_chainEnds he
    obtain ⟨rfl, rfl⟩ := Prod.mk.inj he
    exact .inr ⟨a, ha, b, hb, rfl, rfl, .of_mem hp⟩
  | refl x => exact .inl rfl
  | symm x y _ ih =>
    rcases ih with rfl | ⟨a, ha, b, hb, hax, hby, hab⟩
    · exact .inl rfl
    · exact .inr ⟨b, hb, a, ha, hby, hax, hab.symm⟩
  | trans x y z _ _ ih ih' =>
    rcases ih with rfl | ⟨a, ha, b, hb, hax, hby, hab⟩
    · exact ih'
    rcases ih' with rfl | ⟨b', hb', c, hc, hby', hcz, hbc⟩
    · exact .inr ⟨a, ha, b, hb, hax, hby, hab⟩
    obtain rfl := Spec.node_ext_of_nodup hn hb hb' (hby.trans hby'.symm)
    exact .inr ⟨a, ha, c, hc, hax, hcz, hab.trans hbc⟩

theorem eqvGen_of_held (h : Held (chainPairs nodes) a b) :
    EqvGen (fun x y => (x, y) ∈ chainEnds nodes) a.id b.id := by
  induction h with
  | rel a b hp => exact .rel _ _ (List.mem_map.mpr ⟨(a, b), hp, rfl⟩)
  | refl => exact .refl _
  | symm _ _ _ ih => exact .symm _ _ ih
  | trans _ _ _ _ _ ih ih' => exact .trans _ _ _ ih ih'

theorem eqvGen_iff_held (hn : (nodes.map (·.id)).Nodup) :
    (∀ x ∈ nodes.map (·.id), ∀ y ∈ nodes.map (·.id),
      EqvGen (fun x y => (x, y) ∈ chainEnds nodes) x y) ↔
        ∀ a ∈ nodes, ∀ b ∈ nodes, Held (chainPairs nodes) a b := by
  rw [List.forall_mem_map]
  refine forall₂_congr fun a ha => ?_
  rw [List.forall_mem_map]
  refine forall₂_congr fun b hb => ⟨fun h => ?_, eqvGen_of_held⟩
  rcases held_of_eqvGen hn h with hid | ⟨a', ha', b', hb', hid, hid', hheld⟩
  · rw [Spec.node_ext_of_nodup hn ha hb hid]
    exact .refl b
  · rwa [← Spec.node_ext_of_nodup hn ha' ha hid, ← Spec.node_ext_of_nodup hn hb' hb hid']

end Pairs

/-- **The graph of nodes placed from scratch.** Nodes with different ids can be placed. Path nodes
are joined by the covering relation of their places, side nodes are hung off them, there is no cycle
and the whole holds together unless there are several path nodes and all at one place. -/
theorem chain_chained {nodes : List Node} (hn : (nodes.map (·.id)).Nodup) :
    ∃ connections, chain nodes = .ok connections ∧
      Chained nodes (connections.map (·.ends)) := by
  refine ⟨_, chain_eq hn, ?_⟩
  have hends : ((chainPairs nodes).map joining).map (·.ends) = chainEnds nodes := by
    rw [List.map_map]
    rfl
  rw [hends]
  exact {
    nodup := nodup_chainEnds hn
    no_loop := fun e he hloop => by
      obtain ⟨a, ha, b, hb, rfl, hp⟩ := exists_of_mem_chainEnds he
      obtain ⟨-, -, hin⟩ := inward_of_mem_chainPairs hp
      exact hin.ne (.of_map _ hn) (Spec.node_ext_of_nodup hn ha hb hloop)
    ends_mem := fun e he => by
      obtain ⟨a, ha, b, hb, rfl, -⟩ := exists_of_mem_chainEnds he
      exact ⟨List.mem_map_of_mem ha, List.mem_map_of_mem hb⟩
    along := fun a ha b hb has hbs => by
      rw [mem_chainEnds_iff hn ha hb, mem_chainPairs_iff ⟨a, ha, has⟩]
      simp [ha, has, hb, hbs]
    aside := fun hp n hmem hside => by
      obtain ⟨a, ha⟩ := exists_sideAnchor? hp n
      exact ⟨a, hangsOff ha, mem_chainEnds_aside hn hmem hside ha⟩
    inRow := fun hp => by
      rw [chainEnds, chainPairs_of_no_path hp, ← List.map_tail, List.zip_map]
      rfl
    acyclic := not_transGen_of_inward hn fun e he => by
      obtain ⟨a, ha, b, hb, he, hp⟩ := exists_of_mem_chainEnds he
      exact ⟨a, ha, b, hb, he, (inward_of_mem_chainPairs hp).2.2⟩
    connected := (eqvGen_iff_held hn).trans held_iff_not_level }

/-- Two servers at one place between a firewall and a database. The directory is hung off the last
of them. The backup says that it stands outside, where there is no path node. -/
def serverRoom : List Node :=
  [⟨"db", .dbServer, "Data", none, none, none⟩, ⟨"web-a", .webServer, "A", none, none, none⟩,
    ⟨"directory", .ldapAd, "Users", none, none, none⟩, ⟨"web-b", .webServer, "B", none, none, none⟩,
    ⟨"backup", .backup, "Copies", some .external, none, none⟩,
    ⟨"fw", .firewall, "Firewall", none, none, none⟩]

theorem chain_chained_serverRoom : (serverRoom.map (·.id)).Nodup ∧ Chained serverRoom
    [("fw", "web-a"), ("fw", "web-b"), ("web-a", "db"), ("web-b", "db"), ("web-b", "directory"),
      ("fw", "backup")] := by
  have hn : (serverRoom.map (·.id)).Nodup := by decide
  obtain ⟨connections, hchain, hchained⟩ := chain_chained hn
  have hends : (chain serverRoom).map (·.map Connection.ends) = .ok
      [("fw", "web-a"), ("fw", "web-b"), ("web-a", "db"), ("web-b", "db"), ("web-b", "directory"),
        ("fw", "backup")] := by cbv
  rw [hchain] at hends
  exact ⟨hn, Except.ok.inj hends ▸ hchained⟩

end NetSketch
