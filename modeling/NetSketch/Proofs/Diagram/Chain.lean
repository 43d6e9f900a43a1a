import Mathlib.Data.List.SplitBy
import NetSketch.Proofs.Diagram.Inward

/-!
# Nodes placed from scratch

The path nodes stand in groups of one place each, the groups from the outside inwards. The
connections from scratch join some pairs of nodes, all of which lead inwards.

* `pathGroups_pairwise`: the order of the groups;
* `chainPairs`: the pairs of nodes that are joined; `inward_of_mem_chainPairs`;
* **`chain_eq`**: nodes with different ids can be placed, and these pairs are joined.
-/

namespace NetSketch

/-! ## Groups of path nodes -/

/-- Every node of one group stands further out than every node of another. -/
def FurtherOut (g g' : List Node) : Prop := ∀ a ∈ g, ∀ b ∈ g', a.pathKey.before b.pathKey = true

/-- Groups in order, each of one place and the next one at another place, stand further and further
in. -/
theorem furtherOut_of_isChain {groups : List (List Node)}
    (hsame : ∀ g ∈ groups, ∀ a ∈ g, ∀ b ∈ g, a.pathKey = b.pathKey)
    (hle : groups.Pairwise fun g g' => ∀ a ∈ g, ∀ b ∈ g', b.pathKey.before a.pathKey = false)
    (hnext : groups.IsChain fun g g' => ∃ a ∈ g, ∃ b ∈ g', a.pathKey ≠ b.pathKey) :
    groups.Pairwise FurtherOut := by
  induction groups with
  | nil => exact List.Pairwise.nil
  | cons g rest ih =>
    obtain ⟨hg, hle⟩ := List.pairwise_cons.mp hle
    have ih := ih (fun g' hg' => hsame g' (List.mem_cons_of_mem _ hg')) hle hnext.tail
    refine List.pairwise_cons.mpr ⟨fun g' hg' => ?_, ih⟩
    cases rest with
    | nil => cases hg'
    | cons h rest =>
      obtain ⟨a₀, ha₀, b₀, hb₀, hne⟩ := (List.isChain_cons_cons.mp hnext).1
      have hgh : FurtherOut g h := by
        intro a ha b hb
        by_contra hab
        refine hne ?_
        rw [hsame g List.mem_cons_self a₀ ha₀ a ha,
          hsame h (List.mem_cons_of_mem _ List.mem_cons_self) b₀ hb₀ b hb]
        exact PathKey.eq_of_not_before (Bool.eq_false_iff.mpr hab)
          (hg h List.mem_cons_self a ha b hb)
      rcases List.mem_cons.mp hg' with rfl | hg'
      · exact hgh
      · intro a ha b hb
        exact PathKey.before_trans (hgh a ha b₀ hb₀)
          ((List.pairwise_cons.mp ih).1 g' hg' b₀ hb₀ b hb)

variable {path : List Node}

theorem flatten_pathGroups :
    (pathGroups path).flatten = path.mergeSort fun a b => !b.pathKey.before a.pathKey :=
  List.flatten_splitBy _ _

theorem mem_flatten_pathGroups {n : Node} : n ∈ (pathGroups path).flatten ↔ n ∈ path := by
  rw [flatten_pathGroups, List.mem_mergeSort]

theorem pathKey_eq_of_mem_pathGroups {g : List Node} (hg : g ∈ pathGroups path) {a b : Node}
    (ha : a ∈ g) (hb : b ∈ g) : a.pathKey = b.pathKey := by
  have hchain := List.isChain_of_mem_splitBy hg
  have hpair : (g.map (·.pathKey)).Pairwise (· = ·) := by
    rw [← List.isChain_iff_pairwise, List.isChain_map]
    exact hchain.imp fun _ _ h => by simpa using h
  exact hpair.forall_of_forall (fun _ _ => rfl) (List.mem_map_of_mem ha) (List.mem_map_of_mem hb)

theorem pairwise_flatten_pathGroups :
    (pathGroups path).flatten.Pairwise fun a b => b.pathKey.before a.pathKey = false := by
  rw [flatten_pathGroups]
  have hsorted : (path.mergeSort fun a b => !b.pathKey.before a.pathKey).Pairwise
      fun a b => (!b.pathKey.before a.pathKey) = true := by
    refine List.pairwise_mergeSort ?_ ?_ path
    · intro a b c hab hbc
      simp only [Bool.not_eq_true', ← Bool.not_eq_true, PathKey.before_iff] at *
      omega
    · intro a b
      simp only [Bool.or_eq_true, Bool.not_eq_true', ← Bool.not_eq_true, PathKey.before_iff]
      omega
  exact hsorted.imp fun h => by simpa using h

/-- **The groups on the path stand further and further in.** -/
theorem pathGroups_pairwise : (pathGroups path).Pairwise FurtherOut := by
  have hsorted := @pairwise_flatten_pathGroups path
  rw [List.pairwise_flatten] at hsorted
  refine furtherOut_of_isChain (fun g hg a ha b hb => pathKey_eq_of_mem_pathGroups hg ha hb) ?_ ?_
  · exact hsorted.2
  · refine (List.isChain_getLast_head_splitBy _ _).imp ?_
    rintro g g' ⟨hg, hg', hne⟩
    exact ⟨_, List.getLast_mem hg, _, List.head_mem hg', by simpa using hne⟩

/-! ## Pairs that are joined -/

/-- The connection that joins a pair of nodes. -/
def joining (p : Node × Node) : Connection :=
  { source := p.1.id, target := p.2.id, flow := defaultFlow }

/-- The pairs of nodes in groups that follow each other. -/
def pairsAlong : List (List Node) → List (Node × Node)
  | g :: h :: rest => (g.flatMap fun a => h.map fun b => (a, b)) ++ pairsAlong (h :: rest)
  | _ => []

/-- **The pairs of nodes that are joined from scratch.** -/
def chainPairs (nodes : List Node) : List (Node × Node) :=
  let groups := pathGroups (nodes.filter (!·.isSide))
  let side := nodes.filter (·.isSide)
  pairsAlong groups ++
    if groups.isEmpty then side.zip side.tail
    else side.filterMap fun n => (sideAnchor? groups.flatten n).map (·, n)

theorem mem_pairsAlong {groups : List (List Node)} {a b : Node} (h : (a, b) ∈ pairsAlong groups) :
    ∃ g g', [g, g'].Sublist groups ∧ a ∈ g ∧ b ∈ g' := by
  induction groups with
  | nil => cases h
  | cons g rest ih =>
    cases rest with
    | nil => cases h
    | cons g' rest =>
      rcases List.mem_append.mp h with h | h
      · have : a ∈ g ∧ b ∈ g' := by simpa using h
        exact ⟨g, g', ((List.nil_sublist rest).cons_cons g').cons_cons g, this⟩
      · obtain ⟨k, k', hsub, hk⟩ := ih h
        exact ⟨k, k', hsub.cons g, hk⟩

theorem sublist_of_mem_zip_tail {α : Type} {l : List α} {x y : α} (h : (x, y) ∈ l.zip l.tail) :
    [x, y].Sublist l := by
  induction l with
  | nil => cases h
  | cons z l ih =>
    cases l with
    | nil => cases h
    | cons w l =>
      rw [List.tail_cons, List.zip_cons_cons] at h
      rcases List.mem_cons.mp h with h | h
      · obtain ⟨rfl, rfl⟩ := Prod.mk.inj h
        exact ((List.nil_sublist l).cons_cons y).cons_cons x
      · exact (ih h).cons z

variable {nodes : List Node}

theorem inward_of_mem_pairsAlong {a b : Node}
    (h : (a, b) ∈ pairsAlong (pathGroups (nodes.filter (!·.isSide)))) :
    a ∈ nodes ∧ b ∈ nodes ∧ Inward nodes a b := by
  obtain ⟨g, g', hsub, ha, hb⟩ := mem_pairsAlong h
  have hmem : ∀ {n k}, k ∈ [g, g'] → n ∈ k → n ∈ nodes ∧ n.isSide = false := by
    intro n k hk hn
    have := mem_flatten_pathGroups.mp (List.mem_flatten.mpr ⟨k, hsub.subset hk, hn⟩)
    simpa using List.mem_filter.mp this
  obtain ⟨ha', has⟩ := hmem (by simp) ha
  obtain ⟨hb', hbs⟩ := hmem (by simp) hb
  have hout := List.pairwise_pair.mp (pathGroups_pairwise.sublist hsub)
  exact ⟨ha', hb', .along has hbs (hout a ha b hb)⟩

/-- **Joined pairs lead inwards.** -/
theorem inward_of_mem_chainPairs {a b : Node} (h : (a, b) ∈ chainPairs nodes) :
    a ∈ nodes ∧ b ∈ nodes ∧ Inward nodes a b := by
  rcases List.mem_append.mp h with h | h
  · exact inward_of_mem_pairsAlong h
  · split_ifs at h
    · have hsub := (sublist_of_mem_zip_tail h)
      have ha := List.mem_filter.mp (hsub.subset List.mem_cons_self)
      have hb := List.mem_filter.mp (hsub.subset (List.mem_cons_of_mem _ List.mem_cons_self))
      exact ⟨ha.1, hb.1, .inRow ha.2 hb.2 (hsub.trans List.filter_sublist)⟩
    · obtain ⟨n, hn, hp⟩ := List.mem_filterMap.mp h
      obtain ⟨anchor, hanchor, hp⟩ := Option.map_eq_some_iff.mp hp
      obtain ⟨rfl, rfl⟩ := Prod.mk.inj hp
      have ha := List.mem_filter.mp (mem_flatten_pathGroups.mp (mem_of_sideAnchor? hanchor))
      have hb := List.mem_filter.mp hn
      exact ⟨ha.1, hb.1, .aside (by simpa using ha.2) hb.2⟩

/-! ## Success -/

theorem mapM_newEdge_eq {pairs : List (Node × Node)} (h : ∀ p ∈ pairs, p.1.id ≠ p.2.id) :
    (pairs.mapM fun (a, b) => newEdge a.id b.id) = .ok (pairs.map joining) := by
  induction pairs with
  | nil => rfl
  | cons p pairs ih =>
    obtain ⟨a, b⟩ := p
    rw [List.mapM_cons, ih fun q hq => h q (List.mem_cons_of_mem _ hq)]
    dsimp only
    rw [newEdge, Connection.between_of_ne (h (a, b) List.mem_cons_self)]
    rfl

theorem edgesAlong_eq {groups : List (List Node)} (h : ∀ p ∈ pairsAlong groups, p.1.id ≠ p.2.id) :
    edgesAlong groups = .ok ((pairsAlong groups).map joining) := by
  induction groups with
  | nil => rfl
  | cons g rest ih =>
    cases rest with
    | nil => rfl
    | cons g' rest =>
      rw [pairsAlong, List.forall_mem_append] at h
      have hacross : edgesAcross g g' =
          .ok ((g.flatMap fun a => g'.map fun b => (a, b)).map joining) := mapM_newEdge_eq h.1
      rw [edgesAlong, hacross, ih h.2, pairsAlong, List.map_append]
      rfl

/-- **Nodes with different ids can be placed from scratch.** -/
theorem chain_eq (h : (nodes.map (·.id)).Nodup) :
    chain nodes = .ok ((chainPairs nodes).map joining) := by
  have hne : ∀ p ∈ chainPairs nodes, p.1.id ≠ p.2.id := by
    rintro ⟨a, b⟩ hp hid
    obtain ⟨ha, hb, hin⟩ := inward_of_mem_chainPairs hp
    exact hin.ne (.of_map _ h) (Spec.node_ext_of_nodup h ha hb hid)
  rw [chainPairs, List.forall_mem_append] at hne
  obtain ⟨halong, hside⟩ := hne
  rw [chain, chainPairs, edgesAlong_eq halong, List.map_append]
  split_ifs at hside ⊢
  · dsimp only
    rw [mapM_newEdge_eq hside]
    rfl
  · dsimp only
    rw [mapM_newEdge_eq hside]
    rfl

end NetSketch
