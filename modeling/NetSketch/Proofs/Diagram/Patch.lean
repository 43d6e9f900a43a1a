import Mathlib.Data.Finset.SDiff
import NetSketch.Knowledge.Risk
import NetSketch.Proofs.Diagram.WellFormed
import NetSketch.Proofs.Json.Course

/-!
# Differences as patches

The difference between two diagrams turns the one into the other: what is removed is taken out, what
is modified gets its new type and label, and what is added is put behind. No node and no connection
is counted twice in it, and read backwards it is the difference the other way round.

* `Node.face`, `Diff.renew`, `Diff.patch`: a difference carried out on nodes;
* `Diff.Patches`: what makes a difference an exact patch;
* `Diff.mem_removed_between`, `Diff.mem_modified_between` and their like: the parts of a difference;
* `Diff.patch_between`, `Diff.perm_modified_swap`, `Diff.length_sub_length`: what it gives, what it
  is backwards and how many nodes it adds; **`Diff.between_patches`**: all of this.
-/

namespace NetSketch

/-- What counts of a node: its id, its type and its label. -/
def Node.face (n : Node) : String × Component × String := (n.id, n.type, n.label)

theorem Spec.nodup_ids_of_sublist {s : Spec} (hs : s.ids.Nodup) {l : List Node}
    (h : l.Sublist s.nodes) : (l.map (·.id)).Nodup :=
  List.Nodup.sublist (h.map Node.id) hs

namespace Diff

variable {before after : Spec} {d : Diff} {m n : Node} {e : String × String}

/-! ## Patches -/

/-- A node with its new type and label, if it has been modified. -/
def renew (d : Diff) (n : Node) : Node :=
  match d.modified.find? (·.2.id == n.id) with
  | some (_, m) => { n with type := m.type, label := m.label }
  | none => n

/-- A difference carried out on nodes: the removed ones are taken out, the modified ones get their
new type and label, and the added ones are put behind. -/
def patch (d : Diff) (nodes : List Node) : List Node :=
  (nodes.filter fun n => !(d.removed.map (·.id)).contains n.id).map d.renew ++ d.added

/-- **A difference is an exact patch** from one diagram to another: carried out it gives the other
one, it is about nothing but what differs, and none of its parts meet. -/
structure Patches (d : Diff) (before after : Spec) : Prop where
  nodes : ((d.patch before.nodes).map (·.face)).Perm (after.nodes.map (·.face))
  ends : before.ends.toFinset \ d.removedEnds.toFinset ∪ d.addedEnds.toFinset = after.ends.toFinset
  removed : ∀ n ∈ d.removed, n ∈ before.nodes ∧ n.id ∉ after.ids
  modified : ∀ p ∈ d.modified, p.1 ∈ before.nodes ∧ p.2 ∈ after.nodes ∧ p.1.id = p.2.id ∧
    p.1.face ≠ p.2.face
  added : ∀ n ∈ d.added, n ∈ after.nodes ∧ n.id ∉ before.ids
  removedEnds : ∀ e ∈ d.removedEnds, e ∈ before.ends ∧ e ∉ after.ends
  addedEnds : ∀ e ∈ d.addedEnds, e ∈ after.ends ∧ e ∉ before.ends
  ids_nodup : (d.removed.map (·.id) ++ d.modified.map (·.2.id) ++ d.added.map (·.id)).Nodup
  ends_nodup : (d.removedEnds ++ d.addedEnds).Nodup

/-! ## The parts of a difference -/

theorem mem_removed_between : n ∈ (between before after).removed ↔
    n ∈ before.nodes ∧ n.id ∉ after.ids := by
  simp [between]

theorem mem_added_between : n ∈ (between before after).added ↔
    n ∈ after.nodes ∧ n.id ∉ before.ids := @mem_removed_between after before n

theorem mem_addedEnds_between : e ∈ (between before after).addedEnds ↔
    e ∈ after.ends ∧ e ∉ before.ends := by
  simp [between, List.mem_eraseDups]

theorem mem_removedEnds_between : e ∈ (between before after).removedEnds ↔
    e ∈ before.ends ∧ e ∉ after.ends := @mem_addedEnds_between after before e

theorem face_ne_iff (h : m.id = n.id) :
    m.face ≠ n.face ↔ m.type ≠ n.type ∨ m.label ≠ n.label := by
  simp [Node.face, h, Classical.or_iff_not_imp_left]

theorem mem_modified_between (hb : before.ids.Nodup) : (m, n) ∈ (between before after).modified ↔
    m ∈ before.nodes ∧ n ∈ after.nodes ∧ m.id = n.id ∧ m.face ≠ n.face := by
  have hfound : (m, n) ∈ (between before after).modified ↔ n ∈ after.nodes ∧
      before.node? n.id = some m ∧ (m.type ≠ n.type ∨ m.label ≠ n.label) := by
    simp only [between, List.mem_filterMap]
    constructor
    · rintro ⟨n', hn', h⟩
      split at h
      · split_ifs at h with hchanged
        obtain ⟨rfl, rfl⟩ := Prod.mk.inj (Option.some.inj h)
        exact ⟨hn', ‹_›, hchanged⟩
      · cases h
    · rintro ⟨hn, hm, hchanged⟩
      exact ⟨n, hn, by simp only [hm, if_pos hchanged]⟩
  rw [hfound, Spec.node?_eq_some hb]
  constructor
  · rintro ⟨hn, ⟨hm, hid⟩, hchanged⟩
    exact ⟨hm, hn, hid, (face_ne_iff hid).mpr hchanged⟩
  · rintro ⟨hm, hn, hid, hchanged⟩
    exact ⟨hn, ⟨hm, hid⟩, (face_ne_iff hid).mp hchanged⟩

/-- Values from each of which one gets back what it was made of come from part of a list. -/
theorem map_filterMap_sublist {α β : Type} {f : α → Option β} {g : β → α}
    (h : ∀ a b, f a = some b → g b = a) (l : List α) : ((l.filterMap f).map g).Sublist l := by
  induction l with
  | nil => exact .slnil
  | cons a l ih =>
    cases hf : f a with
    | none =>
      rw [List.filterMap_cons_none hf]
      exact ih.cons a
    | some b =>
      rw [List.filterMap_cons_some hf, List.map_cons, h a b hf]
      exact ih.cons_cons a

theorem nodup_modified_ids (ha : after.ids.Nodup) :
    ((between before after).modified.map (·.2.id)).Nodup := by
  have hsub : ((between before after).modified.map (·.2)).Sublist after.nodes := by
    refine map_filterMap_sublist (fun n p h => ?_) after.nodes
    split at h
    · split_ifs at h
      exact congrArg Prod.snd (Option.some.inj h).symm
    · cases h
  have := Spec.nodup_ids_of_sublist ha hsub
  rwa [List.map_map] at this

theorem nodup_ids_between (hb : before.ids.Nodup) (ha : after.ids.Nodup) :
    ((between before after).removed.map (·.id) ++ (between before after).modified.map (·.2.id) ++
      (between before after).added.map (·.id)).Nodup := by
  have hremoved : ∀ id ∈ (between before after).removed.map (·.id),
      id ∈ before.ids ∧ id ∉ after.ids := by
    intro id h
    obtain ⟨n, hn, rfl⟩ := List.mem_map.mp h
    exact (mem_removed_between.mp hn).imp_left Spec.id_mem_ids
  have hmodified : ∀ id ∈ (between before after).modified.map (·.2.id),
      id ∈ before.ids ∧ id ∈ after.ids := by
    intro id h
    obtain ⟨⟨m, n⟩, hmem, rfl⟩ := List.mem_map.mp h
    obtain ⟨hm, hn, hid, -⟩ := (mem_modified_between hb).mp hmem
    exact ⟨hid ▸ Spec.id_mem_ids hm, Spec.id_mem_ids hn⟩
  have hadded : ∀ id ∈ (between before after).added.map (·.id), id ∉ before.ids := by
    intro id h
    obtain ⟨n, hn, rfl⟩ := List.mem_map.mp h
    exact (mem_added_between.mp hn).2
  refine List.nodup_append.mpr ⟨List.nodup_append.mpr ⟨?_, nodup_modified_ids ha, ?_⟩, ?_, ?_⟩
  · exact Spec.nodup_ids_of_sublist hb List.filter_sublist
  · rintro id hid _ hid' rfl
    exact (hremoved id hid).2 (hmodified id hid').2
  · exact Spec.nodup_ids_of_sublist ha List.filter_sublist
  · rintro id hid _ hid' rfl
    refine hadded id hid' ?_
    rcases List.mem_append.mp hid with hid | hid
    · exact (hremoved id hid).1
    · exact (hmodified id hid).1

theorem nodup_ends_between :
    ((between before after).removedEnds ++ (between before after).addedEnds).Nodup := by
  refine List.nodup_append.mpr ⟨nodup_eraseDups _, nodup_eraseDups _, ?_⟩
  rintro e he _ he' rfl
  exact (mem_removedEnds_between.mp he).2 (mem_addedEnds_between.mp he').1

/-! ## The difference carried out -/

@[simp] theorem renew_id : (d.renew n).id = n.id := by
  unfold renew
  split <;> rfl

theorem face_renew (hb : before.ids.Nodup) (ha : after.ids.Nodup) (hm : m ∈ before.nodes)
    (hn : n ∈ after.nodes) (hid : m.id = n.id) :
    ((between before after).renew m).face = n.face := by
  unfold renew
  cases hfind : (between before after).modified.find? (·.2.id == m.id) with
  | none =>
    by_contra hchanged
    have hmem : (m, n) ∈ (between before after).modified :=
      (mem_modified_between hb).mpr ⟨hm, hn, hid, hchanged⟩
    simpa [hid] using List.find?_eq_none.mp hfind _ hmem
  | some p =>
    obtain ⟨m', n'⟩ := p
    have hid' : n'.id = m.id := by simpa using List.find?_some hfind
    obtain ⟨-, hn', -, -⟩ := (mem_modified_between hb).mp (List.mem_of_find?_eq_some hfind)
    obtain rfl := Spec.node_ext_of_nodup ha hn' hn (hid'.trans hid)
    rw [Node.face, Node.face, ← hid]

theorem filter_removed_between : (before.nodes.filter fun n =>
    !((between before after).removed.map (·.id)).contains n.id) =
      before.nodes.filter fun n => after.ids.contains n.id := by
  refine List.filter_congr fun n hn => ?_
  have hmem : n.id ∈ (between before after).removed.map (·.id) ↔ n.id ∉ after.ids := by
    constructor
    · intro h
      obtain ⟨m, hm, hid⟩ := List.mem_map.mp h
      exact hid ▸ (mem_removed_between.mp hm).2
    · exact fun h => List.mem_map_of_mem (mem_removed_between.mpr ⟨hn, h⟩)
  by_cases h : n.id ∈ after.ids <;> simp [hmem, h]

theorem perm_kept (hb : before.ids.Nodup) (ha : after.ids.Nodup) :
    (((before.nodes.filter fun n => after.ids.contains n.id).map
      (between before after).renew).map (·.face)).Perm
        ((after.nodes.filter fun n => before.ids.contains n.id).map (·.face)) := by
  have hfst (l : List Node) : (l.map (·.face)).map (·.1) = l.map (·.id) := List.map_map
  refine (List.perm_ext_iff_of_nodup ?_ ?_).mpr fun x => ?_
  · refine .of_map (·.1) ?_
    rw [hfst, List.map_map]
    simpa only [Function.comp_def, renew_id] using Spec.nodup_ids_of_sublist hb List.filter_sublist
  · refine .of_map (·.1) ?_
    rw [hfst]
    exact Spec.nodup_ids_of_sublist ha List.filter_sublist
  · simp only [List.mem_map, List.mem_filter, List.contains_iff_mem]
    constructor
    · rintro ⟨_, ⟨m, ⟨hm, hid⟩, rfl⟩, rfl⟩
      obtain ⟨n, hn, hnm⟩ := Spec.mem_ids.mp hid
      exact ⟨n, ⟨hn, hnm ▸ Spec.id_mem_ids hm⟩, (face_renew hb ha hm hn hnm.symm).symm⟩
    · rintro ⟨n, ⟨hn, hid⟩, rfl⟩
      obtain ⟨m, hm, hmn⟩ := Spec.mem_ids.mp hid
      exact ⟨_, ⟨m, ⟨hm, hmn ▸ Spec.id_mem_ids hn⟩, rfl⟩, face_renew hb ha hm hn hmn⟩

/-- **The difference, carried out on the old nodes, gives the new ones.** -/
theorem patch_between (hb : before.ids.Nodup) (ha : after.ids.Nodup) :
    (((between before after).patch before.nodes).map (·.face)).Perm (after.nodes.map (·.face)) := by
  have hadded : (between before after).added =
      after.nodes.filter fun n => !before.ids.contains n.id := rfl
  rw [patch, filter_removed_between, List.map_append, hadded]
  refine ((perm_kept hb ha).append_right _).trans ?_
  rw [← List.map_append]
  exact (List.filter_append_perm _ _).map _

theorem patches_between (hb : before.ids.Nodup) (ha : after.ids.Nodup) :
    (between before after).Patches before after where
  nodes := patch_between hb ha
  ends := by
    ext e
    simp only [Finset.mem_union, Finset.mem_sdiff, List.mem_toFinset, mem_removedEnds_between,
      mem_addedEnds_between]
    tauto
  removed _ := mem_removed_between.mp
  modified _ := (mem_modified_between hb).mp
  added _ := mem_added_between.mp
  removedEnds _ := mem_removedEnds_between.mp
  addedEnds _ := mem_addedEnds_between.mp
  ids_nodup := nodup_ids_between hb ha
  ends_nodup := nodup_ends_between

theorem length_sub_length (hb : before.ids.Nodup) (ha : after.ids.Nodup) :
    (after.nodes.length : Int) - before.nodes.length =
      (between before after).counts.addedNodes - (between before after).counts.removedNodes := by
  have hkept := (perm_kept hb ha).length_eq
  rw [List.length_map, List.length_map, List.length_map] at hkept
  have hbefore := List.length_eq_length_filter_add (l := before.nodes)
    fun n => after.ids.contains n.id
  have hafter := List.length_eq_length_filter_add (l := after.nodes)
    fun n => before.ids.contains n.id
  change (_ : Int) = ((after.nodes.filter fun n => !before.ids.contains n.id).length : Int) -
    (before.nodes.filter fun n => !after.ids.contains n.id).length
  omega

/-! ## The difference the other way round -/

theorem perm_modified_swap (hb : before.ids.Nodup) (ha : after.ids.Nodup) :
    (between after before).modified.Perm ((between before after).modified.map Prod.swap) := by
  have hnodup {s t : Spec} (ht : t.ids.Nodup) : (between s t).modified.Nodup :=
    .of_map _ (nodup_modified_ids ht)
  refine (List.perm_ext_iff_of_nodup (hnodup hb)
    ((hnodup ha).map Prod.swap_injective)).mpr fun ⟨n, m⟩ => ?_
  have hswap : (n, m) ∈ (between before after).modified.map Prod.swap ↔
      (m, n) ∈ (between before after).modified := by
    rw [List.mem_map]
    constructor
    · rintro ⟨⟨a, b⟩, h, hsame⟩
      obtain ⟨rfl, rfl⟩ := Prod.mk.inj hsame
      exact h
    · exact fun h => ⟨(m, n), h, rfl⟩
  rw [hswap, mem_modified_between ha, mem_modified_between hb, and_left_comm, eq_comm (a := n.id),
    ne_comm]

/-- **Between two diagrams the difference is an exact patch.** Read backwards it is the difference
the other way round, and the risk of the change counts its parts, of which those added and removed
make up the difference in number. -/
theorem between_patches (hb : before.WellFormed) (ha : after.WellFormed) :
    (between before after).Patches before after ∧
      (∃ modified, modified.Perm ((between before after).modified.map Prod.swap) ∧
        between after before =
          { added := (between before after).removed
            removed := (between before after).added
            modified
            addedEnds := (between before after).removedEnds
            removedEnds := (between before after).addedEnds }) ∧
      ((after.nodes.length : Int) - before.nodes.length =
        (between before after).counts.addedNodes - (between before after).counts.removedNodes) ∧
      ∀ (store : Store) (r : Risk), store.risk before after = .ok r →
        r.counts = (between before after).counts := by
  have hbn := hb.ids_nodup
  have han := ha.ids_nodup
  refine ⟨patches_between hbn han, ⟨_, perm_modified_swap hbn han, rfl⟩, length_sub_length hbn han,
    fun store r hr => ?_⟩
  obtain ⟨factors, -, h⟩ := bind_eq_ok.mp hr
  rw [← Except.ok.inj h]

/-- A web server behind a firewall, with its database, told twice of one connection. -/
def oldShop : Spec where
  nodes := [⟨"fw-1", .firewall, "Firewall", none, none, none⟩,
    ⟨"web-1", .webServer, "Web Server", none, none, none⟩,
    ⟨"db-1", .dbServer, "DB Server", none, none, none⟩]
  connections := [⟨"fw-1", "web-1", none, none, none⟩, ⟨"fw-1", "web-1", none, none, none⟩,
    ⟨"web-1", "db-1", none, none, none⟩]

/-- Another firewall in front, the web server turned into an application server, and another label
for the database. -/
def newShop : Spec where
  nodes := [⟨"waf-1", .waf, "WAF", none, none, none⟩,
    ⟨"db-1", .dbServer, "Orders", none, none, none⟩,
    ⟨"web-1", .appServer, "Web Server", none, none, none⟩]
  connections := [⟨"waf-1", "web-1", none, none, none⟩, ⟨"web-1", "db-1", none, none, none⟩]

/-- One node is added and one removed, two are modified, and one connection takes the place of one
that was told twice. -/
theorem between_patches_shop : oldShop.WellFormed ∧ newShop.WellFormed ∧
    (between oldShop newShop).counts = ⟨1, 1, 2, 1, 1⟩ ∧
    (between oldShop newShop).Patches oldShop newShop ∧
    (between newShop oldShop).added = (between oldShop newShop).removed ∧
    ((newShop.nodes.length : Int) - oldShop.nodes.length = 1 - 1) := by
  have hb : oldShop.WellFormed := by decide
  have ha : newShop.WellFormed := by decide
  have hcounts : (between oldShop newShop).counts = ⟨1, 1, 2, 1, 1⟩ := by decide
  obtain ⟨hpatches, ⟨modified, -, hback⟩, hlength, -⟩ := between_patches hb ha
  rw [hcounts] at hlength
  exact ⟨hb, ha, hcounts, hpatches, by rw [hback], hlength⟩

end Diff

end NetSketch
