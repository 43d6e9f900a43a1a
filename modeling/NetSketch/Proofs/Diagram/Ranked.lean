import Mathlib.Data.List.ProdSigma
import NetSketch.Proofs.Diagram.Chain

/-!
# Groups of path nodes in order

The groups on the path are ranked: each is of one place, none is empty, and they stand further and
further in. The pairs of nodes in groups that follow each other are the covering relation of this
order, and two groups or more hold together by them.

* `Ranked`, `ranked_pathGroups`;
* `Covers`, **`mem_pairsAlong_iff`**: the covering relation; `nodup_pairsAlong`;
* `Held`: nodes held together by pairs; **`held_pairsAlong`**.
-/

open Relation (EqvGen)

namespace NetSketch

/-! ## Ranked groups -/

/-- Groups of one place each, none of them empty, that stand further and further in. -/
structure Ranked (groups : List (List Node)) : Prop where
  level : ∀ g ∈ groups, ∀ a ∈ g, ∀ b ∈ g, a.pathKey = b.pathKey
  nonempty : [] ∉ groups
  inwards : groups.Pairwise FurtherOut

theorem ranked_pathGroups {path : List Node} : Ranked (pathGroups path) where
  level _ hg _ ha _ hb := pathKey_eq_of_mem_pathGroups hg ha hb
  nonempty := List.nil_notMem_splitBy _ _
  inwards := pathGroups_pairwise

namespace Ranked

variable {g : List Node} {groups : List (List Node)} {a b : Node}

theorem tail (h : Ranked (g :: groups)) : Ranked groups where
  level k hk := h.level k (List.mem_cons_of_mem _ hk)
  nonempty hk := h.nonempty (List.mem_cons_of_mem _ hk)
  inwards := h.inwards.tail

theorem exists_mem (h : Ranked (g :: groups)) : ∃ a, a ∈ g :=
  List.exists_mem_of_ne_nil g fun hg => h.nonempty (hg ▸ List.mem_cons_self)

theorem before_of_mem (h : Ranked (g :: groups)) (ha : a ∈ g) (hb : b ∈ groups.flatten) :
    a.pathKey.before b.pathKey = true := by
  obtain ⟨k, hk, hb⟩ := List.mem_flatten.mp hb
  exact (List.pairwise_cons.mp h.inwards).1 k hk a ha b hb

theorem not_before_of_mem (h : Ranked (g :: groups)) (ha : a ∈ g) (hb : b ∈ groups.flatten) :
    b.pathKey.before a.pathKey = false :=
  PathKey.not_before_of_before (h.before_of_mem ha hb)

theorem not_before_of_level (h : Ranked (g :: groups)) (ha : a ∈ g) (hb : b ∈ g) :
    a.pathKey.before b.pathKey = false := by
  rw [h.level g List.mem_cons_self a ha b hb]
  exact PathKey.before_irrefl

end Ranked

/-! ## The covering relation -/

theorem mem_pairsAlong_cons {g h : List Node} {groups : List (List Node)} {a b : Node} :
    (a, b) ∈ pairsAlong (g :: h :: groups) ↔
      (a ∈ g ∧ b ∈ h) ∨ (a, b) ∈ pairsAlong (h :: groups) := by
  rw [pairsAlong, List.mem_append]
  simp

theorem mem_flatten_of_mem_pairsAlong {groups : List (List Node)} {a b : Node}
    (h : (a, b) ∈ pairsAlong groups) : a ∈ groups.flatten ∧ b ∈ groups.flatten := by
  obtain ⟨g, g', hsub, ha, hb⟩ := mem_pairsAlong h
  exact ⟨List.mem_flatten.mpr ⟨g, hsub.subset (by simp), ha⟩,
    List.mem_flatten.mpr ⟨g', hsub.subset (by simp), hb⟩⟩

/-- One node of a path covers another: it stands further out, and none stands between them. -/
def Covers (path : List Node) (a b : Node) : Prop :=
  a ∈ path ∧ b ∈ path ∧ a.pathKey.before b.pathKey = true ∧
    ∀ c ∈ path, ¬ (a.pathKey.before c.pathKey = true ∧ c.pathKey.before b.pathKey = true)

/-- The nodes of the first group cover those of the second one and no others. -/
theorem Ranked.covers_cons {g g' : List Node} {rest : List (List Node)} {a b : Node}
    (h : Ranked (g :: g' :: rest)) : Covers (g :: g' :: rest).flatten a b ↔
      (a ∈ g ∧ b ∈ g') ∨ Covers (g' :: rest).flatten a b := by
  rw [List.flatten_cons]
  constructor
  · rintro ⟨ha, hb, hab, hnone⟩
    rcases List.mem_append.mp ha with ha | ha <;> rcases List.mem_append.mp hb with hb | hb
    · simp [h.not_before_of_level ha hb] at hab
    · left
      rcases List.mem_append.mp hb with hb | hb
      · exact ⟨ha, hb⟩
      -- Any node of the second group stands between.
      obtain ⟨c, hc⟩ := h.tail.exists_mem
      have hc' : c ∈ (g' :: rest).flatten := List.mem_append_left _ hc
      exact absurd ⟨h.before_of_mem ha hc', h.tail.before_of_mem hc hb⟩
        (hnone c (List.mem_append_right _ hc'))
    · simp [h.not_before_of_mem hb ha] at hab
    · exact Or.inr ⟨ha, hb, hab, fun c hc => hnone c (List.mem_append_right _ hc)⟩
  · rintro (⟨ha, hb⟩ | ⟨ha, hb, hab, hnone⟩)
    · have hb' : b ∈ (g' :: rest).flatten := List.mem_append_left _ hb
      refine ⟨List.mem_append_left _ ha, List.mem_append_right _ hb', h.before_of_mem ha hb', ?_⟩
      rintro c hc ⟨hac, hcb⟩
      rcases List.mem_append.mp hc with hc | hc
      · simp [h.not_before_of_level ha hc] at hac
      rcases List.mem_append.mp hc with hc | hc
      · simp [h.tail.not_before_of_level hc hb] at hcb
      · simp [h.tail.not_before_of_mem hb hc] at hcb
    · refine ⟨List.mem_append_right _ ha, List.mem_append_right _ hb, hab, ?_⟩
      rintro c hc ⟨hac, hcb⟩
      rcases List.mem_append.mp hc with hc | hc
      · simp [h.not_before_of_mem hc ha] at hac
      · exact hnone c hc ⟨hac, hcb⟩

/-- **Neighbouring groups are joined by the covering relation.** -/
theorem mem_pairsAlong_iff {groups : List (List Node)} (h : Ranked groups) {a b : Node} :
    (a, b) ∈ pairsAlong groups ↔ Covers groups.flatten a b := by
  induction groups with
  | nil => simp [pairsAlong, Covers]
  | cons g rest ih =>
    cases rest with
    | nil =>
      refine iff_of_false List.not_mem_nil ?_
      rintro ⟨ha, hb, hab, -⟩
      rw [List.flatten_singleton] at ha hb
      simp [h.not_before_of_level ha hb] at hab
    | cons g' rest => rw [mem_pairsAlong_cons, ih h.tail, h.covers_cons]

theorem nodup_pairsAlong {groups : List (List Node)} (h : groups.flatten.Nodup) :
    (pairsAlong groups).Nodup := by
  induction groups with
  | nil => exact List.nodup_nil
  | cons g rest ih =>
    cases rest with
    | nil => exact List.nodup_nil
    | cons g' rest =>
      obtain ⟨hg, hrest, hdis⟩ := List.nodup_append'.mp (List.flatten_cons ▸ h)
      have hg' := (List.nodup_append'.mp (List.flatten_cons ▸ hrest)).1
      refine List.nodup_append'.mpr ⟨hg.product hg', ih hrest, ?_⟩
      rintro ⟨a, b⟩ hp hp'
      exact hdis (List.mem_product.mp hp).1 (mem_flatten_of_mem_pairsAlong hp').1

/-! ## What holds together -/

/-- Nodes are held together by pairs, read in either direction. -/
def Held (pairs : List (Node × Node)) : Node → Node → Prop := EqvGen fun a b => (a, b) ∈ pairs

namespace Held

variable {pairs pairs' : List (Node × Node)} {a b c : Node}

theorem of_mem (h : (a, b) ∈ pairs) : Held pairs a b := .rel _ _ h

theorem refl (a : Node) : Held pairs a a := EqvGen.refl a

theorem symm (h : Held pairs a b) : Held pairs b a := EqvGen.symm _ _ h

theorem trans (hab : Held pairs a b) (hbc : Held pairs b c) : Held pairs a c :=
  EqvGen.trans _ _ _ hab hbc

theorem mono (hsub : pairs ⊆ pairs') (h : Held pairs a b) : Held pairs' a b :=
  EqvGen.mono (fun _ _ hp => hsub hp) _ _ h

theorem eq_of_forall {α : Type} {f : Node → α} (hf : ∀ p ∈ pairs, f p.1 = f p.2)
    (h : Held pairs a b) : f a = f b := by
  induction h with
  | rel a b hp => exact hf (a, b) hp
  | refl => rfl
  | symm _ _ _ ih => exact ih.symm
  | trans _ _ _ _ _ ih ih' => exact ih.trans ih'

end Held

theorem held_pairsAlong_cons {g g' : List Node} {groups : List (List Node)}
    (h : Ranked (g :: g' :: groups))
    (hrest : ∀ a ∈ (g' :: groups).flatten, ∀ b ∈ (g' :: groups).flatten,
      Held (pairsAlong (g :: g' :: groups)) a b) :
    ∀ a ∈ (g :: g' :: groups).flatten, ∀ b ∈ (g :: g' :: groups).flatten,
      Held (pairsAlong (g :: g' :: groups)) a b := by
  obtain ⟨c, hc⟩ := h.tail.exists_mem
  have hto : ∀ a ∈ (g :: g' :: groups).flatten, Held (pairsAlong (g :: g' :: groups)) a c := by
    intro a ha
    rcases List.mem_append.mp ha with ha | ha
    · exact .of_mem (mem_pairsAlong_cons.mpr (.inl ⟨ha, hc⟩))
    · exact hrest a ha c (List.mem_append_left _ hc)
  exact fun a ha b hb => (hto a ha).trans (hto b hb).symm

/-- **Two groups or more hold together.** -/
theorem held_pairsAlong {g g' : List Node} {groups : List (List Node)}
    (h : Ranked (g :: g' :: groups)) :
    ∀ a ∈ (g :: g' :: groups).flatten, ∀ b ∈ (g :: g' :: groups).flatten,
      Held (pairsAlong (g :: g' :: groups)) a b := by
  induction groups generalizing g g' with
  | nil =>
    refine held_pairsAlong_cons h fun a ha b hb => ?_
    rw [List.flatten_singleton] at ha hb
    -- Both are joined to any node of the first group.
    obtain ⟨o, ho⟩ := h.exists_mem
    have hjoined : ∀ a ∈ g', Held (pairsAlong [g, g']) o a :=
      fun a ha => .of_mem (mem_pairsAlong_cons.mpr (.inl ⟨ho, ha⟩))
    exact (hjoined a ha).symm.trans (hjoined b hb)
  | cons k rest ih =>
    refine held_pairsAlong_cons h fun a ha b hb => ?_
    exact (ih h.tail a ha b hb).mono (List.subset_append_right _ _)

end NetSketch
