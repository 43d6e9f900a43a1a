import Mathlib.Data.List.Forall2
import NetSketch.Proofs.Prompt.Reference

/-!
# Nodes named by their types

A text without the id of any node names nodes by their types: of every type that it mentions, and
that is there, the first node. A mention that begins inside an earlier one that counts does not
count.

* `Prompt.StandsAlone`, `Prompt.find_idAlone`: an id by itself in a text;
* `Spec.counted`: the mentions that count;
* `Spec.Names`, `Spec.withMention_names`: what each mention adds;
* **`Spec.mem_types_named`**: the types of the nodes that are named.
-/

namespace NetSketch

open Prompt Text Text.Pattern

/-! ## Ids by themselves -/

namespace Text.Pattern

variable {step : Place → Option Place} {before l row : List Char} {index : Nat}
  {at_ next : Place}

theorem findFrom_eq_none : findFrom step before index l = none ↔
    ∀ u v, l = u ++ v → step ⟨u.reverse ++ before, v, index + u.length, []⟩ = none := by
  induction l generalizing before index with
  | nil =>
    rw [findFrom, Option.map_eq_none_iff]
    constructor
    · intro h u v huv
      obtain ⟨rfl, rfl⟩ := List.append_eq_nil_iff.mp huv.symm
      exact h
    · intro h
      exact h [] [] rfl
  | cons c l ih =>
    rw [findFrom]
    cases hstep : step ⟨before, c :: l, index, []⟩ with
    | some stop =>
      refine iff_of_false nofun fun h => ?_
      cases hstep.symm.trans (h [] (c :: l) rfl)
    | none =>
      have hshift (u v : List Char) :
          (⟨u.reverse ++ c :: before, v, index + 1 + u.length, []⟩ : Place) =
            ⟨(c :: u).reverse ++ before, v, index + (c :: u).length, []⟩ := by
        simp [Nat.add_assoc, Nat.add_comm 1]
      rw [ih]
      constructor
      · intro h u v huv
        cases u with
        | nil =>
          obtain rfl : c :: l = v := huv
          exact hstep
        | cons d u =>
          obtain ⟨rfl, rfl⟩ := List.cons.inj huv
          exact hshift u v ▸ h u v rfl
      · intro h u v huv
        exact hshift u v ▸ h (c :: u) v (by rw [huv]; rfl)

theorem skipText_eq_some : skipText false row at_ = some next ↔
    ∃ rest, at_.after = row ++ rest ∧ next = { at_ with
      before := row.reverse ++ at_.before, after := rest, index := at_.index + row.length } := by
  induction row generalizing at_ with
  | nil =>
    simp only [skipText, Option.some.injEq, List.nil_append, exists_eq_left', List.reverse_nil,
      List.length_nil, Nat.add_zero]
    exact eq_comm
  | cons d row ih =>
    obtain ⟨before, after, index, groups⟩ := at_
    cases after with
    | nil => simp [skipText]
    | cons c after =>
      rw [skipText]
      change (if c == d then _ else _) = _ ↔ _
      split_ifs with hcd
      · obtain rfl := beq_iff_eq.mp hcd
        rw [ih]
        simp [Nat.add_assoc, Nat.add_comm 1]
      · refine iff_of_false nofun ?_
        rintro ⟨rest, hrest, -⟩
        exact hcd (beq_iff_eq.mpr (List.cons.inj hrest).1)

end Text.Pattern

namespace Prompt

/-- An id stands by itself in a text: none of the characters of ids is next to it. -/
def StandsAlone (id text : String) : Prop :=
  ∃ before after : List Char, text.toList = before ++ (id.toList ++ after) ∧
    (∀ c ∈ before.getLast?, idChar.admits c = false) ∧ ∀ c ∈ after.head?, idChar.admits c = false

theorem run_idAlone {id : String} {before after : List Char} {index : Nat} :
    (idAlone id).run false ⟨before, after, index, []⟩ some = none ↔
      ¬ ∃ rest, after = id.toList ++ rest ∧ (∀ c ∈ before.head?, idChar.admits c = false) ∧
        ∀ c ∈ rest.head?, idChar.admits c = false := by
  have hbefore : endsWith false [idChar] before = true ↔
      ¬ ∀ c ∈ before.head?, idChar.admits c = false := by
    cases before <;> simp [endsWith, seen]
  have hbehind (next : Place) : ((one idChar).run false next some).isSome = true ↔
      ¬ ∀ c ∈ next.after.head?, idChar.admits c = false := by
    obtain ⟨_, after, _, _⟩ := next
    cases after <;> simp [run, seen]
  change (if endsWith false [idChar] before then none
    else (skipText false id.toList ⟨before, after, index, []⟩).bind fun next =>
      if ((one idChar).run false next some).isSome then none else some next) = none ↔ _
  simp only [hbefore, hbehind]
  split_ifs with hopen
  · rw [Option.bind_eq_none_iff]
    simp only [skipText_eq_some]
    constructor
    · rintro h ⟨rest, hrest, -, hclosed⟩
      have := h _ ⟨rest, hrest, rfl⟩
      rw [if_neg (not_not.mpr hclosed)] at this
      cases this
    · rintro h next ⟨rest, hrest, rfl⟩
      exact if_pos fun hclosed => h ⟨rest, hrest, hopen, hclosed⟩
  · refine iff_of_true rfl ?_
    rintro ⟨_, -, h, -⟩
    exact hopen h

/-- **An id is found in a text exactly if it stands there by itself.** -/
theorem find_idAlone {id text : String} :
    (idAlone id).find false text = none ↔ ¬ StandsAlone id text := by
  rw [find, findFrom_eq_none]
  simp only [run_idAlone, List.append_nil, List.head?_reverse]
  constructor
  · rintro h ⟨u, after, htext, hu, hafter⟩
    exact h u _ htext ⟨after, rfl, hu, hafter⟩
  · rintro h u _ htext ⟨after, rfl, hu, hafter⟩
    exact h ⟨u, after, htext, hu, hafter⟩

instance (id text : String) : Decidable (StandsAlone id text) :=
  decidable_of_iff (((idAlone id).find false text).isSome = true) (by
    rw [← not_iff_not, ← find_idAlone, Bool.not_eq_true, Option.isSome_eq_false_iff,
      Option.isNone_iff_eq_none])

/-! ## Mentions -/

theorem mentions_eq {text : String} {ms : List Mention}
    (h : (nameRules.filterMap fun r => (r.pattern.find true text).map fun m =>
      (⟨r.type, m.start, m.finish⟩ : Mention)) = ms)
    (hsorted : ms.Pairwise fun k m => k.le m = true) : mentions text = ms := by
  rw [mentions, h, List.mergeSort_of_pairwise hsorted]

theorem nodup_types_mentions (text : String) : ((mentions text).map (·.type)).Nodup := by
  have hrules : (nameRules.map (·.type)).Nodup := by decide
  have hsub (rules : List NameRule) : ((rules.filterMap fun r => (r.pattern.find true text).map
      fun m => (⟨r.type, m.start, m.finish⟩ : Mention)).map (·.type)).Sublist
        (rules.map (·.type)) := by
    induction rules with
    | nil => exact .slnil
    | cons r rules ih =>
      rw [List.filterMap_cons]
      cases r.pattern.find true text with
      | none => exact ih.cons _
      | some m => exact ih.cons_cons _
  rw [mentions, ((List.mergeSort_perm _ _).map _).nodup_iff]
  exact hrules.sublist (hsub nameRules)

/-- A mention begins inside another. -/
def Mention.Inside (m k : Mention) : Prop := k.start ≤ m.start ∧ m.start < k.finish

instance (m k : Mention) : Decidable (m.Inside k) :=
  inferInstanceAs (Decidable (_ ∧ _))

end Prompt

namespace Spec

variable {s : Spec} {text : String} {m : Mention} {found : List NamedNode} {ms kept : List Mention}
  {type : Component}

/-- The mentions that count, and one more of a type that is there and outside of them. -/
def count (s : Spec) (kept : List Mention) (m : Mention) : List Mention :=
  if m.type ∈ s.types ∧ ∀ k ∈ kept, ¬ m.Inside k then kept ++ [m] else kept

/-- **The mentions that count**: those of types that are there, unless they begin inside an earlier
one that counts. -/
def counted (s : Spec) (ms : List Mention) : List Mention := ms.foldl s.count []

theorem foldl_count_eq_nil :
    ms.foldl s.count kept = [] ↔ kept = [] ∧ ∀ m ∈ ms, m.type ∉ s.types := by
  induction ms generalizing kept with
  | nil => simp
  | cons m ms ih =>
    rw [List.foldl_cons, ih, List.forall_mem_cons, count]
    split_ifs with h
    · simp [h.1]
    · constructor
      · rintro ⟨rfl, hrest⟩
        exact ⟨rfl, fun hm => h ⟨hm, by simp⟩, hrest⟩
      · rintro ⟨rfl, -, hrest⟩
        exact ⟨rfl, hrest⟩

theorem counted_ne_nil (h : ∃ m ∈ ms, m.type ∈ s.types) : s.counted ms ≠ [] := by
  obtain ⟨m, hm, hthere⟩ := h
  exact fun hnil => (foldl_count_eq_nil.mp hnil).2 m hm hthere

theorem foldl_count_of_apart (h : (kept ++ ms).Pairwise fun k m => ¬ m.Inside k) :
    ms.foldl s.count kept = kept ++ ms.filter (·.type ∈ s.types) := by
  induction ms generalizing kept with
  | nil => simp
  | cons m ms ih =>
    have hout : ∀ k ∈ kept, ¬ m.Inside k := fun k hk =>
      (List.pairwise_append.mp h).2.2 k hk m List.mem_cons_self
    rw [List.foldl_cons, count]
    by_cases hm : m.type ∈ s.types
    · rw [if_pos ⟨hm, hout⟩, ih (by rwa [List.append_assoc]),
        List.filter_cons_of_pos (by simpa using hm), List.append_assoc, List.singleton_append]
    · rw [if_neg fun h => hm h.1, List.filter_cons_of_neg (by simpa using hm)]
      exact ih (h.sublist (List.Sublist.append_left (List.sublist_cons_self m ms) kept))

/-- Where no mention begins inside an earlier one, all types that are there count. -/
theorem mem_types_counted_of_apart (h : ms.Pairwise fun k m => ¬ m.Inside k) :
    type ∈ (s.counted ms).map (·.type) ↔ type ∈ ms.map (·.type) ∧ type ∈ s.types := by
  have hcounted : s.counted ms = ms.filter (·.type ∈ s.types) := foldl_count_of_apart h
  rw [hcounted]
  simp only [List.mem_map, List.mem_filter, decide_eq_true_eq]
  constructor
  · rintro ⟨m, ⟨hm, hthere⟩, rfl⟩
    exact ⟨⟨m, hm, rfl⟩, hthere⟩
  · rintro ⟨⟨m, hm, rfl⟩, hthere⟩
    exact ⟨m, ⟨hm, hthere⟩, rfl⟩

/-- For every mention that counts a node of its type was named. -/
def Names (s : Spec) (found : List NamedNode) (kept : List Mention) : Prop :=
  List.Forall₂ (fun f k => f.start = k.start ∧ f.finish = k.finish ∧ f.node ∈ s.nodes ∧
    f.node.type = k.type) found kept

theorem Names.types (h : s.Names found kept) :
    found.map (·.node.type) = kept.map (·.type) := by
  induction h with
  | nil => rfl
  | cons hfk _ ih => rw [List.map_cons, List.map_cons, hfk.2.2.2, ih]

theorem Names.covered (h : s.Names found kept) :
    (found.any fun f => f.start ≤ m.start && m.start < f.finish) = true ↔
      ∃ k ∈ kept, m.Inside k := by
  induction h with
  | nil => simp
  | cons hfk _ ih => simp [ih, hfk.1, hfk.2.1, Mention.Inside]

theorem Names.mem_types (h : s.Names found kept) {f : NamedNode} (hf : f ∈ found) :
    f.node ∈ s.nodes ∧ f.node.type ∈ kept.map (·.type) := by
  refine ⟨?_, h.types ▸ List.mem_map_of_mem hf⟩
  induction h with
  | nil => cases hf
  | cons hfk _ ih =>
    rcases List.mem_cons.mp hf with rfl | hf
    · exact hfk.2.2.1
    · exact ih hf

/-- **What a mention adds**: the first node of its type, if it counts. -/
theorem withMention_names (hs : s.ids.Nodup) (h : s.Names found kept)
    (hnew : m.type ∉ kept.map (·.type)) : s.Names (s.withMention found m) (s.count kept m) := by
  -- whatever was named before is of another type
  have hfree : ∀ n ∈ s.nodesOfType m.type, (!found.any (·.node.id == n.id)) = true := by
    intro n hn
    obtain ⟨hn, htype⟩ := mem_nodesOfType.mp hn
    by_contra hany
    obtain ⟨f, hf, hid⟩ : ∃ f ∈ found, f.node.id = n.id := by simpa using hany
    obtain ⟨hmem, hkept⟩ := h.mem_types hf
    obtain rfl := node_ext_of_nodup hs hmem hn hid
    exact hnew (htype ▸ hkept)
  unfold withMention count
  by_cases hin : ∃ k ∈ kept, m.Inside k
  · rw [if_pos (h.covered.mpr hin), if_neg]
    · exact h
    · rintro ⟨-, hout⟩
      obtain ⟨k, hk, hmk⟩ := hin
      exact hout k hk hmk
  · rw [if_neg (mt h.covered.mp hin)]
    split
    · rename_i n hn
      obtain ⟨hmem, htype⟩ := mem_nodesOfType.mp (List.mem_of_find?_eq_some hn)
      rw [if_pos ⟨htype ▸ List.mem_map_of_mem hmem, by simpa using hin⟩]
      exact List.rel_append h (.cons ⟨rfl, rfl, hmem, htype⟩ .nil)
    · rename_i hnone
      rw [if_neg]
      · exact h
      · rintro ⟨hthere, -⟩
        obtain ⟨n, hn, htype⟩ := List.mem_map.mp hthere
        have hof := mem_nodesOfType.mpr ⟨hn, htype⟩
        exact List.find?_eq_none.mp hnone n hof (hfree n hof)

theorem foldl_withMention_names (hs : s.ids.Nodup) (h : s.Names found kept)
    (hms : ((kept ++ ms).map (·.type)).Nodup) :
    s.Names (ms.foldl s.withMention found) (ms.foldl s.count kept) := by
  induction ms generalizing found kept with
  | nil => exact h
  | cons m ms ih =>
    have hnew : m.type ∉ kept.map (·.type) := by
      rw [List.map_append, List.map_cons, List.nodup_append] at hms
      exact fun hm => hms.2.2 _ hm _ List.mem_cons_self rfl
    refine ih (withMention_names hs h hnew) ?_
    unfold count
    split_ifs
    · rwa [List.append_assoc]
    · refine hms.sublist (List.Sublist.map _ ?_)
      exact List.Sublist.append_left (List.sublist_cons_self m ms) kept

theorem named_eq_singleton {n : Node}
    (h : ((mentions (lower text)).foldl s.withMention (s.namedById (lower text))).map (·.node) =
      [n]) : s.named text = [n] :=
  List.perm_singleton.mp (h ▸ (List.mergeSort_perm _ _).map _)

/-- **The types of the nodes that a text without ids names** are those of the mentions that
count. -/
theorem mem_types_named (hs : s.ids.Nodup)
    (hnone : ∀ n ∈ s.nodes, ¬ StandsAlone (lower n.id) (lower text)) :
    type ∈ (s.named text).map (·.type) ↔
      type ∈ (s.counted (mentions (lower text))).map (·.type) := by
  have hids : s.namedById (lower text) = [] := by
    refine List.filterMap_eq_nil_iff.mpr fun n hn => ?_
    rw [find_idAlone.mpr (hnone n hn)]
    rfl
  have hnames : s.Names ((mentions (lower text)).foldl s.withMention (s.namedById (lower text)))
      (s.counted (mentions (lower text))) :=
    foldl_withMention_names hs (hids ▸ .nil) (nodup_types_mentions _)
  rw [← hnames.types, named, List.map_map]
  exact ((List.mergeSort_perm _ _).map _).mem_iff

end Spec

end NetSketch
