import Mathlib.Order.Bounds.Basic
import NetSketch.Proofs.Change.Addition

/-!
# How nodes are numbered

A fresh id is looked for among the numbered ids of a name, from the first number on and for as long
as numbers are used. The search has no bound of its own; it ends because a diagram with `k` nodes
uses at most `k` numbers. Nodes that are appended one after the other, each with a fresh id, so get
ids that are told apart.

* `Spec.Searches`: the search, step by step; `Spec.Searches.isLeast`, `Spec.searches_freshFrom`;
* `Spec.Numbered`: nodes appended one after the other; `Spec.Added.numbered`: every addition is
  such a row;
* **`Spec.freshId_first`**: which number is found, and after how many steps.
-/

namespace NetSketch.Spec

variable {s t : Spec} {name : String} {names used ids : List String} {steps m n : ℕ}

/-! ## The search -/

/-- **The search for an unused number.** From `n` on it passes `steps` used numbers and ends at
`m`. -/
inductive Searches (name : String) (used : List String) : ℕ → ℕ → ℕ → Prop
  | found {n : ℕ} (h : numberedId name n ∉ used) : Searches name used 0 n n
  | next {steps n m : ℕ} (h : numberedId name n ∈ used) (hrest : Searches name used steps (n + 1) m) :
      Searches name used (steps + 1) n m

theorem Searches.eq_add (h : Searches name used steps n m) : m = n + steps := by
  induction h with
  | found => rfl
  | next _ _ ih => omega

theorem Searches.isLeast (h : Searches name used steps n m) :
    IsLeast {k | n ≤ k ∧ numberedId name k ∉ used} m := by
  induction h with
  | found h => exact ⟨⟨Nat.le_refl _, h⟩, fun k hk => hk.1⟩
  | @next steps n m h _ ih =>
    obtain ⟨⟨hle, hunused⟩, hleast⟩ := ih
    refine ⟨⟨by omega, hunused⟩, fun k hk => hleast ⟨?_, hk.2⟩⟩
    have hne : k ≠ n := by
      rintro rfl
      exact hk.2 h
    have := hk.1
    omega

/-- With as many tries as lead to an unused number, the bounded search is the search. -/
theorem searches_freshFrom : ∀ {tries n : ℕ}, (∃ k ≤ tries, numberedId name (n + k) ∉ used) →
    ∃ steps ≤ tries, Searches name used steps n (freshFrom name used tries n)
  | 0, n, ⟨k, hk, h⟩ => by
    obtain rfl : k = 0 := by omega
    exact ⟨0, Nat.le_refl 0, .found h⟩
  | tries + 1, n, ⟨k, hk, h⟩ => by
    rw [freshFrom]
    split_ifs with hn
    · have hused : numberedId name n ∈ used := by simpa using hn
      have hk0 : k ≠ 0 := by
        rintro rfl
        exact h hused
      have hreach : ∃ k ≤ tries, numberedId name (n + 1 + k) ∉ used :=
        ⟨k - 1, by omega, by rwa [show n + 1 + (k - 1) = n + k by omega]⟩
      obtain ⟨steps, hsteps, hrest⟩ := searches_freshFrom hreach
      exact ⟨steps + 1, by omega, .next hused hrest⟩
    · exact ⟨0, Nat.zero_le _, .found (by simpa using hn)⟩

/-! ## Nodes in a row -/

/-- **Nodes appended one after the other**, each with a fresh id of its name. What else happens to
the diagram in between has no meaning as long as its nodes stay. -/
inductive Numbered : Spec → List String → Spec → List String → Prop
  | nil {s : Spec} : Numbered s [] s []
  | cons {s t u : Spec} {n : Node} {name : String} {names ids : List String}
      (hid : n.id = s.freshId name) (ht : t.nodes = s.nodes ++ [n])
      (hrest : Numbered t names u ids) : Numbered s (name :: names) u (n.id :: ids)

theorem Numbered.length_eq (h : Numbered s names t ids) : ids.length = names.length := by
  induction h with
  | nil => rfl
  | cons _ _ _ ih => rw [List.length_cons, List.length_cons, ih]

theorem Numbered.ids_eq (h : Numbered s names t ids) : t.ids = s.ids ++ ids := by
  induction h with
  | nil => exact (List.append_nil _).symm
  | @cons s t u n name names ids _ ht _ ih =>
    rw [ih, Spec.ids, ht, List.map_append, List.append_assoc]
    rfl

theorem Numbered.fresh (h : Numbered s names t ids) : ids.Nodup ∧ ids.Disjoint s.ids := by
  induction h with
  | nil => exact ⟨List.nodup_nil, List.disjoint_nil_left _⟩
  | @cons s t u n name names ids hid ht _ ih =>
    have hids : t.ids = s.ids ++ [n.id] := (ids_congr ht).trans (ids_withNode n)
    rw [hids, List.disjoint_append_right, List.disjoint_singleton] at ih
    obtain ⟨hnodup, hold, hnew⟩ := ih
    refine ⟨List.nodup_cons.mpr ⟨hnew, hnodup⟩, List.disjoint_cons_left.mpr ⟨?_, hold⟩⟩
    rw [hid]
    exact freshId_notMem s name

theorem Added.numbered {inRow : Bool} {spot : Spot} {wanted : List Wanted}
    {changes : List Modification} (h : Added inRow spot s wanted t changes) :
    ∃ ids, Numbered s (wanted.map (·.type.name)) t ids := by
  induction h with
  | nil => exact ⟨[], .nil⟩
  | cons hu _ ih =>
    obtain ⟨ids, hids⟩ := ih
    exact ⟨_, .cons rfl hu.nodes_eq hids⟩

/-! ## The number that is found -/

theorem check_ne_duplicateId (h : s.ids.Nodup) (id : String) :
    s.check ≠ .error (.duplicateId id) := by
  intro hcheck
  have hrepeated : firstRepeated [] s.ids = none :=
    firstRepeated_eq_none.mpr ⟨h, fun _ _ => List.not_mem_nil⟩
  rw [check, breach?, hrepeated] at hcheck
  split at hcheck
  · rename_i hbreach
    obtain rfl := Except.error.inj hcheck
    obtain ⟨c, -, hc⟩ := Option.map_eq_some_iff.mp hbreach
    cases hc
  · cases hcheck

/-- **A fresh id has the first number that no node uses.** The search for it ends after at most as
many steps as there are nodes; a node with it breaks no rule about ids; and nodes that are numbered
one after the other, such as those of added components, get ids that are told apart. -/
theorem freshId_first (s : Spec) (name : String) :
    (∃ steps ≤ s.nodes.length, Searches name s.ids steps 1 (1 + steps) ∧
      s.freshId name = numberedId name (1 + steps) ∧
        IsLeast {k | 1 ≤ k ∧ numberedId name k ∉ s.ids} (1 + steps)) ∧
    (∀ n : Node, n.id = s.freshId name → s.ids.Nodup →
      (s.withNode n).ids.Nodup ∧ ∀ id, s.addNode n ≠ .error (.duplicateId id)) ∧
    (∀ names t ids, Numbered s names t ids →
      ids.length = names.length ∧ t.ids = s.ids ++ ids ∧ ids.Nodup ∧ ids.Disjoint s.ids) ∧
    ∀ inRow spot wanted, s.WellFormed → spot.Known s → ∃ t changes ids,
      s.addEach inRow spot wanted = .ok (t, changes) ∧
        Numbered s (wanted.map (·.type.name)) t ids := by
  refine ⟨?_, ?_, ?_, ?_⟩
  · obtain ⟨steps, hsteps, hsearch⟩ := searches_freshFrom (exists_unused name s.ids 1)
    have hfound : freshFrom name s.ids s.ids.length 1 = 1 + steps := hsearch.eq_add
    rw [hfound] at hsearch
    rw [ids, List.length_map] at hsteps
    exact ⟨steps, hsteps, hsearch, congrArg (numberedId name) hfound, hsearch.isLeast⟩
  · intro n hid hnodup
    have hnew : (s.withNode n).ids.Nodup := by
      rw [ids_withNode, ← List.concat_eq_append, List.nodup_concat, hid]
      exact ⟨freshId_notMem s name, hnodup⟩
    exact ⟨hnew, check_ne_duplicateId hnew⟩
  · exact fun names t ids h => ⟨h.length_eq, h.ids_eq, h.fresh⟩
  · intro inRow spot wanted hs hspot
    obtain ⟨t, changes, ht, hadded⟩ := addEach_added hs hspot inRow wanted
    obtain ⟨ids, hids⟩ := hadded.numbered
    exact ⟨t, changes, ids, ht, hids⟩

end NetSketch.Spec
