import Mathlib.Data.List.Nodup
import Mathlib.Data.List.Perm.Subperm
import Std.Data.String.ToNat
import NetSketch.Diagram.Basic

/-!
# Fresh ids

Numbered ids of one name are told apart by their numbers, so of the first numbers one is not used.

* `Spec.numberedId_injective`, `Spec.exists_unused`;
* **`Spec.freshId_notMem`**: no node has a fresh id; `Spec.freshId_not_blank`.
-/

namespace NetSketch.Spec

theorem numberedId_injective (name : String) : Function.Injective (numberedId name) := by
  intro m n h
  exact Nat.repr_injective ((String.append_right_inj (name ++ "-")).mp h)

/-- Of more consecutive numbers than there are ids one is unused. -/
theorem exists_unused (name : String) (used : List String) (n : ℕ) :
    ∃ k ≤ used.length, numberedId name (n + k) ∉ used := by
  by_contra hc
  simp only [not_exists, not_and, not_not] at hc
  have hsub : (List.range (used.length + 1)).map (fun k => numberedId name (n + k)) ⊆ used := by
    intro i hi
    obtain ⟨k, hk, rfl⟩ := List.mem_map.mp hi
    exact hc k (by have := List.mem_range.mp hk; omega)
  have hnd : ((List.range (used.length + 1)).map fun k => numberedId name (n + k)).Nodup :=
    List.nodup_range.map fun i j h => by have := numberedId_injective name h; omega
  have := (hnd.subperm hsub).length_le
  rw [List.length_map, List.length_range] at this
  omega

theorem freshFrom_notMem {name : String} {used : List String} : ∀ {tries n : ℕ},
    (∃ k ≤ tries, numberedId name (n + k) ∉ used) →
      numberedId name (freshFrom name used tries n) ∉ used
  | 0, n, ⟨k, hk, h⟩ => by
    obtain rfl : k = 0 := by omega
    exact h
  | tries + 1, n, ⟨k, hk, h⟩ => by
    rw [freshFrom]
    split_ifs with hn
    · refine freshFrom_notMem ⟨k - 1, by omega, ?_⟩
      have : k ≠ 0 := by rintro rfl; exact h (by simpa using hn)
      rwa [show n + 1 + (k - 1) = n + k by omega]
    · simpa using hn

variable (s : Spec) (name : String)

/-- **No node has a fresh id.** -/
theorem freshId_notMem : s.freshId name ∉ s.ids := freshFrom_notMem (exists_unused name s.ids 1)

theorem freshId_not_blank : Text.isAllBlank (s.freshId name) = false := by
  have : '-' ∈ (s.freshId name).toList := by simp [freshId, numberedId]
  rw [Text.isAllBlank, List.all_eq_false]
  exact ⟨'-', this, by decide⟩

end NetSketch.Spec
