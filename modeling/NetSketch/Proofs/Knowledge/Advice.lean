import NetSketch.Proofs.Knowledge.Dependency
import NetSketch.Proofs.Knowledge.Ranking
import NetSketch.Proofs.Knowledge.Risk

/-!
# Advice and risk

What a store warns of and suggests after a change, beside what it says of the risk of the change.

* `Store.exists_suggestions`: what there is among the suggestions; `Store.exists_mandatory_iff`: what
  is suggested as mandatory;
* `Factor.fromStore`, `Store.filter_found`: the factors of which a store knows;
* `Store.dependencyBroken_mem_iff`: the broken dependencies among the factors;
* **`Store.warnings_antiPatterns`**: the anti-patterns that are warned of are the severe ones among
  the factors.
-/

namespace NetSketch

variable {store : Store} {before after : Spec} {changed : List Component} {c m : Component}

/-! ## Suggestions -/

/-- A mandatory suggestion of a component. -/
def Suggestion.Insists (m : Component) (g : Suggestion) : Prop :=
  g.isMandatory = true ∧ g.missing = m

namespace Store

/-- A suggestion takes the place of another only to insist on the same component. -/
theorem exists_insists_suggest {new : Suggestion} {found : List Suggestion} :
    (∃ g ∈ suggest new found, g.Insists m) ↔ new.Insists m ∨ ∃ g ∈ found, g.Insists m := by
  induction found with
  | nil => simp [suggest]
  | cons old rest ih =>
    rw [suggest]
    split_ifs with hsame hmore
    · -- the one that is replaced does not insist
      have hold : ¬ old.Insists m := fun h => by simp [h.1] at hmore
      rw [List.exists_mem_cons_iff, List.exists_mem_cons_iff, or_iff_right hold]
    · have hkept : new.Insists m → old.Insists m := fun ⟨hnew, hm⟩ =>
        ⟨by simpa [hnew] using hmore, hsame.trans hm⟩
      rw [List.exists_mem_cons_iff, ← or_assoc, or_iff_right_of_imp hkept]
    · rw [List.exists_mem_cons_iff, List.exists_mem_cons_iff, ih, or_left_comm]

theorem exists_foldl_suggest {P : Suggestion → Prop}
    (hstep : ∀ new found, (∃ g ∈ suggest new found, P g) ↔ P new ∨ ∃ g ∈ found, P g)
    {given found : List Suggestion} :
    (∃ g ∈ given.foldl (fun found g => suggest g found) found, P g) ↔
      (∃ g ∈ given, P g) ∨ ∃ g ∈ found, P g := by
  induction given generalizing found with
  | nil => simp
  | cons new given ih =>
    rw [List.foldl_cons, ih, hstep, List.exists_mem_cons_iff, or_assoc, or_left_comm]

theorem mem_lacking {present : List Component} {g : Suggestion} :
    g ∈ store.lacking present c ↔ (g.relationship, g.missing) ∈ store.dependenciesFor c ∧
      g.missing ∉ present ∧ g.relationship.confidence.lt (.ofDecimal false 5 (-1)) = false ∧
        g.source = c := by
  simp only [lacking, List.mem_map, List.mem_filter]
  constructor
  · rintro ⟨⟨r, needed⟩, ⟨hdep, hkept⟩, rfl⟩
    rw [Bool.and_eq_true, Bool.not_eq_true', Bool.not_eq_true'] at hkept
    exact ⟨hdep, by simpa using hkept.1, hkept.2, rfl⟩
  · rintro ⟨hdep, hmissing, hsure, rfl⟩
    exact ⟨(g.relationship, g.missing), ⟨hdep, by simp [hmissing, hsure]⟩, rfl⟩

/-- Of a property that a later suggestion neither takes away nor brings by itself: some suggestion
has it exactly if something has it that a changed type lacks. -/
theorem exists_suggestions {P : Suggestion → Prop}
    (hstep : ∀ new found, (∃ g ∈ suggest new found, P g) ↔ P new ∨ ∃ g ∈ found, P g) :
    (∃ g ∈ store.suggestions after changed, P g) ↔
      ∃ g, (∃ c ∈ changed, g ∈ store.lacking after.types c) ∧ P g := by
  simp only [suggestions, mem_ranked, exists_foldl_suggest hstep, List.mem_flatMap,
    Component.mem_sorted, List.not_mem_nil, false_and, exists_false, or_false]

/-- **What is suggested as mandatory** is what a changed type cannot do without and does not
find. -/
theorem exists_mandatory_iff (hsure : store.Sure) :
    (∃ g ∈ store.suggestions after changed, g.isMandatory = true ∧ g.missing = m) ↔
      m ∉ after.types ∧ ∃ c ∈ changed, m ∈ store.mandatoryFor c := by
  refine (exists_suggestions fun _ _ => exists_insists_suggest).trans ?_
  simp only [mem_lacking, mem_mandatoryFor]
  constructor
  · rintro ⟨g, ⟨c, hc, hdep, hmissing, -, -⟩, hmandatory, rfl⟩
    exact ⟨hmissing, c, hc, g.relationship, hdep, hmandatory⟩
  · rintro ⟨hmissing, c, hc, r, hdep, hmandatory⟩
    exact ⟨⟨r, m, c⟩, ⟨c, hc, hdep, hmissing, hsure c r m hdep hmandatory, rfl⟩, hmandatory, rfl⟩

end Store

/-! ## Factors of which a store knows -/

/-- Whether a factor comes from a store. -/
def Factor.fromStore : Factor → Bool
  | antiPattern _ | dependencyBroken .. => true
  | _ => false

/-- The anti-pattern that a factor tells of. -/
def Factor.antiPattern? : Factor → Option AntiPattern
  | antiPattern a => some a
  | _ => none

/-- The anti-pattern that a warning tells of. -/
def Warning.antiPattern? : Warning → Option AntiPattern
  | antiPattern a => some a
  | conflict _ => none

theorem Diff.fromStore_losses {d : Diff} {f : Factor} (hf : f ∈ d.losses) :
    f.fromStore = false := by
  obtain ⟨n, rfl | rfl | rfl | rfl⟩ := exists_of_mem_losses hf <;> rfl

theorem Diff.fromStore_scale {d : Diff} {nodes : Nat} {f : Factor} (hf : f ∈ d.scale nodes) :
    f.fromStore = false := by
  unfold scale at hf
  dsimp only at hf
  split_ifs at hf
  case neg => cases hf
  all_goals
    obtain rfl := List.mem_singleton.mp hf
    rfl

theorem Diff.fromStore_exposures {d : Diff} {f : Factor} (hf : f ∈ d.exposures after) :
    f.fromStore = false := by
  obtain ⟨e, -, m, n, -, -, ⟨-, -, rfl⟩ | ⟨-, -, rfl⟩⟩ := mem_exposures.mp hf <;> rfl

theorem Diff.fromStore_guardsAdded {d : Diff} {f : Factor} (hf : f ∈ d.guardsAdded) :
    f.fromStore = false := by
  obtain ⟨n, -, rfl⟩ := List.mem_map.mp hf
  rfl

theorem fromStore_redundancyLosses {f : Factor} (hf : f ∈ redundancyLosses before after) :
    f.fromStore = false := by
  obtain ⟨⟨c, n⟩, -, rfl⟩ := List.mem_map.mp hf
  rfl

namespace Store

theorem filter_found {brought : List AntiPattern} :
    (store.found before after brought).filter (·.fromStore) =
      brought.map .antiPattern ++ store.brokenDependencies before after := by
  have hnone : ∀ {l : List Factor}, (∀ f ∈ l, f.fromStore = false) →
      l.filter (·.fromStore) = [] := fun h =>
    List.filter_eq_nil_iff.mpr fun f hf => by simp [h f hf]
  have hall : ∀ {l : List Factor}, (∀ f ∈ l, f.fromStore = true) → l.filter (·.fromStore) = l :=
    List.filter_eq_self.mpr
  have hemptied : ∀ f ∈ (if !before.nodes.isEmpty && after.nodes.isEmpty
      then [Factor.allRemoved] else []), f.fromStore = false := by
    intro f hf
    split_ifs at hf
    · rw [List.mem_singleton.mp hf]
      rfl
    · cases hf
  have hbrought : ∀ f ∈ brought.map Factor.antiPattern, f.fromStore = true := by
    intro f hf
    obtain ⟨a, -, rfl⟩ := List.mem_map.mp hf
    rfl
  have hbroken : ∀ f ∈ store.brokenDependencies before after, f.fromStore = true := by
    intro f hf
    obtain ⟨c, m, -, rfl⟩ := mem_brokenDependencies.mp hf
    rfl
  simp only [found, List.filter_append]
  rw [hnone hemptied, hnone fun _ => Diff.fromStore_losses, hnone fun _ => Diff.fromStore_scale,
    hall hbrought, hall hbroken, hnone fun _ => fromStore_redundancyLosses,
    hnone fun _ => Diff.fromStore_exposures, hnone fun _ => Diff.fromStore_guardsAdded]
  simp only [List.nil_append, List.append_nil]

theorem introduced_of_factors {factors : List Factor}
    (h : store.factors before after = .ok factors) :
    ∃ brought, store.introduced (some before) after = .ok brought := by
  cases hbrought : store.introduced (some before) after with
  | ok brought => exact ⟨brought, rfl⟩
  | error f =>
    rw [Store.factors, hbrought] at h
    cases h

theorem exists_factors {warnings : List Warning}
    (h : store.warnings after changed (some before) = .ok warnings) :
    ∃ factors, store.factors before after = .ok factors := by
  cases hbrought : store.introduced (some before) after with
  | ok brought => exact ⟨_, factors_eq hbrought⟩
  | error f =>
    rw [Store.warnings, hbrought] at h
    cases h

theorem filter_factors {brought : List AntiPattern} {factors : List Factor}
    (hbrought : store.introduced (some before) after = .ok brought)
    (hfactors : store.factors before after = .ok factors) : factors.filter (·.fromStore) =
      brought.map .antiPattern ++ store.brokenDependencies before after := by
  rw [factors_eq hbrought] at hfactors
  obtain rfl := Except.ok.inj hfactors
  rw [← filter_found]
  split_ifs with hempty
  · rw [List.isEmpty_iff.mp hempty]
    rfl
  · rfl

/-- **A dependency is told as broken** if a type is left without one that it had and cannot do
without. -/
theorem dependencyBroken_mem_iff {factors : List Factor}
    (hfactors : store.factors before after = .ok factors) :
    .dependencyBroken c m ∈ factors ↔
      c ∈ after.types ∧ m ∈ store.mandatoryFor c ∧ m ∈ before.types ∧ m ∉ after.types := by
  obtain ⟨brought, hbrought⟩ := introduced_of_factors hfactors
  have hmem : .dependencyBroken c m ∈ factors ↔
      .dependencyBroken c m ∈ factors.filter (·.fromStore) := by
    rw [List.mem_filter]
    exact (and_iff_left rfl).symm
  rw [hmem, filter_factors hbrought hfactors, List.mem_append, mem_brokenDependencies]
  simp

end Store

/-! ## Anti-patterns that are warned of -/

/-- Critical or high. -/
def Severity.severe (a : Severity) : Bool := a == .critical || a == .high

/-- **The anti-patterns that are warned of** are, in the same order, those of the severe factors. -/
theorem Store.warnings_antiPatterns {factors : List Factor} {warnings : List Warning}
    (hfactors : store.factors before after = .ok factors)
    (hwarnings : store.warnings after changed (some before) = .ok warnings) :
    warnings.filterMap (·.antiPattern?) =
      (factors.filter (·.level.severe)).filterMap (·.antiPattern?) := by
  obtain ⟨brought, hbrought⟩ := introduced_of_factors hfactors
  -- both sides are the severe ones of the anti-patterns that the change brings
  have hwarned : warnings.filterMap (·.antiPattern?) = brought.filter (·.severity.severe) := by
    rw [Store.warnings, hbrought] at hwarnings
    obtain rfl := Except.ok.inj hwarnings
    rw [List.filterMap_append, List.filterMap_map, List.filterMap_map]
    simp [Function.comp_def, Warning.antiPattern?, Severity.severe]
  have hfactored : (factors.filter (·.level.severe)).filterMap (·.antiPattern?) =
      ((factors.filter (·.fromStore)).filter (·.level.severe)).filterMap (·.antiPattern?) := by
    rw [List.filter_filter, List.filterMap_filter, List.filterMap_filter]
    congr 1
    funext f
    cases f <;> simp [Factor.fromStore, Factor.antiPattern?]
  have hbroken : ((store.brokenDependencies before after).filter (·.level.severe)).filterMap
      (·.antiPattern?) = [] := by
    refine List.filterMap_eq_nil_iff.mpr fun f hf => ?_
    obtain ⟨c, m, -, rfl⟩ := mem_brokenDependencies.mp (List.mem_filter.mp hf).1
    rfl
  rw [hwarned, hfactored, filter_factors hbrought hfactors, List.filter_append,
    List.filterMap_append, hbroken, List.append_nil, List.filter_map, List.filterMap_map]
  exact List.filterMap_some.symm

end NetSketch
