import NetSketch.Proofs.Diagram.Spreading
import NetSketch.Proofs.Knowledge.Typed

/-!
# Critical anti-patterns

Of the bundled anti-patterns two are critical: a database that the internet reaches past no
firewall, and an internal component that is joined with the internet.

* `mem_of_filterM`: what a filter with faults keeps;
* `Store.exists_introduced`: the anti-patterns that a change brings;
* `Spec.DatabaseOpen`, `Spec.Exposed`: the critical shapes;
* **`exists_critical_introduced_iff`**: when a change brings a critical anti-pattern.
-/

namespace NetSketch

variable {ε α : Type}

theorem mem_of_filterAuxM {f : α → Except ε Bool} {l start found : List α}
    (h : l.filterAuxM f start = .ok found) (a : α) :
    a ∈ found ↔ a ∈ start ∨ a ∈ l ∧ f a = .ok true := by
  induction l generalizing start with
  | nil =>
    obtain rfl := Except.ok.inj h
    simp
  | cons b l ih =>
    rw [List.filterAuxM] at h
    cases hb : f b with
    | error e =>
      rw [hb] at h
      cases h
    | ok keep =>
      rw [hb] at h
      rw [ih h, List.mem_cons, or_and_right]
      cases keep with
      | false =>
        have : ¬ (a = b ∧ f a = .ok true) := by
          rintro ⟨rfl, ha⟩
          rw [hb] at ha
          cases ha
        simp [this]
      | true =>
        have : a = b ∧ f a = .ok true ↔ a = b := by
          refine and_iff_left_of_imp ?_
          rintro rfl
          exact hb
        rw [this, cond_true, List.mem_cons, or_comm (a := a = b), or_assoc]

theorem mem_of_filterM {f : α → Except ε Bool} {l found : List α}
    (h : l.filterM f = .ok found) (a : α) : a ∈ found ↔ a ∈ l ∧ f a = .ok true := by
  cases haux : l.filterAuxM f [] with
  | error e =>
    rw [List.filterM, haux] at h
    cases h
  | ok kept =>
    rw [List.filterM, haux] at h
    obtain rfl := Except.ok.inj h
    rw [List.mem_reverse, mem_of_filterAuxM haux a]
    simp

/-! ## Signatures without preconditions -/

theorem Json.componentsIn_typeNames (types : List Component) :
    (typeNames types).componentsIn = .ok types := by
  obtain ⟨keys, hkeys⟩ : Succeeds ((types.map fun c => Json.str c.name).mapM toKey) :=
    .mapM fun v hv => by
      obtain ⟨c, -, rfl⟩ := List.mem_map.mp hv
      exact .ok
  have htexts : (typeNames types).keyTexts = .ok (types.map (·.name)) := by
    rw [typeNames, keyTexts]
    change (List.mapM toKey _ >>= fun _ => .ok _) = _
    rw [hkeys]
    change Except.ok (List.filterMap text? _) = _
    rw [List.filterMap_map]
    exact congrArg _ (List.filterMap_eq_map_iff_forall_eq_some.mpr fun c _ => rfl)
  rw [componentsIn, htexts]
  change Except.ok (List.filterMap _ _) = _
  rw [List.filterMap_map]
  simp [Component.ofName?_name]

theorem Json.not_order_lt_zero (n : Nat) :
    ∃ o, Json.order "<" (.int n) (.int 0) = .ok o ∧ (o == some .lt) = false := by
  have hlt : Number.Binary64.lt (.finite false n 0) (.finite false 0 0) = false := by
    simp only [Number.Binary64.lt, Number.Binary64.aligned, Number.Binary64.signed]
    simp [Int.mul_nonneg]
  have hn : (Json.int n).number? = some (.finite false n 0) := by simp [number?]
  rw [order, hn]
  refine ⟨_, rfl, ?_⟩
  rw [if_neg (by simp [hlt])]
  split_ifs <;> rfl

theorem Signature.prepared_default (shape : Shape) (v : View) :
    ({ shape } : Signature).prepared v = .ok true := by
  obtain ⟨o, ho, hne⟩ := Json.not_order_lt_zero v.nodes.length
  rw [prepared]
  dsimp only
  rw [ho]
  change (if (o == some .lt) = true then _ else _) = _
  rw [hne]
  rfl

theorem Signature.fits_default (shape : Shape) (v : View) :
    ({ shape } : Signature).fits v = if v.nodes.isEmpty then .ok false else shape.fits v := by
  rw [fits, prepared_default]
  rfl

/-! ## Anti-patterns that a change brings -/

namespace Store

variable {store : Store}

/-- Anti-patterns are told apart by their ids. -/
def Distinct (store : Store) : Prop := (store.corpus.antiPatterns.map (·.id.key?)).Nodup

/-- **A change brings the anti-patterns that the new diagram shows and the old one does not.** -/
theorem exists_introduced (htyped : store.Typed) (hdistinct : store.Distinct)
    (before after : Spec) : ∃ found, store.introduced (some before) after = .ok found ∧
      ∀ a, a ∈ found ↔ a ∈ store.corpus.antiPatterns ∧ a.fits (.ofSpec? after) = .ok true ∧
        a.fits (.ofSpec? before) ≠ .ok true := by
  obtain ⟨old, hold⟩ := antiPatternsIn_succeeds htyped (.ofSpec? before)
  obtain ⟨new, hnew⟩ := antiPatternsIn_succeeds htyped (.ofSpec? after)
  refine ⟨new.filter fun a => !(old.map (·.id.key?)).contains a.id.key?, ?_, fun a => ?_⟩
  · rw [introduced]
    change (store.antiPatternsIn (.ofSpec? before) >>= fun old =>
      store.antiPatternsIn (.ofSpec? after) >>= _) = _
    rw [hold, hnew]
    rfl
  have hnews := mem_of_filterM hnew a
  rw [List.mem_filter, hnews, and_assoc]
  refine and_congr_right fun ha => and_congr_right fun _ => ?_
  rw [Bool.not_eq_true', ← Bool.not_eq_true, List.contains_iff_mem, not_iff_not, List.mem_map]
  constructor
  · rintro ⟨b, hb, hid⟩
    obtain ⟨hb, hfits⟩ := (mem_of_filterM hold b).mp hb
    rwa [← List.inj_on_of_nodup_map hdistinct hb ha hid]
  · intro hfits
    exact ⟨a, (mem_of_filterM hold a).mpr ⟨ha, hfits⟩, rfl⟩

theorem bundled_corpus : Store.bundled.corpus.antiPatterns = bundledAntiPatterns := by
  rw [bundled, ofCorpus_corpus]
  rfl

theorem bundled_distinct : Store.bundled.Distinct := by
  rw [Distinct, bundled_corpus]
  decide +kernel

end Store

/-! ## The critical ones -/

/-- The internet reaches a database past no firewall. -/
def openDatabase : Signature where
  shape := .unguardedPath (typeNames [.internet]) (typeNames [.dbServer])
    (typeNames [.firewall, .waf])

/-- An internal component is joined with the internet. -/
def exposedComponent : Signature where
  shape := .directLink (typeNames [.internet]) (typeNames Component.internalOnly)

theorem critical_bundled :
    (bundledAntiPatterns.filter (·.severity == .critical)).map (·.signature) =
      [openDatabase, exposedComponent] := rfl

namespace Spec

variable {s : Spec}

/-- A database is reached from the internet past no firewall. -/
def DatabaseOpen (s : Spec) : Prop := s.Unguarded [.internet] [.dbServer] [.firewall, .waf]

/-- A connection joins the internet with an internal component. -/
def Exposed (s : Spec) (e : String × String) : Prop :=
  e ∈ s.ends ∧ ((s.IsOf [.internet] e.1 ∧ s.IsOf Component.internalOnly e.2) ∨
    (s.IsOf Component.internalOnly e.1 ∧ s.IsOf [.internet] e.2))

theorem IsOf.view_nonempty {types : List Component} {id : String} (h : s.IsOf types id) :
    (View.ofSpec? (some s)).nodes.isEmpty = false := by
  obtain ⟨n, hn, -⟩ := List.mem_map.mp (mem_ids_view.mpr h.mem_ids)
  cases hv : (View.ofSpec? (some s)).nodes with
  | nil =>
    rw [hv] at hn
    cases hn
  | cons => rfl

theorem openDatabase_fits (hs : s.WellFormed) :
    openDatabase.fits (.ofSpec? s) = .ok true ↔ s.DatabaseOpen := by
  rw [openDatabase, Signature.fits_default, Shape.fits, Json.componentsIn_typeNames,
    Json.componentsIn_typeNames, Json.componentsIn_typeNames]
  change (if _ then Except.ok false else Except.ok _) = _ ↔ _
  split_ifs with hempty
  · refine iff_of_false nofun ?_
    rintro ⟨a, b, ha, -⟩
    simp [ha.view_nonempty] at hempty
  · rw [Except.ok.injEq]
    exact unguardedPath_view hs

theorem exposedComponent_fits (hs : s.WellFormed) :
    exposedComponent.fits (.ofSpec? s) = .ok true ↔ ∃ e, s.Exposed e := by
  rw [exposedComponent, Signature.fits_default, Shape.fits, Json.componentsIn_typeNames,
    Json.componentsIn_typeNames]
  change (if _ then Except.ok false else Except.ok _) = _ ↔ _
  split_ifs with hempty
  · refine iff_of_false nofun ?_
    rintro ⟨e, -, ⟨he, -⟩ | ⟨he, -⟩⟩ <;> simp [he.view_nonempty] at hempty
  · rw [Except.ok.injEq]
    exact directLink_view hs

end Spec

/-- **A change brings a critical anti-pattern** if it opens a database to the internet or joins the
internet with an internal component where no such connection was. -/
theorem exists_critical_introduced_iff {before after : Spec} (hb : before.WellFormed)
    (ha : after.WellFormed) :
    ∃ found, Store.bundled.introduced (some before) after = .ok found ∧
      ((∃ a ∈ found, a.severity = .critical) ↔ (after.DatabaseOpen ∧ ¬ before.DatabaseOpen) ∨
        ((∃ e, after.Exposed e) ∧ ¬ ∃ e, before.Exposed e)) := by
  obtain ⟨found, hfound, hmem⟩ :=
    Store.exists_introduced Store.bundled_typed Store.bundled_distinct before after
  refine ⟨found, hfound, ?_⟩
  -- A critical one among those that are brought is one of two signatures.
  have hsignature : (∃ a ∈ found, a.severity = .critical) ↔
      ∃ g ∈ [openDatabase, exposedComponent], g.fits (.ofSpec? after) = .ok true ∧
        g.fits (.ofSpec? before) ≠ .ok true := by
    rw [← critical_bundled]
    simp only [List.mem_map, List.mem_filter, beq_iff_eq]
    constructor
    · rintro ⟨a, ha, hcritical⟩
      obtain ⟨hbundled, hfits⟩ := (hmem a).mp ha
      exact ⟨_, ⟨a, ⟨Store.bundled_corpus ▸ hbundled, hcritical⟩, rfl⟩, hfits⟩
    · rintro ⟨_, ⟨a, ⟨hbundled, hcritical⟩, rfl⟩, hfits⟩
      exact ⟨a, (hmem a).mpr ⟨Store.bundled_corpus.symm ▸ hbundled, hfits⟩, hcritical⟩
  rw [hsignature]
  simp only [List.mem_cons, List.not_mem_nil, or_false, exists_eq_or_imp, exists_eq_left, ne_eq,
    Spec.openDatabase_fits ha, Spec.openDatabase_fits hb, Spec.exposedComponent_fits ha,
    Spec.exposedComponent_fits hb]

end NetSketch
