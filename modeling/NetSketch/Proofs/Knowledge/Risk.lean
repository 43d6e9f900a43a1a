import NetSketch.Proofs.Diagram.Patch
import NetSketch.Proofs.Knowledge.Danger

/-!
# Grave changes

The gravest factor of a change decides its level, so a change is critical exactly if one of its
factors is: if most nodes change, if it brings a critical anti-pattern, or if a new connection joins
the internet with an internal component.

* `Risk.le_rank_level`: the level of a change and its factors;
* `Store.found`, `Store.factors_eq`, `Store.exists_risk`: the factors of a change;
  `Diff.exists_of_mem_losses`, `Store.mem_brokenDependencies` and their like: what they tell;
* `Spec.Overhauled`; **`risk_critical_iff`**: the critical changes;
* **`risk_le_of_guard_lost`**: the loss of a guard is at least as grave as that of any other node;
* **`risk_of_exposed`**: when an exposure makes a change critical.
-/

namespace NetSketch

/-! ## Levels -/

namespace Severity

theorem le_rank_graver {k : Nat} {a b : Severity} :
    k ≤ (a.graver b).rank ↔ k ≤ a.rank ∨ k ≤ b.rank := by
  unfold graver
  split_ifs <;> omega

theorem eq_critical_iff {a : Severity} : a = .critical ↔ 3 ≤ a.rank := by
  cases a <;> decide

theorem le_rank_foldl {k : Nat} {a : Severity} {l : List Severity} :
    k ≤ (l.foldl graver a).rank ↔ k ≤ a.rank ∨ ∃ b ∈ l, k ≤ b.rank := by
  induction l generalizing a with
  | nil => simp
  | cons b l ih => rw [List.foldl_cons, ih, le_rank_graver, List.exists_mem_cons_iff, or_assoc]

end Severity

/-- **A change is as grave as its gravest factor.** -/
theorem Risk.le_rank_level {k : Nat} {r : Risk} :
    k ≤ r.level.rank ↔ k = 0 ∨ ∃ f ∈ r.factors, k ≤ f.level.rank := by
  rw [level, Severity.le_rank_foldl]
  simp only [List.mem_map, exists_exists_and_eq_and]
  exact or_congr_left Nat.le_zero

/-! ## Factors -/

variable {before after : Spec} {store : Store} {e : String × String}

/-- The factors of a change that brings some anti-patterns. -/
def Store.found (store : Store) (before after : Spec) (brought : List AntiPattern) : List Factor :=
  let d := Diff.between before after
  (if !before.nodes.isEmpty && after.nodes.isEmpty then [Factor.allRemoved] else []) ++ d.losses ++
    d.scale before.nodes.length ++ brought.map .antiPattern ++
    store.brokenDependencies before after ++ redundancyLosses before after ++
    d.exposures after ++ d.guardsAdded

theorem Store.factors_eq {brought : List AntiPattern}
    (h : store.introduced (some before) after = .ok brought) : store.factors before after =
      .ok (if (store.found before after brought).isEmpty then [.nothing]
        else store.found before after brought) := by
  rw [factors, h]
  rfl

theorem Store.exists_risk {brought : List AntiPattern}
    (h : store.introduced (some before) after = .ok brought) :
    ∃ r, store.risk before after = .ok r ∧ ∀ f : Factor, 0 < f.level.rank →
      (f ∈ r.factors ↔ f ∈ store.found before after brought) := by
  refine ⟨_, by rw [risk, factors_eq h]; rfl, fun f hf => ?_⟩
  dsimp only
  split_ifs with hempty
  · rw [List.isEmpty_iff.mp hempty]
    refine iff_of_false (fun hmem => ?_) List.not_mem_nil
    obtain rfl := List.mem_singleton.mp hmem
    exact absurd hf (by decide)
  · rfl

/-- More than half of the nodes change. -/
def Spec.Overhauled (before after : Spec) : Prop :=
  before.nodes.length ≠ 0 ∧ before.nodes.length <
    2 * ((Diff.between before after).added.length + (Diff.between before after).removed.length)

namespace Diff

theorem exists_of_mem_losses {d : Diff} {f : Factor} (hf : f ∈ d.losses) : ∃ n,
    f = .securityRemoved n ∨ f = .authRemoved n ∨ f = .backupRemoved n ∨ f = .nodeRemoved n := by
  have hloss : ∀ n f, lossOf n = some f →
      f = .securityRemoved n ∨ f = .authRemoved n ∨ f = .backupRemoved n := by
    intro n f h
    unfold lossOf at h
    split_ifs at h <;> simp_all
  rcases List.mem_append.mp hf with hf | hf
  · obtain ⟨n, -, rfl⟩ := List.mem_map.mp hf
    cases h : lossOf n with
    | none => exact ⟨n, Or.inr (Or.inr (Or.inr rfl))⟩
    | some f => exact ⟨n, (hloss n f h).imp_right (Or.imp_right Or.inl)⟩
  · obtain ⟨⟨old, new⟩, -, h⟩ := List.mem_filterMap.mp hf
    exact ⟨old, (hloss old f h).imp_right (Or.imp_right Or.inl)⟩

theorem losses_rank {d : Diff} {f : Factor} (hf : f ∈ d.losses) : f.level.rank ≤ 2 := by
  obtain ⟨n, rfl | rfl | rfl | rfl⟩ := exists_of_mem_losses hf
  exacts [Nat.le_refl 2, Nat.le_refl 2, Nat.le_refl 2, Nat.le_succ 1]

theorem exists_critical_scale_iff {d : Diff} {nodes : Nat} :
    (∃ f ∈ d.scale nodes, 3 ≤ f.level.rank) ↔
      nodes ≠ 0 ∧ nodes < 2 * (d.added.length + d.removed.length) := by
  unfold scale
  dsimp only
  split_ifs with h₁ h₂ h₃
  · exact iff_of_true ⟨_, List.mem_singleton_self _, Nat.le_refl 3⟩ h₁
  all_goals
    refine iff_of_false ?_ h₁
    rintro ⟨f, hf, h⟩
    simp_all [Factor.level, Severity.rank]

theorem mem_exposures {d : Diff} {f : Factor} : f ∈ d.exposures after ↔ ∃ e ∈ d.addedEnds, ∃ m n,
    after.node? e.1 = some m ∧ after.node? e.2 = some n ∧
      ((m.type = .internet ∧ n.type ∈ Component.internalOnly ∧ f = .exposed n.type e.1 e.2) ∨
        (n.type = .internet ∧ m.type ∈ Component.internalOnly ∧ f = .exposed m.type e.1 e.2)) := by
  simp only [exposures, List.mem_flatMap, List.mem_mergeSort]
  refine exists_congr fun e => and_congr_right fun _ => ?_
  cases hm : after.node? e.1 with
  | none => simp
  | some m =>
    cases hn : after.node? e.2 with
    | none => simp
    | some n => simp [eq_comm (a := f), and_assoc]

/-- Connections that join the internet with something internal count if they are new. -/
theorem exists_exposures_iff (ha : after.WellFormed) :
    (∃ f, f ∈ (Diff.between before after).exposures after) ↔
      ∃ e, after.Exposed e ∧ e ∉ before.ends := by
  have hnode : ∀ {id}, id ∈ after.ids → ∃ n ∈ after.nodes, after.node? id = some n ∧ n.id = id := by
    intro id hid
    cases h : after.node? id with
    | none => exact absurd hid (Spec.node?_eq_none.mp h)
    | some n => exact ⟨n, (Spec.mem_of_node? h).1, rfl, (Spec.mem_of_node? h).2⟩
  have htypes : ∀ {types id n}, n ∈ after.nodes → n.id = id →
      (after.IsOf types id ↔ n.type ∈ types) := by
    rintro types _ n hn rfl
    exact Spec.isOf_id_iff ha.ids_nodup hn
  simp only [mem_exposures, mem_addedEnds_between]
  constructor
  · rintro ⟨f, e, ⟨he, hnew⟩, m, n, hm, hn, h⟩
    obtain ⟨hm, hme⟩ := Spec.mem_of_node? hm
    obtain ⟨hn, hne⟩ := Spec.mem_of_node? hn
    refine ⟨e, ⟨he, ?_⟩, hnew⟩
    rw [htypes hm hme, htypes hn hne, htypes hm hme, htypes hn hne, List.mem_singleton,
      List.mem_singleton]
    exact h.imp (fun h => ⟨h.1, h.2.1⟩) fun h => ⟨h.2.1, h.1⟩
  · rintro ⟨e, ⟨he, h⟩, hnew⟩
    obtain ⟨m, hm, hmnode, hme⟩ := hnode (ha.ends_mem_ids he).1
    obtain ⟨n, hn, hnnode, hne⟩ := hnode (ha.ends_mem_ids he).2
    rw [htypes hm hme, htypes hn hne, htypes hm hme, htypes hn hne, List.mem_singleton,
      List.mem_singleton] at h
    rcases h with ⟨hinternet, hinner⟩ | ⟨hinner, hinternet⟩
    · exact ⟨_, e, ⟨he, hnew⟩, m, n, hmnode, hnnode, Or.inl ⟨hinternet, hinner, rfl⟩⟩
    · exact ⟨_, e, ⟨he, hnew⟩, m, n, hmnode, hnnode, Or.inr ⟨hinternet, hinner, rfl⟩⟩

theorem exposures_rank {d : Diff} {f : Factor} (hf : f ∈ d.exposures after) :
    f.level.rank = 3 := by
  obtain ⟨e, -, m, n, -, -, ⟨-, -, rfl⟩ | ⟨-, -, rfl⟩⟩ := mem_exposures.mp hf <;> rfl

theorem guardsAdded_rank {d : Diff} {f : Factor} (hf : f ∈ d.guardsAdded) : f.level.rank = 0 := by
  obtain ⟨n, -, rfl⟩ := List.mem_map.mp hf
  rfl

end Diff

theorem Component.mem_sorted {types : List Component} {c : Component} :
    c ∈ Component.sorted types ↔ c ∈ types := by
  rw [sorted, List.mem_mergeSort, List.mem_eraseDups]

theorem Store.mem_brokenDependencies {f : Factor} : f ∈ store.brokenDependencies before after ↔
    ∃ c m, (c ∈ after.types ∧ m ∈ store.mandatoryFor c ∧ m ∈ before.types ∧ m ∉ after.types) ∧
      f = .dependencyBroken c m := by
  simp [brokenDependencies, Component.mem_sorted, eq_comm (a := f), and_assoc]

theorem Store.brokenDependencies_rank {f : Factor}
    (hf : f ∈ store.brokenDependencies before after) : f.level.rank = 2 := by
  obtain ⟨c, m, -, rfl⟩ := mem_brokenDependencies.mp hf
  rfl

theorem redundancyLosses_rank {f : Factor} (hf : f ∈ redundancyLosses before after) :
    f.level.rank = 1 := by
  obtain ⟨⟨c, n⟩, -, rfl⟩ := List.mem_map.mp hf
  rfl

/-! ## Critical changes -/

theorem Spec.overhauled_of_emptied (hb : before.nodes.isEmpty = false)
    (ha : after.nodes.isEmpty = true) : before.Overhauled after := by
  have hids : after.ids = [] := by rw [ids, List.isEmpty_iff.mp ha, List.map_nil]
  have hremoved : (Diff.between before after).removed = before.nodes := by
    simp [Diff.between, hids]
  have hpos : before.nodes.length ≠ 0 := by
    rw [Ne, List.length_eq_zero_iff, ← List.isEmpty_iff, hb]
    decide
  refine ⟨hpos, ?_⟩
  rw [hremoved]
  omega

theorem Store.exists_critical_found_iff (ha : after.WellFormed) {brought : List AntiPattern} :
    (∃ f ∈ store.found before after brought, 3 ≤ f.level.rank) ↔ before.Overhauled after ∨
      (∃ a ∈ brought, a.severity = .critical) ∨ ∃ e, after.Exposed e ∧ e ∉ before.ends := by
  have hscale : (∃ f ∈ (Diff.between before after).scale before.nodes.length, 3 ≤ f.level.rank) ↔
      before.Overhauled after := Diff.exists_critical_scale_iff
  simp only [found, List.mem_append]
  constructor
  · rintro ⟨f, ((((((hf | hf) | hf) | hf) | hf) | hf) | hf) | hf, hrank⟩
    · split_ifs at hf with h
      · rw [Bool.and_eq_true, Bool.not_eq_true'] at h
        exact Or.inl (Spec.overhauled_of_emptied h.1 h.2)
      · cases hf
    · have := Diff.losses_rank hf
      omega
    · exact Or.inl (hscale.mp ⟨f, hf, hrank⟩)
    · obtain ⟨a, hmem, rfl⟩ := List.mem_map.mp hf
      exact Or.inr (Or.inl ⟨a, hmem, Severity.eq_critical_iff.mpr hrank⟩)
    · have := brokenDependencies_rank hf
      omega
    · have := redundancyLosses_rank hf
      omega
    · exact Or.inr (Or.inr ((Diff.exists_exposures_iff ha).mp ⟨f, hf⟩))
    · have := Diff.guardsAdded_rank hf
      omega
  · rintro (h | ⟨a, hmem, h⟩ | h)
    · obtain ⟨f, hf, hrank⟩ := hscale.mpr h
      exact ⟨f, by simp [hf], hrank⟩
    · exact ⟨.antiPattern a, by simp [hmem], Severity.eq_critical_iff.mp h⟩
    · obtain ⟨f, hf⟩ := (Diff.exists_exposures_iff ha).mpr h
      exact ⟨f, by simp [hf], Nat.le_of_eq (Diff.exposures_rank hf).symm⟩

/-- **Which changes are critical**: those of more than half of the nodes, those that open a database
to the internet, and those that join the internet with an internal component, by a new connection
or where none did before. -/
theorem risk_critical_iff (hb : before.WellFormed) (ha : after.WellFormed) :
    ∃ r, Store.bundled.risk before after = .ok r ∧ (r.level = .critical ↔
      before.Overhauled after ∨ (after.DatabaseOpen ∧ ¬ before.DatabaseOpen) ∨
        ((∃ e, after.Exposed e) ∧ ¬ ∃ e, before.Exposed e) ∨
          ∃ e, after.Exposed e ∧ e ∉ before.ends) := by
  obtain ⟨brought, hbrought, hcritical⟩ := exists_critical_introduced_iff hb ha
  obtain ⟨r, hr, hmem⟩ := Store.exists_risk hbrought
  refine ⟨r, hr, ?_⟩
  have hfound : (∃ f ∈ r.factors, 3 ≤ f.level.rank) ↔
      ∃ f ∈ Store.bundled.found before after brought, 3 ≤ f.level.rank :=
    exists_congr fun f => and_congr_left fun h => hmem f (by omega)
  rw [Severity.eq_critical_iff, Risk.le_rank_level, or_iff_right (by decide), hfound,
    Store.exists_critical_found_iff ha, hcritical, or_assoc]

theorem rank_of_guard_lost (hb : before.WellFormed) (ha : after.WellFormed) {x : Node}
    (hx : x ∈ before.nodes) (hguard : x.type ∈ Component.security) (hlost : x.id ∉ after.ids) :
    ∃ r, Store.bundled.risk before after = .ok r ∧ 2 ≤ r.level.rank := by
  obtain ⟨brought, hbrought, -⟩ := exists_critical_introduced_iff hb ha
  obtain ⟨r, hr, hmem⟩ := Store.exists_risk hbrought
  refine ⟨r, hr, Risk.le_rank_level.mpr (Or.inr ⟨.securityRemoved x, ?_, Nat.le_refl 2⟩)⟩
  have hremoved : x ∈ (Diff.between before after).removed := by
    simp [Diff.between, hx, hlost]
  have hloss : .securityRemoved x ∈ (Diff.between before after).losses := by
    refine List.mem_append_left _ (List.mem_map.mpr ⟨x, hremoved, ?_⟩)
    rw [lossOf, if_pos (List.contains_iff_mem.mpr hguard)]
    rfl
  refine (hmem (.securityRemoved x) Nat.two_pos).mpr ?_
  simp [Store.found, hloss]

/-! ## A guard and any other node -/

namespace Spec

variable {s : Spec} {id a : String} {type : Component} {label : String} {types : List Component}

/-- The diagram with a node of another type and label. -/
def withType (s : Spec) (id : String) (type : Component) (label : String) : Spec :=
  { s with nodes := s.nodes.map fun n => if n.id = id then { n with type, label } else n }

theorem ids_withType : (s.withType id type label).ids = s.ids := by
  simp only [ids, withType, List.map_map]
  refine List.map_congr_left fun n _ => ?_
  simp only [Function.comp_apply]
  split_ifs <;> rfl

theorem WellFormed.withType (hs : s.WellFormed) (id : String) (type : Component) (label : String) :
    (s.withType id type label).WellFormed :=
  hs.mapNodes fun n => by split_ifs <;> rfl

theorem isOf_withType_of_ne (h : a ≠ id) :
    (s.withType id type label).IsOf types a ↔ s.IsOf types a := by
  simp only [IsOf, withType, List.mem_map]
  constructor
  · rintro ⟨_, ⟨n, hn, rfl⟩, hid, htype⟩
    split_ifs at hid htype with hn'
    · exact absurd (hid.symm.trans hn') h
    · exact ⟨n, hn, hid, htype⟩
  · rintro ⟨n, hn, rfl, htype⟩
    exact ⟨n, ⟨n, hn, if_neg h⟩, rfl, htype⟩

theorem type_mem_of_isOf_withType (h : (s.withType id type label).IsOf types id) :
    type ∈ types := by
  obtain ⟨m, hm, hid, htype⟩ := h
  obtain ⟨n, -, rfl⟩ := List.mem_map.mp hm
  split_ifs at hid htype with hn
  · exact htype
  · exact absurd hid hn

variable {x : Node}

theorem IsOf.withType (h : s.IsOf types a) (hs : s.WellFormed) (hx : x ∈ s.nodes)
    (hxt : x.type ∉ types) : (s.withType x.id type label).IsOf types a := by
  refine (isOf_withType_of_ne ?_).mpr h
  rintro rfl
  exact hxt ((isOf_id_iff hs.ids_nodup hx).mp h)

theorem isOf_of_withType (h : (s.withType id type label).IsOf types a) (ht : type ∉ types) :
    s.IsOf types a := by
  refine (isOf_withType_of_ne ?_).mp h
  rintro rfl
  exact ht (type_mem_of_isOf_withType h)

theorem DatabaseOpen.withType (h : s.DatabaseOpen) (hs : s.WellFormed) (hx : x ∈ s.nodes)
    (hguard : x.type ∈ Component.security) (htype : type ∉ Component.security) :
    (s.withType x.id type label).DatabaseOpen := by
  obtain ⟨a, b, ha, hb, hne, hway⟩ := h
  have hsource : ∀ c ∈ Component.security, c ∉ [.internet] := by decide
  have htarget : ∀ c ∈ Component.security, c ∉ [.dbServer] := by decide
  have hguards : [.firewall, .waf] ⊆ Component.security := by decide
  exact ⟨a, b, ha.withType hs hx (hsource _ hguard), hb.withType hs hx (htarget _ hguard), hne,
    hway.mono (fun _ _ h => h) fun _ h => isOf_of_withType h (mt (hguards ·) htype)⟩

theorem Exposed.withType (h : s.Exposed e) (hs : s.WellFormed) (hx : x ∈ s.nodes)
    (hguard : x.type ∈ Component.security) : (s.withType x.id type label).Exposed e := by
  have hinternet : ∀ c ∈ Component.security, c ∉ [.internet] := by decide
  have hinner : ∀ c ∈ Component.security, c ∉ Component.internalOnly := by decide
  refine ⟨h.1, h.2.imp ?_ ?_⟩
  · exact fun h => ⟨h.1.withType hs hx (hinternet _ hguard), h.2.withType hs hx (hinner _ hguard)⟩
  · exact fun h => ⟨h.1.withType hs hx (hinner _ hguard), h.2.withType hs hx (hinternet _ hguard)⟩

theorem overhauled_withType :
    (s.withType id type label).Overhauled after ↔ s.Overhauled after := by
  have hlength : (s.withType id type label).nodes.length = s.nodes.length := List.length_map _
  have hadded : (Diff.between (s.withType id type label) after).added =
      (Diff.between s after).added := by
    simp only [Diff.between, ids_withType]
  have hremoved : (Diff.between (s.withType id type label) after).removed.length =
      (Diff.between s after).removed.length := by
    simp only [Diff.between, Spec.withType, List.filter_map, List.length_map]
    congr 2
    funext n
    simp only [Function.comp_apply]
    split_ifs <;> rfl
  rw [Overhauled, hlength, hadded, hremoved, Overhauled]

end Spec

/-- **The loss of a guard is at least as grave as that of the same node of any other type.** -/
theorem risk_le_of_guard_lost (hb : before.WellFormed) (ha : after.WellFormed) {x : Node}
    (hx : x ∈ before.nodes) (hguard : x.type ∈ Component.security) (hlost : x.id ∉ after.ids)
    {type : Component} (htype : type ∉ Component.security) (label : String) :
    ∃ r r', Store.bundled.risk before after = .ok r ∧
      Store.bundled.risk (before.withType x.id type label) after = .ok r' ∧
        r'.level.rank ≤ r.level.rank := by
  obtain ⟨r, hr, hcritical⟩ := risk_critical_iff hb ha
  obtain ⟨r', hr', hcritical'⟩ := risk_critical_iff (hb.withType x.id type label) ha
  obtain ⟨_, hr₂, hhigh⟩ := rank_of_guard_lost hb ha hx hguard hlost
  obtain rfl := Except.ok.inj (hr.symm.trans hr₂)
  refine ⟨r, r', hr, hr', ?_⟩
  by_cases h : r'.level = .critical
  · -- What makes the other change critical makes this one critical too.
    have : r.level = .critical := by
      rw [hcritical]
      rcases hcritical'.mp h with h | ⟨hopen, hnot⟩ | ⟨hexposed, hnot⟩ | hnew
      · exact Or.inl (Spec.overhauled_withType.mp h)
      · exact Or.inr (Or.inl ⟨hopen, fun h => hnot (h.withType hb hx hguard htype)⟩)
      · refine Or.inr (Or.inr (Or.inl ⟨hexposed, ?_⟩))
        rintro ⟨e, he⟩
        exact hnot ⟨e, he.withType hb hx hguard⟩
      · exact Or.inr (Or.inr (Or.inr hnew))
    exact Nat.le_of_eq (by rw [this, h])
  · have hlow : ¬ 3 ≤ r'.level.rank := mt Severity.eq_critical_iff.mpr h
    omega

/-- A firewall between the internet and a database. -/
def fencedDatabase : Spec where
  nodes := [⟨"internet-1", .internet, "Internet", none, none, none⟩,
    ⟨"fw-1", .firewall, "Firewall", none, none, none⟩,
    ⟨"db-1", .dbServer, "DB Server", none, none, none⟩]
  connections := [⟨"internet-1", "fw-1", none, none, none⟩, ⟨"fw-1", "db-1", none, none, none⟩]

/-- Its firewall is lost, or a router in the place of the firewall. -/
theorem risk_le_of_guard_lost_fenced : ∃ r r',
    Store.bundled.risk fencedDatabase (fencedDatabase.removeNode "fw-1") = .ok r ∧
      Store.bundled.risk (fencedDatabase.withType "fw-1" .router "Router")
        (fencedDatabase.removeNode "fw-1") = .ok r' ∧ r'.level.rank ≤ r.level.rank :=
  risk_le_of_guard_lost (x := ⟨"fw-1", .firewall, "Firewall", none, none, none⟩) (by decide)
    (by decide) (by decide) (by decide) (by decide) (by decide) "Router"

/-! ## Exposures -/

/-- **When it is critical that a connection now joins the internet with an internal component**: if
it or another such connection is new, if there was none before, or for another reason. -/
theorem risk_of_exposed (hb : before.WellFormed) (ha : after.WellFormed) (he : after.Exposed e) :
    ∃ r, Store.bundled.risk before after = .ok r ∧ (r.level = .critical ↔
      (∃ e', after.Exposed e' ∧ e' ∉ before.ends) ∨ (∀ e', ¬ before.Exposed e') ∨
        before.Overhauled after ∨ (after.DatabaseOpen ∧ ¬ before.DatabaseOpen)) := by
  obtain ⟨r, hr, hcritical⟩ := risk_critical_iff hb ha
  have hexposed : ∃ e, after.Exposed e := ⟨e, he⟩
  refine ⟨r, hr, ?_⟩
  rw [hcritical, and_iff_right hexposed, not_exists]
  constructor
  · rintro (h | h | h | h)
    · exact Or.inr (Or.inr (Or.inl h))
    · exact Or.inr (Or.inr (Or.inr h))
    · exact Or.inr (Or.inl h)
    · exact Or.inl h
  · rintro (h | h | h | h)
    · exact Or.inr (Or.inr (Or.inr h))
    · exact Or.inr (Or.inr (Or.inl h))
    · exact Or.inl h
    · exact Or.inr (Or.inl h)

instance (s : Spec) (types : List Component) (id : String) : Decidable (s.IsOf types id) :=
  inferInstanceAs (Decidable (∃ n ∈ s.nodes, n.id = id ∧ n.type ∈ types))

instance (s : Spec) (e : String × String) : Decidable (s.Exposed e) :=
  inferInstanceAs (Decidable (_ ∧ _))

/-- A database and a web server behind no firewall. -/
def unfenced : Spec where
  nodes := [⟨"internet-1", .internet, "Internet", none, none, none⟩,
    ⟨"db-1", .dbServer, "DB Server", none, none, none⟩,
    ⟨"web-1", .webServer, "Web Server", none, none, none⟩]
  connections := [⟨"internet-1", "db-1", none, none, none⟩,
    ⟨"internet-1", "web-1", none, none, none⟩]

/-- The same with an application server in the place of the web server. -/
def unfencedApp : Spec := unfenced.withType "web-1" .appServer "App Server"

theorem risk_of_exposed_unfenced :
    ∃ r, Store.bundled.risk unfenced unfencedApp = .ok r ∧ (r.level = .critical ↔
      (∃ e', unfencedApp.Exposed e' ∧ e' ∉ unfenced.ends) ∨ (∀ e', ¬ unfenced.Exposed e') ∨
        unfenced.Overhauled unfencedApp ∨
          (unfencedApp.DatabaseOpen ∧ ¬ unfenced.DatabaseOpen)) :=
  risk_of_exposed (e := ("internet-1", "web-1")) (by decide) (by decide) (by decide)

/-- The change of the web server is not critical, as the database was exposed before. -/
theorem not_critical_unfenced : unfenced.WellFormed ∧ unfencedApp.WellFormed ∧
    unfencedApp.Exposed ("internet-1", "web-1") ∧ ¬ unfenced.Exposed ("internet-1", "web-1") ∧
    ∃ r, Store.bundled.risk unfenced unfencedApp = .ok r ∧ r.level ≠ .critical := by
  have hb : unfenced.WellFormed := by decide
  have ha : unfencedApp.WellFormed := by decide
  obtain ⟨r, hr, hcritical⟩ := risk_critical_iff hb ha
  refine ⟨hb, ha, by decide, by decide, r, hr, ?_⟩
  rw [Ne, hcritical]
  rintro (⟨-, h⟩ | ⟨-, h⟩ | ⟨-, h⟩ | ⟨e, he, h⟩)
  · exact absurd h (by decide)
  · have hadjacent : unfenced.Adjacent "internet-1" "db-1" := Or.inl (by decide)
    exact h ⟨"internet-1", "db-1", by decide, by decide, by decide,
      .single ⟨hadjacent, Or.inl rfl⟩⟩
  · exact h ⟨("internet-1", "db-1"), by decide⟩
  · exact h he.1

end NetSketch
