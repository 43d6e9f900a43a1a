import NetSketch.Proofs.Change.Answer
import NetSketch.Proofs.Change.Reachability
import NetSketch.Proofs.Knowledge.Advice

/-!
# What is lost by a change

A change may take away what a type that stays cannot do without. The risk of the change tells of
every such loss. A removal suggests to bring back what is lost; a change of types does so only if
the new type itself cannot do without it.

* `advised_tells`: the advice on a change beside its risk;
* `mem_affectedByRemoval`, `retyped_of_retype`, `retypes_of_modify`: what the advice on a removal
  and on a change of types is about;
* **`remove_tells_losses`**, **`retype_tells_losses`**: the losses that are told.
-/

namespace NetSketch

variable {store : Store} {corpus : Corpus} {prompt : String} {s t : Spec}
  {intent : Option Intent} {change c : Change} {affected : List Component}

theorem advised_tells (h : advised store s t affected change = .ok (.done c)) :
    ∃ factors, c.spec = some t ∧ store.factors s t = .ok factors ∧
      c.warnings.filterMap (·.antiPattern?) =
        (factors.filter (·.level.severe)).filterMap (·.antiPattern?) ∧
      c.suggestions = store.suggestions t affected := by
  obtain ⟨warnings, hwarnings, rfl⟩ := advised_eq_done.mp h
  obtain ⟨factors, hfactors⟩ := Store.exists_factors hwarnings
  exact ⟨factors, rfl, hfactors, Store.warnings_antiPatterns hfactors hwarnings, rfl⟩

/-! ## Removals -/

/-- A removal affects every type that is left without one it depends on. -/
theorem mem_affectedByRemoval (hs : s.ids.Nodup) {targets : List Node} (hsub : targets ⊆ s.nodes)
    (ht : t = (s.removeAll (targets.map (·.id))).1) {type needed : Component}
    (htype : type ∈ t.types) (hneeds : needed ∈ store.mandatoryFor type)
    (hbefore : needed ∈ s.types) (hafter : needed ∉ t.types) :
    type ∈ affectedByRemoval store s t targets := by
  obtain ⟨n, hn, rfl⟩ := List.mem_map.mp hbefore
  -- a node of the missing type is gone, so it was to be removed
  have hid : n.id ∈ targets.map (·.id) := by
    by_contra hid
    refine hafter (List.mem_map_of_mem ?_)
    rw [ht]
    exact Spec.mem_removeEach_nodes.mpr ⟨hn, hid⟩
  obtain ⟨m, hm, hmn⟩ := List.mem_map.mp hid
  obtain rfl := Spec.node_ext_of_nodup hs (hsub hm) hn hmn
  obtain ⟨r, hdep, -⟩ := Store.mem_mandatoryFor.mp hneeds
  have hgone : m.type ∈ (targets.map (·.type)).filter (!t.types.contains ·) :=
    List.mem_filter.mpr ⟨List.mem_map_of_mem hm, by simpa using hafter⟩
  refine List.mem_append_right _ (List.mem_filter.mpr ⟨htype, ?_⟩)
  exact List.any_eq_true.mpr ⟨(r, m.type), hdep, List.contains_iff_mem.mpr hgone⟩

/-- **A removal tells what is lost by it.** Its warnings name the severe anti-patterns among the
factors of its risk in their order, and for every dependency that is broken it suggests the missing
component as mandatory. -/
theorem remove_tells_losses (hsure : corpus.Sure) (hs : s.WellFormed)
    (h : remove (.ofCorpus corpus) prompt (some s) intent = .ok (.done c)) :
    ∃ t factors, c.spec = some t ∧ (Store.ofCorpus corpus).factors s t = .ok factors ∧
      c.warnings.filterMap (·.antiPattern?) =
        (factors.filter (·.level.severe)).filterMap (·.antiPattern?) ∧
      ∀ type needed, .dependencyBroken type needed ∈ factors →
        ∃ g ∈ c.suggestions, g.isMandatory = true ∧ g.missing = needed := by
  rcases @remove_eq (.ofCorpus corpus) prompt s intent with hnone | ⟨targets, _, hsub, -, heq⟩
  · rw [hnone] at h
    cases h
  rw [heq] at h
  obtain ⟨factors, hspec, hfactors, hwarnings, hsuggestions⟩ := advised_tells h
  refine ⟨_, factors, hspec, hfactors, hwarnings, fun type needed hbroken => ?_⟩
  obtain ⟨htype, hneeds, hbefore, hafter⟩ := (Store.dependencyBroken_mem_iff hfactors).mp hbroken
  rw [hsuggestions]
  exact (Store.exists_mandatory_iff hsure.store).mpr ⟨hafter, type,
    mem_affectedByRemoval hs.ids_nodup (hsub hs.ids_nodup) rfl htype hneeds hbefore hafter, hneeds⟩

/-- A web server and its database behind a node of some type. -/
def shopBehind (type : Component) : Spec where
  nodes := [⟨"fw-1", type, type.label, none, none, none⟩,
    ⟨"web-1", .webServer, "Web Server", none, none, none⟩,
    ⟨"db-1", .dbServer, "DB Server", none, none, none⟩]
  connections := [⟨"fw-1", "web-1", none, none, none⟩, ⟨"web-1", "db-1", none, none, none⟩]

theorem remove_tells_losses_firewall : (shopBehind .firewall).WellFormed ∧
    ∃ c, remove .bundled "" (some (shopBehind .firewall)) (some (without [.firewall])) =
        .ok (.done c) ∧
      ∃ g ∈ c.suggestions, g.isMandatory = true ∧ g.missing = .firewall := by
  have hs : (shopBehind .firewall).WellFormed := by decide
  obtain ⟨c, hc, hspec⟩ : ∃ c, remove .bundled "" (some (shopBehind .firewall))
      (some (without [.firewall])) = .ok (.done c) ∧
        c.spec = some ((shopBehind .firewall).removeAll ["fw-1"]).1 :=
    Answered.exists_advised Store.bundled_typed _ _ _ _
  obtain ⟨t, factors, ht, hfactors, -, hlosses⟩ := remove_tells_losses Corpus.bundled_sure hs hc
  obtain rfl := Option.some.inj (hspec.symm.trans ht)
  have hneeds : .firewall ∈ Store.bundled.mandatoryFor .dbServer := by decide +kernel
  have hbroken := (Store.dependencyBroken_mem_iff hfactors).mpr
    ⟨by decide, hneeds, by decide, by decide⟩
  exact ⟨hs, c, hc, hlosses .dbServer .firewall hbroken⟩

/-! ## Changes of types -/

theorem Spec.retype_notMem_connectionChanges {id : String} {new : Component} :
    .retype id new ∉ s.connectionChanges t := by
  simp [connectionChanges]

theorem Spec.retype_notMem_removeEach {removed ids : List String} {id : String} {new : Component} :
    .retype id new ∉ (removeEach removed s ids).2 := by
  induction ids generalizing s with
  | nil => exact List.not_mem_nil
  | cons a rest ih =>
    cases h : s.node? a with
    | none =>
      rw [removeEach_cons_of_none h]
      exact ih
    | some n =>
      rw [removeEach_cons_of_some h]
      simp [retype_notMem_connectionChanges, ih]

theorem Spec.mem_of_updateNodes {change : Node → Node} {nodes : List Node} {n : Node}
    (h : nodes.foldlM (fun (u : Spec) m => u.updateNode m.id change) s = .ok t)
    (hn : n ∈ s.nodes) (hid : n.id ∉ nodes.map (·.id)) : n ∈ t.nodes := by
  induction nodes generalizing s with
  | nil =>
    obtain rfl := Except.ok.inj h
    exact hn
  | cons m nodes ih =>
    rw [List.foldlM_cons] at h
    obtain ⟨u, hu, h⟩ := bind_eq_ok.mp h
    obtain rfl := eq_of_check hu
    rw [List.map_cons, List.mem_cons, not_or] at hid
    exact ih h (List.mem_map.mpr ⟨n, hn, if_neg hid.1⟩) hid.2

/-- A change that turns all nodes of one type, among them the one with an id, into another type. Its
advice is about that other type alone. -/
def Retypes (store : Store) (s : Spec) (id : String) (new : Component) (c : Change) : Prop :=
  ∃ old label t change, id ∈ (s.nodesOfType old).map (·.id) ∧
    (s.nodesOfType old).foldlM (fun (u : Spec) n => u.updateNode n.id (·.retype new label)) s =
      .ok t ∧ advised store s t [new] change = .ok (.done c)

theorem retyped_of_retype {id : String} {new : Component}
    (h : retype store prompt s intent = .ok (.done c)) (hstep : .retype id new ∈ c.modifications) :
    ∃ old label t change, new ≠ old ∧ id ∈ (s.nodesOfType old).map (·.id) ∧
      (s.nodesOfType old).foldlM (fun (u : Spec) n => u.updateNode n.id (·.retype new label)) s =
        .ok t ∧ advised store s t [new] change = .ok (.done c) := by
  unfold retype at h
  extract_lets asked types at h
  split at h
  · cases h
  · rename_i old _
    split at h
    · rename_i hother
      extract_lets label at h
      rw [ofBreach_foldlM] at h
      obtain ⟨t, ht, h⟩ := bind_eq_ok.mp h
      obtain ⟨warnings, -, hc⟩ := advised_eq_done.mp h
      rw [hc] at hstep
      obtain ⟨n, hn, hsame⟩ := List.mem_map.mp hstep
      obtain ⟨rfl, rfl⟩ := Modification.retype.inj hsame
      exact ⟨old, label, t, _, by simpa using List.find?_some hother, List.mem_map_of_mem hn,
        Reading.ofBreach_eq_ok.mp ht, h⟩
    · obtain ⟨t, -, h⟩ := bind_eq_ok.mp h
      obtain ⟨warnings, -, rfl⟩ := advised_eq_done.mp h
      simp at hstep
    · cases h

theorem retype_of_modify {id : String} {new : Component}
    (h : modify store prompt (some s) intent = .ok (.done c))
    (hstep : .retype id new ∈ c.modifications) :
    retype store prompt s intent = .ok (.done c) := by
  have hother : ∀ {r : Reading Outcome},
      Followed (fun _ steps => .retype id new ∉ steps) r → r ≠ .ok (.done c) := by
    intro r hr hc
    obtain ⟨-, -, hnone⟩ := hr c hc
    exact hnone hstep
  unfold modify at h
  dsimp only at h
  split_ifs at h
  · have hremoved : Followed (fun _ steps => .retype id new ∉ steps)
        (remove store prompt (some s) none) :=
      remove_followed.mono fun t steps ⟨ids, hids⟩ => by
        obtain rfl : (s.removeAll ids).2 = steps := by rw [hids]
        exact Spec.retype_notMem_removeEach
    exact absurd h (hother (hremoved.recast .modify))
  · split at h
    · split at h
      · cases h
      · exact absurd h (hother (.ofBreach fun _ _ => .advised (by simp)))
    · split at h
      · rename_i hint _
        have hmoved : Followed (fun _ steps => .retype id new ∉ steps)
            (reposition store prompt s hint intent) :=
          reposition_followed.mono fun t steps ⟨_, _, _, hsteps⟩ =>
            hsteps ▸ Spec.retype_notMem_connectionChanges
        exact absurd h (hother hmoved)
      · exact h

theorem retypes_of_modify {id : String} {new : Component}
    (h : modify store prompt (some s) intent = .ok (.done c))
    (hstep : .retype id new ∈ c.modifications) : Retypes store s id new c := by
  obtain ⟨old, label, t, change, -, hid, ht, hadvised⟩ :=
    retyped_of_retype (retype_of_modify h hstep) hstep
  exact ⟨old, label, t, change, hid, ht, hadvised⟩

/-- **A change of types tells what is lost by it if the new type itself cannot do without it.** Only
the old type of the changed nodes can be missing afterwards. For the types that it leaves without
it the factors of the risk tell of broken dependencies; it is suggested as mandatory exactly if the
new type is one that cannot do without it. -/
theorem retype_tells_losses (hsure : corpus.Sure) (hs : s.WellFormed) {id : String}
    {new : Component} (h : modify (.ofCorpus corpus) prompt (some s) intent = .ok (.done c))
    (hstep : .retype id new ∈ c.modifications) :
    ∃ t factors, c.spec = some t ∧ (Store.ofCorpus corpus).factors s t = .ok factors ∧
      ∀ type needed, .dependencyBroken type needed ∈ factors →
        (∃ n ∈ s.nodes, n.id = id ∧ n.type = needed) ∧
          ((∃ g ∈ c.suggestions, g.isMandatory = true ∧ g.missing = needed) ↔
            needed ∈ (Store.ofCorpus corpus).mandatoryFor new) := by
  obtain ⟨old, label, t, change, hid, ht, h⟩ := retypes_of_modify h hstep
  obtain ⟨factors, hspec, hfactors, -, hsuggestions⟩ := advised_tells h
  refine ⟨t, factors, hspec, hfactors, fun type needed hbroken => ?_⟩
  obtain ⟨-, -, hbefore, hafter⟩ := (Store.dependencyBroken_mem_iff hfactors).mp hbroken
  have hold : needed = old := by
    obtain ⟨n, hn, rfl⟩ := List.mem_map.mp hbefore
    by_contra hne
    refine hafter (List.mem_map_of_mem (Spec.mem_of_updateNodes ht hn fun hmem => hne ?_))
    obtain ⟨m, hm, hmn⟩ := List.mem_map.mp hmem
    obtain ⟨hm, hmold⟩ := Spec.mem_nodesOfType.mp hm
    rwa [← Spec.node_ext_of_nodup hs.ids_nodup hm hn hmn]
  obtain ⟨n, hn, hnid⟩ := List.mem_map.mp hid
  obtain ⟨hn, hnold⟩ := Spec.mem_nodesOfType.mp hn
  refine ⟨⟨n, hn, hnid, hnold.trans hold.symm⟩, ?_⟩
  rw [hsuggestions, Store.exists_mandatory_iff hsure.store, and_iff_right hafter]
  simp

/-- A request that one type of nodes becomes another. -/
def insteadOf (old new : Component) : Intent :=
  ⟨.modify, editConfidence, [{ type := old }, { type := new }], none, none⟩

theorem modify_insteadOf {old new : Component} (hne : new ≠ old)
    (hold : s.types.contains old = true)
    (ht : (s.nodesOfType old).foldlM (fun (u : Spec) n => u.updateNode n.id (·.retype new "")) s =
      .ok t) : modify store "" (some s) (some (insteadOf old new)) =
        advised store s t [new]
          { command := .modify, spec := t, confidence := editConfidence
            modifications := (s.nodesOfType old).map fun n => .retype n.id new } := by
  have hrenaming : Prompt.renaming? "" = none := by decide +kernel
  have hhint : hintBy (some (insteadOf old new)) "" = none := by
    change Prompt.hint? (Text.lower "") = none
    decide +kernel
  have hasked : wantedBy (some (insteadOf old new)) = [{ type := old }, { type := new }] := rfl
  have hfirst : [old, new].find? s.types.contains = some old := List.find?_cons_of_pos hold
  have hother : [old, new].find? (· != old) = some new := by simp [hne]
  have hlabel : labelFor [{ type := old }, { type := new }] new = none := by simp [labelFor]
  have hretype : modify store "" (some s) (some (insteadOf old new)) =
      retype store "" s (some (insteadOf old new)) := by
    unfold modify
    rw [hrenaming, hhint]
    rfl
  rw [hretype]
  unfold retype
  simp only [hasked, List.isEmpty_cons, Bool.false_eq_true, if_false, List.map_cons, List.map_nil,
    hfirst, hother, hlabel, Option.getD_none, ofBreach_foldlM, ht]
  rfl

theorem modify_shopBehind {new : Component} (hne : new ≠ .firewall) :
    modify store "" (some (shopBehind .firewall)) (some (insteadOf .firewall new)) =
      advised store (shopBehind .firewall) (shopBehind new) [new]
        { command := .modify, spec := shopBehind new, confidence := editConfidence
          modifications := [.retype "fw-1" new] } := by
  have ht : ((shopBehind .firewall).nodesOfType .firewall).foldlM
      (fun (u : Spec) n => u.updateNode n.id (·.retype new "")) (shopBehind .firewall) =
        .ok (shopBehind new) := rfl
  exact modify_insteadOf hne (by decide) ht

theorem exists_shopBehind (new : Component) (hne : new ≠ .firewall) :
    ∃ c, modify .bundled "" (some (shopBehind .firewall)) (some (insteadOf .firewall new)) =
        .ok (.done c) ∧ c.spec = some (shopBehind new) ∧ c.modifications = [.retype "fw-1" new] ∧
      c.suggestions = Store.bundled.suggestions (shopBehind new) [new] := by
  rw [modify_shopBehind hne]
  obtain ⟨c, hc, hspec⟩ := Answered.exists_advised Store.bundled_typed (shopBehind .firewall)
    (shopBehind new) [new]
    { command := .modify, spec := shopBehind new, confidence := editConfidence
      modifications := [.retype "fw-1" new] }
  obtain ⟨warnings, -, rfl⟩ := advised_eq_done.mp hc
  exact ⟨_, hc, rfl, rfl, rfl⟩

/-- A second web server in the place of the firewall cannot do without it either. -/
theorem retype_tells_losses_webServer : (shopBehind .firewall).WellFormed ∧
    ∃ c, modify .bundled "" (some (shopBehind .firewall)) (some (insteadOf .firewall .webServer)) =
        .ok (.done c) ∧ .retype "fw-1" .webServer ∈ c.modifications ∧
      ∃ g ∈ c.suggestions, g.isMandatory = true ∧ g.missing = .firewall := by
  have hs : (shopBehind .firewall).WellFormed := by decide
  obtain ⟨c, hc, hspec, hsteps, -⟩ := exists_shopBehind .webServer (by decide)
  have hstep : .retype "fw-1" .webServer ∈ c.modifications := hsteps ▸ List.mem_singleton_self _
  obtain ⟨t, factors, ht, hfactors, hlosses⟩ := retype_tells_losses Corpus.bundled_sure hs hc hstep
  obtain rfl := Option.some.inj (hspec.symm.trans ht)
  have hneeds : .firewall ∈ Store.bundled.mandatoryFor .webServer := by decide +kernel
  have hbroken := (Store.dependencyBroken_mem_iff hfactors).mpr
    ⟨by decide, hneeds, by decide, by decide⟩
  exact ⟨hs, c, hc, hstep, (hlosses .webServer .firewall hbroken).2.mpr hneeds⟩

/-- Behind a router nothing insists on the firewall that the web server has lost. -/
theorem not_suggested_router : (shopBehind .firewall).WellFormed ∧
    ∃ c t factors, modify .bundled "" (some (shopBehind .firewall))
        (some (insteadOf .firewall .router)) = .ok (.done c) ∧
      c.spec = some t ∧ .retype "fw-1" .router ∈ c.modifications ∧
      Store.bundled.factors (shopBehind .firewall) t = .ok factors ∧
      .dependencyBroken .webServer .firewall ∈ factors ∧
      ¬ ∃ g ∈ c.suggestions, g.isMandatory = true ∧ g.missing = .firewall := by
  obtain ⟨c, hc, hspec, hsteps, hsuggestions⟩ := exists_shopBehind .router (by decide)
  have hneeds : .firewall ∈ Store.bundled.mandatoryFor .webServer := by decide +kernel
  have hnothing : Store.bundled.mandatoryFor .router = [] := by decide +kernel
  obtain ⟨brought, hbrought, -⟩ := Store.exists_introduced Store.bundled_typed
    Store.bundled_distinct (shopBehind .firewall) (shopBehind .router)
  have hfactors := Store.factors_eq hbrought
  refine ⟨by decide, c, _, _, hc, hspec, hsteps ▸ List.mem_singleton_self _, hfactors, ?_, ?_⟩
  · exact (Store.dependencyBroken_mem_iff hfactors).mpr ⟨by decide, hneeds, by decide, by decide⟩
  · rw [hsuggestions, Store.exists_mandatory_iff Store.bundled_sure]
    simp [hnothing]

end NetSketch
