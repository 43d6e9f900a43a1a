import NetSketch.Change.Request
import NetSketch.Proofs.Json.Course
import NetSketch.Proofs.Prompt.Reference

/-!
# What a followed prompt did

When a prompt is followed, its outcome holds the diagram and the steps of one edit. Each handler has
a lemma that says which edit that is; whatever is proved about all outcomes goes through them.

* `Followed`: what holds of the diagram and the steps of a followed prompt;
* `advised_of_create`, `advised_of_createFrom`, `advised_of_add`: what the advice on a new diagram
  and on an addition is about; `Spec.wantedFor`;
* `createFrom_followed`, `add_wanted`, `add_followed`, `remove_followed`, `connect_followed`,
  `disconnect_followed`;
* `modify_followed`: the four ways of modifying a diagram, `Modified`.
-/

namespace NetSketch

open Prompt Text

variable {α β : Type}

theorem Reading.ofBreach_eq_ok {x : Except Breach α} {a : α} : ofBreach x = .ok a ↔ x = .ok a := by
  cases x <;> simp [ofBreach, complain]

theorem Reading.ofFault_eq_ok {x : Except Fault α} {a : α} : ofFault x = .ok a ↔ x = .ok a := by
  cases x <;> simp [ofFault]

/-- Of a prompt that is followed, `Q` holds for the new diagram and the steps taken. -/
def Followed (Q : Spec → List Modification → Prop) (r : Reading Outcome) : Prop :=
  ∀ c, r = .ok (.done c) → ∃ t, c.spec = some t ∧ Q t c.modifications

variable {Q Q' : Spec → List Modification → Prop} {store : Store} {prompt : String} {s t : Spec}
  {intent : Option Intent}

theorem advised_eq_done {affected : List Component} {change c : Change} :
    advised store s t affected change = .ok (.done c) ↔
      ∃ warnings, store.warnings t affected (some s) = .ok warnings ∧ c = { change with
        spec := some t, warnings, suggestions := store.suggestions t affected } := by
  rw [advised, bind_eq_ok]
  refine exists_congr fun warnings => and_congr Reading.ofFault_eq_ok ?_
  exact ⟨fun h => (Outcome.done.inj (Except.ok.inj h)).symm, fun h => by rw [h]; rfl⟩

namespace Followed

theorem failed {command : Command} {problem : Problem} {fallback : Option Spec} :
    Followed Q (.ok (.failed command problem fallback)) := by
  rintro _ ⟨⟩

theorem advised {affected : List Component} {change : Change} (h : Q t change.modifications) :
    Followed Q (NetSketch.advised store s t affected change) := by
  intro c hc
  obtain ⟨warnings, -, rfl⟩ := advised_eq_done.mp hc
  exact ⟨t, rfl, h⟩

theorem bind {x : Reading α} {f : α → Reading Outcome} (h : ∀ a, x = .ok a → Followed Q (f a)) :
    Followed Q (x >>= f) := by
  intro c hc
  obtain ⟨a, ha, hc⟩ := bind_eq_ok.mp hc
  exact h a ha c hc

theorem ofBreach {x : Except Breach α} {f : α → Reading Outcome}
    (h : ∀ a, x = .ok a → Followed Q (f a)) : Followed Q (.ofBreach x >>= f) :=
  .bind fun a ha => h a (Reading.ofBreach_eq_ok.mp ha)

theorem mono {r : Reading Outcome} (h : Followed Q r) (hQ : ∀ t steps, Q t steps → Q' t steps) :
    Followed Q' r := by
  intro c hc
  obtain ⟨t, ht, hq⟩ := h c hc
  exact ⟨t, ht, hQ _ _ hq⟩

theorem recast {r : Reading Outcome} (h : Followed Q r) (command : Command) :
    Followed Q (r >>= fun o => .ok (o.recast command)) := by
  intro c hc
  obtain ⟨o, ho, hc⟩ := bind_eq_ok.mp hc
  cases o with
  | failed => cases Except.ok.inj hc
  | done d =>
    obtain rfl := Outcome.done.inj (Except.ok.inj hc)
    exact h d ho

end Followed

/-! ## Creation, addition and removal -/

theorem advised_of_create {options : Options} {c : Change}
    (h : create store options prompt = .ok (.done c)) :
    ∃ t change, advised store .empty t t.types change = .ok (.done c) := by
  unfold create at h
  split at h
  · exact ⟨_, _, h⟩
  · obtain ⟨made, -, h⟩ := bind_eq_ok.mp h
    cases made with
    | some t => exact ⟨_, _, h⟩
    | none => cases h

theorem advised_of_createFrom {i : Intent} {c : Change}
    (h : createFrom store i = .ok (some (.done c))) :
    ∃ t change, Spec.sketch (Spec.withEntry i.components) = .ok t ∧
      advised store .empty t t.types change = .ok (.done c) := by
  unfold createFrom at h
  split_ifs at h
  · cases h
  · obtain ⟨t, ht, h⟩ := bind_eq_ok.mp h
    obtain ⟨o, ho, h⟩ := bind_eq_ok.mp h
    obtain rfl := Option.some.inj (Except.ok.inj h)
    exact ⟨t, _, Reading.ofBreach_eq_ok.mp ht, ho⟩

theorem createFrom_followed {i : Intent} {c : Change}
    (h : createFrom store i = .ok (some (.done c))) :
    ∃ t, c.spec = some t ∧ Spec.sketch (Spec.withEntry i.components) = .ok t := by
  obtain ⟨t, change, ht, h⟩ := advised_of_createFrom h
  obtain ⟨warnings, -, rfl⟩ := advised_eq_done.mp h
  exact ⟨t, rfl, ht⟩

/-- The components that are wanted in a diagram: those of the intent, or if it has none, those that
the prompt mentions other than to tell where. -/
def Spec.wantedFor (s : Spec) (prompt : String) (intent : Option Intent) : List Wanted :=
  let hint := hintBy intent prompt
  let refs := [s.resolveIn hint (·.reference), s.resolveIn hint (·.second)].filterMap id
  if (wantedBy intent).isEmpty then
    (withoutReferences (mentions (lower prompt)) hint (refs.map (·.type))).map
      fun m => { type := m.type }
  else wantedBy intent

theorem advised_of_add {c : Change} (h : add store prompt (some s) intent = .ok (.done c)) :
    ∃ t change, s.wantedFor prompt intent ≠ [] ∧
      s.addEach ((hintBy intent prompt).any (·.placement.inRow))
        (.of (hintBy intent prompt) (s.resolveIn (hintBy intent prompt) (·.reference))
          (s.resolveIn (hintBy intent prompt) (·.second))) (s.wantedFor prompt intent) =
            .ok (t, change.modifications) ∧
      advised store s t ((s.wantedFor prompt intent).map (·.type)) change = .ok (.done c) := by
  unfold add at h
  dsimp -zeta only at h
  extract_lets hint ref second asked wanted at h
  split_ifs at h with hw
  · cases h
  · obtain ⟨⟨t, steps⟩, ht, h⟩ := bind_eq_ok.mp h
    refine ⟨t, _, fun hnone => hw (List.isEmpty_iff.mpr hnone), ?_, h⟩
    exact Reading.ofBreach_eq_ok.mp ht

theorem add_wanted : Followed (fun t steps => s.wantedFor prompt intent ≠ [] ∧
      s.addEach ((hintBy intent prompt).any (·.placement.inRow))
        (.of (hintBy intent prompt) (s.resolveIn (hintBy intent prompt) (·.reference))
          (s.resolveIn (hintBy intent prompt) (·.second))) (s.wantedFor prompt intent) =
            .ok (t, steps))
    (add store prompt (some s) intent) := by
  intro c h
  obtain ⟨t, change, hwanted, ht, h⟩ := advised_of_add h
  obtain ⟨warnings, -, rfl⟩ := advised_eq_done.mp h
  exact ⟨t, rfl, hwanted, ht⟩

theorem add_followed : Followed (fun t steps => ∃ wanted, wanted ≠ [] ∧
      s.addEach ((hintBy intent prompt).any (·.placement.inRow))
        (.of (hintBy intent prompt) (s.resolveIn (hintBy intent prompt) (·.reference))
          (s.resolveIn (hintBy intent prompt) (·.second))) wanted = .ok (t, steps))
    (add store prompt (some s) intent) :=
  add_wanted.mono fun _ _ h => ⟨_, h⟩

theorem Spec.unwanted_subset (hs : s.ids.Nodup) : s.unwanted prompt ⊆ s.nodes := by
  unfold unwanted
  dsimp only
  split_ifs
  · exact List.filter_sublist.subset
  · exact List.Subset.trans List.filter_sublist.subset (named_told hs).1

theorem remove_eq : remove store prompt (some s) intent =
      .ok (.failed .remove .nothingToRemove none) ∨
    ∃ targets change, (s.ids.Nodup → targets ⊆ s.nodes) ∧
      change.modifications = (s.removeAll (targets.map (·.id))).2 ∧
      remove store prompt (some s) intent = advised store s (s.removeAll (targets.map (·.id))).1
        (affectedByRemoval store s (s.removeAll (targets.map (·.id))).1 targets) change := by
  unfold remove
  dsimp -zeta only
  extract_lets types targets
  split_ifs
  · exact Or.inl rfl
  · refine Or.inr ⟨targets, _, fun hs => ?_, rfl, rfl⟩
    unfold targets
    split_ifs
    · exact Spec.unwanted_subset hs
    · exact List.filter_sublist.subset

theorem remove_followed : Followed (fun t steps => ∃ ids, s.removeAll ids = (t, steps))
    (remove store prompt (some s) intent) := by
  rcases remove_eq with h | ⟨targets, _, _, hsteps, h⟩
  · rw [h]
    exact .failed
  · rw [h]
    exact .advised ⟨targets.map (·.id), Prod.ext rfl hsteps.symm⟩

/-! ## Connections -/

theorem connect_followed : Followed (fun t steps => ∃ a b : String,
      s.connect a b defaultFlow = .ok t ∧ steps = s.connectionChanges t)
    (connect store prompt (some s) intent) := by
  unfold connect
  dsimp only
  split
  · exact .ofBreach fun t ht => .advised ⟨_, _, ht, rfl⟩
  · exact .failed

theorem disconnect_followed : Followed (fun t steps => ∃ a b : String,
      t = (s.removeConnection a b).removeConnection b a ∧ steps = s.connectionChanges t)
    (disconnect store prompt (some s) intent) := by
  unfold disconnect
  dsimp only
  split
  · split_ifs
    · exact .failed
    · exact .advised ⟨_, _, rfl, rfl⟩
  · exact .failed

/-! ## Modification -/

/-- The ways in which a diagram is modified. -/
inductive Modified (s : Spec) : Spec → List Modification → Prop
  | removed {ids : List String} {t : Spec} {steps : List Modification}
      (h : s.removeAll ids = (t, steps)) : Modified s t steps
  | relabelled {id label : String} {t : Spec} (h : s.updateNode id (·.relabel label) = .ok t) :
      Modified s t [.relabel id label]
  | moved {n : Node} {spot : Spot} {t : Spec} (h : s.move n spot = .ok t) :
      Modified s t (s.connectionChanges t)
  | retyped {nodes : List Node} {type : Component} {label : String} {t : Spec}
      (h : nodes.foldlM (fun (u : Spec) n => u.updateNode n.id (·.retype type label)) s = .ok t) :
      Modified s t (nodes.map fun n => .retype n.id type)

theorem relabelled_followed {n : Node} {label : String} {confidence : Number.Binary64} :
    Followed (Modified s) (relabelled store s n label confidence) :=
  .ofBreach fun _ ht => .advised (.relabelled ht)

theorem reposition_followed {hint : Hint} : Followed (fun t steps => ∃ n spot,
      s.move n spot = .ok t ∧ steps = s.connectionChanges t)
    (reposition store prompt s hint intent) := by
  unfold reposition
  extract_lets ref second asked named
  split
  · exact .failed
  · exact .ofBreach fun t ht => .advised ⟨_, _, ht, rfl⟩

theorem ofBreach_foldlM {f : β → α → Except Breach β} {l : List α} {b : β} :
    l.foldlM (fun b a => Reading.ofBreach (f b a)) b = Reading.ofBreach (l.foldlM f b) := by
  induction l generalizing b with
  | nil => rfl
  | cons a l ih =>
    rw [List.foldlM_cons, List.foldlM_cons]
    cases f b a with
    | error => rfl
    | ok b' => exact ih

theorem retype_followed : Followed (Modified s) (retype store prompt s intent) := by
  unfold retype
  extract_lets asked types
  split
  · exact .failed
  · split
    · extract_lets label
      rw [ofBreach_foldlM]
      exact .ofBreach fun t ht => .advised (.retyped ht)
    · exact relabelled_followed
    · exact .failed

/-- **A modification is one of four edits.** -/
theorem modify_followed : Followed (Modified s) (modify store prompt (some s) intent) := by
  unfold modify
  dsimp only
  split_ifs
  · exact (remove_followed.mono fun t steps ⟨ids, h⟩ => .removed h).recast .modify
  · split
    · split
      · exact .failed
      · exact relabelled_followed
    · split
      · exact reposition_followed.mono fun t steps ⟨n, spot, ht, hsteps⟩ => hsteps ▸ .moved ht
      · exact retype_followed

end NetSketch
