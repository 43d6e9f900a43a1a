import NetSketch.Proofs.Change.Creation
import NetSketch.Proofs.Change.Followed
import NetSketch.Proofs.Change.Movement
import NetSketch.Proofs.Knowledge.Typed
import NetSketch.Proofs.Prompt.Reference

/-!
# Every prompt is answered

Whatever is asked of whatever well-formed diagram, there is an outcome. A prompt that is followed
leaves a well-formed diagram, and one that is not says so and proposes at most a fallback.

* `Outcome.Refuses`: what the document of a prompt that is not followed holds;
* `Outcome.Sound`, `Answered`: outcomes as they should be; `Obeyed`: requests that are followed;
* `create_answered`, `add_answered`, `remove_answered`, `modify_answered`, `connect_answered`,
  `disconnect_answered`: the handlers;
* **`prompts_answered`**: all ways to ask.
-/

namespace NetSketch

open Prompt Text

/-! ## Outcomes -/

namespace Outcome

/-- What the document of a prompt that is not followed holds: an error, no effects and, if a diagram
was to be created, perhaps the fallback of the prompt. -/
structure Refuses (prompt : String) (o : Outcome) : Prop where
  error : ∃ e, Fields.get? o.toFields "error" = some (.str e) ∧ e ≠ ""
  no_effects : ∀ name ∈ ["modifications", "warnings", "suggestions"],
    Fields.get? o.toFields name = none
  spec : Fields.get? o.toFields "spec" = none ∨ o.command = .create ∧
    Fields.get? o.toFields "isFallback" = some (.bool true) ∧
      Fields.get? o.toFields "spec" = some (Fallback.forPrompt prompt).spec.toJson

/-- What an outcome is to be, given the diagram before. -/
structure Sound (before : Option Spec) (prompt : String) (o : Outcome) : Prop where
  wellFormed : ∀ c t, o = .done c → c.spec = some t → t.WellFormed
  nodup_ends : ∀ c t, o = .done c → c.spec = some t →
    (∀ s, before = some s → s.ends.Nodup) → t.ends.Nodup
  refuses : o.success = false → o.Refuses prompt

variable {before : Option Spec} {prompt : String} {c : Change} {t : Spec} {o : Outcome}

theorem sound_done (hc : c.spec = some t) (ht : t.WellFormed)
    (hn : (∀ s, before = some s → s.ends.Nodup) → t.ends.Nodup) :
    Sound before prompt (.done c) where
  wellFormed := by
    rintro _ u ⟨rfl⟩ hu
    obtain rfl := Option.some.inj (hc.symm.trans hu)
    exact ht
  nodup_ends := by
    rintro _ u ⟨rfl⟩ hu
    obtain rfl := Option.some.inj (hc.symm.trans hu)
    exact hn
  refuses := nofun

theorem message_ne_empty (problem : Problem) : problem.message ≠ "" := by
  cases problem <;> decide

theorem refuses_failed (command : Command) (problem : Problem) :
    (failed command problem none).Refuses prompt where
  error := ⟨problem.message, rfl, message_ne_empty problem⟩
  no_effects := by simp; exact ⟨rfl, rfl, rfl⟩
  spec := Or.inl rfl

theorem refuses_fallback (problem : Problem) :
    (failed .create problem (some (Fallback.forPrompt prompt).spec)).Refuses prompt where
  error := ⟨problem.message, rfl, message_ne_empty problem⟩
  no_effects := by simp; exact ⟨rfl, rfl, rfl⟩
  spec := Or.inr ⟨rfl, rfl, rfl⟩

theorem sound_failed {command : Command} {problem : Problem} {fallback : Option Spec}
    (h : (failed command problem fallback).Refuses prompt) :
    Sound before prompt (failed command problem fallback) where
  wellFormed := by rintro _ _ ⟨⟩
  nodup_ends := by rintro _ _ ⟨⟩
  refuses := fun _ => h

end Outcome

/-- There is an outcome, and it is as it should be. -/
def Answered (before : Option Spec) (prompt : String) (r : Reading Outcome) : Prop :=
  ∃ o, r = .ok o ∧ o.Sound before prompt

namespace Answered

variable {α : Type} {before : Option Spec} {prompt : String} {store : Store} {s t : Spec}
  {problem : Problem} {command : Command}

theorem failed : Answered before prompt (.ok (.failed command problem none)) :=
  ⟨_, rfl, Outcome.sound_failed (Outcome.refuses_failed command problem)⟩

theorem exists_advised (hstore : store.Typed) (s t : Spec) (affected : List Component)
    (change : Change) :
    ∃ c, NetSketch.advised store s t affected change = .ok (.done c) ∧ c.spec = some t := by
  obtain ⟨warnings, hw⟩ := Store.warnings_succeed hstore t affected (some s)
  rw [NetSketch.advised, hw]
  exact ⟨_, rfl, rfl⟩

theorem advised (hstore : store.Typed) {affected : List Component} {change : Change}
    (ht : t.WellFormed) (hn : (∀ s, before = some s → s.ends.Nodup) → t.ends.Nodup) :
    Answered before prompt (NetSketch.advised store s t affected change) := by
  obtain ⟨c, hc, hspec⟩ := exists_advised hstore s t affected change
  exact ⟨_, hc, Outcome.sound_done hspec ht hn⟩

theorem ofBreach {x : Except Breach α} {f : α → Reading Outcome} {a : α} (hx : x = .ok a)
    (h : Answered before prompt (f a)) : Answered before prompt (.ofBreach x >>= f) := by
  rw [hx]
  exact h

theorem advised_recast (hstore : store.Typed) {affected : List Component} {change : Change}
    (ht : t.WellFormed) (hn : (∀ s, before = some s → s.ends.Nodup) → t.ends.Nodup) :
    Answered before prompt (NetSketch.advised store s t affected change >>= fun o =>
      .ok (o.recast command)) := by
  obtain ⟨c, hc, hspec⟩ := exists_advised hstore s t affected change
  rw [hc]
  exact ⟨_, rfl, Outcome.sound_done hspec ht hn⟩

end Answered

/-- Whatever the store, `Q` holds of a prompt that is followed, and with typed signatures in the
store the prompt is followed. -/
def Obeyed (Q : Spec → List Modification → Prop) (request : Store → Reading Outcome) : Prop :=
  ∀ store, Followed Q (request store) ∧ (store.Typed → ∃ c, request store = .ok (.done c))

theorem Obeyed.mono {Q Q' : Spec → List Modification → Prop} {request : Store → Reading Outcome}
    (h : Obeyed Q request) (hQ : ∀ t steps, Q t steps → Q' t steps) : Obeyed Q' request :=
  fun store => ⟨(h store).1.mono hQ, (h store).2⟩

theorem Obeyed.advised {Q : Spec → List Modification → Prop} {s t : Spec}
    {affected : Store → List Component} {change : Change} (h : Q t change.modifications) :
    Obeyed Q (fun store => NetSketch.advised store s t (affected store) change) := by
  intro store
  refine ⟨.advised h, fun hstore => ?_⟩
  obtain ⟨c, hc, -⟩ := Answered.exists_advised hstore s t (affected store) change
  exact ⟨c, hc⟩

variable {store : Store} {prompt : String} {spec : Option Spec} {s t : Spec}
  {intent : Option Intent}

/-! ## Creation -/

theorem wellFormed_of_mem_catalog {t : Template} (ht : t ∈ Template.catalog) :
    t.spec.WellFormed ∧ t.spec.ends.Nodup := by
  have h : ∀ t ∈ Template.catalog, t.spec.WellFormed ∧ t.spec.ends.Nodup := by decide +kernel
  exact h t ht

theorem mem_catalog_of_template? {options : Options} {t : Template}
    (h : options.template? prompt = some t) : t ∈ Template.catalog := by
  unfold Options.template? at h
  split_ifs at h
  simp only [Option.orElse_eq_orElse, Option.orElse_eq_or, Option.or_eq_some_iff] at h
  rcases h with h | ⟨-, h⟩
  · unfold Template.forPrompt? at h
    exact List.mem_of_find?_eq_some h
  · unfold Template.byIdIn? at h
    exact List.mem_of_find?_eq_some h

theorem create_answered (hstore : store.Typed) (options : Options) :
    Answered spec prompt (create store options prompt) := by
  unfold create
  split
  · rename_i t ht
    obtain ⟨hwf, hn⟩ := wellFormed_of_mem_catalog (mem_catalog_of_template? ht)
    exact .advised hstore hwf fun _ => hn
  · obtain ⟨o, ho, htidy⟩ : ∃ o, options.sketch prompt = .ok o ∧
        ∀ t, o = some t → t.Tidy ∧ t.ends.Nodup := by
      unfold Options.sketch
      split_ifs
      · exact Spec.exists_ofPrompt prompt
      · exact ⟨none, rfl, nofun⟩
    refine .ofBreach ho ?_
    cases o with
    | some t => exact .advised hstore (htidy t rfl).1.wellFormed fun _ => (htidy t rfl).2
    | none =>
      refine ⟨_, rfl, Outcome.sound_failed ?_⟩
      split_ifs
      · exact Outcome.refuses_fallback .unrecognized
      · exact Outcome.refuses_failed .create .unrecognized

theorem createFrom_answered (hstore : store.Typed) (i : Intent) :
    ∃ o, createFrom store i = .ok o ∧ ∀ p, o = some p → p.Sound spec prompt := by
  unfold createFrom
  split_ifs
  · exact ⟨none, rfl, by rintro _ ⟨⟩⟩
  · obtain ⟨t, ht, htidy, hn⟩ := Spec.exists_sketch (Spec.withEntry i.components)
    have hcreated : Answered spec prompt (created store t i.confidence) :=
      .advised hstore htidy.wellFormed fun _ => hn
    obtain ⟨p, hp, hsound⟩ := hcreated
    rw [ht]
    change ∃ o, (created store t i.confidence >>= fun p => .ok (some p)) = .ok o ∧ _
    rw [hp]
    exact ⟨_, rfl, fun q hq => Option.some.inj hq ▸ hsound⟩

/-! ## Addition and removal -/

theorem add_answered (hstore : store.Typed) (hspec : ∀ s, spec = some s → s.WellFormed) :
    Answered spec prompt (add store prompt spec intent) := by
  cases spec with
  | none => exact .failed
  | some s =>
    have hs := hspec s rfl
    unfold add
    dsimp -zeta only
    extract_lets hint ref second asked wanted
    split_ifs
    · exact .failed
    · have hspot : (Spot.of hint ref second).Known s :=
        Spot.known_of (fun _ hn => Spec.mem_of_resolveIn hn) fun _ hn => Spec.mem_of_resolveIn hn
      obtain ⟨t, steps, ht, hadded⟩ := Spec.addEach_added hs hspot
        (hint.any (·.placement.inRow)) wanted
      exact .ofBreach ht
        (.advised hstore (hadded.wellFormed hs) fun hn => hadded.nodup_ends (hn s rfl))

theorem remove_answered (hstore : store.Typed) (hspec : ∀ s, spec = some s → s.WellFormed) :
    Answered spec prompt (remove store prompt spec intent) := by
  cases spec with
  | none => exact .failed
  | some s =>
    rcases @remove_eq store prompt s intent with h | ⟨ids, _, _, _, h⟩
    · rw [h]
      exact .failed
    · rw [h]
      exact .advised hstore (hspec s rfl).removeEach fun hn => Spec.nodup_ends_removeEach (hn s rfl)

/-! ## Connections -/

theorem connect_answered (hstore : store.Typed) (hspec : ∀ s, spec = some s → s.WellFormed) :
    Answered spec prompt (connect store prompt spec intent) := by
  cases spec with
  | none => exact .failed
  | some s =>
    have hs := hspec s rfl
    unfold connect
    dsimp only
    split
    · rename_i a b rest hends
      have hne := endpoints_ne hs.ids_nodup hends
      exact .ofBreach (Spec.connect_eq hne _) (.advised hstore (hs.addConnection hne) fun hn =>
        Spec.nodup_ends_addConnection (hn s rfl))
    · exact .failed

theorem disconnect_answered (hstore : store.Typed) (hspec : ∀ s, spec = some s → s.WellFormed) :
    Answered spec prompt (disconnect store prompt spec intent) := by
  cases spec with
  | none => exact .failed
  | some s =>
    unfold disconnect
    dsimp only
    split
    · split_ifs
      · exact .failed
      · exact .advised hstore (hspec s rfl).removeConnection.removeConnection fun hn =>
          Spec.nodup_ends_removeConnection (Spec.nodup_ends_removeConnection (hn s rfl))
    · exact .failed

/-! ## Modification -/

theorem Spec.exists_updateNode (hs : s.WellFormed) (id : String) {change : Node → Node}
    (hchange : ∀ n, (change n).id = n.id) :
    ∃ t, s.updateNode id change = .ok t ∧ t.WellFormed ∧ t.ends = s.ends := by
  have hwf := hs.mapNodes fun n => @id_changed id _ hchange n
  exact ⟨_, hwf.check_eq, hwf, rfl⟩

theorem Spec.exists_updateNodes (hs : s.WellFormed) (nodes : List Node) {change : Node → Node}
    (hchange : ∀ n, (change n).id = n.id) :
    ∃ t, nodes.foldlM (fun (u : Spec) n => u.updateNode n.id change) s = .ok t ∧
      t.WellFormed ∧ t.ends = s.ends := by
  induction nodes generalizing s with
  | nil => exact ⟨s, rfl, hs, rfl⟩
  | cons n nodes ih =>
    obtain ⟨u, hu, hwf, hends⟩ := Spec.exists_updateNode hs n.id hchange
    obtain ⟨t, ht, hwf', hends'⟩ := ih hwf
    refine ⟨t, ?_, hwf', hends'.trans hends⟩
    rw [List.foldlM_cons, hu]
    exact ht

theorem relabelled_answered (hstore : store.Typed) (hs : s.WellFormed) {n : Node} {label : String}
    {confidence : Number.Binary64} :
    Answered (some s) prompt (relabelled store s n label confidence) := by
  obtain ⟨t, ht, hwf, hends⟩ := Spec.exists_updateNode hs n.id
    (fun m => show (m.relabel label).id = m.id from rfl)
  exact .ofBreach ht (.advised hstore hwf fun hn => hends ▸ hn s rfl)

theorem reposition_answered (hstore : store.Typed) (hs : s.WellFormed) {hint : Hint} :
    Answered (some s) prompt (reposition store prompt s hint intent) := by
  rw [reposition_eq]
  cases hx : s.toMove? prompt hint intent with
  | none => exact .failed
  | some x =>
    obtain ⟨t, ht, -, -, hwf, hnodup, -⟩ :=
      Spec.exists_move hs (Spec.mem_of_toMove? hs hx) (Spec.known_of_toMove? hs hx)
    exact .ofBreach ht (.advised hstore hwf fun h => hnodup (h s rfl))

theorem retype_answered (hstore : store.Typed) (hs : s.WellFormed) :
    Answered (some s) prompt (retype store prompt s intent) := by
  unfold retype
  extract_lets asked types
  split
  · exact .failed
  · split
    · rename_i new _
      extract_lets label
      obtain ⟨t, ht, hwf, hends⟩ := Spec.exists_updateNodes hs (s.nodesOfType _)
        (fun m => show (m.retype new label).id = m.id from rfl)
      rw [ofBreach_foldlM]
      exact .ofBreach ht (.advised hstore hwf fun hn => hends ▸ hn s rfl)
    · exact relabelled_answered hstore hs
    · exact .failed

theorem modify_answered (hstore : store.Typed) (hspec : ∀ s, spec = some s → s.WellFormed) :
    Answered spec prompt (modify store prompt spec intent) := by
  cases spec with
  | none => exact .failed
  | some s =>
    have hs := hspec s rfl
    unfold modify
    dsimp only
    split_ifs
    · rcases @remove_eq store prompt s none with h | ⟨ids, _, _, _, h⟩
      · rw [h]
        exact .failed
      · rw [h]
        exact .advised_recast hstore hs.removeEach fun hn => Spec.nodup_ends_removeEach (hn s rfl)
    · split
      · split
        · exact .failed
        · exact relabelled_answered hstore hs
      · split
        · exact reposition_answered hstore hs
        · exact retype_answered hstore hs

/-! ## Requests -/

theorem query_answered (hspec : ∀ s, spec = some s → s.WellFormed) :
    Answered spec prompt (.ok (query spec)) := by
  refine ⟨_, rfl, ?_, ?_, nofun⟩
  · rintro _ t ⟨rfl⟩ ht
    exact hspec t ht
  · rintro _ t ⟨rfl⟩ ht hn
    exact hn t ht

theorem edit_answered (hstore : store.Typed) (hspec : ∀ s, spec = some s → s.WellFormed)
    (options : Options) (command : Command) :
    Answered spec prompt (edit store options prompt spec intent command) := by
  cases command with
  | add => exact add_answered hstore hspec
  | remove => exact remove_answered hstore hspec
  | modify => exact modify_answered hstore hspec
  | connect => exact connect_answered hstore hspec
  | disconnect => exact disconnect_answered hstore hspec
  | query => exact query_answered hspec
  | create => exact create_answered hstore options

theorem follow_answered (hstore : store.Typed) (hspec : ∀ s, spec = some s → s.WellFormed)
    (options : Options) : Answered spec prompt (follow store options prompt spec) := by
  unfold follow
  split
  · exact query_answered hspec
  · split_ifs
    · exact edit_answered hstore hspec options _
    · exact edit_answered hstore hspec options _
    · exact create_answered hstore options

theorem followIntent_answered (hstore : store.Typed) (hspec : ∀ s, spec = some s → s.WellFormed)
    (options : Options) (i : Intent) :
    Answered spec prompt (followIntent store options i prompt spec) := by
  unfold followIntent
  split_ifs
  · obtain ⟨o, ho, hsound⟩ := @createFrom_answered store prompt spec hstore i
    rw [ho]
    cases o with
    | some p => exact ⟨p, rfl, hsound p rfl⟩
    | none => exact create_answered hstore options
  · exact create_answered hstore options
  · exact edit_answered hstore hspec options _

theorem followLocally_answered (hstore : store.Typed) (hspec : ∀ s, spec = some s → s.WellFormed)
    (options : Options) : Answered spec prompt (followLocally store options prompt spec) := by
  unfold followLocally
  split_ifs
  · exact follow_answered hstore hspec options
  · exact create_answered hstore options

/-- **However something is asked of a well-formed diagram, or of none, with the bundled knowledge
there is an outcome, and it is as it should be.** -/
theorem prompts_answered (options : Options) (prompt : String) (spec : Option Spec)
    (intent : Option Intent) (hspec : ∀ s, spec = some s → s.WellFormed) :
    (∀ r ∈ [create .bundled options prompt, add .bundled prompt spec intent,
        remove .bundled prompt spec intent, modify .bundled prompt spec intent,
        connect .bundled prompt spec intent, disconnect .bundled prompt spec intent,
        .ok (query spec), follow .bundled options prompt spec,
        followLocally .bundled options prompt spec], Answered spec prompt r) ∧
      ∀ i, Answered spec prompt (followIntent .bundled options i prompt spec) ∧
        ∃ o, createFrom .bundled i = .ok o ∧ ∀ p, o = some p → p.Sound spec prompt := by
  have hstore := Store.bundled_typed
  refine ⟨?_, fun i => ⟨followIntent_answered hstore hspec options i,
    createFrom_answered hstore i⟩⟩
  simp only [List.forall_mem_cons, List.not_mem_nil, false_imp_iff, implies_true, and_true]
  exact ⟨create_answered hstore options, add_answered hstore hspec, remove_answered hstore hspec,
    modify_answered hstore hspec, connect_answered hstore hspec, disconnect_answered hstore hspec,
    query_answered hspec, follow_answered hstore hspec options,
    followLocally_answered hstore hspec options⟩

/-- The plainest fallback, of which a node is to be moved behind itself. -/
theorem prompts_answered_plain : Fallback.plain.spec.WellFormed ∧
    Answered (some Fallback.plain.spec) "move the firewall after fw"
      (follow .bundled {} "move the firewall after fw" (some Fallback.plain.spec)) := by
  have hs : Fallback.plain.spec.WellFormed := by decide
  have hanswered := prompts_answered {} "move the firewall after fw" (some Fallback.plain.spec) none
    fun s h => Option.some.inj h ▸ hs
  exact ⟨hs, hanswered.1 _ (by simp)⟩

end NetSketch
