import NetSketch.Proofs.Assistant.Analysis
import NetSketch.Proofs.Change.Answer
import NetSketch.Session.Turn

/-!
# Turns with and without an assistant

An assistant that finds no intent leaves nothing behind but the reason why: the outcome and the
guidance of the turn are those of a turn in which nobody is asked. An assistant that finds one leads
the turn, and then only a prompt without anything to go by is a reason to tell.

* `Turn.after_of_notUnderstood`, `Turn.after_understood_eq_ok`: the turn behind an analysis;
* `Turn.exists_after`: with a store of typed signatures there is a turn;
* **`turn_answers`**: what a turn tells of its assistant.
-/

namespace NetSketch

open Assistant

variable {store : Store} {settings : Settings} {options : Options} {prompt : String}
  {spec : Option Spec} {a : Analysis} {i : Intent} {raw : String} {t : Turn} {o : Outcome}

/-! ## Whom to ask -/

theorem Settings.partner?_of_noKey (setup : Setup) (network : Call → Reply)
    (h : settings.key = none) : settings.partner? setup network none = none := by
  have hnone : settings.hasAssistant = false := by
    rw [hasAssistant, h]
    exact Bool.and_false _
  rw [partner?, hnone]
  rfl

theorem takeTurn_eq_after {partner : Except Mishap Partner}
    (h : analyze partner (.about spec prompt settings.guidance) = .ok a) :
    takeTurn store settings (some partner) prompt spec =
      Turn.after store settings.options prompt spec (some a) := by
  rw [takeTurn]
  simp only [h]
  rfl

theorem takeTurn_none : takeTurn store settings none prompt spec =
    Turn.after store settings.options prompt spec none := rfl

/-! ## The turn behind an analysis -/

/-- An analysis without an intent changes nothing but what is told of the assistant. -/
theorem Turn.after_of_notUnderstood {r : Reason} (h : a.reason? = some r) :
    Turn.after store options prompt spec (some a) =
      (Turn.after store options prompt spec none).map fun p =>
        ⟨p.outcome, false, some r, a.error?, p.guidance⟩ := by
  have hintent : a.intent? = none := by
    cases a with
    | understood => cases h
    | unclear | unavailable => rfl
  unfold Turn.after
  simp only [Option.bind_some, Option.bind_none, hintent, h]
  cases followLocally store options prompt spec with
  | error => rfl
  | ok o =>
    change (Reading.ofFault (guidanceAfter store (o.specAfter spec)) >>= _) =
      Except.map _ (Reading.ofFault (guidanceAfter store (o.specAfter spec)) >>= _)
    cases guidanceAfter store (o.specAfter spec) <;> rfl

theorem Turn.after_understood_eq_ok :
    Turn.after store options prompt spec (some (.understood i raw)) = .ok t ↔
      followIntent store options i prompt spec = .ok t.outcome ∧
        guidanceAfter store (t.outcome.specAfter spec) = .ok t.guidance ∧
          t.usedAssistant = true ∧ t.error = none ∧
            t.reason = if t.outcome.proposes then some .promptUnrecognized else none := by
  unfold Turn.after
  simp only [Option.bind_some, Analysis.intent?, Analysis.reason?, Analysis.error?, Option.none_or,
    Option.isSome_some]
  constructor
  · intro h
    obtain ⟨o, ho, h⟩ := bind_eq_ok.mp h
    obtain ⟨g, hg, h⟩ := bind_eq_ok.mp h
    obtain rfl := Except.ok.inj h
    exact ⟨ho, Reading.ofFault_eq_ok.mp hg, rfl, rfl, rfl⟩
  · obtain ⟨outcome, used, reason, error, guidance⟩ := t
    rintro ⟨ho, hg, rfl, rfl, hreason⟩
    obtain rfl : reason = if outcome.proposes then some .promptUnrecognized else none := hreason
    exact bind_eq_ok.mpr ⟨outcome, ho,
      bind_eq_ok.mpr ⟨guidance, Reading.ofFault_eq_ok.mpr hg, rfl⟩⟩

theorem Outcome.proposes_iff : o.proposes = true ↔
    ∃ command problem s, o = .failed command problem (some s) := by
  cases o with
  | done c => simp [proposes]
  | failed command problem fallback => simp [proposes, Option.isSome_iff_exists]

/-! ## Turns with a typed store -/

theorem guidanceAfter_succeeds (h : store.Typed) (spec : Option Spec) :
    Succeeds (guidanceAfter store spec) := by
  cases spec with
  | none => exact .ok
  | some s =>
    have hof : Succeeds (Guidance.about store (some s)) :=
      (Store.antiPatternsIn_succeeds h (.ofSpec? (some s))).bind fun _ => .ok
    obtain ⟨g, hg⟩ := hof
    exact ⟨g.block, by rw [guidanceAfter, hg]; rfl⟩

theorem Turn.exists_after (hstore : store.Typed) (hspec : ∀ s, spec = some s → s.WellFormed)
    (analysis : Option Analysis) : ∃ t, Turn.after store options prompt spec analysis = .ok t := by
  have hguided (o : Outcome) := guidanceAfter_succeeds hstore (o.specAfter spec)
  unfold Turn.after
  cases analysis.bind (·.intent?) with
  | some i =>
    obtain ⟨o, ho, -⟩ := followIntent_answered hstore hspec options i
    obtain ⟨g, hg⟩ := hguided o
    exact ⟨_, bind_eq_ok.mpr ⟨o, ho, bind_eq_ok.mpr ⟨g, Reading.ofFault_eq_ok.mpr hg, rfl⟩⟩⟩
  | none =>
    obtain ⟨o, ho, -⟩ := followLocally_answered hstore hspec options
    obtain ⟨g, hg⟩ := hguided o
    exact ⟨_, bind_eq_ok.mpr ⟨o, ho, bind_eq_ok.mpr ⟨g, Reading.ofFault_eq_ok.mpr hg, rfl⟩⟩⟩

/-! ## What a turn tells -/

/-- **What a turn tells of its assistant.** Behind an analysis without an intent, the turn has the
outcome and the guidance of every turn with the same options in which there is no key and nobody at
hand, and the reason of the analysis. Behind one with an intent, the turn follows the intent, and
its only reason is a prompt that is not recognised, told exactly for a failure with a proposal. With
a store of typed signatures there is a turn about every well-formed diagram. -/
theorem turn_answers (store : Store) (setup : Setup) (network : Call → Reply) (settings : Settings)
    (atHand : Option Partner) (prompt : String) (spec : Option Spec)
    {partner : Except Mishap Partner} {a : Analysis}
    (hpartner : settings.partner? setup network atHand = some partner)
    (hanalysis : analyze partner (.about spec prompt settings.guidance) = .ok a) :
    let turn := takeTurn store settings (settings.partner? setup network atHand) prompt spec
    (∀ r, a.reason? = some r → ∀ (setup' : Setup) (network' : Call → Reply) (other : Settings),
        other.key = none → other.options = settings.options →
          turn = (takeTurn store other (other.partner? setup' network' none) prompt spec).map
            fun p => ⟨p.outcome, false, some r, a.error?, p.guidance⟩) ∧
      (∀ i raw, a = .understood i raw → ∀ t, turn = .ok t →
        followIntent store settings.options i prompt spec = .ok t.outcome ∧
          t.usedAssistant = true ∧ (t.reason = none ∨ t.reason = some .promptUnrecognized) ∧
            (t.reason = some .promptUnrecognized ↔
              ∃ command problem s, t.outcome = .failed command problem (some s))) ∧
      (store.Typed → (∀ s, spec = some s → s.WellFormed) → ∃ t, turn = .ok t) := by
  intro turn
  have hturn : turn = Turn.after store settings.options prompt spec (some a) := by
    change takeTurn _ _ (settings.partner? setup network atHand) _ _ = _
    rw [hpartner, takeTurn_eq_after hanalysis]
  rw [hturn]
  refine ⟨?_, ?_, ?_⟩
  · intro r hr setup' network' other hkey hoptions
    rw [Settings.partner?_of_noKey setup' network' hkey, takeTurn_none, hoptions,
      Turn.after_of_notUnderstood hr]
  · rintro i raw rfl t ht
    obtain ⟨ho, -, hused, -, hreason⟩ := Turn.after_understood_eq_ok.mp ht
    refine ⟨ho, hused, ?_, ?_⟩
    · rw [hreason]
      split_ifs
      · exact Or.inr rfl
      · exact Or.inl rfl
    · rw [hreason, ← Outcome.proposes_iff]
      split_ifs with h <;> simp [h]
  · exact fun hstore hspec => Turn.exists_after hstore hspec (some a)

/-! ## A provider out of reach, an assistant that errs -/

theorem followIntent_remove_absent {s : Spec} (hi : i.action = .remove) (hs : s.nodes ≠ [])
    (hsome : i.types ≠ []) (habsent : ∀ n ∈ s.nodes, n.type ∉ i.types) :
    followIntent store options i prompt (some s) =
      .ok (.failed .remove .nothingToRemove none) := by
  have htargets : (s.nodes.filter fun n => i.types.contains n.type) = [] := by
    simpa [List.filter_eq_nil_iff] using habsent
  have hedit : followIntent store options i prompt (some s) =
      remove store prompt (some s) (some i) := by
    simp [followIntent, hi, hasNodes, hs, edit]
  have hwanted : (wantedBy (some i)).map (·.type) = i.types := rfl
  have hany : i.types.isEmpty = false := by simpa using hsome
  rw [hedit]
  simp only [remove, hwanted, hany, htargets]
  rfl

/-- The answer of an assistant that wants a WAF removed. -/
def removalAnswer : String := "\x7b\"intent\": \"remove\", \"components\": [\"waf\"]\x7d"

/-- A provider that does not answer in time, and an assistant at hand that wants removed what is not
there. -/
theorem turn_answers_silence :
    let settings : Settings := { provider := some "anthropic", key := some "sk" }
    let network : Call → Reply := fun _ => .timedOut
    let silent := takeTurn .bundled settings (settings.partner? {} network none) "add waf"
      (some fencedWeb)
    let alone := takeTurn .bundled {} (({} : Settings).partner? {} network none) "add waf"
      (some fencedWeb)
    let helped := takeTurn .bundled {} (({} : Settings).partner? {} network
      (some (.direct fun _ => .ok removalAnswer))) "add waf" (some fencedWeb)
    (∃ t, silent = .ok t) ∧ silent = alone.map (fun p => ⟨p.outcome, false,
        some .providerUnavailable, some "Anthropic API timeout after 30s", p.guidance⟩) ∧
      ∃ t, helped = .ok t ∧ t.outcome = .failed .remove .nothingToRemove none ∧
        t.usedAssistant = true ∧ t.reason = none := by
  intro settings network silent alone helped
  have hwf : ∀ s, some fencedWeb = some s → s.WellFormed := by
    rintro _ ⟨rfl⟩
    decide
  have hpartner : settings.partner? {} network none =
      some (.ok (.client (.of .anthropic "sk" "") network)) := rfl
  obtain ⟨hsilent, -, hthere⟩ := turn_answers .bundled {} network settings none "add waf"
    (some fencedWeb) hpartner
    (a := .unavailable (.timedOut .anthropic (Client.of .anthropic "sk" "").seconds)) rfl
  have herror : (Mishap.timedOut .anthropic (Client.of .anthropic "sk" "").seconds).message =
      "Anthropic API timeout after 30s" := by decide +kernel
  refine ⟨hthere Store.bundled_typed hwf, ?_, ?_⟩
  · rw [← herror]
    exact hsilent .providerUnavailable rfl {} network {} rfl rfl
  · obtain ⟨i, hi, haction, htypes⟩ : ∃ i, Intent.inText removalAnswer = .ok (some i) ∧
        i.action = .remove ∧ i.types = [.waf] := by
      have hread : (Intent.inText removalAnswer).toOption.join.map (fun i => (i.action, i.types)) =
          some (.remove, [.waf]) := by decide +kernel
      obtain ⟨i, hi, hparts⟩ := Option.map_eq_some_iff.mp hread
      obtain ⟨haction, htypes⟩ := Prod.mk.inj hparts
      exact ⟨i, by cases h : Intent.inText removalAnswer <;> simp_all [Except.toOption], haction,
        htypes⟩
    obtain ⟨-, hhelped, hthere⟩ := turn_answers .bundled {} network {}
      (some (.direct fun _ => .ok removalAnswer)) "add waf" (some fencedWeb)
      (a := .understood i removalAnswer) rfl (analyze_eq_understood.mpr ⟨rfl, hi⟩)
    obtain ⟨t, ht⟩ := hthere Store.bundled_typed hwf
    obtain ⟨ho, hused, htold, hreason⟩ := hhelped i removalAnswer rfl t ht
    have houtcome : t.outcome = .failed .remove .nothingToRemove none :=
      Except.ok.inj (ho.symm.trans (followIntent_remove_absent haction (by decide)
        (by simp [htypes]) (by rw [htypes]; decide)))
    refine ⟨t, ht, houtcome, hused, htold.resolve_right fun h => ?_⟩
    obtain ⟨_, _, _, hproposed⟩ := hreason.mp h
    rw [houtcome] at hproposed
    cases hproposed

end NetSketch
