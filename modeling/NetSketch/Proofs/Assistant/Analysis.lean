import NetSketch.Assistant.Analysis
import NetSketch.Proofs.Assistant.Search

/-!
# What comes of asking an assistant

A reply brings a text, misses one or breaks: its body is nested too deeply, or there is something in
the place of the text that is no text. Nothing else keeps an analysis from being made, but for a
text that spoils the search for an intent.

* `Client.Brings`, `Client.Misses`, `Client.Breaks`: the three kinds of replies, with
  `Client.textOf_eq_ok` and its like;
* `analyze_iff`: **when an analysis ends in which way**.
-/

namespace NetSketch.Assistant

/-! ## Replies -/

namespace Client

variable (c : Client)

/-- A reply that brings a text: there is one in its place, or, where the provider may leave it out,
nothing. -/
inductive Brings : Reply → String → Prop
  | text {status : Int} {body : String} {v : Json} {s : String} (hstatus : isFailure status = false)
      (hbody : Json.read body = .ok v) (hcontent : c.provider.content? v = some (.str s)) :
      Brings (.answered status body) (unfenced s)
  | nothing {status : Int} {body : String} {v content : Json} (hstatus : isFailure status = false)
      (hbody : Json.read body = .ok v) (hcontent : c.provider.content? v = some content)
      (htext : content.text? = none) (hprovider : c.provider = .openai)
      (hgiven : content.truthy = false) : Brings (.answered status body) ""

/-- A reply without a text, and the mishap that it counts as. -/
inductive Misses : Reply → Mishap → Prop
  | timedOut : Misses .timedOut (.timedOut c.provider c.seconds)
  | unreachable (reason : String) : Misses (.unreachable reason) (.unreachable c.provider reason)
  | refused {status : Int} (body : String) (hstatus : isFailure status = true) :
      Misses (.answered status body) (.refused c.provider status body)
  | notJson {status : Int} {body : String} (hstatus : isFailure status = false)
      (hbody : Json.read body = .error .malformed) :
      Misses (.answered status body) (.notJson c.provider)
  | noText {status : Int} {body : String} {v : Json} (hstatus : isFailure status = false)
      (hbody : Json.read body = .ok v) (hcontent : c.provider.content? v = none) :
      Misses (.answered status body) (.noText c.provider)

/-- A reply that breaks: its body is nested too deeply, or something that is no text stands in the
place of the text. -/
inductive Breaks : Reply → Fault → Prop
  | deep {status : Int} {body : String} (hstatus : isFailure status = false)
      (hbody : Json.read body = .error .tooDeep) : Breaks (.answered status body) .tooDeep
  | notText {status : Int} {body : String} {v : Json} (content : Json)
      (hstatus : isFailure status = false) (hbody : Json.read body = .ok v)
      (hcontent : c.provider.content? v = some content) (htext : content.text? = none)
      (hgiven : c.provider = .openai → content.truthy = true) :
      Breaks (.answered status body) (.noMember content.kind "strip")

variable {c} {reply : Reply} {raw : String} {mishap : Mishap} {fault : Fault}

theorem textOf_answered {status : Int} {body : String} (h : isFailure status = false) :
    c.textOf (.answered status body) = c.provider.textIn body := by
  rw [textOf, h]
  rfl

theorem textIn_eq {p : Provider} {body : String} {v content : Json} (hbody : Json.read body = .ok v)
    (hcontent : p.content? v = some content) :
    p.textIn body = (p.text content).mapError .fault := by
  rw [Provider.textIn, hbody]
  simp only [hcontent]

/-- What is no text counts as an empty one where the provider may leave the text out. -/
theorem text_of_notText {p : Provider} {content : Json} (h : content.text? = none) :
    p.text content = if p = .openai ∧ content.truthy = false then .ok ""
      else .error (.noMember content.kind "strip") := by
  cases content with
  | str s => cases h
  | _ => cases p <;> simp only [Provider.text] <;> split_ifs <;> simp_all

theorem textOf_of_brings (h : c.Brings reply raw) : c.textOf reply = .ok raw := by
  cases h with
  | text hstatus hbody hcontent =>
    rw [textOf_answered hstatus, textIn_eq hbody hcontent]
    cases c.provider <;> rfl
  | nothing hstatus hbody hcontent htext hprovider hgiven =>
    rw [textOf_answered hstatus, textIn_eq hbody hcontent, text_of_notText htext,
      if_pos ⟨hprovider, hgiven⟩]
    rfl

theorem textOf_of_misses (h : c.Misses reply mishap) :
    c.textOf reply = .error (.mishap mishap) := by
  cases h with
  | timedOut => rfl
  | unreachable reason => rfl
  | refused body hstatus =>
    rw [textOf, hstatus]
    rfl
  | notJson hstatus hbody =>
    rw [textOf_answered hstatus, Provider.textIn, hbody]
  | noText hstatus hbody hcontent =>
    rw [textOf_answered hstatus, Provider.textIn, hbody]
    simp only [hcontent]

theorem textOf_of_breaks (h : c.Breaks reply fault) : c.textOf reply = .error (.fault fault) := by
  cases h with
  | deep hstatus hbody =>
    rw [textOf_answered hstatus, Provider.textIn, hbody]
  | notText content hstatus hbody hcontent htext hgiven =>
    rw [textOf_answered hstatus, textIn_eq hbody hcontent, text_of_notText htext,
      if_neg fun h => by simp [hgiven h.1] at h]
    rfl

theorem brings_or_misses_or_breaks (c : Client) (reply : Reply) :
    (∃ raw, c.Brings reply raw) ∨ (∃ mishap, c.Misses reply mishap) ∨
      ∃ fault, c.Breaks reply fault := by
  cases reply with
  | timedOut => exact .inr (.inl ⟨_, .timedOut⟩)
  | unreachable reason => exact .inr (.inl ⟨_, .unreachable reason⟩)
  | answered status body =>
    cases hstatus : isFailure status with
    | true => exact .inr (.inl ⟨_, .refused body hstatus⟩)
    | false =>
      cases hbody : Json.read body with
      | error e =>
        cases e with
        | malformed => exact .inr (.inl ⟨_, .notJson hstatus hbody⟩)
        | tooDeep => exact .inr (.inr ⟨_, .deep hstatus hbody⟩)
      | ok v =>
        cases hcontent : c.provider.content? v with
        | none => exact .inr (.inl ⟨_, .noText hstatus hbody hcontent⟩)
        | some content =>
          cases htext : content.text? with
          | some s =>
            have hstr : content = .str s := by
              cases content <;> simp_all [Json.text?]
            exact .inl ⟨_, .text hstatus hbody (hstr ▸ hcontent)⟩
          | none =>
            by_cases h : c.provider = .openai ∧ content.truthy = false
            · exact .inl ⟨_, .nothing hstatus hbody hcontent htext h.1 h.2⟩
            · refine .inr (.inr ⟨_, .notText content hstatus hbody hcontent htext fun hp => ?_⟩)
              by_contra htruthy
              exact h ⟨hp, Bool.not_eq_true _ ▸ htruthy⟩

theorem textOf_eq_ok : c.textOf reply = .ok raw ↔ c.Brings reply raw := by
  refine ⟨fun h => ?_, textOf_of_brings⟩
  rcases c.brings_or_misses_or_breaks reply with ⟨s, hs⟩ | ⟨m, hm⟩ | ⟨f, hf⟩
  · obtain rfl := Except.ok.inj ((textOf_of_brings hs).symm.trans h)
    exact hs
  · cases (textOf_of_misses hm).symm.trans h
  · cases (textOf_of_breaks hf).symm.trans h

theorem textOf_eq_mishap : c.textOf reply = .error (.mishap mishap) ↔ c.Misses reply mishap := by
  refine ⟨fun h => ?_, textOf_of_misses⟩
  rcases c.brings_or_misses_or_breaks reply with ⟨s, hs⟩ | ⟨m, hm⟩ | ⟨f, hf⟩
  · cases (textOf_of_brings hs).symm.trans h
  · cases (textOf_of_misses hm).symm.trans h
    exact hm
  · cases (textOf_of_breaks hf).symm.trans h

theorem textOf_eq_fault : c.textOf reply = .error (.fault fault) ↔ c.Breaks reply fault := by
  refine ⟨fun h => ?_, textOf_of_breaks⟩
  rcases c.brings_or_misses_or_breaks reply with ⟨s, hs⟩ | ⟨m, hm⟩ | ⟨f, hf⟩
  · cases (textOf_of_brings hs).symm.trans h
  · cases (textOf_of_misses hm).symm.trans h
  · cases (textOf_of_breaks hf).symm.trans h
    exact hf

end Client

/-! ## Analyses -/

section Analyses

variable {p : Partner} {q : Question} {raw : String} {i : Intent} {m : Mishap} {f : Fault}

theorem answer_client (c : Client) (network : Call → Reply) (q : Question) :
    (Partner.client c network).answer q = c.textOf (network (c.call q)) := rfl

theorem analyze_of_stop {stop : Stop} (h : p.answer q = .error stop) : analyze (.ok p) q =
    match stop with
    | .mishap m => .ok (.unavailable m)
    | .fault f => .error f := by
  rw [analyze]
  simp only [h]
  cases stop <;> rfl

theorem analyze_of_answer (h : p.answer q = .ok raw) : analyze (.ok p) q =
    match Intent.inText raw with
    | .ok (some i) => .ok (.understood i raw)
    | .ok none => .ok (.unclear raw)
    | .error f => .error f := by
  rw [analyze]
  simp only [h]
  rcases Intent.inText raw with f | _ | i <;> rfl

theorem analyze_eq_unavailable :
    analyze (.ok p) q = .ok (.unavailable m) ↔ p.answer q = .error (.mishap m) := by
  cases h : p.answer q with
  | error stop =>
    rw [analyze_of_stop h]
    cases stop <;> simp
  | ok raw =>
    rw [analyze_of_answer h]
    rcases Intent.inText raw with f | _ | i <;> simp

theorem analyze_eq_unclear : analyze (.ok p) q = .ok (.unclear raw) ↔
    p.answer q = .ok raw ∧ Intent.inText raw = .ok none := by
  cases h : p.answer q with
  | error stop =>
    rw [analyze_of_stop h]
    cases stop <;> simp
  | ok raw' =>
    rw [analyze_of_answer h]
    rcases hi : Intent.inText raw' with f | _ | i <;> simp <;> grind

theorem analyze_eq_understood : analyze (.ok p) q = .ok (.understood i raw) ↔
    p.answer q = .ok raw ∧ Intent.inText raw = .ok (some i) := by
  cases h : p.answer q with
  | error stop =>
    rw [analyze_of_stop h]
    cases stop <;> simp
  | ok raw' =>
    rw [analyze_of_answer h]
    rcases hi : Intent.inText raw' with f | _ | i <;> simp <;> grind

theorem analyze_eq_error : analyze (.ok p) q = .error f ↔
    p.answer q = .error (.fault f) ∨
      ∃ raw, p.answer q = .ok raw ∧ Intent.inText raw = .error f := by
  cases h : p.answer q with
  | error stop =>
    rw [analyze_of_stop h]
    cases stop <;> simp
  | ok raw' =>
    rw [analyze_of_answer h]
    rcases hi : Intent.inText raw' with f | _ | i <;> simp [hi]

end Analyses

/-- **When asking an assistant ends in which way.** There is no assistant or its reply misses a
text (`Reason.providerUnavailable`); the text of the reply holds no intent (`Reason.parseFailure`);
it holds a first one; or a fault in the reply or in its text ends the analysis. -/
theorem analyze_iff (setup : Setup) (provider key model : Option String) (network : Call → Reply)
    (spec : Option Spec) (prompt guidance : String) :
    let client := setup.client provider key model
    let question := Question.about spec prompt guidance
    let reply (c : Client) := network (c.call question)
    let analysis := analyze (client.map (.client · network)) question
    (∀ m, analysis = .ok (.unavailable m) ↔
        client = .error m ∨ ∃ c, client = .ok c ∧ c.Misses (reply c) m) ∧
      (∀ raw, analysis = .ok (.unclear raw) ↔
        ∃ c, client = .ok c ∧ c.Brings (reply c) raw ∧
          ∀ x ∈ Json.objectsIn raw, Intent.Refused x) ∧
      (∀ i raw, analysis = .ok (.understood i raw) ↔
        ∃ c, client = .ok c ∧ c.Brings (reply c) raw ∧
          ∃ before fields after, Json.objectsIn raw = before ++ .ok fields :: after ∧
            (∀ x ∈ before, Intent.Refused x) ∧ Intent.read (.obj fields) = .ok i) ∧
      ∀ f, analysis = .error f ↔
        ∃ c, client = .ok c ∧ (c.Breaks (reply c) f ∨ ∃ raw, c.Brings (reply c) raw ∧
          ∃ before x after, Json.objectsIn raw = before ++ x :: after ∧
            (∀ y ∈ before, Intent.Refused y) ∧ Intent.Spoilt x f) := by
  intro client question reply analysis
  cases hclient : client with
  | error m =>
    have hanalysis : analysis = .ok (.unavailable m) := by
      change analyze (Except.map _ client) _ = _
      rw [hclient]
      rfl
    simp [hanalysis, eq_comm]
  | ok c =>
    have hanalysis : analysis = analyze (.ok (.client c network)) question := by
      change analyze (Except.map _ client) _ = _
      rw [hclient]
      rfl
    have hanswer : (Partner.client c network).answer question = c.textOf (reply c) :=
      answer_client c network question
    simp only [hanalysis, analyze_eq_unavailable, analyze_eq_unclear, analyze_eq_understood,
      analyze_eq_error, hanswer, Client.textOf_eq_ok, Client.textOf_eq_mishap,
      Client.textOf_eq_fault, Intent.inText_eq_none, Intent.inText_eq_some, Intent.inText_eq_error]
    simp

/-- A body with null in the place of the text. -/
def nullBody : String := "\x7b\"content\": [\x7b\"text\": null\x7d]\x7d"

/-- A diagram of a web server behind a firewall. -/
def fencedWeb : Spec :=
  ⟨[⟨"fw-1", .firewall, "Firewall", none, none, none⟩,
      ⟨"web-1", .webServer, "Web Server", none, none, none⟩],
    [⟨"fw-1", "web-1", none, none, none⟩], none⟩

theorem breaks_nullBody :
    (Client.of .anthropic "sk" "").Breaks (.answered 200 nullBody) (.noMember .null "strip") := by
  have hkind : ((Json.read nullBody).toOption.bind Provider.anthropic.content?).map Json.kind =
      some .null := by decide +kernel
  cases hbody : Json.read nullBody with
  | error e => simp [hbody, Except.toOption] at hkind
  | ok v =>
    rw [hbody] at hkind
    obtain ⟨content, hcontent, hnull⟩ := Option.map_eq_some_iff.mp hkind
    rw [← hnull]
    refine .notText content rfl hbody hcontent ?_ fun hprovider => ?_
    · cases content <;> first | rfl | cases hnull
    · cases hprovider

/-- A reply with null for a text does not leave the prompt to its own words: a fault ends the
analysis. -/
theorem not_analyzed_nullBody : ¬∃ a,
    analyze ((Setup.client {} (some "anthropic") (some "sk") none).map
        (.client · fun _ => .answered 200 nullBody))
      (.about (some fencedWeb) "add waf" "") = .ok a := by
  have hclient : Setup.client {} (some "anthropic") (some "sk") none =
      .ok (.of .anthropic "sk" "") := rfl
  rintro ⟨a, ha⟩
  generalize Question.about _ _ _ = question at ha
  have hanswer := answer_client (.of .anthropic "sk" "") (fun _ => .answered 200 nullBody) question
  rw [Client.textOf_of_breaks breaks_nullBody] at hanswer
  rw [hclient] at ha
  cases (analyze_of_stop hanswer).symm.trans ha

end NetSketch.Assistant
