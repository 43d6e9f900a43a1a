import NetSketch.Knowledge.Guidance
import NetSketch.Proofs.Diagram.View
import NetSketch.Proofs.Knowledge.Advice
import NetSketch.Proofs.Knowledge.Loading
import NetSketch.Proofs.Number.Order

/-!
# What a diagram is told to miss

A missing component is looked for twice: guidance scans the relationships, advice looks the types
of the diagram up in the index of the store. The two find the same, but for the relationships that
enhance, which guidance leaves out, and for a confidence that is not a number: guidance asks whether
it is high enough and advice whether it is too low.

* `distinctIds_eq`: unique ids are all kept;
* `Guidance.mem_suggestions_iff`: what guidance suggests; `Store.exists_missing_iff`: what advice
  finds missing;
* **`missing_agree`**: the one beside the other.
-/

namespace NetSketch

open Number

variable {rs : List Relationship} {r : Relationship} {c m needed : Component}
  {types : List Component} {corpus : Corpus}

/-! ## Unique ids -/

theorem unseenIds_eq {seen : List (Option Json.Key)} (hnodup : (rs.map (·.id.key?)).Nodup)
    (hseen : ∀ r ∈ rs, r.id.key? ∉ seen) : unseenIds seen rs = rs := by
  induction rs generalizing seen with
  | nil => rfl
  | cons r rs ih =>
    obtain ⟨hhead, hnodup⟩ := List.nodup_cons.mp hnodup
    obtain ⟨hr, hseen⟩ := List.forall_mem_cons.mp hseen
    rw [unseenIds, if_neg (by simpa using hr), ih hnodup]
    intro s hs
    rw [List.mem_cons, not_or]
    exact ⟨fun h => hhead (List.mem_map.mpr ⟨s, hs, h⟩), hseen s hs⟩

theorem distinctIds_eq (h : UniqueIds (rs.map (·.id))) {kept : List Relationship}
    (hkept : kept.Sublist rs) : distinctIds kept = kept := by
  have hnodup := h.nodup
  rw [List.map_map] at hnodup
  exact unseenIds_eq (hnodup.sublist (hkept.map _)) fun _ _ => List.not_mem_nil

/-! ## The scan of the relationships -/

namespace Relationship

/-- The end of a relationship that is missing while the other one is there. -/
def missingEnd (r : Relationship) (types : List Component) : Component :=
  if types.contains r.source then r.target else r.source

/-- Whether a relationship is one of those that both ways of looking ask. -/
def IsNeed (r : Relationship) : Prop := r.relation = .requires ∨ r.relation = .recommends

theorem mem_dependenciesOf_iff (h : r.IsNeed) : (r, needed) ∈ r.dependenciesOf c ↔
    c = r.source ∧ needed = r.target ∨
      r.direction = .bidirectional ∧ c = r.target ∧ needed = r.source := by
  unfold dependenciesOf
  rcases h with h | h <;> simp [h, and_assoc]

/-- A relationship is asked exactly if a type that is there depends by it on one that is not. -/
theorem asks_iff : Guidance.asks types r = true ↔
    r.IsNeed ∧ ∃ c ∈ types, ∃ needed ∉ types, (r, needed) ∈ r.dependenciesOf c := by
  unfold Guidance.asks
  simp only [Bool.and_eq_true, Bool.or_eq_true, beq_iff_eq, Bool.not_eq_true', List.contains_iff_mem,
    ← Bool.not_eq_true]
  refine and_congr_right fun hneed => ?_
  simp only [mem_dependenciesOf_iff hneed]
  constructor
  · rintro (⟨hsource, htarget⟩ | ⟨⟨hdirection, htarget⟩, hsource⟩)
    · exact ⟨_, hsource, _, htarget, .inl ⟨rfl, rfl⟩⟩
    · exact ⟨_, htarget, _, hsource, .inr ⟨hdirection, rfl, rfl⟩⟩
  · rintro ⟨_, hc, _, hneeded, ⟨rfl, rfl⟩ | ⟨hdirection, rfl, rfl⟩⟩
    · exact .inl ⟨hc, hneeded⟩
    · exact .inr ⟨⟨hdirection, hc⟩, hneeded⟩

theorem eq_enhances_of_not_isNeed (h : ¬ r.IsNeed) (hdep : (r, needed) ∈ r.dependenciesOf c) :
    r.relation = .enhances := by
  unfold dependenciesOf at hdep
  unfold IsNeed at h
  cases hrelation : r.relation <;> simp_all

theorem missingEnd_eq (h : r.IsNeed) (hc : c ∈ types) (hneeded : needed ∉ types)
    (hdep : (r, needed) ∈ r.dependenciesOf c) : r.missingEnd types = needed := by
  unfold missingEnd
  rcases (mem_dependenciesOf_iff h).mp hdep with ⟨rfl, rfl⟩ | ⟨-, rfl, rfl⟩
  · exact if_pos (by simpa using hc)
  · exact if_neg (by simpa using hneeded)

end Relationship

namespace Store

theorem mem_dependenciesFor_iff : (r, needed) ∈ (ofCorpus corpus).dependenciesFor c ↔
    r ∈ corpus.relationships ∧ (r, needed) ∈ r.dependenciesOf c := by
  rw [dependenciesFor_ofCorpus, List.mem_flatMap]
  constructor
  · rintro ⟨r', hr', h⟩
    obtain rfl : r = r' := Relationship.fst_of_mem_dependenciesOf h
    exact ⟨hr', h⟩
  · rintro ⟨hr, h⟩
    exact ⟨r, hr, h⟩

end Store

variable {s : Spec} {g : Guidance}

theorem Spec.types_view (hs : s.ids.Nodup) : (View.ofSpec? (some s)).types = s.types := by
  rw [View.types, nodes_view hs, List.map_map]
  rfl

theorem Guidance.suggestions_perm (hs : s.ids.Nodup)
    (hg : about (.ofCorpus corpus) (some s) = .ok g) :
    g.suggestions.Perm (distinctIds ((corpus.relationships.filter fun r =>
      leastConfidence.le r.confidence).filter (asks s.types))) := by
  obtain ⟨violations, -, hg⟩ := bind_eq_ok.mp hg
  obtain rfl := Except.ok.inj hg
  dsimp only
  rw [Store.ofCorpus_corpus, Spec.types_view hs]
  exact List.mergeSort_perm _ _

/-- **What guidance suggests**: the relationships by which a type that is there depends on one that
is not, if they are sure enough. -/
theorem Guidance.mem_suggestions_iff (hids : UniqueIds (corpus.relationships.map (·.id)))
    (hs : s.ids.Nodup) (hg : about (.ofCorpus corpus) (some s) = .ok g) :
    r ∈ g.suggestions ↔ r.IsNeed ∧ leastConfidence.le r.confidence = true ∧
      ∃ c ∈ s.types, ∃ needed ∉ s.types, (r, needed) ∈ (Store.ofCorpus corpus).dependenciesFor c := by
  rw [(suggestions_perm hs hg).mem_iff,
    distinctIds_eq hids (List.filter_sublist.trans List.filter_sublist), List.mem_filter,
    List.mem_filter, Relationship.asks_iff]
  simp only [Store.mem_dependenciesFor_iff]
  constructor
  · rintro ⟨⟨hr, hsure⟩, hneed, c, hc, needed, hneeded, hdep⟩
    exact ⟨hneed, hsure, c, hc, needed, hneeded, hr, hdep⟩
  · rintro ⟨hneed, hsure, c, hc, needed, hneeded, hr, hdep⟩
    exact ⟨⟨hr, hsure⟩, hneed, c, hc, needed, hneeded, hdep⟩

/-! ## The look-up of the types -/

namespace Store

variable {store : Store} {after : Spec} {changed : List Component}

theorem exists_missing_suggest {new : Suggestion} {found : List Suggestion} :
    (∃ a ∈ suggest new found, a.missing = m) ↔ new.missing = m ∨ ∃ a ∈ found, a.missing = m := by
  induction found with
  | nil => simp [suggest]
  | cons old rest ih =>
    rw [suggest]
    split_ifs with hsame hmore
    · simp [hsame]
    · simp [hsame]
    · rw [List.exists_mem_cons_iff, List.exists_mem_cons_iff, ih, or_left_comm]

/-- **What advice finds missing**: what a changed type depends on, unless too little is known of
it. -/
theorem exists_missing_iff : (∃ a ∈ store.suggestions after changed, a.missing = m) ↔
    m ∉ after.types ∧ ∃ c ∈ changed, ∃ r, (r, m) ∈ store.dependenciesFor c ∧
      r.confidence.lt Guidance.leastConfidence = false := by
  rw [exists_suggestions fun _ _ => exists_missing_suggest]
  simp only [mem_lacking]
  constructor
  · rintro ⟨a, ⟨c, hc, hdep, hmissing, hsure, -⟩, rfl⟩
    exact ⟨hmissing, c, hc, a.relationship, hdep, hsure⟩
  · rintro ⟨hmissing, c, hc, r, hdep, hsure⟩
    exact ⟨⟨r, m, c⟩, ⟨c, hc, hdep, hmissing, hsure, rfl⟩, rfl⟩

end Store

/-! ## The one beside the other -/

/-- **Guidance and advice find the same missing**: guidance suggests the sure relationships by which
a type of the diagram depends on one that it does not have, and advice on all types finds the same
types missing, and beside them only what would enhance a type or what is needed with a confidence
that is not a number. -/
theorem missing_agree {library : Library} (hload : Corpus.load library = .ok corpus)
    (hs : s.WellFormed) (hg : Guidance.about (.ofCorpus corpus) (some s) = .ok g) :
    (∀ r, r ∈ g.suggestions ↔
      (r.relation = .requires ∨ r.relation = .recommends) ∧
        Guidance.leastConfidence.le r.confidence = true ∧
        ∃ c ∈ s.types, ∃ needed ∉ s.types,
          (r, needed) ∈ (Store.ofCorpus corpus).dependenciesFor c) ∧
      ∀ m, (∃ a ∈ (Store.ofCorpus corpus).suggestions s s.types, a.missing = m) ↔
        (∃ r ∈ g.suggestions, r.missingEnd s.types = m) ∨
          m ∉ s.types ∧ ∃ c ∈ s.types, ∃ r, (r, m) ∈ (Store.ofCorpus corpus).dependenciesFor c ∧
            (r.relation = .enhances ∧ r.confidence.lt Guidance.leastConfidence = false ∨
              r.confidence = .nan) := by
  have hids : UniqueIds (corpus.relationships.map (·.id)) :=
    (Corpus.load_eq_ok.mp hload).relationship_ids
  have hscan := fun r => Guidance.mem_suggestions_iff (r := r) hids hs.ids_nodup hg
  refine ⟨hscan, fun m => ?_⟩
  rw [Store.exists_missing_iff]
  constructor
  · rintro ⟨hm, c, hc, r, hdep, hsure⟩
    have hown := (Store.mem_dependenciesFor_iff.mp hdep).2
    by_cases hneed : r.IsNeed
    · by_cases hnan : r.confidence = .nan
      · exact .inr ⟨hm, c, hc, r, hdep, .inr hnan⟩
      · have hle := Binary64.le_iff.mpr ⟨(by decide : Guidance.leastConfidence ≠ .nan), hnan, hsure⟩
        exact .inl ⟨r, (hscan r).mpr ⟨hneed, hle, c, hc, m, hm, hdep⟩,
          Relationship.missingEnd_eq hneed hc hm hown⟩
    · have henhances := Relationship.eq_enhances_of_not_isNeed hneed hown
      exact .inr ⟨hm, c, hc, r, hdep, .inl ⟨henhances, hsure⟩⟩
  · rintro (⟨r, hr, rfl⟩ | ⟨hm, c, hc, r, hdep, ⟨-, hsure⟩ | hnan⟩)
    · obtain ⟨hneed, hle, c, hc, needed, hneeded, hdep⟩ := (hscan r).mp hr
      have hown := (Store.mem_dependenciesFor_iff.mp hdep).2
      rw [Relationship.missingEnd_eq hneed hc hneeded hown]
      exact ⟨hneeded, c, hc, r, hdep, (Binary64.le_iff.mp hle).2.2⟩
    · exact ⟨hm, c, hc, r, hdep, hsure⟩
    · exact ⟨hm, c, hc, r, hdep, by rw [hnan]; rfl⟩

/-! ## One relationship -/

/-- Web servers require firewalls of web applications. -/
def wafDemand (direction : Direction) (confidence : Binary64) : Relationship :=
  { id := .str "R1", source := .webServer, target := .waf, relation := .requires,
    strength := .mandatory, direction, reason := .str "", reasonKo := .str "", confidence }

/-- The corpus of that relationship. -/
def wafCorpus (direction : Direction) (confidence : Binary64) : Corpus :=
  { relationships := [wafDemand direction confidence] }

/-- A library that lists it. -/
def wafLibrary (direction : Direction) (confidence : Json) : Library :=
  [("relationships.yaml", .document (.obj [("relationships", .arr [.obj [("id", .str "R1"),
      ("source", .str "web-server"), ("target", .str "waf"), ("type", .str "requires"),
      ("strength", .str "mandatory"), ("direction", .str direction.name), ("reason", .str ""),
      ("reason_ko", .str ""), ("confidence", confidence)]])])),
    ("antipatterns.yaml", .document (.obj [("antipatterns", .arr [])])),
    ("failures.yaml", .document (.obj [("failures", .arr [])])),
    ("patterns.yaml", .document (.obj [("patterns", .arr [])]))]

/-- A diagram of one node. -/
def loneNode (c : Component) : Spec := ⟨[⟨"node-1", c, "", none, none, none⟩], [], none⟩

theorem mem_wafDependencies {direction : Direction} {confidence : Binary64} :
    (r, needed) ∈ (Store.ofCorpus (wafCorpus direction confidence)).dependenciesFor c ↔
      r = wafDemand direction confidence ∧
        (c = .webServer ∧ needed = .waf ∨
          direction = .bidirectional ∧ c = .waf ∧ needed = .webServer) := by
  rw [Store.mem_dependenciesFor_iff, wafCorpus, List.mem_singleton]
  refine and_congr_right ?_
  rintro rfl
  exact Relationship.mem_dependenciesOf_iff (.inl rfl)

/-- A firewall by itself misses a web server if the demand holds both ways. -/
theorem missing_agree_waf :
    Corpus.load (wafLibrary .bidirectional (.float Guidance.officialConfidence)) =
        .ok (wafCorpus .bidirectional Guidance.officialConfidence) ∧ (loneNode .waf).WellFormed ∧
      ∃ g, Guidance.about (.ofCorpus (wafCorpus .bidirectional Guidance.officialConfidence))
          (some (loneNode .waf)) = .ok g ∧
        (∃ r ∈ g.suggestions, r.missingEnd (loneNode .waf).types = .webServer) ∧
        ∃ a ∈ (Store.ofCorpus (wafCorpus .bidirectional Guidance.officialConfidence)).suggestions
          (loneNode .waf) (loneNode .waf).types, a.missing = .webServer := by
  have hload : Corpus.load (wafLibrary .bidirectional (.float Guidance.officialConfidence)) =
      .ok (wafCorpus .bidirectional Guidance.officialConfidence) := rfl
  have hs : (loneNode .waf).WellFormed := by decide
  obtain ⟨g, hg⟩ : ∃ g, Guidance.about
      (.ofCorpus (wafCorpus .bidirectional Guidance.officialConfidence))
      (some (loneNode .waf)) = .ok g := ⟨_, rfl⟩
  obtain ⟨hscan, hfound⟩ := missing_agree hload hs hg
  have hr : wafDemand .bidirectional Guidance.officialConfidence ∈ g.suggestions :=
    (hscan _).mpr ⟨.inl rfl, by decide, .waf, by decide, .webServer, by decide,
      mem_wafDependencies.mpr ⟨rfl, .inr ⟨rfl, rfl, rfl⟩⟩⟩
  have hmissing : ∃ r ∈ g.suggestions, r.missingEnd (loneNode .waf).types = .webServer :=
    ⟨_, hr, rfl⟩
  exact ⟨hload, hs, g, hg, hmissing, (hfound _).mpr (.inl hmissing)⟩

/-- A confidence that is not a number is neither high enough nor too low: nothing enhances a web
server, guidance suggests nothing, and advice finds the firewall missing. -/
theorem missing_of_nan : Corpus.load (wafLibrary .downstream (.str "nan")) =
        .ok (wafCorpus .downstream .nan) ∧ (loneNode .webServer).WellFormed ∧
      (∀ c r m, (r, m) ∈ (Store.ofCorpus (wafCorpus .downstream .nan)).dependenciesFor c →
        r.relation ≠ .enhances) ∧
      ∃ g, Guidance.about (.ofCorpus (wafCorpus .downstream .nan)) (some (loneNode .webServer)) =
          .ok g ∧ g.suggestions = [] ∧
        ∃ a ∈ (Store.ofCorpus (wafCorpus .downstream .nan)).suggestions (loneNode .webServer)
          (loneNode .webServer).types, a.missing = .waf := by
  have hload : Corpus.load (wafLibrary .downstream (.str "nan")) =
      .ok (wafCorpus .downstream .nan) := rfl
  have hs : (loneNode .webServer).WellFormed := by decide
  have henhances : ∀ c r m, (r, m) ∈
      (Store.ofCorpus (wafCorpus .downstream .nan)).dependenciesFor c → r.relation ≠ .enhances := by
    intro c r m h
    rw [(mem_wafDependencies.mp h).1]
    nofun
  obtain ⟨g, hg⟩ : ∃ g, Guidance.about (.ofCorpus (wafCorpus .downstream .nan))
      (some (loneNode .webServer)) = .ok g := ⟨_, rfl⟩
  have hnone : g.suggestions = [] := by
    have hids := (Corpus.load_eq_ok.mp hload).relationship_ids
    refine List.eq_nil_iff_forall_not_mem.mpr fun r hr => ?_
    obtain ⟨-, hsure, c, -, needed, -, hdep⟩ :=
      (Guidance.mem_suggestions_iff hids hs.ids_nodup hg).mp hr
    rw [(mem_wafDependencies.mp hdep).1] at hsure
    cases hsure
  refine ⟨hload, hs, henhances, g, hg, hnone, Store.exists_missing_iff.mpr ⟨by decide, ?_⟩⟩
  exact ⟨.webServer, by decide, wafDemand .downstream .nan,
    mem_wafDependencies.mpr ⟨rfl, .inl ⟨rfl, rfl⟩⟩, rfl⟩

end NetSketch
