import NetSketch.Proofs.Knowledge.Conflict
import NetSketch.Proofs.Knowledge.Missing

/-!
# The lines about missing components

Of every relationship by which something is required that is missing, guidance tells in a line which
component needs which. The line names the ends of the relationship in their own order. That is right
where the target is what is missing; of a relationship that holds both ways it may be the source,
and then the line has it the wrong way round.

* `Guidance.TellsMissing`, `Guidance.TellsMissing.unique`: what a line says;
* `Guidance.mem_violationLines_iff`: the lines that say so;
* `Relationship.HalfThere`, `Relationship.asks_iff_halfThere`: one end without the other;
* **`Guidance.missing_told`**: what these lines tell about a diagram.
-/

namespace NetSketch

open Number

variable {corpus : Corpus} {s : Spec} {g : Guidance} {r : Relationship} {line : String}
  {c c' m m' : Component} {types : List Component}

/-! ## What a line says -/

namespace Guidance

/-- **A line tells that a component needs another one**, for some reason. -/
def TellsMissing (line : String) (dependant needed : Component) : Prop :=
  ∃ reason, line = "- 🔴 필수 누락: \"" ++ dependant.name ++ "\"은(는) \"" ++ needed.name ++
    "\"이(가) 필요합니다: " ++ reason

theorem tellsMissing_missingLine (r : Relationship) :
    TellsMissing (missingLine r) r.source r.target := ⟨_, rfl⟩

theorem quoted_name_inj {u v : List Char}
    (h : c.name.toList ++ '"' :: u = c'.name.toList ++ '"' :: v) : c = c' ∧ u = v := by
  have hplain (c : Component) : c.name.toList.all (· != '"') = true := by
    cases c <;> decide
  -- a name is all there is in front of the first quote
  have hname (c : Component) (u : List Char) :
      (c.name.toList ++ '"' :: u).takeWhile (· != '"') = c.name.toList := by
    rw [List.takeWhile_append_of_pos (List.all_eq_true.mp (hplain c)),
      List.takeWhile_cons_of_neg (by decide), List.append_nil]
  have hsame : c.name.toList = c'.name.toList := by rw [← hname c u, h, hname]
  obtain rfl : c = c' := by
    have := congrArg Component.ofName? (String.toList_injective hsame)
    rwa [Component.ofName?_name, Component.ofName?_name, Option.some_inj] at this
  exact ⟨rfl, (List.cons.inj (List.append_cancel_left h)).2⟩

/-- A line tells of one component and one need only. -/
theorem TellsMissing.unique (h : TellsMissing line c m) (h' : TellsMissing line c' m') :
    c = c' ∧ m = m' := by
  obtain ⟨reason, rfl⟩ := h
  obtain ⟨reason', heq⟩ := h'
  have hlist := congrArg String.toList heq
  simp only [String.toList_append, List.append_assoc] at hlist
  obtain ⟨hc, hrest⟩ := quoted_name_inj (List.append_cancel_left hlist)
  obtain ⟨hm, -⟩ := quoted_name_inj ((List.append_right_inj "은(는) \"".toList).mp hrest)
  exact ⟨hc, hm⟩

theorem TellsMissing.take (h : TellsMissing line c m) :
    line.toList.take 5 = ['-', ' ', '🔴', ' ', '필'] := by
  obtain ⟨reason, rfl⟩ := h
  simp only [String.toList_append, List.append_assoc]
  rfl

/-- **The lines about missing components** are those of what is required among the suggestions. -/
theorem mem_violationLines_iff : line ∈ g.violationLines ∧ TellsMissing line c m ↔
    ∃ r ∈ g.suggestions, r.relation = .requires ∧ r.source = c ∧ r.target = m ∧
      line = missingLine r := by
  constructor
  · rintro ⟨hline, htells⟩
    have htake := htells.take
    rcases List.mem_append.mp hline with hline | hline
    · -- the lines about anti-patterns and conflicts begin otherwise
      rcases List.mem_append.mp hline with hline | hline
      · obtain ⟨a, -, hline⟩ := List.mem_flatMap.mp hline
        rcases List.mem_pair.mp hline with rfl | rfl <;>
          simp only [String.toList_append, List.append_assoc] at htake
        · generalize a.severity = severity at htake
          cases severity <;> cases htake
        · cases htake
      · obtain ⟨r, -, rfl⟩ := List.mem_map.mp hline
        simp only [String.toList_append, List.append_assoc] at htake
        cases htake
    · obtain ⟨r, hr, rfl⟩ := List.mem_map.mp hline
      obtain ⟨hr, hrequires⟩ := List.mem_filter.mp hr
      obtain ⟨hc, hm⟩ := (tellsMissing_missingLine r).unique htells
      exact ⟨r, hr, beq_iff_eq.mp hrequires, hc, hm, rfl⟩
  · rintro ⟨r, hr, hrequires, rfl, rfl, rfl⟩
    refine ⟨List.mem_append_right _ (List.mem_map_of_mem ?_), tellsMissing_missingLine r⟩
    exact List.mem_filter.mpr ⟨hr, beq_iff_eq.mpr hrequires⟩

theorem violationLines_infix (g : Guidance) (least : Binary64) :
    g.violationLines <:+: g.lines least := by
  have hheaded (heading : String) (l : List String) : l <:+: headed heading l := by
    cases l with
    | nil => exact List.nil_infix
    | cons first rest => exact ⟨[heading], [""], rfl⟩
  refine (hheaded "### ⛔ 주의사항 및 위반 감지" _).trans (List.infix_cons ?_)
  exact ((List.suffix_append _ _).isInfix.trans (List.prefix_append _ _).isInfix).trans
    (List.prefix_append _ _).isInfix

end Guidance

/-! ## One end without the other -/

namespace Relationship

/-- A diagram has one end of a relationship without the other: the source without the target or, if
the relationship holds both ways, the target without the source. -/
def HalfThere (types : List Component) (r : Relationship) : Prop :=
  r.source ∈ types ∧ r.target ∉ types ∨
    r.direction = .bidirectional ∧ r.target ∈ types ∧ r.source ∉ types

theorem asks_iff_halfThere :
    Guidance.asks types r = true ↔ r.IsNeed ∧ r.HalfThere types := by
  simp [Guidance.asks, IsNeed, HalfThere, and_assoc]

/-- **A relationship demands a component** if something is required by it, enough is known of it and
a diagram has one of its ends. -/
structure Demands (types : List Component) (r : Relationship) : Prop where
  required : r.relation = .requires
  sure : Guidance.leastConfidence.le r.confidence = true
  half : r.HalfThere types

end Relationship

namespace Guidance

theorem demands_of_mem_suggestions (hs : s.ids.Nodup)
    (hg : about (.ofCorpus corpus) (some s) = .ok g) (hr : r ∈ g.suggestions)
    (hrequires : r.relation = .requires) : r ∈ corpus.relationships ∧ r.Demands s.types := by
  have hmem := unseenIds_sublist.subset ((suggestions_perm hs hg).mem_iff.mp hr)
  obtain ⟨hmem, hasks⟩ := List.mem_filter.mp hmem
  obtain ⟨hmem, hsure⟩ := List.mem_filter.mp hmem
  exact ⟨hmem, hrequires, hsure, (Relationship.asks_iff_halfThere.mp hasks).2⟩

theorem mem_suggestions_of_demands (hids : UniqueIds (corpus.relationships.map (·.id)))
    (hs : s.ids.Nodup) (hg : about (.ofCorpus corpus) (some s) = .ok g)
    (hr : r ∈ corpus.relationships) (hdemands : r.Demands s.types) : r ∈ g.suggestions := by
  rw [(suggestions_perm hs hg).mem_iff,
    distinctIds_eq hids (List.filter_sublist.trans List.filter_sublist)]
  refine List.mem_filter.mpr ⟨List.mem_filter.mpr ⟨hr, hdemands.sure⟩, ?_⟩
  exact Relationship.asks_iff_halfThere.mpr ⟨.inl hdemands.required, hdemands.half⟩

theorem hasFindings_of_mem_suggestions (hr : r ∈ g.suggestions) : g.hasFindings = true := by
  have hsome : g.suggestions.isEmpty = false := by
    simpa using List.ne_nil_of_mem hr
  simp [hasFindings, hsome]

/-- **What the lines about missing components tell.** Each is about a relationship that demands
something, and says that its source needs its target. The source is there and the target is missing,
unless the relationship holds both ways and the diagram has the target without the source. No demand
is left out if every relationship has its id to itself, and all these lines are in the block. -/
theorem missing_told (hs : s.WellFormed) (hg : about (.ofCorpus corpus) (some s) = .ok g) :
    (∀ line ∈ g.violationLines, ∀ c m, TellsMissing line c m →
      ∃ r ∈ corpus.relationships, r.Demands s.types ∧ line = missingLine r ∧
        r.source = c ∧ r.target = m ∧ (c ∈ s.types ∧ m ∉ s.types ∨
          r.direction = .bidirectional ∧ m ∈ s.types ∧ c ∉ s.types)) ∧
      (UniqueIds (corpus.relationships.map (·.id)) →
        ∀ r ∈ corpus.relationships, r.Demands s.types →
          g.hasFindings = true ∧ missingLine r ∈ g.violationLines ∧
            TellsMissing (missingLine r) r.source r.target) ∧
      ∀ least, g.violationLines <:+: g.lines least := by
  refine ⟨fun line hline c m htells => ?_, fun hids r hr hdemands => ?_, g.violationLines_infix⟩
  · obtain ⟨r, hr, hrequires, rfl, rfl, rfl⟩ := mem_violationLines_iff.mp ⟨hline, htells⟩
    obtain ⟨hmem, hdemands⟩ := demands_of_mem_suggestions hs.ids_nodup hg hr hrequires
    exact ⟨r, hmem, hdemands, rfl, rfl, rfl, hdemands.half⟩
  · have hmem := mem_suggestions_of_demands hids hs.ids_nodup hg hr hdemands
    exact ⟨hasFindings_of_mem_suggestions hmem,
      mem_violationLines_iff.mpr ⟨r, hmem, hdemands.required, rfl, rfl, rfl⟩⟩

theorem missing_told_webServer : (loneNode .webServer).WellFormed ∧
    ∃ g, about (.ofCorpus (wafCorpus .downstream officialConfidence))
        (some (loneNode .webServer)) = .ok g ∧ g.hasFindings = true ∧
      (∃ line ∈ g.violationLines, TellsMissing line .webServer .waf) ∧
      ∀ line ∈ g.violationLines, ∀ c m, TellsMissing line c m → c = .webServer ∧ m = .waf := by
  have hload : Corpus.load (wafLibrary .downstream (.float officialConfidence)) =
      .ok (wafCorpus .downstream officialConfidence) := rfl
  have hs : (loneNode .webServer).WellFormed := by decide
  obtain ⟨g, hg⟩ : ∃ g, about (.ofCorpus (wafCorpus .downstream officialConfidence))
      (some (loneNode .webServer)) = .ok g := ⟨_, rfl⟩
  obtain ⟨htold, hall, -⟩ := missing_told hs hg
  obtain ⟨hfindings, hline, htells⟩ := hall (Corpus.load_eq_ok.mp hload).relationship_ids
    (wafDemand .downstream officialConfidence) List.mem_cons_self
    ⟨rfl, by decide, .inl ⟨by decide, by decide⟩⟩
  refine ⟨hs, g, hg, hfindings, ⟨_, hline, htells⟩, fun line hline c m htells => ?_⟩
  obtain ⟨r, hr, -, -, rfl, rfl, -⟩ := htold line hline c m htells
  obtain rfl := List.mem_singleton.mp hr
  exact ⟨rfl, rfl⟩

/-- Where the demand holds both ways, it is the firewall that is there and needs the web server. The
line says the opposite. -/
theorem told_backwards :
    Corpus.load (wafLibrary .bidirectional (.float officialConfidence)) =
        .ok (wafCorpus .bidirectional officialConfidence) ∧ (loneNode .waf).WellFormed ∧
      (∃ r, (r, .webServer) ∈
        (Store.ofCorpus (wafCorpus .bidirectional officialConfidence)).dependenciesFor .waf) ∧
      ∃ g, about (.ofCorpus (wafCorpus .bidirectional officialConfidence))
          (some (loneNode .waf)) = .ok g ∧
        ∃ line ∈ g.violationLines, TellsMissing line .webServer .waf ∧
          .webServer ∉ (loneNode .waf).types ∧ .waf ∈ (loneNode .waf).types := by
  have hload : Corpus.load (wafLibrary .bidirectional (.float officialConfidence)) =
      .ok (wafCorpus .bidirectional officialConfidence) := rfl
  have hs : (loneNode .waf).WellFormed := by decide
  obtain ⟨g, hg⟩ : ∃ g, about (.ofCorpus (wafCorpus .bidirectional officialConfidence))
      (some (loneNode .waf)) = .ok g := ⟨_, rfl⟩
  have hids := (Corpus.load_eq_ok.mp hload).relationship_ids
  have hr := mem_suggestions_of_demands hids hs.ids_nodup hg (List.mem_singleton.mpr rfl)
    ⟨rfl, by decide, .inr ⟨rfl, by decide, by decide⟩⟩
  obtain ⟨hline, htells⟩ := mem_violationLines_iff.mpr ⟨_, hr, rfl, rfl, rfl, rfl⟩
  exact ⟨hload, hs, ⟨_, mem_wafDependencies.mpr ⟨rfl, .inr ⟨rfl, rfl, rfl⟩⟩⟩, g, hg, _, hline,
    htells, by decide, by decide⟩

end Guidance

end NetSketch
