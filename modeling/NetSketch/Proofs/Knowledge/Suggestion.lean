import NetSketch.Proofs.Knowledge.Missing

/-!
# What is suggested

Advice makes one suggestion for each component that a changed type is known to need and that is not
there. Where several relationships need it the first one is given, or the first of those that insist
on it.

* `Store.Needs`: a type is known to need another by a relationship;
* `Store.map_missing_suggest`, `Store.mem_suggest`: one more suggestion among others;
* `Store.nodup_missing`, `Store.needs_of_mem_suggestions`, `Store.pairwise_suggestions`: how often,
  by what and in which order a component is suggested;
* **`Store.suggestions_meet_needs`**: the suggestions are those that the needs ask for.
-/

namespace NetSketch

open Number

variable {store : Store} {after : Spec} {changed : List Component} {c m : Component}
  {r : Relationship} {g new : Suggestion} {given found : List Suggestion}

namespace Store

/-- A type is known to need another by a relationship, the confidence of which is at least one half
or not a number. -/
def Needs (store : Store) (c : Component) (r : Relationship) (m : Component) : Prop :=
  (r, m) ∈ store.dependenciesFor c ∧
    (Guidance.leastConfidence.le r.confidence = true ∨ r.confidence = .nan)

theorem lt_leastConfidence {x : Binary64} : x.lt Guidance.leastConfidence = false ↔
    Guidance.leastConfidence.le x = true ∨ x = .nan := by
  have hnumber : Guidance.leastConfidence ≠ .nan := by decide
  rw [Binary64.le_iff]
  constructor
  · intro h
    by_cases hnan : x = .nan
    · exact .inr hnan
    · exact .inl ⟨hnumber, hnan, h⟩
  · rintro (h | rfl)
    · exact h.2.2
    · rfl

theorem mem_lacking_iff_needs {present : List Component} : g ∈ store.lacking present c ↔
    store.Needs c g.relationship g.missing ∧ g.missing ∉ present ∧ g.source = c := by
  rw [mem_lacking, ← Guidance.leastConfidence, lt_leastConfidence, Needs, and_assoc,
    and_left_comm (a := g.missing ∉ present)]

/-! ## One more suggestion -/

theorem map_missing_suggest : (suggest new found).map (·.missing) =
    if new.missing ∈ found.map (·.missing) then found.map (·.missing)
    else found.map (·.missing) ++ [new.missing] := by
  induction found with
  | nil => rfl
  | cons old rest ih =>
    rw [suggest, List.map_cons]
    by_cases hsame : old.missing = new.missing
    · have hkept : (if new.isMandatory && !old.isMandatory then new else old).missing =
          old.missing := by
        split_ifs
        · exact hsame.symm
        · rfl
      have hmem : new.missing ∈ old.missing :: rest.map (·.missing) :=
        hsame ▸ List.mem_cons_self
      rw [if_pos hmem, if_pos hsame, List.map_cons, hkept]
    · rw [if_neg hsame, List.map_cons, ih]
      simp only [List.mem_cons, Ne.symm hsame, false_or]
      split_ifs <;> rfl

theorem nodup_suggest (h : (found.map (·.missing)).Nodup) :
    ((suggest new found).map (·.missing)).Nodup := by
  rw [map_missing_suggest]
  split_ifs with hmem
  · exact h
  · exact List.nodup_append.mpr ⟨h, List.nodup_singleton _, by
      rintro a ha b hb rfl
      exact hmem (List.mem_singleton.mp hb ▸ ha)⟩

theorem mem_suggest (h : g ∈ suggest new found) : g = new ∨ g ∈ found := by
  induction found with
  | nil => exact .inl (List.mem_singleton.mp h)
  | cons old rest ih =>
    rw [suggest] at h
    split_ifs at h with hsame hmore
    · exact (List.mem_cons.mp h).imp_right (List.mem_cons_of_mem _)
    · exact .inr h
    · rcases List.mem_cons.mp h with rfl | h
      · exact .inr List.mem_cons_self
      · exact (ih h).imp_right (List.mem_cons_of_mem _)

/-! ## All suggestions -/

theorem foldl_suggest_induction {P : List Suggestion → Prop} (hnil : P [])
    (hstep : ∀ new ∈ given, ∀ found, P found → P (suggest new found)) :
    P (given.foldl (fun found g => suggest g found) []) :=
  List.foldlRecOn given _ hnil fun found hfound new hnew => hstep new hnew found hfound

theorem nodup_missing : ((store.suggestions after changed).map (·.missing)).Nodup := by
  rw [suggestions, (ranked_perm.map _).nodup_iff]
  exact foldl_suggest_induction (P := fun found => (found.map (·.missing)).Nodup) List.nodup_nil
    fun _ _ _ => nodup_suggest

theorem mem_of_mem_foldl_suggest (h : g ∈ given.foldl (fun found g => suggest g found) []) :
    g ∈ given := by
  refine foldl_suggest_induction (P := fun found => ∀ g ∈ found, g ∈ given) ?_ ?_ g h
  · exact fun _ hmem => absurd hmem List.not_mem_nil
  · intro new hnew found hfound g hg
    rcases mem_suggest hg with rfl | hg
    · exact hnew
    · exact hfound g hg

theorem needs_of_mem_suggestions (h : g ∈ store.suggestions after changed) :
    g.source ∈ changed ∧ store.Needs g.source g.relationship g.missing ∧
      g.missing ∉ after.types := by
  rw [suggestions, mem_ranked] at h
  obtain ⟨c, hc, hg⟩ := List.mem_flatMap.mp (mem_of_mem_foldl_suggest h)
  obtain ⟨hneeds, hmissing, rfl⟩ := mem_lacking_iff_needs.mp hg
  exact ⟨Component.mem_sorted.mp hc, hneeds, hmissing⟩

theorem pairwise_suggestions : (store.suggestions after changed).Pairwise
    fun a b => b.isMandatory = true → a.isMandatory = true := by
  have : IsTrans Suggestion fun a b => b.isMandatory = true → a.isMandatory = true :=
    ⟨fun _ _ _ hab hbc hc => hab (hbc hc)⟩
  refine pairwise_ranked (fun a b h => ?_) fun a b h => ?_
  · unfold suggestedBefore at h
    split_ifs at h with hkind
    · exact fun _ => h
    · simp [show a.isMandatory = b.isMandatory by simpa using hkind]
  · unfold suggestedBefore at h
    split_ifs at h with hkind
    · exact fun ha => absurd ha (by simp [h])
    · simp [show a.isMandatory = b.isMandatory by simpa using hkind]

/-- A component is insisted on exactly if a changed type needs it by a mandatory relationship. -/
theorem exists_insists_iff : (∃ g ∈ store.suggestions after changed, g.Insists m) ↔
    m ∉ after.types ∧ ∃ c ∈ changed, ∃ r, store.Needs c r m ∧ r.isMandatory = true := by
  rw [exists_suggestions fun _ _ => exists_insists_suggest]
  simp only [mem_lacking_iff_needs]
  constructor
  · rintro ⟨g, ⟨c, hc, hneeds, hmissing, -⟩, hmandatory, rfl⟩
    exact ⟨hmissing, c, hc, g.relationship, hneeds, hmandatory⟩
  · rintro ⟨hmissing, c, hc, r, hneeds, hmandatory⟩
    exact ⟨⟨r, m, c⟩, ⟨c, hc, hneeds, hmissing, rfl⟩, hmandatory, rfl⟩

/-- **The suggestions are those that the needs ask for**: one for every missing component that a
changed type is known to need, by such a need, mandatory exactly if one of these needs is, and the
mandatory ones in front. -/
theorem suggestions_meet_needs (store : Store) (after : Spec) (changed : List Component) :
    ((store.suggestions after changed).map (·.missing)).Nodup ∧
      (∀ m, m ∈ (store.suggestions after changed).map (·.missing) ↔
        m ∉ after.types ∧ ∃ c ∈ changed, ∃ r, store.Needs c r m) ∧
      (∀ g ∈ store.suggestions after changed,
        g.source ∈ changed ∧ store.Needs g.source g.relationship g.missing ∧
          (g.isMandatory = true ↔ ∃ c ∈ changed, ∃ r, store.Needs c r g.missing ∧
            r.relation = .requires ∧ r.strength = .mandatory)) ∧
      (store.suggestions after changed).Pairwise
        fun a b => b.isMandatory = true → a.isMandatory = true := by
  refine ⟨nodup_missing, fun m => ?_, fun g hg => ?_, pairwise_suggestions⟩
  · rw [List.mem_map, exists_missing_iff]
    simp only [lt_leastConfidence, Needs]
  · obtain ⟨hsource, hneeds, hmissing⟩ := needs_of_mem_suggestions hg
    refine ⟨hsource, hneeds, ?_⟩
    have hinsists : (∃ g' ∈ store.suggestions after changed, g'.Insists g.missing) ↔
        g.isMandatory = true := by
      constructor
      · rintro ⟨g', hg', hmandatory, hsame⟩
        rwa [List.inj_on_of_nodup_map nodup_missing hg' hg hsame] at hmandatory
      · exact fun hmandatory => ⟨g, hg, hmandatory, rfl⟩
    rw [← hinsists, exists_insists_iff, and_iff_right hmissing]
    simp [Relationship.isMandatory]

/-- A confidence that is not a number holds no suggestion back: a firewall is suggested for a web
server although no relationship with a confidence of at least one half asks for it. -/
theorem suggested_without_confidence :
    Corpus.load (wafLibrary .downstream (.str "nan")) = .ok (wafCorpus .downstream .nan) ∧
      (loneNode .webServer).WellFormed ∧
      (∃ g ∈ (ofCorpus (wafCorpus .downstream .nan)).suggestions (loneNode .webServer)
        [.webServer], g.missing = .waf) ∧
      ¬ ∃ c ∈ [Component.webServer], ∃ r,
        (r, .waf) ∈ (ofCorpus (wafCorpus .downstream .nan)).dependenciesFor c ∧
          Guidance.leastConfidence.le r.confidence = true := by
  refine ⟨rfl, by decide, ?_, ?_⟩
  · exact exists_missing_iff.mpr ⟨by decide, .webServer, by decide, _,
      mem_wafDependencies.mpr ⟨rfl, .inl ⟨rfl, rfl⟩⟩, rfl⟩
  · rintro ⟨c, -, r, hdep, hsure⟩
    rw [(mem_wafDependencies.mp hdep).1] at hsure
    cases hsure

end Store

end NetSketch
