import NetSketch.Proofs.Change.Answer

/-!
# Diagrams from words and from intents

A diagram is made of the components that a text names or of those of an intent. If these are the
same, and the intent says nothing else of them, so are the diagrams and all that is told of them;
only how sure it is, the intent says itself.

* `Wanted.Bare`: components of which only the type is told; `Spec.sketch_bare`;
* `Outcome.withConfidence`: an outcome that is surer or less sure;
* **`createFrom_eq_create`**: a text and an intent of the same components.
-/

namespace NetSketch

open Number Prompt

variable {store : Store} {s : Spec} {wanted : List Wanted} {text : String} {i : Intent}

/-! ## Bare components -/

namespace Wanted

/-- A component without a description and without a label, or with an empty one. -/
def Bare (w : Wanted) : Prop := w.label.filter (!·.isEmpty) = none ∧ w.description = none

/-- Nothing but the type of a component. -/
def bare (w : Wanted) : Wanted := { type := w.type }

theorem Bare.node_eq {w : Wanted} (h : w.Bare) (s : Spec) : w.node s = w.bare.node s := by
  obtain ⟨hlabel, hdescription⟩ := h
  rw [node, hlabel, hdescription]
  rfl

end Wanted

namespace Spec

theorem sketch_bare (h : ∀ w ∈ wanted, w.Bare) : sketch wanted = sketch (wanted.map (·.bare)) := by
  have hnodes : ∀ s : Spec,
      wanted.foldlM addWanted s = (wanted.map (·.bare)).foldlM addWanted s := by
    induction wanted with
    | nil => exact fun _ => rfl
    | cons w wanted ih =>
      obtain ⟨hw, hwanted⟩ := List.forall_mem_cons.mp h
      intro s
      rw [List.map_cons, List.foldlM_cons, List.foldlM_cons, addWanted, addWanted, hw.node_eq]
      exact congrArg _ (funext fun t => ih hwanted t)
  rw [sketch, sketch, hnodes]

theorem withEntry_map_bare : (withEntry wanted).map (·.bare) = withEntry (wanted.map (·.bare)) := by
  have hany : ((wanted.map (·.bare)).any fun w => w.type == .user || w.type == .internet) =
      wanted.any fun w => w.type == .user || w.type == .internet := by
    rw [List.any_map]
    rfl
  rw [withEntry, withEntry, hany]
  split_ifs <;> rfl

theorem bare_of_mem_withEntry (h : ∀ w ∈ wanted, w.Bare) : ∀ w ∈ withEntry wanted, w.Bare := by
  unfold withEntry
  split_ifs
  · exact h
  · exact List.forall_mem_cons.mpr ⟨⟨rfl, rfl⟩, h⟩

/-- What a text names is drawn as bare components of the same types. -/
theorem ofPrompt_eq_sketch (hnamed : allNamed text ≠ [])
    (htypes : wanted.map (·.type) = allNamed text) (hbare : ∀ w ∈ wanted, w.Bare) :
    ofPrompt text = (sketch (withEntry wanted)).map some := by
  have hsame : withEntry ((allNamed text).map fun type => { type }) =
      (withEntry wanted).map (·.bare) := by
    rw [withEntry_map_bare, ← htypes, List.map_map]
    rfl
  rw [sketch_bare (bare_of_mem_withEntry hbare), ← hsame, ofPrompt]
  cases h : allNamed text with
  | nil => exact absurd h hnamed
  | cons => rfl

end Spec

/-! ## Outcomes -/

/-- The same outcome with another confidence, if the prompt was followed. -/
def Outcome.withConfidence (confidence : Binary64) : Outcome → Outcome
  | done c => done { c with confidence }
  | failed command problem fallback => failed command problem fallback

theorem created_eq_map (confidence confidence' : Binary64) : created store s confidence' =
    (created store s confidence).map (·.withConfidence confidence') := by
  unfold created advised
  cases store.warnings s s.types (some .empty) <;> rfl

/-- **A text and an intent of the same components make the same diagram**, with the same steps,
advice and explanation; only the confidence is that of the intent. With a store of typed signatures
there always is one. -/
theorem createFrom_eq_create (hnamed : allNamed text ≠ []) (htypes : i.types = allNamed text)
    (hbare : ∀ w ∈ i.components, w.Bare) :
    createFrom store i = (create store { templates := false } text).map
        (fun o => some (o.withConfidence i.confidence)) ∧
      (store.Typed → ∃ c, create store { templates := false } text = .ok (.done c)) := by
  obtain ⟨t, ht, -⟩ := Spec.exists_sketch (Spec.withEntry i.components)
  have hcomponents : i.components.isEmpty = false := by
    rw [← htypes] at hnamed
    simpa [Intent.types] using hnamed
  have hcreate : create store { templates := false } text = created store t half := by
    have hdrawn : ({ templates := false } : Options).sketch text = .ok (some t) := by
      change Spec.ofPrompt text = _
      rw [Spec.ofPrompt_eq_sketch hnamed htypes hbare, ht]
      rfl
    change (Reading.ofBreach (({ templates := false } : Options).sketch text) >>= _) = _
    rw [hdrawn]
    rfl
  have hcreateFrom : createFrom store i = (created store t i.confidence).map some := by
    unfold createFrom
    rw [if_neg (by simp [hcomponents]), ht]
    change (created store t i.confidence >>= fun o => .ok (some o)) = _
    cases created store t i.confidence <;> rfl
  constructor
  · rw [hcreateFrom, hcreate, created_eq_map half]
    cases created store t half <;> rfl
  · intro hstore
    rw [hcreate]
    obtain ⟨c, hc, -⟩ := Answered.exists_advised hstore .empty t t.types _
    exact ⟨c, hc⟩

/-- A text that names a database and a directory, and an intent with an empty label and a zone. -/
theorem createFrom_eq_create_directory : ∃ c,
    create .bundled { templates := false } "db, ad" = .ok (.done c) ∧
      createFrom .bundled ⟨.create, editConfidence,
        [{ type := .dbServer, label := some "" }, { type := .ldapAd, zone := some "core" }], none,
          none⟩ = .ok (some (.done { c with confidence := editConfidence })) := by
  have hnamed : allNamed "db, ad" = [.dbServer, .ldapAd] := by decide +kernel
  obtain ⟨hsame, hthere⟩ := @createFrom_eq_create .bundled "db, ad" ⟨.create, editConfidence,
    [{ type := .dbServer, label := some "" }, { type := .ldapAd, zone := some "core" }], none, none⟩
    (by simp [hnamed]) hnamed.symm (by simp [Wanted.Bare])
  obtain ⟨c, hc⟩ := hthere Store.bundled_typed
  refine ⟨c, hc, ?_⟩
  rw [hsame, hc]
  rfl

end NetSketch
