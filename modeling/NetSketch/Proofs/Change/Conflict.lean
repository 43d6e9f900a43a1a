import NetSketch.Proofs.Change.Enlargement
import NetSketch.Proofs.Change.Loss
import NetSketch.Proofs.Knowledge.Conflict

/-!
# Conflicts of what a change brings

A change that brings types to a diagram is warned of their conflicts: of each conflict in the corpus
between a type that it brings and one that is there afterwards, once, whichever of the two it brings
and also if it brings both.

* `Spec.Brings`: the types that a change brings; `Spec.brings_of_added`, `Spec.brings_of_retyped`:
  those of an addition and of a change of types;
* `TellsConflicts`: what is warned of; `tellsConflicts_of_advised`;
* `Bringing`: the requests that bring types; **`bringing_tells_conflicts`**: each is warned of the
  conflicts of its types.
-/

namespace NetSketch

variable {corpus : Corpus} {store : Store} {s t : Spec} {c : Change} {type : Component}

/-! ## Types that are brought -/

namespace Spec

/-- A change from one diagram to another brings a type if a node has it that did not have it
before. -/
def Brings (s t : Spec) (type : Component) : Prop :=
  ∃ n ∈ t.nodes, n.type = type ∧ ∀ m ∈ s.nodes, m.id = n.id → m.type ≠ type

instance : Decidable (s.Brings t type) :=
  inferInstanceAs (Decidable (∃ n ∈ t.nodes, n.type = type ∧ ∀ m ∈ s.nodes, m.id = n.id →
    m.type ≠ type))

theorem brings_empty : empty.Brings t type ↔ type ∈ t.types := by
  unfold Brings types
  rw [List.mem_map]
  exact exists_congr fun n => and_congr_right fun _ =>
    and_iff_left fun m hm => absurd hm List.not_mem_nil

theorem brings_of_added {inRow : Bool} {spot : Spot} {wanted : List Wanted}
    {steps : List Modification} (hs : s.WellFormed) (h : Added inRow spot s wanted t steps) :
    s.Brings t type ↔ type ∈ wanted.map (·.type) := by
  obtain ⟨new, hnodes, htypes⟩ := h.exists_nodes_eq
  have hnodup := (h.wellFormed hs).ids_nodup
  rw [ids, hnodes, List.map_append] at hnodup
  have hfresh := (List.nodup_append.mp hnodup).2.2
  rw [Brings, hnodes, ← htypes, List.mem_map]
  constructor
  · rintro ⟨n, hn, rfl, hold⟩
    rcases List.mem_append.mp hn with hn | hn
    · exact absurd rfl (hold n hn rfl)
    · exact ⟨n, hn, rfl⟩
  · rintro ⟨n, hn, rfl⟩
    refine ⟨n, List.mem_append_right _ hn, rfl, fun m hm hid => ?_⟩
    exact absurd hid (hfresh _ (List.mem_map_of_mem hm) _ (List.mem_map_of_mem hn))

theorem nodes_updateNodes {change : Node → Node} {nodes : List Node}
    (h : nodes.foldlM (fun (u : Spec) n => u.updateNode n.id change) s = .ok t)
    (hid : ∀ n, (change n).id = n.id) (htwice : ∀ n, change (change n) = change n) :
    t.nodes = s.nodes.map fun n => if n.id ∈ nodes.map (·.id) then change n else n := by
  induction nodes generalizing s with
  | nil =>
    obtain rfl := Except.ok.inj h
    simp
  | cons a nodes ih =>
    rw [List.foldlM_cons] at h
    obtain ⟨u, hu, h⟩ := bind_eq_ok.mp h
    obtain rfl := eq_of_check hu
    rw [ih h, List.map_map]
    refine List.map_congr_left fun n _ => ?_
    by_cases hn : n.id = a.id
    · simp [hn, hid, htwice]
    · simp [hn]

theorem brings_of_retyped {id label : String} {old new : Component} (hs : s.WellFormed)
    (hne : new ≠ old) (hid : id ∈ (s.nodesOfType old).map (·.id))
    (h : (s.nodesOfType old).foldlM (fun (u : Spec) n => u.updateNode n.id (·.retype new label)) s =
      .ok t) : s.Brings t type ↔ type = new := by
  have hnodes := nodes_updateNodes h (fun _ => rfl) fun _ => rfl
  constructor
  · rintro ⟨n, hn, rfl, hold⟩
    rw [hnodes] at hn
    obtain ⟨m, hm, rfl⟩ := List.mem_map.mp hn
    split_ifs at hold ⊢ with hchanged
    · rfl
    · exact absurd rfl (hold m hm rfl)
  · rintro rfl
    obtain ⟨m, hm, rfl⟩ := List.mem_map.mp hid
    obtain ⟨hmem, hold⟩ := mem_nodesOfType.mp hm
    refine ⟨m.retype type label, ?_, rfl, fun m' hm' hsame => ?_⟩
    · rw [hnodes]
      exact List.mem_map.mpr ⟨m, hmem, if_pos (List.mem_map_of_mem hm)⟩
    · obtain rfl := node_ext_of_nodup hs.ids_nodup hm' hmem hsame
      exact hold ▸ hne.symm

end Spec

/-! ## Conflicts that are told -/

/-- **Warnings tell the conflicts of what a change brings**: no conflict twice, each one between a
type that is brought and one that is there, and how bad it is. -/
structure TellsConflicts (corpus : Corpus) (s t : Spec) (warnings : List Warning) : Prop where
  nodup : ((warnings.filterMap (·.conflict?)).map (·.id.key?)).Nodup
  mem_iff : ∀ r, .conflict r ∈ warnings ↔ r ∈ corpus.relationships ∧ r.relation = .conflicts ∧
    (s.Brings t r.source ∧ r.target ∈ t.types ∨ s.Brings t r.target ∧ r.source ∈ t.types)
  severity : ∀ r, .conflict r ∈ warnings → (Warning.conflict r).severity =
    match r.strength with
    | .mandatory => .critical
    | .strong => .high
    | .weak => .medium

theorem tellsConflicts_of_advised (hids : UniqueIds (corpus.relationships.map (·.id)))
    {before : Spec} {affected : List Component} {change : Change}
    (haffected : ∀ type, s.Brings t type ↔ type ∈ affected)
    (h : advised (.ofCorpus corpus) before t affected change = .ok (.done c)) :
    ∃ t, c.spec = some t ∧ TellsConflicts corpus s t c.warnings := by
  obtain ⟨warnings, hwarnings, rfl⟩ := advised_eq_done.mp h
  have hconflicts := Store.warnings_conflicts hwarnings
  refine ⟨t, rfl, ⟨?_, fun r => ?_, fun r _ => ?_⟩⟩
  · rw [hconflicts]
    exact nodup_distinctIds
  · have hmem : .conflict r ∈ warnings ↔ r ∈ warnings.filterMap (·.conflict?) := by
      simp [List.mem_filterMap, Warning.conflict?_eq_some]
    rw [hmem, hconflicts, Store.mem_conflictsAmong hids]
    simp only [Component.mem_sorted, haffected]
  · change Severity.ofStrength r.strength = _
    cases r.strength <;> rfl

/-! ## Requests -/

/-- **The requests that bring types** to a diagram: those that make a new one, add nodes, or turn
nodes into others. -/
inductive Bringing (store : Store) : Spec → Change → Prop
  | created {options : Options} {prompt : String} {c : Change}
      (h : create store options prompt = .ok (.done c)) : Bringing store .empty c
  | createdFrom {i : Intent} {c : Change} (h : createFrom store i = .ok (some (.done c))) :
      Bringing store .empty c
  | added {s : Spec} {prompt : String} {intent : Option Intent} {c : Change} (hs : s.WellFormed)
      (h : add store prompt (some s) intent = .ok (.done c)) : Bringing store s c
  | retyped {s : Spec} {prompt : String} {intent : Option Intent} {c : Change} {id : String}
      {new : Component} (hs : s.WellFormed)
      (h : modify store prompt (some s) intent = .ok (.done c))
      (hstep : .retype id new ∈ c.modifications) : Bringing store s c

/-- **Every request that brings types is warned of their conflicts**, as far as the corpus knows
them. -/
theorem bringing_tells_conflicts {library : Library} (hload : Corpus.load library = .ok corpus)
    (h : Bringing (.ofCorpus corpus) s c) :
    ∃ t, c.spec = some t ∧ TellsConflicts corpus s t c.warnings := by
  have hids := (Corpus.load_eq_ok.mp hload).relationship_ids
  cases h with
  | created h =>
    obtain ⟨t, change, h⟩ := advised_of_create h
    exact tellsConflicts_of_advised hids (fun _ => Spec.brings_empty) h
  | createdFrom h =>
    obtain ⟨t, change, -, h⟩ := advised_of_createFrom h
    exact tellsConflicts_of_advised hids (fun _ => Spec.brings_empty) h
  | @added s prompt intent c hs h =>
    obtain ⟨t, change, -, ht, h⟩ := advised_of_add h
    have hadded := Spec.Added.of_addEach hs (s.spotFor_known prompt intent) ht
    exact tellsConflicts_of_advised hids (fun _ => Spec.brings_of_added hs hadded) h
  | retyped hs h hstep =>
    obtain ⟨old, label, t, change, hne, hid, ht, h⟩ :=
      retyped_of_retype (retype_of_modify h hstep) hstep
    refine tellsConflicts_of_advised hids (fun type => ?_) h
    rw [Spec.brings_of_retyped hs hne hid ht, List.mem_singleton]

/-- A relationship of a library by which one type conflicts with another. -/
def rivalry (id : String) (source target : Component) (strength : Strength) : Relationship :=
  { id := .str id, source, target, relation := .conflicts, strength, direction := .bidirectional,
    reason := .str "", reasonKo := .str "", confidence := .ofDecimal false 8 (-1) }

/-- Filters conflict with each other, and web servers with themselves. -/
def rivalCorpus : Corpus :=
  { relationships := [rivalry "C1" .waf .idsIps .strong, rivalry "C2" .webServer .webServer .weak] }

/-- The entry of a conflict in a library. -/
def rivalEntry (id source target strength : String) : Json :=
  .obj [("id", .str id), ("source", .str source), ("target", .str target),
    ("type", .str "conflicts"), ("strength", .str strength), ("direction", .str "bidirectional"),
    ("reason", .str ""), ("reason_ko", .str "")]

/-- A library that lists both conflicts. -/
def rivalLibrary : Library :=
  [("relationships.yaml", .document (.obj [("relationships",
      .arr [rivalEntry "C1" "waf" "ids-ips" "strong",
        rivalEntry "C2" "web-server" "web-server" "weak"])])),
    ("antipatterns.yaml", .document (.obj [("antipatterns", .arr [])])),
    ("failures.yaml", .document (.obj [("failures", .arr [])])),
    ("patterns.yaml", .document (.obj [("patterns", .arr [])]))]

theorem rivalCorpus_typed : (Store.ofCorpus rivalCorpus).Typed := by
  rw [Store.Typed, Store.ofCorpus_corpus]
  nofun

theorem create_threeTier : create store {} "3tier" = createdFrom store .threeTier := by
  have hkeyword : (Template.keyword "3tier").occurs false (Text.lower "3tier") = true := by
    decide +kernel
  have hfirst : Template.forPrompt? "3tier" = some .threeTier := by
    unfold Template.forPrompt?
    exact List.find?_cons_of_pos (by simp [Template.threeTier, hkeyword])
  have htemplate : ({} : Options).template? "3tier" = some .threeTier := by
    simp [Options.template?, hfirst]
  unfold create
  rw [htemplate]

/-- New web servers conflict with each other, and so does a firewall that becomes a web server with
the one that is there. Two filters that are added conflict with each other, and leave the web server
alone. -/
theorem bringing_tells_conflicts_rivals : Corpus.load rivalLibrary = .ok rivalCorpus ∧
    (∃ c, create (.ofCorpus rivalCorpus) {} "3tier" = .ok (.done c) ∧
      .conflict (rivalry "C2" .webServer .webServer .weak) ∈ c.warnings) ∧
    (∃ c, add (.ofCorpus rivalCorpus) "" (some guarded) (some filtersBehind) = .ok (.done c) ∧
      .conflict (rivalry "C1" .waf .idsIps .strong) ∈ c.warnings ∧
      .conflict (rivalry "C2" .webServer .webServer .weak) ∉ c.warnings) ∧
    ∃ c, modify (.ofCorpus rivalCorpus) "" (some (shopBehind .firewall))
        (some (insteadOf .firewall .webServer)) = .ok (.done c) ∧
      .conflict (rivalry "C2" .webServer .webServer .weak) ∈ c.warnings := by
  have hload : Corpus.load rivalLibrary = .ok rivalCorpus := rfl
  have htells {s t : Spec} {c : Change} (h : Bringing (.ofCorpus rivalCorpus) s c)
      (hspec : c.spec = some t) : TellsConflicts rivalCorpus s t c.warnings := by
    obtain ⟨u, hu, h⟩ := bringing_tells_conflicts hload h
    rwa [Option.some.inj (hspec.symm.trans hu)]
  have hfilters : rivalry "C1" .waf .idsIps .strong ∈ rivalCorpus.relationships := by
    simp [rivalCorpus]
  have hservers : rivalry "C2" .webServer .webServer .weak ∈ rivalCorpus.relationships := by
    simp [rivalCorpus]
  refine ⟨hload, ?_, ?_, ?_⟩
  · obtain ⟨c, hc, hspec⟩ : ∃ c, createdFrom (.ofCorpus rivalCorpus) .threeTier = .ok (.done c) ∧
        c.spec = some Template.threeTier.spec :=
      Answered.exists_advised rivalCorpus_typed _ _ _ _
    have hdone := create_threeTier.trans hc
    exact ⟨c, hdone, ((htells (.created hdone) hspec).mem_iff _).mpr
      ⟨hservers, rfl, .inl ⟨by decide, by decide⟩⟩⟩
  · obtain ⟨c, hc, hspec⟩ := Answered.exists_advised rivalCorpus_typed guarded guardedTwice
      [.waf, .idsIps]
      { command := .add, spec := guardedTwice, confidence := confidenceBy (some filtersBehind)
        modifications := filterSteps }
    have hdone := add_filtersBehind_eq.trans hc
    have hmem := (htells (.added (by decide) hdone) hspec).mem_iff
    refine ⟨c, hdone, (hmem _).mpr ⟨hfilters, rfl, .inl ⟨by decide, by decide⟩⟩, fun h => ?_⟩
    -- no web server is brought
    obtain ⟨-, -, ⟨hbrings, -⟩ | ⟨hbrings, -⟩⟩ := (hmem _).mp h <;>
      exact absurd hbrings (by decide)
  · obtain ⟨c, hc, hspec⟩ := Answered.exists_advised rivalCorpus_typed (shopBehind .firewall)
      (shopBehind .webServer) [.webServer]
      { command := .modify, spec := shopBehind .webServer, confidence := editConfidence
        modifications := [.retype "fw-1" .webServer] }
    have hdone := (modify_shopBehind (by decide)).trans hc
    have hstep : .retype "fw-1" .webServer ∈ c.modifications := by
      obtain ⟨warnings, -, rfl⟩ := advised_eq_done.mp hc
      exact List.mem_singleton_self _
    exact ⟨c, hdone, ((htells (.retyped (by decide) hdone hstep) hspec).mem_iff _).mpr
      ⟨hservers, rfl, .inl ⟨by decide, by decide⟩⟩⟩

end NetSketch
