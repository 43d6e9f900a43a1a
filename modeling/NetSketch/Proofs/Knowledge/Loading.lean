import NetSketch.Proofs.Knowledge.Overflow

/-!
# What loading a corpus ends with

A library is loaded in stages: its four files one after the other, each entry by entry, and then
the ids of each sort. It ends with the corpus, with a refusal, or with a fault where a raw value
that is not what it should be is used outside the parts whose faults are mended.

* `Listing`, `Listing.Gives`, `Listing.Breaks`: a file of entries;
* `UniqueIds`, `IdsBreak`: the check of the ids;
* `Corpus.Complete`, `Corpus.Breaks`, **`Corpus.load_outcome`**: the corpora that are loaded, and
  the faults in which loading ends.
-/

namespace NetSketch

open Course

variable {α : Type}

/-! ## Files of entries -/

/-- A sort of entries: the file that lists them, under which name, and how one is read. -/
structure Listing (α : Type) where
  file : String
  name : String
  read : Fields → Entry α
  overflows : ∀ fields, OverflowsOnly (TooLarge fields) (read fields)

/-- The relationships of a library. -/
def Relationship.listing : Listing Relationship :=
  ⟨"relationships.yaml", "relationships", read, fun _ => .relationship⟩

/-- The anti-patterns of a library. -/
def AntiPattern.listing : Listing AntiPattern :=
  ⟨"antipatterns.yaml", "antipatterns", read, fun _ => .antiPattern⟩

/-- The failures of a library. -/
def Failure.listing : Listing Failure := ⟨"failures.yaml", "failures", read, fun _ => .failure⟩

/-- The blueprints of a library. -/
def Blueprint.listing : Listing Blueprint :=
  ⟨"patterns.yaml", "patterns", read, fun _ => .blueprint⟩

namespace Listing

variable (listing : Listing α) (library : Library)

/-- The file is an object that holds a list of entries. -/
def Lists (entries : List Json) : Prop :=
  ∃ fields, library.lookup listing.file = some (.document (.obj fields)) ∧
    Fields.get? fields listing.name = some (.arr entries)

/-- An entry is an object that is read as `a`. -/
def GivesEntry (v : Json) (a : α) : Prop := ∃ fields, v = .obj fields ∧ listing.read fields = .ok a

/-- The file gives one value for every entry that it lists, in order. -/
def Gives (as : List α) : Prop :=
  ∃ entries, listing.Lists library entries ∧ List.Forall₂ listing.GivesEntry entries as

/-- An entry is no object, or reading it comes to a number that is too large. -/
inductive BreaksEntry : Json → Fault → Prop
  | noObject {v : Json} (h : v.kind ≠ .dict) : BreaksEntry v (.noMember v.kind "get")
  | tooLarge {fields : Fields} {f : Fault} (h : listing.read fields = .error (.fault f))
      (hlarge : TooLarge fields f) : BreaksEntry (.obj fields) f

/-- The file is given, but no object, or all its entries up to one that breaks are read. -/
inductive Breaks : Fault → Prop
  | noObject {v : Json} (hfile : library.lookup listing.file = some (.document v))
      (hkind : v.kind ≠ .dict) (hgiven : v.truthy = true) : Breaks (.noMember v.kind "get")
  | entry {entries : List Json} {f : Fault} (hlists : listing.Lists library entries)
      (h : First (fun v => ∃ a, listing.GivesEntry v a) (listing.BreaksEntry · f) entries) :
      Breaks f

variable {listing library} {sort : String} {v : Json} {f : Fault}

theorem entriesOf_eq_ok {entries : List Json} :
    Corpus.entriesOf library listing.file listing.name = .ok entries ↔
      listing.Lists library entries := by
  unfold Corpus.entriesOf Lists
  cases library.lookup listing.file with
  | none => simp
  | some page =>
    cases page with
    | unreadable => simp
    | document v =>
      cases v with
      | obj fields =>
        simp only [Option.some.injEq, Page.document.injEq, Json.obj.injEq, exists_eq_left']
        cases Fields.get? fields listing.name with
        | none => simp
        | some w => cases w <;> simp
      | _ => simp [apply_ite (· = Except.ok entries)]

theorem entry_eq_ok {a : α} :
    Corpus.entry sort listing.read v = .ok a ↔ listing.GivesEntry v a := by
  unfold Corpus.entry GivesEntry
  cases v with
  | obj fields =>
    simp only [Json.obj.injEq, exists_eq_left']
    cases listing.read fields with
    | ok b => simp
    | error flaw =>
      cases flaw with
      | fault f => simp [apply_ite (· = Except.ok a)]
      | _ => simp
  | _ => simp

theorem page_eq_ok {as : List α} :
    Corpus.page library listing.file listing.name sort listing.read = .ok as ↔
      listing.Gives library as := by
  simp only [Corpus.page, bind_eq_ok, entriesOf_eq_ok, mapM_eq_ok, entry_eq_ok, Gives]

end Listing

/-! ## Ids -/

/-- All ids are keys, and no two are the same key. -/
structure UniqueIds (ids : List Json) : Prop where
  keys : ∀ id ∈ ids, ∃ key, id.key? = some key
  nodup : (ids.map Json.key?).Nodup

/-- The ids up to one that cannot be a key are unique. -/
def IdsBreak (ids : List Json) (f : Fault) : Prop := FirstAfter UniqueIds (·.toKey = .error f) ids

section Ids

variable {ids : List Json} {id : Json} {seen : List Json.Key} {sort : String} {f : Fault}

/-- Ids that are unique and not among those seen before. -/
def Unseen (seen : List Json.Key) (ids : List Json) : Prop :=
  UniqueIds ids ∧ ∀ key ∈ seen, some key ∉ ids.map Json.key?

theorem unseen_nil_left : Unseen [] ids ↔ UniqueIds ids := and_iff_left nofun

theorem unseen_nil : Unseen seen [] := ⟨⟨nofun, List.nodup_nil⟩, fun _ _ => List.not_mem_nil⟩

theorem unseen_cons : Unseen seen (id :: ids) ↔
    ∃ key, id.key? = some key ∧ key ∉ seen ∧ Unseen (key :: seen) ids := by
  constructor
  · rintro ⟨⟨hkeys, hnodup⟩, hseen⟩
    obtain ⟨⟨key, hkey⟩, hkeys⟩ := List.forall_mem_cons.mp hkeys
    rw [List.map_cons, hkey] at hnodup hseen
    obtain ⟨hhead, hnodup⟩ := List.nodup_cons.mp hnodup
    exact ⟨key, hkey, fun h => hseen key h List.mem_cons_self, ⟨hkeys, hnodup⟩,
      List.forall_mem_cons.mpr ⟨hhead, fun k hk => List.not_mem_of_not_mem_cons (hseen k hk)⟩⟩
  · rintro ⟨key, hkey, hfresh, ⟨hkeys, hnodup⟩, hseen⟩
    obtain ⟨hhead, hseen⟩ := List.forall_mem_cons.mp hseen
    refine ⟨⟨List.forall_mem_cons.mpr ⟨⟨key, hkey⟩, hkeys⟩, ?_⟩, fun k hk => ?_⟩
    · rw [List.map_cons, hkey]
      exact List.nodup_cons.mpr ⟨hhead, hnodup⟩
    · rw [List.map_cons, hkey, List.mem_cons, not_or, Option.some.injEq]
      exact ⟨fun h => hfresh (h ▸ hk), hseen k hk⟩

theorem checkIds_eq_ok : Corpus.checkIds sort seen ids = .ok () ↔ Unseen seen ids := by
  induction ids generalizing seen with
  | nil => exact iff_of_true rfl unseen_nil
  | cons id ids ih =>
    rw [Corpus.checkIds, unseen_cons, Json.toKey]
    cases id.key? with
    | none => simp
    | some key =>
      simp only [Option.some.injEq, exists_eq_left', List.contains_iff_mem]
      split_ifs with hseen
      · exact iff_of_false nofun fun h => h.1 hseen
      · rw [ih, and_iff_right hseen]

end Ids

/-! ## Libraries -/

namespace Corpus

variable (library : Library)

/-- The four files give the entries of a corpus. -/
structure Given (corpus : Corpus) : Prop where
  relationships : Relationship.listing.Gives library corpus.relationships
  antiPatterns : AntiPattern.listing.Gives library corpus.antiPatterns
  failures : Failure.listing.Gives library corpus.failures
  blueprints : Blueprint.listing.Gives library corpus.blueprints

/-- A corpus has one entry for each that the files list, and unique ids of each sort. -/
structure Complete (corpus : Corpus) : Prop extends Given library corpus where
  relationship_ids : UniqueIds (corpus.relationships.map (·.id))
  antiPattern_ids : UniqueIds (corpus.antiPatterns.map (·.id))
  failure_ids : UniqueIds (corpus.failures.map (·.id))
  blueprint_ids : UniqueIds (corpus.blueprints.map (·.id))

/-- Loading ends in a fault: at one of the files, those in front of it being read, or at the ids of
one sort, those in front of them being unique. -/
inductive Breaks : Fault → Prop
  | relationships {f : Fault} (h : Relationship.listing.Breaks library f) : Breaks f
  | antiPatterns {f : Fault} {rs : List Relationship}
      (hrelationships : Relationship.listing.Gives library rs)
      (h : AntiPattern.listing.Breaks library f) : Breaks f
  | failures {f : Fault} {rs : List Relationship} {as : List AntiPattern}
      (hrelationships : Relationship.listing.Gives library rs)
      (hantiPatterns : AntiPattern.listing.Gives library as)
      (h : Failure.listing.Breaks library f) : Breaks f
  | blueprints {f : Fault} {rs : List Relationship} {as : List AntiPattern} {fs : List Failure}
      (hrelationships : Relationship.listing.Gives library rs)
      (hantiPatterns : AntiPattern.listing.Gives library as)
      (hfailures : Failure.listing.Gives library fs)
      (h : Blueprint.listing.Breaks library f) : Breaks f
  | relationshipIds {f : Fault} {corpus : Corpus} (hgiven : Given library corpus)
      (h : IdsBreak (corpus.relationships.map (·.id)) f) : Breaks f
  | antiPatternIds {f : Fault} {corpus : Corpus} (hgiven : Given library corpus)
      (hrelationships : UniqueIds (corpus.relationships.map (·.id)))
      (h : IdsBreak (corpus.antiPatterns.map (·.id)) f) : Breaks f
  | failureIds {f : Fault} {corpus : Corpus} (hgiven : Given library corpus)
      (hrelationships : UniqueIds (corpus.relationships.map (·.id)))
      (hantiPatterns : UniqueIds (corpus.antiPatterns.map (·.id)))
      (h : IdsBreak (corpus.failures.map (·.id)) f) : Breaks f
  | blueprintIds {f : Fault} {corpus : Corpus} (hgiven : Given library corpus)
      (hrelationships : UniqueIds (corpus.relationships.map (·.id)))
      (hantiPatterns : UniqueIds (corpus.antiPatterns.map (·.id)))
      (hfailures : UniqueIds (corpus.failures.map (·.id)))
      (h : IdsBreak (corpus.blueprints.map (·.id)) f) : Breaks f

variable {library} {f : Fault}

theorem checkIds_eq_ok_iff {sort : String} {ids : List Json} {u : Unit} :
    checkIds sort [] ids = .ok u ↔ UniqueIds ids := by
  rw [checkIds_eq_ok, unseen_nil_left]

theorem load_eq : load library = (do
    let corpus : Corpus := {
      relationships := ← page library Relationship.listing.file Relationship.listing.name
        "relationship" Relationship.listing.read
      antiPatterns := ← page library AntiPattern.listing.file AntiPattern.listing.name
        "anti-pattern" AntiPattern.listing.read
      failures := ← page library Failure.listing.file Failure.listing.name
        "failure scenario" Failure.listing.read
      blueprints := ← page library Blueprint.listing.file Blueprint.listing.name
        "pattern" Blueprint.listing.read }
    checkIds "relationship" [] (corpus.relationships.map (·.id))
    checkIds "anti-pattern" [] (corpus.antiPatterns.map (·.id))
    checkIds "failure" [] (corpus.failures.map (·.id))
    checkIds "pattern" [] (corpus.blueprints.map (·.id))
    return corpus) := rfl

theorem load_eq_ok {corpus : Corpus} : load library = .ok corpus ↔ Complete library corpus := by
  simp only [load_eq, bind_eq_ok, Listing.page_eq_ok, checkIds_eq_ok_iff, exists_const]
  constructor
  · rintro ⟨rs, hrs, as, has, fs, hfs, bs, hbs, hr, ha, hf, hb, ⟨⟩⟩
    exact ⟨⟨hrs, has, hfs, hbs⟩, hr, ha, hf, hb⟩
  · rintro ⟨⟨hrs, has, hfs, hbs⟩, hr, ha, hf, hb⟩
    exact ⟨_, hrs, _, has, _, hfs, _, hbs, hr, ha, hf, hb, rfl⟩

end Corpus

end NetSketch
