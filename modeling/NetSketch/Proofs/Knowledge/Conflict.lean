import NetSketch.Proofs.Knowledge.Advice
import NetSketch.Proofs.Knowledge.Loading

/-!
# What a type conflicts with

The index of a store holds a conflict under both of its types, and twice under a type that conflicts
with itself. A look-up of several types may find a conflict several times, from either side; of what
it finds, each id is kept once.

* `Relationship.conflictsOf`, **`Store.conflictsFor_ofCorpus`**: the conflicts of a type;
* `nodup_distinctIds`, `mem_distinctIds`: each id once;
* **`Store.mem_conflictsAmong`**: the conflicts of changed types with types that are there;
* `Warning.conflict?`, `Store.warnings_conflicts`: the conflicts that are warned of.
-/

namespace NetSketch

variable {corpus : Corpus} {store : Store} {rs found : List Relationship} {r : Relationship}
  {c : Component} {seen : List (Option Json.Key)} {present changed : List Component}
  {before : Option Spec} {after : Spec} {warnings : List Warning}

/-! ## The index -/

/-- A relationship as a conflict of a type, once for each end that has the type. -/
def Relationship.conflictsOf (r : Relationship) (c : Component) : List Relationship :=
  match r.relation with
  | .conflicts => (if c = r.source then [r] else []) ++ if c = r.target then [r] else []
  | .requires | .recommends | .enhances | .protects => []

theorem Relationship.mem_conflictsOf {r' : Relationship} : r ∈ r'.conflictsOf c ↔
    r = r' ∧ r'.relation = .conflicts ∧ (c = r'.source ∨ c = r'.target) := by
  unfold conflictsOf
  cases r'.relation with
  | conflicts =>
    simp only [List.mem_append, List.mem_ite_nil_right, List.mem_singleton, true_and]
    rw [← or_and_right, and_comm]
  | requires | recommends | enhances | protects => simp

namespace Store

theorem conflictsFor_learn : (store.learn r).conflictsFor c =
    store.conflictsFor c ++ r.conflictsOf c := by
  unfold learn conflictsFor Relationship.conflictsOf
  cases r.relation <;> dsimp only
  case conflicts => simp only [Index.get_add, List.append_assoc]
  case requires | recommends | enhances | protects => rw [List.append_nil]

/-- **The conflicts under a type are those that a scan of the corpus finds**, once for each end. -/
theorem conflictsFor_ofCorpus : (ofCorpus corpus).conflictsFor c =
    corpus.relationships.flatMap (·.conflictsOf c) :=
  foldl_learn (·.conflictsFor c) (fun _ _ => conflictsFor_learn) _

theorem mem_conflictsFor : r ∈ (ofCorpus corpus).conflictsFor c ↔
    r ∈ corpus.relationships ∧ r.relation = .conflicts ∧ (c = r.source ∨ c = r.target) := by
  simp only [conflictsFor_ofCorpus, List.mem_flatMap, Relationship.mem_conflictsOf]
  constructor
  · rintro ⟨r', hr', rfl, h⟩
    exact ⟨hr', h⟩
  · rintro ⟨hr, h⟩
    exact ⟨r, hr, rfl, h⟩

end Store

/-! ## Each id once -/

theorem unseenIds_sublist : (unseenIds seen found).Sublist found := by
  induction found generalizing seen with
  | nil => exact .slnil
  | cons r found ih =>
    rw [unseenIds]
    split_ifs
    · exact ih.cons r
    · exact ih.cons_cons r

theorem id_notMem_of_mem_unseenIds (h : r ∈ unseenIds seen found) : r.id.key? ∉ seen := by
  induction found generalizing seen with
  | nil => exact absurd h List.not_mem_nil
  | cons a found ih =>
    rw [unseenIds] at h
    split_ifs at h with hseen
    · exact ih h
    · rcases List.mem_cons.mp h with rfl | h
      · simpa using hseen
      · exact List.not_mem_of_not_mem_cons (ih h)

theorem nodup_unseenIds : ((unseenIds seen found).map (·.id.key?)).Nodup := by
  induction found generalizing seen with
  | nil => exact List.nodup_nil
  | cons r found ih =>
    rw [unseenIds]
    split_ifs
    · exact ih
    · refine List.nodup_cons.mpr ⟨fun h => ?_, ih⟩
      obtain ⟨a, ha, hsame⟩ := List.mem_map.mp h
      exact id_notMem_of_mem_unseenIds ha (hsame ▸ List.mem_cons_self)

/-- No id is left out but for one that was seen. -/
theorem exists_mem_unseenIds (h : r ∈ found) (hseen : r.id.key? ∉ seen) :
    ∃ a ∈ unseenIds seen found, a.id.key? = r.id.key? := by
  induction found generalizing seen with
  | nil => exact absurd h List.not_mem_nil
  | cons b found ih =>
    rw [unseenIds]
    by_cases hb : b.id.key? = r.id.key?
    · rw [if_neg (by simpa [hb] using hseen)]
      exact ⟨b, List.mem_cons_self, hb⟩
    · have hr : r ∈ found := (List.mem_cons.mp h).resolve_left fun e => hb (e ▸ rfl)
      split_ifs
      · exact ih hr hseen
      · have hunseen : r.id.key? ∉ b.id.key? :: seen :=
          List.not_mem_cons_of_ne_of_not_mem (Ne.symm hb) hseen
        obtain ⟨a, ha, hsame⟩ := ih hr hunseen
        exact ⟨a, List.mem_cons_of_mem _ ha, hsame⟩

theorem nodup_distinctIds : ((distinctIds found).map (·.id.key?)).Nodup := nodup_unseenIds

theorem mem_distinctIds (h : UniqueIds (rs.map (·.id))) (hfound : found ⊆ rs) :
    r ∈ distinctIds found ↔ r ∈ found := by
  refine ⟨fun hr => unseenIds_sublist.subset hr, fun hr => ?_⟩
  obtain ⟨a, ha, hsame⟩ : ∃ a ∈ distinctIds found, a.id.key? = r.id.key? :=
    exists_mem_unseenIds hr List.not_mem_nil
  have hnodup := h.nodup
  rw [List.map_map] at hnodup
  rwa [← List.inj_on_of_nodup_map hnodup (hfound (unseenIds_sublist.subset ha)) (hfound hr) hsame]

/-! ## Conflicts among types -/

namespace Store

/-- **The conflicts of changed types with types that are there**, whichever end has changed. -/
theorem mem_conflictsAmong (h : UniqueIds (corpus.relationships.map (·.id))) :
    r ∈ (ofCorpus corpus).conflictsAmong present changed ↔
      r ∈ corpus.relationships ∧ r.relation = .conflicts ∧
        (r.source ∈ changed ∧ r.target ∈ present ∨ r.target ∈ changed ∧ r.source ∈ present) := by
  rw [conflictsAmong, mem_distinctIds h]
  · simp only [List.mem_flatMap, List.mem_filter, List.contains_iff_mem, mem_conflictsFor]
    constructor
    · rintro ⟨c, hc, ⟨hr, hconflict, hend⟩, hother⟩
      refine ⟨hr, hconflict, ?_⟩
      unfold Relationship.other at hother
      split_ifs at hother with hsource
      · exact .inl ⟨hsource ▸ hc, hother⟩
      · exact .inr ⟨hend.resolve_left hsource ▸ hc, hother⟩
    · rintro ⟨hr, hconflict, ⟨hc, hother⟩ | ⟨hc, hother⟩⟩
      · exact ⟨r.source, hc, ⟨hr, hconflict, .inl rfl⟩, by simpa [Relationship.other] using hother⟩
      · refine ⟨r.target, hc, ⟨hr, hconflict, .inr rfl⟩, ?_⟩
        unfold Relationship.other
        split_ifs with hself
        · -- a type in conflict with itself
          rwa [hself]
        · exact hother
  · intro r hr
    obtain ⟨c, -, hr⟩ := List.mem_flatMap.mp hr
    exact (mem_conflictsFor.mp (List.mem_filter.mp hr).1).1

end Store

/-! ## Conflicts that are warned of -/

/-- The conflict that a warning tells of. -/
def Warning.conflict? : Warning → Option Relationship
  | conflict r => some r
  | antiPattern _ => none

theorem Warning.conflict?_eq_some {w : Warning} : w.conflict? = some r ↔ w = .conflict r := by
  cases w <;> simp [conflict?]

theorem Store.warnings_conflicts (h : store.warnings after changed before = .ok warnings) :
    warnings.filterMap (·.conflict?) =
      store.conflictsAmong after.types (Component.sorted changed) := by
  obtain ⟨brought, -, h⟩ := bind_eq_ok.mp h
  obtain rfl := Except.ok.inj h
  rw [List.filterMap_append, List.filterMap_map, List.filterMap_map]
  simp [Function.comp_def, Warning.conflict?]

end NetSketch
