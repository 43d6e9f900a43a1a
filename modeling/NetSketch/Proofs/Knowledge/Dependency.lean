import Mathlib.Tactic.SplitIfs
import NetSketch.Knowledge.Bundled.Corpus

/-!
# What a type depends on

The index of a store holds under every type what a scan of the corpus finds for it, in the same
order.

* `Index.get_add`: an entry added to an index;
* `Store.foldl_learn`: what a look-up finds after relationships that add to it;
* `Relationship.dependenciesOf`, **`Store.dependenciesFor_ofCorpus`**: what a type depends on;
* `Store.mem_mandatoryFor`: what it cannot do without;
* `Corpus.Sure`, `Store.Sure`: no mandatory dependency is held back for want of confidence.
-/

namespace NetSketch

/-! ## Indexes -/

namespace Index

variable {α : Type} {c d : Component} {a : α}

theorem get_cons {as : List α} {rest : Index α} :
    get ((d, as) :: rest) c = if c = d then as else get rest c := by
  unfold get
  rw [List.lookup_cons]
  by_cases h : c = d
  · rw [if_pos h, beq_iff_eq.mpr h]
    rfl
  · rw [if_neg h, beq_eq_false_iff_ne.mpr h]

theorem get_add {index : Index α} :
    get (index.add d a) c = get index c ++ if c = d then [a] else [] := by
  induction index with
  | nil => rw [add, get_cons]; rfl
  | cons entry rest ih =>
    obtain ⟨e, as⟩ := entry
    rw [add]
    by_cases hed : e = d
    · rw [if_pos hed, get_cons, get_cons, hed]
      split_ifs
      · rfl
      · rw [List.append_nil]
    · rw [if_neg hed, get_cons, get_cons, ih]
      by_cases hce : c = e
      · rw [if_pos hce, if_pos hce, if_neg (hce ▸ hed), List.append_nil]
      · rw [if_neg hce, if_neg hce]

end Index

/-! ## Dependencies -/

/-- What a type depends on by a relationship: one that requires or recommends another on that one,
one that is enhanced on what enhances it. -/
def Relationship.dependenciesOf (r : Relationship) (c : Component) : List Dependency :=
  match r.relation with
  | .requires | .recommends =>
    (if c = r.source then [(r, r.target)] else []) ++
      if r.direction = .bidirectional ∧ c = r.target then [(r, r.source)] else []
  | .enhances => if c = r.target then [(r, r.source)] else []
  | .conflicts | .protects => []

theorem Relationship.fst_of_mem_dependenciesOf {r : Relationship} {c : Component} {d : Dependency} :
    d ∈ r.dependenciesOf c → d.1 = r := by
  unfold dependenciesOf
  cases r.relation <;> simp only [List.mem_append, List.mem_ite_nil_right, List.mem_singleton]
  case requires | recommends => rintro (⟨-, rfl⟩ | ⟨-, rfl⟩) <;> rfl
  case enhances => rintro ⟨-, rfl⟩; rfl
  case conflicts | protects => exact fun h => absurd h List.not_mem_nil

namespace Store

variable {store : Store} {corpus : Corpus} {r : Relationship} {c needed : Component}

theorem dependenciesFor_learn : (store.learn r).dependenciesFor c =
    store.dependenciesFor c ++ r.dependenciesOf c := by
  unfold learn dependenciesFor Relationship.dependenciesOf
  cases r.relation <;> dsimp only
  case requires | recommends =>
    by_cases hdirection : r.direction = .bidirectional
    · simp only [hdirection, if_true, true_and, Index.get_add, List.append_assoc]
    · simp only [hdirection, if_false, false_and, Index.get_add, List.append_nil]
  case enhances => rw [Index.get_add]
  case conflicts | protects => rw [List.append_nil]

/-- A look-up to which every relationship adds its own finds after some of them what it found before
and what they add, in order. -/
theorem foldl_learn {β : Type} (look : Store → List β) {own : Relationship → List β}
    (hlearn : ∀ store r, look (learn store r) = look store ++ own r) (rs : List Relationship) :
    look (rs.foldl learn store) = look store ++ rs.flatMap own := by
  induction rs generalizing store with
  | nil => exact (List.append_nil _).symm
  | cons r rs ih => rw [List.foldl_cons, ih, hlearn, List.flatMap_cons, List.append_assoc]

/-- **The dependencies under a type are those that a scan of the corpus finds.** -/
theorem dependenciesFor_ofCorpus : (ofCorpus corpus).dependenciesFor c =
    corpus.relationships.flatMap (·.dependenciesOf c) :=
  foldl_learn (·.dependenciesFor c) (fun _ _ => dependenciesFor_learn) _

theorem mem_mandatoryFor : needed ∈ store.mandatoryFor c ↔
    ∃ r, (r, needed) ∈ store.dependenciesFor c ∧ r.isMandatory = true := by
  simp [mandatoryFor]

theorem mem_corpus_of_mem_dependenciesFor (h : (r, needed) ∈ (ofCorpus corpus).dependenciesFor c) :
    r ∈ corpus.relationships := by
  rw [dependenciesFor_ofCorpus] at h
  obtain ⟨r', hr', h⟩ := List.mem_flatMap.mp h
  obtain rfl : r = r' := Relationship.fst_of_mem_dependenciesOf h
  exact hr'

end Store

/-! ## Sure dependencies -/

/-- No mandatory relationship has a confidence below one half. -/
def Corpus.Sure (corpus : Corpus) : Prop :=
  ∀ r ∈ corpus.relationships, r.isMandatory = true →
    r.confidence.lt (.ofDecimal false 5 (-1)) = false

/-- No mandatory dependency has a confidence below one half. -/
def Store.Sure (store : Store) : Prop :=
  ∀ c r needed, (r, needed) ∈ store.dependenciesFor c → r.isMandatory = true →
    r.confidence.lt (.ofDecimal false 5 (-1)) = false

theorem Corpus.Sure.store {corpus : Corpus} (h : corpus.Sure) : (Store.ofCorpus corpus).Sure :=
  fun _ r _ hr => h r (Store.mem_corpus_of_mem_dependenciesFor hr)

theorem Corpus.bundled_sure : bundled.Sure := by
  unfold Corpus.Sure
  decide +kernel

theorem Store.bundled_sure : bundled.Sure := Corpus.bundled_sure.store

end NetSketch
