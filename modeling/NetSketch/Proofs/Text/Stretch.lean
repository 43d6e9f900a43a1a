import Mathlib.Logic.Relation
import Mathlib.Tactic.SplitIfs
import NetSketch.Text.Pattern

/-!
# The stretch of a piece

Between the place where a piece of a pattern begins and a place where it ends lies a stretch of the
text. Of a pattern alone one can tell how long its pieces are at least, and of some that their
pieces need a character outside of ASCII.

* `Place.Reads`: the characters between two places;
* `Pattern.least`, **`Pattern.exists_reads`**: the stretch of a piece, and its least length;
* `Pattern.foreign`, **`Pattern.ends_eq_nil_of_foreign`**: patterns without pieces in ASCII texts;
* `Pattern.exists_of_find`: where a match lies.
-/

open Relation (ReflTransGen)

namespace NetSketch.Text

/-- Some characters are read from one place to another. -/
structure Place.Reads (a : Place) (piece : List Char) (b : Place) : Prop where
  after : a.after = piece ++ b.after
  before : b.before = piece.reverse ++ a.before
  index : b.index = a.index + piece.length

namespace Place.Reads

variable {a b c : Place} {u v : List Char}

theorem refl (a : Place) : a.Reads [] a := ⟨rfl, rfl, rfl⟩

theorem trans (h : a.Reads u b) (h' : b.Reads v c) : a.Reads (u ++ v) c where
  after := by rw [h.after, h'.after, List.append_assoc]
  before := by rw [h'.before, h.before, List.reverse_append, List.append_assoc]
  index := by rw [h'.index, h.index, List.length_append, Nat.add_assoc]

theorem one {before rest : List Char} {d : Char} {index : Nat} {groups : List (Nat × Nat × Nat)} :
    Reads ⟨before, d :: rest, index, groups⟩ [d] ⟨d :: before, rest, index + 1, groups⟩ :=
  ⟨rfl, rfl, rfl⟩

end Place.Reads

namespace Pattern

variable {ignoreCase : Bool} {p : Pattern} {a b : Place} {row : List Char} {others : List Place}

/-! ## Lengths -/

/-- How many characters a piece has at least. -/
def least : Pattern → Nat
  | chars row => row.length
  | one _ => 1
  | seq p q => p.least + q.least
  | alt p q => min p.least q.least
  | group _ p => p.least
  | many .. | start | finish | wordEdge | notAfter _ | ahead _ | notAhead _ => 0

theorem exists_reads_of_skipText (h : skipText ignoreCase row a = some b) :
    ∃ piece, a.Reads piece b ∧ piece.map (seen ignoreCase) = row := by
  induction row generalizing a with
  | nil =>
    obtain rfl := Option.some.inj h
    exact ⟨[], .refl a, rfl⟩
  | cons d row ih =>
    obtain ⟨before, after, index, groups⟩ := a
    cases after with
    | nil => cases h
    | cons c rest =>
      rw [skipText] at h
      dsimp only at h
      split_ifs at h with hcd
      obtain ⟨piece, hreads, hrow⟩ := ih h
      refine ⟨c :: piece, Place.Reads.one.trans hreads, ?_⟩
      rw [List.map_cons, hrow, beq_iff_eq.mp hcd]

theorem reflTransGen_of_mem_rows {step : Place → List Place} {longest : Bool} {most : Nat}
    (h : b ∈ rows step longest most a others) :
    b ∈ others ∨ ReflTransGen (fun a b => b ∈ step a) a b := by
  induction most generalizing a others with
  | zero =>
    rcases List.mem_cons.mp h with rfl | h
    · exact .inr .refl
    · exact .inl h
  | succ most ih =>
    have further {l others : List Place} (hl : l ⊆ step a) (h : b ∈ l.foldr (fun next others =>
        if a.index < next.index then rows step longest most next others else others) others) :
        b ∈ others ∨ ReflTransGen (fun a b => b ∈ step a) a b := by
      induction l with
      | nil => exact .inl h
      | cons next l ihl =>
        obtain ⟨hnext, hl⟩ := List.cons_subset.mp hl
        rw [List.foldr_cons] at h
        split_ifs at h
        · exact (ih h).elim (ihl hl) fun h => .inr (.head hnext h)
        · exact ihl hl h
    rw [rows] at h
    split_ifs at h
    · rcases further (List.Subset.refl _) h with h | h
      · rcases List.mem_cons.mp h with rfl | h
        · exact .inr .refl
        · exact .inl h
      · exact .inr h
    · rcases List.mem_cons.mp h with rfl | h
      · exact .inr .refl
      · exact further (List.Subset.refl _) h

theorem exists_reads_of_mem_self (h : b ∈ [a]) : ∃ piece, a.Reads piece b ∧ 0 ≤ piece.length :=
  ⟨[], List.mem_singleton.mp h ▸ .refl a, Nat.zero_le _⟩

/-- **Between the ends of a piece lies a stretch of the text** of at least the least length. -/
theorem exists_reads (h : b ∈ ends ignoreCase p a) :
    ∃ piece, a.Reads piece b ∧ p.least ≤ piece.length := by
  induction p generalizing a b with
  | chars row =>
    obtain ⟨piece, hreads, hrow⟩ := exists_reads_of_skipText (Option.mem_toList.mp h)
    exact ⟨piece, hreads, Nat.le_of_eq (by rw [least, ← hrow, List.length_map])⟩
  | one set =>
    obtain ⟨before, after, index, groups⟩ := a
    cases after with
    | nil => cases h
    | cons c rest =>
      rw [ends] at h
      dsimp only at h
      split_ifs at h
      · obtain rfl := List.mem_singleton.mp h
        exact ⟨[c], .one, Nat.le_refl 1⟩
      · cases h
  | seq p q ihp ihq =>
    obtain ⟨c, hc, hb⟩ := List.mem_flatMap.mp h
    obtain ⟨u, hu, hlu⟩ := ihp hc
    obtain ⟨v, hv, hlv⟩ := ihq hb
    refine ⟨u ++ v, hu.trans hv, ?_⟩
    rw [least, List.length_append]
    exact Nat.add_le_add hlu hlv
  | alt p q ihp ihq =>
    rcases List.mem_append.mp h with h | h
    · obtain ⟨piece, hreads, hlength⟩ := ihp h
      exact ⟨piece, hreads, Nat.le_trans (Nat.min_le_left _ _) hlength⟩
    · obtain ⟨piece, hreads, hlength⟩ := ihq h
      exact ⟨piece, hreads, Nat.le_trans (Nat.min_le_right _ _) hlength⟩
  | many p longest ih =>
    have hsteps := (reflTransGen_of_mem_rows h).resolve_left List.not_mem_nil
    clear h
    induction hsteps with
    | refl => exact ⟨[], .refl a, Nat.zero_le _⟩
    | tail _ hstep ihsteps =>
      obtain ⟨u, hu, -⟩ := ihsteps
      obtain ⟨v, hv, -⟩ := ih hstep
      exact ⟨u ++ v, hu.trans hv, Nat.zero_le _⟩
  | group number p ih =>
    obtain ⟨c, hc, rfl⟩ := List.mem_map.mp h
    obtain ⟨piece, hreads, hlength⟩ := ih hc
    exact ⟨piece, ⟨hreads.after, hreads.before, hreads.index⟩, hlength⟩
  | start | finish | wordEdge | notAhead _ =>
    exact exists_reads_of_mem_self (List.mem_ite_nil_right.mp h).2
  | ahead _ | notAfter _ => exact exists_reads_of_mem_self (List.mem_ite_nil_left.mp h).2

/-! ## Characters outside of ASCII -/

/-- Only ASCII characters. -/
def IsAscii (l : List Char) : Prop := ∀ c ∈ l, c.toNat < 128

instance (l : List Char) : Decidable (IsAscii l) :=
  -- there are only finitely many characters, but too many to go through
  List.decidableBAll (fun c : Char => c.toNat < 128) l

theorem seen_lt {c : Char} (h : c.toNat < 128) : (seen true c).toNat < 128 := by
  have hall : ∀ n : Fin 128, (foldLetter (Char.ofNat n)).toNat < 128 := by decide
  have hc := hall ⟨c.toNat, h⟩
  rwa [Char.ofNat_toNat] at hc

/-- Whether a piece needs a character outside of ASCII: it has one, or one follows it. -/
def foreign : Pattern → Bool
  | chars row => row.any fun c => 128 ≤ c.toNat
  | one set => (List.range 128).all fun n => !set.admits (seen true (Char.ofNat n))
  | seq p q => p.foreign || q.foreign
  | alt p q => p.foreign && q.foreign
  | group _ p | ahead p => p.foreign
  | many .. | start | finish | wordEdge | notAfter _ | notAhead _ => false

/-- **A foreign pattern has no piece in a text of ASCII characters.** -/
theorem ends_eq_nil_of_foreign (hp : p.foreign = true) (ha : IsAscii a.after) :
    ends true p a = [] := by
  induction p generalizing a with
  | chars row =>
    refine List.eq_nil_iff_forall_not_mem.mpr fun b hb => ?_
    obtain ⟨piece, hreads, hrow⟩ := exists_reads_of_skipText (Option.mem_toList.mp hb)
    rw [foreign, ← hrow, List.any_map, List.any_eq_true] at hp
    obtain ⟨c, hc, hlarge⟩ := hp
    have hsmall := seen_lt (ha c (hreads.after ▸ List.mem_append_left _ hc))
    exact absurd (of_decide_eq_true hlarge) (Nat.not_le.mpr hsmall)
  | one set =>
    obtain ⟨before, after, index, groups⟩ := a
    cases after with
    | nil => rfl
    | cons c rest =>
      have hc := List.all_eq_true.mp hp c.toNat (List.mem_range.mpr (ha c List.mem_cons_self))
      rw [Char.ofNat_toNat, Bool.not_eq_true'] at hc
      rw [ends]
      dsimp only
      rw [if_neg (by rw [hc]; exact Bool.false_ne_true)]
  | seq p q ihp ihq =>
    rw [ends]
    rcases Bool.or_eq_true_iff.mp hp with hp | hq
    · rw [ihp hp ha, List.flatMap_nil]
    · refine List.flatMap_eq_nil_iff.mpr fun b hb => ihq hq fun c hc => ?_
      obtain ⟨piece, hreads, -⟩ := exists_reads hb
      exact ha c (hreads.after ▸ List.mem_append_right _ hc)
  | alt p q ihp ihq =>
    obtain ⟨hp, hq⟩ := Bool.and_eq_true_iff.mp hp
    rw [ends, ihp hp ha, ihq hq ha, List.append_nil]
  | group number p ih => rw [ends, ih hp ha, List.map_nil]
  | ahead p ih => rw [ends, ih hp ha, List.isEmpty_nil, if_pos rfl]
  | many | start | finish | wordEdge | notAfter | notAhead => cases hp

/-! ## Matches -/

theorem exists_of_findFrom {step : Place → Option Place} {before l : List Char} {index : Nat}
    {m : Match} (h : findFrom step before index l = some m) : ∃ u v, l = u ++ v ∧
      m.start = index + u.length ∧ step ⟨u.reverse ++ before, v, m.start, []⟩ = some m.stop := by
  induction l generalizing before index with
  | nil =>
    obtain ⟨stop, hstop, rfl⟩ := Option.map_eq_some_iff.mp h
    exact ⟨[], [], rfl, rfl, hstop⟩
  | cons c l ih =>
    rw [findFrom] at h
    split at h
    · rename_i stop hstop
      obtain rfl := Option.some.inj h
      exact ⟨[], c :: l, rfl, rfl, hstop⟩
    · obtain ⟨u, v, rfl, hstart, hstop⟩ := ih h
      refine ⟨c :: u, v, rfl, ?_, ?_⟩
      · rw [hstart, List.length_cons, Nat.add_assoc, Nat.add_comm 1]
      · rwa [List.reverse_cons, List.append_assoc]

/-- **A match lies between two parts of the text**, and its piece ends where it does. -/
theorem exists_of_find {s : String} {m : Match} (h : p.find ignoreCase s = some m) :
    ∃ before piece after, s.toList = before ++ (piece ++ after) ∧ m.start = before.length ∧
      m.finish = before.length + piece.length ∧ p.least ≤ piece.length ∧ m.stop.after = after ∧
      m.stop ∈ ends ignoreCase p ⟨before.reverse, piece ++ after, before.length, []⟩ := by
  obtain ⟨before, rest, htext, hstart, hstop⟩ := exists_of_findFrom h
  rw [Nat.zero_add] at hstart
  rw [List.append_nil, hstart, run_eq_findSome?_ends] at hstop
  obtain ⟨stop, hmem, heq⟩ := List.exists_of_findSome?_eq_some hstop
  obtain rfl := Option.some.inj heq
  obtain ⟨piece, hreads, hleast⟩ := exists_reads hmem
  refine ⟨before, piece, m.stop.after, ?_, hstart, hreads.index, hleast, rfl, ?_⟩
  · rw [htext, ← hreads.after]
  · rwa [← hreads.after]

end Pattern

end NetSketch.Text
