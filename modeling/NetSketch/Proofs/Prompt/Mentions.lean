import NetSketch.Proofs.Prompt.Naming
import NetSketch.Proofs.Text.Stretch

/-!
# Mentions in texts of ASCII characters

A Korean name needs a Korean character, so that a text of ASCII characters names types by their
Latin names only. Such a name is not empty, and no letter or digit stands next to it: no type is
mentioned inside of another word.

* `mem_ends_firstOf`, `mem_ends_alone`, `latin_admits`: where names end;
* `nameRules_latin`, `nameRules_korean`: what the table of names has to bring along;
* `Mention.StandsApart`, `standsApart_of_find`: a name by itself in a text;
* `perm_types_mentions`, `pairwise_mentions`; **`mentions_stand_apart`**: the mentions of a text.
-/

namespace NetSketch.Prompt

open Text Text.Pattern

variable {ignoreCase : Bool} {p : Pattern} {ps : List Pattern} {a b : Place} {text : String}
  {r : NameRule}

/-! ## Ends of names -/

theorem mem_ends_firstOf :
    b ∈ ends ignoreCase (firstOf ps) a ↔ ∃ p ∈ ps, b ∈ ends ignoreCase p a := by
  induction ps with
  | nil =>
    obtain ⟨before, after, index, groups⟩ := a
    cases after <;> simp [firstOf, ends, CharSet.admits]
  | cons p rest ih =>
    cases rest with
    | nil => simp [firstOf]
    | cons q rest =>
      rw [firstOf, ends, List.mem_append, ih]
      simp only [List.mem_cons, exists_eq_or_imp]

theorem mem_ends_alone : b ∈ ends true (alone p) a ↔ b ∈ ends true p a ∧
    (∀ c ∈ a.before.head?, latin.admits (foldLetter c) = false) ∧
      ∀ c ∈ b.after.head?, latin.admits (foldLetter c) = false := by
  have hbefore : endsWith true [latin] a.before = true ↔
      ¬ ∀ c ∈ a.before.head?, latin.admits (foldLetter c) = false := by
    cases a.before <;> simp [endsWith, seen]
  have hafter (next : Place) : (ends true (one latin) next).isEmpty = true ↔
      ∀ c ∈ next.after.head?, latin.admits (foldLetter c) = false := by
    obtain ⟨before, after, index, groups⟩ := next
    cases after <;> simp [ends, seen]
  change b ∈ List.flatMap (ends true (notAhead (one latin)))
    (List.flatMap (ends true p) (if endsWith true [latin] a.before then [] else [a])) ↔ _
  have hends (next : Place) : b ∈ ends true (notAhead (one latin)) next ↔
      (ends true (one latin) next).isEmpty = true ∧ b = next := by
    change b ∈ (if (ends true (one latin) next).isEmpty then [next] else []) ↔ _
    rw [List.mem_ite_nil_right, List.mem_singleton]
  split_ifs with hfront
  · simp only [List.flatMap_nil, List.not_mem_nil, false_iff]
    exact fun h => hbefore.mp hfront h.2.1
  · rw [List.flatMap_singleton, List.mem_flatMap]
    simp only [hends, hafter]
    constructor
    · rintro ⟨_, hb, hclosed, rfl⟩
      exact ⟨hb, not_not.mp (mt hbefore.mpr hfront), hclosed⟩
    · rintro ⟨hb, -, hclosed⟩
      exact ⟨b, hb, hclosed, rfl⟩

theorem latin_admits {c : Char} (h : c.isAlphanum = true) : latin.admits (foldLetter c) = true := by
  have hall : ∀ n : Fin 128, (Char.ofNat n).isAlphanum = true →
      latin.admits (foldLetter (Char.ofNat n)) = true := by decide
  have hsmall {d : Char} (hd : d.toNat < 128) (h : c.val ≤ d.val) : c.toNat < 128 :=
    Nat.lt_of_le_of_lt (UInt32.le_iff_toNat_le.mp h) hd
  have hc : c.toNat < 128 := by
    rcases Bool.or_eq_true_iff.mp h with hletter | hdigit
    · rcases Bool.or_eq_true_iff.mp hletter with hupper | hlower
      · exact hsmall (by decide) (of_decide_eq_true hupper).2
      · exact hsmall (by decide) (of_decide_eq_true (Bool.and_eq_true_iff.mp hlower).2)
    · exact hsmall (by decide) (of_decide_eq_true (Bool.and_eq_true_iff.mp hdigit).2)
  have := hall ⟨c.toNat, hc⟩
  rw [Char.ofNat_toNat] at this
  exact this h

/-! ## Names in a text -/

theorem nameRules_latin : ∀ r ∈ nameRules, ∀ p ∈ r.latin, 0 < p.least := by decide

/-- Every Korean name has a character outside of ASCII, or asks for one behind it. -/
theorem nameRules_korean : ∀ r ∈ nameRules, ∀ p ∈ r.korean, p.foreign = true := by decide

/-- A mention stands apart in a text: it is a part of it that is not empty, and no letter or digit
is next to it. -/
structure Mention.StandsApart (l : List Char) (m : Mention) : Prop where
  start_lt : m.start < m.finish
  finish_le : m.finish ≤ l.length
  front : ∀ c ∈ (l.take m.start).getLast?, c.isAlphanum = false
  behind : ∀ c ∈ (l.drop m.finish).head?, c.isAlphanum = false

/-- **The name of a type stands apart** in a text of ASCII characters. -/
theorem standsApart_of_find (hr : r ∈ nameRules) (htext : IsAscii text.toList) {m : Match}
    (h : r.pattern.find true text = some m) :
    Mention.StandsApart text.toList ⟨r.type, m.start, m.finish⟩ := by
  obtain ⟨before, piece, after, hsplit, hstart, hfinish, -, hafter, hend⟩ := exists_of_find h
  have hplain {c : Char} (hc : latin.admits (foldLetter c) = false) : c.isAlphanum = false :=
    Bool.eq_false_iff.mpr fun h => Bool.false_ne_true (hc.symm.trans (latin_admits h))
  obtain ⟨p, hp, hend⟩ := mem_ends_firstOf.mp hend
  rcases List.mem_append.mp hp with hp | hp
  · obtain ⟨p, hlatin, rfl⟩ := List.mem_map.mp hp
    obtain ⟨hend, hfront, hbehind⟩ := mem_ends_alone.mp hend
    obtain ⟨piece', hreads, hleast⟩ := exists_reads hend
    obtain rfl : piece = piece' := List.append_cancel_right (hreads.after.trans (by rw [hafter]))
    have hlength : 0 < piece.length := Nat.lt_of_lt_of_le (nameRules_latin r hr p hlatin) hleast
    rw [List.head?_reverse] at hfront
    rw [hafter] at hbehind
    refine ⟨?_, ?_, fun c hc => hplain (hfront c ?_), fun c hc => hplain (hbehind c ?_)⟩
    · dsimp only
      omega
    · dsimp only
      rw [hsplit, List.length_append, List.length_append]
      omega
    · rwa [hsplit, hstart, List.take_left] at hc
    · rwa [hsplit, hfinish, ← List.append_assoc, ← List.length_append, List.drop_left] at hc
  · -- no Korean name is in the text
    have hascii : IsAscii (piece ++ after) := fun c hc =>
      htext c (hsplit ▸ List.mem_append_right before hc)
    rw [ends_eq_nil_of_foreign (nameRules_korean r hr p hp) hascii] at hend
    cases hend

/-! ## The mentions of a text -/

theorem perm_types_mentions (text : String) :
    ((mentions text).map (·.type)).Perm (allNamed text) := by
  refine ((List.mergeSort_perm _ _).map _).trans (List.Perm.of_eq ?_)
  rw [allNamed]
  induction nameRules with
  | nil => rfl
  | cons r rules ih =>
    rw [List.filterMap_cons, List.filter_cons, NameRule.holds, occurs]
    cases r.pattern.find true text with
    | none => exact ih
    | some m => exact congrArg (r.type :: ·) ih

theorem pairwise_mentions (text : String) : (mentions text).Pairwise fun k m =>
    k.start < m.start ∨ k.start = m.start ∧ m.finish ≤ k.finish := by
  have hle (k m : Mention) :
      k.le m = true ↔ k.start < m.start ∨ k.start = m.start ∧ m.finish ≤ k.finish := by
    simp [Mention.le]
  have htrans (k m n : Mention) : k.le m = true → m.le n = true → k.le n = true := by
    simp only [hle]
    omega
  have htotal (k m : Mention) : (k.le m || m.le k) = true := by
    simp only [Bool.or_eq_true, hle]
    omega
  have hsorted : (mentions text).Pairwise fun k m => k.le m = true :=
    List.pairwise_mergeSort htrans htotal _
  exact hsorted.imp fun h => (hle _ _).mp h

/-- **In a text of ASCII characters no type is mentioned inside of a word.** The types that it names
are mentioned once each, in the order of the text, and every mention stands apart. -/
theorem mentions_stand_apart (h : IsAscii text.toList) :
    ((mentions text).map (·.type)).Nodup ∧
      (∀ type, type ∈ (mentions text).map (·.type) ↔ type ∈ allNamed text) ∧
      ((mentions text).Pairwise fun k m =>
        k.start < m.start ∨ k.start = m.start ∧ m.finish ≤ k.finish) ∧
      ∀ m ∈ mentions text, m.StandsApart text.toList := by
  refine ⟨nodup_types_mentions text, fun type => (perm_types_mentions text).mem_iff,
    pairwise_mentions text, fun m hm => ?_⟩
  obtain ⟨r, hr, hm⟩ := List.mem_filterMap.mp ((List.mergeSort_perm _ _).mem_iff.mp hm)
  obtain ⟨found, hfound, rfl⟩ := Option.map_eq_some_iff.mp hm
  exact standsApart_of_find hr h hfound

/-- A firewall of web applications, and no directory inside of the last word. -/
theorem mentions_stand_apart_gate : IsAscii "add a WAF, load: 3 VMs".toList ∧
    mentions "add a WAF, load: 3 VMs" = [⟨.waf, 6, 9⟩, ⟨.vm, 19, 22⟩] ∧
    ∀ m ∈ mentions "add a WAF, load: 3 VMs",
      m.StandsApart "add a WAF, load: 3 VMs".toList := by
  have hascii : IsAscii "add a WAF, load: 3 VMs".toList := by decide
  have hmentions : mentions "add a WAF, load: 3 VMs" = [⟨.waf, 6, 9⟩, ⟨.vm, 19, 22⟩] :=
    mentions_eq (by decide +kernel) (by decide)
  exact ⟨hascii, hmentions, (mentions_stand_apart hascii).2.2.2⟩

end NetSketch.Prompt
