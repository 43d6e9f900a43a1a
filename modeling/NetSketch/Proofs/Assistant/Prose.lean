import Mathlib.Data.List.DropRight
import NetSketch.Proofs.Assistant.Search
import NetSketch.Proofs.Json.Braces

/-!
# An object inside prose

An object is found in whatever prose surrounds it: bare, if there is no fence, or between fences.
The prose in front of it holds no bracket that opens a value.

* `Json.ObjectText`, `Json.Embeds`: the text of an object, and the texts that it stands in;
* `Json.Over`: candidates that are passed over, among them whatever does not open with a bracket;
* `Json.candidates_eq`: nothing but a candidate that is passed over is tried before the object;
* **`Intent.inText_of_embeds`**: the object is found first, and its intent is the answer's.
-/

namespace NetSketch

namespace Json

open Text Number

/-! ## Ends of a text -/

section Ends

variable {b l r : List Char} {c : Char}

theorem rdropWhile_append_last {p : Char → Bool} (hc : p c = false) :
    (l ++ [c] ++ r).rdropWhile p = l ++ [c] ++ r.rdropWhile p := by
  induction r using List.reverseRecOn with
  | nil => simp [hc]
  | append_singleton r d ih =>
    rw [← List.append_assoc]
    by_cases hd : p d = true
    · rw [List.rdropWhile_concat_pos _ _ _ hd, List.rdropWhile_concat_pos _ _ _ hd, ih]
    · rw [List.rdropWhile_concat_neg _ _ _ hd, List.rdropWhile_concat_neg _ _ _ hd,
        List.append_assoc]

theorem dropWhile_append_cons {p : Char → Bool} (hb : ∀ d ∈ b, p d = true) (hc : p c = false) :
    (b ++ c :: l).dropWhile p = c :: l := by
  rw [List.dropWhile_append_of_pos hb, List.dropWhile_cons_of_neg (by simp [hc])]

theorem trimChars_eq (cs : List Char) :
    trimChars cs = (cs.dropWhile isBlank).rdropWhile isBlank := rfl

/-- Blanks in front of a text are cut off, and what begins with no blank keeps its first
character. -/
theorem trimChars_append_cons (hb : ∀ d ∈ b, isBlank d = true) (hc : isBlank c = false) :
    trimChars (b ++ c :: l) = c :: l.rdropWhile isBlank := by
  rw [trimChars_eq, dropWhile_append_cons hb hc]
  exact rdropWhile_append_last (l := []) hc

theorem isBlank_of_isSpace (h : isSpace c = true) : isBlank c = true := by
  simp only [isSpace, Bool.or_eq_true, beq_iff_eq] at h
  rcases h with ((rfl | rfl) | rfl) | rfl <;> decide

end Ends

/-! ## Candidates that are passed over -/

section Candidates

variable {cs : List Char} {depth steps : Nat} {v : Json}

theorem readChars_eq_ok : readChars depth cs = .ok v ↔
    ∃ rest, readValue (cs.length + 1) depth (skipSpace cs) = .ok (v, rest) ∧
      skipSpace rest = [] := by
  unfold readChars
  rw [bind_eq_ok]
  constructor
  · rintro ⟨⟨w, rest⟩, hvalue, h⟩
    dsimp only at h
    split_ifs at h with hrest
    cases h
    exact ⟨rest, hvalue, List.isEmpty_iff.mp hrest⟩
  · rintro ⟨rest, hvalue, hrest⟩
    exact ⟨(v, rest), hvalue, by simp [hrest, pure, Except.pure]⟩

theorem readChars_eq_tooDeep : readChars depth cs = .error .tooDeep ↔
    readValue (cs.length + 1) depth (skipSpace cs) = .error .tooDeep := by
  unfold readChars
  rw [bind_eq_error]
  refine or_iff_left ?_
  rintro ⟨⟨w, rest⟩, -, h⟩
  dsimp only at h
  split_ifs at h
  · cases h
  · cases Except.error.inj h

/-- A candidate that is no object and not nested too deeply. -/
def Over (cs : List Char) : Prop :=
  (∀ fields, readChars nestingLimit cs ≠ .ok (.obj fields)) ∧
    readChars nestingLimit cs ≠ .error .tooDeep

theorem Over.objectsAmong_cons (h : Over cs) (rest : List (List Char)) :
    objectsAmong (cs :: rest) = objectsAmong rest := by
  rw [objectsAmong]
  split
  · exact absurd ‹_› (h.1 _)
  · exact absurd ‹_› h.2
  · rfl

/-- What is read is no object, and nothing in it is nested too deeply. -/
def Flat (r : Except ReadFault (Json × List Char)) : Prop :=
  (∀ fields rest, r ≠ .ok (.obj fields, rest)) ∧ r ≠ .error .tooDeep

theorem Flat.over (h : Flat (readValue (cs.length + 1) nestingLimit (skipSpace cs))) :
    Over cs := by
  refine ⟨fun fields hread => ?_, mt readChars_eq_tooDeep.mp h.2⟩
  obtain ⟨rest, hvalue, -⟩ := readChars_eq_ok.mp hread
  exact h.1 fields rest hvalue

theorem readCodes_ne_tooDeep : readCodes cs ≠ .error .tooDeep := by
  fun_induction readCodes cs with
  | case4 _ _ _ _ _ _ _ ih | case6 _ _ _ _ _ ih | case8 _ _ _ _ _ _ ih =>
    intro h
    rcases bind_eq_error.mp h with h | ⟨_, _, h⟩
    · exact ih h
    · cases h
  | _ => exact nofun

theorem readText_ne_tooDeep : readText cs ≠ .error .tooDeep := by
  intro h
  rcases bind_eq_error.mp h with h | ⟨_, _, h⟩
  · exact readCodes_ne_tooDeep h
  · cases h

theorem flat_readNumber (negative : Bool) : Flat (readNumber negative cs) := by
  unfold readNumber
  split
  · exact ⟨nofun, nofun⟩
  · dsimp only
    split_ifs <;> exact ⟨nofun, nofun⟩

theorem flat_readScalar : Flat (readScalar cs) := by
  rw [readScalar_eq]
  cases hword : readWord? cs with
  | some found =>
    obtain ⟨⟨word, v⟩, hmem, hv⟩ := List.exists_of_findSome?_eq_some hword
    obtain ⟨rest, -, rfl⟩ := Option.map_eq_some_iff.mp hv
    refine ⟨fun fields rest h => ?_, nofun⟩
    obtain ⟨rfl, -⟩ := Prod.mk.inj (Except.ok.inj h)
    simp [valueWords] at hmem
  | none =>
    change Flat (readSigned cs)
    unfold readSigned
    split <;> exact flat_readNumber _

theorem flat_readValue {c : Char} (hopen : c ≠ '\x7b' ∧ c ≠ '[') :
    Flat (readValue steps depth (c :: cs)) := by
  cases steps with
  | zero => exact ⟨nofun, nofun⟩
  | succ steps =>
    rw [readValue.eq_def]
    dsimp only
    split_ifs with hquote hlist hobject
    · constructor
      · intro fields rest h
        obtain ⟨⟨s, r⟩, -, hr⟩ := bind_eq_ok.mp h
        cases hr
      · intro h
        rcases bind_eq_error.mp h with h | ⟨_, _, h⟩
        · exact readText_ne_tooDeep h
        · cases h
    · exact absurd (beq_iff_eq.mp hlist) hopen.2
    · exact absurd (beq_iff_eq.mp hobject) hopen.1
    · exact flat_readScalar

/-- **Whatever does not open with a bracket is passed over.** -/
theorem over_trimChars {p l : List Char} (hopen : '\x7b' ∉ p ∧ '[' ∉ p)
    (hp : ∃ c ∈ p, isBlank c = false) : Over (trimChars (p ++ l)) := by
  obtain ⟨c, hfound⟩ : ∃ c, p.find? (!isBlank ·) = some c := by
    obtain ⟨c, hc, hblank⟩ := hp
    exact Option.isSome_iff_exists.mp (List.find?_isSome.mpr ⟨c, hc, by simp [hblank]⟩)
  obtain ⟨hc, b, r, rfl, hb⟩ := List.find?_eq_some_iff_append.mp hfound
  have hc : isBlank c = false := by simpa using hc
  have hspace : isSpace c = false := by
    by_contra h
    rw [isBlank_of_isSpace (by simpa using h)] at hc
    cases hc
  rw [List.append_assoc, List.cons_append, trimChars_append_cons (by simpa using hb) hc]
  apply Flat.over
  rw [skipSpace, List.dropWhile_cons_of_neg (by simp [hspace])]
  apply flat_readValue
  constructor
  · rintro rfl
    exact hopen.1 (by simp)
  · rintro rfl
    exact hopen.2 (by simp)

/-- What is found first is an object in front of which there is nothing but a candidate that is
passed over. -/
theorem head?_objectsAmong {w s : List Char} {more : List (List Char)} {fields : Fields}
    (hs : readChars nestingLimit s = .ok (.obj fields)) (hne : s ≠ []) (hw : w = s ∨ Over w) :
    (objectsAmong ((w :: s :: more).filter (!·.isEmpty)).eraseDups).head? = some (.ok fields) := by
  have hfirst (rest : List (List Char)) : (objectsAmong (s :: rest)).head? = some (.ok fields) := by
    rw [objectsAmong, hs]
    rfl
  have hkept {x : List Char} (hx : x ≠ []) (rest : List (List Char)) :
      (x :: rest).filter (!·.isEmpty) = x :: rest.filter (!·.isEmpty) := by
    simp [hx]
  by_cases hws : w = s
  · rw [hws, hkept hne, List.eraseDups_cons]
    exact hfirst _
  · by_cases hempty : w = []
    · subst hempty
      change (objectsAmong ((s :: more).filter (!·.isEmpty)).eraseDups).head? = _
      rw [hkept hne, List.eraseDups_cons]
      exact hfirst _
    · have hother : (!s == w) = true := by simpa using Ne.symm hws
      rw [hkept hempty, hkept hne, List.eraseDups_cons, (hw.resolve_left hws).objectsAmong_cons,
        List.filter_cons, if_pos hother, List.eraseDups_cons]
      exact hfirst _

end Candidates

/-! ## Fences -/

section Fences

variable {l r p tag gap gap' q : List Char}

theorem upToFence_eq_none (h : occursIn fence l = false) : upToFence l = none := by
  induction l with
  | nil => rfl
  | cons c l ih =>
    rw [occursIn, Bool.or_eq_false_iff] at h
    rw [upToFence, if_neg (by simp [h.1]), ih h.2]
    rfl

theorem upToFence_append (h : occursIn fence l = false) (hlast : ∀ c ∈ l.getLast?, c ≠ '\x60') :
    upToFence (l ++ (fence ++ r)) = some (l, r) := by
  induction l with
  | nil => rfl
  | cons c l ih =>
    rw [occursIn, Bool.or_eq_false_iff] at h
    have hfront : fence.isPrefixOf (c :: l ++ (fence ++ r)) = false := by
      obtain ⟨body, d, hbody⟩ : ∃ body d, c :: l = body ++ [d] :=
        ⟨_, _, (List.dropLast_append_getLast (List.cons_ne_nil c l)).symm⟩
      have hd : d ∉ fence := by
        have := hlast d (by simp [hbody])
        simpa [fence] using this
      have hnot := h.1
      rw [Bool.eq_false_iff, ne_eq, List.isPrefixOf_iff_prefix, hbody] at hnot ⊢
      rw [List.append_assoc, List.singleton_append, prefix_append_cons_iff hd]
      rwa [prefix_append_cons_iff hd] at hnot
    have hlast' : ∀ d ∈ l.getLast?, d ≠ '\x60' := fun d hd => hlast d (by
      rw [List.getLast?_cons, Option.mem_def.mp hd]
      rfl)
    rw [List.cons_append] at hfront ⊢
    rw [upToFence, if_neg (by simp [hfront]), ih h.2 hlast']
    rfl

theorem occursIn_fence_eq_false (hl : '\x60' ∉ l) : occursIn fence l = false := by
  rw [Bool.eq_false_iff, ne_eq, occursIn_iff, countIn_eq_zero (by decide) hl]
  decide

theorem not_isTagChar_of_isBlank {c : Char} (h : isBlank c = true) : isTagChar c = false := by
  by_contra htag
  have hranges : isTagChar c = (decide (65 ≤ c.val ∧ c.val ≤ 90) ||
      (decide (97 ≤ c.val) && decide (c.val ≤ 122)) ||
      (decide (48 ≤ c.val) && decide (c.val ≤ 57)) || c == '_' || c == '-') := rfl
  simp only [hranges, Bool.not_eq_false, Bool.or_eq_true, Bool.and_eq_true, decide_eq_true_eq,
    beq_iff_eq, UInt32.le_iff_toNat_le, UInt32.reduceToNat] at htag
  simp only [isBlank, Bool.or_eq_true, Bool.and_eq_true, decide_eq_true_eq, beq_iff_eq,
    Char.toNat] at h
  rcases htag with ((htag | htag) | rfl) | rfl
  · omega
  · omega
  · simp at h
  · simp at h

theorem fenced_eq_nil (h : occursIn fence l = false) : fenced l = [] := by
  unfold fenced
  cases l.length with
  | zero => rfl
  | succ most => rw [fencedUpTo, upToFence_eq_none h]

end Fences

/-! ## The text of an object -/

/-- The text of an object: it stands between braces, holds no fence and is read. -/
structure ObjectText (s : String) (fields : Fields) : Prop where
  opens : s.toList.head? = some '\x7b'
  closes : s.toList.getLast? = some '\x7d'
  unfenced : holds s "```" = false
  reads : Json.read s = .ok (.obj fields)

/-- Prose that may stand in front of an object. -/
def IsLead (p : String) : Prop := ∀ c ∈ p.toList, c ≠ '\x7b' ∧ c ≠ '[' ∧ c ≠ '\x60'

instance (p : String) : Decidable (IsLead p) :=
  List.decidableBAll (fun c => c ≠ '\x7b' ∧ c ≠ '[' ∧ c ≠ '\x60') p.toList

theorem IsLead.not_mem {p : String} (hp : IsLead p) :
    '\x7b' ∉ p.toList ∧ '[' ∉ p.toList ∧ '\x60' ∉ p.toList :=
  ⟨fun h => (hp _ h).1 rfl, fun h => (hp _ h).2.1 rfl, fun h => (hp _ h).2.2 rfl⟩

/-- The texts that an object stands in: in prose without a fence, or between fences. -/
inductive Embeds (s : String) : String → Prop
  | bare {p q : String} (hp : IsLead p) (h : holds (p ++ s ++ q) "```" = false) :
    Embeds s (p ++ s ++ q)
  | fenced {p tag gap gap' q : String} (hp : IsLead p) (htag : ∀ c ∈ tag.toList, isTagChar c = true)
      (hgap : isAllBlank gap = true) (hgap' : isAllBlank gap' = true) :
    Embeds s (p ++ "```" ++ tag ++ gap ++ s ++ gap' ++ "```" ++ q)

namespace ObjectText

variable {s : String} {fields : Fields} (h : ObjectText s fields)

include h

theorem exists_inner : ∃ cs, s.toList = '\x7b' :: cs ∧ (∃ body, '\x7b' :: cs = body ++ ['\x7d']) ∧
    readValue (cs.length + 2) nestingLimit ('\x7b' :: cs) = .ok (.obj fields, []) := by
  obtain ⟨cs, hcs⟩ : ∃ cs, s.toList = '\x7b' :: cs := List.head?_eq_some_iff.mp h.opens
  obtain ⟨body, hbody⟩ := List.getLast?_eq_some_iff.mp h.closes
  have hread : readChars nestingLimit s.toList = .ok (.obj fields) := h.reads
  rw [hcs] at hread hbody
  obtain ⟨rest, hvalue, hrest⟩ := readChars_eq_ok.mp hread
  change readValue (cs.length + 2) nestingLimit ('\x7b' :: cs) = _ at hvalue
  -- nothing but white space is left over, and the last character is a brace
  obtain ⟨used, hused, -⟩ := (readsPassed _).value hvalue
  cases rest using List.reverseRecOn with
  | nil => exact ⟨cs, hcs, ⟨body, hbody⟩, hvalue⟩
  | append_singleton rest c =>
    rw [hbody, ← List.append_assoc] at hused
    obtain ⟨-, hc⟩ := List.append_inj' hused rfl
    cases hc
    have hspace := List.dropWhile_eq_nil_iff.mp hrest '\x7d' (by simp)
    cases hspace

theorem trimChars_append {b r : List Char} (hb : ∀ c ∈ b, isBlank c = true) :
    trimChars (b ++ (s.toList ++ r)) = s.toList ++ r.rdropWhile isBlank := by
  obtain ⟨cs, hcs, ⟨body, hbody⟩, -⟩ := h.exists_inner
  rw [hcs, trimChars_eq, List.cons_append, dropWhile_append_cons hb (by decide), ← List.cons_append,
    hbody, rdropWhile_append_last (by decide)]

theorem over_append {r : List Char} (hr : r.rdropWhile isBlank ≠ []) :
    Over (s.toList ++ r.rdropWhile isBlank) := by
  obtain ⟨cs, hcs, -, hvalue⟩ := h.exists_inner
  have hvalue : readValue (('\x7b' :: cs ++ r.rdropWhile isBlank).length + 1) nestingLimit
      ('\x7b' :: cs ++ r.rdropWhile isBlank) = .ok (.obj fields, r.rdropWhile isBlank) :=
    readValue_object_append (by simp) hvalue _
  rw [hcs]
  constructor
  · intro fields' hread
    obtain ⟨rest, hread, hrest⟩ := readChars_eq_ok.mp hread
    obtain ⟨-, rfl⟩ := Prod.mk.inj (Except.ok.inj (hvalue.symm.trans hread))
    have hspace := List.dropWhile_eq_nil_iff.mp hrest _ (List.getLast_mem hr)
    exact List.rdropWhile_last_not isBlank r hr (isBlank_of_isSpace hspace)
  · intro hread
    cases hvalue.symm.trans (readChars_eq_tooDeep.mp hread)

theorem eq_or_over {p r : List Char} (hp : '\x7b' ∉ p ∧ '[' ∉ p) :
    trimChars (p ++ (s.toList ++ r)) = s.toList ∨ Over (trimChars (p ++ (s.toList ++ r))) := by
  by_cases hblank : ∀ c ∈ p, isBlank c = true
  · rw [h.trimChars_append hblank]
    by_cases hr : r.rdropWhile isBlank = []
    · rw [hr, List.append_nil]
      exact .inl rfl
    · exact .inr (h.over_append hr)
  · push Not at hblank
    exact .inr (over_trimChars hp (by simpa using hblank))

theorem balanced_append {p q : List Char} (hp : '\x7b' ∉ p) :
    balanced (p ++ (s.toList ++ q)) = s.toList :: balanced q := by
  obtain ⟨cs, hcs, -, hvalue⟩ := h.exists_inner
  rw [Json.balanced_append hp, hcs, balanced_of_read hvalue]

theorem occursIn_fence_append {b : List Char} (hb : '\x60' ∉ b) :
    occursIn fence (s.toList ++ b) = false := by
  obtain ⟨body, hbody⟩ := List.getLast?_eq_some_iff.mp h.closes
  have hbare := h.unfenced
  rw [holds, Bool.eq_false_iff, ne_eq, occursIn_iff, hbody, countIn_append_cons (by decide)]
    at hbare
  rwa [Bool.eq_false_iff, ne_eq, occursIn_iff, hbody, List.append_assoc, List.singleton_append,
    countIn_append_cons (by decide), countIn_eq_zero (by decide) hb]

theorem ne_of_mem_getLast?_append {b : List Char} (hb : '\x60' ∉ b) :
    ∀ c ∈ (s.toList ++ b).getLast?, c ≠ '\x60' := by
  rintro c hc rfl
  rw [List.getLast?_append, Option.mem_def, Option.or_eq_some_iff, h.closes] at hc
  rcases hc with hc | ⟨-, hc⟩
  · exact hb (List.mem_of_getLast? hc)
  · cases hc

theorem fenced_append {p tag gap gap' q : List Char} (hp : '\x60' ∉ p)
    (htag : ∀ c ∈ tag, isTagChar c = true) (hgap : ∀ c ∈ gap, isBlank c = true)
    (hgap' : ∀ c ∈ gap', isBlank c = true) : ∃ more,
    fenced (p ++ (fence ++ (tag ++ (gap ++ (s.toList ++ gap' ++ (fence ++ q)))))) =
      (s.toList ++ gap') :: more := by
  obtain ⟨cs, hcs, -⟩ := h.exists_inner
  have htag : (tag ++ (gap ++ (s.toList ++ gap' ++ (fence ++ q)))).dropWhile isTagChar =
      gap ++ (s.toList ++ gap' ++ (fence ++ q)) := by
    rw [List.dropWhile_append_of_pos htag, hcs]
    cases gap with
    | nil => exact List.dropWhile_cons_of_neg (by decide)
    | cons c gap =>
      have hc := not_isTagChar_of_isBlank (hgap c List.mem_cons_self)
      exact List.dropWhile_cons_of_neg (by simp [hc])
  have hgap : (gap ++ (s.toList ++ gap' ++ (fence ++ q))).dropWhile isBlank =
      s.toList ++ gap' ++ (fence ++ q) := by
    rw [hcs]
    exact dropWhile_append_cons hgap (by decide)
  have hblank : '\x60' ∉ gap' := fun hmem => by cases hgap' _ hmem
  have hlead : ∀ c ∈ p.getLast?, c ≠ '\x60' := by
    rintro c hc rfl
    exact hp (List.mem_of_getLast? hc)
  obtain ⟨most, hmost⟩ : ∃ most,
      (p ++ (fence ++ (tag ++ (gap ++ (s.toList ++ gap' ++ (fence ++ q)))))).length = most + 1 :=
    Nat.exists_eq_succ_of_ne_zero (by simp [fence])
  rw [fenced, hmost, fencedUpTo, upToFence_append (occursIn_fence_eq_false hp) hlead]
  dsimp only
  rw [htag, hgap, upToFence_append (h.occursIn_fence_append hblank)
    (h.ne_of_mem_getLast?_append hblank)]
  exact ⟨_, rfl⟩

end ObjectText

/-! ## The first object -/

section Embedded

variable {s text : String} {fields : Fields}

/-- Before the object nothing is tried but a candidate that is passed over. -/
theorem candidates_eq (hs : ObjectText s fields) (h : Embeds s text) : ∃ w more,
    candidates text.toList = ((w :: s.toList :: more).filter (!·.isEmpty)).eraseDups ∧
      (w = s.toList ∨ Over w) := by
  cases h with
  | @bare p q hp h =>
    obtain ⟨hbrace, hbracket, -⟩ := hp.not_mem
    have htext : (p ++ s ++ q).toList = p.toList ++ (s.toList ++ q.toList) := by simp
    refine ⟨_, balanced q.toList, ?_, htext ▸ hs.eq_or_over ⟨hbrace, hbracket⟩⟩
    rw [candidates, fenced_eq_nil h, htext, hs.balanced_append hbrace]
    rfl
  | @fenced p tag gap gap' q hp htag hgap hgap' =>
    obtain ⟨hbrace, hbracket, htick⟩ := hp.not_mem
    have htext : (p ++ "```" ++ tag ++ gap ++ s ++ gap' ++ "```" ++ q).toList =
        p.toList ++ (fence ++ (tag.toList ++ (gap.toList ++
          (s.toList ++ gap'.toList ++ (fence ++ q.toList))))) := by
      simp [fence]
    obtain ⟨more, hmore⟩ := hs.fenced_append (q := q.toList) htick htag
      (List.all_eq_true.mp hgap) (List.all_eq_true.mp hgap')
    have hinside : trimChars (s.toList ++ gap'.toList) = s.toList := by
      have htrim := hs.trimChars_append (b := []) (r := gap'.toList) (by simp)
      rwa [List.rdropWhile_eq_nil_iff.mpr (List.all_eq_true.mp hgap'), List.append_nil] at htrim
    rw [candidates, htext, hmore, List.map_cons, hinside]
    refine ⟨_, _, rfl, .inr ?_⟩
    -- a fence does not open with a bracket either
    have hover := over_trimChars (p := p.toList ++ ['\x60'])
      (l := '\x60' :: '\x60' :: (tag.toList ++ (gap.toList ++ (s.toList ++ gap'.toList ++
        (fence ++ q.toList))))) (by simp [hbrace, hbracket]) ⟨'\x60', by simp, by decide⟩
    rwa [List.append_assoc] at hover

/-- **What is found first is the object**, whatever stands around it. -/
theorem head?_objectsIn (hs : ObjectText s fields) (h : Embeds s text) :
    (objectsIn text).head? = some (.ok fields) := by
  obtain ⟨w, more, hcandidates, hw⟩ := candidates_eq hs h
  obtain ⟨cs, hcs, -⟩ := hs.exists_inner
  rw [objectsIn, hcandidates]
  exact head?_objectsAmong hs.reads (by simp [hcs]) hw

end Embedded

end Json

/-! ## The intent of an answer -/

namespace Intent

variable {s text : String} {fields : Fields}

/-- **The intent of an object is the intent of an answer that it stands in.** -/
theorem inText_of_embeds (hs : Json.ObjectText s fields) (h : Json.Embeds s text) :
    (Json.objectsIn text).head? = some (.ok fields) ∧
      ∀ i, Intent.read (.obj fields) = .ok i → Intent.inText text = .ok (some i) := by
  have hfirst := Json.head?_objectsIn hs h
  refine ⟨hfirst, fun i hi => ?_⟩
  obtain ⟨after, hafter⟩ := List.head?_eq_some_iff.mp hfirst
  exact inText_eq_some.mpr ⟨[], fields, after, hafter, by simp, hi⟩

/-- The intent in a text with braces behind it, and between fences. -/
theorem inText_bare_and_fenced :
    Intent.inText ("Sure: " ++ "\x7b\"action\": \"add\"\x7d" ++ " instead of \x7b\x7d.") =
        .ok (some { action := .add, confidence := half }) ∧
      Intent.inText ("Sure:\n" ++ "```" ++ "json" ++ "\n" ++ "\x7b\"action\": \"add\"\x7d" ++
          "\n" ++ "```" ++ " or \x7b\x7d.") =
        .ok (some { action := .add, confidence := half }) := by
  have hread : Json.read "\x7b\"action\": \"add\"\x7d" = .ok (.obj [("action", .str "add")]) := by
    have hchars : "\x7b\"action\": \"add\"\x7d".toList = ['\x7b', '"', 'a', 'c', 't', 'i', 'o',
        'n', '"', ':', ' ', '"', 'a', 'd', 'd', '"', '\x7d'] := by decide
    rw [Json.read, hchars]
    rfl
  have hs : Json.ObjectText "\x7b\"action\": \"add\"\x7d" [("action", .str "add")] :=
    ⟨by decide, by decide, by decide, hread⟩
  have hbare : Json.Embeds "\x7b\"action\": \"add\"\x7d"
      ("Sure: " ++ "\x7b\"action\": \"add\"\x7d" ++ " instead of \x7b\x7d.") :=
    .bare (by decide +kernel) (by decide +kernel)
  have hfenced : Json.Embeds "\x7b\"action\": \"add\"\x7d" ("Sure:\n" ++ "```" ++ "json" ++ "\n" ++
      "\x7b\"action\": \"add\"\x7d" ++ "\n" ++ "```" ++ " or \x7b\x7d.") :=
    .fenced (by decide +kernel) (List.all_eq_true.mp (by decide +kernel)) (by decide +kernel)
      (by decide +kernel)
  exact ⟨(inText_of_embeds hs hbare).2 _ rfl, (inText_of_embeds hs hfenced).2 _ rfl⟩

end Intent

end NetSketch
