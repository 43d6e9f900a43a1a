import NetSketch.Proofs.Knowledge.Demand

/-!
# The groups of guidance

Guidance tells its entries in three groups: by official standards, by verified practice and by what
is not verified. An entry is official from a fixed confidence on, and not verified below a
confidence that the caller chooses. If the caller chooses more than the fixed one, an entry between
the two is in both groups. An entry whose confidence is not a number is in none.

* `Binary64.HasPercent`: numbers with a percentage;
* `Guidance.Group`, `Guidance.told`, `Guidance.lines_eq`: the groups, and how they are told;
* `Guidance.ToldOnce`, `Guidance.existsUnique_told_iff`, `Guidance.perm_told`: entries in one group;
* **`Guidance.told_in_groups`**: how the entries are distributed.
-/

namespace NetSketch

open Number
open scoped List

/-! ## Numbers -/

namespace Number.Binary64

/-- **A number has a percentage** if a hundred times the number is finite. -/
def HasPercent (x : Binary64) : Prop := (x.mul (ofRatio false 100 1)).roundToInt? ≠ none

end Number.Binary64

variable {g : Guidance} {least : Binary64} {r : Relationship} {store : Store} {spec : Option Spec}

/-! ## The groups -/

namespace Guidance

/-- A group in which entries are told. -/
inductive Group where
  | official
  | verified
  | unverified

namespace Group

/-- The groups in the order of the block. -/
def all : List Group := [official, verified, unverified]

/-- What stands above a group. -/
def heading : Group → String
  | official => "### 공식 표준 (반드시 준수)"
  | verified => "### 검증된 실무 가이드"
  | unverified => "### 참고: 사용자 기여 (미검증)"

/-- How an entry is told in a group. -/
def line (r : Relationship) : Group → String
  | official => "- " ++ r.reasonKo.display ++ " [" ++ r.firstTitle.display ++ "]"
  | verified => "- " ++ r.reasonKo.display ++ " (신뢰도: " ++ toString r.confidence.percent ++ "%)"
  | unverified => "- " ++ r.reasonKo.display ++ " ⚠️ 미검증"

end Group

/-- **The entries that are told in a group.** -/
def told (g : Guidance) (least : Binary64) : Group → List Relationship
  | .official => g.official
  | .verified => g.verified least
  | .unverified => g.unverified least

/-- What the block tells after the groups. -/
def remainder (g : Guidance) : List String :=
  headed "### ⛔ 주의사항 및 위반 감지" g.violationLines ++
  headed "### 💥 잠재적 장애 시나리오" g.riskLines ++
  ["### 우선순위 규칙",
    "1. 공식 표준 출처의 가이드를 최우선으로 적용하세요.",
    "2. 검증된 실무 가이드는 공식 표준과 충돌하지 않는 범위에서 참고하세요.",
    "3. 미검증 사용자 기여 내용은 참고만 하고, 의사결정의 근거로 사용하지 마세요."]

theorem lines_eq : g.lines least = "## 인프라 지식 기반 가이드\n" ::
    Group.all.flatMap (fun k => headed k.heading ((g.told least k).map (k.line ·))) ++
      g.remainder := by
  simp only [lines, remainder, Group.all, List.flatMap_cons, List.flatMap_nil, List.append_nil,
    List.cons_append, List.append_assoc]
  rfl

theorem told_sublist (k : Group) : (g.told least k).Sublist g.entries := by
  cases k <;> exact List.filter_sublist

/-! ## Entries in one group -/

/-- **An entry is told once**: its confidence is a number, it is not too low if it is official, and
the caller asks for a number if it is not. -/
structure ToldOnce (least : Binary64) (r : Relationship) : Prop where
  number : r.confidence ≠ .nan
  enough : r.confidence.lt officialConfidence = false → r.confidence.lt least = false
  asked : r.confidence.lt officialConfidence = true → least ≠ .nan

theorem officialConfidence_ne_nan : officialConfidence ≠ .nan := by decide

theorem Group.existsUnique_iff {p : Group → Prop} : (∃! k, p k) ↔
    p official ∧ ¬ p verified ∧ ¬ p unverified ∨ ¬ p official ∧ p verified ∧ ¬ p unverified ∨
      ¬ p official ∧ ¬ p verified ∧ p unverified := by
  constructor
  · rintro ⟨k, hk, hone⟩
    have hother {k' : Group} (h : k' ≠ k) : ¬ p k' := fun hk' => h (hone k' hk')
    cases k
    · exact .inl ⟨hk, hother nofun, hother nofun⟩
    · exact .inr (.inl ⟨hother nofun, hk, hother nofun⟩)
    · exact .inr (.inr ⟨hother nofun, hother nofun, hk⟩)
  · rintro (⟨h, h', h''⟩ | ⟨h, h', h''⟩ | ⟨h, h', h''⟩)
    · exact ⟨official, h, by rintro (_ | _ | _) <;> simp_all⟩
    · exact ⟨verified, h', by rintro (_ | _ | _) <;> simp_all⟩
    · exact ⟨unverified, h'', by rintro (_ | _ | _) <;> simp_all⟩

theorem existsUnique_told_iff (hr : r ∈ g.entries) :
    (∃! k, r ∈ g.told least k) ↔ ToldOnce least r := by
  have hofficial : r ∈ g.told least .official ↔
      r.confidence ≠ .nan ∧ r.confidence.lt officialConfidence = false := by
    simp [told, official, hr, Binary64.le_iff, officialConfidence_ne_nan]
  have hverified : r ∈ g.told least .verified ↔
      (least ≠ .nan ∧ r.confidence ≠ .nan ∧ r.confidence.lt least = false) ∧
        r.confidence.lt officialConfidence = true := by
    simp [told, verified, hr, Binary64.le_iff]
  have hunverified : r ∈ g.told least .unverified ↔ r.confidence.lt least = true := by
    simp [told, unverified, hr]
  have hlow := Binary64.ne_nan_of_lt (x := r.confidence) (y := least)
  have hbelow := Binary64.ne_nan_of_lt (x := r.confidence) (y := officialConfidence)
  have honce : ToldOnce least r ↔ r.confidence ≠ .nan ∧
      (r.confidence.lt officialConfidence = false → r.confidence.lt least = false) ∧
        (r.confidence.lt officialConfidence = true → least ≠ .nan) :=
    ⟨fun ⟨hnumber, henough, hasked⟩ => ⟨hnumber, henough, hasked⟩,
      fun ⟨hnumber, henough, hasked⟩ => ⟨hnumber, henough, hasked⟩⟩
  rw [Group.existsUnique_iff, hofficial, hverified, hunverified, honce]
  grind

/-- **No entry is lost or told twice** if each is told once. -/
theorem perm_told (h : ∀ r ∈ g.entries, ToldOnce least r) :
    (Group.all.flatMap (g.told least)).Perm g.entries := by
  have hofficial : g.official = g.entries.filter (!·.confidence.lt officialConfidence) := by
    refine List.filter_congr fun r hr => ?_
    rw [Bool.eq_iff_iff, Binary64.le_iff, Bool.not_eq_true',
      and_iff_right officialConfidence_ne_nan, and_iff_right (h r hr).number]
  have hverified : g.verified least =
      (g.entries.filter (·.confidence.lt officialConfidence)).filter (!·.confidence.lt least) := by
    rw [List.filter_filter]
    refine List.filter_congr fun r hr => ?_
    obtain ⟨hnumber, -, hasked⟩ := h r hr
    rw [Bool.eq_iff_iff, Bool.and_eq_true, Bool.and_eq_true, Binary64.le_iff, Bool.not_eq_true']
    exact and_congr_left fun hbelow => by
      rw [and_iff_right (hasked hbelow), and_iff_right hnumber]
  have hunverified : g.unverified least =
      (g.entries.filter (·.confidence.lt officialConfidence)).filter (·.confidence.lt least) := by
    rw [List.filter_filter]
    refine List.filter_congr fun r hr => ?_
    have henough := (h r hr).enough
    cases hbelow : r.confidence.lt officialConfidence with
    | true => rw [Bool.and_true]
    | false => rw [henough hbelow, Bool.and_false]
  calc Group.all.flatMap (g.told least)
      = g.official ++ (g.verified least ++ g.unverified least) := by simp [Group.all, told]
    _ ~ g.official ++ (g.unverified least ++ g.verified least) :=
      List.perm_append_comm.append_left _
    _ ~ g.official ++ g.entries.filter (·.confidence.lt officialConfidence) := by
      rw [hverified, hunverified]
      exact (List.filter_append_perm _ _).append_left _
    _ ~ g.entries.filter (·.confidence.lt officialConfidence) ++ g.official := List.perm_append_comm
    _ ~ g.entries := by
      rw [hofficial]
      exact List.filter_append_perm _ _

theorem toldOnce_of_le (hleast : least.le officialConfidence = true) (hr : r.confidence ≠ .nan) :
    ToldOnce least r where
  number := hr
  enough hofficial := by
    obtain ⟨-, -, hleast⟩ := Binary64.le_iff.mp hleast
    by_contra hlow
    rw [Bool.not_eq_false] at hlow
    rcases Binary64.lt_or_lt hlow officialConfidence_ne_nan with h | h
    · exact Bool.false_ne_true (hofficial.symm.trans h)
    · exact Bool.false_ne_true (hleast.symm.trans h)
  asked _ := (Binary64.le_iff.mp hleast).1

theorem confidence_ne_nan (hg : about store spec = .ok g) (hr : r ∈ g.entries) :
    r.confidence ≠ .nan := by
  obtain ⟨violations, -, hg⟩ := bind_eq_ok.mp hg
  obtain rfl := Except.ok.inj hg
  have husable {p : Relationship → Bool} {rs : List Relationship}
      (hr : r ∈ distinctIds ((rs.filter fun r => leastConfidence.le r.confidence).filter p)) :
      r.confidence ≠ .nan := by
    have hsure := List.mem_filter.mp (List.mem_filter.mp (unseenIds_sublist.subset hr)).1
    exact (Binary64.le_iff.mp hsure.2).2.1
  rcases List.mem_append.mp hr with hr | hr
  · dsimp only at hr
    rw [List.filter_filter] at hr
    exact husable hr
  · exact husable ((List.mergeSort_perm _ _).mem_iff.mp hr)

/-- **How guidance distributes its entries.** The block tells three groups, if the verified entries
have percentages. In each the entries keep their order, and an entry is in exactly one of them if it
is told once. All of them are if their confidences are numbers and the caller does not ask for more
than an official one, so that no entry of the guidance about a diagram is lost or told twice. -/
theorem told_in_groups (h : g.hasFindings = true) (least : Binary64) :
    ((∀ r ∈ g.verified least, r.confidence.HasPercent) → g.block least =
        String.intercalate "\n" ("## 인프라 지식 기반 가이드\n" ::
          Group.all.flatMap (fun k => headed k.heading ((g.told least k).map (k.line ·))) ++
            g.remainder)) ∧
      (∀ k, (g.told least k).Sublist g.entries) ∧
      (∀ r ∈ g.entries, (∃! k, r ∈ g.told least k) ↔ ToldOnce least r) ∧
      ((∀ r ∈ g.entries, ToldOnce least r) → (Group.all.flatMap (g.told least)).Perm g.entries) ∧
      (least.le officialConfidence = true →
        (∀ r ∈ g.entries, r.confidence ≠ .nan → ToldOnce least r) ∧
          ∀ store spec, about store spec = .ok g →
            (Group.all.flatMap (g.told least)).Perm g.entries) := by
  refine ⟨fun _ => ?_, told_sublist, fun r => existsUnique_told_iff, perm_told, fun hleast =>
    ⟨fun r _ => toldOnce_of_le hleast, fun store spec hg => perm_told fun r hr => ?_⟩⟩
  · rw [block, if_pos h, lines_eq]
  · exact toldOnce_of_le hleast (confidence_ne_nan hg hr)

theorem wafDemand_mem_suggestions {confidence : Binary64}
    (hload : Corpus.load (wafLibrary .downstream (.float confidence)) =
      .ok (wafCorpus .downstream confidence)) (hsure : leastConfidence.le confidence = true)
    (hg : about (.ofCorpus (wafCorpus .downstream confidence)) (some (loneNode .webServer)) =
      .ok g) : wafDemand .downstream confidence ∈ g.suggestions := by
  have hs : (loneNode .webServer).ids.Nodup := by decide
  have hthere : Component.webServer ∈ (loneNode .webServer).types := by decide
  have hmissing : Component.waf ∉ (loneNode .webServer).types := by decide
  exact mem_suggestions_of_demands (Corpus.load_eq_ok.mp hload).relationship_ids hs hg
    (List.mem_singleton.mpr rfl) ⟨rfl, hsure, .inl ⟨hthere, hmissing⟩⟩

theorem told_in_groups_webServer : ∃ g,
    about (.ofCorpus (wafCorpus .downstream officialConfidence)) (some (loneNode .webServer)) =
        .ok g ∧ g.hasFindings = true ∧
      wafDemand .downstream officialConfidence ∈ g.entries ∧
      (∃! k, wafDemand .downstream officialConfidence ∈ g.told leastConfidence k) ∧
      (Group.all.flatMap (g.told leastConfidence)).Perm g.entries := by
  obtain ⟨g, hg⟩ : ∃ g, about (.ofCorpus (wafCorpus .downstream officialConfidence))
      (some (loneNode .webServer)) = .ok g := ⟨_, rfl⟩
  have hr := wafDemand_mem_suggestions rfl (by decide) hg
  have hentry := List.mem_append_right g.relationships hr
  obtain ⟨-, -, hunique, -, hall⟩ :=
    told_in_groups (hasFindings_of_mem_suggestions hr) leastConfidence
  obtain ⟨honce, hperm⟩ := hall (by decide)
  exact ⟨g, hg, hasFindings_of_mem_suggestions hr, hentry,
    (hunique _ hentry).mpr (honce _ hentry officialConfidence_ne_nan), hperm _ _ hg⟩

/-- A demand with a confidence of 87 percent is told to a caller who asks for 90 both as an official
standard and as not verified. -/
theorem told_twice :
    Corpus.load (wafLibrary .downstream (.float (.ofDecimal false 87 (-2)))) =
        .ok (wafCorpus .downstream (.ofDecimal false 87 (-2))) ∧ (loneNode .webServer).WellFormed ∧
      ∃ g, about (.ofCorpus (wafCorpus .downstream (.ofDecimal false 87 (-2))))
          (some (loneNode .webServer)) = .ok g ∧ g.hasFindings = true ∧
        ∃ r ∈ g.entries, r ∈ g.told (.ofDecimal false 9 (-1)) .official ∧
          r ∈ g.told (.ofDecimal false 9 (-1)) .unverified := by
  obtain ⟨g, hg⟩ : ∃ g, about (.ofCorpus (wafCorpus .downstream (.ofDecimal false 87 (-2))))
      (some (loneNode .webServer)) = .ok g := ⟨_, rfl⟩
  have hr := wafDemand_mem_suggestions rfl (by decide) hg
  have hentry := List.mem_append_right g.relationships hr
  exact ⟨rfl, by decide, g, hg, hasFindings_of_mem_suggestions hr, _, hentry,
    List.mem_filter.mpr ⟨hentry, by decide⟩, List.mem_filter.mpr ⟨hentry, by decide⟩⟩

end Guidance

end NetSketch
