import Mathlib.Data.List.TakeWhile
import NetSketch.Proofs.Number.Quantity
import NetSketch.Service.RateLimit

/-!
# The sliding window

The queue of a caller holds the latest of the times at which its calls were admitted. Those dropped
from its front were out of the window at a time that has passed, and there they stay: as the times
do not decrease, they get only farther away. So what is left of the queue at a call are the admitted
calls in the window, and the queue is as good as all the calls before.

* `TimedCall`, `RateLimiter.after`, `RateLimiter.admits`, `RateLimiter.admitted`: rows of calls;
* `RateLimiter.Queued`: what the queue of a caller holds, and `Queued.allow`, `queued_after`;
* `RateLimiter.admits_iff`, `RateLimiter.countP_admitted_le`: who is admitted, and how many;
* `RateLimiter.Slides`, **`RateLimiter.slides`**: the rule that calls are admitted by.
-/

namespace NetSketch.Service

open Number

/-- A call: who calls, and when. -/
structure TimedCall where
  caller : String
  time : Quantity

/-- The times of the calls of a caller. -/
def timesOf (caller : String) (calls : List TimedCall) : List Quantity :=
  (calls.filter (·.caller = caller)).map (·.time)

variable {caller other : String} {calls front back : List TimedCall} {c : TimedCall}
  {now time : Quantity} {past log kept times : List Quantity}

@[simp] theorem timesOf_nil : timesOf caller [] = [] := rfl

@[simp] theorem timesOf_append : timesOf caller (front ++ back) =
    timesOf caller front ++ timesOf caller back := by
  simp [timesOf]

theorem timesOf_self : timesOf c.caller [c] = [c.time] := by simp [timesOf]

theorem timesOf_concat : timesOf c.caller (calls ++ [c]) = timesOf c.caller calls ++ [c.time] := by
  rw [timesOf_append, timesOf_self]

theorem timesOf_other (h : c.caller ≠ caller) : timesOf caller [c] = [] := by simp [timesOf, h]

theorem timesOf_sublist (caller : String) (h : front.Sublist calls) :
    (timesOf caller front).Sublist (timesOf caller calls) := (h.filter _).map _

theorem timesOf_subset : timesOf caller calls ⊆ calls.map (·.time) :=
  List.map_subset _ (List.filter_subset_self _)

theorem countP_timesOf (p : Quantity → Bool) : (timesOf caller calls).countP p =
    calls.countP fun c => decide (c.caller = caller) && p c.time := by
  rw [timesOf, List.countP_map, List.countP_filter]
  exact List.countP_congr fun c _ => by simp [Bool.and_comm]

/-- **Calls in order**: their times do not decrease, and those of a caller are steady. -/
structure Orderly (calls : List TimedCall) : Prop where
  ordered : calls.Pairwise fun c d => c.time.le d.time = true
  steady : ∀ caller, Quantity.Steady (timesOf caller calls)

theorem Orderly.sublist (h : Orderly calls) (hsub : front.Sublist calls) : Orderly front :=
  ⟨h.ordered.sublist hsub, fun caller => (h.steady caller).mono (timesOf_sublist caller hsub).subset⟩

theorem Orderly.pairwise_timesOf (h : Orderly calls) (caller : String) :
    (timesOf caller calls).Pairwise fun a b => a.le b = true :=
  List.pairwise_map.mpr (h.ordered.filter _)

theorem Orderly.le_of_mem (h : Orderly (calls ++ [c])) (htime : time ∈ timesOf c.caller calls) :
    time.le c.time = true := by
  have hordered := h.pairwise_timesOf c.caller
  rw [timesOf_concat] at hordered
  exact (List.pairwise_append.mp hordered).2.2 time htime c.time (List.mem_singleton_self c.time)

namespace RateLimiter

variable {r : RateLimiter} {limit : ℤ} {window : Quantity}

/-- A limiter before all calls. -/
def fresh (limit : ℤ) (window : Quantity) : RateLimiter := { limit := .whole limit, window }

/-- The limiter behind a row of calls. -/
def after (r : RateLimiter) (calls : List TimedCall) : RateLimiter :=
  calls.foldl (fun r c => (r.allow c.caller c.time).2) r

/-- Whether a call is admitted behind a row of calls. -/
def admits (r : RateLimiter) (calls : List TimedCall) (c : TimedCall) : Bool :=
  ((r.after calls).allow c.caller c.time).1

/-- Those of a row of calls that are admitted. -/
def admitted : RateLimiter → List TimedCall → List TimedCall
  | _, [] => []
  | r, c :: calls =>
    let (allowed, r') := r.allow c.caller c.time
    if allowed then c :: r'.admitted calls else r'.admitted calls

/-! ## The times of a caller -/

theorem lookup_setTimes_self (hits : List (String × List Quantity)) :
    (setTimes caller times hits).lookup caller = some times := by
  induction hits with
  | nil => exact List.lookup_cons_self
  | cons hit rest ih =>
    obtain ⟨c, ts⟩ := hit
    unfold setTimes
    split_ifs with h
    · rw [h, List.lookup_cons_self]
    · rw [List.lookup_cons, beq_false_of_ne (Ne.symm h), ih]

theorem lookup_setTimes_other (h : caller ≠ other) (hits : List (String × List Quantity)) :
    (setTimes other times hits).lookup caller = hits.lookup caller := by
  induction hits with
  | nil => rw [setTimes, List.lookup_cons, beq_false_of_ne h]
  | cons hit rest ih =>
    obtain ⟨c, ts⟩ := hit
    unfold setTimes
    split_ifs with hc
    · rw [List.lookup_cons, List.lookup_cons, hc, beq_false_of_ne h]
    · rw [List.lookup_cons, List.lookup_cons, ih]

theorem times_allow_self : (r.allow caller now).2.times caller =
    r.recent caller now ++ if (r.allow caller now).1 then [now] else [] := by
  rw [times, allow, lookup_setTimes_self, Option.getD_some]
  split_ifs <;> simp

theorem times_allow_other (h : caller ≠ other) :
    (r.allow other now).2.times caller = r.times caller := by
  rw [times, allow, lookup_setTimes_other h]
  rfl

/-! ## Rows of calls -/

@[simp] theorem after_concat : r.after (calls ++ [c]) =
    ((r.after calls).allow c.caller c.time).2 := by
  simp [after]

@[simp] theorem after_limit : (r.after calls).limit = r.limit := by
  induction calls using List.reverseRecOn with
  | nil => rfl
  | append_singleton calls c ih => rw [after_concat, ← ih]; rfl

@[simp] theorem after_window : (r.after calls).window = r.window := by
  induction calls using List.reverseRecOn with
  | nil => rfl
  | append_singleton calls c ih => rw [after_concat, ← ih]; rfl

theorem after_expired (calls : List TimedCall) : (r.after calls).expired = r.expired := by
  funext now time
  rw [expired, expired, after_window]

theorem admitted_concat : r.admitted (calls ++ [c]) =
    r.admitted calls ++ if r.admits calls c then [c] else [] := by
  induction calls generalizing r with
  | nil => rfl
  | cons d calls ih =>
    simp only [List.cons_append, admitted, ih]
    split_ifs <;> simp_all [admits, after]

theorem ite_nil_sublist {α : Type} {p : Prop} [Decidable p] {l : List α} :
    (if p then l else []).Sublist l := by
  split_ifs
  · exact List.Sublist.refl _
  · exact List.nil_sublist _

theorem admitted_sublist : (r.admitted calls).Sublist calls := by
  induction calls using List.reverseRecOn with
  | nil => exact List.Sublist.slnil
  | append_singleton calls c ih =>
    rw [admitted_concat]
    exact ih.append ite_nil_sublist

theorem admits_iff_length (hlimit : r.limit = .whole limit) : r.admits calls c = true ↔
    ((((r.after calls).times c.caller).dropWhile (r.expired c.time)).length : ℤ) < limit := by
  rw [admits, allow, after_limit, hlimit, recent, after_expired, Bool.not_eq_true',
    ← Bool.not_eq_true, Quantity.le_whole_iff, not_le]

theorem times_after_filter : (r.after calls).times caller =
    (r.after (calls.filter (·.caller = caller))).times caller := by
  induction calls using List.reverseRecOn with
  | nil => rfl
  | append_singleton calls c ih =>
    rw [List.filter_append, after_concat]
    by_cases hc : c.caller = caller
    · obtain rfl := hc
      rw [List.filter_cons_of_pos (by simp), List.filter_nil, after_concat, times_allow_self,
        times_allow_self]
      simp only [allow, recent, ih, after_limit, after_expired]
    · rw [List.filter_cons_of_neg (by simpa using hc), List.filter_nil, List.append_nil,
        times_allow_other (Ne.symm hc), ih]

/-! ## The queue of a caller -/

/-- What is out of the window is out of it at every later time, and what is older is too. -/
theorem expired_of_expired {older later : Quantity} (hsteady : Quantity.Steady times)
    (holder : older ∈ times) (htime : time ∈ times) (hnow : now ∈ times) (hlater : later ∈ times)
    (h₁ : older.le time = true) (h₂ : time.le now = true) (h₃ : now.le later = true)
    (h : r.expired now time = true) : r.expired later older = true :=
  have hdiff := (Binary64.le_iff.mp h).2.1
  Binary64.le_trans h (hsteady.sub_le_sub holder htime hnow hlater h₁ h₂ h₃ hdiff)

/-- **What the queue of a caller keeps** of the log of the calls that were admitted, of all that were
made at past times: the latest. Each of the others was out of the window at one of the past times. -/
structure Queued (expired : Quantity → Quantity → Bool) (past log kept : List Quantity) : Prop where
  sublist : log.Sublist past
  split : ∃ gone, log = gone ++ kept ∧
    ∀ time ∈ gone, ∃ now ∈ past, time.le now = true ∧ expired now time = true

theorem Queued.kept_sublist (h : Queued r.expired past log kept) : kept.Sublist past := by
  obtain ⟨gone, rfl, -⟩ := h.split
  exact (List.sublist_append_right gone kept).trans h.sublist

theorem filter_eq_dropWhile {α : Type} {p : α → Bool} {l : List α}
    (h : l.Pairwise fun a b => p b = true → p a = true) :
    l.filter (fun a => !p a) = l.dropWhile p := by
  induction l with
  | nil => rfl
  | cons a l ih =>
    rw [List.pairwise_cons] at h
    by_cases ha : p a = true
    · rw [List.filter_cons_of_neg (by simpa using ha), List.dropWhile_cons_of_pos ha, ih h.2]
    · have hall : ∀ b ∈ l, (!p b) = true := fun b hb => by
        simpa using mt (h.1 b hb) ha
      rw [List.filter_cons_of_pos (by simpa using ha), List.dropWhile_cons_of_neg ha,
        List.filter_eq_self.mpr hall]

/-- **What is left of the queue is in the window**, and of the admitted calls nothing else is. -/
theorem Queued.filter_log (h : Queued r.expired past log kept)
    (hordered : (past ++ [now]).Pairwise fun a b => a.le b = true)
    (hsteady : Quantity.Steady (past ++ [now])) :
    log.filter (fun time => !r.expired now time) = kept.dropWhile (r.expired now) := by
  obtain ⟨hpast, -, hnow⟩ := List.pairwise_append.mp hordered
  have hmem {a : Quantity} (ha : a ∈ past) : a ∈ past ++ [now] := List.mem_append_left _ ha
  have hlast : now ∈ past ++ [now] := List.mem_append_right _ (List.mem_singleton_self now)
  have hle {a : Quantity} (ha : a ∈ past) : a.le now = true :=
    hnow a ha now (List.mem_singleton_self now)
  have hkept := h.kept_sublist
  have hlog := h.sublist
  obtain ⟨gone, rfl, hgone⟩ := h.split
  have hout : ∀ time ∈ gone, ¬(!r.expired now time) = true := fun time htime => by
    obtain ⟨earlier, hearlier, hbefore, hexp⟩ := hgone time htime
    have htime := hmem (hlog.subset (List.mem_append_left kept htime))
    rw [expired_of_expired hsteady htime htime (hmem hearlier) hlast
      (Quantity.le_self_of_le hbefore).1 hbefore (hle hearlier) hexp]
    decide
  rw [List.filter_append, List.filter_eq_nil_iff.mpr hout, List.nil_append]
  refine filter_eq_dropWhile ((hpast.sublist hkept).imp_of_mem fun {a b} ha hb hab hexp => ?_)
  have ha := hkept.subset ha
  have hb := hkept.subset hb
  exact expired_of_expired hsteady (hmem ha) (hmem hb) hlast hlast hab (hle hb)
    (Quantity.le_self_of_le (hle hb)).2 hexp

/-- **One more call** takes from the front of the queue what is out of the window, and puts its time
behind the rest if it is admitted. -/
theorem Queued.allow (h : Queued r.expired past log (r.times caller))
    (hordered : (past ++ [now]).Pairwise fun a b => a.le b = true) :
    Queued r.expired (past ++ [now]) (log ++ if (r.allow caller now).1 then [now] else [])
      ((r.allow caller now).2.times caller) := by
  obtain ⟨-, -, hnow⟩ := List.pairwise_append.mp hordered
  obtain ⟨gone, hlog, hgone⟩ := h.split
  refine ⟨h.sublist.append ite_nil_sublist,
    gone ++ (r.times caller).takeWhile (r.expired now), ?_, fun time htime => ?_⟩
  · rw [times_allow_self, recent, List.append_assoc, ← List.append_assoc (List.takeWhile _ _),
      List.takeWhile_append_dropWhile, ← List.append_assoc, ← hlog]
  · rcases List.mem_append.mp htime with htime | htime
    · obtain ⟨earlier, hearlier, hexp⟩ := hgone time htime
      exact ⟨earlier, List.mem_append_left _ hearlier, hexp⟩
    · have hpast := h.kept_sublist.subset ((List.takeWhile_prefix _).subset htime)
      have hlast := List.mem_singleton_self now
      exact ⟨now, List.mem_append_right _ hlast, hnow time hpast now hlast,
        List.mem_takeWhile_imp htime⟩

/-- **What the queue of a caller holds behind a row of calls**: a call of its own is one more, one of
another caller leaves it. -/
theorem queued_after (hnew : r.hits = []) (h : Orderly calls) (caller : String) :
    Queued r.expired (timesOf caller calls) (timesOf caller (r.admitted calls))
      ((r.after calls).times caller) := by
  induction calls using List.reverseRecOn with
  | nil =>
    have hempty : (r.after []).times caller = [] := by
      rw [after, List.foldl_nil, times, hnew]
      rfl
    rw [hempty]
    exact ⟨List.Sublist.slnil, [], rfl, by simp⟩
  | append_singleton calls c ih =>
    have hq := ih (h.sublist (List.sublist_append_left calls [c]))
    rw [← after_expired calls] at hq ⊢
    rw [after_concat, admitted_concat, timesOf_append, timesOf_append, apply_ite (timesOf caller),
      timesOf_nil]
    by_cases hc : c.caller = caller
    · obtain rfl := hc
      have hordered := h.pairwise_timesOf c.caller
      rw [timesOf_concat] at hordered
      rw [timesOf_self]
      exact hq.allow hordered
    · rw [times_allow_other (Ne.symm hc), timesOf_other hc, ite_self, List.append_nil,
        List.append_nil]
      exact hq

/-! ## Who is admitted -/

/-- **Whether a call is admitted**: if of the earlier calls of its caller that were admitted fewer
than the limit are in the window. -/
theorem admits_iff (hnew : r.hits = []) (hlimit : r.limit = .whole limit)
    (h : Orderly (calls ++ [c])) : r.admits calls c = true ↔
      ((timesOf c.caller (r.admitted calls)).countP fun time => !r.expired c.time time : ℤ) <
        limit := by
  have hq := queued_after hnew (h.sublist (List.sublist_append_left calls [c])) c.caller
  have hordered := h.pairwise_timesOf c.caller
  have hsteady := h.steady c.caller
  rw [timesOf_concat] at hordered hsteady
  rw [admits_iff_length hlimit, List.countP_eq_length_filter, hq.filter_log hordered hsteady]

/-- **How many calls are admitted** at times each of which is in the window that ends at a later one:
no more than the limit. -/
theorem countP_admitted_le (hnew : r.hits = []) (hlimit : r.limit = .whole limit)
    (h : Orderly calls) {p : Quantity → Bool}
    (hp : ∀ time ∈ timesOf caller calls, ∀ now ∈ timesOf caller calls, time.le now = true →
      p time = true → p now = true → r.expired now time = false) :
    (timesOf caller (r.admitted calls)).countP p ≤ limit.toNat := by
  induction calls using List.reverseRecOn with
  | nil => simp [admitted]
  | append_singleton calls c ih =>
    have hfront := List.sublist_append_left calls [c]
    have hsub := (timesOf_sublist caller hfront).subset
    have hle := ih (h.sublist hfront) fun time htime now hnow => hp time (hsub htime) now (hsub hnow)
    rw [admitted_concat, timesOf_append, List.countP_append]
    split_ifs with hadmits
    · by_cases hc : c.caller = caller
      · obtain rfl := hc
        by_cases hin : p c.time = true
        · -- what is counted at earlier times is in the window that ends at this one
          have hcount : (timesOf c.caller (r.admitted calls)).countP p ≤
              (timesOf c.caller (r.admitted calls)).countP fun time => !r.expired c.time time := by
            refine List.countP_mono_left fun time htime hcounted => ?_
            have hearlier := (timesOf_sublist c.caller admitted_sublist).subset htime
            have hlast : c.time ∈ timesOf c.caller (calls ++ [c]) := by
              rw [timesOf_concat]
              exact List.mem_append_right _ (List.mem_singleton_self c.time)
            have hle := h.le_of_mem hearlier
            rw [hp time (hsub hearlier) c.time hlast hle hcounted hin]
            rfl
          have hlt := (admits_iff hnew hlimit h).mp hadmits
          rw [timesOf_self, List.countP_singleton, if_pos hin]
          omega
        · rw [timesOf_self, List.countP_singleton, if_neg hin]
          exact hle
      · rw [timesOf_other hc]
        exact hle
    · exact hle

theorem admitted_refused (hnew : r.hits = []) (hlimit : r.limit = .whole limit)
    (h : Orderly (front ++ c :: back)) (hc : r.admits front c = false) :
    r.admitted (front ++ c :: back) = r.admitted (front ++ back) := by
  induction back using List.reverseRecOn with
  | nil => rw [admitted_concat, hc, List.append_nil]; simp
  | append_singleton back d ih =>
    rw [← List.cons_append, ← List.append_assoc] at h
    have hback := ih (h.sublist (List.sublist_append_left _ [d]))
    have hwithout : Orderly (front ++ back ++ [d]) :=
      h.sublist (((List.sublist_cons_self c back).append_left front).append_right [d])
    have hadmits : r.admits (front ++ c :: back) d = r.admits (front ++ back) d := by
      rw [Bool.eq_iff_iff, admits_iff hnew hlimit h, admits_iff hnew hlimit hwithout, hback]
    rw [← List.cons_append, ← List.append_assoc, ← List.append_assoc, admitted_concat,
      admitted_concat, hadmits, hback]

/-! ## The rule -/

/-- **The rule that a limiter admits calls by.** -/
structure Slides (limit : ℤ) (window : Quantity) (calls : List TimedCall) : Prop where
  /-- A call is admitted if fewer than the limit of the earlier calls of its caller were admitted in
  the window that ends at it. -/
  admits : ∀ front c back, calls = front ++ c :: back → ((fresh limit window).admits front c = true ↔
    (((fresh limit window).admitted front).countP fun d =>
      d.caller = c.caller && !(fresh limit window).expired c.time d.time : ℤ) < limit)
  /-- A window is open at its far end. -/
  within : ∀ now time : Quantity, (now.sub time).exact ≠ .nan → window.exact ≠ .nan →
    ((fresh limit window).expired now time = false ↔ (now.sub time).exact.lt window.exact = true)
  /-- No window, wherever it starts, has more admitted calls of a caller than the limit. -/
  starting : ∀ caller start, Quantity.Steady (start :: timesOf caller calls) →
    (((fresh limit window).admitted calls).countP fun d => d.caller = caller &&
      (start.le d.time && !(fresh limit window).expired d.time start)) ≤ limit.toNat
  /-- Nor has one, wherever it ends. -/
  ending : ∀ caller finish, Quantity.Steady (finish :: timesOf caller calls) →
    (((fresh limit window).admitted calls).countP fun d => d.caller = caller &&
      (d.time.le finish && !(fresh limit window).expired finish d.time)) ≤ limit.toNat
  /-- A refused call does not count. -/
  refused : ∀ front c back, calls = front ++ c :: back → (fresh limit window).admits front c = false →
    (fresh limit window).admitted calls = (fresh limit window).admitted (front ++ back)
  /-- The calls of others do not count. -/
  others : ∀ front c back, calls = front ++ c :: back → (fresh limit window).admits front c =
    (fresh limit window).admits (front.filter (·.caller = c.caller)) c

/-- **Calls in order are admitted by the rule**, whatever the limit and the window. -/
theorem slides (limit : ℤ) (window : Quantity) (calls : List TimedCall)
    (hordered : calls.Pairwise fun c d => c.time.le d.time = true)
    (hsteady : ∀ caller, Quantity.Steady (timesOf caller calls)) : Slides limit window calls := by
  have h : Orderly calls := ⟨hordered, hsteady⟩
  refine ⟨?admits, ?within, ?starting, ?ending, ?refused, ?others⟩
  case admits =>
    rintro front c back rfl
    have hfront : Orderly (front ++ [c]) :=
      h.sublist ((List.singleton_sublist.mpr List.mem_cons_self).append_left front)
    rw [admits_iff rfl rfl hfront, countP_timesOf]
  case within =>
    intro now time hdiff hwindow
    have hle : (fresh limit window).expired now time = true ↔
        (now.sub time).exact.lt window.exact = false :=
      Binary64.le_iff.trans ⟨fun h => h.2.2, fun h => ⟨hwindow, hdiff, h⟩⟩
    rw [← Bool.not_eq_true, hle, Bool.not_eq_false]
  case starting =>
    intro caller start hsteady
    rw [← countP_timesOf fun time => start.le time && !(fresh limit window).expired time start]
    refine countP_admitted_le rfl rfl h fun time htime now hnow hle hfirst hlast => ?_
    simp only [Bool.and_eq_true, Bool.not_eq_true'] at hfirst hlast
    refine Bool.eq_false_iff.mpr fun hexp => ?_
    have hstart := expired_of_expired hsteady List.mem_cons_self (List.mem_cons_of_mem _ htime)
      (List.mem_cons_of_mem _ hnow) (List.mem_cons_of_mem _ hnow) hfirst.1 hle
      (Quantity.le_self_of_le hle).2 hexp
    exact Bool.eq_false_iff.mp hlast.2 hstart
  case ending =>
    intro caller finish hsteady
    rw [← countP_timesOf fun time => time.le finish && !(fresh limit window).expired finish time]
    refine countP_admitted_le rfl rfl h fun time htime now hnow hle hfirst hlast => ?_
    simp only [Bool.and_eq_true, Bool.not_eq_true'] at hfirst hlast
    refine Bool.eq_false_iff.mpr fun hexp => ?_
    have hfinish := expired_of_expired hsteady (List.mem_cons_of_mem _ htime)
      (List.mem_cons_of_mem _ htime) (List.mem_cons_of_mem _ hnow) List.mem_cons_self
      (Quantity.le_self_of_le hle).1 hle hlast.1 hexp
    exact Bool.eq_false_iff.mp hfirst.2 hfinish
  case refused =>
    rintro front c back rfl hc
    exact admitted_refused rfl rfl h hc
  case others =>
    rintro front c back -
    rw [admits, admits, allow, allow, recent, recent, after_expired, after_expired, after_limit,
      after_limit, times_after_filter]

/-- A limit of two in a minute, and times of both kinds. -/
theorem slides_minute :
    let calls : List TimedCall := [⟨"a", .whole 0⟩, ⟨"b", .whole 0⟩,
      ⟨"a", .real (.ofRatio false 1 2)⟩, ⟨"a", .whole 59⟩, ⟨"a", .whole 60⟩]
    (calls.Pairwise fun c d => c.time.le d.time = true) ∧
      (∀ caller, Quantity.Steady (timesOf caller calls)) ∧ Slides 2 (.whole 60) calls := by
  intro calls
  have hordered : calls.Pairwise fun c d => c.time.le d.time = true := by decide +kernel
  have hsteady (caller : String) : Quantity.Steady (timesOf caller calls) := by
    refine Quantity.steady_small fun i hi => ?_
    have hmem := timesOf_subset hi
    simp only [calls, List.map_cons, List.map_nil, List.mem_cons, Quantity.whole.injEq, reduceCtorEq,
      List.not_mem_nil, or_false, false_or] at hmem
    have hbound : 60 ≤ twoTo 52 := by decide
    omega
  exact ⟨hordered, hsteady, slides 2 (.whole 60) calls hordered hsteady⟩

/-- Beside a floating-point number an integer of 56 bits is not steady: its difference with the
earlier time is rounded into the window, its difference with the later one is not. -/
theorem refused_below_limit :
    let r := fresh 2 (.whole 36028797018963970)
    let earlier : List TimedCall := [⟨"a", .real (.ofRatio false 1 2)⟩, ⟨"a", .whole 1⟩]
    let c : TimedCall := ⟨"a", .whole 36028797018963971⟩
    ((earlier ++ [c]).Pairwise fun c d => c.time.le d.time = true) ∧
      ¬(r.admits earlier c = true ↔ ((r.admitted earlier).countP fun d =>
        d.caller = c.caller && (c.time.sub d.time).exact.lt r.window.exact : ℤ) < 2) := by
  decide +kernel

end RateLimiter

end NetSketch.Service
