import Mathlib.Data.List.Induction
import Mathlib.Data.List.TakeWhile
import Mathlib.Tactic.Linarith
import Mathlib.Tactic.Tauto
import LookupAggregator.Clock
import LookupAggregator.Lib.Dict
import LookupAggregator.Lib.Lists

/-! # The sliding-window limiter

`SlidingWindowLimiter` keeps, for each key, the deque of the times at which it let a call through, and
pops stale times from its left end before it counts. `allow` runs under a lock and awaits nothing inside
it, so a run is a list of calls, each with the clock reading it took.

The specification counts: a call is let through when fewer than `max` calls of its key were let through
at most `window` ago (`specAllow`). The deque of a key is a final segment of its accepted times, and
what is missing is stale (`Inv`); hence limiter and specification let the same calls through
(`run_eq_specRun`). -/

namespace LookupAggregator.RateLimit

open LookupAggregator.Lib

/-! ### The limiter -/

/-- `SlidingWindowLimiter`: `_max`, `_window` and the deques `_hits`. -/
structure SlidingWindowLimiter where
  max : ℤ
  window : Time
  hits : Dict String (List Time)

/-- A call of `allow`: the key and the clock reading. -/
structure Call where
  key : String
  now : Time
deriving DecidableEq

namespace SlidingWindowLimiter

/-- `SlidingWindowLimiter(max_requests, window_s)`. -/
def init (maxRequests : ℤ) (windowS : Time) : SlidingWindowLimiter :=
  ⟨Max.max 1 maxRequests, windowS, Dict.empty⟩

/-- `self._hits[key]`: a missing key has the empty deque. -/
def queue (l : SlidingWindowLimiter) (key : String) : List Time := (l.hits.get? key).getD []

/-- The loop `while q and now - q[0] > self._window: q.popleft()`. -/
def popStale (window now : Time) (q : List Time) : List Time :=
  q.dropWhile fun u => decide (now - u > window)

/-- `allow(key)`, with the reading `now`. -/
def allow (l : SlidingWindowLimiter) (c : Call) : Bool × SlidingWindowLimiter :=
  let q := popStale l.window c.now (l.queue c.key)
  if (q.length : ℤ) ≥ l.max then (false, { l with hits := l.hits.set c.key q })
  else (true, { l with hits := l.hits.set c.key (q ++ [c.now]) })

end SlidingWindowLimiter

open SlidingWindowLimiter

/-- One call of a run: the limiter after it, and the calls let through so far. -/
def step (s : SlidingWindowLimiter × List Call) (c : Call) : SlidingWindowLimiter × List Call :=
  ((s.1.allow c).2, if (s.1.allow c).1 then s.2 ++ [c] else s.2)

/-- A run from a new limiter. -/
def run (maxRequests : ℤ) (windowS : Time) (calls : List Call) : SlidingWindowLimiter × List Call :=
  calls.foldl step (init maxRequests windowS, [])

/-- The clock readings of a run. -/
def readings (calls : List Call) : List Time := calls.map Call.now

theorem run_concat (m : ℤ) (w : Time) (calls : List Call) (c : Call) :
    run m w (calls ++ [c]) = step (run m w calls) c := by simp [run]

/-! ### One call -/

theorem queue_allow_self (l : SlidingWindowLimiter) (c : Call) :
    (l.allow c).2.queue c.key = popStale l.window c.now (l.queue c.key) ++
      if (l.allow c).1 then [c.now] else [] := by
  unfold allow
  dsimp only
  split_ifs with h h'
  · exact absurd h' (by simp)
  · simp [queue, Dict.get?_set_self]
  · simp [queue, Dict.get?_set_self]
  · rename_i h'; exact absurd rfl h'

theorem queue_allow_of_ne (l : SlidingWindowLimiter) {c : Call} {k : String} (h : k ≠ c.key) :
    (l.allow c).2.queue k = l.queue k := by
  unfold allow
  dsimp only
  split_ifs <;> simp only [queue, Dict.get?_set_of_ne _ h]

theorem allow_max (l : SlidingWindowLimiter) (c : Call) : (l.allow c).2.max = l.max := by
  unfold allow; dsimp only; split_ifs <;> rfl

theorem allow_window (l : SlidingWindowLimiter) (c : Call) : (l.allow c).2.window = l.window := by
  unfold allow; dsimp only; split_ifs <;> rfl

theorem allow_eq_true (l : SlidingWindowLimiter) (c : Call) :
    (l.allow c).1 = true ↔ ((popStale l.window c.now (l.queue c.key)).length : ℤ) < l.max := by
  unfold allow
  dsimp only
  split_ifs with h
  · simpa using h
  · simpa using not_le.mp h

theorem run_max (m : ℤ) (w : Time) (calls : List Call) : (run m w calls).1.max = Max.max 1 m := by
  induction calls using List.reverseRecOn with
  | nil => rfl
  | append_singleton calls c ih => rw [run_concat, step, allow_max, ih]

theorem run_window (m : ℤ) (w : Time) (calls : List Call) : (run m w calls).1.window = w := by
  induction calls using List.reverseRecOn with
  | nil => rfl
  | append_singleton calls c ih => rw [run_concat, step, allow_window, ih]

/-! ### The invariant -/

/-- The times at which calls of `k` were let through. -/
def times (k : String) (acc : List Call) : List Time := (acc.filter fun a => a.key = k).map Call.now

/-- The deque of `k` is a final segment of its accepted times, and what is missing was stale at some
earlier reading. -/
def Inv (w : Time) (calls : List Call) (s : SlidingWindowLimiter × List Call) : Prop :=
  s.2.Sublist calls ∧ ∀ k, ∃ gone, times k s.2 = gone ++ s.1.queue k ∧
    ∀ u ∈ gone, ∃ c ∈ calls, w < c.now - u

theorem times_concat (k : String) (acc : List Call) (c : Call) :
    times k (acc ++ [c]) = times k acc ++ if c.key = k then [c.now] else [] := by
  unfold times
  by_cases h : c.key = k <;> simp [h]

theorem inv_run (m : ℤ) (w : Time) (calls : List Call) : Inv w calls (run m w calls) := by
  induction calls using List.reverseRecOn with
  | nil => exact ⟨by simp [run], fun k => ⟨[], by simp [run, times, init, queue], by simp⟩⟩
  | append_singleton calls c ih =>
    obtain ⟨hsub, hq⟩ := ih
    rw [run_concat]
    refine ⟨?_, fun k => ?_⟩
    · unfold step
      dsimp only
      split_ifs
      · exact sublist_append_singleton hsub
      · exact hsub.trans (List.sublist_append_left _ _)
    · obtain ⟨gone, he, hg⟩ := hq k
      by_cases hk : c.key = k
      · subst hk
        -- the popped times join the missing ones
        refine ⟨gone ++ ((run m w calls).1.queue c.key).takeWhile fun u => decide (c.now - u > w),
          ?_, fun u hu => ?_⟩
        · unfold step
          dsimp only
          rw [queue_allow_self, run_window, popStale]
          have hsplit := List.takeWhile_append_dropWhile (p := fun u => decide (c.now - u > w))
            (l := (run m w calls).1.queue c.key)
          rw [← List.append_assoc, List.append_assoc gone, hsplit, ← he]
          split_ifs
          · rw [times_concat, if_pos rfl]
          · simp
        · rcases List.mem_append.mp hu with hu | hu
          · obtain ⟨c', hc', hlt⟩ := hg u hu
            exact ⟨c', by simp [hc'], hlt⟩
          · exact ⟨c, by simp, by simpa using List.mem_takeWhile_imp hu⟩
      · refine ⟨gone, ?_, fun u hu => ?_⟩
        · unfold step
          dsimp only
          rw [queue_allow_of_ne _ (Ne.symm hk), ← he]
          split_ifs
          · rw [times_concat, if_neg hk, List.append_nil]
          · rfl
        · obtain ⟨c', hc', hlt⟩ := hg u hu
          exact ⟨c', by simp [hc'], hlt⟩

/-! ### The specification -/

/-- An accepted call that counts against `c`: same key, at most `w` ago. -/
def counts (w : Time) (c a : Call) : Bool := decide (a.key = c.key ∧ c.now - a.now ≤ w)

/-- **The counting specification**: fewer than `max` accepted calls of the key in the window. -/
def specAllow (max : ℤ) (w : Time) (acc : List Call) (c : Call) : Bool :=
  decide ((acc.countP (counts w c) : ℤ) < max)

/-- The calls the specification lets through. -/
def specRun (max : ℤ) (w : Time) (calls : List Call) : List Call :=
  calls.foldl (fun acc c => if specAllow max w acc c then acc ++ [c] else acc) []

theorem specRun_concat (max : ℤ) (w : Time) (calls : List Call) (c : Call) :
    specRun max w (calls ++ [c]) = if specAllow max w (specRun max w calls) c then
      specRun max w calls ++ [c] else specRun max w calls := by
  unfold specRun
  rw [List.foldl_concat]

/-- Trimming the deque counts the accepted calls of the window. -/
theorem length_popStale (m : ℤ) (w : Time) {calls : List Call} {c : Call}
    (h : Chronological (readings (calls ++ [c]))) :
    (popStale w c.now ((run m w calls).1.queue c.key)).length =
      (run m w calls).2.countP (counts w c) := by
  obtain ⟨hsub, hq⟩ := inv_run m w calls
  obtain ⟨gone, he, hg⟩ := hq c.key
  rw [readings, List.map_append, List.map_singleton, chronological_concat] at h
  obtain ⟨hc, hle⟩ := h
  have hsorted : Chronological (times c.key (run m w calls).2) :=
    List.Pairwise.sublist ((List.filter_sublist.trans hsub).map Call.now) hc
  -- what is missing from the deque is stale at `c.now` too
  have hgone : ∀ u ∈ gone, ¬ c.now - u ≤ w := by
    intro u hu
    obtain ⟨c', hc', hlt⟩ := hg u hu
    have := hle _ (List.mem_map_of_mem hc')
    exact not_le.mpr (lt_of_lt_of_le hlt (sub_le_sub_right this u))
  have hqueue : Chronological ((run m w calls).1.queue c.key) := by
    rw [he] at hsorted
    exact (List.pairwise_append.mp hsorted).2.1
  have hstale : ((run m w calls).1.queue c.key).Pairwise fun a b =>
      decide (c.now - b > w) = true → decide (c.now - a > w) = true := by
    refine hqueue.imp fun {a b} hab hb => ?_
    simp only [decide_eq_true_eq] at hb ⊢
    exact lt_of_lt_of_le hb (sub_le_sub_left hab c.now)
  calc (popStale w c.now ((run m w calls).1.queue c.key)).length
      = (((run m w calls).1.queue c.key).filter fun u => c.now - u ≤ w).length := by
        rw [popStale, dropWhile_eq_filter hstale]
        simp [← not_lt, lt_sub_iff_add_lt]
    _ = ((times c.key (run m w calls).2).filter fun u => c.now - u ≤ w).length := by
        have hnone : gone.filter (fun u => c.now - u ≤ w) = [] :=
          List.filter_eq_nil_iff.mpr (by simpa using hgone)
        rw [he, List.filter_append, hnone, List.nil_append]
    _ = (run m w calls).2.countP (counts w c) := by
        rw [times, List.filter_map, List.length_map, List.filter_filter,
          List.countP_eq_length_filter]
        congr 1
        exact List.filter_congr fun a _ => by simp [counts, Bool.and_comm]

/-- One call: limiter and specification agree. -/
theorem allow_eq_specAllow (m : ℤ) (w : Time) {calls : List Call} {c : Call}
    (h : Chronological (readings (calls ++ [c]))) :
    ((run m w calls).1.allow c).1 = specAllow (Max.max 1 m) w (run m w calls).2 c := by
  rw [Bool.eq_iff_iff, allow_eq_true, run_max, run_window, length_popStale m w h, specAllow,
    decide_eq_true_eq]

/-- **Refinement**: over a whole run, limiter and specification let the same calls through. -/
theorem run_eq_specRun (m : ℤ) (w : Time) {calls : List Call} (h : Chronological (readings calls)) :
    (run m w calls).2 = specRun (Max.max 1 m) w calls := by
  induction calls using List.reverseRecOn with
  | nil => rfl
  | append_singleton calls c ih =>
    have hpre : Chronological (readings calls) := by
      rw [readings, List.map_append] at h
      exact h.prefix
    rw [run_concat, step, allow_eq_specAllow m w h, specRun_concat, ← ih hpre]

/-! ### Consequences of the specification -/

/-- Refused calls change nothing: the run without them lets the same calls through. -/
theorem specRun_specRun (max : ℤ) (w : Time) (calls : List Call) :
    specRun max w (specRun max w calls) = specRun max w calls := by
  induction calls using List.reverseRecOn with
  | nil => rfl
  | append_singleton calls c ih =>
    rw [specRun_concat]
    split_ifs with h
    · rw [specRun_concat, ih, if_pos h]
    · exact ih

theorem specAllow_filter (max : ℤ) (w : Time) (acc : List Call) (c : Call) :
    specAllow max w (acc.filter fun a => a.key = c.key) c = specAllow max w acc c := by
  have hcount : (acc.filter fun a => a.key = c.key).countP (counts w c) = acc.countP (counts w c) := by
    rw [List.countP_filter]
    refine List.countP_congr fun a _ => ?_
    simp only [counts, Bool.and_eq_true, decide_eq_true_eq]
    tauto
  rw [specAllow, hcount, specAllow]

/-- Calls on other keys change nothing. -/
theorem specRun_filter (max : ℤ) (w : Time) (k : String) (calls : List Call) :
    specRun max w (calls.filter fun a => a.key = k) =
      (specRun max w calls).filter fun a => a.key = k := by
  induction calls using List.reverseRecOn with
  | nil => rfl
  | append_singleton calls c ih =>
    rw [specRun_concat, List.filter_append]
    by_cases hk : c.key = k
    · subst hk
      rw [List.filter_cons_of_pos (by simp), List.filter_nil, specRun_concat, ih, specAllow_filter]
      split_ifs
      · rw [List.filter_append, List.filter_cons_of_pos (by simp), List.filter_nil]
      · rfl
    · rw [List.filter_cons_of_neg (by simpa using hk), List.filter_nil, List.append_nil, ih]
      split_ifs
      · rw [List.filter_append, List.filter_cons_of_neg (by simpa using hk), List.filter_nil,
          List.append_nil]
      · rfl

/-- An accepted call of `k` in the closed interval from `a` of length `w`. -/
def inWindow (w : Time) (k : String) (a : Time) (b : Call) : Bool :=
  decide (b.key = k ∧ a ≤ b.now ∧ b.now ≤ a + w)

/-- No closed interval of length `w` has more than `max` accepted calls of one key. -/
theorem countP_inWindow_le {max : ℤ} (hmax : 0 ≤ max) (w : Time) (k : String) (a : Time)
    (calls : List Call) : ((specRun max w calls).countP (inWindow w k a) : ℤ) ≤ max := by
  induction calls using List.reverseRecOn with
  | nil => exact hmax
  | append_singleton calls c ih =>
    rw [specRun_concat]
    split_ifs with h
    swap; · exact ih
    rw [List.countP_append, List.countP_singleton]
    by_cases hc : inWindow w k a c = true
    swap; · simpa [hc] using ih
    -- every earlier accepted call of the interval is one that `c` was counted against
    have hsub : (specRun max w calls).countP (inWindow w k a) ≤
        (specRun max w calls).countP (counts w c) := by
      refine List.countP_mono_left fun b _ hb => ?_
      simp only [inWindow, decide_eq_true_eq] at hb hc
      obtain ⟨hbk, hab, -⟩ := hb
      obtain ⟨hck, -, hca⟩ := hc
      simp only [counts, decide_eq_true_eq]
      exact ⟨by rw [hbk, hck], by linarith⟩
    rw [specAllow, decide_eq_true_eq] at h
    rw [if_pos hc]
    push_cast
    omega

/-- **The limiter refines the counting specification.** After any run, a call is let through exactly
when fewer than `max(1, max_requests)` calls of its key were let through at most `window` ago; so no
closed interval of length `window` has more than that many accepted calls of one key, and neither the
refused calls of the run nor its calls on other keys matter. -/
theorem allow_refines_counting (maxRequests : ℤ) (windowS : Time) (calls : List Call) (c : Call)
    (h : Chronological (readings (calls ++ [c]))) :
    (((run maxRequests windowS calls).1.allow c).1 = true ↔
      (((run maxRequests windowS calls).2.countP fun a =>
        decide (a.key = c.key ∧ c.now - a.now ≤ windowS) : ℕ) : ℤ) < max 1 maxRequests) ∧
    (∀ k a, (((run maxRequests windowS calls).2.countP fun b =>
      decide (b.key = k ∧ a ≤ b.now ∧ b.now ≤ a + windowS) : ℕ) : ℤ) ≤ max 1 maxRequests) ∧
    ((run maxRequests windowS (run maxRequests windowS calls).2).1.allow c).1 =
      ((run maxRequests windowS calls).1.allow c).1 ∧
    ((run maxRequests windowS (calls.filter fun a => a.key = c.key)).1.allow c).1 =
      ((run maxRequests windowS calls).1.allow c).1 := by
  have hpre : Chronological (readings calls) := by
    rw [readings, List.map_append] at h
    exact h.prefix
  -- a run of part of the calls, then `c`, reads the clock in order too
  have hpart : ∀ {part : List Call}, part.Sublist calls →
      Chronological (readings (part ++ [c])) ∧ Chronological (readings part) := fun hp =>
    ⟨List.Pairwise.sublist ((sublist_append_singleton hp).map _) h,
      List.Pairwise.sublist (hp.map _) hpre⟩
  obtain ⟨hsub, -⟩ := inv_run maxRequests windowS calls
  refine ⟨?_, fun k a => ?_, ?_, ?_⟩
  · rw [allow_eq_specAllow _ _ h, specAllow, decide_eq_true_eq]
    rfl
  · rw [run_eq_specRun _ _ hpre]
    exact countP_inWindow_le (by omega) windowS k a calls
  · obtain ⟨h1, h2⟩ := hpart hsub
    rw [allow_eq_specAllow _ _ h1, allow_eq_specAllow _ _ h, run_eq_specRun _ _ h2,
      run_eq_specRun _ _ hpre, specRun_specRun]
  · obtain ⟨h1, h2⟩ := hpart (List.filter_sublist (p := fun a => decide (a.key = c.key)))
    rw [allow_eq_specAllow _ _ h1, allow_eq_specAllow _ _ h, run_eq_specRun _ _ h2,
      run_eq_specRun _ _ hpre, specRun_filter, specAllow_filter]

/-- A burst of three calls against a limit of two, and the first of them outside the window of the
next call. -/
theorem allow_refines_counting_burst :
    ((run 2 60 [⟨"a", 0⟩, ⟨"a", 10⟩, ⟨"a", 10⟩]).1.allow ⟨"a", 61⟩).1 = true := by
  have hc : Chronological (readings ([⟨"a", 0⟩, ⟨"a", 10⟩, ⟨"a", 10⟩] ++ [⟨"a", 61⟩])) := by
    norm_num [readings, Chronological]
  exact (allow_refines_counting 2 60 [⟨"a", 0⟩, ⟨"a", 10⟩, ⟨"a", 10⟩] ⟨"a", 61⟩ hc).1.mpr
    (by decide +kernel)

end LookupAggregator.RateLimit
