import Mathlib.Data.List.Flatten
import LookupAggregator.ResilientHttp.Get

/-! # What `resilient_get` comes to

`resilientGet` is `resilient_get` read as one loop over the outcomes of its attempts: the GETs and sleeps,
in order, and how the call ends. It is to send one GET for each attempt up to the first whose outcome is not
retryable, to sleep between them, and to end with the outcome of the last one. So it does unless it would have
to sleep after the attempt 1024 (`resilientGet_of_le`); then it ends with an `OverflowError`
(`resilientGet_overflows`), and `resilientGet_iff` says exactly when.

A call that steps through its phases among others does the same, if it is not cancelled and its slot can
be left: `resilientGet_of_callRun`. -/

namespace LookupAggregator.ResilientHttp

open Outbound

/-! ### The body of a response -/

/-- The body, whole. -/
def Response.body (r : Response) : List UInt8 := r.chunks.flatten

/-- The `Content-Length` or the body is over the limit. -/
def Response.overLimit (r : Response) (maxBytes : ℤ) : Bool :=
  (contentLengthInt r).any (· > maxBytes) || decide ((r.body.length : ℤ) > maxBytes)

/-- **The chunks do not matter, only what they make together.** -/
theorem readChunks_eq {maxBytes : ℤ} {chunks : List (List UInt8)} :
    ∀ {buf : List UInt8}, (buf.length : ℤ) ≤ maxBytes → readChunks maxBytes buf chunks =
      if ((buf ++ chunks.flatten).length : ℤ) > maxBytes then ⟨.error (.bodyTooLarge maxBytes), true⟩
      else ⟨.ok (buf ++ chunks.flatten), false⟩ := by
  induction chunks with
  | nil =>
    intro buf h
    rw [List.flatten_nil, List.append_nil, if_neg (not_lt.mpr h)]
    rfl
  | cons chunk chunks ih =>
    intro buf h
    unfold readChunks
    rw [List.flatten_cons, ← List.append_assoc]
    split_ifs with hover htotal htotal
    · rfl
    · -- a part is over the limit, but not the whole
      rw [List.length_append] at htotal
      push_cast at htotal
      omega
    · rw [ih (not_lt.mp hover), if_pos htotal]
    · rw [ih (not_lt.mp hover), if_neg htotal]

/-- A header over the limit closes the response before any chunk is read. -/
theorem readResponseBodyLimited_header (r : Response) (maxBytes : ℤ) :
    readResponseBodyLimited r maxBytes =
      if (contentLengthInt r).any (· > maxBytes) then ⟨.error (.bodyTooLarge maxBytes), true⟩
      else readChunks maxBytes [] r.chunks := by
  unfold readResponseBodyLimited
  cases contentLengthInt r with
  | none => rfl
  | some cl => simp only [Option.any_some, decide_eq_true_eq]

/-- **A body is read whole, or is too large.** -/
theorem readResponseBodyLimited_eq {r : Response} {maxBytes : ℤ} (h : 0 ≤ maxBytes) :
    readResponseBodyLimited r maxBytes =
      if r.overLimit maxBytes then ⟨.error (.bodyTooLarge maxBytes), true⟩ else ⟨.ok r.body, false⟩ := by
  have hchunks : readChunks maxBytes [] r.chunks =
      if (r.body.length : ℤ) > maxBytes then ⟨.error (.bodyTooLarge maxBytes), true⟩
      else ⟨.ok r.body, false⟩ := by
    rw [readChunks_eq (by simpa using h)]
    rfl
  unfold Response.overLimit
  rw [readResponseBodyLimited_header, hchunks]
  cases (contentLengthInt r).any (· > maxBytes) with
  | true => rfl
  | false => simp only [Bool.false_or, decide_eq_true_eq, Bool.false_eq_true, if_false]

/-! ### The attempt loop -/

/-- What a call does: it sends the GET of an attempt, or sleeps. -/
inductive Action
  | get (attempt : ℕ)
  | sleep (duration : Time)
deriving DecidableEq

/-- What a call does, in order, and how it ends: with a response, by raising, or, for `none`, by falling out
of the loop. -/
structure CallTrace where
  actions : List Action
  result : Option (Except GetError Response)

/-- The same after more actions. -/
def CallTrace.after (t : CallTrace) (actions : List Action) : CallTrace :=
  { t with actions := actions ++ t.actions }

/-- `await asyncio.sleep(backoff * (2**attempt))` and `continue`, `next` being the rest of the loop. -/
def sleepThen (st : HttpSettings) (next : CallTrace) (attempt : ℕ) : CallTrace :=
  if overflows attempt then ⟨[], some (.error overflowError)⟩ else next.after [.sleep (st.backoff attempt)]

/-- What follows the GET of an attempt. -/
def afterOutcome (st : HttpSettings) (next : CallTrace) (attempt : ℕ) :
    Except GetError Response → CallTrace
  | .error e =>
    if e.retryable then
      if ((attempt + 1 : ℕ) : ℤ) ≥ st.attempts then ⟨[], some (.error e)⟩
      else sleepThen st next attempt
    else ⟨[], some (.error e)⟩
  | .ok response =>
    match (readResponseBodyLimited response st.maxResponseBodyBytes).result with
    | .error e => ⟨[], some (.error e)⟩
    | .ok body =>
      if response.statusCode ∈ retryStatus ∧ ((attempt + 1 : ℕ) : ℤ) < st.attempts then
        sleepThen st next attempt
      else ⟨[], some (.ok (materializedResponse response body))⟩

/-- `for attempt in range(attempts)`, with `remaining` attempts to go; `outcomes` tells what `client.get`
gives in each attempt. -/
def attemptLoop (st : HttpSettings) (outcomes : ℕ → Except GetError Response) : ℕ → ℕ → CallTrace
  | 0, _ => ⟨[], none⟩
  | remaining + 1, attempt =>
    (afterOutcome st (attemptLoop st outcomes remaining (attempt + 1)) attempt (outcomes attempt)).after
      [.get attempt]

/-- `resilient_get(client, settings, url)`. -/
def resilientGet (st : HttpSettings) (outcomes : ℕ → Except GetError Response) : CallTrace :=
  attemptLoop st outcomes st.attempts.toNat 0

/-! ### The last attempt -/

/-- One of the exceptions of the `except` clause, or a 502, 503 or 504 with a body within the limit. -/
def Retryable (st : HttpSettings) : Except GetError Response → Prop
  | .error e => e.retryable
  | .ok r => r.statusCode ∈ retryStatus ∧ r.overLimit st.maxResponseBodyBytes = false

/-- How a call ends that makes no attempt after this outcome. -/
def finalResult (st : HttpSettings) : Except GetError Response → Except GetError Response
  | .error e => .error e
  | .ok r =>
    if r.overLimit st.maxResponseBodyBytes then .error (.bodyTooLarge st.maxResponseBodyBytes)
    else .ok (materializedResponse r r.body)

/-- The first attempt whose outcome is not retryable, or the last of all if they all are. -/
structure LastAttempt (st : HttpSettings) (outcomes : ℕ → Except GetError Response) (k : ℕ) : Prop where
  lt : (k : ℤ) < st.attempts
  before : ∀ i < k, Retryable st (outcomes i)
  last : Retryable st (outcomes k) → (k : ℤ) + 1 = st.attempts

/-- The GETs of the attempts up to `k`, with the sleeps between them. -/
def actionsUpTo (st : HttpSettings) (k : ℕ) : List Action :=
  (List.range k).flatMap (fun i => [.get i, .sleep (st.backoff i)]) ++ [.get k]

section Loop
variable {st : HttpSettings} {outcomes : ℕ → Except GetError Response}

theorem sleepThen_of_lt {next : CallTrace} {a : ℕ} (h : a < 1024) :
    sleepThen st next a = next.after [.sleep (st.backoff a)] := by
  rw [sleepThen, overflows, decide_eq_false (by omega), if_neg (by decide)]

/-- **A retryable outcome is retried**, if an attempt is left. -/
theorem afterOutcome_of_retryable (hmax : 0 ≤ st.maxResponseBodyBytes) {next : CallTrace} {a : ℕ}
    {outcome : Except GetError Response} (h : Retryable st outcome) (ha : ((a + 1 : ℕ) : ℤ) < st.attempts) :
    afterOutcome st next a outcome = sleepThen st next a := by
  cases outcome with
  | error e =>
    have he : e.retryable = true := h
    simp only [afterOutcome]
    rw [if_pos he, if_neg (not_le.mpr ha)]
  | ok r =>
    simp only [afterOutcome, readResponseBodyLimited_eq hmax, h.2, Bool.false_eq_true, if_false]
    rw [if_pos ⟨h.1, ha⟩]

/-- **Any other outcome ends the call**, and so does the last one. -/
theorem afterOutcome_of_last (hmax : 0 ≤ st.maxResponseBodyBytes) {next : CallTrace} {a : ℕ}
    {outcome : Except GetError Response} (h : Retryable st outcome → st.attempts ≤ ((a + 1 : ℕ) : ℤ)) :
    afterOutcome st next a outcome = ⟨[], some (finalResult st outcome)⟩ := by
  cases outcome with
  | error e =>
    simp only [afterOutcome, finalResult]
    split_ifs with he ha
    · rfl
    · exact absurd (h he) ha
    · rfl
  | ok r =>
    simp only [afterOutcome, finalResult, readResponseBodyLimited_eq hmax]
    cases hover : r.overLimit st.maxResponseBodyBytes with
    | true => rfl
    | false =>
      simp only [Bool.false_eq_true, if_false]
      exact if_neg fun hretry => absurd (h ⟨hretry.1, hover⟩) (not_le.mpr hretry.2)

/-- The loop has come to the attempt `k`, after a GET and a sleep for each one before. -/
theorem resilientGet_rounds (hmax : 0 ≤ st.maxResponseBodyBytes) {k : ℕ} (hlt : (k : ℤ) < st.attempts)
    (hbefore : ∀ i < k, Retryable st (outcomes i)) (hk : k ≤ 1024) :
    resilientGet st outcomes = (attemptLoop st outcomes (st.attempts.toNat - k) k).after
      ((List.range k).flatMap fun i => [.get i, .sleep (st.backoff i)]) := by
  induction k with
  | zero => rfl
  | succ k ih =>
    rw [ih (by omega) (fun i hi => hbefore i (by omega)) (by omega),
      show st.attempts.toNat - k = st.attempts.toNat - (k + 1) + 1 by omega]
    nth_rewrite 1 [attemptLoop]
    rw [afterOutcome_of_retryable hmax (hbefore k (by omega)) hlt, sleepThen_of_lt (by omega),
      List.range_succ, List.flatMap_append]
    simp [CallTrace.after]

/-- **One GET for each attempt up to the last one, a sleep between any two, and the outcome of the last**, if
no sleep is needed after the attempt 1024. -/
theorem resilientGet_of_le (hmax : 0 ≤ st.maxResponseBodyBytes) {k : ℕ} (h : LastAttempt st outcomes k)
    (hk : k ≤ 1024) :
    resilientGet st outcomes = ⟨actionsUpTo st k, some (finalResult st (outcomes k))⟩ := by
  have hlt := h.lt
  rw [resilientGet_rounds hmax hlt h.before hk,
    show st.attempts.toNat - k = st.attempts.toNat - (k + 1) + 1 by omega, attemptLoop,
    afterOutcome_of_last hmax fun hr => by have := h.last hr; omega]
  rfl

/-- **After 1025 GETs that are all to be retried the call raises an `OverflowError`.** -/
theorem resilientGet_overflows (hmax : 0 ≤ st.maxResponseBodyBytes) {k : ℕ} (h : LastAttempt st outcomes k)
    (hk : 1024 < k) : resilientGet st outcomes = ⟨actionsUpTo st 1024, some (.error overflowError)⟩ := by
  have hlt := h.lt
  have hovf : sleepThen st (attemptLoop st outcomes (st.attempts.toNat - 1025) 1025) 1024 =
      ⟨[], some (.error overflowError)⟩ := rfl
  rw [resilientGet_rounds hmax (k := 1024) (by omega) (fun i hi => h.before i (by omega)) le_rfl,
    show st.attempts.toNat - 1024 = st.attempts.toNat - 1025 + 1 by omega, attemptLoop,
    afterOutcome_of_retryable hmax (h.before 1024 hk) (by omega), hovf]
  rfl

/-- A call makes one attempt at least. -/
theorem attempts_pos (st : HttpSettings) : 0 < st.attempts := lt_of_lt_of_le one_pos (le_max_left _ _)

theorem exists_lastAttempt (st : HttpSettings) (outcomes : ℕ → Except GetError Response) :
    ∃ k, LastAttempt st outcomes k := by
  by_cases h : ∃ k, ¬ (Retryable st (outcomes k) ∧ (k : ℤ) + 1 < st.attempts)
  · classical
    -- the first attempt after which there is none
    have hbefore (i : ℕ) (hi : i < Nat.find h) := not_not.mp (Nat.find_min h hi)
    have hlt : (Nat.find h : ℤ) < st.attempts := by
      rcases Nat.eq_zero_or_pos (Nat.find h) with h0 | hpos
      · rw [h0]
        exact attempts_pos st
      · have := (hbefore (Nat.find h - 1) (by omega)).2
        omega
    refine ⟨Nat.find h, hlt, fun i hi => (hbefore i hi).1, fun hr => ?_⟩
    have hnot : ¬ (Nat.find h : ℤ) + 1 < st.attempts := fun hl => Nat.find_spec h ⟨hr, hl⟩
    omega
  · push Not at h
    have := (h st.attempts.toNat).2
    have := attempts_pos st
    omega

/-- The last attempt is one of the first 1025: at most so many are allowed, or one of them is not retried. -/
theorem LastAttempt.le_iff {k : ℕ} (h : LastAttempt st outcomes k) :
    k ≤ 1024 ↔ st.httpGetMaxRetries ≤ 1024 ∨ ∃ i ≤ 1024, ¬ Retryable st (outcomes i) := by
  have hattempts : st.attempts = max 1 (st.httpGetMaxRetries + 1) := rfl
  have hlt := h.lt
  constructor
  · intro hk
    by_cases hr : Retryable st (outcomes k)
    · have hlast := h.last hr
      exact .inl (by omega)
    · exact .inr ⟨k, hk, hr⟩
  · rintro (hle | ⟨i, hi, hr⟩)
    · omega
    · by_contra hk
      exact hr (h.before i (by omega))

/-- The number of the GETs among the actions up to an attempt tells the attempt. -/
theorem actionsUpTo_injective (st : HttpSettings) : Function.Injective (actionsUpTo st) := by
  intro k k' h
  have hlen (k : ℕ) : (actionsUpTo st k).length = 2 * k + 1 := by
    simp [actionsUpTo, List.length_flatMap, mul_comm]
  have hk := congrArg List.length h
  rw [hlen, hlen] at hk
  omega

/-- **Exactly when `resilient_get` makes its attempts as it should**: one GET for each up to the last one, a
sleep between any two, and the outcome of the last. It does not if more than 1025 attempts are allowed and the
first 1025 are all to be retried. It never falls out of the loop. -/
theorem resilientGet_iff (st : HttpSettings) (hmax : 0 ≤ st.maxResponseBodyBytes)
    (outcomes : ℕ → Except GetError Response) :
    (resilientGet st outcomes).result ≠ none ∧ (∃ k, LastAttempt st outcomes k) ∧
      ∀ k, LastAttempt st outcomes k →
        (resilientGet st outcomes = ⟨actionsUpTo st k, some (finalResult st (outcomes k))⟩ ↔
          st.httpGetMaxRetries ≤ 1024 ∨ ∃ i ≤ 1024, ¬ Retryable st (outcomes i)) := by
  have hcases (k : ℕ) (hk : LastAttempt st outcomes k) :
      (resilientGet st outcomes).result ≠ none ∧
        (resilientGet st outcomes = ⟨actionsUpTo st k, some (finalResult st (outcomes k))⟩ ↔ k ≤ 1024) := by
    rcases Nat.lt_or_ge 1024 k with hlt | hle
    · rw [resilientGet_overflows hmax hk hlt]
      refine ⟨Option.some_ne_none _, iff_of_false (fun h => ?_) (not_le.mpr hlt)⟩
      have hactions := actionsUpTo_injective st (congrArg CallTrace.actions h)
      omega
    · rw [resilientGet_of_le hmax hk hle]
      exact ⟨Option.some_ne_none _, iff_of_true rfl hle⟩
  obtain ⟨k, hk⟩ := exists_lastAttempt st outcomes
  exact ⟨(hcases k hk).1, ⟨k, hk⟩, fun k hk => (hcases k hk).2.trans hk.le_iff⟩

end Loop

/-- A 503, and then a 200. -/
theorem resilientGet_iff_retried :
    (resilientGet ⟨2, 0.15, 100⟩ fun i => .ok ⟨if i = 0 then 503 else 200, [], [[1], [2]]⟩) =
      ⟨[.get 0, .sleep 0.15, .get 1], some (.ok ⟨200, [], [[1, 2]]⟩)⟩ := by
  have hlast : LastAttempt ⟨2, 0.15, 100⟩ (fun i => .ok ⟨if i = 0 then 503 else 200, [], [[1], [2]]⟩) 1 := by
    refine ⟨by decide, fun i hi => ?_, fun hr => ?_⟩
    · obtain rfl := Nat.lt_one_iff.mp hi
      exact ⟨by decide, by decide⟩
    · exact absurd hr.1 (by decide)
  rw [((resilientGet_iff ⟨2, 0.15, 100⟩ (by decide) _).2.2 1 hlast).mpr (.inl (by decide))]
  simp [actionsUpTo, HttpSettings.backoff, finalResult, Response.overLimit, contentLengthInt, Response.header,
    Response.body, materializedResponse]

/-- **1025 retries of a 503 end in an `OverflowError`**, and not with the last 503. -/
theorem retries_overflow :
    (resilientGet ⟨1025, 0, 100⟩ fun _ => .ok ⟨503, [], []⟩) =
      ⟨actionsUpTo ⟨1025, 0, 100⟩ 1024, some (.error overflowError)⟩ ∧
    ¬ ∀ (st : HttpSettings) (outcomes : ℕ → Except GetError Response) (k : ℕ), 0 ≤ st.maxResponseBodyBytes →
      LastAttempt st outcomes k →
        resilientGet st outcomes = ⟨actionsUpTo st k, some (finalResult st (outcomes k))⟩ := by
  have hlast : LastAttempt ⟨1025, 0, 100⟩ (fun _ => .ok ⟨503, [], []⟩) 1025 :=
    ⟨by decide, fun _ _ => ⟨by decide, by decide⟩, fun _ => by decide⟩
  have hrun := resilientGet_overflows (by decide) hlast (by decide)
  refine ⟨hrun, fun hall => ?_⟩
  have hall' := hall _ _ _ (by decide) hlast
  rw [hrun] at hall'
  have hactions := actionsUpTo_injective _ (congrArg CallTrace.actions hall')
  omega

/-! ### The call among others -/

/-- What a step does that gets a call to `p`, at the time `now`. -/
def actions (now : Time) : GetPhase → List Action
  | .inFlight a _ => [.get a]
  | .backoffInSlot _ _ wake => [.sleep (wake - now)]
  | .backoff _ wake => [.sleep (wake - now)]
  | _ => []

/-- A call that is not cancelled, with what it has done so far; everything around it is arbitrary. -/
inductive CallRun (st : HttpSettings) (outcomes : ℕ → Except GetError Response) :
    GetPhase → List Action → Prop
  | start : CallRun st outcomes (.entering 0) []
  | step {p p' : GetPhase} {done : List Action} {o o' : OutboundState} {now : Time} {e : GetEvent}
    (h : CallRun st outcomes p done) (hs : getStep st now o p e = some (o', p')) (he : e ≠ .cancel)
    (ha : ∀ a permit result, p = .inFlight a permit → e = .answer result → result = outcomes a) :
    CallRun st outcomes p' (done ++ actions now p')

/-- What is left of a call in the phase `p`. -/
def rest (st : HttpSettings) (outcomes : ℕ → Except GetError Response) : GetPhase → CallTrace
  | .entering a | .waiting a _ => attemptLoop st outcomes (st.attempts.toNat - a) a
  | .inFlight a _ =>
    afterOutcome st (attemptLoop st outcomes (st.attempts.toNat - (a + 1)) (a + 1)) a (outcomes a)
  | .reading a r =>
    afterOutcome st (attemptLoop st outcomes (st.attempts.toNat - (a + 1)) (a + 1)) a (.ok r)
  | .backoffInSlot a _ _ | .backoff a _ => attemptLoop st outcomes (st.attempts.toNat - (a + 1)) (a + 1)
  | .returned r => ⟨[], some (.ok r)⟩
  | .returnedNone => ⟨[], none⟩
  | .raised e => ⟨[], some (.error e)⟩
  | .leaveRaised _ => ⟨[], none⟩

@[simp] theorem CallTrace.after_nil (t : CallTrace) : t.after [] = t := rfl

@[simp] theorem CallTrace.after_after (t : CallTrace) (l l' : List Action) :
    (t.after l).after l' = t.after (l' ++ l) := by simp [CallTrace.after]

section Phases
variable {st : HttpSettings} {outcomes : ℕ → Except GetError Response} {now : Time} {o : OutboundState}

theorem rest_nextAttempt (st : HttpSettings) (outcomes : ℕ → Except GetError Response) (a : ℕ) :
    rest st outcomes (nextAttempt st a) =
      attemptLoop st outcomes (st.attempts.toNat - (a + 1)) (a + 1) := by
  unfold nextAttempt
  split_ifs with h
  · rfl
  · rw [show st.attempts.toNat - (a + 1) = 0 by omega]
    rfl

theorem actions_nextAttempt (st : HttpSettings) (a : ℕ) (now : Time) :
    actions now (nextAttempt st a) = [] := by
  unfold nextAttempt; split_ifs <;> rfl

/-- Leaving the slot gets a call where it is to go on, or raises. -/
theorem exitSlot_phase (o : OutboundState) (permit : Option ℕ) (next : GetPhase) :
    (exitSlot o permit next).2 = next ∨ ∃ e, (exitSlot o permit next).2 = .leaveRaised e := by
  unfold exitSlot
  split
  · exact .inl rfl
  · exact .inr ⟨_, rfl⟩

/-- An attempt begins with its GET. -/
theorem rest_entering {a : ℕ} (h : a < st.attempts.toNat) (permit : Option ℕ) :
    rest st outcomes (.entering a) = (rest st outcomes (.inFlight a permit)).after [.get a] := by
  simp only [rest]
  rw [show st.attempts.toNat - a = st.attempts.toNat - (a + 1) + 1 by omega]
  rfl

/-- What is left after `client.get`. -/
theorem rest_afterGet {a : ℕ} {permit : Option ℕ} {p : GetPhase}
    (hp : (afterGet st now o a permit (outcomes a)).2 = p) :
    (∃ e, p = .leaveRaised e) ∨
      rest st outcomes (.inFlight a permit) = (rest st outcomes p).after (actions now p) := by
  subst hp
  have hexit (next : GetPhase)
      (hnext : rest st outcomes (.inFlight a permit) = (rest st outcomes next).after (actions now next)) :
      (∃ e, (exitSlot o permit next).2 = .leaveRaised e) ∨ rest st outcomes (.inFlight a permit) =
        (rest st outcomes (exitSlot o permit next).2).after (actions now (exitSlot o permit next).2) := by
    rcases exitSlot_phase o permit next with h | h
    · rw [h]
      exact .inr hnext
    · exact .inl h
  cases hout : outcomes a with
  | ok r => exact hexit _ (by simp [rest, actions, hout])
  | error e =>
    simp only [afterGet]
    split_ifs with he hlast hoverflow
    · exact hexit _ (by simp only [rest, actions, hout, afterOutcome, he, hlast, if_true]; rfl)
    · exact hexit _ (by
        simp only [rest, actions, hout, afterOutcome, sleepThen, he, if_neg hlast, hoverflow, if_true]; rfl)
    · refine .inr ?_
      simp only [rest, actions, hout, afterOutcome, sleepThen, he, if_true, if_neg hlast, if_neg hoverflow,
        add_sub_cancel_left]
    · exact hexit _ (by simp [rest, actions, hout, afterOutcome, he])

/-- What is left after the body is read. -/
theorem rest_afterSlot {a : ℕ} {r : Response} : rest st outcomes (.reading a r) =
    (rest st outcomes (afterSlot st now a r)).after (actions now (afterSlot st now a r)) := by
  simp only [rest, afterOutcome, afterSlot, sleepThen]
  cases (readResponseBodyLimited r st.maxResponseBodyBytes).result with
  | error e => rfl
  | ok body =>
    dsimp only
    split_ifs
    · rfl
    · simp [actions]
    · rfl

/-- The attempt whose GET is not sent yet. -/
def GetPhase.unsent : GetPhase → Option ℕ
  | .entering a | .waiting a _ => some a
  | _ => none

theorem unsent_nextAttempt {a b : ℕ} (h : (nextAttempt st a).unsent = some b) : b < st.attempts.toNat := by
  unfold nextAttempt at h
  split_ifs at h with hlt
  · cases h
    omega
  · cases h

theorem unsent_exitSlot (o : OutboundState) (permit : Option ℕ) {next : GetPhase} (h : next.unsent = none) :
    (exitSlot o permit next).2.unsent = none := by
  rcases exitSlot_phase o permit next with hx | ⟨e, hx⟩ <;> rw [hx]
  · exact h
  · rfl

theorem unsent_afterGet (st : HttpSettings) (now : Time) (o : OutboundState) (a : ℕ) (permit : Option ℕ)
    (result : Except GetError Response) : (afterGet st now o a permit result).2.unsent = none := by
  rcases afterGet_exits_or_sleeps st now o a permit result with ⟨next, h, hnext⟩ | h <;> rw [h]
  · refine unsent_exitSlot o permit ?_
    rcases hnext with ⟨r, rfl⟩ | ⟨e, rfl⟩ <;> rfl
  · rfl

theorem unsent_afterSlot (st : HttpSettings) (now : Time) (a : ℕ) (r : Response) :
    (afterSlot st now a r).unsent = none := by
  rcases afterSlot_sleeps_or_ends st now a r with h | ⟨r', h⟩ | ⟨e, h⟩ <;> rw [h] <;> rfl

/-- What a call has done and what is left make up the whole; an attempt whose GET is not sent yet is one of
the loop. -/
structure Tracks (st : HttpSettings) (outcomes : ℕ → Except GetError Response) (p : GetPhase)
    (done : List Action) : Prop where
  whole : resilientGet st outcomes = (rest st outcomes p).after done
  unsent : ∀ a, p.unsent = some a → a < st.attempts.toNat

/-- **A step takes an action off what is left**, unless leaving the slot raises. -/
theorem Tracks.step {p p' : GetPhase} {done : List Action} {o' : OutboundState} {e : GetEvent}
    (h : Tracks st outcomes p done) (hs : getStep st now o p e = some (o', p')) (he : e ≠ .cancel)
    (ha : ∀ a permit result, p = .inFlight a permit → e = .answer result → result = outcomes a) :
    (∃ e, p' = .leaveRaised e) ∨ Tracks st outcomes p' (done ++ actions now p') := by
  suffices hstep : (∃ e, p' = .leaveRaised e) ∨
      rest st outcomes p = (rest st outcomes p').after (actions now p') ∧
        ∀ a, p'.unsent = some a → a < st.attempts.toNat by
    refine hstep.imp id fun hr => ⟨?_, hr.2⟩
    rw [h.whole, hr.1, CallTrace.after_after]
  cases getStep_cases hs with
  | enterWaiting a hsem => exact .inr ⟨rfl, h.unsent⟩
  | enterFree a hsem => exact .inr ⟨rest_entering (h.unsent a rfl) none, fun b hb => by cases hb⟩
  | grant a hg => exact .inr ⟨rest_entering (h.unsent a rfl) _, fun b hb => by cases hb⟩
  | answer a permit result =>
    obtain rfl := ha a permit result rfl rfl
    refine (rest_afterGet rfl).imp id fun hrest => ⟨hrest, fun b hb => ?_⟩
    rw [unsent_afterGet] at hb
    cases hb
  | read a r =>
    refine .inr ⟨rest_afterSlot, fun b hb => ?_⟩
    rw [unsent_afterSlot] at hb
    cases hb
  | wakeInSlot a permit =>
    rcases exitSlot_phase o permit (nextAttempt st a) with hx | hx
    · rw [hx, rest_nextAttempt, actions_nextAttempt]
      exact .inr ⟨rfl, fun b => unsent_nextAttempt⟩
    · exact .inl hx
  | wake a =>
    rw [rest_nextAttempt, actions_nextAttempt]
    exact .inr ⟨rfl, fun b => unsent_nextAttempt⟩
  | cancelInSlot => exact absurd rfl he
  | cancel => exact absurd rfl he

/-- **A call among others does what the loop does**, as long as it is not cancelled and leaving its slot does
not raise. -/
theorem resilientGet_of_callRun {p : GetPhase} {done : List Action} (h : CallRun st outcomes p done) :
    (∃ e, p = .leaveRaised e) ∨ resilientGet st outcomes = (rest st outcomes p).after done := by
  suffices htracks : (∃ e, p = .leaveRaised e) ∨ Tracks st outcomes p done from
    htracks.imp id Tracks.whole
  induction h with
  | start =>
    refine .inr ⟨rfl, fun a ha => ?_⟩
    cases ha
    have := attempts_pos st
    omega
  | step _ hs he ha ih =>
    rcases ih with ⟨e, rfl⟩ | ih
    · -- a call that raised makes no step
      cases hs
    · exact ih.step hs he ha

end Phases

end LookupAggregator.ResilientHttp
