import LookupAggregator.Clock
import LookupAggregator.Outbound
import LookupAggregator.ResilientHttp.Body

/-! # `resilient_get`

A call of `resilient_get` is where its attempt loop stands (`GetPhase`), and `getStep` is what it does
next: it is suspended while it waits for a slot, while `client.get` runs, while it reads the body and
while it sleeps between two attempts. After a retryable exception it sleeps inside the slot, after a
retryable status outside of it. From the attempt 1024 on the length of the sleep cannot be computed
(`overflows`), and the call raises instead.

Any number of calls, and the calls that set and clear the outbound limit, interleave in the runs of
`httpLTS`, which also records the GETs sent (`HttpWorld.gets`). -/

namespace LookupAggregator.ResilientHttp

open LookupAggregator.Lib.Transition Outbound

/-- The settings a call reads. -/
structure HttpSettings where
  httpGetMaxRetries : ℤ
  httpGetRetryBackoffS : Time
  maxResponseBodyBytes : ℤ

/-- `attempts = max(1, settings.http_get_max_retries + 1)`. -/
def HttpSettings.attempts (st : HttpSettings) : ℤ := max 1 (st.httpGetMaxRetries + 1)

/-- `backoff * (2**attempt)`, if it does not raise. -/
def HttpSettings.backoff (st : HttpSettings) (attempt : ℕ) : Time :=
  st.httpGetRetryBackoffS * 2 ^ attempt

/-- `backoff * (2**attempt)` raises: to multiply it by a float, Python converts the integer `2**attempt` to
one, and `2**1024` is too large. -/
def overflows (attempt : ℕ) : Bool := decide (1024 ≤ attempt)

/-- `_RETRY_STATUS`. -/
def retryStatus : List ℕ := [502, 503, 504]

/-- An attempt whose outcome is retryable is followed by a sleep: another one is allowed, and the length of the
sleep can be computed. -/
def SleepsAfter (st : HttpSettings) (attempt : ℕ) : Prop :=
  ((attempt + 1 : ℕ) : ℤ) < st.attempts ∧ overflows attempt = false

/-- The exceptions of the `except` clause. -/
def GetError.retryable : GetError → Bool
  | .timeout _ | .connect _ | .remoteProtocol _ => true
  | _ => false

/-- The `OverflowError` of a sleep whose length cannot be computed. -/
def overflowError : GetError := .other "int too large to convert to float"

/-- Where a call stands. -/
inductive GetPhase
  /-- At the `async with outbound_slot()` of an attempt. -/
  | entering (attempt : ℕ)
  /-- Waiting for a permit of the semaphore `s`. -/
  | waiting (attempt s : ℕ)
  /-- In `client.get`. -/
  | inFlight (attempt : ℕ) (permit : Option ℕ)
  /-- In the `asyncio.sleep` of the `except` clause, until `wake` at least. -/
  | backoffInSlot (attempt : ℕ) (permit : Option ℕ) (wake : Time)
  /-- In `read_response_body_limited`. -/
  | reading (attempt : ℕ) (response : Response)
  /-- In the `asyncio.sleep` after a retryable status. -/
  | backoff (attempt : ℕ) (wake : Time)
  | returned (response : Response)
  /-- Fallen out of the loop: the call returns `None`. -/
  | returnedNone
  | raised (e : GetError)
  /-- Leaving the slot raised. -/
  | leaveRaised (e : AttributeError)
deriving DecidableEq

/-- The call has returned or raised. -/
def GetPhase.ended : GetPhase → Bool
  | .returned _ | .returnedNone | .raised _ | .leaveRaised _ => true
  | _ => false

/-- What happens to a call in one step. -/
inductive GetEvent
  | enter
  | grant
  | answer (result : Except GetError Response)
  | read
  | wake
  | cancel

/-! ### The attempt loop -/

/-- Leaving the slot, to go on at `next`. -/
def exitSlot (o : OutboundState) (permit : Option ℕ) (next : GetPhase) : OutboundState × GetPhase :=
  match leaveSlot o permit with
  | .ok o' => (o', next)
  | .error e => (o, .leaveRaised e)

/-- `continue`. -/
def nextAttempt (st : HttpSettings) (attempt : ℕ) : GetPhase :=
  if ((attempt + 1 : ℕ) : ℤ) < st.attempts then .entering (attempt + 1) else .returnedNone

/-- After `client.get`, at the time `now`. -/
def afterGet (st : HttpSettings) (now : Time) (o : OutboundState) (attempt : ℕ) (permit : Option ℕ) :
    Except GetError Response → OutboundState × GetPhase
  | .ok response => exitSlot o permit (.reading attempt response)
  | .error e =>
    if e.retryable then
      if ((attempt + 1 : ℕ) : ℤ) ≥ st.attempts then exitSlot o permit (.raised e)
      -- raised in the `except` clause, so inside the slot
      else if overflows attempt then exitSlot o permit (.raised overflowError)
      else (o, .backoffInSlot attempt permit (now + st.backoff attempt))
    else exitSlot o permit (.raised e)

/-- From `body = await read_response_body_limited(...)` on. -/
def afterSlot (st : HttpSettings) (now : Time) (attempt : ℕ) (response : Response) : GetPhase :=
  match (readResponseBodyLimited response st.maxResponseBodyBytes).result with
  | .error e => .raised e
  | .ok body =>
    if response.statusCode ∈ retryStatus ∧ ((attempt + 1 : ℕ) : ℤ) < st.attempts then
      if overflows attempt then .raised overflowError else .backoff attempt (now + st.backoff attempt)
    else .returned (materializedResponse response body)

/-- One step of a call at the time `now`, when there is such a step. -/
def getStep (st : HttpSettings) (now : Time) (o : OutboundState) :
    GetPhase → GetEvent → Option (OutboundState × GetPhase)
  | .entering a, .enter =>
    match enterSlot o with
    | .waiting s => some (o, .waiting a s)
    | .inBody permit => some (o, .inFlight a permit)
    | _ => none
  | .waiting a s, .grant => (grant o s).map fun o' => (o', .inFlight a (some s))
  | .waiting _ _, .cancel => some (o, .raised .cancelled)
  | .inFlight a permit, .answer result => some (afterGet st now o a permit result)
  | .inFlight _ permit, .cancel => some (exitSlot o permit (.raised .cancelled))
  | .backoffInSlot a permit wake, .wake =>
    if wake ≤ now then some (exitSlot o permit (nextAttempt st a)) else none
  | .backoffInSlot _ permit _, .cancel => some (exitSlot o permit (.raised .cancelled))
  | .reading a response, .read => some (o, afterSlot st now a response)
  | .reading _ _, .cancel => some (o, .raised .cancelled)
  | .backoff a wake, .wake => if wake ≤ now then some (o, nextAttempt st a) else none
  | .backoff _ _, .cancel => some (o, .raised .cancelled)
  | _, _ => none

/-! ### The calls of a process -/

/-- A GET sent: by which call, in which attempt, and when. -/
structure SentGet where
  call : ℕ
  attempt : ℕ
  time : Time
deriving DecidableEq

/-- The clock, the module `app/outbound.py`, where each call stands, and the GETs sent so far. -/
structure HttpWorld where
  now : Time
  out : OutboundState
  calls : List GetPhase
  gets : List SentGet

/-- What happens in one step of the process. -/
inductive HttpEvent
  | call
  | get (i : ℕ) (e : GetEvent)
  | set (maxConcurrent : ℤ)
  | clear
  | tick (t : Time)

/-- The GET that a call sends by getting to `p`. -/
def sends (i : ℕ) (now : Time) (e : GetEvent) (p : GetPhase) : List SentGet :=
  match e, p with
  | .enter, .inFlight a _ => [⟨i, a, now⟩]
  | .grant, .inFlight a _ => [⟨i, a, now⟩]
  | _, _ => []

/-- One step of the process. -/
def httpStep (st : HttpSettings) (w : HttpWorld) : HttpEvent → Option HttpWorld
  | .call => some { w with calls := w.calls ++ [.entering 0] }
  | .get i e =>
    match w.calls[i]? with
    | none => none
    | some p => (getStep st w.now w.out p e).map fun r =>
      { w with out := r.1, calls := w.calls.set i r.2, gets := w.gets ++ sends i w.now e r.2 }
  | .set n => some { w with out := setOutboundConcurrencyLimit n w.out }
  | .clear => some { w with out := clearOutboundConcurrencyLimit w.out }
  | .tick t => if w.now ≤ t then some { w with now := t } else none

/-- The process, from the outbound state `o` on. -/
def httpLTS (st : HttpSettings) (o : OutboundState) : LTS HttpWorld HttpEvent where
  init w := w.out = o ∧ w.calls = [] ∧ w.gets = []
  step w e w' := httpStep st w e = some w'

/-- Whether a step of a call starts `client.get`: entering without a limit, or getting the permit. -/
def startsGet (o : OutboundState) : GetEvent → Bool
  | .enter => o.sem.isNone
  | .grant => true
  | _ => false

/-! ### What a step can do -/

variable {st : HttpSettings} {w w' : HttpWorld}

/-- A step of call `i`. -/
theorem httpStep_get {i : ℕ} {e : GetEvent} (h : httpStep st w (.get i e) = some w') :
    ∃ p o' p', w.calls[i]? = some p ∧ getStep st w.now w.out p e = some (o', p') ∧
      w' = { w with out := o', calls := w.calls.set i p', gets := w.gets ++ sends i w.now e p' } := by
  simp only [httpStep] at h
  split at h
  · cases h
  · next p hp =>
    obtain ⟨⟨o', p'⟩, hg, rfl⟩ := Option.map_eq_some_iff.mp h
    exact ⟨p, o', p', hp, hg, rfl⟩

theorem httpStep_tick {t : Time} (h : httpStep st w (.tick t) = some w') :
    w.now ≤ t ∧ w' = { w with now := t } := by
  simp only [httpStep] at h
  split_ifs at h with ht
  exact ⟨ht, (Option.some.inj h).symm⟩

theorem httpStep_tick_of_le {t : Time} (h : w.now ≤ t) :
    httpStep st w (.tick t) = some { w with now := t } := if_pos h

theorem httpStep_of_getStep {i : ℕ} {e : GetEvent} {p p' : GetPhase} {o' : OutboundState}
    (hp : w.calls[i]? = some p) (h : getStep st w.now w.out p e = some (o', p')) :
    httpStep st w (.get i e) = some { w with
      out := o', calls := w.calls.set i p', gets := w.gets ++ sends i w.now e p' } := by
  simp only [httpStep, hp, h, Option.map_some]

theorem getStep_wake {now wake : Time} {o : OutboundState} {a : ℕ} (h : wake ≤ now) :
    getStep st now o (.backoff a wake) .wake = some (o, nextAttempt st a) := if_pos h

/-- **After `client.get`** a call leaves its slot, to read the body or to raise, or sleeps in it. -/
theorem afterGet_exits_or_sleeps (st : HttpSettings) (now : Time) (o : OutboundState) (a : ℕ)
    (permit : Option ℕ) (result : Except GetError Response) :
    (∃ next, afterGet st now o a permit result = exitSlot o permit next ∧
        ((∃ r, next = .reading a r) ∨ ∃ e, next = .raised e)) ∨
      afterGet st now o a permit result = (o, .backoffInSlot a permit (now + st.backoff a)) := by
  cases result with
  | ok r => exact .inl ⟨_, rfl, .inl ⟨r, rfl⟩⟩
  | error e =>
    simp only [afterGet]
    split_ifs
    · exact .inl ⟨_, rfl, .inr ⟨_, rfl⟩⟩
    · exact .inl ⟨_, rfl, .inr ⟨_, rfl⟩⟩
    · exact .inr rfl
    · exact .inl ⟨_, rfl, .inr ⟨_, rfl⟩⟩

/-- **After the body is read** a call sleeps, returns or raises. -/
theorem afterSlot_sleeps_or_ends (st : HttpSettings) (now : Time) (a : ℕ) (r : Response) :
    afterSlot st now a r = .backoff a (now + st.backoff a) ∨
      (∃ r', afterSlot st now a r = .returned r') ∨ ∃ e, afterSlot st now a r = .raised e := by
  unfold afterSlot
  split
  · exact .inr (.inr ⟨_, rfl⟩)
  · split_ifs
    · exact .inr (.inr ⟨_, rfl⟩)
    · exact .inl rfl
    · exact .inr (.inl ⟨_, rfl⟩)

/-- The steps of a call, one by one. -/
inductive GetMove (st : HttpSettings) (now : Time) (o : OutboundState) :
    GetPhase → GetEvent → OutboundState → GetPhase → Prop
  | enterWaiting (a : ℕ) {s : ℕ} (h : o.sem = some s) :
      GetMove st now o (.entering a) .enter o (.waiting a s)
  | enterFree (a : ℕ) (h : o.sem = none) :
      GetMove st now o (.entering a) .enter o (.inFlight a none)
  | grant (a : ℕ) {s : ℕ} {o' : OutboundState} (h : grant o s = some o') :
      GetMove st now o (.waiting a s) .grant o' (.inFlight a (some s))
  | answer (a : ℕ) (permit : Option ℕ) (result : Except GetError Response) :
      GetMove st now o (.inFlight a permit) (.answer result) (afterGet st now o a permit result).1
        (afterGet st now o a permit result).2
  | read (a : ℕ) (r : Response) : GetMove st now o (.reading a r) .read o (afterSlot st now a r)
  | wakeInSlot (a : ℕ) (permit : Option ℕ) {wake : Time} (h : wake ≤ now) :
      GetMove st now o (.backoffInSlot a permit wake) .wake (exitSlot o permit (nextAttempt st a)).1
        (exitSlot o permit (nextAttempt st a)).2
  | wake (a : ℕ) {wake : Time} (h : wake ≤ now) :
      GetMove st now o (.backoff a wake) .wake o (nextAttempt st a)
  | cancelInSlot {p : GetPhase} (permit : Option ℕ)
      (h : ∃ a, p = .inFlight a permit ∨ ∃ wake, p = .backoffInSlot a permit wake) :
      GetMove st now o p .cancel (exitSlot o permit (.raised .cancelled)).1
        (exitSlot o permit (.raised .cancelled)).2
  | cancel {p : GetPhase}
      (h : ∃ a, (∃ s, p = .waiting a s) ∨ (∃ r, p = .reading a r) ∨ ∃ wake, p = .backoff a wake) :
      GetMove st now o p .cancel o (.raised .cancelled)

/-- **What a call can do in one step.** -/
theorem getStep_cases {now : Time} {o o' : OutboundState} {p p' : GetPhase} {e : GetEvent}
    (h : getStep st now o p e = some (o', p')) : GetMove st now o p e o' p' := by
  have heq {x : OutboundState × GetPhase} (hx : some x = some (o', p')) : o' = x.1 ∧ p' = x.2 := by
    rw [Option.some.inj hx]
    exact ⟨rfl, rfl⟩
  cases p with
  | entering a =>
    cases e with
    | enter =>
      unfold getStep enterSlot at h
      cases hsem : o.sem with
      | none =>
        rw [hsem] at h
        obtain ⟨rfl, rfl⟩ := heq h
        exact .enterFree a hsem
      | some s =>
        rw [hsem] at h
        obtain ⟨rfl, rfl⟩ := heq h
        exact .enterWaiting a hsem
    | _ => cases h
  | waiting a s =>
    cases e with
    | grant =>
      obtain ⟨o'', hg, hx⟩ := Option.map_eq_some_iff.mp h
      cases hx
      exact .grant a hg
    | cancel =>
      obtain ⟨rfl, rfl⟩ := heq h
      exact .cancel ⟨a, Or.inl ⟨s, rfl⟩⟩
    | _ => cases h
  | inFlight a permit =>
    cases e with
    | answer result =>
      obtain ⟨rfl, rfl⟩ := heq h
      exact .answer a permit result
    | cancel =>
      obtain ⟨rfl, rfl⟩ := heq h
      exact .cancelInSlot permit ⟨a, Or.inl rfl⟩
    | _ => cases h
  | backoffInSlot a permit wake =>
    cases e with
    | wake =>
      simp only [getStep] at h
      split_ifs at h with hwake
      obtain ⟨rfl, rfl⟩ := heq h
      exact .wakeInSlot a permit hwake
    | cancel =>
      obtain ⟨rfl, rfl⟩ := heq h
      exact .cancelInSlot permit ⟨a, Or.inr ⟨wake, rfl⟩⟩
    | _ => cases h
  | reading a r =>
    cases e with
    | read =>
      obtain ⟨rfl, rfl⟩ := heq h
      exact .read a r
    | cancel =>
      obtain ⟨rfl, rfl⟩ := heq h
      exact .cancel ⟨a, Or.inr (Or.inl ⟨r, rfl⟩)⟩
    | _ => cases h
  | backoff a wake =>
    cases e with
    | wake =>
      simp only [getStep] at h
      split_ifs at h with hwake
      obtain ⟨rfl, rfl⟩ := heq h
      exact .wake a hwake
    | cancel =>
      obtain ⟨rfl, rfl⟩ := heq h
      exact .cancel ⟨a, Or.inr (Or.inr ⟨wake, rfl⟩)⟩
    | _ => cases h
  | _ => cases e <;> cases h

theorem sends_eq_nil {now : Time} {o o' : OutboundState} {p p' : GetPhase} {e : GetEvent} {i : ℕ}
    (h : getStep st now o p e = some (o', p')) (hs : startsGet o e = false) :
    sends i now e p' = [] := by
  cases getStep_cases h with
  | enterFree a hsem => simp [startsGet, hsem] at hs
  | grant => cases hs
  | _ => rfl

theorem sends_cases (i : ℕ) (now : Time) (e : GetEvent) (p : GetPhase) :
    sends i now e p = [] ∨ ∃ a, sends i now e p = [⟨i, a, now⟩] := by
  unfold sends
  split
  · exact .inr ⟨_, rfl⟩
  · exact .inr ⟨_, rfl⟩
  · exact .inl rfl

end LookupAggregator.ResilientHttp
