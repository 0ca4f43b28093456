import Mathlib.Data.List.Chain
import LookupAggregator.Lib.Lists
import LookupAggregator.ResilientHttp.Permits
import LookupAggregator.ResilientHttp.Retry

/-! # Every call ends

A call of `resilient_get` makes at most five steps an attempt, whatever happens around it: `potential`
counts the steps that are left (`getStep_potential`), so that a call makes no more than `5 * attempts` of
them in any run (`steps_bounded`), and sends its GETs in order, each once, a backoff apart
(`gets_in_order`).

Under a fixed limit no call is stuck for ever: a call that waits for a permit waits for one that another
call holds, and that call has a step to make, if not now then once time has passed (`exists_step`). From
every reachable state all calls can therefore end, with any answers of the upstream: `calls_complete`. -/

namespace LookupAggregator.ResilientHttp

open LookupAggregator.Lib.Transition Outbound

/-! ### The steps that are left -/

/-- The attempt a call is making. -/
def GetPhase.current : GetPhase → Option ℕ
  | .entering a | .waiting a _ | .inFlight a _ | .backoffInSlot a _ _ | .reading a _ | .backoff a _ => some a
  | _ => none

/-- The attempt is one of those that are allowed. -/
def GetPhase.InRange (st : HttpSettings) (p : GetPhase) : Prop :=
  ∀ a, p.current = some a → a < st.attempts.toNat

/-- The steps left when `k` attempts are, this one included: five an attempt. -/
def potential (st : HttpSettings) : GetPhase → ℕ
  | .entering a => 5 * (st.attempts.toNat - a)
  | .waiting a _ => 5 * (st.attempts.toNat - a) - 1
  | .inFlight a _ => 5 * (st.attempts.toNat - a) - 2
  | .backoffInSlot a _ _ | .reading a _ => 5 * (st.attempts.toNat - a) - 3
  | .backoff a _ => 5 * (st.attempts.toNat - a) - 4
  | _ => 0

section Call
variable {st : HttpSettings} {now : Time} {o o' : OutboundState} {p p' : GetPhase} {e : GetEvent}

theorem nextAttempt_cases (st : HttpSettings) (a : ℕ) :
    nextAttempt st a = .entering (a + 1) ∧ a + 1 < st.attempts.toNat ∨ nextAttempt st a = .returnedNone := by
  unfold nextAttempt
  split_ifs with h
  · exact .inl ⟨rfl, by omega⟩
  · exact .inr rfl

/-- After `client.get`: reading, asleep in the slot, or at an end. -/
theorem afterGet_cases (st : HttpSettings) (now : Time) (o : OutboundState) (a : ℕ) (permit : Option ℕ)
    (result : Except GetError Response) :
    (∃ r, (afterGet st now o a permit result).2 = .reading a r) ∨
      (afterGet st now o a permit result).2 = .backoffInSlot a permit (now + st.backoff a) ∨
      (afterGet st now o a permit result).2.ended := by
  rcases afterGet_exits_or_sleeps st now o a permit result with ⟨next, h, hnext⟩ | h <;> rw [h]
  · rcases exitSlot_phase o permit next with hx | ⟨e, hx⟩ <;> rw [hx]
    · rcases hnext with hr | ⟨e, rfl⟩
      · exact .inl hr
      · exact .inr (.inr rfl)
    · exact .inr (.inr rfl)
  · exact .inr (.inl rfl)

/-- After the body is read: asleep, or at an end. -/
theorem afterSlot_cases (st : HttpSettings) (now : Time) (a : ℕ) (r : Response) :
    afterSlot st now a r = .backoff a (now + st.backoff a) ∨ (afterSlot st now a r).ended := by
  rcases afterSlot_sleeps_or_ends st now a r with h | ⟨r', h⟩ | ⟨e, h⟩
  · exact .inl h
  · exact .inr (by rw [h]; rfl)
  · exact .inr (by rw [h]; rfl)

theorem current_eq_none (h : p.ended) : p.current = none := by cases p <;> first | rfl | cases h

theorem potential_eq_zero (h : p.ended) : potential st p = 0 := by cases p <;> first | rfl | cases h

theorem exists_current (st : HttpSettings) (hp : p.ended = false) :
    ∃ a, p.current = some a ∧ 5 * (st.attempts.toNat - a) - 4 ≤ potential st p := by
  cases p <;> first
    | exact ⟨_, rfl, by simp only [potential]; omega⟩
    | cases hp

/-- A call that has not ended has a step left. -/
theorem potential_pos (h : p.InRange st) (hp : p.ended = false) : 0 < potential st p := by
  obtain ⟨a, ha, hle⟩ := exists_current st hp
  have hlt := h a ha
  omega

theorem inRange_of_ended (h : p.ended) : p.InRange st := fun a ha => by
  rw [current_eq_none h] at ha
  cases ha

theorem exitSlot_ended (o : OutboundState) (permit : Option ℕ) {next : GetPhase} (h : next.ended) :
    (exitSlot o permit next).2.ended := by
  rcases exitSlot_phase o permit next with hx | ⟨e, hx⟩ <;> rw [hx]
  · exact h
  · rfl

/-- **A step of a call uses up a step.** -/
theorem getStep_potential (h : getStep st now o p e = some (o', p')) (hp : p.InRange st) :
    p'.InRange st ∧ potential st p' + 1 ≤ potential st p := by
  -- the two ways on: to an end, or further in the same attempt
  have hend (hp' : p'.ended) (hne : p.ended = false) :
      p'.InRange st ∧ potential st p' + 1 ≤ potential st p := by
    rw [potential_eq_zero hp']
    exact ⟨inRange_of_ended hp', potential_pos hp hne⟩
  have hsame {a : ℕ} (hcur : p.current = some a) (hcur' : p'.current = some a)
      (hpot : a < st.attempts.toNat → potential st p' + 1 ≤ potential st p) :
      p'.InRange st ∧ potential st p' + 1 ≤ potential st p := by
    refine ⟨fun b hb => ?_, hpot (hp a hcur)⟩
    rw [hcur', Option.some.injEq] at hb
    exact hb ▸ hp a hcur
  have hnext {a : ℕ} (hcur : p.current = some a) (hne : p.ended = false) (hp' : p' = nextAttempt st a)
      (hpot : a < st.attempts.toNat → 5 * (st.attempts.toNat - a) - 4 ≤ potential st p) :
      p'.InRange st ∧ potential st p' + 1 ≤ potential st p := by
    have hlt := hp a hcur
    rcases nextAttempt_cases st a with ⟨hx, hlt'⟩ | hx <;> rw [hx] at hp'
    · subst hp'
      refine ⟨fun b hb => ?_, ?_⟩
      · cases hb
        exact hlt'
      · have hleft := hpot hlt
        change 5 * (st.attempts.toNat - (a + 1)) + 1 ≤ potential st p
        omega
    · exact hend (hp' ▸ rfl) hne
  cases getStep_cases h with
  | enterWaiting a => exact hsame rfl rfl fun hlt => by simp only [potential]; omega
  | enterFree a => exact hsame rfl rfl fun hlt => by simp only [potential]; omega
  | grant a => exact hsame rfl rfl fun hlt => by simp only [potential]; omega
  | answer a permit result =>
    rcases afterGet_cases st now o a permit result with ⟨r, hx⟩ | hx | hx
    · exact hsame rfl (by rw [hx]; rfl) fun hlt => by rw [hx]; simp only [potential]; omega
    · exact hsame rfl (by rw [hx]; rfl) fun hlt => by rw [hx]; simp only [potential]; omega
    · exact hend hx rfl
  | read a r =>
    rcases afterSlot_cases st now a r with hx | hx
    · exact hsame rfl (by rw [hx]; rfl) fun hlt => by rw [hx]; simp only [potential]; omega
    · exact hend hx rfl
  | wakeInSlot a permit =>
    rcases exitSlot_phase o permit (nextAttempt st a) with hx | ⟨err, hx⟩
    · exact hnext rfl rfl hx fun hlt => by simp only [potential]; omega
    · exact hend (by rw [hx]; rfl) rfl
  | wake a => exact hnext rfl rfl rfl fun hlt => by simp only [potential]; omega
  | cancelInSlot permit hphase =>
    refine hend (exitSlot_ended o permit rfl) ?_
    obtain ⟨a, rfl | ⟨wake, rfl⟩⟩ := hphase <;> rfl
  | cancel hphase =>
    refine hend rfl ?_
    obtain ⟨a, ⟨s, rfl⟩ | ⟨r, rfl⟩ | ⟨wake, rfl⟩⟩ := hphase <;> rfl

end Call

/-! ### No call goes on for ever -/

/-- The steps of call `i`. -/
def isStepOf (i : ℕ) : HttpEvent → Bool
  | .get j _ => j == i
  | _ => false

/-- The steps that call `i` has left, or will have once it is made. -/
def stepsLeft (st : HttpSettings) (i : ℕ) (w : HttpWorld) : ℕ :=
  w.calls[i]?.elim (5 * st.attempts.toNat) (potential st)

/-- All calls are at attempts that are allowed. -/
def AllInRange (st : HttpSettings) (w : HttpWorld) : Prop := ∀ p ∈ w.calls, p.InRange st

section Run
variable {st : HttpSettings} {o : OutboundState} {w w' : HttpWorld} {e : HttpEvent}

theorem inRange_entering (st : HttpSettings) : (GetPhase.entering 0).InRange st := fun a ha => by
  cases ha
  have := attempts_pos st
  omega

theorem AllInRange.step (h : AllInRange st w) (hs : httpStep st w e = some w') : AllInRange st w' := by
  cases e with
  | call =>
    cases hs
    intro p hp
    rcases List.mem_append.mp hp with hp | hp
    · exact h p hp
    · rw [List.mem_singleton.mp hp]
      exact inRange_entering st
  | get i e =>
    obtain ⟨p, o', p', hp, hg, rfl⟩ := httpStep_get hs
    intro q hq
    rcases List.mem_or_eq_of_mem_set hq with hq | rfl
    · exact h q hq
    · exact (getStep_potential hg (h p (List.mem_of_getElem? hp))).1
  | set => cases hs; exact h
  | clear => cases hs; exact h
  | tick t =>
    obtain ⟨-, rfl⟩ := httpStep_tick hs
    exact h

theorem allInRange_of_init (h : (httpLTS st o).init w) : AllInRange st w := fun p hp => by
  rw [h.2.1] at hp
  cases hp

theorem allInRange_of_reachable (h : (httpLTS st o).Reachable w) : AllInRange st w :=
  h.invariant (fun _ => allInRange_of_init) fun _ _ _ hi hs => hi.step hs

/-- **A step takes nothing from the other calls and one step from its own.** -/
theorem stepsLeft_step (i : ℕ) (h : AllInRange st w) (hs : httpStep st w e = some w') :
    stepsLeft st i w' + (if isStepOf i e then 1 else 0) ≤ stepsLeft st i w := by
  cases e with
  | call =>
    cases hs
    simp only [stepsLeft, isStepOf, Bool.false_eq_true, if_false, add_zero]
    rcases Nat.lt_trichotomy i w.calls.length with hlt | rfl | hgt
    · rw [List.getElem?_append_left hlt]
    · rw [List.getElem?_concat_length, List.getElem?_eq_none le_rfl]
      exact le_rfl
    · rw [List.getElem?_eq_none (by simp; omega), List.getElem?_eq_none (by omega)]
  | get j e =>
    obtain ⟨p, o', p', hp, hg, rfl⟩ := httpStep_get hs
    have hlt : j < w.calls.length := (List.getElem?_eq_some_iff.mp hp).1
    simp only [stepsLeft, isStepOf]
    by_cases hij : j = i
    · subst hij
      rw [List.getElem?_set_self hlt, hp]
      simpa using (getStep_potential hg (h p (List.mem_of_getElem? hp))).2
    · rw [List.getElem?_set_ne hij]
      simp [hij]
  | set => cases hs; exact le_rfl
  | clear => cases hs; exact le_rfl
  | tick t =>
    obtain ⟨-, rfl⟩ := httpStep_tick hs
    exact le_rfl

/-- **A call makes at most five steps an attempt**, in every run, from any outbound state on and however the
limit is set and cleared on the way. -/
theorem steps_bounded (st : HttpSettings) (o : OutboundState) (i : ℕ) {w w' : HttpWorld}
    {l : List (HttpWorld × HttpEvent × HttpWorld)} (h0 : (httpLTS st o).init w)
    (h : (httpLTS st o).Path w l w') :
    (l.countP fun tr => isStepOf i tr.2.1) ≤ 5 * st.attempts.toNat := by
  have hle := h.countP_add_le (I := AllInRange st) (m := stepsLeft st i) (D := isStepOf i)
    (fun _ _ _ hi hs => hi.step hs) (fun _ _ _ hi hs => stepsLeft_step i hi hs) (allInRange_of_init h0)
  have hinit : stepsLeft st i w = 5 * st.attempts.toNat := by simp [stepsLeft, h0.2.1]
  omega

end Run

/-- A call that enters its slot without a limit. -/
theorem steps_bounded_one : ∃ l w', (httpLTS ⟨2, 1, 100⟩ OutboundState.init).Path
    ⟨0, OutboundState.init, [], []⟩ l w' ∧ l.length = 2 ∧ (l.countP fun tr => isStepOf 0 tr.2.1) ≤ 15 := by
  have hcall : (httpLTS ⟨2, 1, 100⟩ OutboundState.init).step ⟨0, OutboundState.init, [], []⟩ .call
    ⟨0, OutboundState.init, [.entering 0], []⟩ := rfl
  have henter : (httpLTS ⟨2, 1, 100⟩ OutboundState.init).step ⟨0, OutboundState.init, [.entering 0], []⟩
    (.get 0 .enter) ⟨0, OutboundState.init, [.inFlight 0 none], [⟨0, 0, 0⟩]⟩ := rfl
  have hrun := ((LTS.Path.nil _).snoc hcall).snoc henter
  exact ⟨_, _, hrun, rfl, steps_bounded ⟨2, 1, 100⟩ OutboundState.init 0 ⟨rfl, rfl, rfl⟩ hrun⟩

/-! ### No call is stuck -/

/-- A step that no cancellation makes, with an answer of the upstream that `answers` has for this call and
attempt; no further call is made. -/
def Uninterrupted (answers : ℕ → ℕ → Except GetError Response) (w : HttpWorld) : HttpEvent → Prop
  | .get i (.answer result) => ∃ a permit, w.calls[i]? = some (.inFlight a permit) ∧ result = answers i a
  | .get _ e => e ≠ .cancel
  | .tick _ => True
  | _ => False

/-- The steps that all calls have left. -/
def workLeft (st : HttpSettings) (w : HttpWorld) : ℕ := (w.calls.map (potential st)).sum

section Progress
variable {st : HttpSettings} {n : ℕ} (answers : ℕ → ℕ → Except GetError Response) {w : HttpWorld} {i : ℕ}
  {p : GetPhase}

/-- A permit that is not granted is not free. -/
theorem permitsFree_of_grant_eq_none (hl : Limited n w.slots) (h : grant w.out 0 = none) :
    permitsFree w.out = 0 := by
  have hsem : w.out.sem = some 0 := hl.sem
  simp only [permitsFree, hsem]
  cases hs : w.out.sems[0]? with
  | none => rfl
  | some sem => simpa [grant, Lib.Sem.acquire, hs] using h

/-- The system in which no call is cancelled and the upstream answers as `answers` says. -/
def answeredLTS (st : HttpSettings) (n : ℕ) (answers : ℕ → ℕ → Except GetError Response) :
    LTS HttpWorld HttpEvent :=
  (limitedHttpLTS st n).restrict (Uninterrupted answers)

/-- A step of a call, taken. -/
theorem exists_less_of_getStep (hin : AllInRange st w) {e : GetEvent} {r : OutboundState × GetPhase}
    (hp : w.calls[i]? = some p) (hs : getStep st w.now w.out p e = some r)
    (hu : Uninterrupted answers w (.get i e)) :
    ∃ l w', (answeredLTS st n answers).Path w l w' ∧ w'.calls.length = w.calls.length ∧
      workLeft st w' < workLeft st w := by
  obtain ⟨o', p'⟩ := r
  have hstep := httpStep_of_getStep hp hs
  refine ⟨_, _, .snoc (.nil w) ⟨hu, trivial, hstep⟩, by simp, ?_⟩
  have hless := (getStep_potential hs (hin p (List.mem_of_getElem? hp))).2
  have hset := Lib.sum_map_set (potential st) hp p'
  change ((w.calls.set i p').map (potential st)).sum < (w.calls.map (potential st)).sum
  omega

/-- A step of a call, taken once time has passed. -/
theorem exists_less_of_wake (hin : AllInRange st w) {t : Time} {r : OutboundState × GetPhase}
    (ht : w.now ≤ t) (hp : w.calls[i]? = some p) (hs : getStep st t w.out p .wake = some r) :
    ∃ l w', (answeredLTS st n answers).Path w l w' ∧ w'.calls.length = w.calls.length ∧
      workLeft st w' < workLeft st w := by
  have htick : (answeredLTS st n answers).step w (.tick t) { w with now := t } :=
    ⟨trivial, trivial, httpStep_tick_of_le ht⟩
  obtain ⟨l, w', hl, hlen, hless⟩ :=
    exists_less_of_getStep answers (w := { w with now := t }) hin hp hs (by simp [Uninterrupted])
  exact ⟨_, w', ((LTS.Path.nil w).snoc htick).append hl, hlen, hless⟩

/-- A call that is under way and waits for no permit has a step to make. -/
theorem exists_less_of_active (hl : Limited n w.slots) (hin : AllInRange st w) (hp : w.calls[i]? = some p)
    (hend : p.ended = false) (hwait : ∀ a s, p ≠ .waiting a s) :
    ∃ l w', (answeredLTS st n answers).Path w l w' ∧ w'.calls.length = w.calls.length ∧
      workLeft st w' < workLeft st w := by
  cases p with
  | entering a =>
    have hs : getStep st w.now w.out (.entering a) .enter = some (w.out, .waiting a 0) := by
      simp [getStep, enterSlot, show w.out.sem = some 0 from hl.sem]
    exact exists_less_of_getStep answers hin hp hs (by simp [Uninterrupted])
  | waiting a s => exact absurd rfl (hwait a s)
  | inFlight a permit =>
    have hs : getStep st w.now w.out (.inFlight a permit) (.answer (answers i a)) =
      some (afterGet st w.now w.out a permit (answers i a)) := rfl
    exact exists_less_of_getStep answers hin hp hs ⟨a, permit, hp, rfl⟩
  | backoffInSlot a permit wake =>
    exact exists_less_of_wake answers hin (le_max_left w.now wake) hp (if_pos (le_max_right w.now wake))
  | reading a response =>
    have hs : getStep st w.now w.out (.reading a response) .read =
      some (w.out, afterSlot st w.now a response) := rfl
    exact exists_less_of_getStep answers hin hp hs (by simp [Uninterrupted])
  | backoff a wake =>
    exact exists_less_of_wake answers hin (le_max_left w.now wake) hp (if_pos (le_max_right w.now wake))
  | _ => cases hend

/-- **While a call has not ended, some call has a step to make.** -/
theorem exists_less (hn : 0 < n) (hl : Limited n w.slots) (hin : AllInRange st w)
    (hend : ¬ ∀ p ∈ w.calls, p.ended) :
    ∃ l w', (answeredLTS st n answers).Path w l w' ∧ w'.calls.length = w.calls.length ∧
      workLeft st w' < workLeft st w := by
  push Not at hend
  obtain ⟨p, hmem, hp⟩ := hend
  obtain ⟨i, hi⟩ := List.getElem?_of_mem hmem
  by_cases hwait : ∃ a s, p = .waiting a s
  · obtain ⟨a, s, rfl⟩ := hwait
    obtain rfl : s = 0 := hl.waits s (List.mem_map.mpr ⟨_, hmem, rfl⟩)
    cases hacq : grant w.out 0 with
    | some o' =>
      have hs : getStep st w.now w.out (.waiting a 0) .grant = some (o', .inFlight a (some 0)) := by
        simp only [getStep, hacq, Option.map_some]
      exact exists_less_of_getStep answers hin hi hs (by simp [Uninterrupted])
    | none =>
      -- no permit is free, so another call holds one
      have hheld : 0 < w.slots.held.countP Option.isSome := by
        have hfree := permitsFree_of_grant_eq_none hl hacq
        have hsum : w.slots.held.countP Option.isSome + permitsFree w.out = n := hl.permits
        omega
      obtain ⟨slot, hslot, hsome⟩ := List.countP_pos_iff.mp hheld
      obtain ⟨x, hx, rfl⟩ := List.mem_map.mp hslot
      obtain ⟨q, hq, rfl⟩ := List.mem_map.mp hx
      obtain ⟨j, hj⟩ := List.getElem?_of_mem hq
      refine exists_less_of_active answers hl hin hj ?_ fun b s he => ?_
      · cases q <;> first | rfl | cases hsome
      · rw [he] at hsome
        cases hsome
  · push Not at hwait
    exact exists_less_of_active answers hl hin hi (by simpa using hp) hwait

end Progress

/-- **Every call can end.** Under a fixed limit, in every reachable state, the calls made so far can all
end, without a cancellation, with whatever answers the upstream gives. -/
theorem calls_complete (st : HttpSettings) {n : ℕ} (hn : 0 < n) (answers : ℕ → ℕ → Except GetError Response)
    {w : HttpWorld} (h : (limitedHttpLTS st n).Reachable w) :
    ∃ l w', (answeredLTS st n answers).Path w l w' ∧ w'.calls.length = w.calls.length ∧
      ∀ p ∈ w'.calls, p.ended := by
  have hless (w₁ : HttpWorld) (hw₁ : (limitedHttpLTS st n).Reachable w₁ ∧ w₁.calls.length = w.calls.length)
      (hend : ¬ ∀ p ∈ w₁.calls, p.ended) : ∃ l w₂, (answeredLTS st n answers).Path w₁ l w₂ ∧
        ((limitedHttpLTS st n).Reachable w₂ ∧ w₂.calls.length = w.calls.length) ∧
          workLeft st w₂ < workLeft st w₁ := by
    obtain ⟨hreach, hlen⟩ := hw₁
    obtain ⟨l, w₂, hl, hlen', hless⟩ := exists_less answers hn (limited_slots hn hreach)
      (allInRange_of_reachable hreach.of_restrict) hend
    exact ⟨l, w₂, hl, ⟨hl.of_restrict.reachable hreach, hlen'.trans hlen⟩, hless⟩
  obtain ⟨l, w', hl, ⟨-, hlen⟩, hdone⟩ := LTS.exists_path_of_potential (workLeft st) hless ⟨h, rfl⟩
  exact ⟨l, w', hl, hlen, hdone⟩

/-- Two calls under the limit 1, the first in `client.get` and the other waiting for its permit. -/
theorem calls_complete_two : ∃ w l w', w.calls = [.inFlight 0 (some 0), .waiting 0 0] ∧
    (answeredLTS ⟨2, 1, 100⟩ 1 fun _ _ => .error (.connect "refused")).Path w l w' ∧
    w'.calls.length = w.calls.length ∧ ∀ p ∈ w'.calls, p.ended := by
  have h0 : (limitedHttpLTS ⟨2, 1, 100⟩ 1).Reachable ⟨0, ⟨[⟨1, 1⟩], some 0⟩, [], []⟩ := .init ⟨rfl, rfl, rfl⟩
  have h1 := (h0.step (a := HttpEvent.call) ⟨trivial, rfl⟩).step (a := HttpEvent.call) ⟨trivial, rfl⟩
  have h2 := ((h1.step (a := HttpEvent.get 0 .enter) ⟨trivial, rfl⟩).step (a := HttpEvent.get 0 .grant)
    ⟨trivial, rfl⟩).step (a := HttpEvent.get 1 .enter) ⟨trivial, rfl⟩
  obtain ⟨l, w', hl, hend⟩ := calls_complete _ one_pos (fun _ _ => .error (.connect "refused")) h2
  exact ⟨_, l, w', rfl, hl, hend⟩

/-! ### The GETs of one call -/

/-- The GETs that call `i` has sent. -/
def getsOf (w : HttpWorld) (i : ℕ) : List SentGet := w.gets.filter fun g => g.call == i

/-- The GETs that a call has sent when it stands at `p`. -/
def GetPhase.sentBy : GetPhase → Option ℕ
  | .entering a | .waiting a _ => some a
  | .inFlight a _ | .backoffInSlot a _ _ | .reading a _ | .backoff a _ => some (a + 1)
  | _ => none

/-- Before when a call that stands at `p` sends no other GET. -/
def GetPhase.due (now : Time) : GetPhase → Option Time
  | .entering _ | .waiting _ _ => some now
  | .backoffInSlot _ _ wake | .backoff _ wake => some wake
  | _ => none

/-- The second GET is sent a backoff after the first, at least. -/
def BackedOff (st : HttpSettings) (g g' : SentGet) : Prop := g.time + st.backoff g.attempt ≤ g'.time

/-- A call that stands at `p` has sent the GETs `gets`: one for each attempt so far, in order, a backoff
apart. -/
structure InOrder (st : HttpSettings) (now : Time) (gets : List SentGet) (p : GetPhase) : Prop where
  attempts : gets.map SentGet.attempt = List.range gets.length
  allowed : gets.length ≤ st.attempts.toNat
  sent : ∀ k, p.sentBy = some k → gets.length = k
  past : ∀ g ∈ gets, g.time ≤ now
  due : ∀ t, p.due now = some t → ∀ g ∈ gets.getLast?, g.time + st.backoff g.attempt ≤ t
  spaced : gets.IsChain (BackedOff st)

section Order
variable {st : HttpSettings} {now : Time} {o o' : OutboundState} {p p' : GetPhase} {e : GetEvent}
  {gets : List SentGet}

theorem attempt_of_getLast? (h : gets.map SentGet.attempt = List.range gets.length) {g : SentGet}
    (hg : g ∈ gets.getLast?) : g.attempt + 1 = gets.length := by
  obtain ⟨init, rfl⟩ := List.getLast?_eq_some_iff.mp hg
  rw [List.map_append, List.length_append, List.length_singleton, List.range_succ] at h
  have hlast := (List.append_inj' h rfl).2
  simpa using hlast

/-- Time passes. -/
theorem InOrder.tick (h : InOrder st now gets p) {t : Time} (ht : now ≤ t) : InOrder st t gets p where
  attempts := h.attempts
  allowed := h.allowed
  sent := h.sent
  past g hg := (h.past g hg).trans ht
  due t' ht' g hg := by
    cases p <;> first
      | (cases ht'; exact (h.due _ rfl g hg).trans ht)
      | (cases ht'; exact h.due _ rfl g hg)
      | cases ht'
  spaced := h.spaced

/-- A step that sends nothing. -/
theorem InOrder.move (h : InOrder st now gets p) (hsent : ∀ k, p'.sentBy = some k → gets.length = k)
    (hdue : ∀ t, p'.due now = some t → ∀ g ∈ gets.getLast?, g.time + st.backoff g.attempt ≤ t) :
    InOrder st now gets p' :=
  ⟨h.attempts, h.allowed, hsent, h.past, hdue, h.spaced⟩

/-- A call that ends sends nothing more. -/
theorem InOrder.finish (h : InOrder st now gets p) (hend : p'.ended) : InOrder st now gets p' := by
  refine h.move (fun k hk => ?_) fun t ht => ?_
  · cases p' <;> first | (cases hend; done) | cases hk
  · cases p' <;> first | (cases hend; done) | cases ht

/-- A call that goes on at the next attempt. -/
theorem InOrder.next (h : InOrder st now gets p) {a : ℕ} (hsent : p.sentBy = some (a + 1))
    (hdue : ∃ wake ≤ now, p.due now = some wake) : InOrder st now gets (nextAttempt st a) := by
  rcases nextAttempt_cases st a with ⟨hx, -⟩ | hx <;> rw [hx]
  · refine h.move (fun k hk => ?_) fun t ht g hg => ?_
    · cases hk
      exact h.sent _ hsent
    · cases ht
      obtain ⟨wake, hle, hwake⟩ := hdue
      exact (h.due _ hwake g hg).trans hle
  · exact h.finish rfl

/-- **A call sends the GET of its attempt.** -/
theorem InOrder.send (h : InOrder st now gets p) {a : ℕ} (i : ℕ) (permit : Option ℕ)
    (hsent : p.sentBy = some a) (hdue : p.due now = some now) (hlt : a < st.attempts.toNat) :
    InOrder st now (gets ++ [⟨i, a, now⟩]) (.inFlight a permit) where
  attempts := by
    rw [List.map_append, List.length_append, List.length_singleton, List.range_succ, h.attempts,
      h.sent _ hsent]
    rfl
  allowed := by
    rw [List.length_append, List.length_singleton, h.sent _ hsent]
    exact hlt
  sent k hk := by
    cases hk
    rw [List.length_append, List.length_singleton, h.sent _ hsent]
  past g hg := by
    rcases List.mem_append.mp hg with hg | hg
    · exact h.past g hg
    · rw [List.mem_singleton.mp hg]
  due t ht := by cases ht
  spaced := by
    refine List.isChain_append.mpr ⟨h.spaced, List.isChain_singleton _, fun g hg g' hg' => ?_⟩
    cases hg'
    exact h.due now hdue g hg

/-- A call that is to sleep its backoff. -/
theorem InOrder.sleep (h : InOrder st now gets p) {a : ℕ} (hsent : p.sentBy = some (a + 1))
    (hsent' : p'.sentBy = some (a + 1)) (hdue : p'.due now = some (now + st.backoff a)) :
    InOrder st now gets p' := by
  refine h.move (fun k hk => ?_) fun t ht g hg => ?_
  · rw [hsent'] at hk
    exact h.sent k (hsent.trans hk)
  · rw [hdue, Option.some.injEq] at ht
    subst ht
    have hlast := attempt_of_getLast? h.attempts hg
    rw [h.sent _ hsent, Nat.add_right_cancel_iff] at hlast
    rw [hlast]
    exact add_le_add_left (h.past g (List.mem_of_getLast? hg)) _

theorem InOrder.quiet (h : InOrder st now gets p') {i : ℕ} (hq : sends i now e p' = []) :
    InOrder st now (gets ++ sends i now e p') p' := by
  rwa [hq, List.append_nil]

/-- **A step of a call keeps its GETs in order.** -/
theorem InOrder.step (h : InOrder st now gets p) (hp : p.InRange st) (i : ℕ)
    (hs : getStep st now o p e = some (o', p')) : InOrder st now (gets ++ sends i now e p') p' := by
  cases getStep_cases hs with
  | enterWaiting a =>
    refine InOrder.quiet ?_ rfl
    exact h.move (fun k hk => h.sent k hk) fun t ht => h.due t ht
  | enterFree a => exact h.send i none rfl rfl (hp a rfl)
  | grant a => exact h.send i _ rfl rfl (hp a rfl)
  | answer a permit result =>
    refine InOrder.quiet ?_ rfl
    rcases afterGet_cases st now o a permit result with ⟨r, hx⟩ | hx | hx
    · rw [hx]
      exact h.move (fun k hk => h.sent k hk) fun t ht => by cases ht
    · rw [hx]
      exact h.sleep rfl rfl rfl
    · exact h.finish hx
  | read a r =>
    refine InOrder.quiet ?_ rfl
    rcases afterSlot_cases st now a r with hx | hx
    · rw [hx]
      exact h.sleep rfl rfl rfl
    · exact h.finish hx
  | wakeInSlot a permit hwake =>
    refine InOrder.quiet ?_ rfl
    rcases exitSlot_phase o permit (nextAttempt st a) with hx | ⟨err, hx⟩ <;> rw [hx]
    · exact h.next rfl ⟨_, hwake, rfl⟩
    · exact h.finish rfl
  | wake a hwake => exact (h.next rfl ⟨_, hwake, rfl⟩).quiet rfl
  | cancelInSlot permit => exact (h.finish (exitSlot_ended o permit rfl)).quiet rfl
  | cancel => exact (h.finish rfl).quiet rfl

end Order

/-! ### The GETs of all calls -/

/-- Every call has sent its GETs in order, and no GET belongs to a call that was not made. -/
structure AllInOrder (st : HttpSettings) (w : HttpWorld) : Prop where
  inRange : AllInRange st w
  inOrder : ∀ i p, w.calls[i]? = some p → InOrder st w.now (getsOf w i) p
  scope : ∀ g ∈ w.gets, g.call < w.calls.length

section Runs
variable {st : HttpSettings} {o : OutboundState} {w w' : HttpWorld} {e : HttpEvent}

theorem getsOf_append (gets : List SentGet) (i j : ℕ) (now : Time) (e : GetEvent) (p : GetPhase) :
    (gets ++ sends j now e p).filter (fun g => g.call == i) =
      gets.filter (fun g => g.call == i) ++ if j = i then sends j now e p else [] := by
  rw [List.filter_append]
  rcases sends_cases j now e p with hs | ⟨a, hs⟩ <;> rw [hs]
  · simp
  · by_cases hij : j = i <;> simp [hij]

theorem scope_sends {i : ℕ} {now : Time} {e : GetEvent} {p : GetPhase} {g : SentGet}
    (h : g ∈ sends i now e p) : g.call = i := by
  rcases sends_cases i now e p with hs | ⟨a, hs⟩ <;> rw [hs] at h
  · cases h
  · rw [List.mem_singleton.mp h]

/-- A call that was not made has sent nothing. -/
theorem getsOf_eq_nil (h : ∀ g ∈ w.gets, g.call < w.calls.length) {i : ℕ} (hi : w.calls.length ≤ i) :
    getsOf w i = [] := by
  refine List.filter_eq_nil_iff.mpr fun g hg => ?_
  have hlt := h g hg
  simp only [beq_iff_eq]
  omega

/-- A step sends no GET of a call that was not made. -/
theorem scope_step (h : ∀ g ∈ w.gets, g.call < w.calls.length) (hs : httpStep st w e = some w') :
    ∀ g ∈ w'.gets, g.call < w'.calls.length := by
  intro g hg
  cases e with
  | call =>
    cases hs
    rw [List.length_append]
    exact Nat.lt_add_right _ (h g hg)
  | get j e =>
    obtain ⟨q, o', q', hq, -, rfl⟩ := httpStep_get hs
    rw [List.length_set]
    rcases List.mem_append.mp hg with hg | hg
    · exact h g hg
    · rw [scope_sends hg]
      exact (List.getElem?_eq_some_iff.mp hq).1
  | set => cases hs; exact h g hg
  | clear => cases hs; exact h g hg
  | tick t =>
    obtain ⟨-, rfl⟩ := httpStep_tick hs
    exact h g hg

/-- **What holds of every call, with its GETs, is kept by a step of the process** if a new call has it, a step
of a call keeps it, and time does. -/
theorem eachCall_step {P : Time → ℕ → GetPhase → List SentGet → Prop}
    (h : ∀ i p, w.calls[i]? = some p → P w.now i p (getsOf w i))
    (hscope : ∀ g ∈ w.gets, g.call < w.calls.length) (hs : httpStep st w e = some w')
    (hcall : P w.now w.calls.length (.entering 0) [])
    (hget : ∀ j e' p o' p', e = .get j e' → w.calls[j]? = some p → p' ∈ w'.calls →
      getStep st w.now w.out p e' = some (o', p') → P w.now j p (getsOf w j) →
        P w.now j p' (getsOf w j ++ sends j w.now e' p'))
    (htick : ∀ t i p gets, w.now ≤ t → P w.now i p gets → P t i p gets) :
    ∀ i p, w'.calls[i]? = some p → P w'.now i p (getsOf w' i) := by
  intro i p hp
  cases e with
  | call =>
    cases hs
    rcases Nat.lt_trichotomy i w.calls.length with hlt | rfl | hgt
    · exact h i p (by rwa [List.getElem?_append_left hlt] at hp)
    · -- the new call has sent nothing
      rw [List.getElem?_concat_length, Option.some.injEq] at hp
      subst hp
      change P w.now _ _ (getsOf w w.calls.length)
      rw [getsOf_eq_nil hscope le_rfl]
      exact hcall
    · rw [List.getElem?_eq_none (by simp; omega)] at hp
      cases hp
  | get j e =>
    have hmem := List.mem_of_getElem? hp
    obtain ⟨q, o', q', hq, hg, rfl⟩ := httpStep_get hs
    have hlt : j < w.calls.length := (List.getElem?_eq_some_iff.mp hq).1
    simp only [getsOf, getsOf_append]
    by_cases hij : j = i
    · subst hij
      rw [List.getElem?_set_self hlt, Option.some.injEq] at hp
      subst hp
      rw [if_pos rfl]
      exact hget j e q o' q' rfl hq hmem hg (h j q hq)
    · rw [List.getElem?_set_ne hij] at hp
      rw [if_neg hij, List.append_nil]
      exact h i p hp
  | set => cases hs; exact h i p hp
  | clear => cases hs; exact h i p hp
  | tick t =>
    obtain ⟨ht, rfl⟩ := httpStep_tick hs
    exact htick t i p _ ht (h i p hp)

/-- **Every step of the process keeps the GETs of every call in order.** -/
theorem AllInOrder.step (h : AllInOrder st w) (hs : httpStep st w e = some w') : AllInOrder st w' := by
  refine ⟨h.inRange.step hs, eachCall_step (P := fun now _ p gets => InOrder st now gets p) h.inOrder h.scope hs
    ?_ (fun j e p o' p' _ hp _ hg horder => ?_) fun t _ p gets ht horder => horder.tick ht,
    scope_step h.scope hs⟩
  · exact ⟨rfl, Nat.zero_le _, fun k hk => by cases hk; rfl, by simp, by simp, List.IsChain.nil⟩
  · exact horder.step (h.inRange p (List.mem_of_getElem? hp)) j hg

theorem allInOrder_of_reachable (h : (httpLTS st o).Reachable w) : AllInOrder st w := by
  refine h.invariant (fun w hinit => ⟨allInRange_of_init hinit, fun i p hp => ?_, fun g hg => ?_⟩)
    fun _ _ _ hi hs => hi.step hs
  · rw [hinit.2.1] at hp
    cases hp
  · rw [hinit.2.2] at hg
    cases hg

end Runs

/-- **A call sends one GET an attempt, in order, a backoff apart, and no more than it has attempts**, in
every reachable state, from any outbound state on, however the limit is set and cleared on the way and
whatever is cancelled. -/
theorem gets_in_order (st : HttpSettings) (o : OutboundState) {w : HttpWorld} (h : (httpLTS st o).Reachable w)
    (i : ℕ) : (getsOf w i).map SentGet.attempt = List.range (getsOf w i).length ∧
      ((getsOf w i).length : ℤ) ≤ st.attempts ∧ (getsOf w i).IsChain (BackedOff st) := by
  have hall := allInOrder_of_reachable h
  cases hp : w.calls[i]? with
  | some p =>
    have horder := hall.inOrder i p hp
    have hle := horder.allowed
    have hpos := attempts_pos st
    exact ⟨horder.attempts, by omega, horder.spaced⟩
  | none =>
    rw [getsOf_eq_nil hall.scope (List.getElem?_eq_none_iff.mp hp)]
    exact ⟨rfl, (attempts_pos st).le, List.IsChain.nil⟩

/-- A call that gets a connect error and sends its second GET after the backoff. -/
theorem gets_in_order_two : ∃ w, w.gets = [⟨0, 0, 0⟩, ⟨0, 1, 1⟩] ∧
    (getsOf w 0).map SentGet.attempt = List.range (getsOf w 0).length ∧
      ((getsOf w 0).length : ℤ) ≤ 3 ∧ (getsOf w 0).IsChain (BackedOff ⟨2, 1, 100⟩) := by
  have h0 : (httpLTS ⟨2, 1, 100⟩ OutboundState.init).Reachable ⟨0, OutboundState.init, [], []⟩ :=
    .init ⟨rfl, rfl, rfl⟩
  have h1 := (h0.step (a := HttpEvent.call) rfl).step (a := HttpEvent.get 0 .enter) rfl
  have h2 := h1.step (a := HttpEvent.get 0 (.answer (.error (.connect "refused")))) rfl
  have h3 := h2.step (a := HttpEvent.tick 1) (httpStep_tick_of_le zero_le_one)
  have h4 := (h3.step (a := HttpEvent.get 0 .wake) (httpStep_of_getStep rfl (if_pos (by
    simp [HttpSettings.backoff])))).step (a := HttpEvent.get 0 .enter) rfl
  exact ⟨_, rfl, gets_in_order _ _ h4 0⟩

end LookupAggregator.ResilientHttp
