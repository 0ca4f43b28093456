import LookupAggregator.ResilientHttp.Permits

/-! # The backoff and the slot

After a 502, 503 or 504 a call has left its slot before it sleeps; after an exception that is retried it sleeps
inside the slot, with its permit. `permitsInFlight_iff`: the permits belong to GETs in flight throughout a run
exactly when no attempt made with a permit ends in such an exception while another attempt is left to sleep
for.
`sleeps_with_permit`: a call that sleeps can keep the only permit from a call that waits for it. -/

namespace LookupAggregator.ResilientHttp

open LookupAggregator.Lib.Transition Outbound

/-- Every permit held belongs to a call whose GET is in flight. -/
def PermitsInFlight (w : HttpWorld) : Prop := ∀ p ∈ w.calls, p.holdsPermit → p.isInFlight

/-- With a permit, but no GET in flight. -/
def GetPhase.idleWithPermit (p : GetPhase) : Bool := p.holdsPermit && !p.isInFlight

/-- A call with a permit gets one of the exceptions of the `except` clause, and goes on to sleep. -/
def RetriesInSlot (st : HttpSettings) (w : HttpWorld) (e : HttpEvent) : Prop :=
  ∃ i a s err, e = .get i (.answer (.error err)) ∧ w.calls[i]? = some (.inFlight a (some s)) ∧
    err.retryable ∧ SleepsAfter st a

section Step
variable {st : HttpSettings} {now : Time} {o o' : OutboundState} {p p' : GetPhase} {e : GetEvent}

theorem permitsInFlight_def {w : HttpWorld} :
    PermitsInFlight w ↔ ∀ p ∈ w.calls, p.idleWithPermit = false := by
  refine forall₂_congr fun p _ => ?_
  unfold GetPhase.idleWithPermit
  cases p.holdsPermit <;> cases p.isInFlight <;> decide

theorem idle_nextAttempt (st : HttpSettings) (a : ℕ) : (nextAttempt st a).idleWithPermit = false := by
  unfold nextAttempt; split_ifs <;> rfl

theorem idle_afterSlot (st : HttpSettings) (now : Time) (a : ℕ) (r : Response) :
    (afterSlot st now a r).idleWithPermit = false := by
  rcases afterSlot_sleeps_or_ends st now a r with h | ⟨r', h⟩ | ⟨e, h⟩ <;> rw [h] <;> rfl

theorem idle_exitSlot (o : OutboundState) (permit : Option ℕ) {next : GetPhase}
    (h : next.idleWithPermit = false) : (exitSlot o permit next).2.idleWithPermit = false := by
  unfold exitSlot
  split
  · exact h
  · rfl

/-- **After `client.get`** a call keeps its permit without a GET exactly when it is to sleep in its slot. -/
theorem idle_afterGet (a : ℕ) (permit : Option ℕ) (result : Except GetError Response) :
    (afterGet st now o a permit result).2.idleWithPermit = true ↔
      permit.isSome ∧ ∃ err, result = .error err ∧ err.retryable ∧ SleepsAfter st a := by
  cases result with
  | ok r =>
    have hidle : (afterGet st now o a permit (.ok r)).2.idleWithPermit = false := idle_exitSlot o permit rfl
    simp [hidle]
  | error err =>
    have hraised (err : GetError) : (exitSlot o permit (.raised err)).2.idleWithPermit = false :=
      idle_exitSlot o permit rfl
    simp only [afterGet]
    split_ifs with hretry hlast hoverflow
    · refine iff_of_false (by simp [hraised]) ?_
      rintro ⟨-, _, -, -, hleft, -⟩
      exact absurd hleft (not_lt.mpr hlast)
    · refine iff_of_false (by simp [hraised]) ?_
      rintro ⟨-, _, -, -, -, hfloat⟩
      rw [hoverflow] at hfloat
      cases hfloat
    · have hsleeps : SleepsAfter st a := ⟨not_le.mp hlast, by simpa using hoverflow⟩
      have hidle : (GetPhase.backoffInSlot a permit (now + st.backoff a)).idleWithPermit = permit.isSome := by
        cases permit <;> rfl
      simp only [hidle, Except.error.injEq, exists_eq_left', hretry, hsleeps, and_true]
    · simp only [hraised, Bool.false_eq_true, Except.error.injEq, exists_eq_left', hretry, false_and,
        and_false]

/-- **How a call comes to hold a permit without a GET in flight.** -/
theorem getStep_idle (h : getStep st now o p e = some (o', p')) :
    p'.idleWithPermit = true ↔ ∃ a s err, p = .inFlight a (some s) ∧ e = .answer (.error err) ∧
      err.retryable ∧ SleepsAfter st a := by
  have hno (hne : ∀ result, e ≠ .answer result) (hidle : p'.idleWithPermit = false) :
      p'.idleWithPermit = true ↔ ∃ a s err, p = .inFlight a (some s) ∧ e = .answer (.error err) ∧
        err.retryable ∧ SleepsAfter st a := by
    refine iff_of_false (by simp [hidle]) ?_
    rintro ⟨a, s, err, -, he, -⟩
    exact hne _ he
  cases getStep_cases h with
  | enterWaiting => exact hno (fun _ he => by cases he) rfl
  | enterFree => exact hno (fun _ he => by cases he) rfl
  | grant => exact hno (fun _ he => by cases he) rfl
  | answer a permit result =>
    rw [idle_afterGet]
    constructor
    · rintro ⟨hsome, err, rfl, herr⟩
      obtain ⟨s, rfl⟩ := Option.isSome_iff_exists.mp hsome
      exact ⟨a, s, err, rfl, rfl, herr⟩
    · rintro ⟨a', s, err, hphase, hevent, herr⟩
      cases hphase
      cases hevent
      exact ⟨rfl, err, rfl, herr⟩
  | read a r => exact hno (fun _ he => by cases he) (idle_afterSlot st now a r)
  | wakeInSlot a permit =>
    exact hno (fun _ he => by cases he) (idle_exitSlot o permit (idle_nextAttempt st a))
  | wake a => exact hno (fun _ he => by cases he) (idle_nextAttempt st a)
  | cancelInSlot permit => exact hno (fun _ he => by cases he) (idle_exitSlot o permit rfl)
  | cancel => exact hno (fun _ he => by cases he) rfl

end Step

section Run
variable {st : HttpSettings} {w w' : HttpWorld} {e : HttpEvent}

/-- **A step keeps the permits in flight exactly when it is no retry in the slot.** -/
theorem permitsInFlight_step (h : PermitsInFlight w) (hs : httpStep st w e = some w') :
    PermitsInFlight w' ↔ ¬ RetriesInSlot st w e := by
  rw [permitsInFlight_def] at h ⊢
  have hsame (hcalls : w'.calls = w.calls) (he : ∀ i e', e ≠ .get i e') :
      (∀ p ∈ w'.calls, p.idleWithPermit = false) ↔ ¬ RetriesInSlot st w e := by
    rw [hcalls]
    exact iff_of_true h fun ⟨i, _, _, _, hget, _⟩ => he i _ hget
  cases e with
  | get i e =>
    obtain ⟨p, o', p', hp, hg, rfl⟩ := httpStep_get hs
    have hidle := getStep_idle hg
    have hlt : i < w.calls.length := (List.getElem?_eq_some_iff.mp hp).1
    have hretries : RetriesInSlot st w (.get i e) ↔ p'.idleWithPermit = true := by
      rw [hidle]
      constructor
      · rintro ⟨j, a, s, err, hget, hcall, herr⟩
        cases hget
        rw [hp] at hcall
        exact ⟨a, s, err, Option.some.inj hcall, rfl, herr⟩
      · rintro ⟨a, s, err, rfl, rfl, herr⟩
        exact ⟨i, a, s, err, rfl, hp, herr⟩
    rw [hretries, Bool.not_eq_true]
    constructor
    · intro hall
      exact hall p' (List.mem_set hlt p')
    · intro hp' q hq
      rcases List.mem_or_eq_of_mem_set hq with hq | rfl
      · exact h q hq
      · exact hp'
  | call =>
    cases hs
    refine iff_of_true (fun p hp => ?_) fun ⟨_, _, _, _, hget, _⟩ => by cases hget
    rcases List.mem_append.mp hp with hp | hp
    · exact h p hp
    · rw [List.mem_singleton.mp hp]
      rfl
  | set n =>
    cases hs
    exact hsame rfl fun _ _ he => by cases he
  | clear =>
    cases hs
    exact hsame rfl fun _ _ he => by cases he
  | tick t =>
    obtain ⟨-, rfl⟩ := httpStep_tick hs
    exact hsame rfl fun _ _ he => by cases he

/-- Under a fixed limit there are as many permits out as GETs in flight, if those who hold them are in
flight. -/
theorem permitsInFlight_iff_count {n : ℕ} (hn : 0 < n) (h : (limitedHttpLTS st n).Reachable w) :
    PermitsInFlight w ↔ permitsFree w.out + getsInFlight w = n := by
  have hl := limited_slots hn h
  have hsum : permitsHeld w + permitsFree w.out = n := by
    rw [permitsHeld_eq]
    exact hl.permits
  have hmono : ∀ p ∈ w.calls, p.isInFlight → p.holdsPermit := fun p hp => holdsPermit_of_isInFlight hl hp
  have hle : getsInFlight w ≤ permitsHeld w := List.countP_mono_left hmono
  constructor
  · intro hall
    have hge : permitsHeld w ≤ getsInFlight w := List.countP_mono_left hall
    omega
  · intro hcount p hp hholds
    by_contra hidle
    -- one call more holds a permit than has a GET in flight
    have hlt : getsInFlight w < permitsHeld w := by
      obtain ⟨pre, post, hcalls⟩ := List.append_of_mem hp
      have hpre : pre.countP GetPhase.isInFlight ≤ pre.countP GetPhase.holdsPermit :=
        List.countP_mono_left fun q hq => hmono q (by rw [hcalls]; simp [hq])
      have hpost : post.countP GetPhase.isInFlight ≤ post.countP GetPhase.holdsPermit :=
        List.countP_mono_left fun q hq => hmono q (by rw [hcalls]; simp [hq])
      unfold getsInFlight permitsHeld
      rw [hcalls, List.countP_append, List.countP_append, List.countP_cons_of_neg hidle,
        List.countP_cons_of_pos hholds]
      omega
    omega

end Run

/-- **Exactly when the permits belong to GETs in flight.** In every run, from any outbound state on and
however the limit is set and cleared on the way, they do throughout if and only if no step is a retry in the
slot; under a fixed limit `n` the permits that are not free are then those of the GETs in flight. -/
theorem permitsInFlight_iff (st : HttpSettings) :
    (∀ o w l w', (httpLTS st o).init w → (httpLTS st o).Path w l w' →
      ((∀ tr ∈ l, PermitsInFlight tr.2.2) ↔ ∀ tr ∈ l, ¬ RetriesInSlot st tr.1 tr.2.1)) ∧
    ∀ n w, 0 < n → (limitedHttpLTS st n).Reachable w →
      (PermitsInFlight w ↔ permitsFree w.out + getsInFlight w = n) := by
  refine ⟨fun o w l w' hinit hpath => ?_, fun n w hn h => permitsInFlight_iff_count hn h⟩
  refine hpath.forall_safe_iff (I := PermitsInFlight) (C := fun w e => ¬ RetriesInSlot st w e)
    (fun _ h => h) (fun _ _ _ h hs => (permitsInFlight_step h hs).mpr)
    (fun _ _ _ h hs => (permitsInFlight_step h hs).mp) fun p hp => ?_
  rw [hinit.2.1] at hp
  exact absurd hp List.not_mem_nil

/-- One call under the limit 1 gets the permit. -/
theorem permitsInFlight_iff_one :
    (∃ l w, (httpLTS ⟨2, 1, 100⟩ ⟨[⟨1, 1⟩], some 0⟩).Path ⟨0, ⟨[⟨1, 1⟩], some 0⟩, [], []⟩ l w ∧
      l.length = 1 ∧ ∀ tr ∈ l, PermitsInFlight tr.2.2) ∧
    ∃ w, w.calls = [.inFlight 0 (some 0)] ∧ permitsFree w.out + getsInFlight w = 1 := by
  have hiff := permitsInFlight_iff ⟨2, 1, 100⟩
  have hrun : (httpLTS ⟨2, 1, 100⟩ ⟨[⟨1, 1⟩], some 0⟩).Path ⟨0, ⟨[⟨1, 1⟩], some 0⟩, [], []⟩
      [(⟨0, ⟨[⟨1, 1⟩], some 0⟩, [], []⟩, .call, ⟨0, ⟨[⟨1, 1⟩], some 0⟩, [.entering 0], []⟩)]
      ⟨0, ⟨[⟨1, 1⟩], some 0⟩, [.entering 0], []⟩ := .snoc (.nil _) (by exact rfl)
  refine ⟨⟨_, _, hrun, rfl, (hiff.1 ⟨[⟨1, 1⟩], some 0⟩ _ _ _ ⟨rfl, rfl, rfl⟩ hrun).mpr ?_⟩, ?_⟩
  · rw [List.forall_mem_singleton]
    rintro ⟨_, _, _, _, hget, _⟩
    cases hget
  · have hinit : (limitedHttpLTS ⟨2, 1, 100⟩ 1).Reachable ⟨0, ⟨[⟨1, 1⟩], some 0⟩, [], []⟩ :=
      .init ⟨rfl, rfl, rfl⟩
    have hreach := ((hinit.step (a := HttpEvent.call) ⟨trivial, rfl⟩).step (a := HttpEvent.get 0 .enter)
      ⟨trivial, rfl⟩).step (a := HttpEvent.get 0 .grant) ⟨trivial, rfl⟩
    refine ⟨_, rfl, (hiff.2 1 _ one_pos hreach).mp fun p hp _ => ?_⟩
    rw [List.mem_singleton.mp hp]
    rfl

/-- **A call keeps the only permit while it sleeps**, after a connect error, and another one waits for it. -/
theorem sleeps_with_permit :
    (∃ w wake, (limitedHttpLTS ⟨2, 1, 100⟩ 1).Reachable w ∧
      w.calls = [.backoffInSlot 0 (some 0) wake, .waiting 0 0] ∧ permitsFree w.out = 0) ∧
    ¬ ∀ st n w, 0 < n → (limitedHttpLTS st n).Reachable w → PermitsInFlight w := by
  have h0 : (limitedHttpLTS ⟨2, 1, 100⟩ 1).Reachable ⟨0, ⟨[⟨1, 1⟩], some 0⟩, [], []⟩ := .init ⟨rfl, rfl, rfl⟩
  have h1 := (h0.step (a := HttpEvent.call) ⟨trivial, rfl⟩).step (a := HttpEvent.call) ⟨trivial, rfl⟩
  have h2 := (h1.step (a := HttpEvent.get 0 .enter) ⟨trivial, rfl⟩).step (a := HttpEvent.get 0 .grant)
    ⟨trivial, rfl⟩
  have h3 := (h2.step (a := HttpEvent.get 1 .enter) ⟨trivial, rfl⟩).step
    (a := HttpEvent.get 0 (.answer (.error (.connect "refused")))) ⟨trivial, rfl⟩
  refine ⟨⟨_, _, h3, rfl, rfl⟩, fun hall => ?_⟩
  have hidle := permitsInFlight_def.mp (hall _ _ _ one_pos h3) _ List.mem_cons_self
  cases hidle

end LookupAggregator.ResilientHttp
