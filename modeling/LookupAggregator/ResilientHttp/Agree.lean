import LookupAggregator.ResilientHttp.Progress

/-! # Calls among others, and the loop

Under a fixed limit the interleaving of the calls decides when a call ends, and not how: a call that is not
cancelled sends the GETs that `resilientGet` sends over its own answers, and ends as that does
(`calls_agree`), whatever the other calls are answered and however many of them are cancelled. -/

namespace LookupAggregator.ResilientHttp

open LookupAggregator.Lib.Transition Outbound

/-! ### What the loop sends, and how it ends -/

/-- The attempt of a GET. -/
def Action.attempt : Action → Option ℕ
  | .get a => some a
  | .sleep _ => none

/-- The attempts whose GETs are among the actions. -/
def attemptsIn (actions : List Action) : List ℕ := actions.filterMap Action.attempt

/-- Where a call stands that has ended so. -/
def endOf : Option (Except GetError Response) → GetPhase
  | some (.ok r) => .returned r
  | some (.error e) => .raised e
  | none => .returnedNone

/-- A step that does not cancel call `i`, and gives it the answer that `outcomes` has for its attempt. Of the
other calls it may do anything. -/
def Answered (i : ℕ) (outcomes : ℕ → Except GetError Response) (w : HttpWorld) : HttpEvent → Prop
  | .get j (.answer result) =>
    j = i → ∃ a permit, w.calls[i]? = some (.inFlight a permit) ∧ result = outcomes a
  | .get j e => j = i → e ≠ .cancel
  | _ => True

/-- Calls under a fixed limit, of which call `i` is not cancelled and is answered as `outcomes` says. -/
def agreeingLTS (st : HttpSettings) (n i : ℕ) (outcomes : ℕ → Except GetError Response) :
    LTS HttpWorld HttpEvent := (limitedHttpLTS st n).restrict (Answered i outcomes)

/-! ### One call -/

/-- A call at `p` that has sent `gets` has done a part of the loop, and has the rest left. -/
def Agrees (st : HttpSettings) (outcomes : ℕ → Except GetError Response) (p : GetPhase) (gets : List SentGet) :
    Prop :=
  ∃ done, Tracks st outcomes p done ∧ gets.map SentGet.attempt = attemptsIn done

section Call
variable {st : HttpSettings} {outcomes : ℕ → Except GetError Response} {now : Time} {o o' : OutboundState}
  {p p' : GetPhase} {e : GetEvent}

theorem agrees_entering : Agrees st outcomes (.entering 0) [] := by
  refine ⟨[], ⟨rfl, fun a ha => ?_⟩, rfl⟩
  cases ha
  have := attempts_pos st
  omega

theorem attemptsIn_actions_of_not_inFlight (now : Time) (h : p.isInFlight = false) :
    attemptsIn (actions now p) = [] := by cases p <;> first | rfl | cases h

theorem isInFlight_of_ended (h : p.ended) : p.isInFlight = false := by cases p <;> first | rfl | cases h

/-- **The GET of a step is the one among its actions.** -/
theorem attemptsIn_actions (i : ℕ) (h : getStep st now o p e = some (o', p')) :
    attemptsIn (actions now p') = (sends i now e p').map SentGet.attempt := by
  have hnone (hp' : p'.isInFlight = false) (hs : sends i now e p' = []) :
      attemptsIn (actions now p') = (sends i now e p').map SentGet.attempt := by
    rw [attemptsIn_actions_of_not_inFlight now hp', hs]
    rfl
  cases getStep_cases h with
  | enterWaiting => rfl
  | enterFree => rfl
  | grant => rfl
  | answer a permit result =>
    refine hnone ?_ rfl
    rcases afterGet_cases st now o a permit result with ⟨r, hx⟩ | hx | hx
    · rw [hx]; rfl
    · rw [hx]; rfl
    · exact isInFlight_of_ended hx
  | read a r =>
    refine hnone ?_ rfl
    rcases afterSlot_cases st now a r with hx | hx
    · rw [hx]; rfl
    · exact isInFlight_of_ended hx
  | wakeInSlot a permit =>
    refine hnone ?_ rfl
    rcases exitSlot_phase o permit (nextAttempt st a) with hx | ⟨err, hx⟩ <;> rw [hx]
    · rcases nextAttempt_cases st a with ⟨hn, -⟩ | hn <;> rw [hn] <;> rfl
    · rfl
  | wake a =>
    refine hnone ?_ rfl
    rcases nextAttempt_cases st a with ⟨hn, -⟩ | hn <;> rw [hn] <;> rfl
  | cancelInSlot permit => exact hnone (isInFlight_of_ended (exitSlot_ended o permit rfl)) rfl
  | cancel => exact hnone rfl rfl

/-- **A step of a call is a step through the loop**, unless leaving the slot raises. -/
theorem Agrees.step {gets : List SentGet} (h : Agrees st outcomes p gets) (i : ℕ)
    (hs : getStep st now o p e = some (o', p')) (he : e ≠ .cancel)
    (ha : ∀ a permit result, p = .inFlight a permit → e = .answer result → result = outcomes a) :
    (∃ err, p' = .leaveRaised err) ∨ Agrees st outcomes p' (gets ++ sends i now e p') := by
  obtain ⟨done, htracks, hgets⟩ := h
  refine (htracks.step hs he ha).imp id fun htracks' => ⟨_, htracks', ?_⟩
  rw [List.map_append, hgets, ← attemptsIn_actions i hs]
  exact (List.filterMap_append ..).symm

/-- **A call that has ended has done all of the loop.** -/
theorem Agrees.ended {gets : List SentGet} (h : Agrees st outcomes p gets) (hend : p.ended)
    (hleave : ∀ err, p ≠ .leaveRaised err) : p = endOf (resilientGet st outcomes).result ∧
      gets.map SentGet.attempt = attemptsIn (resilientGet st outcomes).actions := by
  obtain ⟨done, ⟨hwhole, -⟩, hgets⟩ := h
  have hrest : (rest st outcomes p).actions = [] ∧ p = endOf (rest st outcomes p).result := by
    cases p with
    | returned => exact ⟨rfl, rfl⟩
    | returnedNone => exact ⟨rfl, rfl⟩
    | raised => exact ⟨rfl, rfl⟩
    | leaveRaised err => exact absurd rfl (hleave err)
    | _ => cases hend
  rw [hwhole, hgets]
  refine ⟨hrest.2, ?_⟩
  change attemptsIn done = attemptsIn (done ++ (rest st outcomes p).actions)
  rw [hrest.1, List.append_nil]

end Call

/-! ### Among the others -/

section Runs
variable {st : HttpSettings} {n i : ℕ} {outcomes : ℕ → Except GetError Response} {w w' : HttpWorld}
  {e : HttpEvent}

/-- Call `i`, once it is made, agrees with the loop. -/
def CallAgrees (st : HttpSettings) (i : ℕ) (outcomes : ℕ → Except GetError Response) (w : HttpWorld) : Prop :=
  ∀ j p, w.calls[j]? = some p → j = i → Agrees st outcomes p (getsOf w j)

theorem ne_leaveRaised (h : Limited n w.slots) {p : GetPhase} (hp : p ∈ w.calls) (err : AttributeError) :
    p ≠ .leaveRaised err := by
  rintro rfl
  exact h.noneFailed (List.mem_map.mpr ⟨_, hp, rfl⟩)

/-- What an answered step of the call is. -/
theorem answered_get {e : GetEvent} (h : Answered i outcomes w (.get i e)) : e ≠ .cancel ∧
    ∀ a permit result, w.calls[i]? = some (.inFlight a permit) → e = .answer result → result = outcomes a := by
  cases e with
  | answer result =>
    refine ⟨by simp, fun a permit result' hp he => ?_⟩
    obtain ⟨a', permit', hp', rfl⟩ := h rfl
    rw [hp] at hp'
    cases hp'
    cases he
    rfl
  | _ => exact ⟨h rfl, fun _ _ _ _ he => by cases he⟩

/-- **Every step keeps the call in agreement**, its own ones and those of the others. -/
theorem CallAgrees.step (h : CallAgrees st i outcomes w) (hl : Limited n w'.slots) (hscope : AllInOrder st w)
    (hs : httpStep st w e = some w') (ha : Answered i outcomes w e) : CallAgrees st i outcomes w' := by
  refine eachCall_step (P := fun _ j p gets => j = i → Agrees st outcomes p gets) h hscope.scope hs
    (fun _ => agrees_entering) (fun j e p o' p' he hp hmem hg hagrees hj => ?_)
    fun t _ p gets _ hagrees => hagrees
  subst hj
  obtain ⟨hcancel, hanswer⟩ := answered_get (he ▸ ha)
  refine ((hagrees rfl).step j hg hcancel fun a permit result hphase => ?_).resolve_left ?_
  · exact hanswer a permit result (hphase ▸ hp)
  · rintro ⟨err, herr⟩
    exact ne_leaveRaised hl hmem err herr

theorem callAgrees_of_reachable (hn : 0 < n) (h : (agreeingLTS st n i outcomes).Reachable w) :
    CallAgrees st i outcomes w := by
  induction h with
  | init hinit =>
    intro j p hp
    rw [hinit.2.1] at hp
    cases hp
  | step hr hs ih =>
    have hlimited := LTS.Reachable.of_restrict (hr.step hs)
    exact ih.step (limited_slots hn hlimited) (allInOrder_of_reachable (hr.of_restrict.of_restrict))
      hs.2.2 hs.1

end Runs

/-- **The interleaving does not matter.** Under a fixed limit a call that has ended, and was not cancelled, has
sent the GETs that `resilientGet` sends over the answers to this call, and has ended as that does, whatever
the other calls are answered and whichever of them are cancelled. -/
theorem calls_agree (st : HttpSettings) {n : ℕ} (hn : 0 < n) (i : ℕ) (outcomes : ℕ → Except GetError Response)
    {w : HttpWorld} (h : (agreeingLTS st n i outcomes).Reachable w) {p : GetPhase}
    (hp : w.calls[i]? = some p) (hend : p.ended) : p = endOf (resilientGet st outcomes).result ∧
      (getsOf w i).map SentGet.attempt = attemptsIn (resilientGet st outcomes).actions :=
  (callAgrees_of_reachable hn h i p hp rfl).ended hend
    (ne_leaveRaised (limited_slots hn h.of_restrict) (List.mem_of_getElem? hp))

/-- Two calls under the limit 1: the first has returned, and the second was cancelled while it waited. -/
theorem calls_agree_one : ∃ w, w.calls = [.returned ⟨200, [], [[1]]⟩, .raised .cancelled] ∧
    (getsOf w 0).map SentGet.attempt =
      attemptsIn (resilientGet ⟨2, 1, 100⟩ fun _ => .ok ⟨200, [], [[1]]⟩).actions := by
  have h0 : (agreeingLTS ⟨2, 1, 100⟩ 1 0 fun _ => .ok ⟨200, [], [[1]]⟩).Reachable
      ⟨0, ⟨[⟨1, 1⟩], some 0⟩, [], []⟩ := .init ⟨rfl, rfl, rfl⟩
  have h1 := (h0.step (a := HttpEvent.call) ⟨trivial, trivial, rfl⟩).step (a := HttpEvent.call)
    ⟨trivial, trivial, rfl⟩
  have h2 := ((h1.step (a := HttpEvent.get 0 .enter) ⟨by simp [Answered], trivial, rfl⟩).step
    (a := HttpEvent.get 0 .grant) ⟨by simp [Answered], trivial, rfl⟩).step (a := HttpEvent.get 1 .enter)
    ⟨by simp [Answered], trivial, rfl⟩
  have h3 := h2.step (a := HttpEvent.get 1 .cancel) ⟨by simp [Answered], trivial, rfl⟩
  have h4 := (h3.step (a := HttpEvent.get 0 (.answer (.ok ⟨200, [], [[1]]⟩)))
    ⟨fun _ => ⟨0, some 0, rfl, rfl⟩, trivial, rfl⟩).step
    (a := HttpEvent.get 0 .read) ⟨by simp [Answered], trivial, rfl⟩
  exact ⟨_, rfl, (calls_agree _ one_pos 0 (fun _ => .ok ⟨200, [], [[1]]⟩) h4 rfl rfl).2⟩

end LookupAggregator.ResilientHttp
