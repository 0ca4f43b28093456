import LookupAggregator.ResilientHttp.Get

/-! # Permits and GETs in flight

The calls of `resilient_get` use the outbound slots as any tasks do: forgetting everything but the slots
turns a run of `httpLTS` into a run of the slots (`getStep_slot`, `httpStep_slots`). Under a fixed limit
`n` at most `n` GETs are therefore in flight, free and held permits are `n` in all, and all `n` are free
once every call has ended: `permits_balance`. -/

namespace LookupAggregator.ResilientHttp

open LookupAggregator.Lib.Transition Outbound

/-! ### The slots of the calls -/

/-- Where a call stands in its slot. -/
def GetPhase.slot : GetPhase → Slot
  | .waiting _ s => .waiting s
  | .inFlight _ permit => .inBody permit
  | .backoffInSlot _ permit _ => .inBody permit
  | .leaveRaised _ => .failed
  | _ => .outside

/-- The module state and where each call stands in its slot. -/
def HttpWorld.slots (w : HttpWorld) : SlotWorld := ⟨w.out, w.calls.map GetPhase.slot⟩

section Slots
variable {st : HttpSettings} {now : Time} {o o' : OutboundState} {p p' : GetPhase} {e : GetEvent}

theorem slot_nextAttempt (st : HttpSettings) (a : ℕ) : (nextAttempt st a).slot = .outside := by
  unfold nextAttempt; split <;> rfl

theorem slot_afterSlot (st : HttpSettings) (now : Time) (a : ℕ) (r : Response) :
    (afterSlot st now a r).slot = .outside := by
  rcases afterSlot_sleeps_or_ends st now a r with h | ⟨r', h⟩ | ⟨e, h⟩ <;> rw [h] <;> rfl

/-- Leaving the slot, whatever comes next. -/
theorem slot_exitSlot (o : OutboundState) (permit : Option ℕ) (next : GetPhase)
    (hn : next.slot = .outside) :
    SlotStep o (.inBody permit) .leave (exitSlot o permit next).1 (exitSlot o permit next).2.slot := by
  cases hl : leaveSlot o permit with
  | ok o' => simpa [exitSlot, hl, hn] using SlotStep.leave hl
  | error e => simpa [exitSlot, hl, GetPhase.slot] using SlotStep.leaveRaises hl

/-- After `client.get` a call leaves its slot or stays in it. -/
theorem slot_afterGet (st : HttpSettings) (now : Time) (o : OutboundState) (a : ℕ) (permit : Option ℕ)
    (result : Except GetError Response) :
    ((afterGet st now o a permit result).1 = o ∧
        (afterGet st now o a permit result).2.slot = .inBody permit) ∨
      SlotStep o (.inBody permit) .leave (afterGet st now o a permit result).1
        (afterGet st now o a permit result).2.slot := by
  rcases afterGet_exits_or_sleeps st now o a permit result with ⟨next, h, hnext⟩ | h <;> rw [h]
  · refine .inr (slot_exitSlot o permit next ?_)
    rcases hnext with ⟨r, rfl⟩ | ⟨e, rfl⟩ <;> rfl
  · exact .inl ⟨rfl, rfl⟩

/-- **A step of a call is a step of its slot, or leaves the slot alone.** -/
theorem getStep_slot (h : getStep st now o p e = some (o', p')) :
    (o' = o ∧ p'.slot = p.slot) ∨ ∃ se, SlotStep o p.slot se o' p'.slot := by
  cases getStep_cases h with
  | enterWaiting a hsem =>
    have hs := SlotStep.enter o
    unfold enterSlot at hs
    rw [hsem] at hs
    exact .inr ⟨_, hs⟩
  | enterFree a hsem =>
    have hs := SlotStep.enter o
    unfold enterSlot at hs
    rw [hsem] at hs
    exact .inr ⟨_, hs⟩
  | grant a hg => exact .inr ⟨_, .grant hg⟩
  | answer a permit result => exact (slot_afterGet st now o a permit result).imp id fun hs => ⟨_, hs⟩
  | read a r => exact .inl ⟨rfl, slot_afterSlot st now a r⟩
  | wakeInSlot a permit => exact .inr ⟨_, slot_exitSlot o permit _ (slot_nextAttempt st a)⟩
  | wake a => exact .inl ⟨rfl, slot_nextAttempt st a⟩
  | cancelInSlot permit hp =>
    have hslot : p.slot = .inBody permit := by
      obtain ⟨a, rfl | ⟨wake, rfl⟩⟩ := hp <;> rfl
    rw [hslot]
    exact .inr ⟨_, slot_exitSlot o permit (.raised .cancelled) rfl⟩
  | cancel hp =>
    obtain ⟨a, ⟨s, rfl⟩ | ⟨r, rfl⟩ | ⟨wake, rfl⟩⟩ := hp
    · exact .inr ⟨_, .cancel o s⟩
    · exact .inl ⟨rfl, rfl⟩
    · exact .inl ⟨rfl, rfl⟩

end Slots

/-- Events that leave `_sem` alone. -/
def SteadyHttp : HttpEvent → Prop
  | .set _ => False
  | .clear => False
  | _ => True

/-- **A step of the process is a step of its slots, or leaves them alone.** -/
theorem httpStep_slots {st : HttpSettings} {w w' : HttpWorld} {e : HttpEvent}
    (h : httpStep st w e = some w') (he : SteadyHttp e) :
    w'.slots = w.slots ∨ ∃ pe, Steady pe ∧ ProcessStep w.slots pe w'.slots := by
  cases e with
  | call =>
    cases h
    have hs := ProcessStep.spawn w.slots
    exact .inr ⟨.spawn, trivial, by simpa [HttpWorld.slots, GetPhase.slot] using hs⟩
  | get i e =>
    obtain ⟨p, o', p', hp, hg, rfl⟩ := httpStep_get h
    have hi : w.slots.tasks[i]? = some p.slot := by simp [HttpWorld.slots, hp]
    rcases getStep_slot hg with ⟨rfl, hslot⟩ | ⟨se, hs⟩
    · refine .inl ?_
      obtain ⟨hlt, he⟩ := List.getElem?_eq_some_iff.mp hi
      simp only [HttpWorld.slots, List.map_set, hslot, ← he]
      rw [SlotWorld.mk.injEq]
      exact ⟨rfl, List.set_getElem_self hlt⟩
    · refine .inr ⟨.task i se, trivial, ?_⟩
      simpa [HttpWorld.slots, List.map_set] using ProcessStep.task hi hs
  | set => exact he.elim
  | clear => exact he.elim
  | tick t =>
    obtain ⟨-, rfl⟩ := httpStep_tick h
    exact .inl rfl

/-! ### A fixed limit -/

/-- The process after `set_outbound_concurrency_limit(n)`, as long as `_sem` is left alone. -/
def limitedHttpLTS (st : HttpSettings) (n : ℕ) : LTS HttpWorld HttpEvent :=
  (httpLTS st (setOutboundConcurrencyLimit n OutboundState.init)).restrict fun _ e => SteadyHttp e

/-- In `client.get`. -/
def GetPhase.isInFlight : GetPhase → Bool
  | .inFlight _ _ => true
  | _ => false

/-- With a permit taken and not yet given back. -/
def GetPhase.holdsPermit : GetPhase → Bool
  | .inFlight _ (some _) => true
  | .backoffInSlot _ (some _) _ => true
  | _ => false

/-- The GETs in flight. -/
def getsInFlight (w : HttpWorld) : ℕ := w.calls.countP GetPhase.isInFlight

/-- The permits held. -/
def permitsHeld (w : HttpWorld) : ℕ := w.calls.countP GetPhase.holdsPermit

theorem holdsPermit_eq (p : GetPhase) : p.holdsPermit = p.slot.held.isSome := by
  rcases p with _ | _ | ⟨_, _ | _⟩ | ⟨_, _ | _, _⟩ | _ | _ | _ | _ | _ | _ <;> rfl

theorem permitsHeld_eq (w : HttpWorld) : permitsHeld w = w.slots.held.countP Option.isSome := by
  simp only [permitsHeld, SlotWorld.held, HttpWorld.slots, List.countP_map]
  exact List.countP_congr fun p _ => by simp [holdsPermit_eq]

theorem limited_slots {st : HttpSettings} {n : ℕ} (hn : 0 < n) {w : HttpWorld}
    (h : (limitedHttpLTS st n).Reachable w) : Limited n w.slots := by
  refine limited_of_reachable hn (h.simulate HttpWorld.slots ?_ ?_)
  · rintro s ⟨hout, hcalls, -⟩
    simp [HttpWorld.slots, limitedLTS, hout, hcalls]
  · intro s e s' _ hs
    exact httpStep_slots hs.2 hs.1

theorem holdsPermit_of_isInFlight {n : ℕ} {w : HttpWorld} (h : Limited n w.slots) {p : GetPhase}
    (hp : p ∈ w.calls) (hf : p.isInFlight) : p.holdsPermit := by
  cases p with
  | inFlight a permit =>
    cases permit with
    | none => exact absurd (List.mem_map.mpr ⟨_, hp, rfl⟩) h.bounded
    | some s => rfl
  | _ => cases hf

/-- **At most `n` GETs are in flight, the permits held and the permits free are `n` in all, and all `n`
are free once every call has returned or raised.** -/
theorem permits_balance (st : HttpSettings) {n : ℕ} (hn : 0 < n) {w : HttpWorld}
    (h : (limitedHttpLTS st n).Reachable w) :
    getsInFlight w ≤ n ∧ permitsHeld w + permitsFree w.out = n ∧
      ((∀ p ∈ w.calls, p.ended) → permitsFree w.out = n) := by
  have hl := limited_slots hn h
  have hsum : permitsHeld w + permitsFree w.out = n := by
    rw [permitsHeld_eq]
    exact hl.permits
  have hle : getsInFlight w ≤ permitsHeld w :=
    List.countP_mono_left fun p hp hf => holdsPermit_of_isInFlight hl hp hf
  refine ⟨by omega, hsum, fun hend => ?_⟩
  have hheld : permitsHeld w = 0 := by
    refine List.countP_eq_zero.mpr fun p hp hh => ?_
    have he := hend p hp
    cases p <;> simp_all [GetPhase.ended, GetPhase.holdsPermit]
  omega

/-- One call in `client.get` and one waiting, under the limit 1. -/
theorem permits_balance_one : ∃ w, w.calls = [.inFlight 0 (some 0), .waiting 0 0] ∧
    getsInFlight w ≤ 1 ∧ permitsHeld w + permitsFree w.out = 1 ∧
      ((∀ p ∈ w.calls, p.ended) → permitsFree w.out = 1) := by
  have h0 : (limitedHttpLTS ⟨2, 0, 100⟩ 1).Reachable ⟨0, ⟨[⟨1, 1⟩], some 0⟩, [], []⟩ :=
    .init ⟨rfl, rfl, rfl⟩
  have h1 := h0.step (a := HttpEvent.call) ⟨trivial, rfl⟩
  have h2 := h1.step (a := HttpEvent.call) ⟨trivial, rfl⟩
  have h3 := h2.step (a := HttpEvent.get 0 .enter) ⟨trivial, rfl⟩
  have h4 := h3.step (a := HttpEvent.get 0 .grant) ⟨trivial, rfl⟩
  have h5 := h4.step (a := HttpEvent.get 1 .enter) ⟨trivial, rfl⟩
  exact ⟨_, rfl, permits_balance _ Nat.one_pos h5⟩

end LookupAggregator.ResilientHttp
