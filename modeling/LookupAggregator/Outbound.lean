import LookupAggregator.Lib.Semaphore
import LookupAggregator.Lib.Transition

/-! # The outbound slots

`outbound_slot` takes a permit of the semaphore in the module global `_sem` and gives one back when its
body ends. It reads the global both times, and `set_outbound_concurrency_limit` and
`clear_outbound_concurrency_limit` may assign it in between: at exit it can be `None`, so that leaving
raises, or another semaphore, which then has a permit too many.

The tasks of the process and the calls that assign `_sem` interleave in the runs of `slotLTS`; every
semaphore ever created stays in the list `sems`, since a task may still wait for it. A run is safe
throughout (`SlotsSafe`) exactly when `_sem` is assigned only while no task holds a permit and a waiting
task is admitted only while `_sem` is still the semaphore it waits for (`Quiet`):
`slotsSafe_iff_quiet`. -/

namespace LookupAggregator.Outbound

open LookupAggregator.Lib LookupAggregator.Lib.Transition

/-! ### The module `app/outbound.py` -/

/-- What `None.release()` raises. -/
inductive AttributeError
  | noneHasNoRelease
deriving DecidableEq

/-- The semaphores created so far and the global `_sem`. -/
structure OutboundState where
  sems : List Sem
  sem : Option ℕ
deriving DecidableEq

/-- The module as imported. -/
def OutboundState.init : OutboundState := ⟨[], none⟩

/-- `set_outbound_concurrency_limit(max_concurrent)`. -/
def setOutboundConcurrencyLimit (maxConcurrent : ℤ) (o : OutboundState) : OutboundState :=
  if maxConcurrent > 0 then
    ⟨o.sems ++ [⟨maxConcurrent.toNat, maxConcurrent.toNat⟩], some o.sems.length⟩
  else { o with sem := none }

/-- `clear_outbound_concurrency_limit()`. -/
def clearOutboundConcurrencyLimit (o : OutboundState) : OutboundState := { o with sem := none }

/-- Where a task stands in `async with outbound_slot()`. -/
inductive Slot
  | outside
  /-- Inside `_sem.acquire()` of the semaphore `s`. -/
  | waiting (s : ℕ)
  /-- In the body, with the semaphore it took a permit of, or with none as `_sem` was `None`. -/
  | inBody (permit : Option ℕ)
  /-- `_sem.release()` raised. -/
  | failed
deriving DecidableEq

/-- The semaphore a task holds a permit of. -/
def Slot.held : Slot → Option ℕ
  | .inBody permit => permit
  | _ => none

/-- Entering: `if _sem is None: yield ...`, else `await _sem.acquire()`. -/
def enterSlot (o : OutboundState) : Slot :=
  match o.sem with
  | none => .inBody none
  | some s => .waiting s

/-- `acquire` of `s` returns. -/
def grant (o : OutboundState) (s : ℕ) : Option OutboundState :=
  (Sem.acquire o.sems s).map fun sems => { o with sems := sems }

/-- Leaving the body: `_sem.release()`, with the global as it is now, if a permit was taken. -/
def leaveSlot (o : OutboundState) : Option ℕ → Except AttributeError OutboundState
  | none => .ok o
  | some _ =>
    match o.sem with
    | none => .error .noneHasNoRelease
    | some s => .ok { o with sems := Sem.release o.sems s }

/-! ### The tasks of a process -/

/-- What a task does next. -/
inductive SlotEvent
  | enter
  | grant
  | cancel
  | leave

/-- The steps of a task. While it waits for its permit it may be cancelled. -/
inductive SlotStep : OutboundState → Slot → SlotEvent → OutboundState → Slot → Prop
  | enter (o : OutboundState) : SlotStep o .outside .enter o (enterSlot o)
  | grant {o o' : OutboundState} {s : ℕ} (h : Outbound.grant o s = some o') :
    SlotStep o (.waiting s) .grant o' (.inBody (some s))
  | cancel (o : OutboundState) (s : ℕ) : SlotStep o (.waiting s) .cancel o .outside
  | leave {o o' : OutboundState} {permit : Option ℕ} (h : leaveSlot o permit = .ok o') :
    SlotStep o (.inBody permit) .leave o' .outside
  | leaveRaises {o : OutboundState} {permit : Option ℕ} {e : AttributeError}
    (h : leaveSlot o permit = .error e) : SlotStep o (.inBody permit) .leave o .failed

/-- The module state and where each task stands. -/
structure SlotWorld where
  out : OutboundState
  tasks : List Slot

/-- What happens in one step of the process. -/
inductive ProcessEvent
  | spawn
  | task (i : ℕ) (e : SlotEvent)
  | set (maxConcurrent : ℤ)
  | clear

/-- The steps of the process. -/
inductive ProcessStep : SlotWorld → ProcessEvent → SlotWorld → Prop
  | spawn (w : SlotWorld) : ProcessStep w .spawn { w with tasks := w.tasks ++ [.outside] }
  | task {w : SlotWorld} {i : ℕ} {x y : Slot} {e : SlotEvent} {out : OutboundState}
    (hi : w.tasks[i]? = some x) (h : SlotStep w.out x e out y) :
    ProcessStep w (.task i e) ⟨out, w.tasks.set i y⟩
  | set (w : SlotWorld) (maxConcurrent : ℤ) :
    ProcessStep w (.set maxConcurrent) { w with out := setOutboundConcurrencyLimit maxConcurrent w.out }
  | clear (w : SlotWorld) :
    ProcessStep w .clear { w with out := clearOutboundConcurrencyLimit w.out }

/-- The process, from the import of the module on. -/
def slotLTS : LTS SlotWorld ProcessEvent where
  init w := w = ⟨OutboundState.init, []⟩
  step := ProcessStep

/-- The permits held, task by task. -/
def SlotWorld.held (w : SlotWorld) : List (Option ℕ) := w.tasks.map Slot.held

/-- **Safety**: leaving has not raised and would not raise now, a task that left now would give its
permit to the semaphore it took it from, and no semaphore has more holders than its limit. -/
structure SlotsSafe (w : SlotWorld) : Prop where
  noneFailed : Slot.failed ∉ w.tasks
  givesBack : ∀ s, Slot.inBody (some s) ∈ w.tasks →
    leaveSlot w.out (some s) = .ok { w.out with sems := Sem.release w.out.sems s }
  admits : ∀ s sem, w.out.sems[s]? = some sem → w.held.count (some s) ≤ sem.limit

/-- The steps that do not pull `_sem` away: it is assigned only while no task holds a permit, and a
waiting task is admitted only while `_sem` is the semaphore it waits for. -/
def Quiet (w : SlotWorld) : ProcessEvent → Prop
  | .set _ => ∀ s, Slot.inBody (some s) ∉ w.tasks
  | .clear => ∀ s, Slot.inBody (some s) ∉ w.tasks
  | .task i .grant => ∀ s, w.tasks[i]? = some (.waiting s) → w.out.sem = some s
  | _ => True

/-! ### The invariant -/

/-- Permits balance, nothing has failed, and who holds a permit holds one of `_sem`. -/
structure Inv (w : SlotWorld) : Prop where
  balanced : Sem.Balanced w.out.sems w.held
  noneFailed : Slot.failed ∉ w.tasks
  current : ∀ s, Slot.inBody (some s) ∈ w.tasks → w.out.sem = some s

theorem inv_init : Inv ⟨OutboundState.init, []⟩ := ⟨Sem.Balanced.nil, by simp, by simp⟩

theorem leaveSlot_some {o : OutboundState} {s : ℕ} (h : o.sem = some s) :
    leaveSlot o (some s) = .ok { o with sems := Sem.release o.sems s } := by
  unfold leaveSlot; rw [h]

theorem Inv.safe {w : SlotWorld} (h : Inv w) : SlotsSafe w where
  noneFailed := h.noneFailed
  givesBack s hs := leaveSlot_some (h.current s hs)
  admits _ _ hs := h.balanced.count_le hs

theorem grant_eq_some {o o' : OutboundState} {s : ℕ} (h : grant o s = some o') :
    ∃ sems, Sem.acquire o.sems s = some sems ∧ o' = { o with sems := sems } := by
  obtain ⟨sems, hs, rfl⟩ := Option.map_eq_some_iff.mp h
  exact ⟨sems, hs, rfl⟩

theorem held_enterSlot (o : OutboundState) : (enterSlot o).held = none := by
  unfold enterSlot; split <;> rfl

section Set
variable {w : SlotWorld} {i : ℕ} {x y : Slot}

theorem held_set (w : SlotWorld) (i : ℕ) (y : Slot) :
    (w.tasks.set i y).map Slot.held = w.held.set i y.held := List.map_set

theorem getElem?_held (h : w.tasks[i]? = some x) : w.held[i]? = some x.held := by
  simp [SlotWorld.held, h]

/-- Moving a task between places with the same permit changes no permit. -/
theorem held_set_eq (h : w.tasks[i]? = some x) (hxy : y.held = x.held) :
    (w.tasks.set i y).map Slot.held = w.held := by
  rw [held_set, hxy]
  obtain ⟨hi, he⟩ := List.getElem?_eq_some_iff.mp (getElem?_held h)
  rw [← he, List.set_getElem_self]

/-- Moving a task keeps the invariant when the permits balance and the new place is allowed. -/
theorem Inv.move {out : OutboundState} (h : Inv w) (hsem : out.sem = w.out.sem)
    (hb : Sem.Balanced out.sems ((w.tasks.set i y).map Slot.held)) (hf : y ≠ .failed)
    (hc : ∀ s, y = .inBody (some s) → w.out.sem = some s) : Inv ⟨out, w.tasks.set i y⟩ where
  balanced := hb
  noneFailed hm := (List.mem_or_eq_of_mem_set hm).elim h.noneFailed fun he => hf he.symm
  current s hm := by
    rw [hsem]
    rcases List.mem_or_eq_of_mem_set hm with hm | he
    · exact h.current s hm
    · exact hc s he.symm

/-- Assigning `_sem` while no task holds a permit. -/
theorem Inv.assign {out : OutboundState} (h : Inv w) (hq : ∀ s, Slot.inBody (some s) ∉ w.tasks)
    (hb : Sem.Balanced out.sems w.held) : Inv { w with out := out } :=
  ⟨hb, h.noneFailed, fun s hm => absurd hm (hq s)⟩

theorem balanced_setLimit (h : Inv w) (n : ℤ) :
    Sem.Balanced (setOutboundConcurrencyLimit n w.out).sems w.held := by
  unfold setOutboundConcurrencyLimit
  split_ifs
  · exact h.balanced.create _
  · exact h.balanced

/-- **A quiet step of a task keeps the invariant.** -/
theorem Inv.task {e : SlotEvent} {out : OutboundState} (h : Inv w) (hi : w.tasks[i]? = some x)
    (hs : SlotStep w.out x e out y) (hq : Quiet w (.task i e)) : Inv ⟨out, w.tasks.set i y⟩ := by
  cases hs with
  | enter =>
    refine h.move rfl ?_ ?_ fun s he => ?_
    · rw [held_set_eq hi (held_enterSlot _)]
      exact h.balanced
    · unfold enterSlot; split <;> simp
    · unfold enterSlot at he; split at he <;> simp at he
  | grant ha =>
    obtain ⟨sems, hsems, rfl⟩ := grant_eq_some ha
    refine h.move rfl ?_ (by simp) fun s he => ?_
    · rw [held_set]
      exact h.balanced.acquire (getElem?_held hi) hsems
    · cases he
      exact hq _ hi
  | cancel =>
    refine h.move rfl ?_ (by simp) fun s he => by simp at he
    rw [held_set_eq (y := .outside) hi rfl]
    exact h.balanced
  | @leave _ permit hl =>
    cases permit with
    | none =>
      cases hl
      refine h.move rfl ?_ (by simp) fun s he => by simp at he
      rw [held_set_eq (y := .outside) hi rfl]
      exact h.balanced
    | some s =>
      rw [leaveSlot_some (h.current s (List.mem_of_getElem? hi))] at hl
      cases hl
      refine h.move rfl ?_ (by simp) fun s he => by simp at he
      rw [held_set]
      exact h.balanced.release (getElem?_held hi)
  | @leaveRaises permit e hl =>
    cases permit with
    | none => cases hl
    | some s =>
      rw [leaveSlot_some (h.current s (List.mem_of_getElem? hi))] at hl
      cases hl

/-- **A quiet step keeps the invariant.** -/
theorem Inv.step {w' : SlotWorld} {e : ProcessEvent} (h : Inv w) (hs : ProcessStep w e w')
    (hq : Quiet w e) : Inv w' := by
  cases hs with
  | spawn =>
    refine ⟨?_, by simpa using h.noneFailed, fun s hm => h.current s (by simpa using hm)⟩
    simpa [SlotWorld.held, Slot.held] using h.balanced.spawn
  | task hi hs => exact h.task hi hs hq
  | set n => exact h.assign hq (balanced_setLimit h n)
  | clear => exact h.assign hq h.balanced

end Set

/-! ### The exact condition -/

/-- Giving back is right only while `_sem` is the semaphore held. -/
theorem sem_of_givesBack {o : OutboundState} {s : ℕ} (hs : s < o.sems.length)
    (h : leaveSlot o (some s) = .ok { o with sems := Sem.release o.sems s }) :
    o.sem = some s := by
  rcases hsem : o.sem with _ | s'
  · simp [leaveSlot, hsem] at h
  · simp only [leaveSlot, hsem, Except.ok.injEq, OutboundState.mk.injEq, and_true] at h
    rw [Sem.release_inj hs h]

/-- A step that pulls `_sem` away from a holder is seen in the state after it. -/
theorem assign_not_safe {w : SlotWorld} {out : OutboundState} (h : Inv w)
    (hsub : w.out.sems.length ≤ out.sems.length) (hout : ∀ s < w.out.sems.length, out.sem ≠ some s)
    (hsafe : SlotsSafe { w with out := out }) (s : ℕ) : Slot.inBody (some s) ∉ w.tasks := by
  intro hm
  have hlt := h.balanced.scope s (List.mem_map.mpr ⟨_, hm, rfl⟩)
  exact hout s hlt (sem_of_givesBack (lt_of_lt_of_le hlt hsub) (hsafe.givesBack s hm))

theorem quiet_of_safe {w w' : SlotWorld} {e : ProcessEvent} (h : Inv w) (hs : ProcessStep w e w')
    (hsafe : SlotsSafe w') : Quiet w e := by
  cases hs with
  | spawn => trivial
  | @task i x y e out hi hs =>
    cases hs with
    | @grant _ s ha =>
      obtain ⟨sems, hsems, rfl⟩ := grant_eq_some ha
      obtain ⟨sem, hsem, -, -⟩ := Sem.acquire_eq_some.mp hsems
      obtain ⟨hlt, -⟩ := List.getElem?_eq_some_iff.mp hsem
      obtain ⟨hit, -⟩ := List.getElem?_eq_some_iff.mp hi
      intro s' hs'
      rw [hi, Option.some.injEq, Slot.waiting.injEq] at hs'
      subst hs'
      refine sem_of_givesBack (o := { w.out with sems := sems }) ?_
        (hsafe.givesBack s (List.mem_of_getElem? (List.getElem?_set_self hit)))
      simpa [Sem.length_acquire hsems] using hlt
    | _ => trivial
  | set n =>
    unfold setOutboundConcurrencyLimit at hsafe
    split_ifs at hsafe
    · refine assign_not_safe h (by simp) (fun s hs he => ?_) hsafe
      simp only [Option.some.injEq] at he
      omega
    · exact @assign_not_safe w { w.out with sem := none } h le_rfl (by simp) hsafe
  | clear =>
    exact @assign_not_safe w (clearOutboundConcurrencyLimit w.out) h le_rfl
      (by simp [clearOutboundConcurrencyLimit]) hsafe

/-- **A run of the process is safe throughout exactly when all its steps are quiet.** -/
theorem slotsSafe_iff_quiet {l : List (SlotWorld × ProcessEvent × SlotWorld)} {w : SlotWorld}
    (h : slotLTS.Path ⟨OutboundState.init, []⟩ l w) :
    (∀ tr ∈ l, SlotsSafe tr.2.2) ↔ ∀ tr ∈ l, Quiet tr.1 tr.2.1 :=
  h.forall_safe_iff (I := Inv) (fun _ h => h.safe) (fun _ _ _ h hs hq => h.step hs hq)
    (fun _ _ _ h hs hsafe => quiet_of_safe h hs hsafe) inv_init

/-- One task takes and gives back the only permit. -/
theorem slotsSafe_iff_quiet_one : ∃ l w, slotLTS.Path ⟨OutboundState.init, []⟩ l w ∧ l.length = 5 ∧
    ∀ tr ∈ l, SlotsSafe tr.2.2 := by
  have h := (((((LTS.Path.nil (T := slotLTS) ⟨OutboundState.init, []⟩).snoc (.set _ 1)).snoc
    (.spawn _)).snoc (.task (i := 0) rfl (.enter _))).snoc (.task (i := 0) rfl (.grant rfl))).snoc
    (.task (i := 0) rfl (.leave rfl))
  refine ⟨_, _, h, rfl, (slotsSafe_iff_quiet h).mpr ?_⟩
  simp only [List.nil_append, List.cons_append, List.forall_mem_cons, Quiet]
  refine ⟨by simp, trivial, trivial, fun s hs => ?_, trivial, by simp⟩
  cases hs
  rfl

/-- **`clear_outbound_concurrency_limit` while a task is in the body makes leaving raise.** -/
theorem clear_in_body_raises : ¬ ∀ w, slotLTS.Reachable w → SlotsSafe w := by
  intro hall
  have h0 : slotLTS.Reachable ⟨OutboundState.init, []⟩ := .init rfl
  have h := ((((h0.step (.set _ 1)).step (.spawn _)).step (.task (i := 0) rfl (.enter _))).step
    (.task (i := 0) rfl (.grant rfl))).step (.clear _)
  have hleft := h.step (.task (i := 0) (y := .failed) rfl (@SlotStep.leaveRaises _ (some 0) _ rfl))
  exact (hall _ hleft).noneFailed (by decide)

/-! ### A fixed limit -/

/-- Events that leave `_sem` alone. -/
def Steady : ProcessEvent → Prop
  | .set _ => False
  | .clear => False
  | _ => True

/-- The process after `set_outbound_concurrency_limit(n)`, as long as `_sem` is left alone. -/
def limitedLTS (n : ℕ) : LTS SlotWorld ProcessEvent where
  init w := w = ⟨setOutboundConcurrencyLimit n OutboundState.init, []⟩
  step w e w' := Steady e ∧ ProcessStep w e w'

/-- The permits of `_sem` that are free. -/
def permitsFree (o : OutboundState) : ℕ :=
  match o.sem with
  | some s => o.sems[s]?.elim 0 Sem.value
  | none => 0

/-- There is one semaphore, of limit `n`; all tasks wait for it and run under it. -/
structure Limited (n : ℕ) (w : SlotWorld) : Prop extends Inv w where
  sem : w.out.sem = some 0
  limits : w.out.sems.map Sem.limit = [n]
  waits : ∀ s, Slot.waiting s ∈ w.tasks → s = 0
  bounded : Slot.inBody none ∉ w.tasks

section Limited
variable {n : ℕ} {w : SlotWorld}

theorem limited_init (hn : 0 < n) :
    Limited n ⟨setOutboundConcurrencyLimit n OutboundState.init, []⟩ := by
  have hs : setOutboundConcurrencyLimit n OutboundState.init = ⟨[⟨n, n⟩], some 0⟩ := by
    simp [setOutboundConcurrencyLimit, OutboundState.init, hn]
  have hi : Inv ⟨setOutboundConcurrencyLimit n OutboundState.init, []⟩ :=
    inv_init.step (.set _ n) fun _ => by simp
  exact ⟨hi, by rw [hs], by rw [hs]; rfl, by simp, by simp⟩

theorem Limited.quiet (h : Limited n w) {e : ProcessEvent} (he : Steady e) : Quiet w e := by
  cases e with
  | set => exact he.elim
  | clear => exact he.elim
  | spawn => trivial
  | task i se =>
    cases se with
    | grant =>
      intro s hs
      rw [h.waits s (List.mem_of_getElem? hs)]
      exact h.sem
    | _ => trivial

/-- **A step that leaves `_sem` alone keeps the limit.** -/
theorem Limited.step {w' : SlotWorld} {e : ProcessEvent} (h : Limited n w) (he : Steady e)
    (hs : ProcessStep w e w') : Limited n w' := by
  have hi : Inv w' := h.toInv.step hs (h.quiet he)
  cases hs with
  | spawn => exact ⟨hi, h.sem, h.limits, fun s hm => h.waits s (by simpa using hm), by simpa using h.bounded⟩
  | set => exact he.elim
  | clear => exact he.elim
  | @task i x y se out hx hs =>
    -- where the task may be after its step
    suffices hy : out.sem = w.out.sem ∧ out.sems.map Sem.limit = w.out.sems.map Sem.limit ∧
        (∀ s, y = .waiting s → s = 0) ∧ y ≠ .inBody none by
      obtain ⟨hsem, hlim, hwait, hbody⟩ := hy
      refine ⟨hi, hsem.trans h.sem, hlim.trans h.limits, fun s hm => ?_, fun hm => ?_⟩
      · exact (List.mem_or_eq_of_mem_set hm).elim (h.waits s) fun he => hwait s he.symm
      · exact (List.mem_or_eq_of_mem_set hm).elim h.bounded fun he => hbody he.symm
    cases hs with
    | enter => simp [enterSlot, h.sem]
    | grant ha =>
      obtain ⟨sems, hsems, rfl⟩ := grant_eq_some ha
      simp [Sem.map_limit_acquire hsems]
    | cancel => simp
    | @leave _ permit hl =>
      cases permit with
      | none => exact absurd (List.mem_of_getElem? hx) h.bounded
      | some s =>
        rw [leaveSlot_some (h.current s (List.mem_of_getElem? hx))] at hl
        cases hl
        simp [Sem.map_limit_release]
    | leaveRaises => simp

theorem limited_of_reachable (hn : 0 < n) (h : (limitedLTS n).Reachable w) : Limited n w :=
  h.invariant (fun _ h => h ▸ limited_init hn) fun _ _ _ h hs => h.step hs.1 hs.2

/-- **Free and held permits are `n` in all.** -/
theorem Limited.permits (h : Limited n w) : w.held.countP Option.isSome + permitsFree w.out = n := by
  obtain ⟨sem, hsems, hlim⟩ : ∃ sem, w.out.sems = [sem] ∧ sem.limit = n := by
    simpa [List.map_eq_singleton_iff] using h.limits
  have hsum := h.balanced.sum 0 sem (by rw [hsems]; rfl)
  have hcount : w.held.countP Option.isSome = w.held.count (some 0) := by
    refine List.countP_congr fun x hx => ?_
    obtain ⟨slot, hslot, rfl⟩ := List.mem_map.mp hx
    cases hp : slot.held with
    | none => simp
    | some s =>
      have hs : slot = .inBody (some s) := by
        cases slot with
        | inBody => exact congrArg Slot.inBody hp
        | _ => cases hp
      subst hs
      have := (h.current s hslot).symm.trans h.sem
      simp_all
  have hfree : permitsFree w.out = sem.value := by simp [permitsFree, h.sem, hsems]
  omega

end Limited

end LookupAggregator.Outbound
