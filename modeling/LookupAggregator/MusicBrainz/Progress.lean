import LookupAggregator.MusicBrainz.Throttle
import LookupAggregator.ResilientHttp.Progress

/-! # Every lookup gets through

What `_respect_rate_limit` lets through, and that it lets everything through in the end. A lookup passes
once for each of its requests, so three times at most for an ISRC and twice for a UPC, and each pass is good
for the attempts of one call of `resilient_get` (`requests_bounded`); in a window of `d` seconds there are
at most `d / 1.05 + 1` passes (`passes_in_window`).

The lock is held by a lookup that sleeps, so that it is free again once time has passed: no lookup waits for
ever, neither for the lock nor for an outbound slot, and from every reachable state all of them can come to
their end (`lookups_complete`). -/

namespace LookupAggregator.MusicBrainz

open LookupAggregator.Lib.Transition Outbound ResilientHttp

/-! ### The passes of the lookups -/

/-- The requests from `r` on, at most. -/
def Request.left : Kind → Request → ℕ
  | .isrc, .search => 3
  | .isrc, .detail => 2
  | .upc, .search => 2
  | _, _ => 1

/-- The passes a lookup has still before it, at most. -/
def Lookup.passesLeft (x : Lookup) : ℕ :=
  match x.stage with
  | .throttled r | .asleep r _ => r.left x.kind
  | .requesting r _ => r.left x.kind - 1
  | .done => 0

/-- The passes of a lookup, at most. -/
def Lookup.passesAllowed (x : Lookup) : ℕ := Request.search.left x.kind

theorem Request.left_pos (kind : Kind) (r : Request) : 0 < r.left kind := by
  cases kind <;> cases r <;> decide

/-- A request follows another. -/
theorem Request.left_next {kind : Kind} {r r' : Request} (h : r.next kind = some r') :
    r'.left kind + 1 ≤ r.left kind := by
  cases kind <;> cases r <;> cases h <;> decide

/-- The lookups of a kind. -/
def lookupsOf (kind : Kind) (w : MbWorld) : ℕ := w.lookups.countP fun x => x.kind = kind

theorem sum_passesAllowed (w : MbWorld) :
    (w.lookups.map Lookup.passesAllowed).sum = 3 * lookupsOf .isrc w + 2 * lookupsOf .upc w := by
  unfold lookupsOf
  induction w.lookups with
  | nil => rfl
  | cons x l ih =>
    obtain ⟨kind, stage⟩ := x
    rw [List.map_cons, List.sum_cons, ih, List.countP_cons, List.countP_cons]
    cases kind <;> simp [Lookup.passesAllowed, Request.left] <;> omega

/-- The passes so far and those to come are no more than are allowed; each is for a call of its own. -/
structure Paid (w : MbWorld) : Prop where
  passes : w.passes.length + (w.lookups.map Lookup.passesLeft).sum ≤ (w.lookups.map Lookup.passesAllowed).sum
  scope : ∀ p ∈ w.passes, p.call < w.http.calls.length

section Bound
variable {st : HttpSettings} {o : OutboundState} {w w' : MbWorld} {e : MbEvent} {j : ℕ} {kind : Kind}

/-- No call disappears. -/
theorem httpStep_length {w w' : HttpWorld} {e : HttpEvent} (h : httpStep st w e = some w') :
    w.calls.length ≤ w'.calls.length := by
  cases e with
  | get i e =>
    obtain ⟨p, o', p', hp, -, rfl⟩ := httpStep_get h
    exact (List.length_set ..).ge
  | tick t =>
    obtain ⟨-, rfl⟩ := httpStep_tick h
    exact le_rfl
  | call => cases h; simp
  | _ => cases h; exact le_rfl

/-- A lookup moves on, with `k` passes for it. -/
theorem Paid.set (h : Paid w) {stage stage' : Stage} (hj : w.lookups[j]? = some ⟨kind, stage⟩)
    {passes : List Pass} {k : ℕ} (hlen : passes.length = w.passes.length + k)
    (hleft : Lookup.passesLeft ⟨kind, stage'⟩ + k ≤ Lookup.passesLeft ⟨kind, stage⟩) :
    passes.length + ((w.lookups.set j ⟨kind, stage'⟩).map Lookup.passesLeft).sum ≤
      ((w.lookups.set j ⟨kind, stage'⟩).map Lookup.passesAllowed).sum := by
  have hsum := Lib.sum_map_set Lookup.passesLeft hj ⟨kind, stage'⟩
  have hsum' := Lib.sum_map_set Lookup.passesAllowed hj ⟨kind, stage'⟩
  have hsame : Lookup.passesAllowed ⟨kind, stage'⟩ = Lookup.passesAllowed ⟨kind, stage⟩ := rfl
  have hpaid := h.passes
  omega

/-- A lookup passes. -/
theorem Paid.pass (h : Paid w) {stage : Stage} {r : Request} (hj : w.lookups[j]? = some ⟨kind, stage⟩)
    (hleft : Lookup.passesLeft ⟨kind, stage⟩ = r.left kind) : Paid (w.pass j kind r) where
  passes := by
    refine h.set hj (k := 1) (by simp [MbWorld.pass]) ?_
    have hpos := Request.left_pos kind r
    change r.left kind - 1 + 1 ≤ _
    omega
  scope p hp := by
    rw [MbWorld.pass, List.length_append]
    rcases List.mem_append.mp hp with hp | hp
    · exact Nat.lt_succ_of_lt (h.scope p hp)
    · rw [List.mem_singleton.mp hp]
      exact Nat.lt_succ_self _

/-- A lookup moves on without a pass. -/
theorem Paid.move (h : Paid w) {stage stage' : Stage} (hj : w.lookups[j]? = some ⟨kind, stage⟩)
    (hleft : Lookup.passesLeft ⟨kind, stage'⟩ ≤ Lookup.passesLeft ⟨kind, stage⟩) (lock : Option ℕ) :
    Paid { w with lock := lock, lookups := w.lookups.set j ⟨kind, stage'⟩ } :=
  ⟨h.set hj (k := 0) rfl hleft, h.scope⟩

/-- **Every step keeps the passes within what is allowed.** -/
theorem Paid.step (h : Paid w) (hs : MbStep st w e w') : Paid w' := by
  cases hs with
  | @http e http hh =>
    exact ⟨h.passes, fun p hp => (h.scope p hp).trans_le (httpStep_length hh)⟩
  | start kind =>
    refine ⟨?_, h.scope⟩
    have hpaid := h.passes
    have hnew : (⟨kind, .throttled .search⟩ : Lookup).passesLeft =
      (⟨kind, .throttled .search⟩ : Lookup).passesAllowed := rfl
    simp only [List.map_append, List.sum_append, List.map_cons, List.map_nil, List.sum_cons, List.sum_nil,
      hnew]
    omega
  | pass hj => exact h.pass hj rfl
  | sleep hj =>
    refine h.move hj ?_ _
    exact le_refl (Request.left _ _)
  | wake hj => exact h.pass hj rfl
  | next hj hc hs hr =>
    refine h.move hj ?_ _
    have := Request.left_next hr
    simp only [Lookup.passesLeft]
    omega
  | finish hj => exact h.move hj (Nat.zero_le _) _
  | cancelThrottled hj => exact h.move hj (Nat.zero_le _) _
  | cancelAsleep hj => exact h.move hj (Nat.zero_le _) _

theorem paid_of_reachable (h : (mbLTS st o).Reachable w) : Paid w := by
  refine h.invariant (fun w hw => ?_) fun _ _ _ hi hs => hi.step hs
  obtain ⟨-, -, -, hlookups, hpasses⟩ := hw
  exact ⟨by simp [hlookups, hpasses], by simp [hpasses]⟩

theorem inv_of_reachable (h : (mbLTS st o).Reachable w) : Inv w := by
  refine h.invariant (fun w hw => ?_) fun _ _ _ hi hs => hi.step hs
  obtain ⟨⟨-, hcalls, hgets⟩, -, -, hlookups, hpasses⟩ := hw
  refine ⟨?_, ?_, ?_, ?_, ?_⟩ <;> simp [*]

/-- The calls of the provider are calls of the process. -/
theorem http_reachable (h : (mbLTS st o).Reachable w) : (httpLTS st o).Reachable w.http := by
  refine h.simulate MbWorld.http ?_ fun w e w' _ hs => ?_
  · rintro w ⟨hhttp, -⟩
    exact hhttp
  · cases hs with
    | http hh => exact .inr ⟨_, hh⟩
    | pass => exact .inr ⟨.call, rfl⟩
    | wake => exact .inr ⟨.call, rfl⟩
    | _ => exact .inl rfl

end Bound

/-! ### The GETs of the passes -/

/-- The GETs of the provider are those of its calls, which have no more than they have attempts. -/
theorem length_providerGets_le {st : HttpSettings} {w : MbWorld} (h : AllInOrder st w.http) :
    (providerGets w).length ≤ st.attempts.toNat * w.passes.length := by
  have hcall (i : ℕ) : (getsOf w.http i).length ≤ st.attempts.toNat := by
    cases hp : w.http.calls[i]? with
    | some p => exact (h.inOrder i p hp).allowed
    | none =>
      have hnil : getsOf w.http i = [] := List.filter_eq_nil_iff.mpr fun g hg => by
        have hlt := h.scope g hg
        have hlen := List.getElem?_eq_none_iff.mp hp
        simp only [beq_iff_eq]
        omega
      simp [hnil]
  have hgets : (providerGets w).length ≤
      w.http.gets.countP fun g => w.passes.any fun p => g.call == p.call := by
    rw [providerGets, List.length_filterMap_eq_countP]
    refine List.countP_mono_left fun g _ hg => ?_
    rw [ofSentGet, Option.isSome_map, passOf, Option.isSome_map, List.find?_isSome] at hg
    obtain ⟨p, hp, hcall⟩ := hg
    exact List.any_eq_true.mpr ⟨p, hp, by simpa using (of_decide_eq_true hcall).symm⟩
  refine hgets.trans (Lib.countP_any_le fun p _ => ?_)
  rw [List.countP_eq_length_filter]
  exact hcall p.call

/-- **The requests of the lookups are bounded.** In every reachable state the provider has let through no more
requests in all than three for each ISRC lookup and two for each UPC lookup, and its calls have sent no more
GETs in all than `attempts` for each of those. -/
theorem requests_bounded (st : HttpSettings) (o : OutboundState) {w : MbWorld} (h : (mbLTS st o).Reachable w) :
    w.passes.length ≤ 3 * lookupsOf .isrc w + 2 * lookupsOf .upc w ∧
      ((providerGets w).length : ℤ) ≤ st.attempts * w.passes.length := by
  have hpaid := (paid_of_reachable h).passes
  rw [sum_passesAllowed] at hpaid
  refine ⟨by omega, ?_⟩
  have hle := length_providerGets_le (allInOrder_of_reachable (http_reachable h))
  have hpos := attempts_pos st
  calc ((providerGets w).length : ℤ) ≤ (st.attempts.toNat : ℤ) * w.passes.length := by exact_mod_cast hle
    _ = st.attempts * w.passes.length := by rw [Int.toNat_of_nonneg hpos.le]

/-- **The passes in a window.** Passes are 1.05 s apart, so between `a` and `b` there are `(b - a) / 1.05 +
1` at most, in every reachable state. -/
theorem passes_in_window (st : HttpSettings) (o : OutboundState) {w : MbWorld} (h : (mbLTS st o).Reachable w)
    {a b : Time} (hab : a ≤ b) :
    ((w.passes.countP fun p => a ≤ p.time ∧ p.time ≤ b : ℕ) : Time) ≤ (b - a) / 1.05 + 1 := by
  have hroom := Lib.length_mul_le_of_pairwise (f := Pass.time) (d := 1.05) (by norm_num) hab
    ((inv_of_reachable h).apart.filter fun p => a ≤ p.time ∧ p.time ≤ b)
    fun p hp => of_decide_eq_true (List.mem_filter.mp hp).2
  rw [List.countP_eq_length_filter, div_add_one (by norm_num), le_div_iff₀ (by norm_num)]
  exact hroom

/-- Two lookups at 2 s, the second of which sleeps until 3.05 s. -/
theorem twoLookups_reachable :
    (mbLTS ⟨2, 0.15, 100⟩ (setOutboundConcurrencyLimit 1 OutboundState.init)).Reachable
    ⟨⟨3.05, ⟨[⟨1, 1⟩], some 0⟩, [.entering 0, .entering 0], []⟩, none, 3.05,
      [⟨.isrc, .requesting .search 0⟩, ⟨.upc, .requesting .search 1⟩], [⟨0, 2⟩, ⟨1, 3.05⟩]⟩ := by
  have h0 : (mbLTS ⟨2, 0.15, 100⟩ (setOutboundConcurrencyLimit 1 OutboundState.init)).Reachable
    ⟨⟨2, ⟨[⟨1, 1⟩], some 0⟩, [], []⟩, none, 0, [], []⟩ := .init ⟨⟨rfl, rfl, rfl⟩, rfl, rfl, rfl, rfl⟩
  have h1 := (h0.step (a := MbEvent.start .isrc) (.start _ _)).step (a := MbEvent.start .upc) (.start _ _)
  have h2 := h1.step (a := MbEvent.lock 0) (.pass rfl rfl (by norm_num [throttleWait]))
  have h3 := h2.step (a := MbEvent.lock 1) (.sleep rfl rfl (by norm_num [throttleWait, MbWorld.pass]))
  have h4 := h3.step (a := MbEvent.http (.tick 3.05))
    (.http (httpStep_tick_of_le (by norm_num [MbWorld.pass])))
  exact h4.step (a := MbEvent.wake 1) (.wake rfl (by norm_num [throttleWait, MbWorld.pass]))

/-- Two lookups, two passes. -/
theorem requests_bounded_two : ∃ w, w.passes.length = 2 ∧
    w.passes.length ≤ 3 * lookupsOf .isrc w + 2 * lookupsOf .upc w ∧
    ((providerGets w).length : ℤ) ≤ 3 * w.passes.length :=
  ⟨_, rfl, requests_bounded _ _ twoLookups_reachable⟩

/-- Two passes in a window of 1.05 s. -/
theorem passes_in_window_two : ∃ w : MbWorld, w.passes.length = 2 ∧
    ((w.passes.countP fun p => 2 ≤ p.time ∧ p.time ≤ 3.05 : ℕ) : Time) ≤ (3.05 - 2) / 1.05 + 1 :=
  ⟨_, rfl, passes_in_window _ _ twoLookups_reachable (by norm_num)⟩

/-! ### No lookup is stuck -/

/-- The lock is held by a lookup that sleeps, and a lookup waits for a call that was made. -/
structure Held (w : MbWorld) : Prop where
  lock : ∀ j, w.lock = some j →
    ∃ (kind : Kind) (r : Request) (wake : Time), w.lookups[j]? = some ⟨kind, .asleep r wake⟩
  calls : ∀ (j : ℕ) (kind : Kind) (r : Request) (call : ℕ),
    w.lookups[j]? = some ⟨kind, .requesting r call⟩ → call < w.http.calls.length

/-- Events that leave the outbound limit alone. -/
def SteadyMb : MbEvent → Prop
  | .http e => SteadyHttp e
  | _ => True

/-- A new provider under a fixed outbound limit. -/
def limitedMbLTS (st : HttpSettings) (n : ℕ) : LTS MbWorld MbEvent :=
  (mbLTS st (setOutboundConcurrencyLimit n OutboundState.init)).restrict fun _ e => SteadyMb e

/-- A lookup that has its answer goes on with another request. -/
def GoesOn (goesOn : ℕ → Request → Bool) (w : MbWorld) (j : ℕ) : Prop :=
  ∃ kind r call response r', w.lookups[j]? = some ⟨kind, .requesting r call⟩ ∧
    w.http.calls[call]? = some (.returned response) ∧ isSuccess response ∧ r.next kind = some r' ∧ goesOn j r

/-- A step that no cancellation makes. The upstream answers as `answers` says; its answers have what a
lookup needs to go on as `goesOn` says; no further call is made and no further lookup started. -/
def Undisturbed (answers : ℕ → ℕ → Except GetError ResilientHttp.Response) (goesOn : ℕ → Request → Bool)
    (w : MbWorld) : MbEvent → Prop
  | .http e => Uninterrupted answers w.http e
  | .start _ => False
  | .cancel _ => False
  | .next j => GoesOn goesOn w j
  | .finish j => ¬ GoesOn goesOn w j
  | _ => True

/-- The provider when nothing is cancelled. -/
def undisturbedLTS (st : HttpSettings) (n : ℕ) (answers : ℕ → ℕ → Except GetError ResilientHttp.Response)
    (goesOn : ℕ → Request → Bool) : LTS MbWorld MbEvent :=
  (limitedMbLTS st n).restrict (Undisturbed answers goesOn)

section Holding
variable {st : HttpSettings} {o : OutboundState} {w w' : MbWorld} {e : MbEvent} {j : ℕ} {kind : Kind}

/-- A lookup that moves on still waits for a call that was made. -/
theorem Held.calls_set (h : Held w) {y : Lookup} {length : ℕ} (hlen : w.http.calls.length ≤ length)
    (hy : ∀ r call, y.stage = .requesting r call → call < length) (i : ℕ) (kind : Kind) (r : Request)
    (call : ℕ) (hi : (w.lookups.set j y)[i]? = some ⟨kind, .requesting r call⟩) : call < length := by
  rw [List.getElem?_set] at hi
  split_ifs at hi with hij hlt
  · rw [Option.some.injEq] at hi
    exact hy r call (by rw [hi])
  · exact (h.calls i kind r call hi).trans_le hlen

/-- A lookup that does not sleep moves on without the lock. -/
theorem Held.move (h : Held w) {stage stage' : Stage} (hj : w.lookups[j]? = some ⟨kind, stage⟩)
    (hawake : ∀ r wake, stage ≠ .asleep r wake)
    (hcalls : ∀ r call, stage' = .requesting r call → call < w.http.calls.length) :
    Held { w with lookups := w.lookups.set j ⟨kind, stage'⟩ } where
  lock i hi := by
    obtain ⟨kind', r, wake, hlookup⟩ := h.lock i hi
    have hij : j ≠ i := by
      rintro rfl
      rw [hj, Option.some.injEq, Lookup.mk.injEq] at hlookup
      exact hawake r wake hlookup.2
    exact ⟨kind', r, wake, by rw [List.getElem?_set_ne hij, hlookup]⟩
  calls := h.calls_set le_rfl hcalls

/-- A lookup passes, and leaves the lock free. -/
theorem Held.pass (h : Held w) (j : ℕ) (kind : Kind) (r : Request) : Held (w.pass j kind r) where
  lock i hi := by cases hi
  calls := by
    refine h.calls_set (by simp [MbWorld.pass]) fun r' call hcall => ?_
    cases hcall
    simp [MbWorld.pass]

/-- **Every step keeps the lock with a lookup that sleeps.** -/
theorem Held.step (h : Held w) (hs : MbStep st w e w') : Held w' := by
  cases hs with
  | @http e http hh =>
    refine ⟨h.lock, fun i kind r call hi => (h.calls i kind r call hi).trans_le ?_⟩
    exact httpStep_length hh
  | start kind =>
    refine ⟨fun i hi => ?_, fun i kind' r call hi => ?_⟩
    · obtain ⟨kind', r, wake, hlookup⟩ := h.lock i hi
      have hlt := (List.getElem?_eq_some_iff.mp hlookup).1
      exact ⟨kind', r, wake, by rw [List.getElem?_append_left hlt, hlookup]⟩
    · rw [List.getElem?_append] at hi
      split_ifs at hi
      · exact h.calls i kind' r call hi
      · have := List.mem_of_getElem? hi
        simp at this
  | @pass j kind r => exact h.pass j kind r
  | @sleep j kind r hj =>
    refine ⟨fun i hi => ?_, h.calls_set le_rfl fun r call hcall => by cases hcall⟩
    cases hi
    exact ⟨kind, r, _, List.getElem?_set_self (List.getElem?_eq_some_iff.mp hj).1⟩
  | @wake j kind r => exact h.pass j kind r
  | next hj => exact h.move hj (by simp) (by simp)
  | finish hj => exact h.move hj (by simp) (by simp)
  | cancelThrottled hj => exact h.move hj (by simp) (by simp)
  | cancelAsleep hj =>
    refine ⟨fun i hi => ?_, h.calls_set le_rfl fun r call hcall => ?_⟩
    · cases hi
    · cases hcall

theorem held_of_reachable (h : (mbLTS st o).Reachable w) : Held w := by
  refine h.invariant (fun w hw => ?_) fun _ _ _ hi hs => hi.step hs
  obtain ⟨-, hlock, -, hlookups, -⟩ := hw
  exact ⟨by simp [hlock], by simp [hlookups]⟩

end Holding

/-- The work that a request makes: the steps of its call, the sleep before it, and to go on after it. -/
def requestWork (st : HttpSettings) : ℕ := 5 * st.attempts.toNat + 4

/-- The steps a lookup has left, those of the call it is in not counted. -/
def Lookup.workLeft (st : HttpSettings) (x : Lookup) : ℕ :=
  match x.stage with
  | .throttled r => r.left x.kind * requestWork st
  | .asleep r _ => r.left x.kind * requestWork st - 1
  | .requesting r _ => (r.left x.kind - 1) * requestWork st + 1
  | .done => 0

/-- The steps that all lookups and calls have left. -/
def MbWorld.workLeft (st : HttpSettings) (w : MbWorld) : ℕ :=
  (w.lookups.map (Lookup.workLeft st)).sum + ResilientHttp.workLeft st w.http

section Stuck
variable {st : HttpSettings} {n : ℕ} (answers : ℕ → ℕ → Except GetError ResilientHttp.Response)
  (goesOn : ℕ → Request → Bool) {w w' : MbWorld} {e : MbEvent} {j : ℕ} {kind : Kind}

/-- A lookup that moves on to a stage with less work. -/
theorem workLeft_set (w : MbWorld) {stage stage' : Stage} (hj : w.lookups[j]? = some ⟨kind, stage⟩)
    (hless : Lookup.workLeft st ⟨kind, stage'⟩ < Lookup.workLeft st ⟨kind, stage⟩) (lock : Option ℕ) :
    MbWorld.workLeft st { w with lock := lock, lookups := w.lookups.set j ⟨kind, stage'⟩ } <
      w.workLeft st := by
  have hset := Lib.sum_map_set (Lookup.workLeft st) hj ⟨kind, stage'⟩
  simp only [MbWorld.workLeft]
  omega

/-- A lookup that passes: the work of the new call is less than what the pass takes. -/
theorem workLeft_pass (w : MbWorld) {stage : Stage} {r : Request} (hj : w.lookups[j]? = some ⟨kind, stage⟩)
    (hwork : r.left kind * requestWork st ≤ Lookup.workLeft st ⟨kind, stage⟩ + 1) :
    (w.pass j kind r).workLeft st < w.workLeft st := by
  have hset := Lib.sum_map_set (Lookup.workLeft st) hj ⟨kind, .requesting r w.http.calls.length⟩
  have hcall : ResilientHttp.workLeft st (w.pass j kind r).http =
      ResilientHttp.workLeft st w.http + 5 * st.attempts.toNat := by
    simp [ResilientHttp.workLeft, MbWorld.pass, potential]
  obtain ⟨k, hk⟩ : ∃ k, r.left kind = k + 1 := Nat.exists_eq_succ_of_ne_zero (Request.left_pos kind r).ne'
  have hafter : Lookup.workLeft st ⟨kind, .requesting r w.http.calls.length⟩ = k * requestWork st + 1 := by
    simp [Lookup.workLeft, hk]
  rw [hk, Nat.succ_mul] at hwork
  have hrequest : requestWork st = 5 * st.attempts.toNat + 4 := rfl
  simp only [MbWorld.workLeft]
  rw [hcall]
  simp only [MbWorld.pass]
  omega

/-- A step of the provider, taken. -/
theorem exists_less_of_step (hs : MbStep st w e w') (hsteady : SteadyMb e)
    (hu : Undisturbed answers goesOn w e) (hlen : w'.lookups.length = w.lookups.length)
    (hless : w'.workLeft st < w.workLeft st) :
    ∃ l w', (undisturbedLTS st n answers goesOn).Path w l w' ∧ w'.lookups.length = w.lookups.length ∧
      w'.workLeft st < w.workLeft st :=
  ⟨_, _, .snoc (.nil w) ⟨hu, hsteady, hs⟩, hlen, hless⟩

/-- A lookup that sleeps wakes up, once time has passed. -/
theorem exists_less_of_asleep {r : Request} {wake : Time} (hj : w.lookups[j]? = some ⟨kind, .asleep r wake⟩) :
    ∃ l w', (undisturbedLTS st n answers goesOn).Path w l w' ∧ w'.lookups.length = w.lookups.length ∧
      w'.workLeft st < w.workLeft st := by
  let late : MbWorld := { w with http := { w.http with now := max w.http.now wake } }
  have htick : (undisturbedLTS st n answers goesOn).step w (.http (.tick (max w.http.now wake))) late :=
    ⟨trivial, trivial, .http (httpStep_tick_of_le (le_max_left w.http.now wake))⟩
  have hwake : (undisturbedLTS st n answers goesOn).step late (.wake j) (late.pass j kind r) :=
    ⟨trivial, trivial, .wake hj (le_max_right w.http.now wake)⟩
  refine ⟨_, _, ((LTS.Path.nil w).snoc htick).snoc hwake, by simp [MbWorld.pass, late], ?_⟩
  have hwork : r.left kind * requestWork st ≤ Lookup.workLeft st ⟨kind, .asleep r wake⟩ + 1 := by
    simp only [Lookup.workLeft]
    omega
  exact workLeft_pass late hj hwork

/-- A lookup whose call has ended goes on or ends. -/
theorem exists_less_of_ended {r : Request} {call : ℕ} {p : GetPhase}
    (hj : w.lookups[j]? = some ⟨kind, .requesting r call⟩) (hcall : w.http.calls[call]? = some p)
    (hp : p.ended) :
    ∃ l w', (undisturbedLTS st n answers goesOn).Path w l w' ∧ w'.lookups.length = w.lookups.length ∧
      w'.workLeft st < w.workLeft st := by
  by_cases hgoes : GoesOn goesOn w j
  · obtain ⟨kind', r', call', response, r'', hlookup, hresponse, hsuccess, hnext, -⟩ := id hgoes
    refine exists_less_of_step answers goesOn (.next hlookup hresponse hsuccess hnext) trivial hgoes (by simp)
      (workLeft_set w hlookup ?_ w.lock)
    have hleft := Nat.mul_le_mul_right (requestWork st) (Nat.le_sub_one_of_lt (Request.left_next hnext))
    simp only [Lookup.workLeft]
    omega
  · refine exists_less_of_step answers goesOn (.finish hj hcall hp) trivial hgoes (by simp)
      (workLeft_set w hj ?_ w.lock)
    exact Nat.succ_pos _

/-- While a call has not ended, some call gets on. -/
theorem exists_less_of_active (hn : 0 < n) (hl : Limited n w.http.slots) (hin : AllInRange st w.http)
    {p : GetPhase} (hmem : p ∈ w.http.calls) (hp : p.ended = false) :
    ∃ l w', (undisturbedLTS st n answers goesOn).Path w l w' ∧ w'.lookups.length = w.lookups.length ∧
      w'.workLeft st < w.workLeft st := by
  obtain ⟨l, http, hpath, -, hless⟩ := ResilientHttp.exists_less answers hn hl hin fun hall => by
    rw [hall p hmem] at hp
    cases hp
  -- the calls run while the lookups stay where they are
  have hstep (http : HttpWorld) (e : HttpEvent) (http' : HttpWorld)
      (hs : (answeredLTS st n answers).step http e http') :
      (undisturbedLTS st n answers goesOn).step { w with http := http } (.http e) { w with http := http' } :=
    ⟨hs.1, hs.2.1, .http hs.2.2⟩
  exact ⟨_, { w with http := http }, hpath.embed (fun http => { w with http := http }) MbEvent.http hstep, rfl,
    Nat.add_lt_add_left hless _⟩

/-- **While a lookup has not come to its end, something can be done for one.** -/
theorem exists_less_of_lookup (hn : 0 < n) (hl : Limited n w.http.slots) (hin : AllInRange st w.http)
    (hheld : Held w) (hdone : ¬ ∀ x ∈ w.lookups, x.stage = .done) :
    ∃ l w', (undisturbedLTS st n answers goesOn).Path w l w' ∧ w'.lookups.length = w.lookups.length ∧
      w'.workLeft st < w.workLeft st := by
  push Not at hdone
  obtain ⟨⟨kind, stage⟩, hmem, hstage⟩ := hdone
  obtain ⟨j, hj⟩ := List.getElem?_of_mem hmem
  cases stage with
  | throttled r =>
    cases hlock : w.lock with
    | some i =>
      -- the lock is held, so its holder sleeps
      obtain ⟨kind', r', wake, hi⟩ := hheld.lock i hlock
      exact exists_less_of_asleep answers goesOn hi
    | none =>
      by_cases hwait : throttleWait w.http.now w.lastRequestAt ≤ 0
      · exact exists_less_of_step answers goesOn (.pass hj hlock hwait) trivial trivial
          (by simp [MbWorld.pass]) (workLeft_pass w hj (Nat.le_succ _))
      · refine exists_less_of_step answers goesOn (.sleep hj hlock (not_le.mp hwait)) trivial trivial (by simp)
          (workLeft_set w hj ?_ (some j))
        have hpos : 0 < r.left kind * requestWork st := Nat.mul_pos (Request.left_pos kind r) (Nat.succ_pos _)
        simp only [Lookup.workLeft]
        omega
  | asleep r wake => exact exists_less_of_asleep answers goesOn hj
  | requesting r call =>
    obtain ⟨p, hp⟩ : ∃ p, w.http.calls[call]? = some p :=
      ⟨_, List.getElem?_eq_getElem (hheld.calls j kind r call hj)⟩
    cases hended : p.ended with
    | true => exact exists_less_of_ended answers goesOn hj hp hended
    | false => exact exists_less_of_active answers goesOn hn hl hin (List.mem_of_getElem? hp) hended
  | done => exact absurd rfl hstage

end Stuck

/-- The calls of the provider are calls under the fixed limit. -/
theorem limited_http_reachable {st : HttpSettings} {n : ℕ} {w : MbWorld}
    (h : (limitedMbLTS st n).Reachable w) : (limitedHttpLTS st n).Reachable w.http := by
  refine h.simulate MbWorld.http ?_ fun w e w' _ hs => ?_
  · rintro w ⟨hhttp, -⟩
    exact hhttp
  · obtain ⟨hsteady, hs⟩ := hs
    cases hs with
    | http hh => exact .inr ⟨_, hsteady, hh⟩
    | pass => exact .inr ⟨.call, trivial, rfl⟩
    | wake => exact .inr ⟨.call, trivial, rfl⟩
    | _ => exact .inl rfl

/-- **Every lookup can come to its end.** Under a fixed outbound limit, in every reachable state, the
lookups started so far can all end, without a cancellation, whatever the upstream answers and whichever of
its answers have what a lookup needs to go on; the lock is free then. -/
theorem lookups_complete (st : HttpSettings) {n : ℕ} (hn : 0 < n)
    (answers : ℕ → ℕ → Except GetError ResilientHttp.Response) (goesOn : ℕ → Request → Bool) {w : MbWorld}
    (h : (limitedMbLTS st n).Reachable w) :
    ∃ l w', (undisturbedLTS st n answers goesOn).Path w l w' ∧ w'.lookups.length = w.lookups.length ∧
      (∀ x ∈ w'.lookups, x.stage = .done) ∧ w'.lock = none := by
  have hless (w₁ : MbWorld) (hw₁ : (limitedMbLTS st n).Reachable w₁ ∧ w₁.lookups.length = w.lookups.length)
      (hdone : ¬ ∀ x ∈ w₁.lookups, x.stage = .done) :
      ∃ l w₂, (undisturbedLTS st n answers goesOn).Path w₁ l w₂ ∧
        ((limitedMbLTS st n).Reachable w₂ ∧ w₂.lookups.length = w.lookups.length) ∧
          w₂.workLeft st < w₁.workLeft st := by
    obtain ⟨hreach, hlen⟩ := hw₁
    have hhttp := limited_http_reachable hreach
    obtain ⟨l, w₂, hl, hlen', hless⟩ := exists_less_of_lookup answers goesOn hn (limited_slots hn hhttp)
      (allInRange_of_reachable hhttp.of_restrict) (held_of_reachable hreach.of_restrict) hdone
    exact ⟨l, w₂, hl, ⟨hl.of_restrict.reachable hreach, hlen'.trans hlen⟩, hless⟩
  obtain ⟨l, w', hl, ⟨hreach, hlen⟩, hdone⟩ :=
    LTS.exists_path_of_potential (MbWorld.workLeft st) hless ⟨h, rfl⟩
  refine ⟨l, w', hl, hlen, hdone, ?_⟩
  cases hlock : w'.lock with
  | none => rfl
  | some j =>
    obtain ⟨kind, r, wake, hj⟩ := (held_of_reachable hreach.of_restrict).lock j hlock
    cases hdone _ (List.mem_of_getElem? hj)

/-- One lookup sleeps with the lock while another waits for it. -/
theorem lookups_complete_two : ∃ w l w', w.lock = some 1 ∧ w.lookups = [⟨.isrc, .requesting .search 0⟩,
      ⟨.upc, .asleep .search 3.05⟩, ⟨.isrc, .throttled .search⟩] ∧
    (undisturbedLTS ⟨2, 0.15, 100⟩ 1 (fun _ _ => .ok ⟨200, [], []⟩) fun _ _ => true).Path w l w' ∧
    w'.lookups.length = w.lookups.length ∧ (∀ x ∈ w'.lookups, x.stage = .done) ∧ w'.lock = none := by
  have h0 : (limitedMbLTS ⟨2, 0.15, 100⟩ 1).Reachable ⟨⟨2, ⟨[⟨1, 1⟩], some 0⟩, [], []⟩, none, 0, [], []⟩ :=
    .init ⟨⟨rfl, rfl, rfl⟩, rfl, rfl, rfl, rfl⟩
  have h1 := ((h0.step (a := MbEvent.start .isrc) ⟨trivial, .start _ _⟩).step (a := MbEvent.start .upc)
    ⟨trivial, .start _ _⟩).step (a := MbEvent.start .isrc) ⟨trivial, .start _ _⟩
  have h2 := h1.step (a := MbEvent.lock 0) ⟨trivial, .pass rfl rfl (by norm_num [throttleWait])⟩
  have h3 := h2.step (a := MbEvent.lock 1) ⟨trivial, .sleep rfl rfl (by norm_num [throttleWait, MbWorld.pass])⟩
  obtain ⟨l, w', hl, hdone⟩ := lookups_complete _ one_pos (fun _ _ => .ok ⟨200, [], []⟩) (fun _ _ => true) h3
  exact ⟨_, l, w', rfl, by norm_num [MbWorld.pass, throttleWait], hl, hdone⟩

end LookupAggregator.MusicBrainz
