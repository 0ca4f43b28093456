import Mathlib.Data.List.Chain
import Mathlib.Tactic.Linarith
import Mathlib.Tactic.NormNum
import LookupAggregator.ResilientHttp.Get
import LookupAggregator.Schemas

/-! # The spacing of MusicBrainz requests

`_respect_rate_limit` lets a lookup pass at least 1.05 s after the pass before it, under a lock. The GET
itself is sent later, by `resilient_get`, which may first wait for an outbound slot and may send the GET
again after a short backoff without another pass.

The lookups of one `MusicBrainzProvider` run among all other calls of `resilient_get`. Their GETs are 1 s
apart as long as each has a pass of its own, they leave in the order of their passes, and none is held
up more than 0.05 s longer than the next one (`Prompt`): `spaced_of_prompt`. A retry breaks this:
`retry_breaks_spacing`. -/

namespace LookupAggregator.MusicBrainz

open LookupAggregator.Lib.Transition Outbound ResilientHttp

/-! ### The lookups of the provider -/

/-- The GETs of a lookup: the search, `_enrich_recording_isrc`, `_fetch_release_enrichment`. -/
inductive Request
  | search
  | detail
  | release
deriving DecidableEq

/-- The GET after one that was answered with success, if the answer has the id to go on with. -/
def Request.next : Kind → Request → Option Request
  | .isrc, .search => some .detail
  | .isrc, .detail => some .release
  | .upc, .search => some .release
  | _, _ => none

/-- Where a lookup stands. -/
inductive Stage
  /-- At `async with self._lock`. -/
  | throttled (r : Request)
  /-- In `asyncio.sleep(wait)`, with the lock. -/
  | asleep (r : Request) (wake : Time)
  /-- In the call of `resilient_get`. -/
  | requesting (r : Request) (call : ℕ)
  | done
deriving DecidableEq

/-- A lookup. -/
structure Lookup where
  kind : Kind
  stage : Stage
deriving DecidableEq

/-- A lookup was let through `_respect_rate_limit`, for a call of `resilient_get`. -/
structure Pass where
  call : ℕ
  time : Time

/-- The calls of `resilient_get`, the provider's `_lock` (with the lookup that has it) and
`_last_request_at`, its lookups, and the passes so far. -/
structure MbWorld where
  http : HttpWorld
  lock : Option ℕ
  lastRequestAt : Time
  lookups : List Lookup
  passes : List Pass

/-- `wait = 1.05 - (now - self._last_request_at)`. -/
def throttleWait (now lastRequestAt : Time) : Time := 1.05 - (now - lastRequestAt)

/-- `self._last_request_at = time.monotonic()`, and on to the call of `resilient_get`. -/
def MbWorld.pass (w : MbWorld) (j : ℕ) (kind : Kind) (r : Request) : MbWorld where
  http := { w.http with calls := w.http.calls ++ [.entering 0] }
  lock := none
  lastRequestAt := w.http.now
  lookups := w.lookups.set j ⟨kind, .requesting r w.http.calls.length⟩
  passes := w.passes ++ [⟨w.http.calls.length, w.http.now⟩]

/-- `r.is_success`, without which `raise_for_status` raises. -/
def isSuccess (r : Response) : Bool := 200 ≤ r.statusCode ∧ r.statusCode < 300

/-- What happens in one step. -/
inductive MbEvent
  | http (e : HttpEvent)
  | start (kind : Kind)
  | lock (j : ℕ)
  | wake (j : ℕ)
  | next (j : ℕ)
  | finish (j : ℕ)
  | cancel (j : ℕ)

/-- The steps. Between `now = time.monotonic()` and the pass of a lookup that need not sleep there is no
`await`, so one reading stands for both. -/
inductive MbStep (st : HttpSettings) : MbWorld → MbEvent → MbWorld → Prop
  | http {w : MbWorld} {e : HttpEvent} {http : HttpWorld} (h : httpStep st w.http e = some http) :
    MbStep st w (.http e) { w with http := http }
  | start (w : MbWorld) (kind : Kind) :
    MbStep st w (.start kind) { w with lookups := w.lookups ++ [⟨kind, .throttled .search⟩] }
  | pass {w : MbWorld} {j : ℕ} {kind : Kind} {r : Request}
    (hj : w.lookups[j]? = some ⟨kind, .throttled r⟩) (hl : w.lock = none)
    (hw : throttleWait w.http.now w.lastRequestAt ≤ 0) : MbStep st w (.lock j) (w.pass j kind r)
  | sleep {w : MbWorld} {j : ℕ} {kind : Kind} {r : Request}
    (hj : w.lookups[j]? = some ⟨kind, .throttled r⟩) (hl : w.lock = none)
    (hw : 0 < throttleWait w.http.now w.lastRequestAt) :
    MbStep st w (.lock j) { w with
      lock := some j
      lookups := w.lookups.set j
        ⟨kind, .asleep r (w.http.now + throttleWait w.http.now w.lastRequestAt)⟩ }
  | wake {w : MbWorld} {j : ℕ} {kind : Kind} {r : Request} {wake : Time}
    (hj : w.lookups[j]? = some ⟨kind, .asleep r wake⟩) (hw : wake ≤ w.http.now) :
    MbStep st w (.wake j) (w.pass j kind r)
  | next {w : MbWorld} {j call : ℕ} {kind : Kind} {r r' : Request} {response : Response}
    (hj : w.lookups[j]? = some ⟨kind, .requesting r call⟩)
    (hc : w.http.calls[call]? = some (.returned response)) (hs : isSuccess response)
    (hr : r.next kind = some r') :
    MbStep st w (.next j) { w with lookups := w.lookups.set j ⟨kind, .throttled r'⟩ }
  | finish {w : MbWorld} {j call : ℕ} {kind : Kind} {r : Request} {p : GetPhase}
    (hj : w.lookups[j]? = some ⟨kind, .requesting r call⟩) (hc : w.http.calls[call]? = some p)
    (hp : p.ended) : MbStep st w (.finish j) { w with lookups := w.lookups.set j ⟨kind, .done⟩ }
  | cancelThrottled {w : MbWorld} {j : ℕ} {kind : Kind} {r : Request}
    (hj : w.lookups[j]? = some ⟨kind, .throttled r⟩) :
    MbStep st w (.cancel j) { w with lookups := w.lookups.set j ⟨kind, .done⟩ }
  | cancelAsleep {w : MbWorld} {j : ℕ} {kind : Kind} {r : Request} {wake : Time}
    (hj : w.lookups[j]? = some ⟨kind, .asleep r wake⟩) :
    MbStep st w (.cancel j)
      { w with lock := none, lookups := w.lookups.set j ⟨kind, .done⟩ }

/-- A new provider, in a process with the outbound state `o`. -/
def mbLTS (st : HttpSettings) (o : OutboundState) : LTS MbWorld MbEvent where
  init w := (httpLTS st o).init w.http ∧ w.lock = none ∧ w.lastRequestAt = 0 ∧ w.lookups = [] ∧
    w.passes = []
  step := MbStep st

/-! ### The GETs of the provider -/

/-- A GET of the provider: when its call passed, and when it was sent. -/
structure MbGet where
  pass : Time
  time : Time
deriving DecidableEq

/-- When a call passed, if it is one of the provider's. -/
def passOf (passes : List Pass) (call : ℕ) : Option Time :=
  (passes.find? fun p => p.call = call).map Pass.time

/-- A GET sent, if a call of the provider sent it. -/
def ofSentGet (passes : List Pass) (g : SentGet) : Option MbGet :=
  (passOf passes g.call).map fun pass => ⟨pass, g.time⟩

/-- The GETs of the provider, in the order sent. -/
def providerGets (w : MbWorld) : List MbGet := w.http.gets.filterMap (ofSentGet w.passes)

/-- **Consecutive GETs of the provider are at least 1 s apart.** -/
def Spaced (w : MbWorld) : Prop := (providerGets w).IsChain fun g g' => 1 ≤ g'.time - g.time

/-- A GET of the provider is sent only after the pass of the GET before it, and only if that one was
held up at most 0.05 s longer. -/
def Prompt (w : MbWorld) : MbEvent → Prop
  | .http (.get i e) => startsGet w.http.out e → ∀ pass, passOf w.passes i = some pass →
      ∀ g ∈ (providerGets w).getLast?,
        g.pass < pass ∧ g.time - g.pass ≤ w.http.now - pass + 0.05
  | _ => True

/-! ### The passes -/

/-- Passes are 1.05 s apart, the last one is at `_last_request_at`, and a lookup that sleeps has the lock
and sleeps until the next one may pass. -/
structure Inv (w : MbWorld) : Prop where
  apart : w.passes.Pairwise fun p q => p.time + 1.05 ≤ q.time
  last : ∀ p ∈ w.passes, p.time ≤ w.lastRequestAt
  asleep : ∀ j kind r wake, w.lookups[j]? = some ⟨kind, .asleep r wake⟩ →
    w.lock = some j ∧ wake = w.lastRequestAt + 1.05
  scope : ∀ p ∈ w.passes, p.call < w.http.calls.length
  sent : ∀ g ∈ w.http.gets, g.call < w.http.calls.length

section Passes
variable {st : HttpSettings} {w w' : MbWorld} {j : ℕ} {kind : Kind} {r : Request}

/-- A pass 1.05 s after the last one keeps the invariant. -/
theorem Inv.pass (h : Inv w) (hwait : w.lastRequestAt + 1.05 ≤ w.http.now)
    (hnone : ∀ i kind r wake, i ≠ j → w.lookups[i]? ≠ some ⟨kind, .asleep r wake⟩) :
    Inv (w.pass j kind r) where
  apart := by
    refine List.pairwise_append.mpr ⟨h.apart, List.pairwise_singleton _ _, fun p hp q hq => ?_⟩
    rw [List.mem_singleton.mp hq]
    have := h.last p hp
    show p.time + 1.05 ≤ w.http.now
    linarith
  last p hp := by
    rcases List.mem_append.mp hp with hp | hp
    · have := h.last p hp
      show p.time ≤ w.http.now
      linarith
    · rw [List.mem_singleton.mp hp]
      exact le_rfl
  asleep i kind' r' wake hi := by
    by_cases hij : i = j
    · subst hij
      have hi' : (w.lookups.set i ⟨kind, .requesting r w.http.calls.length⟩)[i]? =
        some ⟨kind', .asleep r' wake⟩ := hi
      rw [List.getElem?_set] at hi'
      simp only [if_true] at hi'
      split_ifs at hi'
      simp at hi'
    · exact absurd (by rwa [MbWorld.pass, List.getElem?_set_ne (Ne.symm hij)] at hi)
        (hnone i kind' r' wake hij)
  scope p hp := by
    rw [MbWorld.pass, List.length_append]
    rcases List.mem_append.mp hp with hp | hp
    · exact Nat.lt_succ_of_lt (h.scope p hp)
    · rw [List.mem_singleton.mp hp]
      exact Nat.lt_succ_self _
  sent g hg := by
    rw [MbWorld.pass, List.length_append]
    exact Nat.lt_succ_of_lt (h.sent g hg)

/-- Moving a lookup to a stage in which it does not sleep. -/
theorem Inv.move (h : Inv w) {y : Lookup} (hy : ∀ r wake, y.stage ≠ .asleep r wake) {lock : Option ℕ}
    (hl : ∀ i, i ≠ j → w.lock = some i → lock = some i) :
    Inv { w with lock := lock, lookups := w.lookups.set j y } := by
  refine ⟨h.apart, h.last, fun i kind r wake hi => ?_, h.scope, h.sent⟩
  rw [List.getElem?_set] at hi
  split_ifs at hi with hij hlt
  · cases hi
    exact absurd rfl (hy r wake)
  · obtain ⟨hlock, hwake⟩ := h.asleep i kind r wake hi
    exact ⟨hl i (Ne.symm hij) hlock, hwake⟩

/-- A call of `resilient_get` never disappears, and what is sent is sent by one. -/
theorem httpStep_scope {w w' : HttpWorld} {e : HttpEvent} (h : httpStep st w e = some w')
    (hs : ∀ g ∈ w.gets, g.call < w.calls.length) :
    w.calls.length ≤ w'.calls.length ∧ ∀ g ∈ w'.gets, g.call < w'.calls.length := by
  cases e with
  | call =>
    cases h
    simp only [List.length_append, List.length_singleton]
    exact ⟨Nat.le_succ _, fun g hg => Nat.lt_succ_of_lt (hs g hg)⟩
  | get i e =>
    obtain ⟨p, o', p', hp, -, rfl⟩ := httpStep_get h
    obtain ⟨hlt, -⟩ := List.getElem?_eq_some_iff.mp hp
    simp only [List.length_set, List.mem_append]
    refine ⟨le_rfl, fun g hg => hg.elim (hs g) fun hg => ?_⟩
    rcases sends_cases i w.now e p' with he | ⟨a, he⟩ <;> rw [he] at hg
    · cases hg
    · rw [List.mem_singleton.mp hg]
      exact hlt
  | set => cases h; exact ⟨le_rfl, hs⟩
  | clear => cases h; exact ⟨le_rfl, hs⟩
  | tick t =>
    obtain ⟨-, rfl⟩ := httpStep_tick h
    exact ⟨le_rfl, hs⟩

/-- **Every step keeps the passes 1.05 s apart.** -/
theorem Inv.step {e : MbEvent} (h : Inv w) (hs : MbStep st w e w') : Inv w' := by
  cases hs with
  | http hh =>
    obtain ⟨hlen, hsent⟩ := httpStep_scope hh h.sent
    exact ⟨h.apart, h.last, h.asleep, fun p hp => lt_of_lt_of_le (h.scope p hp) hlen, hsent⟩
  | start kind =>
    refine ⟨h.apart, h.last, fun i kind' r wake hi => ?_, h.scope, h.sent⟩
    rw [List.getElem?_append] at hi
    split_ifs at hi
    · exact h.asleep i kind' r wake hi
    · have := List.mem_of_getElem? hi
      simp at this
  | pass hj hl hw =>
    refine h.pass ?_ fun i kind r wake _ hi => ?_
    · unfold throttleWait at hw
      linarith
    · rw [(h.asleep i kind r wake hi).1] at hl
      cases hl
  | @sleep j kind r hj hl hw =>
    refine ⟨h.apart, h.last, fun i kind' r' wake hi => ?_, h.scope, h.sent⟩
    rw [List.getElem?_set] at hi
    split_ifs at hi with hij hlt
    · subst hij
      cases hi
      refine ⟨rfl, ?_⟩
      unfold throttleWait
      ring
    · rw [(h.asleep i kind' r' wake hi).1] at hl
      cases hl
  | @wake j kind r wake hj hw =>
    obtain ⟨hlock, rfl⟩ := h.asleep j kind r wake hj
    refine h.pass hw fun i kind' r' wake' hij hi => ?_
    rw [(h.asleep i kind' r' wake' hi).1, Option.some.injEq] at hlock
    exact hij hlock
  | next => exact h.move (fun _ _ => by simp) fun _ _ hl => hl
  | finish => exact h.move (fun _ _ => by simp) fun _ _ hl => hl
  | cancelThrottled => exact h.move (fun _ _ => by simp) fun _ _ hl => hl
  | @cancelAsleep j kind r wake hj =>
    refine h.move (fun _ _ => by simp) fun i hij hl => ?_
    rw [(h.asleep j kind r wake hj).1, Option.some.injEq] at hl
    exact absurd hl.symm hij

end Passes

/-! ### The spacing -/

section Spacing
variable {st : HttpSettings} {o : OutboundState} {w w' : MbWorld}

theorem exists_of_passOf {passes : List Pass} {c : ℕ} {t : Time} (h : passOf passes c = some t) :
    ∃ p ∈ passes, p.time = t := by
  obtain ⟨p, hp, ht⟩ := Option.map_eq_some_iff.mp h
  exact ⟨p, List.mem_of_find?_eq_some hp, ht⟩

theorem passOf_append_of_ne (passes : List Pass) {p : Pass} {c : ℕ} (h : p.call ≠ c) :
    passOf (passes ++ [p]) c = passOf passes c := by
  simp [passOf, List.find?_append, h]

/-- A later pass is 1.05 s later. -/
theorem Inv.apart_of_lt (h : Inv w) {c c' : ℕ} {t t' : Time} (hc : passOf w.passes c = some t)
    (hc' : passOf w.passes c' = some t') (hlt : t < t') : t + 1.05 ≤ t' := by
  obtain ⟨p, hp, rfl⟩ := exists_of_passOf hc
  obtain ⟨q, hq, rfl⟩ := exists_of_passOf hc'
  let R (p q : Pass) : Prop := p.time + 1.05 ≤ q.time ∨ q.time + 1.05 ≤ p.time
  have : Std.Symm R := ⟨fun _ _ => Or.symm⟩
  have hsymm : w.passes.Pairwise R := h.apart.imp Or.inl
  have hne : p ≠ q := by rintro rfl; exact lt_irrefl _ hlt
  rcases hsymm.forall hp hq hne with hle | hle
  · exact hle
  · linarith

theorem passOf_of_mem_providerGets {g : MbGet} (h : g ∈ providerGets w) :
    ∃ c, passOf w.passes c = some g.pass := by
  obtain ⟨s, -, hs⟩ := List.mem_filterMap.mp h
  obtain ⟨t, ht, rfl⟩ := Option.map_eq_some_iff.mp hs
  exact ⟨s.call, ht⟩

/-- A pass of a new call changes no GET already sent. -/
theorem providerGets_pass (h : Inv w) (j : ℕ) (kind : Kind) (r : Request) :
    providerGets (w.pass j kind r) = providerGets w := by
  refine List.filterMap_congr fun g hg => ?_
  simp only [ofSentGet, MbWorld.pass]
  rw [passOf_append_of_ne _ (h.sent g hg).ne']

/-- **A prompt step keeps the GETs 1 s apart.** -/
theorem Spaced.step {e : MbEvent} (h : Inv w) (hsp : Spaced w) (hs : MbStep st w e w')
    (hq : Prompt w e) : Spaced w' := by
  cases hs with
  | @http e http hh =>
    cases e with
    | call => cases hh; exact hsp
    | set => cases hh; exact hsp
    | clear => cases hh; exact hsp
    | tick t =>
      obtain ⟨-, rfl⟩ := httpStep_tick hh
      exact hsp
    | get i e =>
      obtain ⟨p, o', p', hp, hg, rfl⟩ := httpStep_get hh
      rcases sends_cases i w.http.now e p' with he | ⟨a, he⟩
      · simpa [Spaced, providerGets, he] using hsp
      · have hstart : startsGet w.http.out e := by
          by_contra hns
          rw [sends_eq_nil hg (by simpa using hns)] at he
          cases he
        have hgets : providerGets { w with http := { w.http with
              out := o', calls := w.http.calls.set i p', gets := w.http.gets ++ [⟨i, a, w.http.now⟩] } } =
            providerGets w ++ ([⟨i, a, w.http.now⟩] : List SentGet).filterMap (ofSentGet w.passes) :=
          List.filterMap_append
        rw [he]
        unfold Spaced
        rw [hgets]
        cases hpass : passOf w.passes i with
        | none => simpa [ofSentGet, hpass, Spaced] using hsp
        | some t =>
          simp only [List.filterMap_cons, List.filterMap_nil, ofSentGet, hpass, Option.map_some]
          refine hsp.append (List.isChain_singleton _) fun g hlast g' hg' => ?_
          obtain rfl : _ = g' := by simpa using hg'
          -- the GET before has an earlier pass, hence one 1.05 s earlier
          obtain ⟨hlt, hheld⟩ := hq hstart t hpass g hlast
          obtain ⟨c, hc⟩ := passOf_of_mem_providerGets (List.mem_of_getLast? hlast)
          have := h.apart_of_lt hc hpass hlt
          show 1 ≤ w.http.now - g.time
          linarith
  | start => exact hsp
  | pass => rw [Spaced, providerGets_pass h]; exact hsp
  | sleep => exact hsp
  | wake => rw [Spaced, providerGets_pass h]; exact hsp
  | next => exact hsp
  | finish => exact hsp
  | cancelThrottled => exact hsp
  | cancelAsleep => exact hsp

/-- **In a run whose steps are all prompt, the GETs of the provider are 1 s apart.** -/
theorem spaced_of_prompt (h : ((mbLTS st o).restrict Prompt).Reachable w) : Spaced w := by
  suffices hall : Inv w ∧ Spaced w from hall.2
  refine LTS.Reachable.invariant (T := (mbLTS st o).restrict Prompt) (I := fun w => Inv w ∧ Spaced w)
    ?_ (fun w e w' hw hs => ⟨hw.1.step hs.2, hw.2.step hw.1 hs.2 hs.1⟩) h
  rintro w ⟨⟨-, hcalls, hgets⟩, hlock, -, hlookups, hpasses⟩
  refine ⟨⟨?_, ?_, ?_, ?_, ?_⟩, ?_⟩ <;> simp [*, Spaced, providerGets]

end Spacing

/-- Two lookups at 2 s: the second one sleeps until 3.05 s. -/
theorem spaced_of_prompt_two : ∃ w, (providerGets w).map MbGet.time = [2, 3.05] ∧ Spaced w := by
  have h0 : ((mbLTS ⟨2, 0.15, 100⟩ .init).restrict Prompt).Reachable
      ⟨⟨2, .init, [], []⟩, none, 0, [], []⟩ := .init ⟨⟨rfl, rfl, rfl⟩, rfl, rfl, rfl, rfl⟩
  have h1 := h0.step (a := MbEvent.start .isrc) ⟨trivial, .start _ _⟩
  have h2 := h1.step (a := MbEvent.start .upc) ⟨trivial, .start _ _⟩
  have h3 := h2.step (a := MbEvent.lock 0) ⟨trivial, .pass rfl rfl (by norm_num [throttleWait])⟩
  have h4 := h3.step (a := MbEvent.http (.get 0 .enter)) ⟨fun _ _ _ _ hg => (by cases hg), .http rfl⟩
  have h5 := h4.step (a := MbEvent.lock 1)
    ⟨trivial, .sleep rfl rfl (by norm_num [throttleWait, MbWorld.pass])⟩
  have h6 := h5.step (a := MbEvent.http (.tick 3.05))
    ⟨trivial, .http (httpStep_tick_of_le (by norm_num [MbWorld.pass]))⟩
  have h7 := h6.step (a := MbEvent.wake 1)
    ⟨trivial, .wake rfl (by norm_num [throttleWait, MbWorld.pass])⟩
  have h8 := h7.step (a := MbEvent.http (.get 1 .enter)) ⟨fun _ pass hpass g hg => (by
    cases hpass
    cases hg
    norm_num [MbWorld.pass]), .http rfl⟩
  exact ⟨_, rfl, spaced_of_prompt h8⟩

/-- **A 503 is retried 0.15 s after the first GET.** -/
theorem retry_breaks_spacing : ¬ ∀ st o w, (mbLTS st o).Reachable w → Spaced w := by
  intro hall
  have h0 : (mbLTS ⟨2, 0.15, 100⟩ .init).Reachable ⟨⟨2, .init, [], []⟩, none, 0, [], []⟩ :=
    .init ⟨⟨rfl, rfl, rfl⟩, rfl, rfl, rfl, rfl⟩
  have h1 := h0.step (a := MbEvent.start .isrc) (.start _ _)
  have h2 := h1.step (a := MbEvent.lock 0) (.pass rfl rfl (by norm_num [throttleWait]))
  have h3 := h2.step (a := MbEvent.http (.get 0 .enter)) (.http rfl)
  have h4 := h3.step (a := MbEvent.http (.get 0 (.answer (.ok ⟨503, [], []⟩)))) (.http rfl)
  have h5 := h4.step (a := MbEvent.http (.get 0 .read)) (.http rfl)
  have h6 := h5.step (a := MbEvent.http (.tick 2.15))
    (.http (httpStep_tick_of_le (by norm_num [MbWorld.pass])))
  have h7 := h6.step (a := MbEvent.http (.get 0 .wake)) (.http (httpStep_of_getStep rfl
    (getStep_wake (by norm_num [HttpSettings.backoff, MbWorld.pass]))))
  have h8 := h7.step (a := MbEvent.http (.get 0 .enter)) (.http rfl)
  have hspaced : ([⟨2, 2⟩, ⟨2, 2.15⟩] : List MbGet).IsChain fun g g' => 1 ≤ g'.time - g.time :=
    hall _ _ _ h8
  norm_num at hspaced

end LookupAggregator.MusicBrainz
