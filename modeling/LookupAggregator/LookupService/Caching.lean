import Mathlib.Tactic.Linarith
import Mathlib.Tactic.NormNum
import LookupAggregator.Cache.Store
import LookupAggregator.Lib.Transition
import LookupAggregator.LookupService.Assemble

/-! # Lookups that share a cache

Any number of `lookup_isrc` and `lookup_upc` calls interleave in the runs of `serviceLTS`. A call asks the
cache, asks the providers when the cache has nothing, and writes what it assembled; between these it is
suspended, so that other calls write, let expire and evict what it has seen. The providers answer anew in
every call.

Each entry of the store was assembled and written by a lookup of its own kind and code (`Inv`), so a
response comes from the call itself or from a write of its kind and code that is less than `ttl` old:
`response_own_or_fresh`. -/

namespace LookupAggregator.LookupService

open Lib Lib.Transition Py Normalize Cache

/-- `f"isrc:{code}"` and `f"upc:{code}"`. -/
def cacheKey : Kind → String → String
  | .isrc, code => "isrc:" ++ code
  | .upc, code => "upc:" ++ code

/-- **The two kinds of keys never meet.** -/
theorem cacheKey_inj {k k' : Kind} {c c' : String} (h : cacheKey k c = cacheKey k' c') :
    k = k' ∧ c = c' := by
  have hl := congrArg String.toList h
  cases k <;> cases k' <;> simp [cacheKey, String.toList_append] at hl
  · exact ⟨rfl, String.toList_inj.mp hl⟩
  · exact ⟨rfl, String.toList_inj.mp hl⟩

/-- The providers can answer so that a lookup of the code assembles this response. -/
def Assembled (cf : CaseFolding) (st : ProviderSettings) (kind : Kind) (code : String)
    (response : LookupResponse) : Prop :=
  ∃ providers c, assemble cf st providers kind code c = .ok response

theorem Assembled.query {cf : CaseFolding} {st : ProviderSettings} {kind : Kind} {code : String}
    {response : LookupResponse} (h : Assembled cf st kind code response) : response.query = code := by
  obtain ⟨providers, c, h⟩ := h
  unfold assemble at h
  split at h
  · cases h
  · cases h
    rfl

/-! ### The calls -/

/-- Where a lookup stands. -/
inductive LookupPhase
  | called
  /-- The cache had nothing. -/
  | missed
  | assembled (response : LookupResponse)
  /-- Returned, with the last clock reading before. -/
  | returned (response : LookupResponse) (time : Time)
  | raised (e : PyExc)

/-- A call of `lookup_isrc` or `lookup_upc`, and what it has assembled itself. -/
structure LookupCall where
  kind : Kind
  code : String
  phase : LookupPhase
  own : Option LookupResponse

/-- A write to the cache: by which call, for which code, what, and when. -/
structure CacheWrite where
  call : ℕ
  kind : Kind
  code : String
  response : LookupResponse
  time : Time

/-- The clock, the cache, the calls, and the writes so far. -/
structure ServiceWorld where
  now : Time
  cache : TtlCache LookupResponse
  calls : List LookupCall
  writes : List CacheWrite

/-- What happens in one step. -/
inductive ServiceEvent
  | call (kind : Kind) (code : String)
  | get (i : ℕ)
  | gather (i : ℕ)
  | set (i : ℕ)
  | cancel (i : ℕ)
  | tick (t : Time)

/-- The call has not ended. -/
def LookupPhase.running : LookupPhase → Bool
  | .returned _ _ | .raised _ => false
  | _ => true

/-- The steps. The cache is asked and written under its lock, with nothing awaited in between. -/
inductive ServiceStep (cf : CaseFolding) (st : ProviderSettings) :
    ServiceWorld → ServiceEvent → ServiceWorld → Prop
  | call (w : ServiceWorld) (kind : Kind) (code : String) :
    ServiceStep cf st w (.call kind code) { w with calls := w.calls ++ [⟨kind, code, .called, none⟩] }
  | hit {w : ServiceWorld} {i : ℕ} {c : LookupCall} {response : LookupResponse} {now₁ now₂ : Time}
    (hi : w.calls[i]? = some c) (hp : c.phase = .called) (h₁ : w.now ≤ now₁) (h₂ : now₁ ≤ now₂)
    (hg : (w.cache.get (cacheKey c.kind c.code) now₁ now₂).1 = some response) :
    ServiceStep cf st w (.get i) { w with
      now := now₂
      cache := (w.cache.get (cacheKey c.kind c.code) now₁ now₂).2
      calls := w.calls.set i { c with phase := .returned response now₂ } }
  | miss {w : ServiceWorld} {i : ℕ} {c : LookupCall} {now₁ now₂ : Time}
    (hi : w.calls[i]? = some c) (hp : c.phase = .called) (h₁ : w.now ≤ now₁) (h₂ : now₁ ≤ now₂)
    (hg : (w.cache.get (cacheKey c.kind c.code) now₁ now₂).1 = none) :
    ServiceStep cf st w (.get i) { w with
      now := now₂
      cache := (w.cache.get (cacheKey c.kind c.code) now₁ now₂).2
      calls := w.calls.set i { c with phase := .missed } }
  | gather {w : ServiceWorld} {i : ℕ} {c : LookupCall} {response : LookupResponse}
    {providers : Dict String Provider} {order : Completion (tasks st providers c.kind c.code).length}
    (hi : w.calls[i]? = some c) (hp : c.phase = .missed)
    (ha : assemble cf st providers c.kind c.code order = .ok response) :
    ServiceStep cf st w (.gather i) { w with
      calls := w.calls.set i { c with phase := .assembled response, own := some response } }
  | gatherRaises {w : ServiceWorld} {i : ℕ} {c : LookupCall} {e : PyExc}
    {providers : Dict String Provider} {order : Completion (tasks st providers c.kind c.code).length}
    (hi : w.calls[i]? = some c) (hp : c.phase = .missed)
    (ha : assemble cf st providers c.kind c.code order = .error e) :
    ServiceStep cf st w (.gather i) { w with calls := w.calls.set i { c with phase := .raised e } }
  | set {w : ServiceWorld} {i : ℕ} {c : LookupCall} {response : LookupResponse} {now₁ now₂ : Time}
    {cache : TtlCache LookupResponse} (hi : w.calls[i]? = some c) (hp : c.phase = .assembled response)
    (h₁ : w.now ≤ now₁) (h₂ : now₁ ≤ now₂)
    (hs : w.cache.set (cacheKey c.kind c.code) response now₁ now₂ = .ok cache) :
    ServiceStep cf st w (.set i) { w with
      now := now₂
      cache := cache
      calls := w.calls.set i { c with phase := .returned response now₂ }
      writes := w.writes ++ [⟨i, c.kind, c.code, response, now₂⟩] }
  | cancel {w : ServiceWorld} {i : ℕ} {c : LookupCall} (hi : w.calls[i]? = some c)
    (hp : c.phase.running) :
    ServiceStep cf st w (.cancel i)
      { w with calls := w.calls.set i { c with phase := .raised (.baseException "") } }
  | tick {w : ServiceWorld} {t : Time} (h : w.now ≤ t) : ServiceStep cf st w (.tick t) { w with now := t }

/-- A service with a new cache. -/
def serviceLTS (cf : CaseFolding) (st : ProviderSettings) (ttlS : Time) (maxEntries : ℤ) :
    LTS ServiceWorld ServiceEvent where
  init w := w.cache = TtlCache.init ttlS maxEntries ∧ w.calls = [] ∧ w.writes = []
  step := ServiceStep cf st

/-! ### The invariant -/

/-- `response`, returned at `t`, was written by another lookup of the same kind and code, less than `ttlS`
before. -/
def FromWrite (ttlS : Time) (writes : List CacheWrite) (i : ℕ) (c : LookupCall)
    (response : LookupResponse) (t : Time) : Prop :=
  ∃ wr ∈ writes, wr.call ≠ i ∧ wr.kind = c.kind ∧ wr.code = c.code ∧ wr.response = response ∧
    wr.time ≤ t ∧ t < wr.time + ttlS

/-- Where the response of a call comes from, at each phase. -/
def Origin (ttlS : Time) (writes : List CacheWrite) (i : ℕ) (c : LookupCall) : Prop :=
  match c.phase with
  | .called | .missed => c.own = none
  | .assembled response => c.own = some response
  | .returned response t => c.own = some response ∨ FromWrite ttlS writes i c response t
  | .raised _ => True

/-- What is stored was written, and what was written was assembled by its call. -/
structure Inv (cf : CaseFolding) (st : ProviderSettings) (ttlS : Time) (w : ServiceWorld) : Prop where
  ttl : w.cache.ttl = ttlS
  max : 1 ≤ w.cache.max
  stored : ∀ key exp v, (key, (exp, v)) ∈ w.cache.store.entries →
    ∃ wr ∈ w.writes, key = cacheKey wr.kind wr.code ∧ v = wr.response ∧ exp = wr.time + ttlS
  written : ∀ wr ∈ w.writes, wr.time ≤ w.now ∧
    ∃ c, w.calls[wr.call]? = some c ∧ c.kind = wr.kind ∧ c.code = wr.code ∧ c.own = some wr.response
  assembled : ∀ c ∈ w.calls, ∀ response, c.own = some response → Assembled cf st c.kind c.code response
  origin : ∀ i c, w.calls[i]? = some c → Origin ttlS w.writes i c

section Steps
variable {cf : CaseFolding} {st : ProviderSettings} {ttlS : Time} {w w' : ServiceWorld}

theorem FromWrite.mono {writes : List CacheWrite} {i : ℕ} {c : LookupCall} {response : LookupResponse}
    {t : Time} (h : FromWrite ttlS writes i c response t) (new : List CacheWrite) :
    FromWrite ttlS (writes ++ new) i c response t := by
  obtain ⟨wr, hm, h⟩ := h
  exact ⟨wr, List.mem_append_left _ hm, h⟩

theorem Origin.mono {writes : List CacheWrite} {i : ℕ} {c : LookupCall} (h : Origin ttlS writes i c)
    (new : List CacheWrite) : Origin ttlS (writes ++ new) i c := by
  unfold Origin at *
  split
  · simpa [*] using h
  · simpa [*] using h
  · simpa [*] using h
  · next hp =>
    rw [hp] at h
    exact h.imp id fun h => h.mono new
  · trivial

/-- **Moving a call on.** It keeps its kind and code and what it assembled. -/
theorem Inv.advance (h : Inv cf st ttlS w) {i : ℕ} {c : LookupCall} (c' : LookupCall)
    (hi : w.calls[i]? = some c)
    (hkind : c'.kind = c.kind) (hcode : c'.code = c.code)
    (hown : ∀ r, c.own = some r → c'.own = some r)
    (hasm : ∀ r, c'.own = some r → Assembled cf st c.kind c.code r)
    (ho : Origin ttlS w.writes i c') {now : Time} (hnow : w.now ≤ now) {cache : TtlCache LookupResponse}
    (httl : cache.ttl = ttlS) (hmax : 1 ≤ cache.max)
    (hcache : ∀ e ∈ cache.store.entries, e ∈ w.cache.store.entries) :
    Inv cf st ttlS { w with now := now, cache := cache, calls := w.calls.set i c' } := by
  obtain ⟨hlt, -⟩ := List.getElem?_eq_some_iff.mp hi
  refine ⟨httl, hmax, fun key exp v hm => h.stored key exp v (hcache _ hm), fun wr hm => ?_,
    fun d hd r hr => ?_, fun j d hj => ?_⟩
  · obtain ⟨htime, d, hd, hdk, hdc, hdo⟩ := h.written wr hm
    refine ⟨le_trans htime hnow, ?_⟩
    by_cases hij : i = wr.call
    · subst hij
      rw [hi, Option.some.injEq] at hd
      subst hd
      exact ⟨c', List.getElem?_set_self hlt, hkind.trans hdk, hcode.trans hdc, hown _ hdo⟩
    · exact ⟨d, by rw [← hd]; exact List.getElem?_set_ne hij, hdk, hdc, hdo⟩
  · rcases List.mem_or_eq_of_mem_set hd with hd | rfl
    · exact h.assembled d hd r hr
    · rw [hkind, hcode]
      exact hasm r hr
  · rw [List.getElem?_set] at hj
    split_ifs at hj with hij
    · subst hij
      cases hj
      exact ho
    · exact h.origin j d hj

/-- One more write, by a call that has assembled what it writes. -/
theorem Inv.write (h : Inv cf st ttlS w) (wr : CacheWrite) {cache : TtlCache LookupResponse}
    (htime : wr.time ≤ w.now) {c : LookupCall} (hc : w.calls[wr.call]? = some c)
    (hk : c.kind = wr.kind) (hcd : c.code = wr.code) (ho : c.own = some wr.response)
    (httl : cache.ttl = ttlS) (hmax : 1 ≤ cache.max)
    (hcache : ∀ key e, (key, e) ∈ cache.store.entries →
      (key = cacheKey wr.kind wr.code ∧ e = (wr.time + ttlS, wr.response)) ∨
        (key, e) ∈ w.cache.store.entries) :
    Inv cf st ttlS { w with cache := cache, writes := w.writes ++ [wr] } where
  ttl := httl
  max := hmax
  stored key exp v hm := by
    rcases hcache key _ hm with ⟨hkey, he⟩ | hm
    · simp only [Prod.mk.injEq] at he
      exact ⟨wr, by simp, hkey, he.2, he.1⟩
    · obtain ⟨wr', hm', h⟩ := h.stored key exp v hm
      exact ⟨wr', List.mem_append_left _ hm', h⟩
  written wr' hm := by
    rcases List.mem_append.mp hm with hm | hm
    · exact h.written wr' hm
    · obtain rfl := List.mem_singleton.mp hm
      exact ⟨htime, c, hc, hk, hcd, ho⟩
  assembled := h.assembled
  origin i c hi := (h.origin i c hi).mono _

/-- **Every step keeps the invariant.** -/
theorem Inv.step {e : ServiceEvent} (h : Inv cf st ttlS w) (hs : ServiceStep cf st w e w') :
    Inv cf st ttlS w' := by
  cases hs with
  | call kind code =>
    refine ⟨h.ttl, h.max, h.stored, fun wr hm => ?_, fun d hd r hr => ?_, fun j d hj => ?_⟩
    · obtain ⟨htime, d, hd, hrest⟩ := h.written wr hm
      obtain ⟨hlt, -⟩ := List.getElem?_eq_some_iff.mp hd
      exact ⟨htime, d, by rw [← hd]; exact List.getElem?_append_left hlt, hrest⟩
    · rcases List.mem_append.mp hd with hd | hd
      · exact h.assembled d hd r hr
      · rw [List.mem_singleton.mp hd] at hr
        cases hr
    · rw [List.getElem?_append] at hj
      split_ifs at hj
      · exact h.origin j d hj
      · rw [List.mem_singleton.mp (List.mem_of_getElem? hj)]
        rfl
  | @hit i c response now₁ now₂ hi hp h₁ h₂ hg =>
    have hnone : c.own = none := by
      have := h.origin i c hi
      rwa [Origin, hp] at this
    refine h.advance { c with phase := .returned response now₂ } hi rfl rfl (fun _ hr => hr)
      (fun r hr => h.assembled c (List.mem_of_getElem? hi) r hr) (.inr ?_) (le_trans h₁ h₂)
      ((TtlCache.get_ttl _ _ _ _).trans h.ttl) ((TtlCache.get_max _ _ _ _).symm ▸ h.max)
      fun e he => TtlCache.mem_get he
    obtain ⟨exp, hm, -, hlt⟩ := TtlCache.get_eq_some.mp hg
    obtain ⟨wr, hwr, hkey, rfl, rfl⟩ := h.stored _ _ _ hm
    obtain ⟨hk, hcd⟩ := cacheKey_inj hkey
    obtain ⟨htime, d, hd, -, -, hdo⟩ := h.written wr hwr
    refine ⟨wr, hwr, fun he => ?_, hk.symm, hcd.symm, rfl, by linarith, hlt⟩
    -- a call that still asks the cache has assembled nothing
    rw [he, hi, Option.some.injEq] at hd
    rw [← hd, hnone] at hdo
    cases hdo
  | @miss i c now₁ now₂ hi hp h₁ h₂ hg =>
    have hnone : c.own = none := by
      have := h.origin i c hi
      rwa [Origin, hp] at this
    exact h.advance { c with phase := .missed } hi rfl rfl (fun _ hr => hr)
      (fun r hr => h.assembled c (List.mem_of_getElem? hi) r hr) hnone (le_trans h₁ h₂)
      ((TtlCache.get_ttl _ _ _ _).trans h.ttl) ((TtlCache.get_max _ _ _ _).symm ▸ h.max)
      fun e he => TtlCache.mem_get he
  | @gather i c response providers order hi hp ha =>
    have hnone : c.own = none := by
      have := h.origin i c hi
      rwa [Origin, hp] at this
    refine h.advance { c with phase := .assembled response, own := some response } hi rfl rfl
      (fun r hr => ?_) (fun r hr => ?_) rfl le_rfl h.ttl h.max fun e he => he
    · rw [hnone] at hr
      cases hr
    · cases hr
      exact ⟨providers, order, ha⟩
  | @gatherRaises i c e providers order hi hp ha =>
    exact h.advance { c with phase := .raised e } hi rfl rfl (fun _ hr => hr)
      (fun r hr => h.assembled c (List.mem_of_getElem? hi) r hr) trivial le_rfl h.ttl h.max fun e he => he
  | @set i c response now₁ now₂ cache hi hp h₁ h₂ hs =>
    have hown : c.own = some response := by
      have := h.origin i c hi
      rwa [Origin, hp] at this
    rw [TtlCache.set_eq h.max, Except.ok.injEq] at hs
    subst hs
    obtain ⟨hlt, -⟩ := List.getElem?_eq_some_iff.mp hi
    have hadv := h.advance { c with phase := .returned response now₂ } hi rfl rfl
      (fun _ hr => hr) (fun r hr => h.assembled c (List.mem_of_getElem? hi) r hr) (.inl hown)
      (le_trans h₁ h₂) h.ttl h.max fun e he => he
    refine hadv.write ⟨i, c.kind, c.code, response, now₂⟩ le_rfl
      (List.getElem?_set_self hlt) rfl rfl hown h.ttl h.max fun key e hm => ?_
    rw [← h.ttl]
    exact (TtlCache.mem_afterSet hm).imp id And.right
  | @cancel i c hi hp =>
    exact h.advance { c with phase := .raised (.baseException "") } hi rfl rfl (fun _ hr => hr)
      (fun r hr => h.assembled c (List.mem_of_getElem? hi) r hr) trivial le_rfl h.ttl h.max fun e he => he
  | tick ht =>
    exact ⟨h.ttl, h.max, h.stored, fun wr hm => ⟨le_trans (h.written wr hm).1 ht, (h.written wr hm).2⟩,
      h.assembled, h.origin⟩

theorem inv_of_reachable {maxEntries : ℤ} (h : (serviceLTS cf st ttlS maxEntries).Reachable w) :
    Inv cf st ttlS w := by
  refine h.invariant ?_ fun _ _ _ h hs => h.step hs
  rintro w ⟨hcache, hcalls, hwrites⟩
  refine ⟨by rw [hcache]; rfl, by rw [hcache]; exact le_max_left _ _, ?_, ?_, ?_, ?_⟩ <;>
    simp [hcache, hcalls, hwrites, TtlCache.init]

/-- **A response returned at `t` was assembled by the call itself, or by a lookup of the same kind and the
same code that wrote it at most `t` and less than `ttl` before.** -/
theorem response_own_or_fresh {maxEntries : ℤ} (h : (serviceLTS cf st ttlS maxEntries).Reachable w)
    {i : ℕ} {c : LookupCall} (hi : w.calls[i]? = some c) {response : LookupResponse} {t : Time}
    (hr : c.phase = .returned response t) :
    response.query = c.code ∧ Assembled cf st c.kind c.code response ∧
      (c.own = some response ∨ ∃ wr ∈ w.writes, wr.call ≠ i ∧ wr.time ≤ t ∧ t < wr.time + ttlS ∧
        ∃ c', w.calls[wr.call]? = some c' ∧ c'.kind = c.kind ∧ c'.code = c.code ∧
          c'.own = some response) := by
  have hinv := inv_of_reachable h
  have ho := hinv.origin i c hi
  rw [Origin, hr] at ho
  rcases ho with hown | ⟨wr, hm, hne, hk, hcd, rfl, hle, hlt⟩
  · have ha := hinv.assembled c (List.mem_of_getElem? hi) _ hown
    exact ⟨ha.query, ha, .inl hown⟩
  · obtain ⟨-, c', hc', hk', hcd', hown⟩ := hinv.written wr hm
    have ha := hinv.assembled c' (List.mem_of_getElem? hc') _ hown
    rw [hk', hcd', hk, hcd] at ha
    exact ⟨ha.query, ha, .inr ⟨wr, hm, hne, hle, hlt, c', hc', hk'.trans hk, hcd'.trans hcd, hown⟩⟩

end Steps

/-- What a service without providers answers. -/
def nothingAsked (code : String) : LookupResponse := ⟨code, [], ⟨0, .low, none⟩⟩

/-- Two lookups of a service without providers: the second one is answered by the cache. -/
theorem response_own_or_fresh_hit : ∃ (w : ServiceWorld) (c : LookupCall), c.own = none ∧
    (nothingAsked "USRC17607839").query = c.code ∧
    Assembled .id ⟨true, true, true, true, true⟩ c.kind c.code (nothingAsked "USRC17607839") ∧
    (c.own = some (nothingAsked "USRC17607839") ∨
      ∃ wr ∈ w.writes, wr.call ≠ 1 ∧ wr.time ≤ 2 ∧ 2 < wr.time + 300 ∧
        ∃ c', w.calls[wr.call]? = some c' ∧ c'.kind = c.kind ∧ c'.code = c.code ∧
          c'.own = some (nothingAsked "USRC17607839")) := by
  have h0 : (serviceLTS .id ⟨true, true, true, true, true⟩ 300 512).Reachable
      ⟨0, TtlCache.init 300 512, [], []⟩ := .init ⟨rfl, rfl, rfl⟩
  have h1 := h0.step (a := ServiceEvent.call .isrc "USRC17607839") (.call _ _ _)
  have h2 := h1.step (a := ServiceEvent.call .isrc "USRC17607839") (.call _ _ _)
  have h3 := h2.step (a := ServiceEvent.get 0)
    (@ServiceStep.miss _ _ _ 0 _ 0 0 rfl rfl le_rfl le_rfl rfl)
  have h4 := h3.step (a := ServiceEvent.gather 0)
    (@ServiceStep.gather _ _ _ 0 _ (nothingAsked "USRC17607839") Dict.empty ⟨[], by decide⟩ rfl rfl rfl)
  have h5 := h4.step (a := ServiceEvent.set 0)
    (@ServiceStep.set _ _ _ 0 _ _ 1 1 _ rfl rfl zero_le_one le_rfl (TtlCache.set_eq (le_max_left _ _) ..))
  have hmem := Dict.get?_eq_some.mp (Dict.get?_set_self
    (((TtlCache.init (V := LookupResponse) 300 512).purgeExpired 0).purgeExpired 1).store
    "isrc:USRC17607839" ((1 : Time) + 300, nothingAsked "USRC17607839"))
  have h6 := h5.step (a := ServiceEvent.get 1)
    (@ServiceStep.hit _ _ _ 1 _ (nothingAsked "USRC17607839") 2 2 rfl rfl one_le_two le_rfl
      (TtlCache.get_eq_some.mpr ⟨1 + 300, hmem, by norm_num, by norm_num⟩))
  exact ⟨_, _, rfl, response_own_or_fresh h6 (i := 1) rfl rfl⟩

end LookupAggregator.LookupService
