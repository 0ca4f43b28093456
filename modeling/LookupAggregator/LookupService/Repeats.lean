import Mathlib.Tactic.NormNum
import LookupAggregator.Cache.Mirror
import LookupAggregator.LookupService.Caching

/-! # Which lookups the cache answers

`response_own_or_fresh` says where the response of a lookup comes from; this is the other direction. While
fewer than `max(1, max_entries)` keys have been written, by any calls, nothing is evicted and the cache
mirrors the last writes (`Warm`). So a lookup is answered by the last write of its kind and code as long as
this is less than `ttl` old, and asks the providers when it is not: `repeats_answered`. -/

namespace LookupAggregator.LookupService

open Lib Lib.Transition Py Normalize Cache

/-! ### The last writes -/

/-- The key a write was made under. -/
def CacheWrite.key (wr : CacheWrite) : String := cacheKey wr.kind wr.code

/-- The last write under a key. -/
def lastWrite (writes : List CacheWrite) (key : String) : Option CacheWrite :=
  writes.reverse.find? fun wr => wr.key == key

/-- What the last write under a key has stored: its response, with the time it expires. -/
def expiring (ttlS : Time) (writes : List CacheWrite) (key : String) : Option (Time × LookupResponse) :=
  (lastWrite writes key).map fun wr => (wr.time + ttlS, wr.response)

/-- The writes were made under fewer keys than the cache has places. -/
def Few (maxEntries : ℤ) (writes : List CacheWrite) : Prop :=
  ((writes.map CacheWrite.key).dedup.length : ℤ) < max 1 maxEntries

instance (maxEntries : ℤ) (writes : List CacheWrite) : Decidable (Few maxEntries writes) := by
  unfold Few; infer_instance

theorem Few.of_append {maxEntries : ℤ} {writes new : List CacheWrite} (h : Few maxEntries (writes ++ new)) :
    Few maxEntries writes := by
  unfold Few at *
  have hle : (writes.map CacheWrite.key).dedup.length ≤ ((writes ++ new).map CacheWrite.key).dedup.length :=
    length_le_dedup (List.nodup_dedup _) fun k hk => by
      rw [List.map_append]
      exact List.mem_append_left _ (List.mem_dedup.mp hk)
  omega

theorem lastWrite_mem {writes : List CacheWrite} {key : String} {wr : CacheWrite}
    (h : lastWrite writes key = some wr) : wr ∈ writes ∧ wr.key = key := by
  unfold lastWrite at h
  exact ⟨List.mem_reverse.mp (List.mem_of_find?_eq_some h), by simpa using List.find?_some h⟩

theorem key_mem_of_expiring {ttlS : Time} {writes : List CacheWrite} (key : String)
    (h : (expiring ttlS writes key).isSome) : key ∈ writes.map CacheWrite.key := by
  unfold expiring at h
  rw [Option.isSome_map] at h
  obtain ⟨wr, hwr⟩ := Option.isSome_iff_exists.mp h
  obtain ⟨hm, hkey⟩ := lastWrite_mem hwr
  exact List.mem_map.mpr ⟨wr, hm, hkey⟩

/-- One more write is the last one under its key, and under no other. -/
theorem expiring_append (ttlS : Time) (writes : List CacheWrite) (wr : CacheWrite) :
    expiring ttlS (writes ++ [wr]) =
      Function.update (expiring ttlS writes) wr.key (some (wr.time + ttlS, wr.response)) := by
  funext key
  unfold expiring lastWrite
  rw [List.reverse_append, List.reverse_singleton, List.singleton_append]
  by_cases hk : key = wr.key
  · rw [hk, Function.update_self, List.find?_cons_of_pos (by simp)]
    rfl
  · rw [Function.update_of_ne hk, List.find?_cons_of_neg (by simpa using Ne.symm hk)]

/-! ### The invariant -/

/-- The cache mirrors the last writes, while they are few. -/
structure Warm (ttlS : Time) (maxEntries : ℤ) (w : ServiceWorld) : Prop where
  ttl : w.cache.ttl = ttlS
  max : w.cache.max = Max.max 1 maxEntries
  mirrors : Few maxEntries w.writes → Mirrors (expiring ttlS w.writes) w.now w.cache

section Steps
variable {cf : CaseFolding} {st : ProviderSettings} {ttlS : Time} {maxEntries : ℤ} {w w' : ServiceWorld}

/-- Asking the cache. -/
theorem Warm.get (h : Warm ttlS maxEntries w) {now₁ now₂ : Time} (h₁ : w.now ≤ now₁) (h₂ : now₁ ≤ now₂)
    (key : String) (calls : List LookupCall) :
    Warm ttlS maxEntries { w with now := now₂, cache := (w.cache.get key now₁ now₂).2, calls := calls } :=
  ⟨(TtlCache.get_ttl ..).trans h.ttl, (TtlCache.get_max ..).trans h.max,
    fun hfew => (h.mirrors hfew).get h₁ h₂ key⟩

/-- **Writing to the cache** evicts nothing while the writes so far are few. -/
theorem Warm.set (h : Warm ttlS maxEntries w) (wr : CacheWrite) {now₁ : Time} (h₁ : w.now ≤ now₁)
    (h₂ : now₁ ≤ wr.time) (calls : List LookupCall) :
    Warm ttlS maxEntries { w with
      now := wr.time
      cache := w.cache.afterSet wr.key wr.response now₁ wr.time
      calls := calls
      writes := w.writes ++ [wr] } := by
  refine ⟨h.ttl, h.max, fun hfew => ?_⟩
  have hm := h.mirrors hfew.of_append
  have hlen := hm.length_le key_mem_of_expiring
  have hroom : (w.cache.store.length : ℤ) < w.cache.max := by
    have hlt := hfew.of_append
    unfold Few at hlt
    rw [h.max]
    omega
  have hset := hm.set h₁ h₂ (pops_eq_zero hroom now₁) wr.key wr.response
  rw [h.ttl] at hset
  dsimp only
  rw [expiring_append]
  exact hset

/-- **Every step keeps the invariant.** -/
theorem Warm.step {e : ServiceEvent} (h : Warm ttlS maxEntries w) (hs : ServiceStep cf st w e w') :
    Warm ttlS maxEntries w' := by
  cases hs with
  | call kind code => exact ⟨h.ttl, h.max, h.mirrors⟩
  | hit hi hp h₁ h₂ hg => exact h.get h₁ h₂ _ _
  | miss hi hp h₁ h₂ hg => exact h.get h₁ h₂ _ _
  | gather hi hp ha => exact ⟨h.ttl, h.max, h.mirrors⟩
  | gatherRaises hi hp ha => exact ⟨h.ttl, h.max, h.mirrors⟩
  | @set i c response now₁ now₂ cache hi hp h₁ h₂ hs =>
    rw [TtlCache.set_eq (h.max ▸ le_max_left _ _), Except.ok.injEq] at hs
    subst hs
    exact h.set ⟨i, c.kind, c.code, response, now₂⟩ h₁ h₂ _
  | cancel hi hp => exact ⟨h.ttl, h.max, h.mirrors⟩
  | tick ht => exact ⟨h.ttl, h.max, fun hfew => (h.mirrors hfew).later ht⟩

theorem warm_of_reachable (h : (serviceLTS cf st ttlS maxEntries).Reachable w) : Warm ttlS maxEntries w := by
  refine h.invariant ?_ fun _ _ _ h hs => h.step hs
  rintro w ⟨hcache, -, hwrites⟩
  refine ⟨by rw [hcache]; rfl, by rw [hcache]; rfl, fun _ => ?_⟩
  rw [hcache, hwrites]
  exact mirrors_init ..

/-- **While fewer keys have been written than the cache has places, a lookup is answered by the last write
of its kind and code exactly as long as this has not expired**, and asks the providers otherwise. -/
theorem repeats_answered (h : (serviceLTS cf st ttlS maxEntries).Reachable w) (hfew : Few maxEntries w.writes)
    {i : ℕ} {c : LookupCall} (hi : w.calls[i]? = some c) (hs : ServiceStep cf st w (.get i) w') :
    (∃ wr, lastWrite w.writes (cacheKey c.kind c.code) = some wr ∧ w'.now < wr.time + ttlS ∧
        w'.calls[i]? = some { c with phase := .returned wr.response w'.now }) ∨
      ((∀ wr, lastWrite w.writes (cacheKey c.kind c.code) = some wr → wr.time + ttlS ≤ w'.now) ∧
        w'.calls[i]? = some { c with phase := .missed }) := by
  have hm := (warm_of_reachable h).mirrors hfew
  obtain ⟨hlt, -⟩ := List.getElem?_eq_some_iff.mp hi
  cases hs with
  | @hit i c' response now₁ now₂ hi' hp h₁ h₂ hg =>
    obtain rfl : c' = c := Option.some.inj (hi'.symm.trans hi)
    rw [hm.get_eq h₁ h₂, Option.bind_eq_some_iff] at hg
    obtain ⟨e, he, hv⟩ := hg
    unfold expiring at he
    obtain ⟨wr, hwr, rfl⟩ := Option.map_eq_some_iff.mp he
    unfold unexpired at hv
    split_ifs at hv with hexp
    cases hv
    exact .inl ⟨wr, hwr, hexp, List.getElem?_set_self hlt⟩
  | @miss i c' now₁ now₂ hi' hp h₁ h₂ hg =>
    obtain rfl : c' = c := Option.some.inj (hi'.symm.trans hi)
    refine .inr ⟨fun wr hwr => ?_, List.getElem?_set_self hlt⟩
    rw [hm.get_eq h₁ h₂, expiring, hwr] at hg
    by_contra hexp
    rw [Option.map_some, Option.bind_some, unexpired, if_pos (not_le.mp hexp)] at hg
    cases hg

end Steps

/-- A lookup repeated two seconds after its response was written, in a service without providers. -/
theorem repeats_answered_again : ∃ w w' : ServiceWorld, ∃ c : LookupCall, c.code = "USRC17607839" ∧
    ((∃ wr, lastWrite w.writes (cacheKey c.kind c.code) = some wr ∧ w'.now < wr.time + 300 ∧
        w'.calls[1]? = some { c with phase := .returned wr.response w'.now }) ∨
      ((∀ wr, lastWrite w.writes (cacheKey c.kind c.code) = some wr → wr.time + 300 ≤ w'.now) ∧
        w'.calls[1]? = some { c with phase := .missed })) := by
  have h0 : (serviceLTS .id ⟨true, true, true, true, true⟩ 300 512).Reachable
      ⟨0, TtlCache.init 300 512, [], []⟩ := .init ⟨rfl, rfl, rfl⟩
  have h1 := h0.step (a := ServiceEvent.call .isrc "USRC17607839") (.call _ _ _)
  have h2 := h1.step (a := ServiceEvent.get 0)
    (@ServiceStep.miss _ _ _ 0 _ 0 0 rfl rfl le_rfl le_rfl rfl)
  have h3 := h2.step (a := ServiceEvent.gather 0)
    (@ServiceStep.gather _ _ _ 0 _ (nothingAsked "USRC17607839") Dict.empty ⟨[], by decide⟩ rfl rfl rfl)
  have h4 := h3.step (a := ServiceEvent.set 0)
    (@ServiceStep.set _ _ _ 0 _ _ 0 0 _ rfl rfl le_rfl le_rfl (TtlCache.set_eq (le_max_left _ _) ..))
  have h5 := h4.step (a := ServiceEvent.call .isrc "USRC17607839") (.call _ _ _)
  have hmem := Dict.get?_eq_some.mp (Dict.get?_set_self
    (((TtlCache.init (V := LookupResponse) 300 512).purgeExpired 0).purgeExpired 0).store
    "isrc:USRC17607839" ((0 : Time) + 300, nothingAsked "USRC17607839"))
  exact ⟨_, _, _, rfl, repeats_answered h5 (by decide) rfl
    (@ServiceStep.hit _ _ _ 1 _ (nothingAsked "USRC17607839") 2 2 rfl rfl zero_le_two le_rfl
      (TtlCache.get_eq_some.mpr ⟨0 + 300, hmem, by norm_num, by norm_num⟩))⟩

end LookupAggregator.LookupService
