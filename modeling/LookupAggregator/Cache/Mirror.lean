import Mathlib.Logic.Function.Basic
import LookupAggregator.Cache.Store
import LookupAggregator.Lib.Lists

/-! # A cache with room

What the cache is for, apart from its bound: a map from each key to the value last set and the time this
expires (`Mirrors`). Purging and looking up leave the cache a mirror of its map, and so does every `set` that
evicts nothing; and a mirror answers as the map does, until a value expires (`Mirrors.get_eq`). -/

namespace LookupAggregator.Cache

open LookupAggregator.Lib TtlCache

variable {V : Type}

/-- The cache holds what the map has, less what has expired at `now`, and nothing else. -/
structure Mirrors (last : String → Option (Time × V)) (now : Time) (c : TtlCache V) : Prop where
  kept : ∀ k e, last k = some e → now < e.1 → (k, e) ∈ c.store.entries
  stored : ∀ k e, (k, e) ∈ c.store.entries → last k = some e

/-- The value of a key that has not expired. -/
def unexpired (now : Time) (e : Time × V) : Option V := if now < e.1 then some e.2 else none

section Operations
variable {last : String → Option (Time × V)} {now now₁ now₂ : Time} {c : TtlCache V} {k : String}

theorem mirrors_init (ttlS : Time) (maxEntries : ℤ) (now : Time) :
    Mirrors (fun _ => none) now (init ttlS maxEntries : TtlCache V) :=
  ⟨(fun k e h => by cases h), (fun k e h => by cases h)⟩

/-- More may have expired later. -/
theorem Mirrors.later (h : Mirrors last now c) {now' : Time} (hle : now ≤ now') : Mirrors last now' c :=
  ⟨fun k e he hlt => h.kept k e he (lt_of_le_of_lt hle hlt), h.stored⟩

/-- **A mirror answers as its map does**, until the value expires. -/
theorem Mirrors.get_eq (h : Mirrors last now c) (h₁ : now ≤ now₁) (h₂ : now₁ ≤ now₂) (k : String) :
    (c.get k now₁ now₂).1 = (last k).bind (unexpired now₂) := by
  refine Option.ext fun v => ?_
  rw [get_eq_some, Option.bind_eq_some_iff]
  constructor
  · rintro ⟨exp, hm, -, hlt⟩
    exact ⟨(exp, v), h.stored k _ hm, if_pos hlt⟩
  · rintro ⟨⟨exp, v'⟩, hlast, hv⟩
    unfold unexpired at hv
    split_ifs at hv with hlt
    cases hv
    have hlt₁ : now₁ < exp := lt_of_le_of_lt h₂ hlt
    exact ⟨exp, h.kept k _ hlast (lt_of_le_of_lt h₁ hlt₁), hlt₁, hlt⟩

theorem Mirrors.get (h : Mirrors last now c) (h₁ : now ≤ now₁) (h₂ : now₁ ≤ now₂) (k : String) :
    Mirrors last now₂ (c.get k now₁ now₂).2 := by
  refine ⟨fun k' e he hlt => ?_, fun k' e hm => h.stored k' e (mem_get hm)⟩
  obtain ⟨p, hp, hkeep⟩ := get_entries c k now₁ now₂
  have hlt₁ : now₁ < e.1 := lt_of_le_of_lt h₂ hlt
  have hm := h.kept k' e he (lt_of_le_of_lt h₁ hlt₁)
  rw [hp]
  exact List.mem_filter.mpr ⟨hm, hkeep _ hm hlt₁ hlt⟩

/-- **A `set` that evicts nothing sets the map.** -/
theorem Mirrors.set (h : Mirrors last now c) (h₁ : now ≤ now₁) (h₂ : now₁ ≤ now₂) (hpops : c.pops now₁ = 0)
    (k : String) (v : V) :
    Mirrors (Function.update last k (some (now₂ + c.ttl, v))) now₂ (c.afterSet k v now₁ now₂) := by
  have hmem {k' : String} {e : Time × V} : (k', e) ∈ (c.afterSet k v now₁ now₂).store.entries ↔
      (k' = k ∧ e = (now₂ + c.ttl, v)) ∨ (k' ≠ k ∧ (k', e) ∈ c.store.entries ∧ now₁ < e.1) := by
    unfold afterSet
    rw [hpops]
    dsimp only
    rw [Dict.mem_set, Dict.entries_drop, List.drop_zero, mem_purgeExpired]
  refine ⟨fun k' e he hlt => ?_, fun k' e hm => ?_⟩
  · rw [hmem]
    by_cases hk : k' = k
    · rw [hk, Function.update_self, Option.some.injEq] at he
      exact .inl ⟨hk, he.symm⟩
    · rw [Function.update_of_ne hk] at he
      have hlt₁ : now₁ < e.1 := lt_of_le_of_lt h₂ hlt
      exact .inr ⟨hk, h.kept k' e he (lt_of_le_of_lt h₁ hlt₁), hlt₁⟩
  · rcases hmem.mp hm with ⟨rfl, rfl⟩ | ⟨hk, hm, -⟩
    · exact Function.update_self ..
    · rw [Function.update_of_ne hk]
      exact h.stored k' e hm

/-- A store below its capacity evicts nothing. -/
theorem pops_eq_zero (h : (c.store.length : ℤ) < c.max) (now₁ : Time) : c.pops now₁ = 0 := by
  have hle := length_purgeExpired_le c now₁
  unfold pops
  omega

/-- A mirror holds no more entries than its map has keys. -/
theorem Mirrors.length_le (h : Mirrors last now c) {keys : List String}
    (hkeys : ∀ k, (last k).isSome → k ∈ keys) : c.store.length ≤ keys.dedup.length := by
  rw [← Dict.length_keys]
  refine length_le_dedup c.store.nodup fun k hk => ?_
  obtain ⟨⟨k', e⟩, hm, rfl⟩ := List.mem_map.mp hk
  exact hkeys k' (by rw [h.stored k' e hm]; rfl)

end Operations

end LookupAggregator.Cache
