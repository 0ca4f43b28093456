import LookupAggregator.Clock
import LookupAggregator.Lib.Dict

/-! # The TTL cache

`TtlCache` keeps its entries in a Python dictionary, each with the time it expires. `get` and `set` run
under a lock and await nothing inside it, so each is one step; each reads the clock twice, first to purge
the expired entries and then for its own entry.

* `purgeExpired` removes what has expired;
* `evictLoop` counts the pops of `set`'s loop, which would raise `StopIteration` on an empty store;
* `get`, `set`: the two operations, and what each leaves in the store (`mem_get`, `set_eq`). -/

namespace LookupAggregator.Cache

open LookupAggregator.Lib

/-- What `next(iter({}))` raises. -/
inductive StopIteration
  | stopIteration
deriving DecidableEq

/-- `TtlCache`: `_ttl`, `_max` and `_store`, where a key has its expiry time and its value. -/
structure TtlCache (V : Type) where
  ttl : Time
  max : ℤ
  store : Dict String (Time × V)

variable {V : Type}

namespace TtlCache

/-- `TtlCache(ttl_s, max_entries)`. -/
def init (ttlS : Time) (maxEntries : ℤ) : TtlCache V := ⟨ttlS, Max.max 1 maxEntries, Dict.empty⟩

/-- `_purge_expired_unlocked`, at the reading `now`. -/
def purgeExpired (c : TtlCache V) (now : Time) : TtlCache V :=
  { c with store := c.store.filter fun e => !decide (e.2.1 ≤ now) }

/-- `get(key)`: `now₁` is the reading of the purge, `now₂` that of the expiry test. -/
def get (c : TtlCache V) (key : String) (now₁ now₂ : Time) : Option V × TtlCache V :=
  let c := c.purgeExpired now₁
  match c.store.get? key with
  | none => (none, c)
  | some (exp, val) =>
    if exp ≤ now₂ then (none, { c with store := c.store.erase key })
    else (some val, c)

/-- The loop `while len(self._store) >= self._max: self._store.pop(next(iter(self._store)))`, over the
entries from the oldest on: the number of pops. -/
def evictLoop (max : ℤ) : List (String × (Time × V)) → Except StopIteration ℕ
  | [] => if (0 : ℤ) ≥ max then .error .stopIteration else .ok 0
  | e :: l => if ((e :: l).length : ℤ) ≥ max then (evictLoop max l).map (· + 1) else .ok 0

/-- `set(key, value)`: `now₁` is the reading of the purge, `now₂` the one the expiry is counted from. -/
def set (c : TtlCache V) (key : String) (value : V) (now₁ now₂ : Time) :
    Except StopIteration (TtlCache V) := do
  let c := c.purgeExpired now₁
  let pops ← evictLoop c.max c.store.entries
  return { c with store := (c.store.drop pops).set key (now₂ + c.ttl, value) }

/-! ### What an operation leaves in the store -/

@[simp] theorem max_purgeExpired (c : TtlCache V) (now : Time) : (c.purgeExpired now).max = c.max := rfl

theorem mem_purgeExpired {c : TtlCache V} {now : Time} {e : String × (Time × V)} :
    e ∈ (c.purgeExpired now).store.entries ↔ e ∈ c.store.entries ∧ now < e.2.1 := by
  simp [purgeExpired]

theorem length_purgeExpired_le (c : TtlCache V) (now : Time) :
    (c.purgeExpired now).store.length ≤ c.store.length := Dict.length_filter_le _ _

theorem get_max (c : TtlCache V) (k : String) (now₁ now₂ : Time) :
    (c.get k now₁ now₂).2.max = c.max := by
  unfold get; dsimp only; split
  · rfl
  · split_ifs <;> rfl

theorem get_ttl (c : TtlCache V) (k : String) (now₁ now₂ : Time) :
    (c.get k now₁ now₂).2.ttl = c.ttl := by
  unfold get; dsimp only; split
  · rfl
  · split_ifs <;> rfl

/-- **What `get` answers**: the value of an entry that neither reading finds expired. -/
theorem get_eq_some {c : TtlCache V} {k : String} {now₁ now₂ : Time} {v : V} :
    (c.get k now₁ now₂).1 = some v ↔
      ∃ exp, (k, (exp, v)) ∈ c.store.entries ∧ now₁ < exp ∧ now₂ < exp := by
  unfold get
  dsimp only
  split
  · next h =>
    simp only [reduceCtorEq, false_iff, not_exists, not_and]
    intro exp hm hlt
    have := Dict.get?_eq_some.mpr (mem_purgeExpired.mpr ⟨hm, hlt⟩)
    rw [h] at this
    cases this
  · next exp val h =>
    obtain ⟨hm, hlt⟩ := mem_purgeExpired.mp (Dict.get?_eq_some.mp h)
    split_ifs with hexp
    · simp only [false_iff, not_exists, not_and, not_lt]
      intro exp' hm' _
      have := Dict.value_unique hm hm'
      simp only [Prod.mk.injEq] at this
      rw [← this.1]; exact hexp
    · simp only [Option.some.injEq]
      constructor
      · rintro rfl
        exact ⟨exp, hm, hlt, not_le.mp hexp⟩
      · rintro ⟨exp', hm', -, -⟩
        have := Dict.value_unique hm hm'
        simp only [Prod.mk.injEq] at this
        exact this.2

/-- `get` only removes entries, and only expired ones. -/
theorem get_entries (c : TtlCache V) (k : String) (now₁ now₂ : Time) :
    ∃ p : String × (Time × V) → Bool, (c.get k now₁ now₂).2.store.entries = c.store.entries.filter p ∧
      ∀ e ∈ c.store.entries, now₁ < e.2.1 → now₂ < e.2.1 → p e = true := by
  unfold get
  dsimp only
  split
  · exact ⟨_, rfl, fun e _ h _ => by simpa using h⟩
  · next exp val h =>
    split_ifs with hexp
    · refine ⟨_, List.filter_filter, fun e he h1 h2 => ?_⟩
      -- the erased entry is the one found expired
      obtain ⟨k', exp', val'⟩ := e
      have hne : k' ≠ k := by
        rintro rfl
        have := Dict.value_unique (mem_purgeExpired.mp (Dict.get?_eq_some.mp h)).1 he
        simp only [Prod.mk.injEq] at this
        rw [this.1] at hexp
        exact absurd h2 (not_lt.mpr hexp)
      simpa [hne] using h1
    · exact ⟨_, rfl, fun e _ h _ => by simpa using h⟩

theorem length_get_le (c : TtlCache V) (k : String) (now₁ now₂ : Time) :
    (c.get k now₁ now₂).2.store.length ≤ c.store.length := by
  obtain ⟨p, hp, -⟩ := get_entries c k now₁ now₂
  unfold Dict.length
  rw [hp]
  exact List.length_filter_le _ _

theorem mem_get {c : TtlCache V} {k : String} {now₁ now₂ : Time} {e : String × (Time × V)}
    (h : e ∈ (c.get k now₁ now₂).2.store.entries) : e ∈ c.store.entries := by
  obtain ⟨p, hp, -⟩ := get_entries c k now₁ now₂
  rw [hp] at h
  exact List.mem_of_mem_filter h

/-- **The eviction loop pops until one place is free**, and never from an empty store. -/
theorem evictLoop_eq {max : ℤ} (hmax : 1 ≤ max) (l : List (String × (Time × V))) :
    evictLoop max l = .ok (l.length + 1 - max.toNat) := by
  induction l with
  | nil =>
    unfold evictLoop
    rw [if_neg (by omega)]
    simp only [List.length_nil, Except.ok.injEq]
    omega
  | cons e l ih =>
    unfold evictLoop
    split_ifs with h
    · rw [ih]
      simp only [List.length_cons, Except.map, Except.ok.injEq] at h ⊢
      push_cast at h
      omega
    · simp only [List.length_cons, Except.ok.injEq] at h ⊢
      push_cast at h
      omega

/-- How many entries `set` evicts. -/
def pops (c : TtlCache V) (now₁ : Time) : ℕ :=
  (c.purgeExpired now₁).store.length + 1 - c.max.toNat

/-- The cache after a `set`. -/
def afterSet (c : TtlCache V) (key : String) (value : V) (now₁ now₂ : Time) : TtlCache V :=
  { c with store :=
    ((c.purgeExpired now₁).store.drop (c.pops now₁)).set key (now₂ + c.ttl, value) }

/-- **`set` never raises.** -/
theorem set_eq {c : TtlCache V} (hmax : 1 ≤ c.max) (key : String) (value : V) (now₁ now₂ : Time) :
    c.set key value now₁ now₂ = .ok (c.afterSet key value now₁ now₂) := by
  unfold set
  dsimp only
  rw [max_purgeExpired, evictLoop_eq hmax]
  rfl

theorem length_afterSet_le {c : TtlCache V} (hmax : 1 ≤ c.max) (key : String) (value : V)
    (now₁ now₂ : Time) : ((c.afterSet key value now₁ now₂).store.length : ℤ) ≤ c.max := by
  have := Dict.length_set_le ((c.purgeExpired now₁).store.drop (c.pops now₁)) key
    (now₂ + c.ttl, value)
  rw [Dict.length_drop] at this
  unfold afterSet pops at *
  dsimp only at this ⊢
  omega

/-- The new entry, or one that was there under another key. -/
theorem mem_afterSet {c : TtlCache V} {key k : String} {value : V} {now₁ now₂ : Time} {e : Time × V}
    (h : (k, e) ∈ (c.afterSet key value now₁ now₂).store.entries) :
    (k = key ∧ e = (now₂ + c.ttl, value)) ∨ (k ≠ key ∧ (k, e) ∈ c.store.entries) := by
  rcases Dict.mem_set.mp h with h | ⟨hne, h⟩
  · exact Or.inl h
  · rw [Dict.entries_drop] at h
    exact Or.inr ⟨hne, (mem_purgeExpired.mp (List.mem_of_mem_drop h)).1⟩

end TtlCache

end LookupAggregator.Cache
