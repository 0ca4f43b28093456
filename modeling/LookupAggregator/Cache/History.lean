import Mathlib.Data.List.Induction
import LookupAggregator.Cache.Store

/-! # Runs of the cache

A run is a list of `get` and `set` calls with their clock readings, by any tasks. Against its history a
cache is *sound*: what it stores under a key is what the last `set` of that key wrote, with the expiry
time that write gave it (`Sound`), and it never holds more than `max(1, max_entries)` keys
(`cache_sound_and_bounded`). -/

namespace LookupAggregator.Cache

open LookupAggregator.Lib TtlCache

variable {V : Type}

/-- A call on the cache with its two clock readings. -/
inductive Op (V : Type)
  | get (key : String) (now₁ now₂ : Time)
  | set (key : String) (value : V) (now₁ now₂ : Time)

/-- One call; `get`'s answer is read off the state before it. -/
def apply (c : TtlCache V) : Op V → Except StopIteration (TtlCache V)
  | .get key now₁ now₂ => .ok (c.get key now₁ now₂).2
  | .set key value now₁ now₂ => c.set key value now₁ now₂

/-- A run from a new cache. -/
def run (ttlS : Time) (maxEntries : ℤ) (ops : List (Op V)) : Except StopIteration (TtlCache V) :=
  ops.foldlM apply (init ttlS maxEntries)

/-- The two clock readings of a call. -/
def Op.readings : Op V → List Time
  | .get _ now₁ now₂ => [now₁, now₂]
  | .set _ _ now₁ now₂ => [now₁, now₂]

/-- The clock readings of a run. -/
def readings (ops : List (Op V)) : List Time := ops.flatMap Op.readings

/-- The keys set, in order. -/
def setKeys (ops : List (Op V)) : List String := ops.filterMap fun
  | .get .. => none
  | .set key .. => some key

/-- The value the most recent `set` of `k` wrote, and when. -/
def lastSet (k : String) (ops : List (Op V)) : Option (V × Time) := ops.foldl (fun last => fun
  | .get .. => last
  | .set key value _ now₂ => if key = k then some (value, now₂) else last) none

theorem run_nil (ttlS : Time) (m : ℤ) : run (V := V) ttlS m [] = .ok (init ttlS m) := rfl

theorem run_concat (ttlS : Time) (m : ℤ) (ops : List (Op V)) (o : Op V) :
    run ttlS m (ops ++ [o]) = (run ttlS m ops).bind fun c => apply c o := by
  unfold run
  rw [List.foldlM_append]
  refine congrArg _ (funext fun c => ?_)
  simp only [List.foldlM_cons, List.foldlM_nil, bind_pure]

theorem lastSet_get (k k' : String) (ops : List (Op V)) (now₁ now₂ : Time) :
    lastSet k (ops ++ [.get k' now₁ now₂]) = lastSet k ops := by
  unfold lastSet; rw [List.foldl_concat]

theorem lastSet_set (k k' : String) (ops : List (Op V)) (v : V) (now₁ now₂ : Time) :
    lastSet k (ops ++ [.set k' v now₁ now₂]) = if k' = k then some (v, now₂) else lastSet k ops := by
  unfold lastSet; rw [List.foldl_concat]

@[simp] theorem setKeys_get (ops : List (Op V)) (k : String) (now₁ now₂ : Time) :
    setKeys (ops ++ [.get k now₁ now₂]) = setKeys ops := by simp [setKeys]

@[simp] theorem setKeys_set (ops : List (Op V)) (k : String) (v : V) (now₁ now₂ : Time) :
    setKeys (ops ++ [.set k v now₁ now₂]) = setKeys ops ++ [k] := by simp [setKeys]

/-! ### Soundness -/

/-- **The joint invariant**: the parameters, the bound, and every entry written by the last `set` of its
key. -/
structure Sound (ttlS : Time) (maxEntries : ℤ) (ops : List (Op V)) (c : TtlCache V) : Prop where
  ttl : c.ttl = ttlS
  max : c.max = Max.max 1 maxEntries
  bound : (c.store.length : ℤ) ≤ c.max
  last : ∀ k exp v, (k, (exp, v)) ∈ c.store.entries → ∃ s, lastSet k ops = some (v, s) ∧ exp = s + ttlS

variable {ttlS : Time} {maxEntries : ℤ} {ops : List (Op V)} {c : TtlCache V}

theorem Sound.one_le_max (h : Sound ttlS maxEntries ops c) : 1 ≤ c.max := by
  rw [h.max]; exact le_max_left _ _

theorem sound_init : Sound (V := V) ttlS maxEntries [] (init ttlS maxEntries) where
  ttl := rfl
  max := rfl
  bound := by simp [init]
  last := by simp [init]

theorem Sound.get (h : Sound ttlS maxEntries ops c) (k : String) (now₁ now₂ : Time) :
    Sound ttlS maxEntries (ops ++ [.get k now₁ now₂]) (c.get k now₁ now₂).2 where
  ttl := by rw [get_ttl, h.ttl]
  max := by rw [get_max, h.max]
  bound := by
    have := length_get_le c k now₁ now₂
    have := h.bound
    rw [get_max]
    omega
  last k' exp v hm := by
    rw [lastSet_get]
    exact h.last k' exp v (mem_get hm)

theorem Sound.set (h : Sound ttlS maxEntries ops c) (k : String) (v : V) (now₁ now₂ : Time) :
    Sound ttlS maxEntries (ops ++ [.set k v now₁ now₂]) (c.afterSet k v now₁ now₂) where
  ttl := h.ttl
  max := h.max
  bound := length_afterSet_le h.one_le_max k v now₁ now₂
  last k' exp v' hm := by
    rw [lastSet_set]
    rcases mem_afterSet hm with ⟨rfl, he⟩ | ⟨hne, hm⟩
    · simp only [Prod.mk.injEq] at he
      exact ⟨now₂, by rw [if_pos rfl, he.2], by rw [he.1, h.ttl]⟩
    · rw [if_neg (Ne.symm hne)]
      exact h.last k' exp v' hm

/-- **Every run succeeds, in a sound cache.** -/
theorem run_sound (ttlS : Time) (maxEntries : ℤ) (ops : List (Op V)) :
    ∃ c, run ttlS maxEntries ops = .ok c ∧ Sound ttlS maxEntries ops c := by
  induction ops using List.reverseRecOn with
  | nil => exact ⟨_, run_nil ttlS maxEntries, sound_init⟩
  | append_singleton ops o ih =>
    obtain ⟨c, hc, hs⟩ := ih
    rw [run_concat, hc]
    cases o with
    | get k now₁ now₂ => exact ⟨_, rfl, hs.get k now₁ now₂⟩
    | set k v now₁ now₂ => exact ⟨_, set_eq hs.one_le_max k v now₁ now₂, hs.set k v now₁ now₂⟩

theorem Sound.of_run (h : run ttlS maxEntries ops = .ok c) : Sound ttlS maxEntries ops c := by
  obtain ⟨c', hc', hs⟩ := run_sound ttlS maxEntries ops
  rw [h] at hc'
  cases hc'
  exact hs

/-- A `set` in a run does not raise. -/
theorem run_set (h : run ttlS maxEntries ops = .ok c) (k : String) (v : V) (now₁ now₂ : Time) :
    run ttlS maxEntries (ops ++ [.set k v now₁ now₂]) = .ok (c.afterSet k v now₁ now₂) := by
  rw [run_concat, h]
  exact set_eq (Sound.of_run h).one_le_max k v now₁ now₂

theorem run_get (h : run ttlS maxEntries ops = .ok c) (k : String) (now₁ now₂ : Time) :
    run ttlS maxEntries (ops ++ [.get k now₁ now₂]) = .ok (c.get k now₁ now₂).2 := by
  rw [run_concat, h]
  rfl

/-- What an entry of the store was written by. -/
theorem Sound.get_eq_some (h : Sound ttlS maxEntries ops c) {k : String} {now₁ now₂ : Time} {v : V}
    (hg : (c.get k now₁ now₂).1 = some v) :
    ∃ s, lastSet k ops = some (v, s) ∧ now₁ < s + ttlS ∧ now₂ < s + ttlS := by
  obtain ⟨exp, hm, h1, h2⟩ := TtlCache.get_eq_some.mp hg
  obtain ⟨s, hs, rfl⟩ := h.last k exp v hm
  exact ⟨s, hs, h1, h2⟩

/-- **The cache is sound and bounded over whole runs.** No run raises (the eviction loop ends before the
store is empty); after each the store holds at most `max(1, max_entries)` keys; and what `get` then
answers for a key is what the last `set` of that key wrote, less than `ttl` before both readings. -/
theorem cache_sound_and_bounded (ttlS : Time) (maxEntries : ℤ) (ops : List (Op V)) :
    ∃ c, run ttlS maxEntries ops = .ok c ∧ (c.store.length : ℤ) ≤ max 1 maxEntries ∧
      ∀ k now₁ now₂ v, (c.get k now₁ now₂).1 = some v →
        ∃ s, lastSet k ops = some (v, s) ∧ now₁ < s + ttlS ∧ now₂ < s + ttlS := by
  obtain ⟨c, hc, hs⟩ := run_sound ttlS maxEntries ops
  exact ⟨c, hc, hs.max ▸ hs.bound, fun k now₁ now₂ v hg => hs.get_eq_some hg⟩

end LookupAggregator.Cache
