import Mathlib.Data.List.Basic
import Mathlib.Tactic.Ring

/-! # Pools of counting semaphores

A pool is the list of all semaphores created so far, a semaphore being named by its index; `held` lists,
for each task, the semaphore it holds a permit of. A pool is *balanced* when for every semaphore the free
permits and the held ones add up to the limit it was created with. Acquiring a free permit, giving a
permit back to the semaphore it came from, creating a semaphore and starting a task keep the balance, so
that a semaphore never has more holders than its limit (`Balanced.count_le`). -/

namespace LookupAggregator.Lib

/-- A counting semaphore: `limit` permits at its creation, `value` of them free. -/
structure Sem where
  limit : ℕ
  value : ℕ
deriving DecidableEq, Repr

namespace Sem

/-- Take a permit of semaphore `s`, if one is free. -/
def acquire (sems : List Sem) (s : ℕ) : Option (List Sem) :=
  match sems[s]? with
  | some sem => if 0 < sem.value then some (sems.set s { sem with value := sem.value - 1 }) else none
  | none => none

/-- Add a permit to semaphore `s`. -/
def release (sems : List Sem) (s : ℕ) : List Sem :=
  sems.modify s fun sem => { sem with value := sem.value + 1 }

/-- Free and held permits add up, and only existing semaphores are held. -/
structure Balanced (sems : List Sem) (held : List (Option ℕ)) : Prop where
  sum : ∀ s sem, sems[s]? = some sem → sem.value + held.count (some s) = sem.limit
  scope : ∀ s, some s ∈ held → s < sems.length

theorem acquire_eq_some {sems sems' : List Sem} {s : ℕ} :
    acquire sems s = some sems' ↔ ∃ sem, sems[s]? = some sem ∧ 0 < sem.value ∧
      sems' = sems.set s { sem with value := sem.value - 1 } := by
  unfold acquire
  split
  · next sem h => by_cases hv : 0 < sem.value <;> simp [h, hv, eq_comm]
  · next h => simp [h]

theorem length_acquire {sems sems' : List Sem} {s : ℕ} (h : acquire sems s = some sems') :
    sems'.length = sems.length := by
  obtain ⟨sem, -, -, rfl⟩ := acquire_eq_some.mp h
  simp

theorem map_limit_acquire {sems sems' : List Sem} {s : ℕ} (h : acquire sems s = some sems') :
    sems'.map limit = sems.map limit := by
  obtain ⟨sem, hs, -, rfl⟩ := acquire_eq_some.mp h
  have hl : (sems.map limit)[s]? = some sem.limit := by rw [List.getElem?_map, hs]; rfl
  obtain ⟨hlt, he⟩ := List.getElem?_eq_some_iff.mp hl
  rw [List.map_set, ← he, List.set_getElem_self]

theorem map_limit_release (sems : List Sem) (s : ℕ) : (release sems s).map limit = sems.map limit := by
  unfold release
  apply List.ext_getElem? fun i => ?_
  rw [List.getElem?_map, List.getElem?_modify, List.getElem?_map]
  cases sems[i]? <;> simp [apply_ite]

@[simp] theorem length_release (sems : List Sem) (s : ℕ) : (release sems s).length = sems.length := by
  simp [release]

theorem getElem?_release_self {sems : List Sem} {s : ℕ} {sem : Sem} (h : sems[s]? = some sem) :
    (release sems s)[s]? = some { sem with value := sem.value + 1 } := by
  unfold release; rw [List.getElem?_modify, h]; simp

theorem getElem?_release_ne (sems : List Sem) {s s' : ℕ} (h : s ≠ s') :
    (release sems s)[s']? = sems[s']? := by
  unfold release; rw [List.getElem?_modify]; simp [h]

/-- Giving a permit to another semaphore is seen. -/
theorem release_inj {sems : List Sem} {s s' : ℕ} (hs : s < sems.length)
    (h : release sems s' = release sems s) : s' = s := by
  by_contra hne
  have h1 := getElem?_release_self (List.getElem?_eq_getElem hs)
  rw [← h, getElem?_release_ne sems hne, List.getElem?_eq_getElem hs, Option.some.injEq] at h1
  have := congrArg Sem.value h1
  simp at this

/-- Changing one entry of a list changes the count of a value by what enters less what leaves. -/
theorem count_set_add {l : List (Option ℕ)} {i : ℕ} {x : Option ℕ} (h : l[i]? = some x)
    (y b : Option ℕ) :
    (l.set i y).count b + (if x = b then 1 else 0) = l.count b + if y = b then 1 else 0 := by
  obtain ⟨hi, rfl⟩ := List.getElem?_eq_some_iff.mp h
  rw [List.count_set hi]
  by_cases hb : l[i] = b
  · have hpos : 0 < l.count b := List.count_pos_iff.mpr (hb ▸ List.getElem_mem hi)
    simp only [hb, beq_self_eq_true, if_true, beq_iff_eq]
    omega
  · simp [hb]

namespace Balanced

variable {sems sems' : List Sem} {held : List (Option ℕ)} {i s : ℕ}

theorem nil : Balanced [] [] := ⟨by simp, by simp⟩

/-- **A semaphore has at most its limit of holders.** -/
theorem count_le (h : Balanced sems held) {sem : Sem} (hs : sems[s]? = some sem) :
    held.count (some s) ≤ sem.limit := by
  have := h.sum s sem hs
  omega

theorem spawn (h : Balanced sems held) : Balanced sems (held ++ [none]) where
  sum s sem hs := by
    have := h.sum s sem hs
    simpa using this
  scope s hs := h.scope s (by simpa using hs)

theorem create (h : Balanced sems held) (n : ℕ) : Balanced (sems ++ [⟨n, n⟩]) held where
  sum s sem hs := by
    rcases Nat.lt_trichotomy s sems.length with hlt | rfl | hgt
    · exact h.sum s sem (by rwa [List.getElem?_append_left hlt] at hs)
    · have hnot : some sems.length ∉ held := fun hm => absurd (h.scope _ hm) (lt_irrefl _)
      rw [List.getElem?_concat_length, Option.some.injEq] at hs
      subst hs
      simp [List.count_eq_zero_of_not_mem hnot]
    · rw [List.getElem?_eq_none (by simp; omega)] at hs
      cases hs
  scope s hs := by
    have := h.scope s hs
    simp only [List.length_append, List.length_singleton]
    omega

theorem mem_set_of_mem {x y : Option ℕ} (hm : x ∈ held.set i y) : x = y ∨ x ∈ held :=
  (List.mem_or_eq_of_mem_set hm).symm

theorem acquire (h : Balanced sems held) (hi : held[i]? = some none)
    (ha : Sem.acquire sems s = some sems') : Balanced sems' (held.set i (some s)) := by
  obtain ⟨sem, hs, hpos, rfl⟩ := acquire_eq_some.mp ha
  obtain ⟨hlt, -⟩ := List.getElem?_eq_some_iff.mp hs
  refine ⟨fun s' sem' hs' => ?_, fun s' hm => ?_⟩
  · have hc := count_set_add hi (some s) (some s')
    simp only [reduceCtorEq, if_false, Option.some.injEq, add_zero] at hc
    rw [hc]
    by_cases he : s = s'
    · subst he
      rw [List.getElem?_set_self hlt, Option.some.injEq] at hs'
      have := h.sum s sem hs
      subst hs'
      simp only [if_true]
      omega
    · rw [List.getElem?_set_ne he] at hs'
      simpa [he] using h.sum s' sem' hs'
  · rw [List.length_set]
    rcases mem_set_of_mem hm with he | hm
    · cases he; exact hlt
    · exact h.scope s' hm

theorem release (h : Balanced sems held) (hi : held[i]? = some (some s)) :
    Balanced (Sem.release sems s) (held.set i none) := by
  refine ⟨fun s' sem' hs' => ?_, fun s' hm => ?_⟩
  · have hc := count_set_add hi none (some s')
    simp only [Option.some.injEq, reduceCtorEq, if_false, add_zero] at hc
    by_cases he : s = s'
    · subst he
      have hlt := h.scope s (List.mem_of_getElem? hi)
      rw [getElem?_release_self (List.getElem?_eq_getElem hlt), Option.some.injEq] at hs'
      have := h.sum s _ (List.getElem?_eq_getElem hlt)
      rw [if_pos rfl] at hc
      subst hs'
      simp only
      omega
    · rw [if_neg he] at hc
      rw [getElem?_release_ne sems he] at hs'
      have := h.sum s' sem' hs'
      omega
  · rw [length_release]
    rcases mem_set_of_mem hm with he | hm
    · cases he
    · exact h.scope s' hm

end Balanced

end Sem

end LookupAggregator.Lib
