import Mathlib.Data.List.Dedup
import Mathlib.Data.List.Lemmas

/-! # Insertion-ordered dictionaries

A dictionary is the list of its entries, oldest first, with no key twice. Writing a key that is present
replaces its value and leaves it where it stands; writing a new key appends it. An entry therefore stands
where its key was *first* written since it was last removed, which is what makes "the oldest entry" of
such a dictionary differ from "the entry written longest ago". -/

namespace LookupAggregator.Lib

variable {K V : Type*}

/-- An insertion-ordered dictionary. -/
structure Dict (K V : Type*) where
  entries : List (K × V)
  nodup : (entries.map Prod.fst).Nodup

namespace Dict

/-- The keys, oldest first. -/
def keys (d : Dict K V) : List K := d.entries.map Prod.fst

/-- The number of entries. -/
def length (d : Dict K V) : ℕ := d.entries.length

/-- The empty dictionary. -/
def empty : Dict K V := ⟨[], by simp⟩

theorem nodup_sublist {l l' : List (K × V)} (h : (l.map Prod.fst).Nodup) (hs : l'.Sublist l) :
    (l'.map Prod.fst).Nodup := h.sublist (hs.map _)

/-- The entries that satisfy `p`. -/
def filter (p : K × V → Bool) (d : Dict K V) : Dict K V :=
  ⟨d.entries.filter p, nodup_sublist d.nodup List.filter_sublist⟩

/-- All entries but the `n` oldest. -/
def drop (n : ℕ) (d : Dict K V) : Dict K V :=
  ⟨d.entries.drop n, nodup_sublist d.nodup (List.drop_sublist n _)⟩

@[simp] theorem entries_empty : (empty : Dict K V).entries = [] := rfl
@[simp] theorem keys_empty : (empty : Dict K V).keys = [] := rfl
@[simp] theorem length_empty : (empty : Dict K V).length = 0 := rfl
@[simp] theorem length_keys (d : Dict K V) : d.keys.length = d.length := by simp [keys, length]

@[simp] theorem entries_filter (p : K × V → Bool) (d : Dict K V) :
    (d.filter p).entries = d.entries.filter p := rfl

@[simp] theorem entries_drop (n : ℕ) (d : Dict K V) : (d.drop n).entries = d.entries.drop n := rfl

theorem length_filter_le (p : K × V → Bool) (d : Dict K V) : (d.filter p).length ≤ d.length :=
  List.length_filter_le _ _

@[simp] theorem length_drop (n : ℕ) (d : Dict K V) : (d.drop n).length = d.length - n :=
  List.length_drop

/-- Two entries of one key are one entry. -/
theorem value_unique {d : Dict K V} {k : K} {v v' : V} (h : (k, v) ∈ d.entries)
    (h' : (k, v') ∈ d.entries) : v = v' := by
  have := List.inj_on_of_nodup_map d.nodup h h' rfl
  simpa using this

section DecEq
variable [DecidableEq K]

/-! ### Reading -/

/-- The value of a key. -/
def get? (d : Dict K V) (k : K) : Option V := d.entries.lookup k

theorem lookup_eq_some {l : List (K × V)} (h : (l.map Prod.fst).Nodup) {k : K} {v : V} :
    l.lookup k = some v ↔ (k, v) ∈ l := by
  induction l with
  | nil => simp
  | cons e l ih =>
    obtain ⟨k', v'⟩ := e
    simp only [List.map_cons, List.nodup_cons, List.mem_map, not_exists, not_and] at h
    by_cases hk : k = k'
    · subst hk
      have hnot : (k, v) ∉ l := fun hm => h.1 _ hm rfl
      simp [hnot, eq_comm]
    · have hb : (k == k') = false := by simpa using hk
      simp [List.lookup_cons, hb, hk, ih h.2]

theorem get?_eq_some {d : Dict K V} {k : K} {v : V} : d.get? k = some v ↔ (k, v) ∈ d.entries :=
  lookup_eq_some d.nodup

@[simp] theorem get?_empty (k : K) : (empty : Dict K V).get? k = none := rfl

/-! ### Writing -/

/-- Replace the value of `k` where it stands, or append it. -/
def setEntries (k : K) (v : V) : List (K × V) → List (K × V)
  | [] => [(k, v)]
  | (k', v') :: l => if k' = k then (k, v) :: l else (k', v') :: setEntries k v l

theorem keys_setEntries (k : K) (v : V) (l : List (K × V)) :
    (setEntries k v l).map Prod.fst =
      if k ∈ l.map Prod.fst then l.map Prod.fst else l.map Prod.fst ++ [k] := by
  induction l with
  | nil => simp [setEntries]
  | cons e l ih =>
    obtain ⟨k', v'⟩ := e
    unfold setEntries
    by_cases hk : k' = k
    · simp [hk]
    · rw [if_neg hk, List.map_cons, ih]
      by_cases hm : k ∈ l.map Prod.fst
      · simp [hm]
      · simp [hm, Ne.symm hk]

/-- `d[k] = v`. -/
def set (d : Dict K V) (k : K) (v : V) : Dict K V where
  entries := setEntries k v d.entries
  nodup := by
    rw [keys_setEntries]
    split_ifs with h
    · exact d.nodup
    · exact List.Nodup.append d.nodup (by simp) (by simpa using h)

theorem keys_set (d : Dict K V) (k : K) (v : V) :
    (d.set k v).keys = if k ∈ d.keys then d.keys else d.keys ++ [k] := keys_setEntries k v d.entries

theorem setEntries_of_notMem {k : K} {v : V} {l : List (K × V)} (h : k ∉ l.map Prod.fst) :
    setEntries k v l = l ++ [(k, v)] := by
  induction l with
  | nil => rfl
  | cons e l ih =>
    obtain ⟨k', v'⟩ := e
    simp only [List.map_cons, List.mem_cons, not_or] at h
    simp [setEntries, Ne.symm h.1, ih h.2]

theorem entries_set_of_notMem {d : Dict K V} {k : K} (h : k ∉ d.keys) (v : V) :
    (d.set k v).entries = d.entries ++ [(k, v)] := setEntries_of_notMem h

/-- Writing a key past a segment that does not have it. -/
theorem setEntries_append {k : K} {v : V} {l l' : List (K × V)} (h : k ∉ l.map Prod.fst) :
    setEntries k v (l ++ l') = l ++ setEntries k v l' := by
  induction l with
  | nil => rfl
  | cons e l ih =>
    obtain ⟨k', v'⟩ := e
    simp only [List.map_cons, List.mem_cons, not_or] at h
    simp [setEntries, Ne.symm h.1, ih h.2]

theorem mem_setEntries {k k' : K} {v v' : V} {l : List (K × V)} (h : (l.map Prod.fst).Nodup) :
    (k', v') ∈ setEntries k v l ↔ (k' = k ∧ v' = v) ∨ (k' ≠ k ∧ (k', v') ∈ l) := by
  induction l with
  | nil => simp [setEntries]
  | cons e l ih =>
    obtain ⟨k'', v''⟩ := e
    simp only [List.map_cons, List.nodup_cons, List.mem_map, not_exists, not_and] at h
    unfold setEntries
    by_cases hk : k'' = k
    · subst hk
      have hnot : (k', v') ∈ l → k' ≠ k'' := fun hm he => h.1 _ hm he
      simp only [if_true, List.mem_cons, Prod.mk.injEq]
      tauto
    · simp only [if_neg hk, List.mem_cons, Prod.mk.injEq, ih h.2]
      constructor
      · rintro (⟨rfl, rfl⟩ | h | ⟨h1, h2⟩)
        · exact Or.inr ⟨hk, Or.inl ⟨rfl, rfl⟩⟩
        · exact Or.inl h
        · exact Or.inr ⟨h1, Or.inr h2⟩
      · tauto

/-- **The entries after a write.** -/
theorem mem_set {d : Dict K V} {k k' : K} {v v' : V} :
    (k', v') ∈ (d.set k v).entries ↔ (k' = k ∧ v' = v) ∨ (k' ≠ k ∧ (k', v') ∈ d.entries) :=
  mem_setEntries d.nodup

theorem get?_set_self (d : Dict K V) (k : K) (v : V) : (d.set k v).get? k = some v :=
  get?_eq_some.mpr (mem_set.mpr (Or.inl ⟨rfl, rfl⟩))

theorem get?_set_of_ne (d : Dict K V) {k k' : K} (h : k' ≠ k) (v : V) :
    (d.set k v).get? k' = d.get? k' := by
  refine Option.ext fun w => ?_
  rw [get?_eq_some, get?_eq_some, mem_set]
  tauto

theorem length_set_le (d : Dict K V) (k : K) (v : V) : (d.set k v).length ≤ d.length + 1 := by
  rw [← length_keys, ← length_keys, keys_set]
  split_ifs <;> simp

/-- Assigns the pairs in turn. -/
def ofList (pairs : List (K × V)) : Dict K V := pairs.foldl (fun d e => d.set e.1 e.2) empty

theorem mem_foldl_set {pairs : List (K × V)} {d : Dict K V} {e : K × V}
    (h : e ∈ (pairs.foldl (fun d e => d.set e.1 e.2) d).entries) : e ∈ d.entries ∨ e ∈ pairs := by
  induction pairs generalizing d with
  | nil => exact Or.inl h
  | cons e' pairs ih =>
    rcases ih h with hd | hp
    · rcases mem_set.mp hd with ⟨hk, hv⟩ | ⟨-, hd⟩
      · exact Or.inr (List.mem_cons.mpr (Or.inl (Prod.ext hk hv)))
      · exact Or.inl hd
    · exact Or.inr (List.mem_cons_of_mem _ hp)

/-- The value of a key is one assigned to it. -/
theorem mem_of_get?_ofList {pairs : List (K × V)} {k : K} {v : V} (h : (ofList pairs).get? k = some v) :
    (k, v) ∈ pairs := by
  rcases mem_foldl_set (get?_eq_some.mp h) with hempty | hmem
  · cases hempty
  · exact hmem

/-! ### Removing -/

/-- `del d[k]`. -/
def erase (d : Dict K V) (k : K) : Dict K V := d.filter fun e => e.1 ≠ k

end DecEq

end Dict

end LookupAggregator.Lib
