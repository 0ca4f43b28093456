import Mathlib.Algebra.Order.Ring.Defs
import Mathlib.Data.List.Dedup
import Mathlib.Data.List.Sort
import Mathlib.Tactic.Linarith

/-! # Lists trimmed at the front, and lists set place by place

Of a list that is only appended to at the back and trimmed at the front: when being stale passes from
each element to all before it, trimming the front removes exactly the stale elements
(`dropWhile_eq_filter`), and trimming to a length removes a prefix (`drop_append_cons`). Of a list whose
places are set in any order: `getElem?_foldl_set`; of one whose place is set, and of a sum over it:
`sum_map_set`. Two places of a list: `exists_pair_of_two_le_countP`. Lists joined with a separator:
`infix_intercalate`. The places of a list with what stands before them: `forall_append_cons`. The head of a
sorted list: `firstLeast_insertionSort`. Different elements among those of a list: `length_le_dedup`. -/

namespace LookupAggregator.Lib

variable {α β : Type*}

/-- **Trimming the front of an ordered list is filtering it.** -/
theorem dropWhile_eq_filter {p : α → Bool} :
    ∀ {l : List α}, l.Pairwise (fun a b => p b = true → p a = true) →
      l.dropWhile p = l.filter fun a => !p a
  | [], _ => rfl
  | a :: l, h => by
    rw [List.pairwise_cons] at h
    by_cases ha : p a = true
    · rw [List.dropWhile_cons_of_pos ha, dropWhile_eq_filter h.2]
      simp [ha]
    · have hall : ∀ b ∈ l, p b ≠ true := fun b hb hpb => ha (h.1 b hb hpb)
      rw [List.dropWhile_cons_of_neg ha, eq_comm, List.filter_eq_self]
      intro b hb
      rcases List.mem_cons.mp hb with rfl | hb
      · simpa using ha
      · simpa using hall b hb

/-- Dropping at most the part before an element keeps the element and what follows it. -/
theorem drop_append_cons {n : ℕ} {l l' : List α} {a : α} (h : n ≤ l.length) :
    (l ++ a :: l').drop n = l.drop n ++ a :: l' :=
  List.drop_append_of_le_length h

/-- A list that follows the order of another, and an element of the first. -/
theorem sublist_append_singleton {l l' : List α} {a : α} (h : l.Sublist l') :
    (l ++ [a]).Sublist (l' ++ [a]) :=
  h.append (List.Sublist.refl _)

/-- A list of fewer than two has one element at most. -/
theorem eq_of_length_lt_two {l : List α} (h : l.length < 2) {a b : α} (ha : a ∈ l) (hb : b ∈ l) : a = b := by
  cases l with
  | nil => cases ha
  | cons x l =>
    obtain rfl : l = [] := List.eq_nil_of_length_eq_zero (by rw [List.length_cons] at h; omega)
    rw [List.mem_singleton.mp ha, List.mem_singleton.mp hb]

/-- Two places of a list, where two elements at least satisfy `p`. -/
theorem exists_pair_of_two_le_countP {p : α → Bool} {l : List α} (h : 2 ≤ l.countP p) :
    ∃ a b, [a, b].Sublist l ∧ p a ∧ p b := by
  rw [List.countP_eq_length_filter] at h
  obtain ⟨a, l', hl⟩ := List.exists_cons_of_length_pos (Nat.lt_of_lt_of_le Nat.two_pos h)
  rw [hl, List.length_cons] at h
  obtain ⟨b, l'', rfl⟩ := List.exists_cons_of_length_pos (Nat.lt_of_succ_le (Nat.le_of_succ_le_succ h))
  have hmem (x : α) (hx : x ∈ a :: b :: l'') : p x := (List.mem_filter.mp (hl ▸ hx)).2
  refine ⟨a, b, ?_, hmem a (by simp), hmem b (by simp)⟩
  have hsub : [a, b].Sublist (l.filter p) := by
    rw [hl]
    exact ((List.nil_sublist l'').cons_cons b).cons_cons a
  exact hsub.trans List.filter_sublist

/-- A list joined with others is part of the whole. -/
theorem infix_intercalate {sep text : List α} {texts : List (List α)} (h : text ∈ texts) :
    text <:+: sep.intercalate texts := by
  induction texts with
  | nil => cases h
  | cons x texts ih =>
    cases texts with
    | nil =>
      obtain rfl := List.mem_singleton.mp h
      exact ⟨[], [], by simp⟩
    | cons y texts =>
      rw [List.intercalate_cons_cons]
      rcases List.mem_cons.mp h with rfl | h
      · rw [List.append_assoc]
        exact (List.prefix_append _ _).isInfix
      · exact (ih h).trans (List.suffix_append _ _).isInfix

/-- Of the places of a list, with what stands before each. -/
theorem forall_append_cons {P : List α → α → Prop} {a : α} {l : List α} :
    (∀ pre x post, a :: l = pre ++ x :: post → P pre x) ↔
      P [] a ∧ ∀ pre x post, l = pre ++ x :: post → P (a :: pre) x := by
  constructor
  · exact fun h => ⟨h [] a l rfl, fun pre x post hl => h (a :: pre) x post (by rw [hl, List.cons_append])⟩
  · rintro ⟨ha, hl⟩ pre x post heq
    cases pre with
    | nil =>
      obtain ⟨rfl, -⟩ := List.cons.inj heq
      exact ha
    | cons b pre =>
      obtain ⟨rfl, htail⟩ := List.cons.inj heq
      exact hl pre x post htail

/-- What is counted for one of the keys, at most `n` for each of them. -/
theorem countP_any_le {r : β → α → Bool} {n : ℕ} {keys : List β} {l : List α}
    (h : ∀ k ∈ keys, l.countP (r k) ≤ n) : (l.countP fun a => keys.any (r · a)) ≤ n * keys.length := by
  have hor (p q : α → Bool) (l : List α) : (l.countP fun a => p a || q a) ≤ l.countP p + l.countP q := by
    induction l with
    | nil => exact Nat.zero_le _
    | cons a l ih =>
      rw [List.countP_cons, List.countP_cons, List.countP_cons]
      cases p a <;> cases q a <;> simp <;> omega
  induction keys with
  | nil => simp
  | cons k keys ih =>
    rw [List.forall_mem_cons] at h
    have hrest := ih h.2
    have hboth := hor (r k) (fun a => keys.any (r · a)) l
    simp only [List.any_cons, List.length_cons, Nat.mul_add, Nat.mul_one]
    have hk := h.1
    omega

/-- How many elements that are `d` apart have room between `a` and `b`. -/
theorem length_mul_le_of_pairwise {K : Type*} [CommRing K] [LinearOrder K] [IsStrictOrderedRing K] {f : α → K}
    {d a b : K} (hd : 0 ≤ d) (hab : a ≤ b) {l : List α} (h : l.Pairwise fun x y => f x + d ≤ f y)
    (hl : ∀ x ∈ l, a ≤ f x ∧ f x ≤ b) : (l.length : K) * d ≤ b - a + d := by
  induction l generalizing a with
  | nil =>
    rw [List.length_nil, Nat.cast_zero, zero_mul]
    linarith
  | cons x l ih =>
    rw [List.pairwise_cons] at h
    rw [List.forall_mem_cons] at hl
    rw [List.length_cons, Nat.cast_succ, add_mul, one_mul]
    cases l with
    | nil =>
      rw [List.length_nil, Nat.cast_zero, zero_mul]
      linarith
    | cons y l =>
      -- the rest begins `d` after the first
      have hy := h.1 y List.mem_cons_self
      have hrest := ih (hy.trans (hl.2 y List.mem_cons_self).2) h.2 fun z hz => ⟨h.1 z hz, (hl.2 z hz).2⟩
      have hx := hl.1.1
      linarith

/-- Setting a place of a list whose elements weigh `f`. -/
theorem sum_map_set (f : α → ℕ) {l : List α} {i : ℕ} {a : α} (h : l[i]? = some a) (b : α) :
    ((l.set i b).map f).sum + f a = (l.map f).sum + f b := by
  obtain ⟨hlt, rfl⟩ := List.getElem?_eq_some_iff.mp h
  have hsplit : l = l.take i ++ l[i] :: l.drop (i + 1) := by
    rw [← List.drop_eq_getElem_cons hlt, List.take_append_drop]
  have hset : l.set i b = l.take i ++ b :: l.drop (i + 1) := by
    rw [List.set_eq_take_append_cons_drop, if_pos hlt]
  rw [hset]
  conv_rhs => rw [hsplit]
  simp only [List.map_append, List.map_cons, List.sum_append, List.sum_cons]
  omega

/-- Setting the places of `order` one after the other. -/
theorem getElem?_foldl_set (f : ℕ → α) (order : List ℕ) (l : List α) (i : ℕ) :
    (order.foldl (fun l j => l.set j (f j)) l)[i]? =
      if i ∈ order ∧ i < l.length then some (f i) else l[i]? := by
  induction order generalizing l with
  | nil => simp
  | cons j order ih =>
    rw [List.foldl_cons, ih, List.length_set, List.getElem?_set]
    by_cases hlt : i < l.length
    · by_cases hj : j = i
      · subst hj
        simp [hlt]
      · simp [hlt, hj, Ne.symm hj]
    · simp only [hlt, and_false, if_false]
      split_ifs with hj hjlt
      · exact absurd (hj ▸ hjlt) hlt
      · exact (List.getElem?_eq_none (Nat.le_of_not_lt hlt)).symm
      · rfl

/-- Different elements, all of `l'`, are at most as many as `l'` has different elements. -/
theorem length_le_dedup [DecidableEq α] {l l' : List α} (hn : l.Nodup) (hs : ∀ a ∈ l, a ∈ l') :
    l.length ≤ l'.dedup.length :=
  hn.length_le_of_subset fun a ha => List.mem_dedup.mpr (hs a ha)

/-! ### The first of the least -/

section FirstLeast
variable {r : α → α → Prop}

/-- `a` is the first of the least elements of `l`. -/
structure FirstLeast (r : α → α → Prop) (l : List α) (a : α) : Prop where
  place : ∃ pre post, l = pre ++ a :: post ∧ ∀ b ∈ pre, ¬ r b a
  least : ∀ b ∈ l, r a b

theorem FirstLeast.mem {l : List α} {a : α} (h : FirstLeast r l a) : a ∈ l := by
  obtain ⟨pre, post, rfl, -⟩ := h.place
  exact List.mem_append_right pre List.mem_cons_self

/-- **Sorting puts the first of the least elements first**, as it leaves equal elements in their order. -/
theorem firstLeast_insertionSort [DecidableRel r] (htotal : ∀ a b, r a b ∨ r b a)
    (htrans : ∀ a b c, r a b → r b c → r a c) {l : List α} (hne : l ≠ []) :
    ∃ a, (l.insertionSort r).head? = some a ∧ FirstLeast r l a := by
  have hrefl (a : α) : r a a := (htotal a a).elim id id
  induction l with
  | nil => exact absurd rfl hne
  | cons b l ih =>
    rcases eq_or_ne l [] with rfl | hl
    · exact ⟨b, rfl, ⟨[], [], rfl, by simp⟩, by simpa using hrefl b⟩
    · obtain ⟨a, hhead, ⟨pre, post, hplace, hpre⟩, hleast⟩ := ih hl
      obtain ⟨rest, hrest⟩ : ∃ rest, l.insertionSort r = a :: rest := List.head?_eq_some_iff.mp hhead
      rw [List.insertionSort_cons, hrest, List.orderedInsert_cons]
      by_cases hba : r b a
      · refine ⟨b, by rw [if_pos hba]; rfl, ⟨[], l, rfl, by simp⟩, ?_⟩
        rw [List.forall_mem_cons]
        exact ⟨hrefl b, fun c hc => htrans b a c hba (hleast c hc)⟩
      · refine ⟨a, by rw [if_neg hba]; rfl, ⟨b :: pre, post, by rw [hplace]; rfl, ?_⟩, ?_⟩
        · rw [List.forall_mem_cons]
          exact ⟨hba, hpre⟩
        · rw [List.forall_mem_cons]
          exact ⟨(htotal a b).resolve_right hba, hleast⟩

end FirstLeast

end LookupAggregator.Lib
