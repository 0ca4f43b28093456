import Mathlib.Data.List.Chain
import LookupAggregator.Lib.Lists

/-! # Words

A list read as words: `words p l` is what stands between the elements that satisfy `p`. Words that are
joined with such a separator are read back (`words_intercalate`), without separators at the ends or in a row
(`tidy_intercalate`), and joined words are part of other joined words exactly when they stand in a row in them
(`infix_intercalate_iff`). -/

namespace LookupAggregator.Lib

variable {α : Type*}

/-! ### Reading words -/

section Reading
variable (p : α → Bool)

/-- The words of a list, whose separators satisfy `p`. -/
def words (l : List α) : List (List α) := (l.splitOnP p).filter fun w => !w.isEmpty

/-- Not empty, and without a separator. -/
def IsWord (w : List α) : Prop := w ≠ [] ∧ ∀ c ∈ w, p c = false

variable {p}

theorem of_mem_splitOnP {l w : List α} (hw : w ∈ l.splitOnP p) : ∀ c ∈ w, p c = false := by
  induction l generalizing w with
  | nil =>
    intro c hc
    rw [List.splitOnP_nil, List.mem_singleton] at hw
    rw [hw] at hc
    cases hc
  | cons a l ih =>
    rw [List.splitOnP_cons_eq_if_modifyHead] at hw
    split_ifs at hw with ha
    · rcases List.mem_cons.mp hw with rfl | hw
      · simp
      · exact ih hw
    · obtain ⟨v, vs, hv⟩ := List.exists_cons_of_ne_nil (List.splitOnP_ne_nil p l)
      rw [hv, List.modifyHead_cons] at hw
      rcases List.mem_cons.mp hw with rfl | hw
      · rw [List.forall_mem_cons]
        exact ⟨by simpa using ha, ih (by rw [hv]; exact List.mem_cons_self)⟩
      · exact ih (by rw [hv]; exact List.mem_cons_of_mem v hw)

theorem isWord_of_mem_words {l w : List α} (hw : w ∈ words p l) : IsWord p w := by
  obtain ⟨hmem, hne⟩ := List.mem_filter.mp hw
  exact ⟨by simpa using hne, of_mem_splitOnP hmem⟩

theorem words_cons_of_pos {c : α} (hc : p c = true) (l : List α) : words p (c :: l) = words p l := by
  unfold words
  rw [List.splitOnP_cons_eq_if_modifyHead, if_pos hc]
  rfl

/-- A separator ends a word. -/
theorem words_append_cons {c : α} (hc : p c = true) (l l' : List α) :
    words p (l ++ c :: l') = words p l ++ words p l' := by
  unfold words
  rw [List.splitOnP_append_cons l l' hc, List.filter_append]

theorem words_eq_singleton {w : List α} (hw : IsWord p w) : words p w = [w] := by
  unfold words
  rw [List.splitOnP_eq_singleton hw.2, List.filter_cons_of_pos (by simp [hw.1])]
  rfl

/-- A character before a word belongs to it, and else is one of its own. -/
theorem words_cons_of_neg {c : α} (hc : p c = false) (l : List α) :
    words p (c :: l) = match l with
      | [] => [[c]]
      | d :: _ => if p d then [c] :: words p l else (words p l).modifyHead (c :: ·) := by
  have hsplit : (c :: l).splitOnP p = (l.splitOnP p).modifyHead (c :: ·) := by
    rw [List.splitOnP_cons_eq_if_modifyHead, if_neg (by simp [hc])]
  unfold words
  rw [hsplit]
  cases l with
  | nil => rfl
  | cons d l =>
    dsimp only
    rw [List.splitOnP_cons_eq_if_modifyHead]
    obtain ⟨v, vs, hv⟩ := List.exists_cons_of_ne_nil (List.splitOnP_ne_nil p l)
    split_ifs with hd
    · rfl
    · rw [hv]
      rfl

/-- A text with more than separators has a word. -/
theorem words_ne_nil {l : List α} {c : α} (hmem : c ∈ l) (hc : p c = false) : words p l ≠ [] := by
  induction l with
  | nil => cases hmem
  | cons d l ih =>
    by_cases hd : p d = true
    · rw [words_cons_of_pos hd]
      rcases List.mem_cons.mp hmem with rfl | hmem
      · rw [hc] at hd
        cases hd
      · exact ih hmem
    · obtain ⟨v, vs, hv⟩ := List.exists_cons_of_ne_nil (List.splitOnP_ne_nil p l)
      unfold words
      rw [List.splitOnP_cons_eq_if_modifyHead, if_neg hd, hv]
      exact List.cons_ne_nil _ _

/-- Separators before the words do not matter. -/
theorem words_append_of_forall {l : List α} (hl : ∀ c ∈ l, p c = true) (l' : List α) :
    words p (l ++ l') = words p l' := by
  induction l with
  | nil => rfl
  | cons c l ih =>
    rw [List.forall_mem_cons] at hl
    rw [List.cons_append, words_cons_of_pos hl.1, ih hl.2]

/-- Nor do those after them. -/
theorem words_append_right_of_forall {l' : List α} (hl' : ∀ c ∈ l', p c = true) (l : List α) :
    words p (l ++ l') = words p l := by
  cases l' with
  | nil => rw [List.append_nil]
  | cons c l' =>
    rw [List.forall_mem_cons] at hl'
    have hnone : words p l' = [] := by
      have := words_append_of_forall hl'.2 []
      rwa [List.append_nil] at this
    rw [words_append_cons hl'.1, hnone, List.append_nil]

/-- **Joined words are read back.** -/
theorem words_intercalate {sep : α} (hsep : p sep = true) {ws : List (List α)} (hws : ∀ w ∈ ws, IsWord p w) :
    words p ([sep].intercalate ws) = ws := by
  induction ws with
  | nil => rfl
  | cons w ws ih =>
    rw [List.forall_mem_cons] at hws
    cases ws with
    | nil => rw [List.intercalate_singleton, words_eq_singleton hws.1]
    | cons w' ws =>
      rw [List.intercalate_cons_cons, List.append_assoc, List.singleton_append, words_append_cons hsep,
        words_eq_singleton hws.1, ih hws.2]
      rfl

/-! ### Ends and gaps -/

/-- No separator at either end, and no two in a row. -/
structure Tidy (p : α → Bool) (l : List α) : Prop where
  head : ∀ c, l.head? = some c → p c = false
  last : ∀ c, l.getLast? = some c → p c = false
  gaps : l.IsChain fun a b => p a = false ∨ p b = false

theorem IsWord.tidy {w : List α} (hw : IsWord p w) : Tidy p w where
  head c hc := hw.2 c (List.mem_of_head? hc)
  last c hc := hw.2 c (List.mem_of_getLast? hc)
  gaps := by
    rw [List.isChain_iff_forall_rel_of_append_cons_cons]
    intro a b pre post heq
    exact Or.inl (hw.2 a (by simp [heq]))

/-- One element between two lists, whatever it is. -/
theorem Tidy.append_cons {l l' : List α} (h : Tidy p l) (h' : Tidy p l') (hne : l ≠ []) (hne' : l' ≠ [])
    (c : α) : Tidy p (l ++ c :: l') where
  head d hd := by
    rw [List.head?_append_of_ne_nil _ hne] at hd
    exact h.head d hd
  last d hd := by
    rw [List.getLast?_append_of_ne_nil _ (List.cons_ne_nil c l'), List.getLast?_cons_of_ne_nil hne'] at hd
    exact h'.last d hd
  gaps := by
    rw [List.isChain_append, List.isChain_cons]
    exact ⟨h.gaps, ⟨fun d hd => Or.inr (h'.head d hd), h'.gaps⟩, fun d hd _ _ => Or.inl (h.last d hd)⟩

/-- **Joined words are tidy.** -/
theorem tidy_intercalate (sep : α) {ws : List (List α)} (hws : ∀ w ∈ ws, IsWord p w) :
    Tidy p ([sep].intercalate ws) := by
  induction ws with
  | nil => exact ⟨by simp, by simp, .nil⟩
  | cons w ws ih =>
    rw [List.forall_mem_cons] at hws
    cases ws with
    | nil =>
      rw [List.intercalate_singleton]
      exact hws.1.tidy
    | cons w' ws =>
      have hne : [sep].intercalate (w' :: ws) ≠ [] := by
        have hw' : w' ≠ [] := (hws.2 w' List.mem_cons_self).1
        cases ws <;> simp [List.intercalate_cons_cons, hw']
      rw [List.intercalate_cons_cons, List.append_assoc, List.singleton_append]
      exact hws.1.tidy.append_cons (ih hws.2) hws.1.1 hne sep

end Reading

/-! ### Words in a row -/

/-- The words `ws` stand in a row in `ts`: one word within a word, more of them with the first at the end of a
word, the last at the beginning of one, and whole words between them. -/
inductive InRow : List (List α) → List (List α) → Prop
  | nil (ts : List (List α)) : InRow [] ts
  | single {w x : List α} (pre post : List (List α)) (h : w <:+: x) : InRow [w] (pre ++ x :: post)
  | several {first last x y : List α} (pre mid post : List (List α)) (hfirst : first <:+ x)
      (hlast : last <+: y) : InRow (first :: (mid ++ [last])) (pre ++ x :: (mid ++ y :: post))

section Row
variable {sep : α}

/-- Joining two joined lists end to end makes one word of the two that meet. -/
theorem intercalate_append_intercalate (pre post : List (List α)) (x y : List α) :
    [sep].intercalate (pre ++ [x]) ++ [sep].intercalate (y :: post) =
      [sep].intercalate (pre ++ (x ++ y) :: post) := by
  have hcons (w : List α) (ws : List (List α)) {z : List α} {zs : List (List α)} :
      [sep].intercalate (w :: (ws ++ z :: zs)) = w ++ sep :: [sep].intercalate (ws ++ z :: zs) := by
    rw [List.intercalate_cons_of_ne_nil (by simp), List.append_assoc]
    rfl
  induction pre with
  | nil =>
    cases post with
    | nil => simp
    | cons z post => simp [List.intercalate_cons_cons]
  | cons w pre ih =>
    rw [List.cons_append, List.cons_append, hcons, hcons, ← ih]
    simp

/-- Words within words are read apart. -/
theorem eq_of_intercalate_eq {ts ts' : List (List α)} (hts : ∀ t ∈ ts, sep ∉ t) (hts' : ∀ t ∈ ts', sep ∉ t)
    (hne : ts ≠ []) (hne' : ts' ≠ []) (h : [sep].intercalate ts = [sep].intercalate ts') : ts = ts' := by
  classical
  rw [← List.splitOn_intercalate sep hts hne, h, List.splitOn_intercalate sep hts' hne']

/-- Any list is joined of lists without the separator. -/
theorem exists_intercalate (sep : α) (l : List α) :
    ∃ ts, ts ≠ [] ∧ (∀ t ∈ ts, sep ∉ t) ∧ [sep].intercalate ts = l := by
  classical
  refine ⟨l.splitOn sep, List.splitOn_ne_nil sep l, fun t ht hmem => ?_, List.intercalate_splitOn sep⟩
  rw [List.splitOn_eq_splitOnP] at ht
  have hfalse := of_mem_splitOnP ht sep hmem
  simp at hfalse

/-- A row of words is part of the text they stand in. -/
theorem InRow.infix_intercalate {ws ts : List (List α)} (h : InRow ws ts) :
    [sep].intercalate ws <:+: [sep].intercalate ts := by
  cases h with
  | nil => exact List.nil_infix
  | single pre post h =>
    rw [List.intercalate_singleton]
    exact h.trans (Lib.infix_intercalate (by simp))
  | several pre mid post hfirst hlast =>
    obtain ⟨x, rfl⟩ := hfirst
    obtain ⟨y, rfl⟩ := hlast
    refine ⟨[sep].intercalate (pre ++ [x]), [sep].intercalate (y :: post), ?_⟩
    rw [intercalate_append_intercalate, ← List.cons_append, ← List.append_assoc,
      intercalate_append_intercalate]
    simp

/-- **Joined words are part of other joined words exactly if they stand in a row in them.** -/
theorem infix_intercalate_iff {ws ts : List (List α)} (hws : ∀ w ∈ ws, w ≠ [] ∧ sep ∉ w)
    (hts : ∀ t ∈ ts, sep ∉ t) : [sep].intercalate ws <:+: [sep].intercalate ts ↔ InRow ws ts := by
  refine ⟨fun h => ?_, InRow.infix_intercalate⟩
  cases ws with
  | nil => exact .nil ts
  | cons first ws =>
    rw [List.forall_mem_cons] at hws
    have hne : ts ≠ [] := by
      rintro rfl
      have hnil : [sep].intercalate (first :: ws) = [] := List.infix_nil.mp h
      cases ws with
      | nil => exact hws.1.1 (by simpa using hnil)
      | cons w ws => simp at hnil
    -- what is left and right of the row, in words
    obtain ⟨l, r, hlr⟩ := h
    obtain ⟨ls, hlne, hls, rfl⟩ := exists_intercalate sep l
    obtain ⟨rs, hrne, hrs, rfl⟩ := exists_intercalate sep r
    obtain ⟨pre, x, rfl⟩ := (List.eq_nil_or_concat ls).resolve_left hlne
    obtain ⟨y, post, rfl⟩ := List.exists_cons_of_ne_nil hrne
    rw [List.concat_eq_append] at hlr hls
    rw [List.forall_mem_append, List.forall_mem_singleton] at hls
    rw [List.forall_mem_cons] at hrs
    rw [intercalate_append_intercalate] at hlr
    rcases List.eq_nil_or_concat ws with rfl | ⟨mid, last, rfl⟩
    · rw [intercalate_append_intercalate] at hlr
      have hmem : ∀ t ∈ pre ++ (x ++ first ++ y) :: post, sep ∉ t := by
        rw [List.forall_mem_append, List.forall_mem_cons, List.mem_append, List.mem_append, not_or, not_or]
        exact ⟨hls.1, ⟨⟨hls.2, hws.1.2⟩, hrs.1⟩, hrs.2⟩
      obtain rfl := eq_of_intercalate_eq hmem hts (by simp) hne hlr
      exact .single pre post ⟨x, y, rfl⟩
    · rw [List.concat_eq_append] at hlr hws ⊢
      rw [← List.cons_append, ← List.append_assoc, intercalate_append_intercalate, List.append_assoc,
        List.cons_append] at hlr
      rw [List.forall_mem_append, List.forall_mem_singleton] at hws
      have hmem : ∀ t ∈ pre ++ (x ++ first) :: (mid ++ (last ++ y) :: post), sep ∉ t := by
        rw [List.forall_mem_append, List.forall_mem_cons, List.forall_mem_append, List.forall_mem_cons,
          List.mem_append, List.mem_append, not_or, not_or]
        exact ⟨hls.1, ⟨hls.2, hws.1.2⟩, fun t ht => (hws.2.1 t ht).2, ⟨hws.2.2.2, hrs.1⟩, hrs.2⟩
      obtain rfl := eq_of_intercalate_eq hmem hts (by simp) hne hlr
      exact .several pre mid post ⟨x, rfl⟩ ⟨y, rfl⟩

end Row

end LookupAggregator.Lib
