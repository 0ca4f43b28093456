import Mathlib.Data.List.DropRight
import LookupAggregator.Lib.Words

/-! # Fields

A list read as fields: what stands between two separators, less what `p` trims from its ends, as far as
something is left. `mem_fields_iff` says which fields a list has, `fields_intercalate` that joined fields
are read back, and `fields_trim` that trimming the list first changes nothing. -/

namespace LookupAggregator.Lib

variable {α : Type*}

/-! ### Trimming -/

section Trimming
variable (p : α → Bool)

/-- The list without what satisfies `p` at its ends. -/
def trim (l : List α) : List α := (l.dropWhile p).rdropWhile p

variable {p}

/-- What is trimmed stands at the ends. -/
theorem exists_trim (p : α → Bool) (l : List α) :
    ∃ b b', (∀ c ∈ b, p c = true) ∧ (∀ c ∈ b', p c = true) ∧ l = b ++ trim p l ++ b' := by
  refine ⟨l.takeWhile p, (l.dropWhile p).rtakeWhile p, fun c hc => List.mem_takeWhile_imp hc,
    fun c hc => List.mem_rtakeWhile_imp hc, ?_⟩
  rw [List.append_assoc, trim, List.rdropWhile_append_rtakeWhile, List.takeWhile_append_dropWhile]

theorem trim_append_left {b : List α} (hb : ∀ c ∈ b, p c = true) (l : List α) :
    trim p (b ++ l) = trim p l := by
  rw [trim, List.dropWhile_append_of_pos hb, trim]

theorem trim_eq_nil_iff {l : List α} : trim p l = [] ↔ ∀ c ∈ l, p c = true := by
  constructor
  · intro h
    obtain ⟨b, b', hb, hb', hl⟩ := exists_trim p l
    rw [h, List.append_nil] at hl
    rw [hl, List.forall_mem_append]
    exact ⟨hb, hb'⟩
  · intro h
    rw [trim, List.dropWhile_eq_nil_iff.mpr h]
    rfl

theorem trim_append_right {b : List α} (hb : ∀ c ∈ b, p c = true) (l : List α) :
    trim p (l ++ b) = trim p l := by
  by_cases hl : ∀ c ∈ l, p c = true
  · rw [trim_eq_nil_iff.mpr hl, trim_eq_nil_iff, List.forall_mem_append]
    exact ⟨hl, hb⟩
  · have hdrop : (l ++ b).dropWhile p = l.dropWhile p ++ b := by
      rw [List.dropWhile_append, if_neg (by simpa [List.dropWhile_eq_nil_iff] using hl)]
    rw [trim, hdrop, List.rdropWhile, List.reverse_append,
      List.dropWhile_append_of_pos fun c hc => hb c (List.mem_reverse.mp hc), trim, List.rdropWhile]

theorem trim_trim (l : List α) : trim p (trim p l) = trim p l := by
  obtain ⟨b, b', hb, hb', hl⟩ := exists_trim p l
  have htrim : trim p l = trim p (b ++ trim p l ++ b') := congrArg (trim p) hl
  rw [trim_append_right hb', trim_append_left hb] at htrim
  exact htrim.symm

end Trimming

/-! ### Splitting -/

section Splitting
variable {sep : α}

/-- What is in a joined list is a separator or in one of the lists. -/
theorem of_mem_intercalate {ws : List (List α)} {c : α} (hc : c ∈ [sep].intercalate ws) :
    c = sep ∨ ∃ w ∈ ws, c ∈ w := by
  induction ws with
  | nil => cases hc
  | cons w ws ih =>
    cases ws with
    | nil => exact .inr ⟨w, List.mem_cons_self, by simpa using hc⟩
    | cons w' ws =>
      rw [List.intercalate_cons_cons, List.mem_append, List.mem_append, List.mem_singleton] at hc
      rcases hc with (hc | hc) | hc
      · exact .inr ⟨w, List.mem_cons_self, hc⟩
      · exact .inl hc
      · exact (ih hc).imp_right fun ⟨v, hv, hcv⟩ => ⟨v, List.mem_cons_of_mem w hv, hcv⟩

/-- The list ends where a field may begin. -/
def EndsField (sep : α) (pre : List α) : Prop := pre = [] ∨ ∃ q, pre = q ++ [sep]

/-- The list begins where a field may end. -/
def BeginsField (sep : α) (post : List α) : Prop := post = [] ∨ ∃ q, post = sep :: q

/-- **What splitting finds.** -/
theorem mem_splitOn_iff [DecidableEq α] {l w : List α} : w ∈ l.splitOn sep ↔
    sep ∉ w ∧ ∃ pre post, EndsField sep pre ∧ BeginsField sep post ∧ l = pre ++ w ++ post := by
  constructor
  · intro hw
    have hmem : sep ∉ w := fun hmem => by
      rw [List.splitOn_eq_splitOnP] at hw
      have hfalse := of_mem_splitOnP hw sep hmem
      simp at hfalse
    obtain ⟨ws, ws', hws⟩ := List.append_of_mem hw
    have hl : l = [sep].intercalate (ws ++ w :: ws') := by rw [← hws, List.intercalate_splitOn]
    -- cut the joined list before and after the field
    have hjoin := @intercalate_append_intercalate α sep ws ws' [] w
    rw [List.nil_append, ← hl] at hjoin
    refine ⟨hmem, [sep].intercalate (ws ++ [[]]), [sep].intercalate ([] :: ws'), ?_, ?_, ?_⟩
    · rcases List.eq_nil_or_concat ws with rfl | ⟨vs, v, rfl⟩
      · exact .inl (by simp)
      · refine .inr ⟨[sep].intercalate (vs ++ [v]), ?_⟩
        have := @intercalate_append_intercalate α sep vs [[]] v []
        rw [List.append_nil] at this
        rw [List.concat_eq_append, List.append_assoc, List.singleton_append, ← this]
        simp [List.intercalate_cons_cons]
    · cases ws' with
      | nil => exact .inl (by simp)
      | cons v ws' => exact .inr ⟨[sep].intercalate (v :: ws'), by simp [List.intercalate_cons_cons]⟩
    · have hend := @intercalate_append_intercalate α sep [] ws' w []
      rw [List.append_nil, List.nil_append, List.nil_append, List.intercalate_singleton] at hend
      rw [List.append_assoc, hend, hjoin]
  · rintro ⟨hmem, pre, post, hpre, hpost, rfl⟩
    have hword : w.splitOnP (· == sep) = [w] := List.splitOnP_eq_singleton fun c hc => by
      simpa using ne_of_mem_of_not_mem hc hmem
    -- the pieces of the rest stand around the field
    have hright : ∃ ws', (w ++ post).splitOn sep = w :: ws' := by
      rcases hpost with rfl | ⟨q, rfl⟩
      · exact ⟨[], by rw [List.append_nil, List.splitOn_eq_splitOnP, hword]⟩
      · refine ⟨q.splitOn sep, ?_⟩
        rw [List.splitOn_eq_splitOnP, List.splitOnP_append_cons _ _ (by simp), hword, List.splitOn_eq_splitOnP]
        rfl
    obtain ⟨ws', hright⟩ := hright
    rcases hpre with rfl | ⟨q, rfl⟩
    · rw [List.nil_append, hright]
      exact List.mem_cons_self
    · rw [List.append_assoc, List.append_assoc, List.singleton_append, List.splitOn_eq_splitOnP,
        List.splitOnP_append_cons _ _ (by simp), ← List.splitOn_eq_splitOnP, ← List.splitOn_eq_splitOnP,
        hright]
      simp

end Splitting

/-! ### Reading fields -/

theorem notMem_of_trimmed {sep : α} {p : α → Bool} (hsep : p sep = false) {b : List α}
    (hb : ∀ c ∈ b, p c = true) : sep ∉ b := by
  intro hmem
  rw [hb sep hmem] at hsep
  cases hsep

section Fields
variable [DecidableEq α] (sep : α) (p : α → Bool)

/-- The fields of a list. -/
def fields (l : List α) : List (List α) := ((l.splitOn sep).map (trim p)).filter (· ≠ [])

/-- Not empty, without a separator, and not to be trimmed. -/
structure IsField (w : List α) : Prop where
  ne_nil : w ≠ []
  not_mem : sep ∉ w
  trimmed : trim p w = w

variable {sep p}

/-- **The fields of a list**: what stands between separators, with nothing but what is trimmed around it. -/
theorem mem_fields_iff (hsep : p sep = false) {l w : List α} : w ∈ fields sep p l ↔
    IsField sep p w ∧ ∃ pre b b' post, EndsField sep pre ∧ (∀ c ∈ b, p c = true) ∧ (∀ c ∈ b', p c = true) ∧
      BeginsField sep post ∧ l = pre ++ b ++ w ++ b' ++ post := by
  constructor
  · intro hw
    obtain ⟨hw, hne⟩ := List.mem_filter.mp hw
    obtain ⟨v, hv, rfl⟩ := List.mem_map.mp hw
    obtain ⟨hmem, pre, post, hpre, hpost, rfl⟩ := mem_splitOn_iff.mp hv
    obtain ⟨b, b', hb, hb', heq⟩ := exists_trim p v
    refine ⟨⟨by simpa using hne, fun hs => hmem ?_, trim_trim v⟩, pre, b, b', post, hpre, hb, hb', hpost, ?_⟩
    · rw [heq]
      simp [hs]
    · conv_lhs => rw [heq]
      simp only [List.append_assoc]
  · rintro ⟨hw, pre, b, b', post, hpre, hb, hb', hpost, rfl⟩
    have hpiece : b ++ w ++ b' ∈ (pre ++ b ++ w ++ b' ++ post).splitOn sep := by
      refine mem_splitOn_iff.mpr ⟨?_, pre, post, hpre, hpost, by simp only [List.append_assoc]⟩
      simp [notMem_of_trimmed hsep hb, hw.not_mem, notMem_of_trimmed hsep hb']
    refine List.mem_filter.mpr ⟨List.mem_map.mpr ⟨b ++ w ++ b', hpiece, ?_⟩, by simp [hw.ne_nil]⟩
    rw [trim_append_right hb', trim_append_left hb, hw.trimmed]

/-- **Joined fields are read back.** -/
theorem fields_intercalate {ws : List (List α)} (hws : ∀ w ∈ ws, IsField sep p w) :
    fields sep p ([sep].intercalate ws) = ws := by
  cases ws with
  | nil => simp [fields, trim]
  | cons w ws =>
    rw [fields, List.splitOn_intercalate sep (fun v hv => (hws v hv).not_mem) (List.cons_ne_nil w ws),
      List.map_congr_left (fun v hv => (hws v hv).trimmed), List.map_id', List.filter_eq_self]
    exact fun v hv => by simp [(hws v hv).ne_nil]

/-- A list has no fields exactly if there is nothing in it but separators and what is trimmed. -/
theorem fields_eq_nil_iff {l : List α} : fields sep p l = [] ↔ ∀ c ∈ l, p c = true ∨ c = sep := by
  have hfields : fields sep p l = [] ↔ ∀ w ∈ l.splitOn sep, ∀ c ∈ w, p c = true := by
    simp [fields, List.filter_eq_nil_iff, trim_eq_nil_iff]
  rw [hfields]
  constructor
  · intro h c hc
    by_cases hcs : c = sep
    · exact .inr hcs
    · have hjoin : c ∈ [sep].intercalate (l.splitOn sep) := by rwa [List.intercalate_splitOn]
      obtain ⟨w, hw, hcw⟩ := (of_mem_intercalate hjoin).resolve_left hcs
      exact .inl (h w hw c hcw)
  · intro h w hw c hc
    obtain ⟨hmem, pre, post, -, -, rfl⟩ := mem_splitOn_iff.mp hw
    refine (h c (by simp [hc])).resolve_right ?_
    rintro rfl
    exact hmem hc

/-- What is trimmed on the left goes with the first piece. -/
theorem map_trim_splitOn_left (hsep : p sep = false) {b : List α} (hb : ∀ c ∈ b, p c = true) (l : List α) :
    ((b ++ l).splitOn sep).map (trim p) = (l.splitOn sep).map (trim p) := by
  obtain ⟨ts, hne, hts, rfl⟩ := exists_intercalate sep l
  obtain ⟨y, post, rfl⟩ := List.exists_cons_of_ne_nil hne
  have hjoin := @intercalate_append_intercalate α sep [] post b y
  rw [List.nil_append, List.intercalate_singleton, List.nil_append] at hjoin
  rw [List.forall_mem_cons] at hts
  have hfirst : sep ∉ b ++ y := by simp [notMem_of_trimmed hsep hb, hts.1]
  rw [hjoin, List.splitOn_intercalate sep (List.forall_mem_cons.mpr ⟨hfirst, hts.2⟩) (by simp),
    List.splitOn_intercalate sep (List.forall_mem_cons.mpr hts) (by simp), List.map_cons, List.map_cons,
    trim_append_left hb]

/-- What is trimmed on the right goes with the last piece. -/
theorem map_trim_splitOn_right (hsep : p sep = false) {b : List α} (hb : ∀ c ∈ b, p c = true) (l : List α) :
    ((l ++ b).splitOn sep).map (trim p) = (l.splitOn sep).map (trim p) := by
  obtain ⟨ts, hne, hts, rfl⟩ := exists_intercalate sep l
  obtain ⟨pre, x, rfl⟩ := (List.eq_nil_or_concat ts).resolve_left hne
  rw [List.concat_eq_append] at hts ⊢
  have hjoin := @intercalate_append_intercalate α sep pre [] x b
  rw [List.intercalate_singleton] at hjoin
  have hlast : sep ∉ x ++ b := by
    rw [List.forall_mem_append, List.forall_mem_singleton] at hts
    simp [hts.2, notMem_of_trimmed hsep hb]
  have hpieces : ∀ t ∈ pre ++ [x ++ b], sep ∉ t := by
    rw [List.forall_mem_append, List.forall_mem_singleton] at hts ⊢
    exact ⟨hts.1, hlast⟩
  rw [hjoin, List.splitOn_intercalate sep hpieces (by simp), List.splitOn_intercalate sep hts (by simp),
    List.map_append, List.map_append, List.map_singleton, List.map_singleton, trim_append_right hb]

/-- **Trimming a list changes none of its fields.** -/
theorem fields_trim (hsep : p sep = false) (l : List α) : fields sep p (trim p l) = fields sep p l := by
  obtain ⟨b, b', hb, hb', hl⟩ := exists_trim p l
  rw [fields, fields]
  conv_rhs => rw [hl, map_trim_splitOn_right hsep hb', map_trim_splitOn_left hsep hb]

end Fields

end LookupAggregator.Lib
