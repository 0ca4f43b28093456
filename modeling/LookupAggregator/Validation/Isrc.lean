import Mathlib.Logic.Relation
import LookupAggregator.Validation

/-! # Case, hyphens and spaces of an ISRC

`normalize_isrc` strips white space first and takes hyphens and spaces out last. White space other than the
space that stands behind a hyphen at an end of the text is therefore left over, and the text rejected, while
it is accepted without the hyphen. `isrc_edits_iff` says exactly when case, hyphens and spaces make a
difference, and when normalising again does; `hyphen_exposes_tab` that they do. -/

namespace LookupAggregator.Validation

open Py

/-! ### Edits -/

/-- A hyphen or a space. -/
def isSeparator (c : Char) : Bool := c == '-' || c == ' '

/-- One edit: a hyphen or a space more or less, or a letter `A-Z` or `a-z` in another case. -/
inductive IsrcEdit : List Char → List Char → Prop
  | insert (pre post : List Char) {c : Char} (hc : isSeparator c = true) :
      IsrcEdit (pre ++ post) (pre ++ c :: post)
  | delete (pre post : List Char) {c : Char} (hc : isSeparator c = true) :
      IsrcEdit (pre ++ c :: post) (pre ++ post)
  | recase (pre post : List Char) {c c' : Char} (hc : c.isAlpha = true)
      (hc' : c' = c.toUpper ∨ c' = c.toLower) : IsrcEdit (pre ++ c :: post) (pre ++ c' :: post)

/-- Some edits make `s'` of `s`. -/
def Edited (s s' : String) : Prop := Relation.ReflTransGen IsrcEdit s.toList s'.toList

/-- Neither a hyphen nor white space. -/
def isCoreChar (c : Char) : Bool := !isSeparator c && !isSpace c

/-- The text without hyphens and without white space, in upper case. -/
def isrcCore (u : UpperCasing) (l : List Char) : List Char := (l.filter isCoreChar).flatMap u.upper

/-- White space other than the space is left by stripping. -/
def InnerSpace (s : String) : Prop := ∃ c ∈ (strip s).toList, isSpace c = true ∧ c ≠ ' '

/-- White space comes first or last in what stripping leaves, once hyphens and spaces are taken out. -/
def ExposedSpace (s : String) : Prop :=
  let kept := (strip s).toList.filter fun c => !isSeparator c
  (∃ c, kept.head? = some c ∧ isSpace c = true) ∨ ∃ c, kept.getLast? = some c ∧ isSpace c = true

/-- A letter `A-Z` or `a-z`. -/
theorem eq_ofNat_of_isAlpha {c : Char} (h : c.isAlpha = true) :
    ∃ i < 26, c = Char.ofNat (65 + i) ∨ c = Char.ofNat (97 + i) := by
  have hbool : (decide (c.val ≥ 'A'.val ∧ c.val ≤ 'Z'.val) ||
      (decide (c.val ≥ 'a'.val) && decide (c.val ≤ 'z'.val))) = true := h
  have hrange : (65 ≤ c.toNat ∧ c.toNat ≤ 90) ∨ (97 ≤ c.toNat ∧ c.toNat ≤ 122) := by
    simpa [UInt32.le_iff_toNat_le] using hbool
  rcases hrange with h | h
  · exact ⟨c.toNat - 65, by omega, Or.inl (by rw [Nat.add_sub_cancel' h.1, Char.ofNat_toNat])⟩
  · exact ⟨c.toNat - 97, by omega, Or.inr (by rw [Nat.add_sub_cancel' h.1, Char.ofNat_toNat])⟩

/-- A letter is kept, in either case, and has one upper case. -/
theorem recase_letter {c c' : Char} (hc : c.isAlpha = true) (hc' : c' = c.toUpper ∨ c' = c.toLower) :
    c.toNat < 128 ∧ c'.toNat < 128 ∧ c'.toUpper = c.toUpper ∧
      isCoreChar c = true ∧ isCoreChar c' = true := by
  obtain ⟨i, hi, rfl | rfl⟩ := eq_ofNat_of_isAlpha hc
  · rcases hc' with rfl | rfl <;> · clear hc; revert hi i; decide
  · rcases hc' with rfl | rfl <;> · clear hc; revert hi i; decide

/-- **No edit changes the core.** -/
theorem isrcCore_of_edit (u : UpperCasing) {l l' : List Char} (h : IsrcEdit l l') :
    isrcCore u l' = isrcCore u l := by
  have hseparator (pre post : List Char) {c : Char} (hc : isSeparator c = true) :
      isrcCore u (pre ++ c :: post) = isrcCore u (pre ++ post) := by
    unfold isrcCore
    rw [List.filter_append, List.filter_append, List.filter_cons_of_neg (by simp [isCoreChar, hc])]
  cases h with
  | insert pre post hc => exact hseparator pre post hc
  | delete pre post hc => exact (hseparator pre post hc).symm
  | @recase pre post c c' hc hc' =>
    obtain ⟨hlt, hlt', hupper, hkept, hkept'⟩ := recase_letter hc hc'
    unfold isrcCore
    rw [List.filter_append, List.filter_append, List.filter_cons_of_pos hkept,
      List.filter_cons_of_pos hkept', List.flatMap_append, List.flatMap_append, List.flatMap_cons,
      List.flatMap_cons, u.upper_ascii c hlt, u.upper_ascii c' hlt', hupper]

theorem isrcCore_of_edits (u : UpperCasing) {l l' : List Char} (h : Relation.ReflTransGen IsrcEdit l l') :
    isrcCore u l' = isrcCore u l := by
  induction h with
  | refl => rfl
  | tail _ hedit ih => exact (isrcCore_of_edit u hedit).trans ih

/-! ### What is accepted -/

section Accepted
variable (u : UpperCasing)

theorem eq_of_isSeparator {c : Char} (h : isSeparator c = true) : c = '-' ∨ c = ' ' := by
  simpa [isSeparator] using h

/-- Upper-casing makes no hyphen and no space. -/
theorem isSeparator_of_mem_upper {c d : Char} (hc : isSeparator c = false) (hd : d ∈ u.upper c) :
    isSeparator d = false := by
  by_contra hsep
  have hd' : isSpace d || isDecimal d || d == '-' := by
    rcases eq_of_isSeparator (by simpa using hsep) with rfl | rfl <;> decide
  rw [u.eq_of_mem_upper c d hd hd'] at hsep
  exact hsep hc

/-- **Normalising, with the separators taken out first.** -/
theorem toList_normalizeIsrc (s : String) : (normalizeIsrc u s).toList =
    ((strip s).toList.filter fun c => !isSeparator c).flatMap u.upper := by
  unfold normalizeIsrc
  rw [String.toList_ofList]
  induction (strip s).toList with
  | nil => rfl
  | cons c l ih =>
    rw [List.flatMap_cons, List.filter_append, List.filter_append, ih]
    by_cases hc : isSeparator c = true
    · have hnone : ((u.upper c).filter (· ≠ '-')).filter (· ≠ ' ') = [] := by
        rcases eq_of_isSeparator hc with rfl | rfl
        · rw [u.upper_ascii _ (by decide)]
          rfl
        · rw [u.upper_ascii _ (by decide)]
          rfl
      rw [List.filter_cons_of_neg (by simp [hc]), hnone]
      rfl
    · have hc' : isSeparator c = false := by simpa using hc
      have hall : ((u.upper c).filter (· ≠ '-')).filter (· ≠ ' ') = u.upper c := by
        rw [List.filter_filter, List.filter_eq_self]
        intro d hd
        have hd' := isSeparator_of_mem_upper u hc' hd
        simp only [isSeparator, Bool.or_eq_false_iff, beq_eq_false_iff_ne] at hd'
        simp [hd'.1, hd'.2]
      rw [List.filter_cons_of_pos (by simp [hc']), List.flatMap_cons, hall]

theorem isrcCore_strip (s : String) : isrcCore u (strip s).toList = isrcCore u s.toList := by
  unfold isrcCore strip
  rw [String.toList_ofList, filter_stripWhile fun c hc => by simp [isCoreChar, hc]]

/-- Without inner white space a text is normalised to its core. -/
theorem toList_normalizeIsrc_of_not_inner {s : String} (h : ¬ InnerSpace s) :
    (normalizeIsrc u s).toList = isrcCore u s.toList := by
  have hkept : ((strip s).toList.filter fun c => !isSeparator c) = (strip s).toList.filter isCoreChar := by
    refine List.filter_congr fun c hc => ?_
    by_cases hspace : isSpace c = true
    · -- the only white space here is the space, a separator
      have heq : c = ' ' := by
        by_contra hne
        exact h ⟨c, hc, hspace, hne⟩
      rw [heq]
      decide
    · simp [isCoreChar, hspace]
  rw [toList_normalizeIsrc, ← isrcCore_strip, isrcCore, hkept]

theorem exists_of_fullmatch {ps : List (Char → Bool)} {l : List Char} (h : fullmatch ps l = true) {c : Char}
    (hc : c ∈ l) : ∃ p ∈ ps, p c = true := by
  induction ps generalizing l with
  | nil =>
    cases l with
    | nil => cases hc
    | cons => cases h
  | cons p ps ih =>
    cases l with
    | nil => cases h
    | cons c' l =>
      simp only [fullmatch, Bool.and_eq_true] at h
      rcases List.mem_cons.mp hc with rfl | hc
      · exact ⟨p, List.mem_cons_self, h.1⟩
      · obtain ⟨q, hq, hqc⟩ := ih h.2 hc
        exact ⟨q, List.mem_cons_of_mem p hq, hqc⟩

/-- An ISRC has no white space. -/
theorem isSpace_of_isrc {l : List Char} (h : fullmatch isrcClasses l = true) {c : Char} (hc : c ∈ l) :
    isSpace c = false := by
  have hupper {c : Char} (h : isAsciiUpper c = true) : isSpace c = false := by
    simp only [isAsciiUpper, Bool.and_eq_true, decide_eq_true_eq] at h
    simp [isSpace]
    omega
  have hdigit {c : Char} (h : isAsciiDigit c = true) : isSpace c = false := by
    simp only [isAsciiDigit, Bool.and_eq_true, decide_eq_true_eq] at h
    simp [isSpace]
    omega
  obtain ⟨p, hp, hpc⟩ := exists_of_fullmatch h hc
  have hp' : p = isAsciiUpper ∨ p = (fun c => isAsciiUpper c || isAsciiDigit c) ∨ p = isDecimal := by
    simpa [isrcClasses, or_assoc] using hp
  rcases hp' with rfl | rfl | rfl
  · exact hupper hpc
  · rcases Bool.or_eq_true _ _ |>.mp hpc with h | h
    · exact hupper h
    · exact hdigit h
  · exact isSpace_of_decimal hpc

/-- Inner white space is left by normalising, and no ISRC has any. -/
theorem not_inner_of_fullmatch {s : String} (h : fullmatch isrcClasses (normalizeIsrc u s).toList = true) :
    ¬ InnerSpace s := by
  rintro ⟨c, hc, hspace, hne⟩
  have hkept : (!isSeparator c) = true := by
    have hhyphen : isSpace '-' = false := by decide
    have hne' : c ≠ '-' := by
      rintro rfl
      rw [hhyphen] at hspace
      cases hspace
    simp [isSeparator, hne, hne']
  have hmem : c ∈ (normalizeIsrc u s).toList := by
    rw [toList_normalizeIsrc, List.mem_flatMap]
    exact ⟨c, List.mem_filter.mpr ⟨hc, hkept⟩, by rw [u.upper_fixed c (by simp [hspace])]; simp⟩
  have := isSpace_of_isrc h hmem
  rw [hspace] at this
  cases this

/-- **What `validate_isrc` accepts**: a text without inner white space whose core is an ISRC, and it returns
the core. -/
theorem fullmatch_normalizeIsrc_iff {s : String} :
    fullmatch isrcClasses (normalizeIsrc u s).toList = true ↔
      ¬ InnerSpace s ∧ fullmatch isrcClasses (isrcCore u s.toList) = true := by
  constructor
  · intro h
    have hinner := not_inner_of_fullmatch u h
    rw [toList_normalizeIsrc_of_not_inner u hinner] at h
    exact ⟨hinner, h⟩
  · rintro ⟨hinner, h⟩
    rw [toList_normalizeIsrc_of_not_inner u hinner]
    exact h

theorem validateIsrc_of_match {s : String} (h : fullmatch isrcClasses (normalizeIsrc u s).toList = true) :
    validateIsrc u s = .ok (normalizeIsrc u s) := validateIsrc_eq_ok.mpr ⟨h, rfl⟩

theorem validateIsrc_ne_ok {s v : String} (h : ¬ fullmatch isrcClasses (normalizeIsrc u s).toList = true) :
    validateIsrc u s ≠ .ok v := fun hv => h (validateIsrc_eq_ok.mp hv).1

/-- There is one text for all rejections. -/
theorem validateIsrc_of_not_match {s s' : String}
    (h : ¬ fullmatch isrcClasses (normalizeIsrc u s).toList = true)
    (h' : ¬ fullmatch isrcClasses (normalizeIsrc u s').toList = true) :
    validateIsrc u s' = validateIsrc u s := by
  rw [Bool.not_eq_true, ← Bool.not_eq_true'] at h h'
  unfold validateIsrc
  simp only [h, h', ↓reduceIte]

/-- **Edits change the outcome exactly when the core is an ISRC and stripping leaves white space in one of
the two texts only.** -/
theorem validateIsrc_edited_iff {s s' : String} (h : Edited s s') :
    validateIsrc u s' = validateIsrc u s ↔
      (fullmatch isrcClasses (isrcCore u s.toList) = true → (InnerSpace s ↔ InnerSpace s')) := by
  have hcore := isrcCore_of_edits u h
  have hmatch := fullmatch_normalizeIsrc_iff u (s := s)
  have hmatch' := fullmatch_normalizeIsrc_iff u (s := s')
  rw [hcore] at hmatch'
  by_cases hisrc : fullmatch isrcClasses (isrcCore u s.toList) = true
  · rw [forall_prop_of_true hisrc]
    simp only [hisrc, and_true] at hmatch hmatch'
    by_cases hin : InnerSpace s <;> by_cases hin' : InnerSpace s'
    · refine iff_of_true ?_ (iff_of_true hin hin')
      exact validateIsrc_of_not_match u (fun hm => hmatch.mp hm hin) fun hm => hmatch'.mp hm hin'
    · refine iff_of_false (fun heq => ?_) fun hiff => hin' (hiff.mp hin)
      rw [validateIsrc_of_match u (hmatch'.mpr hin')] at heq
      exact validateIsrc_ne_ok u (fun hm => hmatch.mp hm hin) heq.symm
    · refine iff_of_false (fun heq => ?_) fun hiff => hin (hiff.mpr hin')
      rw [validateIsrc_of_match u (hmatch.mpr hin)] at heq
      exact validateIsrc_ne_ok u (fun hm => hmatch'.mp hm hin') heq
    · refine iff_of_true ?_ (iff_of_false hin hin')
      have hnorm : normalizeIsrc u s' = normalizeIsrc u s := by
        rw [← String.toList_inj, toList_normalizeIsrc_of_not_inner u hin,
          toList_normalizeIsrc_of_not_inner u hin', hcore]
      rw [validateIsrc_of_match u (hmatch.mpr hin), validateIsrc_of_match u (hmatch'.mpr hin'), hnorm]
  · refine iff_of_true ?_ fun hm => absurd hm hisrc
    exact validateIsrc_of_not_match u (fun hm => hisrc (hmatch.mp hm).2) fun hm => hisrc (hmatch'.mp hm).2

/-! ### Normalising again -/

/-- What is normalised is stripped by normalising again, and else left as it is. -/
theorem toList_normalizeIsrc_twice (s : String) : (normalizeIsrc u (normalizeIsrc u s)).toList =
    stripWhile isSpace (normalizeIsrc u s).toList := by
  have hmem : ∀ d ∈ stripWhile isSpace (normalizeIsrc u s).toList,
      isSeparator d = false ∧ u.upper d = [d] := by
    intro d hd
    have hd' : d ∈ (normalizeIsrc u s).toList := subset_stripWhile hd
    rw [toList_normalizeIsrc, List.mem_flatMap] at hd'
    obtain ⟨c, hc, hdc⟩ := hd'
    have hsep : isSeparator c = false := by simpa using (List.mem_filter.mp hc).2
    exact ⟨isSeparator_of_mem_upper u hsep hdc, u.upper_upper c d hdc⟩
  rw [toList_normalizeIsrc u (normalizeIsrc u s), strip, String.toList_ofList,
    List.filter_eq_self.mpr fun d hd => by simp [(hmem d hd).1]]
  calc (stripWhile isSpace (normalizeIsrc u s).toList).flatMap u.upper
      = (stripWhile isSpace (normalizeIsrc u s).toList).flatMap fun d => [d] :=
        List.flatMap_congr fun d hd => (hmem d hd).2
    _ = stripWhile isSpace (normalizeIsrc u s).toList := List.flatMap_singleton' _

variable {u}

/-- An end of the upper-cased text is white space if and only if that end of the text is. -/
theorem isSpace_upper_iff {c d : Char} (hd : d ∈ u.upper c) : isSpace d = isSpace c := by
  by_cases h : isSpace c = true
  · rw [u.upper_fixed c (by simp [h]), List.mem_singleton] at hd
    rw [hd]
  · by_contra hne
    have hspace : isSpace d = true := by
      rw [Bool.not_eq_true] at h
      rw [h] at hne
      simpa using hne
    rw [u.eq_of_mem_upper c d hd (by simp [hspace])] at hspace
    exact h hspace

/-- The first character of the upper-cased text. -/
theorem head?_flatMap_upper (hne : ∀ c, u.upper c ≠ []) (l : List Char) :
    (∃ d, (l.flatMap u.upper).head? = some d ∧ isSpace d = true) ↔
      ∃ c, l.head? = some c ∧ isSpace c = true := by
  cases l with
  | nil => rfl
  | cons c l =>
    obtain ⟨d, ds, hd⟩ := List.exists_cons_of_ne_nil (hne c)
    have hspace : isSpace d = isSpace c := isSpace_upper_iff (by rw [hd]; exact List.mem_cons_self)
    simp [hd, hspace]

/-- Its last character. -/
theorem getLast?_flatMap_upper (hne : ∀ c, u.upper c ≠ []) (l : List Char) :
    (∃ d, (l.flatMap u.upper).getLast? = some d ∧ isSpace d = true) ↔
      ∃ c, l.getLast? = some c ∧ isSpace c = true := by
  rcases List.eq_nil_or_concat l with rfl | ⟨l, c, rfl⟩
  · rfl
  · obtain ⟨ds, d, hd⟩ := (List.eq_nil_or_concat (u.upper c)).resolve_left (hne c)
    have hspace : isSpace d = isSpace c := isSpace_upper_iff (by rw [hd]; simp)
    simp [hd, hspace, ← List.append_assoc]

/-- **When normalising again changes nothing.** -/
theorem normalizeIsrc_idem_iff (hne : ∀ c, u.upper c ≠ []) (s : String) :
    normalizeIsrc u (normalizeIsrc u s) = normalizeIsrc u s ↔ ¬ ExposedSpace s := by
  rw [← String.toList_inj, toList_normalizeIsrc_twice, stripWhile_eq_self_iff, toList_normalizeIsrc,
    head?_flatMap_upper hne, getLast?_flatMap_upper hne]
  rfl

end Accepted

/-- **Exactly when case, hyphens and spaces make no difference.** For all texts of which one is edited into
the other, and for normalising any text again. -/
theorem isrc_edits_iff (u : UpperCasing) (hne : ∀ c, u.upper c ≠ []) :
    (∀ s s', Edited s s' → (validateIsrc u s' = validateIsrc u s ↔
      (fullmatch isrcClasses (isrcCore u s.toList) = true → (InnerSpace s ↔ InnerSpace s')))) ∧
    ∀ s, normalizeIsrc u (normalizeIsrc u s) = normalizeIsrc u s ↔ ¬ ExposedSpace s :=
  ⟨fun _ _ h => validateIsrc_edited_iff u h, normalizeIsrc_idem_iff hne⟩

/-- A hyphen before a text. -/
theorem edited_hyphen (s : String) : Edited s ("-" ++ s) := by
  unfold Edited
  rw [String.toList_append]
  exact .single (IsrcEdit.insert [] s.toList rfl)

/-- A hyphen before an ISRC makes no difference, and normalising the text again makes none either. -/
theorem isrc_edits_iff_hyphen :
    validateIsrc .ascii ("-" ++ "usrc17607839") = validateIsrc .ascii "usrc17607839" ∧
    normalizeIsrc .ascii (normalizeIsrc .ascii "-usrc") = normalizeIsrc .ascii "-usrc" := by
  have h := isrc_edits_iff .ascii fun c => List.cons_ne_nil _ _
  have hinner {s : String} (hall : (strip s).toList.all (fun c => !isSpace c) = true) : ¬ InnerSpace s := by
    rintro ⟨c, hc, hspace, -⟩
    have := List.all_eq_true.mp hall c hc
    simp [hspace] at this
  have hexposed {s : String} (hall : (strip s).toList.all (fun c => !isSpace c) = true) : ¬ ExposedSpace s := by
    have hends {c : Char} (hc : c ∈ (strip s).toList.filter fun c => !isSeparator c) : isSpace c = false := by
      simpa using List.all_eq_true.mp hall c (List.mem_filter.mp hc).1
    rintro (⟨c, hc, hspace⟩ | ⟨c, hc, hspace⟩)
    · rw [hends (List.mem_of_head? hc)] at hspace
      cases hspace
    · rw [hends (List.mem_of_getLast? hc)] at hspace
      cases hspace
  exact ⟨(h.1 _ _ (edited_hyphen _)).mpr fun _ => iff_of_false (hinner (by decide)) (hinner (by decide)),
    (h.2 "-usrc").mpr (hexposed (by decide))⟩

/-- **A hyphen before a tab costs an ISRC its validity.** The tab before the code is stripped, but not the tab
behind the hyphen; what is normalised with it changes when it is normalised again. -/
theorem hyphen_exposes_tab :
    validateIsrc .ascii "\tUSRC17607839" = .ok "USRC17607839" ∧
      (¬ ∀ s s', Edited s s' → validateIsrc .ascii s' = validateIsrc .ascii s) ∧
      ¬ ∀ s, normalizeIsrc .ascii (normalizeIsrc .ascii s) = normalizeIsrc .ascii s := by
  refine ⟨by decide, fun hall => ?_, fun hall => ?_⟩
  · have hsame := hall _ _ (edited_hyphen "\tUSRC17607839")
    exact absurd hsame (by decide)
  · exact absurd (hall "-\tUSRC17607839") (by decide)

end LookupAggregator.Validation
