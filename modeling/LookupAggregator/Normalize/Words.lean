import LookupAggregator.Lib.Words
import LookupAggregator.Normalize

/-! # Normalised text by words

`collapse_ws` keeps the words of a text and puts one space between them, `norm_compare` folds them:
`toList_collapseWs` and `toList_normCompare`. So texts are alike to `norm_compare` exactly when their folded
words are the same: `normalised_by_words`. -/

namespace LookupAggregator.Normalize

open Lib Py

/-- The words of a text, less their letter case. -/
def foldedWords (cf : CaseFolding) (s : String) : List (List Char) :=
  (words isSpace s.toList).map fun w => w.flatMap cf.fold

/-! ### Collapsing -/

/-- Between words, and where the text ends in one, white space collapses to a space. -/
theorem collapseRuns_eq {l : List Char} (hlast : ∀ pre c, l = pre ++ [c] → isSpace c = false) :
    collapseRuns true l = [' '].intercalate (words isSpace l) ∧
      ((∀ c, l.head? = some c → isSpace c = false) →
        collapseRuns false l = [' '].intercalate (words isSpace l)) := by
  induction l with
  | nil => exact ⟨rfl, fun _ => rfl⟩
  | cons c l ih =>
    have hrest := ih fun pre d hd => hlast (c :: pre) d (by rw [hd]; rfl)
    by_cases hc : isSpace c = true
    · refine ⟨?_, fun hhead => ?_⟩
      · rw [collapseRuns, if_pos hc, if_pos rfl, hrest.1, words_cons_of_pos hc]
      · rw [hhead c rfl] at hc
        cases hc
    · have hword : c :: collapseRuns false l = [' '].intercalate (words isSpace (c :: l)) := by
        rw [words_cons_of_neg (by simpa using hc)]
        cases l with
        | nil => rfl
        | cons d l =>
          dsimp only
          by_cases hd : isSpace d = true
          · -- the text does not end here, so a word follows
            have hne : words isSpace (d :: l) ≠ [] := by
              obtain ⟨pre, e, he⟩ := (List.eq_nil_or_concat (d :: l)).resolve_left (List.cons_ne_nil d l)
              rw [List.concat_eq_append] at he
              rw [he]
              exact words_ne_nil (by simp) (hlast (c :: pre) e (by rw [he]; rfl))
            rw [if_pos hd, List.intercalate_cons_of_ne_nil hne, ← hrest.1]
            simp only [collapseRuns, hd, if_true]
            rfl
          · have hword : words isSpace (d :: l) ≠ [] := words_ne_nil List.mem_cons_self (by simpa using hd)
            obtain ⟨w, ws, hws⟩ := List.exists_cons_of_ne_nil hword
            rw [if_neg hd, hrest.2 (fun e he => by cases he; simpa using hd), hws]
            cases ws <;> simp
      rw [collapseRuns, if_neg hc, collapseRuns, if_neg hc]
      exact ⟨hword, fun _ => hword⟩

theorem words_stripWhile (l : List Char) : words isSpace (stripWhile isSpace l) = words isSpace l := by
  have hfront : words isSpace (l.dropWhile isSpace) = words isSpace l := by
    conv_rhs => rw [← List.takeWhile_append_dropWhile (p := isSpace) (l := l)]
    exact (words_append_of_forall (fun c hc => List.mem_takeWhile_imp hc) _).symm
  have hback : words isSpace (stripWhile isSpace l) = words isSpace (l.dropWhile isSpace) := by
    have hsplit : stripWhile isSpace l ++ (l.dropWhile isSpace).rtakeWhile isSpace = l.dropWhile isSpace :=
      List.rdropWhile_append_rtakeWhile
    conv_rhs => rw [← hsplit]
    exact (words_append_right_of_forall (fun c hc => List.mem_rtakeWhile_imp hc) _).symm
  rw [hback, hfront]

/-- A stripped text begins and ends in no white space. -/
theorem ends_of_stripWhile (l : List Char) :
    (∀ c, (stripWhile isSpace l).head? = some c → isSpace c = false) ∧
      ∀ pre c, stripWhile isSpace l = pre ++ [c] → isSpace c = false := by
  constructor
  · intro c hc
    have hhead := List.head?_dropWhile_not isSpace l
    obtain ⟨t, ht⟩ := List.rdropWhile_prefix isSpace (l.dropWhile isSpace)
    rw [← ht, List.head?_append, show (List.rdropWhile isSpace (l.dropWhile isSpace)).head? = some c from hc]
      at hhead
    simpa using hhead
  · intro pre c hc
    have hne : (l.dropWhile isSpace).rdropWhile isSpace ≠ [] := by
      have : (l.dropWhile isSpace).rdropWhile isSpace = pre ++ [c] := hc
      simp [this]
    have hlast := List.rdropWhile_last_not isSpace (l.dropWhile isSpace) hne
    have heq : (l.dropWhile isSpace).rdropWhile isSpace = pre ++ [c] := hc
    simpa [heq] using hlast

/-- **Collapsing leaves the words, with one space between them.** -/
theorem toList_collapseWs (s : String) :
    (collapseWs s).toList = [' '].intercalate (words isSpace s.toList) := by
  obtain ⟨hhead, hlast⟩ := ends_of_stripWhile s.toList
  rw [collapseWs, String.toList_ofList, (collapseRuns_eq hlast).2 hhead, words_stripWhile]

/-- A collapsed text has the same words. -/
theorem words_collapseWs (s : String) : words isSpace (collapseWs s).toList = words isSpace s.toList := by
  rw [toList_collapseWs, words_intercalate (by decide) fun w hw => isWord_of_mem_words hw]

theorem collapseWs_idem (s : String) : collapseWs (collapseWs s) = collapseWs s := by
  rw [← String.toList_inj, toList_collapseWs (collapseWs s), words_collapseWs, ← toList_collapseWs]

/-- A collapsed text has no white space at its ends, and no two in a row. -/
theorem tidy_collapseWs (s : String) : Tidy isSpace (collapseWs s).toList := by
  rw [toList_collapseWs]
  exact tidy_intercalate ' ' fun w hw => isWord_of_mem_words hw

/-! ### Folding -/

/-- **Normalising leaves the folded words, with one space between them.** -/
theorem toList_normCompare (cf : CaseFolding) (s : Option String) :
    (normCompare cf s).toList = [' '].intercalate (foldedWords cf (s.getD "")) := by
  have hfold (ws : List (List Char)) : ([' '].intercalate ws).flatMap cf.fold =
      [' '].intercalate (ws.map fun w => w.flatMap cf.fold) := by
    induction ws with
    | nil => rfl
    | cons w ws ih =>
      cases ws with
      | nil => simp
      | cons w' ws =>
        rw [List.intercalate_cons_cons, List.flatMap_append, List.flatMap_append, ih]
        simp [cf.fold_space ' ' (by decide)]
  unfold normCompare foldedWords
  split_ifs with h
  · rw [String.toList_ofList, toList_collapseWs, hfold]
  · have hempty : s.getD "" = "" := by
      cases s with
      | none => rfl
      | some s => simpa [truthy] using h
    rw [hempty]
    rfl

theorem isWord_fold (cf : CaseFolding) {w : List Char} (hw : IsWord isSpace w) :
    IsWord isSpace (w.flatMap cf.fold) := by
  obtain ⟨hne, hspace⟩ := hw
  refine ⟨fun hnil => ?_, fun d hd => ?_⟩
  · obtain ⟨c, w, rfl⟩ := List.exists_cons_of_ne_nil hne
    rw [List.flatMap_cons, List.append_eq_nil_iff] at hnil
    exact cf.fold_ne_nil c (hspace c List.mem_cons_self) hnil.1
  · obtain ⟨c, hc, hd⟩ := List.mem_flatMap.mp hd
    exact cf.isSpace_of_mem_fold c (hspace c hc) d hd

/-- Folded words are words. -/
theorem isWord_of_mem_foldedWords {cf : CaseFolding} {s : String} {w : List Char}
    (hw : w ∈ foldedWords cf s) : IsWord isSpace w := by
  obtain ⟨v, hv, rfl⟩ := List.mem_map.mp hw
  exact isWord_fold cf (isWord_of_mem_words hv)

/-- The words of a normalised text are the folded words. -/
theorem words_normCompare (cf : CaseFolding) (s : Option String) :
    words isSpace (normCompare cf s).toList = foldedWords cf (s.getD "") := by
  rw [toList_normCompare, words_intercalate (by decide) fun w hw => isWord_of_mem_foldedWords hw]

theorem normCompare_eq_iff (cf : CaseFolding) (s t : Option String) :
    normCompare cf s = normCompare cf t ↔ foldedWords cf (s.getD "") = foldedWords cf (t.getD "") := by
  constructor
  · intro h
    rw [← words_normCompare, ← words_normCompare, h]
  · intro h
    rw [← String.toList_inj, toList_normCompare, toList_normCompare, h]

theorem not_mem_of_isWord {w : List Char} (hw : IsWord isSpace w) : ' ' ∉ w := fun hmem => by
  have hspace := hw.2 ' ' hmem
  exact absurd hspace (by decide)

/-- **A normalised text is part of another exactly if its folded words stand in a row there.** -/
theorem normCompare_infix_iff (cf : CaseFolding) (s t : Option String) :
    (normCompare cf s).toList <:+: (normCompare cf t).toList ↔
      InRow (foldedWords cf (s.getD "")) (foldedWords cf (t.getD "")) := by
  rw [toList_normCompare, toList_normCompare]
  refine infix_intercalate_iff (fun w hw => ?_) fun t ht => not_mem_of_isWord (isWord_of_mem_foldedWords ht)
  have hword := isWord_of_mem_foldedWords hw
  exact ⟨hword.1, not_mem_of_isWord hword⟩

/-- **Normal forms by words.** Collapsing leaves the words of a text in their order, with one space between them;
so it leaves a collapsed text as it is, and no white space at the ends or in a row. Two texts are normalised alike
if and only if their folded words are the same. -/
theorem normalised_by_words (cf : CaseFolding) :
    (∀ s, (collapseWs s).toList = [' '].intercalate (words isSpace s.toList)) ∧
    (∀ s, collapseWs (collapseWs s) = collapseWs s) ∧
    (∀ s, Tidy isSpace (collapseWs s).toList) ∧
    (∀ s, words isSpace (collapseWs s).toList = words isSpace s.toList) ∧
    ∀ s t, normCompare cf s = normCompare cf t ↔ foldedWords cf (s.getD "") = foldedWords cf (t.getD "") :=
  ⟨toList_collapseWs, collapseWs_idem, tidy_collapseWs, words_collapseWs, normCompare_eq_iff cf⟩

example : collapseWs "\t One  more\n time " = "One more time" := by decide

end LookupAggregator.Normalize
