import LookupAggregator.MusicBrainz.Enrichment

/-! # The release to display

`_pick_display_release` filters its releases twice and sorts what is left. `pickDisplayRelease_iff` says what it
returns: of the releases that are `eligible`, or of those among them that match the hint if there are any, the
first of the lowest rank. -/

namespace LookupAggregator.MusicBrainz

open Lib Py Normalize Providers

/-! ### What may be displayed -/

section Choices
variable (cf : CaseFolding) (isPrintable : Char → Bool) (releases : List Json) (hint : Option String)

/-- An official release that is not of various artists. -/
def isEligible (rel : Items) : Bool :=
  isText "Official" (lookup rel "status") &&
    !decide ("Various Artists".toList <:+: (creditLine isPrintable rel).toList)

/-- The normalised credit contains the normalised hint. -/
def matchesHint (rel : Items) : Bool :=
  decide ((normCompare cf hint).toList <:+: (normCompare cf (some (creditLine isPrintable rel))).toList)

/-- The eligible ones of the releases, which are objects. -/
def eligible : List Items :=
  releases.flatMap fun
    | .obj rel => if isEligible isPrintable rel then [rel] else []
    | _ => []

/-- The eligible ones that match the hint. -/
def hinted : List Items := (eligible isPrintable releases).filter (matchesHint cf isPrintable hint)

/-- The releases among which the rank decides. -/
def choices : List Items :=
  if normCompare cf hint = "" ∨ hinted cf isPrintable releases hint = [] then eligible isPrintable releases
  else hinted cf isPrintable releases hint

/-- Types of release, the ones to prefer first. -/
def preferredTypes : List String := ["Single", "EP", "Album", "Broadcast"]

/-- The type of a release, as a text. -/
def primaryType (rel : Items) : String :=
  ((lookup (subObject rel "release-group") "primary-type").orElse (.str "")).text isPrintable

/-- The date of a release, as a text; without one, it comes after all dates. -/
def displayDate (rel : Items) : String := ((lookup rel "date").orElse (.str "9999-99-99")).text isPrintable

/-- `a` is of a preferred type, any type that is none of these coming last, or of the same one and its date is
not after that of `b`. -/
def RankedBefore (a b : Items) : Prop :=
  preferredTypes.idxOf (primaryType isPrintable a) < preferredTypes.idxOf (primaryType isPrintable b) ∨
    preferredTypes.idxOf (primaryType isPrintable a) = preferredTypes.idxOf (primaryType isPrintable b) ∧
      displayDate isPrintable a ≤ displayDate isPrintable b

end Choices

section Pick
variable {cf : CaseFolding} {isPrintable : Char → Bool} {releases : List Json} {hint : Option String}

/-! ### The two passes -/

/-- What `fits` says, of a release that is official. -/
theorem candidatesOf_obj (text : String) (rel : Items) : candidatesOf cf isPrintable text (.obj rel) =
    if isEligible isPrintable rel && (text = "" ||
      decide (text.toList <:+: (normCompare cf (some (creditLine isPrintable rel))).toList)) then [rel]
    else [] := by
  have hfits : (isText "Official" (lookup rel "status") && fits cf text (creditLine isPrintable rel)) =
      (isEligible isPrintable rel && (text = "" ||
        decide (text.toList <:+: (normCompare cf (some (creditLine isPrintable rel))).toList))) := by
    unfold isEligible fits
    rw [Bool.and_assoc]
  rw [candidatesOf, hfits]

/-- Without a hint, a pass takes what is eligible. -/
theorem flatMap_candidatesOf_empty :
    releases.flatMap (candidatesOf cf isPrintable "") = eligible isPrintable releases := by
  unfold eligible
  congr 1
  funext x
  cases x with
  | obj rel => rw [candidatesOf_obj, decide_eq_true rfl, Bool.true_or, Bool.and_true]
  | _ => rfl

/-- With a hint, it takes what matches. -/
theorem flatMap_candidatesOf_hint (h : normCompare cf hint ≠ "") :
    releases.flatMap (candidatesOf cf isPrintable (normCompare cf hint)) =
      hinted cf isPrintable releases hint := by
  unfold hinted eligible
  rw [List.filter_flatMap]
  congr 1
  funext x
  cases x with
  | obj rel =>
    rw [candidatesOf_obj, decide_eq_false h, Bool.false_or]
    dsimp only
    by_cases helig : isEligible isPrintable rel = true
    · rw [if_pos helig, helig, Bool.true_and, List.filter_singleton, matchesHint, cond_eq_ite]
    · rw [if_neg helig, if_neg (by simp [helig])]
      rfl
  | _ => rfl

/-- **Both passes together** leave the choices. -/
theorem displayRelease_eq : displayRelease cf isPrintable (.arr releases) hint =
    firstByRank isPrintable (choices cf isPrintable releases hint) := by
  unfold displayRelease choices
  dsimp only
  rw [(Json.walked_arr releases).2, flatMap_candidatesOf_empty]
  by_cases hhint : normCompare cf hint = ""
  · rw [hhint, flatMap_candidatesOf_empty, if_pos (Or.inl rfl), ite_self]
  · rw [flatMap_candidatesOf_hint hhint]
    simp only [hhint, false_or]

/-- A pick that raises nothing is the release to display. -/
theorem pickDisplayRelease_eq
    (hcredits : ∀ rel, .obj rel ∈ releases → NullOrList (lookup rel "artist-credit")) :
    pickDisplayRelease cf isPrintable (.arr releases) hint =
      .ok (displayRelease cf isPrintable (.arr releases) hint) := by
  obtain ⟨hwalkable, hwalked⟩ := Json.walked_arr releases
  have hcredit : ∀ x ∈ (Json.arr releases).walked, CreditWalkable x := by
    intro x hx rel hrel _
    rw [hwalked] at hx
    exact (hcredits rel (hrel ▸ hx)).walks.1
  rw [← Json.orElse_arr releases]
  refine ((computes_pickDisplayRelease (.arr releases) hint).eq_ok ⟨hwalkable, hcredit⟩).trans ?_
  rw [Json.orElse_arr]

/-! ### The rank -/

theorem rankLe_total (r s : ℕ × String) : rankLe r s ∨ rankLe s r := by
  unfold rankLe
  rcases lt_trichotomy r.1 s.1 with h | h | h
  · exact Or.inl (Or.inl h)
  · rcases String.le_total r.2 s.2 with hs | hs
    · exact Or.inl (Or.inr ⟨h, hs⟩)
    · exact Or.inr (Or.inr ⟨h.symm, hs⟩)
  · exact Or.inr (Or.inl h)

theorem rankLe_trans {r s t : ℕ × String} (hrs : rankLe r s) (hst : rankLe s t) : rankLe r t := by
  rcases hrs with hrs | ⟨hrs, hrs'⟩
  · rcases hst with hst | ⟨hst, -⟩
    · exact Or.inl (hrs.trans hst)
    · exact Or.inl (hst ▸ hrs)
  · rcases hst with hst | ⟨hst, hst'⟩
    · exact Or.inl (hrs ▸ hst)
    · exact Or.inr ⟨hrs.trans hst, String.le_trans hrs' hst'⟩

/-- A type that is none of the preferred ones has an order above theirs. -/
theorem primaryOrder_eq (t : String) :
    primaryOrder t = if preferredTypes.idxOf t < 4 then preferredTypes.idxOf t else 9 := by
  unfold primaryOrder preferredTypes
  simp only [List.idxOf?_cons, List.idxOf?_nil, List.idxOf_cons, List.idxOf_nil]
  cases "Single" == t
  · cases "EP" == t
    · cases "Album" == t
      · cases "Broadcast" == t <;> rfl
      · rfl
    · rfl
  · rfl

/-- **The rank as the code computes it puts releases in this order.** -/
theorem rankLe_rank_iff (a b : Items) :
    rankLe (rank isPrintable a) (rank isPrintable b) ↔ RankedBefore isPrintable a b := by
  have hle (t : String) : preferredTypes.idxOf t ≤ 4 := List.idxOf_le_length
  have ha := hle (primaryType isPrintable a)
  have hb := hle (primaryType isPrintable b)
  have horder (rel : Items) : (rank isPrintable rel).1 = primaryOrder (primaryType isPrintable rel) := rfl
  have hdate : ¬ (rank isPrintable b).2 < (rank isPrintable a).2 ↔
      displayDate isPrintable a ≤ displayDate isPrintable b := Iff.rfl
  unfold rankLe RankedBefore
  rw [hdate, horder, horder, primaryOrder_eq, primaryOrder_eq]
  refine or_congr ?_ (and_congr_left fun _ => ?_)
  · split_ifs <;> omega
  · split_ifs <;> omega

/-- The first of the lowest rank, if there is one. -/
theorem firstByRank_eq_none {candidates : List Items} :
    firstByRank isPrintable candidates = none ↔ candidates = [] := by
  unfold firstByRank
  rw [List.head?_eq_none_iff, ← List.length_eq_zero_iff, List.length_insertionSort, List.length_eq_zero_iff]

theorem firstByRank_firstLeast {candidates : List Items} (h : candidates ≠ []) :
    ∃ rel, firstByRank isPrintable candidates = some rel ∧
      FirstLeast (RankedBefore isPrintable) candidates rel := by
  have hranked : RankedBefore isPrintable = fun a b => rankLe (rank isPrintable a) (rank isPrintable b) := by
    funext a b
    exact propext (rankLe_rank_iff a b).symm
  rw [hranked]
  exact firstLeast_insertionSort (r := fun a b => rankLe (rank isPrintable a) (rank isPrintable b))
    (fun _ _ => rankLe_total _ _) (fun _ _ _ => rankLe_trans) h

/-! ### The choices -/

theorem choices_eq_nil : choices cf isPrintable releases hint = [] ↔ eligible isPrintable releases = [] := by
  unfold choices
  split_ifs with h
  · rfl
  · rw [not_or] at h
    refine iff_of_false h.2 fun hnone => h.2 ?_
    rw [hinted, hnone]
    rfl

/-- Every choice is eligible, and matches the hint if anything does. -/
theorem of_mem_choices {rel : Items} (h : rel ∈ choices cf isPrintable releases hint) :
    rel ∈ eligible isPrintable releases ∧
      (hinted cf isPrintable releases hint ≠ [] → rel ∈ hinted cf isPrintable releases hint) := by
  unfold choices at h
  split_ifs at h with hall
  · refine ⟨h, fun hsome => ?_⟩
    have hempty := hall.resolve_right hsome
    rw [hinted, List.mem_filter, matchesHint, hempty]
    exact ⟨h, decide_eq_true (List.nil_infix)⟩
  · exact ⟨(List.mem_filter.mp h).1, fun _ => h⟩

end Pick

/-- **What `_pick_display_release` returns**: nothing exactly if no release is eligible, and else the first of
the choices that none is ranked before; so what it returns is eligible, and matches the hint if any eligible
release does. -/
theorem pickDisplayRelease_iff (cf : CaseFolding) (isPrintable : Char → Bool) {releases : List Json}
    (hcredits : ∀ rel, .obj rel ∈ releases → NullOrList (lookup rel "artist-credit")) (hint : Option String) :
    (pickDisplayRelease cf isPrintable (.arr releases) hint = .ok none ↔ eligible isPrintable releases = []) ∧
    (eligible isPrintable releases ≠ [] →
      ∃ rel, pickDisplayRelease cf isPrintable (.arr releases) hint = .ok (some rel) ∧
        FirstLeast (RankedBefore isPrintable) (choices cf isPrintable releases hint) rel) ∧
    ∀ rel, pickDisplayRelease cf isPrintable (.arr releases) hint = .ok (some rel) →
      rel ∈ eligible isPrintable releases ∧
        (hinted cf isPrintable releases hint ≠ [] → rel ∈ hinted cf isPrintable releases hint) := by
  rw [pickDisplayRelease_eq hcredits, displayRelease_eq]
  simp only [Except.ok.injEq]
  rw [firstByRank_eq_none, choices_eq_nil]
  refine ⟨Iff.rfl, fun hne => firstByRank_firstLeast (mt choices_eq_nil.mp hne), fun rel hrel => ?_⟩
  have hne : choices cf isPrintable releases hint ≠ [] := fun hnil => by
    rw [firstByRank_eq_none.mpr hnil] at hrel
    cases hrel
  obtain ⟨rel', hrel', hleast⟩ := firstByRank_firstLeast hne
  obtain rfl := Option.some.inj (hrel'.symm.trans hrel)
  exact of_mem_choices hleast.mem

/-- A bootleg, a null and an official release. -/
def mixedReleases : List Json :=
  [.obj [("status", .str "Bootleg")], .null, .obj [("status", .str "Official")]]

theorem pickDisplayRelease_iff_official :
    pickDisplayRelease .id (fun _ => true) (.arr mixedReleases) (some "Abba") ≠ .ok none := by
  have hcredits : ∀ rel, .obj rel ∈ mixedReleases → NullOrList (lookup rel "artist-credit") := by
    intro rel hrel
    simp only [mixedReleases, List.mem_cons, Json.obj.injEq, List.not_mem_nil, or_false, reduceCtorEq,
      false_or] at hrel
    rcases hrel with rfl | rfl
    · exact Or.inl rfl
    · exact Or.inl rfl
  have h := pickDisplayRelease_iff .id (fun _ => true) hcredits (some "Abba")
  exact fun hnone => List.cons_ne_nil _ _ (h.1.mp hnone)

end LookupAggregator.MusicBrainz
