import Mathlib.Data.List.Perm.Basic
import LookupAggregator.Lib.Lists
import LookupAggregator.Summary

/-! # What a confidence says

`build_summary` compares every title and every artist with the first one. `high_iff_agree`: on collapsed
texts its "high" is pairwise agreement, and the summary depends on nothing but the entries found, in any
order.

Missing texts count for an agreement and for a conflict: two entries without titles and artists are said
to agree in part, and one title besides an entry without a title is said to differ from it.
`agreement_shown_iff` and `conflict_shown_iff` say exactly when a verdict has entries to show for it. -/

namespace LookupAggregator.Summary

open Lib Py Normalize

/-! ### Texts that agree -/

/-- **Agreement with the first text is agreement of any two.** -/
theorem agree_iff {texts : List String} :
    agree texts ↔ texts ≠ [] ∧ (∀ t ∈ texts, t ≠ "") ∧ ∀ t ∈ texts, ∀ t' ∈ texts, t = t' := by
  cases texts with
  | nil => simp [agree]
  | cons t texts =>
    simp only [agree, decide_eq_true_eq, List.all_eq_true, ne_eq, reduceCtorEq, not_false_eq_true, true_and]
    constructor
    · rintro ⟨hne, hall⟩
      refine ⟨fun x hx => ?_, fun x hx y hy => (hall x hx).trans (hall y hy).symm⟩
      rw [hall x hx]
      exact hne
    · rintro ⟨hne, hall⟩
      exact ⟨hne t List.mem_cons_self, fun x hx => hall x hx t List.mem_cons_self⟩

theorem agree_perm {texts texts' : List String} (h : texts.Perm texts') : agree texts = agree texts' := by
  have hnil : texts = [] ↔ texts' = [] := ⟨fun he => (he ▸ h).nil_eq.symm, fun he => (he ▸ h).eq_nil⟩
  rw [Bool.eq_iff_iff, agree_iff, agree_iff]
  simp only [ne_eq, hnil, h.mem_iff]

/-! ### Normal forms -/

/-- Case folding drops nothing. -/
theorem flatMap_fold_eq_nil {cf : CaseFolding} {l : List Char} : l.flatMap cf.fold = [] ↔ l = [] := by
  constructor
  · intro h
    cases l with
    | nil => rfl
    | cons c l =>
      have hc : cf.fold c = [] := (List.append_eq_nil_iff.mp h).1
      cases hs : isSpace c with
      | false => exact absurd hc (cf.fold_ne_nil c hs)
      | true =>
        rw [cf.fold_space c hs] at hc
        cases hc
  · rintro rfl
    rfl

theorem normCompare_eq_empty {cf : CaseFolding} {s : Option String} (h : truthy s) :
    normCompare cf s = "" ↔ collapseWs (s.getD "") = "" := by
  unfold normCompare
  rw [if_pos h]
  generalize collapseWs (s.getD "") = text
  rw [← String.toList_inj, ← String.toList_inj, String.toList_ofList]
  exact flatMap_fold_eq_nil

theorem truthy_of_normCompare {cf : CaseFolding} {s : Option String} (h : normCompare cf s ≠ "") :
    truthy s := by
  by_contra hn
  exact h (if_neg hn)

/-- `None`, or a text with its white space collapsed. -/
def Collapsed (s : Option String) : Prop := ∀ t, s = some t → collapseWs t = t

theorem Collapsed.normCompare_ne_empty {cf : CaseFolding} {s : Option String} (hc : Collapsed s)
    (h : truthy s) : normCompare cf s ≠ "" := by
  rw [Ne, normCompare_eq_empty h]
  cases s with
  | none => cases h
  | some t =>
    rw [Option.getD_some, hc t rfl]
    simpa [truthy] using h

/-! ### Titles and artists of the entries found -/

section Texts
variable (cf : CaseFolding) (field : ProviderEntry → Option String)

theorem mem_normalized {l : List ProviderEntry} {t : String} :
    t ∈ normalized cf field l ↔ ∃ p ∈ l, truthy (field p) ∧ normCompare cf (field p) = t := by
  simp [normalized, and_assoc]

theorem normalized_perm {l l' : List ProviderEntry} (h : l.Perm l') :
    (normalized cf field l).Perm (normalized cf field l') := (h.filter _).map _

/-- The entries found that have a text in the field. -/
def having (l : List ProviderEntry) : ℕ := l.countP fun p => p.found && truthy (field p)

theorem length_normalized (l : List ProviderEntry) :
    (normalized cf field (l.filter ProviderEntry.found)).length = having field l := by
  rw [normalized, List.length_map, List.filter_filter, having, List.countP_eq_length_filter]
  congr 2
  funext p
  exact Bool.and_comm _ _

end Texts

/-- `title_agree`. -/
def titleAgree (cf : CaseFolding) (l : List ProviderEntry) : Bool :=
  let titles := normalized cf ProviderEntry.title (l.filter ProviderEntry.found)
  decide (titles.length ≥ 2) && agree titles

/-- `artist_agree`. -/
def artistAgree (cf : CaseFolding) (l : List ProviderEntry) : Bool :=
  let artists := normalized cf ProviderEntry.artist (l.filter ProviderEntry.found)
  decide (artists.length < 2) || agree artists

section Verdict
variable (cf : CaseFolding) {l : List ProviderEntry}

theorem titleAgree_iff : titleAgree cf l ↔ 2 ≤ having ProviderEntry.title l ∧
    agree (normalized cf ProviderEntry.title (l.filter ProviderEntry.found)) := by
  rw [titleAgree, length_normalized, Bool.and_eq_true, decide_eq_true_eq]

theorem artistAgree_iff : artistAgree cf l ↔ having ProviderEntry.artist l < 2 ∨
    agree (normalized cf ProviderEntry.artist (l.filter ProviderEntry.found)) := by
  rw [artistAgree, length_normalized, Bool.or_eq_true, decide_eq_true_eq]

/-- **The verdict on two entries or more.** -/
theorem confidence_of_two (h : 2 ≤ l.countP ProviderEntry.found) :
    (buildSummary cf l).confidence =
      if titleAgree cf l && artistAgree cf l then .high
      else if titleAgree cf l || (decide (having ProviderEntry.title l = 0) && artistAgree cf l) then .medium
      else .low := by
  have hempty : (normalized cf ProviderEntry.title (l.filter ProviderEntry.found)).isEmpty =
      decide (having ProviderEntry.title l = 0) := by
    rw [← length_normalized cf, Bool.eq_iff_iff, List.isEmpty_iff_length_eq_zero, decide_eq_true_eq]
  rw [← hempty]
  unfold buildSummary titleAgree artistAgree
  rw [List.countP_eq_length_filter] at h
  dsimp only
  rw [if_neg (by omega), if_neg (by omega)]
  split_ifs <;> rfl

theorem confidence_eq_high_iff (h : 2 ≤ l.countP ProviderEntry.found) :
    (buildSummary cf l).confidence = .high ↔ titleAgree cf l ∧ artistAgree cf l := by
  rw [confidence_of_two cf h]
  by_cases hT : having ProviderEntry.title l = 0 <;>
    cases titleAgree cf l <;> cases artistAgree cf l <;> simp [hT]

/-- **"Low" is what is left**: no agreement on the titles, nor on the artists where there is no title. -/
theorem confidence_eq_low_iff (h : 2 ≤ l.countP ProviderEntry.found) :
    (buildSummary cf l).confidence = .low ↔
      ¬ titleAgree cf l ∧ ¬ (having ProviderEntry.title l = 0 ∧ artistAgree cf l) := by
  rw [confidence_of_two cf h]
  by_cases hT : having ProviderEntry.title l = 0 <;>
    cases titleAgree cf l <;> cases artistAgree cf l <;> simp [hT]

end Verdict

theorem buildSummary_ne_high (cf : CaseFolding) {l : List ProviderEntry}
    (h : ¬ 2 ≤ l.countP ProviderEntry.found) : (buildSummary cf l).confidence ≠ .high := by
  rw [List.countP_eq_length_filter] at h
  unfold buildSummary
  dsimp only
  split_ifs with h0 h1
  · simp
  · simp
  all_goals omega

/-- The summary reads nothing but the entries found. -/
theorem buildSummary_filter (cf : CaseFolding) (l : List ProviderEntry) :
    buildSummary cf (l.filter ProviderEntry.found) = buildSummary cf l := by
  unfold buildSummary
  rw [List.filter_filter]
  simp only [Bool.and_self]

/-- **The order of the entries does not matter.** -/
theorem buildSummary_perm (cf : CaseFolding) {l l' : List ProviderEntry} (h : l.Perm l') :
    buildSummary cf l = buildSummary cf l' := by
  have hf := h.filter ProviderEntry.found
  have ht := normalized_perm cf ProviderEntry.title hf
  have ha := normalized_perm cf ProviderEntry.artist hf
  have hempty : (normalized cf ProviderEntry.title (l.filter ProviderEntry.found)).isEmpty =
      (normalized cf ProviderEntry.title (l'.filter ProviderEntry.found)).isEmpty := by
    rw [Bool.eq_iff_iff, List.isEmpty_iff_length_eq_zero, List.isEmpty_iff_length_eq_zero, ht.length_eq]
  unfold buildSummary
  dsimp only
  rw [hf.length_eq, ht.length_eq, ha.length_eq, agree_perm ht, agree_perm ha, hempty]

/-! ### High -/

/-- Any two texts of entries found agree. -/
def AllAgree (cf : CaseFolding) (field : ProviderEntry → Option String) (l : List ProviderEntry) : Prop :=
  ∀ p ∈ l, ∀ q ∈ l, p.found → q.found → truthy (field p) → truthy (field q) →
    normCompare cf (field p) = normCompare cf (field q)

/-- On texts that are not blank, agreement of the normal forms is agreement of any two. -/
theorem agree_normalized_iff {cf : CaseFolding} {field : ProviderEntry → Option String}
    {l : List ProviderEntry}
    (hne : ∀ p ∈ l, p.found → truthy (field p) → normCompare cf (field p) ≠ "")
    (h : having field l ≠ 0) :
    agree (normalized cf field (l.filter ProviderEntry.found)) ↔ AllAgree cf field l := by
  rw [agree_iff]
  constructor
  · rintro ⟨-, -, hall⟩ p hp q hq hpf hqf hpt hqt
    exact hall _ ((mem_normalized cf field).mpr ⟨p, List.mem_filter.mpr ⟨hp, hpf⟩, hpt, rfl⟩)
      _ ((mem_normalized cf field).mpr ⟨q, List.mem_filter.mpr ⟨hq, hqf⟩, hqt, rfl⟩)
  · intro hall
    refine ⟨fun hnil => h ?_, fun t ht => ?_, fun t ht t' ht' => ?_⟩
    · rw [← length_normalized cf field l, hnil]
      rfl
    · obtain ⟨p, hp, hpt, rfl⟩ := (mem_normalized cf field).mp ht
      obtain ⟨hp, hpf⟩ := List.mem_filter.mp hp
      exact hne p hp hpf hpt
    · obtain ⟨p, hp, hpt, rfl⟩ := (mem_normalized cf field).mp ht
      obtain ⟨q, hq, hqt, rfl⟩ := (mem_normalized cf field).mp ht'
      obtain ⟨hp, hpf⟩ := List.mem_filter.mp hp
      obtain ⟨hq, hqf⟩ := List.mem_filter.mp hq
      exact hall p hp q hq hpf hqf hpt hqt

/-- Fewer than two texts agree. -/
theorem allAgree_of_having_lt {cf : CaseFolding} {field : ProviderEntry → Option String}
    {l : List ProviderEntry} (h : having field l < 2) : AllAgree cf field l := by
  intro p hp q hq hpf hqf hpt hqt
  have hmem (r : ProviderEntry) (hr : r ∈ l) (hf : r.found) (ht : truthy (field r)) :
      r ∈ l.filter fun p => p.found && truthy (field p) := List.mem_filter.mpr ⟨hr, by simp [hf, ht]⟩
  have hone : (l.filter fun p => p.found && truthy (field p)).length < 2 := by
    rwa [← List.countP_eq_length_filter]
  rw [eq_of_length_lt_two hone (hmem p hp hpf hpt) (hmem q hq hqf hqt)]

/-- **"High" is pairwise agreement, on collapsed texts; the order and the entries not found do not matter.** -/
theorem high_iff_agree (cf : CaseFolding) {l : List ProviderEntry}
    (h : ∀ p ∈ l, Collapsed p.title ∧ Collapsed p.artist) :
    ((buildSummary cf l).confidence = .high ↔
      2 ≤ l.countP ProviderEntry.found ∧ 2 ≤ having ProviderEntry.title l ∧
        AllAgree cf ProviderEntry.title l ∧ AllAgree cf ProviderEntry.artist l) ∧
    (∀ l', l.Perm l' → buildSummary cf l' = buildSummary cf l) ∧
    ∀ l', l'.filter ProviderEntry.found = l.filter ProviderEntry.found →
      buildSummary cf l' = buildSummary cf l := by
  refine ⟨?_, fun l' hl => (buildSummary_perm cf hl).symm, fun l' hl => ?_⟩
  · by_cases h2 : 2 ≤ l.countP ProviderEntry.found
    · have htitle : ∀ p ∈ l, p.found → truthy p.title → normCompare cf p.title ≠ "" :=
        fun p hp _ hpt => (h p hp).1.normCompare_ne_empty hpt
      have hartist : ∀ p ∈ l, p.found → truthy p.artist → normCompare cf p.artist ≠ "" :=
        fun p hp _ hpt => (h p hp).2.normCompare_ne_empty hpt
      have hT : titleAgree cf l ↔ 2 ≤ having ProviderEntry.title l ∧ AllAgree cf ProviderEntry.title l := by
        rw [titleAgree_iff]
        exact and_congr_right fun ht => agree_normalized_iff htitle (by omega)
      have hA : artistAgree cf l ↔ AllAgree cf ProviderEntry.artist l := by
        rw [artistAgree_iff]
        by_cases ha : having ProviderEntry.artist l < 2
        · exact iff_of_true (.inl ha) (allAgree_of_having_lt ha)
        · rw [or_iff_right ha]
          exact agree_normalized_iff hartist (by omega)
      rw [confidence_eq_high_iff cf h2, hT, hA, and_assoc]
      exact (and_iff_right h2).symm
    · simp [buildSummary_ne_high cf h2, h2]
  · rw [← buildSummary_filter cf l', hl, buildSummary_filter]

/-- An entry found, with a title and an artist. -/
def hit (title artist : Option String) : ProviderEntry :=
  ⟨"musicbrainz", true, title, artist, none, none, none, none⟩

/-- Two entries that agree. -/
theorem high_iff_agree_two : (buildSummary .id [hit "Same" "Art", hit "Same" "Art"]).confidence = .high ∧
    ∀ l', [hit "Same" "Art", hit "Same" "Art"].Perm l' →
      buildSummary .id l' = buildSummary .id [hit "Same" "Art", hit "Same" "Art"] := by
  have hcollapsed : ∀ p ∈ [hit "Same" "Art", hit "Same" "Art"], Collapsed p.title ∧ Collapsed p.artist := by
    intro p hp
    obtain rfl : p = hit "Same" "Art" := by simpa using hp
    constructor <;> rintro t ⟨⟩ <;> decide
  have h := high_iff_agree .id hcollapsed
  refine ⟨h.1.mpr ⟨by decide, by decide, fun p hp q hq _ _ _ _ => ?_, fun p hp q hq _ _ _ _ => ?_⟩, h.2.1⟩
  all_goals
    obtain rfl : p = hit "Same" "Art" := by simpa using hp
    obtain rfl : q = hit "Same" "Art" := by simpa using hq
    rfl

/-! ### Agreement and conflict with entries to show -/

/-- Two entries found whose texts have the same normal form, which is not empty. -/
def Alike (cf : CaseFolding) (field : ProviderEntry → Option String) (p q : ProviderEntry) : Prop :=
  normCompare cf (field p) = normCompare cf (field q) ∧ normCompare cf (field p) ≠ ""

/-- Two different entries found are alike in their titles or in their artists. -/
def AgreementShown (cf : CaseFolding) (l : List ProviderEntry) : Prop :=
  ∃ p q, [p, q].Sublist l ∧ p.found ∧ q.found ∧
    (Alike cf ProviderEntry.title p q ∨ Alike cf ProviderEntry.artist p q)

/-- Two entries found whose texts have different normal forms, which are not empty. -/
def Conflict (cf : CaseFolding) (field : ProviderEntry → Option String) (l : List ProviderEntry) : Prop :=
  ∃ p ∈ l, ∃ q ∈ l, p.found ∧ q.found ∧ normCompare cf (field p) ≠ "" ∧
    normCompare cf (field q) ≠ "" ∧ normCompare cf (field p) ≠ normCompare cf (field q)

section Shown
variable {cf : CaseFolding} {field : ProviderEntry → Option String} {l : List ProviderEntry}

/-- Two texts that agree are those of two different entries. -/
theorem exists_alike (h2 : 2 ≤ having field l)
    (h : agree (normalized cf field (l.filter ProviderEntry.found))) :
    ∃ p q, [p, q].Sublist l ∧ p.found ∧ q.found ∧ Alike cf field p q := by
  obtain ⟨p, q, hsub, hp, hq⟩ := exists_pair_of_two_le_countP h2
  simp only [Bool.and_eq_true] at hp hq
  have hpl : p ∈ l := hsub.subset (by simp)
  have hql : q ∈ l := hsub.subset (by simp)
  obtain ⟨-, hne, hall⟩ := agree_iff.mp h
  have hpn := (mem_normalized cf field).mpr ⟨p, List.mem_filter.mpr ⟨hpl, hp.1⟩, hp.2, rfl⟩
  have hqn := (mem_normalized cf field).mpr ⟨q, List.mem_filter.mpr ⟨hql, hq.1⟩, hq.2, rfl⟩
  exact ⟨p, q, hsub, hp.1, hq.1, hall _ hpn _ hqn, hne _ hpn⟩

/-- Two entries that are alike both have a text. -/
theorem having_of_alike {p q : ProviderEntry} (hsub : [p, q].Sublist l) (hp : p.found) (hq : q.found)
    (h : Alike cf field p q) : 2 ≤ having field l := by
  have hpt := truthy_of_normCompare h.2
  have hqt := truthy_of_normCompare (h.1 ▸ h.2)
  have hle := hsub.countP_le (p := fun p => p.found && truthy (field p))
  unfold having
  simpa [hp, hq, hpt, hqt] using hle

/-- A field without conflict in which no text is blank agrees. -/
theorem agree_of_no_conflict (hno : ¬ Conflict cf field l) (h : having field l ≠ 0)
    (hblank : ∀ p ∈ l, p.found → truthy (field p) → normCompare cf (field p) ≠ "") :
    agree (normalized cf field (l.filter ProviderEntry.found)) := by
  refine (agree_normalized_iff hblank h).mpr fun p hp q hq hpf hqf hpt hqt => ?_
  by_contra hne
  exact hno ⟨p, hp, q, hq, hpf, hqf, hblank p hp hpf hpt, hblank q hq hqf hqt, hne⟩

/-- Where all texts agree, none is blank. -/
theorem not_blank_of_agree (h : agree (normalized cf field (l.filter ProviderEntry.found))) :
    ∀ p ∈ l, p.found → truthy (field p) → normCompare cf (field p) ≠ "" := fun p hp hpf hpt =>
  (agree_iff.mp h).2.1 _ ((mem_normalized cf field).mpr ⟨p, List.mem_filter.mpr ⟨hp, hpf⟩, hpt, rfl⟩)

end Shown

/-- **"High" and "medium" have two entries that agree, unless no entry found has a title and fewer than two
have an artist.** -/
theorem agreement_shown_iff (cf : CaseFolding) {l : List ProviderEntry}
    (h : 2 ≤ l.countP ProviderEntry.found) :
    ((buildSummary cf l).confidence = .high ∨ (buildSummary cf l).confidence = .medium →
      AgreementShown cf l) ↔
      having ProviderEntry.title l ≠ 0 ∨ 2 ≤ having ProviderEntry.artist l := by
  have hconf : (buildSummary cf l).confidence = .high ∨ (buildSummary cf l).confidence = .medium ↔
      titleAgree cf l ∨ having ProviderEntry.title l = 0 ∧ artistAgree cf l := by
    have hlow := confidence_eq_low_iff cf h
    rw [← not_or] at hlow
    rw [← not_iff_not, ← hlow]
    cases (buildSummary cf l).confidence <;> simp
  rw [hconf, titleAgree_iff, artistAgree_iff]
  constructor
  · intro hshown
    by_contra hno
    push Not at hno
    obtain ⟨hT, hA⟩ := hno
    obtain ⟨p, q, hsub, hp, hq, halike⟩ := hshown (.inr ⟨hT, .inl hA⟩)
    rcases halike with halike | halike
    · have := having_of_alike hsub hp hq halike
      omega
    · have := having_of_alike hsub hp hq halike
      omega
  · rintro hcond (⟨hlen, hagree⟩ | ⟨hT, hartist⟩)
    · obtain ⟨p, q, hsub, hp, hq, halike⟩ := exists_alike hlen hagree
      exact ⟨p, q, hsub, hp, hq, .inl halike⟩
    · have hA := hcond.resolve_left (not_not.mpr hT)
      have hagree := hartist.resolve_left (by omega)
      obtain ⟨p, q, hsub, hp, hq, halike⟩ := exists_alike hA hagree
      exact ⟨p, q, hsub, hp, hq, .inr halike⟩

/-- Two entries with one artist. -/
theorem agreement_shown_iff_artists : AgreementShown .id [hit none "Art", hit none " Art "] :=
  (agreement_shown_iff .id (l := [hit none "Art", hit none " Art "]) (by decide)).mpr
    (.inr (by decide)) (.inr (by decide))

/-- **Two entries without title and artist are said to agree in part.** -/
theorem agreement_without_texts : ¬ ∀ cf l, 2 ≤ l.countP ProviderEntry.found →
    (buildSummary cf l).confidence = .high ∨ (buildSummary cf l).confidence = .medium →
      AgreementShown cf l := by
  intro hall
  obtain ⟨p, q, hsub, -, -, halike⟩ := hall .id [hit none none, hit none none] (by decide) (.inr (by decide))
  obtain rfl : p = hit none none := by simpa using hsub.subset List.mem_cons_self
  rcases halike with ⟨-, hne⟩ | ⟨-, hne⟩ <;> exact hne rfl

/-- **"Low" has two entries that differ, unless there is no conflict and yet exactly one title, a blank title,
or, without titles, a blank artist among two or more.** -/
theorem conflict_shown_iff (cf : CaseFolding) {l : List ProviderEntry}
    (h : 2 ≤ l.countP ProviderEntry.found) :
    ((buildSummary cf l).confidence = .low →
      Conflict cf ProviderEntry.title l ∨ Conflict cf ProviderEntry.artist l) ↔
      Conflict cf ProviderEntry.title l ∨ Conflict cf ProviderEntry.artist l ∨
        having ProviderEntry.title l ≠ 1 ∧
        (∀ p ∈ l, p.found → truthy p.title → normCompare cf p.title ≠ "") ∧
        (having ProviderEntry.title l = 0 → 2 ≤ having ProviderEntry.artist l →
          ∀ p ∈ l, p.found → truthy p.artist → normCompare cf p.artist ≠ "") := by
  by_cases hct : Conflict cf ProviderEntry.title l
  · simp [hct]
  by_cases hca : Conflict cf ProviderEntry.artist l
  · simp [hca]
  have hlow : ¬ (buildSummary cf l).confidence = .low ↔
      titleAgree cf l ∨ having ProviderEntry.title l = 0 ∧ artistAgree cf l := by
    rw [confidence_eq_low_iff cf h, ← not_or, not_not]
  simp only [hct, hca, false_or, or_false, imp_false]
  rw [hlow, titleAgree_iff, artistAgree_iff]
  constructor
  · rintro (⟨hlen, hagree⟩ | ⟨hT, hartist⟩)
    · refine ⟨by omega, not_blank_of_agree hagree, fun hT => by omega⟩
    · refine ⟨by omega, fun p hp hpf hpt => ?_, fun _ hA => not_blank_of_agree (hartist.resolve_left (by omega))⟩
      -- there is no title
      have hnone := List.countP_eq_zero.mp hT p hp
      simp [hpf, hpt] at hnone
  · rintro ⟨hone, htitle, hartist⟩
    by_cases hT : having ProviderEntry.title l = 0
    · refine .inr ⟨hT, ?_⟩
      by_cases hA : having ProviderEntry.artist l < 2
      · exact .inl hA
      · exact .inr (agree_of_no_conflict hca (by omega) (hartist hT (by omega)))
    · exact .inl ⟨by omega, agree_of_no_conflict hct hT htitle⟩

/-- Two titles that differ. -/
theorem conflict_shown_iff_titles :
    Conflict .id ProviderEntry.title [hit "One" "A", hit "Two" "A"] ∨
      Conflict .id ProviderEntry.artist [hit "One" "A", hit "Two" "A"] :=
  (conflict_shown_iff .id (l := [hit "One" "A", hit "Two" "A"]) (by decide)).mpr
    (.inl ⟨hit "One" "A", by simp, hit "Two" "A", by simp, rfl, rfl, by decide, by decide, by decide⟩)
    (by decide)

/-- **One title besides an entry without a title is said to differ from it.** -/
theorem conflict_without_texts : ¬ ∀ cf l, 2 ≤ l.countP ProviderEntry.found →
    (buildSummary cf l).confidence = .low →
      Conflict cf ProviderEntry.title l ∨ Conflict cf ProviderEntry.artist l := by
  intro hall
  rcases hall .id [hit "One" "A", hit none "A"] (by decide) (by decide) with hc | hc
  · obtain ⟨p, hp, q, hq, -, -, hpne, hqne, hne⟩ := hc
    have hcases (r : ProviderEntry) (hr : r ∈ [hit "One" "A", hit none "A"])
        (hrne : normCompare .id r.title ≠ "") : r = hit "One" "A" := by
      rcases List.mem_cons.mp hr with rfl | hr
      · rfl
      · obtain rfl := List.mem_singleton.mp hr
        exact absurd rfl hrne
    rw [hcases p hp hpne, hcases q hq hqne] at hne
    exact hne rfl
  · obtain ⟨p, hp, q, hq, -, -, -, -, hne⟩ := hc
    have hartist (r : ProviderEntry) (hr : r ∈ [hit "One" "A", hit none "A"]) : r.artist = some "A" := by
      rcases List.mem_cons.mp hr with rfl | hr
      · rfl
      · obtain rfl := List.mem_singleton.mp hr
        rfl
    rw [hartist p hp, hartist q hq] at hne
    exact hne rfl

end LookupAggregator.Summary
