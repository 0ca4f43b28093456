import LookupAggregator.LookupService.Rows

/-! # Failures and misses

A provider that failed is dropped from a response in which nothing was found, and named in its note. The
test for a failure is the truth value of the error text: an `Exception` without a text leaves a row that
looks like a miss. `noFailureAsMiss_iff` says when that happens, `silent_exception_is_a_miss` that it
does. -/

namespace LookupAggregator.LookupService

open Lib Py Normalize Summary

/-- The call raised an `Exception`, or returned an entry with an error. -/
def Failed : Outcome → Prop
  | .ok entry => truthy entry.error
  | .error (.exception _) => True
  | .error (.baseException _) => False

/-- The note names a provider. -/
def Names (note : Option String) (id : String) : Prop :=
  ∃ text, note = some text ∧ id.toList <:+: text.toList

/-- **No failure passes for a miss**: when nothing was found, a provider that failed has no row without an
error, and the note names it. -/
def NoFailureAsMiss (ts : List (String × Outcome)) (response : LookupResponse) : Prop :=
  response.summary.foundIn = 0 → ∀ t ∈ ts, Failed t.2 →
    (∀ e ∈ response.providers, e.provider = t.1 → e.found = false → truthy e.error) ∧
      Names response.summary.note t.1

/-! ### The note -/

/-- A note clipped at four errors names each of at most four. -/
theorem infix_clip {errs : List String} {err : String} (h : err ∈ errs) (hlen : errs.length ≤ 4) :
    err.toList <:+: (clip errs).toList := by
  unfold clip
  rw [List.take_of_length_le hlen, String.toList_append, String.toList_intercalate]
  exact (infix_intercalate (List.mem_map_of_mem h)).trans (List.prefix_append _ _).isInfix

section Summary
variable {rows : List ProviderEntry} {s : SummaryBlock}

theorem foundIn_summaryWithDroppedErrors (rows : List ProviderEntry) (s : SummaryBlock) :
    (summaryWithDroppedErrors rows s).foundIn = s.foundIn := by
  unfold summaryWithDroppedErrors
  dsimp only
  split_ifs <;> rfl

/-- **The note names every provider dropped**, if no more than four are. -/
theorem names_of_onlyError (hs : s = ⟨0, .low, none⟩) (hlen : rows.length ≤ 4) {p : ProviderEntry}
    (hp : p ∈ rows) (herr : onlyError p) : Names (summaryWithDroppedErrors rows s).note p.provider := by
  have hmem : p.provider ++ ": " ++ p.error.getD "" ∈ droppedErrors rows :=
    List.mem_map.mpr ⟨p, List.mem_filter.mpr ⟨hp, herr⟩, rfl⟩
  have hle : (droppedErrors rows).length ≤ 4 := by
    unfold droppedErrors
    rw [List.length_map]
    exact (List.length_filter_le _ _).trans hlen
  have hnote : (summaryWithDroppedErrors rows s).note =
      some ("Some sources failed (" ++ clip (droppedErrors rows) ++ ").") := by
    unfold summaryWithDroppedErrors
    rw [hs]
    simp [List.ne_nil_of_mem hmem, truthy]
  refine ⟨_, hnote, ?_⟩
  simp only [String.toList_append, List.append_assoc]
  have hpre : p.provider.toList <:+: (p.provider ++ ": " ++ p.error.getD "").toList := by
    simp only [String.toList_append, List.append_assoc]
    exact (List.prefix_append _ _).isInfix
  exact ((hpre.trans (infix_clip hmem hle)).trans (List.prefix_append _ _).isInfix).trans
    (List.suffix_append _ _).isInfix

end Summary

/-! ### When a failure passes for a miss -/

section Condition
variable {st : ProviderSettings} {providers : Dict String Provider} {kind : Kind} {code : String}

theorem length_tasks_le (st : ProviderSettings) (providers : Dict String Provider) (kind : Kind)
    (code : String) : (tasks st providers kind code).length ≤ 4 := by
  have := (ids_tasks_sublist st providers kind code).length_le
  rw [ids, List.length_map] at this
  cases kind <;> exact this

theorem onlyError_ownRow {id : String} {o : Outcome} (hf : Failed o) (hmiss : (ownRow (id, o)).found = false)
    (hne : o ≠ .error (.exception "")) : onlyError (ownRow (id, o)) := by
  unfold onlyError
  rw [hmiss]
  rcases o with (text | text) | e
  · have ht : text ≠ "" := fun h => hne (by rw [h])
    simpa [ownRow, safeCall, gatherRow, ProviderEntry.ofError, truthy] using ht
  · exact hf.elim
  · have he : (fillId id e).error = e.error := by unfold fillId; split_ifs <;> rfl
    show (!false && truthy (fillId id e).error) = true
    rw [he]
    exact hf

/-- The rows of a lookup none of whose code lookups found anything. -/
theorem missed_of_none_found (h : Answers st providers kind code)
    (hno : ∀ t ∈ tasks st providers kind code, ∀ e, t.2 = .ok e → e.found = false)
    {t : String × Outcome} (ht : t ∈ tasks st providers kind code) : (ownRow t).found = false := by
  have ha := h.answers t ht
  obtain ⟨id, o⟩ := t
  rcases o with (text | text) | e
  · rfl
  · exact ha.elim
  · show (fillId id e).found = false
    rw [found_fillId]
    exact hno _ ht e rfl

/-- Without an entry found there is no hint, so every row stays the task's own. -/
theorem rows_of_missed {final : String × Outcome → ProviderEntry}
    (hfinal : ∀ t ∈ tasks st providers kind code, final t = ownRow t ∨
      (ownRow t).found = false ∧ (final t).found ∧
        FoundByHint providers ((tasks st providers kind code).map ownRow) t.1 (final t))
    (hmiss : ∀ t ∈ tasks st providers kind code, (ownRow t).found = false) :
    (tasks st providers kind code).map final = (tasks st providers kind code).map ownRow := by
  refine List.map_congr_left fun t ht => (hfinal t ht).resolve_right ?_
  rintro ⟨-, -, src, hsrc, title, artist, fn, found, hf, -⟩
  obtain ⟨t', ht', rfl⟩ := List.mem_map.mp hsrc
  rw [hmiss t' ht'] at hf
  cases hf

theorem buildSummary_of_missed (cf : CaseFolding)
    (hmiss : ∀ t ∈ tasks st providers kind code, (ownRow t).found = false) :
    buildSummary cf (omitProvidersWithOnlyError ((tasks st providers kind code).map ownRow)) =
      ⟨0, .low, none⟩ := by
  refine buildSummary_eq_of_none cf fun p hp => ?_
  obtain ⟨t, ht, rfl⟩ := List.mem_map.mp (List.mem_of_mem_filter hp)
  exact hmiss t ht

/-- **Of a lookup that found nothing, the response hides a failure exactly when some `Exception` had no
text.** -/
theorem noFailureAsMiss_of_missed (h : Answers st providers kind code)
    (hmiss : ∀ t ∈ tasks st providers kind code, (ownRow t).found = false)
    {s : SummaryBlock} (hs : s = ⟨0, .low, none⟩) :
    NoFailureAsMiss (tasks st providers kind code) ⟨code,
        omitProvidersWithOnlyError ((tasks st providers kind code).map ownRow),
        summaryWithDroppedErrors ((tasks st providers kind code).map ownRow) s⟩ ↔
      ∀ t ∈ tasks st providers kind code, t.2 ≠ .error (.exception "") := by
  have hid : ∀ t ∈ tasks st providers kind code, (ownRow t).provider = t.1 :=
    fun t ht => provider_ownRow (h.answers t ht) (h.ids t ht)
  constructor
  · intro hno t ht hte
    obtain ⟨id, o⟩ := t
    obtain rfl : o = .error (.exception "") := hte
    -- the row of the failure is kept, as its error has no text
    have hrow : ProviderEntry.ofError id "" ∈
        omitProvidersWithOnlyError ((tasks st providers kind code).map ownRow) :=
      List.mem_filter.mpr ⟨List.mem_map.mpr ⟨_, ht, rfl⟩, by simp [onlyError, truthy, ProviderEntry.ofError]⟩
    have hzero : (summaryWithDroppedErrors ((tasks st providers kind code).map ownRow) s).foundIn = 0 := by
      rw [foundIn_summaryWithDroppedErrors, hs]
    have herr := (hno hzero _ ht trivial).1 _ hrow rfl rfl
    simp [truthy, ProviderEntry.ofError] at herr
  · intro hne _ t ht hf
    have herr : onlyError (ownRow t) := onlyError_ownRow hf (hmiss t ht) (hne t ht)
    constructor
    · intro e he hpe _
      obtain ⟨rfl, hkeep⟩ := row_of_kept hid ht he hpe
      exact absurd herr (by simp [hkeep])
    · have hlen : ((tasks st providers kind code).map ownRow).length ≤ 4 := by
        rw [List.length_map]
        exact length_tasks_le ..
      have hnames := names_of_onlyError hs hlen (List.mem_map_of_mem ht) herr
      rwa [hid t ht] at hnames

/-- **A failure passes for a miss exactly when nothing was found by code and some `Exception` had no
text.** -/
theorem noFailureAsMiss_iff (cf : CaseFolding) (h : Answers st providers kind code)
    (c : Completion (tasks st providers kind code).length) :
    ∃ response, lookup cf st providers kind code c none = .ok response ∧
      (NoFailureAsMiss (tasks st providers kind code) response ↔
        (∃ t ∈ tasks st providers kind code, ∃ e, t.2 = .ok e ∧ e.found) ∨
          ∀ t ∈ tasks st providers kind code, t.2 ≠ .error (.exception "")) := by
  obtain ⟨final, hok, hfinal⟩ := lookup_final cf h c
  refine ⟨_, hok, ?_⟩
  by_cases hfound : ∃ t ∈ tasks st providers kind code, ∃ e, t.2 = .ok e ∧ e.found
  · -- an entry found is counted, so there is nothing to show
    refine iff_of_true (fun h0 => ?_) (.inl hfound)
    obtain ⟨t, ht, e, hte, hf⟩ := hfound
    have he := final_of_found hte hf ((hfinal t ht).imp id And.left)
    rw [foundIn_summaryWithDroppedErrors, foundIn_buildSummary, List.countP_eq_zero] at h0
    have hrow : final t ∈ omitProvidersWithOnlyError ((tasks st providers kind code).map final) :=
      List.mem_filter.mpr ⟨List.mem_map_of_mem ht, by simp [onlyError, he, hf]⟩
    exact absurd (by simp [he, hf]) (h0 _ hrow)
  · have hno : ∀ t ∈ tasks st providers kind code, ∀ e, t.2 = .ok e → e.found = false :=
      fun t ht e hte => by
        by_contra hf
        exact hfound ⟨t, ht, e, hte, by simpa using hf⟩
    have hmiss : ∀ t ∈ tasks st providers kind code, (ownRow t).found = false :=
      fun t ht => missed_of_none_found h hno ht
    rw [or_iff_right hfound, rows_of_missed hfinal hmiss]
    exact noFailureAsMiss_of_missed h hmiss (buildSummary_of_missed cf hmiss)

end Condition

/-- Deezer times out, the only one asked. -/
theorem noFailureAsMiss_iff_timeout : ∃ response,
    lookup .id ⟨false, true, false, false, false⟩ twoProviders .isrc "USRC17607839" ⟨[0], by decide⟩
      none = .ok response ∧
    (NoFailureAsMiss (tasks ⟨false, true, false, false, false⟩ twoProviders .isrc "USRC17607839") response ↔
      (∃ t ∈ tasks ⟨false, true, false, false, false⟩ twoProviders .isrc "USRC17607839",
        ∃ e, t.2 = .ok e ∧ e.found) ∨
      ∀ t ∈ tasks ⟨false, true, false, false, false⟩ twoProviders .isrc "USRC17607839",
        t.2 ≠ .error (.exception "")) := by
  have htasks : tasks ⟨false, true, false, false, false⟩ twoProviders .isrc "USRC17607839" =
      [("deezer", .error (.exception "timeout"))] := rfl
  refine noFailureAsMiss_iff .id ⟨?_, ?_, fun _ _ q => searches_twoProviders q⟩ _
  · rw [htasks]
    simp [Outcome.IsAnswer]
  · rw [htasks]
    simp [Outcome.CarriesId]

/-- **An `Exception` without a text leaves a row like that of a miss.** -/
theorem silent_exception_is_a_miss : ¬ ∀ cf st providers kind code c response,
    Answers st providers kind code → lookup cf st providers kind code c none = .ok response →
      NoFailureAsMiss (tasks st providers kind code) response := by
  intro hall
  have htasks : tasks ⟨false, true, false, false, false⟩ twoProviders .upc "602445790128" =
      [("deezer", .error (.exception ""))] := rfl
  have hanswers : Answers ⟨false, true, false, false, false⟩ twoProviders .upc "602445790128" := by
    refine ⟨?_, ?_, fun _ _ q => searches_twoProviders q⟩
    · rw [htasks]
      simp [Outcome.IsAnswer]
    · rw [htasks]
      simp [Outcome.CarriesId]
  have hrow := (hall .id _ _ _ _ ⟨[0], by decide⟩
    ⟨"602445790128", [.ofError "deezer" ""], ⟨0, .low, none⟩⟩ hanswers rfl rfl
    ("deezer", .error (.exception "")) (by rw [htasks]; exact List.mem_singleton_self _) trivial).1
    _ (List.mem_singleton_self _) rfl rfl
  exact absurd hrow (by decide)

end LookupAggregator.LookupService
