import LookupAggregator.LookupService.Catalogue
import LookupAggregator.LookupService.Failures
import LookupAggregator.Providers.Contract

/-! # The service as the application runs it

The five providers that `lifespan` registers, all of them as their code is, over upstreams that answer
anything. Every response that a lookup assembles is well formed (`WellFormed`): its rows keep the contract
of their providers, none has nothing but an error, and the summary says of them what it should
(`assemble_wellFormed`). -/

namespace LookupAggregator.LookupService

open Lib Py Normalize Summary Providers

/-! ### The providers -/

/-- What Python's library decides: the characters that `isalnum` and `isprintable` hold of, and the integer
part of a float, by its text. -/
structure Python where
  caseFolding : CaseFolding
  alnum : Wikidata.AlnumClass
  isPrintable : Char → Bool
  truncate : String → ℤ

/-- The answers of all upstreams during one lookup. -/
structure AllUpstreams extends Upstreams where
  wikidata : String → Fetched
  openLibrary : Items → Fetched

/-- What awaiting a method of Open Library gives. -/
def openLibraryOutcome : Except OpenLibrary.LookupError ProviderEntry → Outcome
  | .ok entry => .ok entry
  | .error e => .error (.exception e.text)

section Providers
variable (py : Python) (sparqlUrl : String) (up : AllUpstreams)

/-- `WikidataIsrcProvider`. -/
def wikidata : Provider where
  lookupIsrc code := outcome (Wikidata.lookupIsrc py.alnum py.isPrintable sparqlUrl up.wikidata code)
  lookupUpc code := outcome (Wikidata.lookupUpc code)
  lookupFreeText := none
  lookupReleaseFreeText := none

/-- `OpenLibraryProvider`. -/
def openLibrary : Provider where
  lookupIsrc code := openLibraryOutcome (OpenLibrary.lookupIsrc code)
  lookupUpc code := openLibraryOutcome (OpenLibrary.lookupUpc py.isPrintable py.truncate up.openLibrary code)
  lookupFreeText := none
  lookupReleaseFreeText := none

/-- The providers that `lifespan` registers. -/
def application : Dict String Provider :=
  catalogue py.caseFolding py.isPrintable up.toUpstreams (wikidata py sparqlUrl up) (openLibrary py up)

end Providers

/-! ### What they return -/

/-- What is awaited of the provider `id`: an entry that keeps the contract, or an `Exception`. -/
def Outcome.Keeps (isPrintable : Char → Bool) (id : String) (o : Outcome) : Prop :=
  o.IsAnswer ∧ ∀ entry, o = .ok entry → Contract isPrintable id entry

/-- All that the provider `id` gives keeps the contract. -/
structure Provider.Keeps (isPrintable : Char → Bool) (id : String) (p : Provider) : Prop where
  codes : ∀ kind code, (codeLookup kind code p).Keeps isPrintable id
  searches : ∀ fn, p.Searches fn → ∀ q, (fn q).Keeps isPrintable id

section Keeps
variable {isPrintable : Char → Bool} {id : String}

theorem keeps_outcome {x : Except PyError ProviderEntry} (h : Ensures x (Contract isPrintable id)) :
    (outcome x).Keeps isPrintable id := by
  cases x with
  | error e => exact ⟨trivial, fun _ he => by cases he⟩
  | ok entry => exact ⟨trivial, fun _ he => Except.ok.inj he ▸ h entry rfl⟩

theorem keeps_openLibraryOutcome {x : Except OpenLibrary.LookupError ProviderEntry}
    (h : Ensures x (Contract isPrintable id)) : (openLibraryOutcome x).Keeps isPrintable id := by
  cases x with
  | error e => exact ⟨trivial, fun _ he => by cases he⟩
  | ok entry => exact ⟨trivial, fun _ he => Except.ok.inj he ▸ h entry rfl⟩

theorem Outcome.Keeps.sound {o : Outcome} (h : o.Keeps isPrintable id) : o.Sound id := by
  refine ⟨h.1, ?_⟩
  cases o with
  | error e => trivial
  | ok entry => exact .inl (h.2 entry rfl).provider

theorem Provider.Keeps.sound {p : Provider} (h : p.Keeps isPrintable id) : p.Sound id :=
  ⟨fun kind code => (h.codes kind code).sound, fun fn hfn q => (h.searches fn hfn q).sound⟩

/-- Filling in an id that is there changes nothing. -/
theorem fillId_of_contract {entry : ProviderEntry} (hid : id ≠ "") (h : Contract isPrintable id entry) :
    fillId id entry = entry := by
  rw [fillId, if_neg (by rw [h.provider]; exact hid)]

/-- **The row of a provider keeps its contract**, whether its lookup returned or raised. -/
theorem contract_ownRow {o : Outcome} (hid : id ≠ "") (h : o.Keeps isPrintable id) :
    Contract isPrintable id (ownRow (id, o)) := by
  rcases o with (text | text) | entry
  · exact contract_ofError text
  · exact h.1.elim
  · change Contract isPrintable id (fillId id entry)
    rw [fillId_of_contract hid (h.2 entry rfl)]
    exact h.2 entry rfl

end Keeps

/-- A provider without a free-text search. -/
theorem not_searches {p : Provider} (hfree : p.lookupFreeText = none)
    (hrelease : p.lookupReleaseFreeText = none) {fn : String → Outcome} : ¬ p.Searches fn := by
  rintro (h | h)
  · rw [hfree] at h
    cases h
  · rw [hrelease] at h
    cases h

section Application
variable {py : Python} {sparqlUrl : String} {up : AllUpstreams}

theorem keeps_musicbrainz :
    (musicbrainz py.caseFolding py.isPrintable up.toUpstreams).Keeps py.isPrintable MusicBrainz.providerId where
  codes kind code := by
    cases kind with
    | isrc => exact keeps_outcome (MusicBrainz.contract_lookups py.caseFolding code).1
    | upc => exact keeps_outcome (MusicBrainz.contract_lookups py.caseFolding code).2
  searches fn hfn := absurd hfn (not_searches rfl rfl)

theorem keeps_deezer : (deezer py.isPrintable up.toUpstreams).Keeps py.isPrintable Deezer.providerId where
  codes kind code := by
    cases kind with
    | isrc => exact keeps_outcome (Deezer.contract_lookups code).1
    | upc => exact keeps_outcome (Deezer.contract_lookups code).2.1
  searches fn hfn q := by
    rcases hfn with hfn | hfn
    · rw [← Option.some.inj hfn]
      exact keeps_outcome (Deezer.contract_lookups q).2.2
    · cases hfn

theorem keeps_discogs : (discogs py.isPrintable up.toUpstreams).Keeps py.isPrintable Discogs.providerId where
  codes kind code := by
    cases kind with
    | isrc => exact keeps_outcome (Discogs.contract_lookups code).1
    | upc => exact keeps_outcome (Discogs.contract_lookups code).2.1
  searches fn hfn q := by
    rcases hfn with hfn | hfn
    · cases hfn
    · rw [← Option.some.inj hfn]
      exact keeps_outcome (Discogs.contract_lookups q).2.2

theorem keeps_wikidata : (wikidata py sparqlUrl up).Keeps py.isPrintable "wikidata" where
  codes kind code := by
    cases kind with
    | isrc => exact keeps_outcome (Wikidata.contract_lookups code).1
    | upc => exact keeps_outcome (ensures_ok.mpr (contract_ofError _))
  searches fn hfn := absurd hfn (not_searches rfl rfl)

theorem keeps_openLibrary : (openLibrary py up).Keeps py.isPrintable "open_library" where
  codes kind code := by
    cases kind with
    | isrc => exact keeps_openLibraryOutcome (ensures_ok.mpr (contract_ofError _))
    | upc => exact keeps_openLibraryOutcome (OpenLibrary.contract_lookups code).2
  searches fn hfn := absurd hfn (not_searches rfl rfl)

/-- **Every provider of the application keeps its contract**, whatever the upstreams answer. -/
theorem keeps_application {id : String} {p : Provider} (h : (application py sparqlUrl up).get? id = some p) :
    p.Keeps py.isPrintable id ∧ id ≠ "" := by
  have hmem := Dict.mem_of_get?_ofList h
  simp only [List.mem_cons, Prod.mk.injEq, List.not_mem_nil, or_false] at hmem
  rcases hmem with ⟨rfl, rfl⟩ | ⟨rfl, rfl⟩ | ⟨rfl, rfl⟩ | ⟨rfl, rfl⟩ | ⟨rfl, rfl⟩
  · exact ⟨keeps_musicbrainz, by decide⟩
  · exact ⟨keeps_deezer, by decide⟩
  · exact ⟨keeps_discogs, by decide⟩
  · exact ⟨keeps_wikidata, by decide⟩
  · exact ⟨keeps_openLibrary, by decide⟩

theorem allSound_application : AllSound (application py sparqlUrl up) :=
  fun _ _ h => (keeps_application h).1.sound

/-! ### The rows of a response -/

variable {st : ProviderSettings} {kind : Kind} {code : String}

/-- **Every row of a lookup keeps the contract of its provider**: the row of its code lookup, and what a
free-text search put in its place. -/
theorem contract_final {final : String × Outcome → ProviderEntry} {t : String × Outcome}
    (ht : t ∈ tasks st (application py sparqlUrl up) kind code)
    (hfinal : final t = ownRow t ∨ (ownRow t).found = false ∧ (final t).found ∧
      FoundByHint (application py sparqlUrl up) ((tasks st (application py sparqlUrl up) kind code).map ownRow)
        t.1 (final t)) : Contract py.isPrintable t.1 (final t) := by
  rcases hfinal with hown | ⟨-, -, src, -, title, artist, fn, found, -, -, hfn, hq, hfill⟩
  · obtain ⟨p, hp, hcall⟩ := codeLookup_of_mem_tasks ht
    obtain ⟨hkeeps, hid⟩ := keeps_application hp
    rw [hown]
    exact contract_ownRow hid (hcall ▸ hkeeps.codes kind code)
  · obtain ⟨p, hp, hsearches⟩ := searches_of_freeText hfn
    obtain ⟨hkeeps, hid⟩ := keeps_application hp
    have hfound := (hkeeps.searches fn hsearches (deezerDiscogsHintQuery title artist)).2 found hq
    rw [hfill, fillId_of_contract hid hfound]
    exact hfound

end Application

/-! ### What a response says of its rows -/

/-- The titles of at least two rows found agree, with any other title there. -/
def TitlesAgree (cf : CaseFolding) (rows : List ProviderEntry) : Prop :=
  2 ≤ having ProviderEntry.title rows ∧ AllAgree cf ProviderEntry.title rows

/-- A response as it should be: rows that keep their contracts, in the fixed order, none with nothing but an
error; and a summary that counts and compares the rows found. -/
structure WellFormed (py : Python) (kind : Kind) (code : String) (response : LookupResponse) : Prop where
  query : response.query = code
  order : (response.providers.map (·.provider)).Sublist (fixedOrder kind)
  contract : ∀ p ∈ response.providers, Contract py.isPrintable p.provider p
  error : ∀ p ∈ response.providers, ∀ text, p.error = some text → text = ""
  foundIn : response.summary.foundIn = response.providers.countP ProviderEntry.found
  high : response.summary.confidence = .high ↔ 2 ≤ response.summary.foundIn ∧
    TitlesAgree py.caseFolding response.providers ∧
      AllAgree py.caseFolding ProviderEntry.artist response.providers
  low : response.summary.confidence = .low ↔ response.summary.foundIn = 0 ∨ 2 ≤ response.summary.foundIn ∧
    ¬ TitlesAgree py.caseFolding response.providers ∧
    ¬ (having ProviderEntry.title response.providers = 0 ∧
      AllAgree py.caseFolding ProviderEntry.artist response.providers)

section Verdict
variable {cf : CaseFolding} {rows : List ProviderEntry}

theorem titleAgree_iff_of_collapsed (h : ∀ p ∈ rows, Collapsed p.title) :
    titleAgree cf rows ↔ TitlesAgree cf rows := by
  rw [titleAgree_iff, TitlesAgree]
  exact and_congr_right fun ht => agree_normalized_iff
    (fun p hp _ hpt => (h p hp).normCompare_ne_empty hpt) (by omega)

theorem artistAgree_iff_of_collapsed (h : ∀ p ∈ rows, Collapsed p.artist) :
    artistAgree cf rows ↔ AllAgree cf ProviderEntry.artist rows := by
  rw [artistAgree_iff]
  by_cases ha : having ProviderEntry.artist rows < 2
  · exact iff_of_true (.inl ha) (allAgree_of_having_lt ha)
  · rw [or_iff_right ha]
    exact agree_normalized_iff (fun p hp _ hpt => (h p hp).normCompare_ne_empty hpt) (by omega)

/-- **The verdict on collapsed rows.** -/
theorem verdict_of_collapsed (cf : CaseFolding) (ht : ∀ p ∈ rows, Collapsed p.title)
    (ha : ∀ p ∈ rows, Collapsed p.artist) :
    ((buildSummary cf rows).confidence = .high ↔ 2 ≤ (buildSummary cf rows).foundIn ∧
      TitlesAgree cf rows ∧ AllAgree cf ProviderEntry.artist rows) ∧
    ((buildSummary cf rows).confidence = .low ↔ (buildSummary cf rows).foundIn = 0 ∨
      2 ≤ (buildSummary cf rows).foundIn ∧ ¬ TitlesAgree cf rows ∧
      ¬ (having ProviderEntry.title rows = 0 ∧ AllAgree cf ProviderEntry.artist rows)) := by
  rw [foundIn_buildSummary, ← titleAgree_iff_of_collapsed ht, ← artistAgree_iff_of_collapsed ha]
  by_cases h2 : 2 ≤ rows.countP ProviderEntry.found
  · rw [confidence_eq_high_iff cf h2, confidence_eq_low_iff cf h2, or_iff_right (by omega)]
    exact ⟨(and_iff_right h2).symm, (and_iff_right h2).symm⟩
  · refine ⟨iff_of_false (buildSummary_ne_high cf h2) fun h => h2 h.1, ?_⟩
    rw [or_iff_left fun h => h2 h.1]
    rw [List.countP_eq_length_filter] at h2 ⊢
    unfold buildSummary
    dsimp only
    split_ifs with h0 h1
    · exact iff_of_true rfl h0
    · exact iff_of_false (fun h => by cases h) h0
    all_goals omega

theorem confidence_summaryWithDroppedErrors (s : SummaryBlock) :
    (summaryWithDroppedErrors rows s).confidence = s.confidence := by
  unfold summaryWithDroppedErrors
  dsimp only
  split_ifs <;> rfl

end Verdict

/-- **Every lookup assembles a well-formed response**, whatever the upstreams answer, for every settings and
code and in any order of completion. -/
theorem assemble_wellFormed (py : Python) (sparqlUrl : String) (up : AllUpstreams) (st : ProviderSettings)
    (kind : Kind) (code : String)
    (order : Completion (tasks st (application py sparqlUrl up) kind code).length) :
    ∃ response, assemble py.caseFolding st (application py sparqlUrl up) kind code order = .ok response ∧
      WellFormed py kind code response := by
  have hsound : AllSound (application py sparqlUrl up) := allSound_application
  obtain ⟨final, hok, hfinal⟩ := lookup_final py.caseFolding
    hsound.answers order
  refine ⟨_, hok, ?_⟩
  have hrow (p : ProviderEntry) (hp : p ∈ omitProvidersWithOnlyError
      ((tasks st (application py sparqlUrl up) kind code).map final)) :
      Contract py.isPrintable p.provider p ∧ onlyError p = false := by
    obtain ⟨hmem, hkept⟩ := List.mem_filter.mp hp
    obtain ⟨t, ht, rfl⟩ := List.mem_map.mp hmem
    have hcontract := contract_final ht (hfinal t ht)
    rw [hcontract.provider]
    exact ⟨hcontract, by simpa using hkept⟩
  obtain ⟨hhigh, hlow⟩ := verdict_of_collapsed py.caseFolding (fun p hp => (hrow p hp).1.title)
    fun p hp => (hrow p hp).1.artist
  refine ⟨rfl, kept_sublist (hsound.provider_final hfinal), fun p hp => (hrow p hp).1,
    fun p hp text herror => ?_, ?_, ?_, ?_⟩
  · obtain ⟨hcontract, hkept⟩ := hrow p hp
    by_contra hne
    rw [hcontract.failed text herror] at hkept
    simp [onlyError, ProviderEntry.ofError, truthy, hne] at hkept
  · rw [foundIn_summaryWithDroppedErrors, foundIn_buildSummary]
  · rw [confidence_summaryWithDroppedErrors, foundIn_summaryWithDroppedErrors]
    exact hhigh
  · rw [confidence_summaryWithDroppedErrors, foundIn_summaryWithDroppedErrors]
    exact hlow

end LookupAggregator.LookupService
