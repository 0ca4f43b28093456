import LookupAggregator.LookupService.Application
import LookupAggregator.Providers.Requests

/-! # How many requests a lookup sends

A lookup of the application is decided by a few answers of its upstreams, as many as it sends requests at
most: those of its tasks, and one free-text search for each of Deezer and Discogs that has not found anything
and so has not asked for details (`requests_of_lookup`). -/

namespace LookupAggregator.LookupService

open Lib Py Normalize Summary Providers

/-! ### The requests -/

/-- A request to one of the upstreams. -/
inductive UpstreamRequest
  | musicbrainz (q : MusicBrainz.Query)
  | deezer (r : Deezer.Request)
  | discogs (r : Discogs.Request)
  | wikidata (url : String)
  | openLibrary (params : Items)

/-- The answer to a request. -/
def AllUpstreams.answer (up : AllUpstreams) : UpstreamRequest → Fetched
  | .musicbrainz q => up.musicbrainz q
  | .deezer r => up.deezer r
  | .discogs r => up.discogs r
  | .wikidata url => up.wikidata url
  | .openLibrary params => up.openLibrary params

/-- The requests of a lookup, at most, for the providers that are enabled. -/
def requestLimit (st : ProviderSettings) : Kind → ℕ
  | .isrc => 3 * st.musicbrainzEnabled.toNat + 2 * st.deezerEnabled.toNat + 2 * st.discogsEnabled.toNat +
      st.wikidataEnabled.toNat
  | .upc => 2 * st.musicbrainzEnabled.toNat + 3 * st.deezerEnabled.toNat + 5 * st.discogsEnabled.toNat +
      st.openLibraryEnabled.toNat

section Requests
variable {py : Python} {sparqlUrl : String} {st : ProviderSettings}

theorem get?_deezer (py : Python) (sparqlUrl : String) (up : AllUpstreams) :
    (application py sparqlUrl up).get? "deezer" = some (deezer py.isPrintable up.toUpstreams) := rfl

theorem get?_discogs (py : Python) (sparqlUrl : String) (up : AllUpstreams) :
    (application py sparqlUrl up).get? "discogs" = some (discogs py.isPrintable up.toUpstreams) := rfl

/-! ### The tasks -/

/-- The row of a task is found exactly when its lookup found an entry. -/
theorem hits_eq {t : String × Outcome} (h : t.2.IsAnswer) : hits t.2 = (ownRow t).found.toNat := by
  obtain ⟨id, o⟩ := t
  rcases o with (text | text) | entry
  · rfl
  · exact h.elim
  · exact congrArg Bool.toNat (found_fillId id entry).symm

theorem hits_outcome (x : Except PyError ProviderEntry) : hits (outcome x) = hits x := by cases x <;> rfl

/-- The requests of a task, if it is created. -/
theorem asks_task {call : Provider → Outcome} {id : String} {p : AllUpstreams → Provider}
    {c : AllUpstreams → ℕ} (hget : ∀ up, (application py sparqlUrl up).get? id = some (p up))
    (h : Asks AllUpstreams.answer c fun up => call (p up)) (enabled : Bool) :
    Asks AllUpstreams.answer (fun up => if enabled then c up else 0)
      fun up => task (application py sparqlUrl up) call enabled id := by
  cases enabled with
  | false => exact Asks.const _
  | true =>
    have htask (up : AllUpstreams) : task (application py sparqlUrl up) call true id = [(id, call (p up))] := by
      rw [task, if_pos rfl, hget]
    simp only [htask]
    exact h.map fun o => [(id, o)]

/-- The requests of MusicBrainz, and the searches by code of Deezer and of Discogs. -/
def musicbrainzRequests : Kind → ℕ
  | .isrc => 3
  | .upc => 2

def deezerSearches : Kind → ℕ
  | .isrc => 1
  | .upc => 2

def discogsSearches : Kind → ℕ
  | .isrc => 1
  | .upc => 4

/-- What Deezer and Discogs give for a code. -/
def deezerOutcome (py : Python) (kind : Kind) (code : String) (up : AllUpstreams) : Outcome :=
  codeLookup kind code (deezer py.isPrintable up.toUpstreams)

def discogsOutcome (py : Python) (kind : Kind) (code : String) (up : AllUpstreams) : Outcome :=
  codeLookup kind code (discogs py.isPrintable up.toUpstreams)

theorem asks_musicbrainz (kind : Kind) (code : String) :
    Asks AllUpstreams.answer (fun _ => musicbrainzRequests kind) fun up =>
      codeLookup kind code (musicbrainz py.caseFolding py.isPrintable up.toUpstreams) := by
  cases kind with
  | isrc =>
    exact ((MusicBrainz.asks_lookupIsrc code).comap (fun up : AllUpstreams => up.musicbrainz)
      UpstreamRequest.musicbrainz fun _ _ => rfl).map outcome
  | upc =>
    exact ((MusicBrainz.asks_lookupUpc code).comap (fun up : AllUpstreams => up.musicbrainz)
      UpstreamRequest.musicbrainz fun _ _ => rfl).map outcome

theorem asks_deezer (kind : Kind) (code : String) :
    Asks AllUpstreams.answer (fun up => deezerSearches kind + hits (deezerOutcome py kind code up))
      (deezerOutcome py kind code) := by
  cases kind with
  | isrc =>
    refine (((Deezer.asks_lookupIsrc code).comap (fun up : AllUpstreams => up.deezer) UpstreamRequest.deezer
      fun _ _ => rfl).map outcome).mono fun up => ?_
    exact Nat.add_le_add_left (hits_outcome _).ge 1
  | upc =>
    refine (((Deezer.asks_lookupUpc code).comap (fun up : AllUpstreams => up.deezer) UpstreamRequest.deezer
      fun _ _ => rfl).map outcome).mono fun up => ?_
    exact Nat.add_le_add_left (hits_outcome _).ge 2

theorem asks_discogs (kind : Kind) (code : String) :
    Asks AllUpstreams.answer (fun up => discogsSearches kind + hits (discogsOutcome py kind code up))
      (discogsOutcome py kind code) := by
  cases kind with
  | isrc =>
    exact (((Discogs.asks_lookupIsrc code).comap (fun up : AllUpstreams => up.discogs) UpstreamRequest.discogs
      fun _ _ => rfl).map outcome).mono fun up => Nat.le_add_right 1 _
  | upc =>
    refine (((Discogs.asks_lookupUpc code).comap (fun up : AllUpstreams => up.discogs) UpstreamRequest.discogs
      fun _ _ => rfl).map outcome).mono fun up => ?_
    exact Nat.add_le_add_left (hits_outcome _).ge 4

/-- What both lookups ask. -/
theorem asks_sharedTasks (kind : Kind) (code : String) :
    Asks AllUpstreams.answer (fun up => (if st.musicbrainzEnabled then musicbrainzRequests kind else 0) +
        (if st.deezerEnabled then deezerSearches kind + hits (deezerOutcome py kind code up) else 0) +
        (if st.discogsEnabled then discogsSearches kind + hits (discogsOutcome py kind code up) else 0))
      fun up => sharedTasks st (application py sparqlUrl up) (codeLookup kind code) :=
  ((asks_task (fun _ => rfl) (asks_musicbrainz kind code) _).map₂
    (asks_task (fun _ => rfl) (asks_deezer kind code) _) (· ++ ·)).map₂
    (asks_task (fun _ => rfl) (asks_discogs kind code) _) (· ++ ·)

/-- The provider that only one of the two lookups asks. -/
def lastEnabled (st : ProviderSettings) : Kind → Bool
  | .isrc => st.wikidataEnabled
  | .upc => st.openLibraryEnabled

/-- The requests of the tasks. -/
def taskRequests (py : Python) (st : ProviderSettings) (kind : Kind) (code : String) (up : AllUpstreams) : ℕ :=
  (if st.musicbrainzEnabled then musicbrainzRequests kind else 0) +
    (if st.deezerEnabled then deezerSearches kind + hits (deezerOutcome py kind code up) else 0) +
    (if st.discogsEnabled then discogsSearches kind + hits (discogsOutcome py kind code up) else 0) +
    if lastEnabled st kind then 1 else 0

/-- **The tasks ask for what their lookups ask for.** -/
theorem asks_tasks (kind : Kind) (code : String) :
    Asks AllUpstreams.answer (taskRequests py st kind code)
      fun up => tasks st (application py sparqlUrl up) kind code := by
  cases kind with
  | isrc =>
    exact (asks_sharedTasks .isrc code).map₂ (asks_task (c := fun _ => 1) (fun _ => rfl)
      (((Wikidata.asks_lookupIsrc code).comap (fun up : AllUpstreams => up.wikidata) UpstreamRequest.wikidata
        fun _ _ => rfl).map outcome) _) (· ++ ·)
  | upc =>
    exact (asks_sharedTasks .upc code).map₂ (asks_task (c := fun _ => 1) (fun _ => rfl)
      (((OpenLibrary.asks_lookupUpc code).comap (fun up : AllUpstreams => up.openLibrary)
        UpstreamRequest.openLibrary fun _ _ => rfl).map openLibraryOutcome) _) (· ++ ·)

/-! ### The second look -/

/-- One if the provider is enabled and its row was not found, else none. -/
def misses (rows : List ProviderEntry) (enabled : Bool) (id : String) : ℕ :=
  (enabled && (byId rows id).any fun r => !r.1.found).toNat

/-- **Only a provider whose row was not found is searched again.** -/
theorem asks_refinement {id q : String} {p : AllUpstreams → Provider} {fn : AllUpstreams → String → Outcome}
    (search : Provider → Option (String → Outcome))
    (hget : ∀ up, (application py sparqlUrl up).get? id = some (p up))
    (hsearch : ∀ up, search (p up) = some (fn up))
    (hfn : Asks AllUpstreams.answer (fun _ => 1) fun up => fn up q) (rows : List ProviderEntry)
    (enabled : Bool) : Asks AllUpstreams.answer (fun _ => misses rows enabled id)
      fun up => refinement (application py sparqlUrl up) rows q enabled id search := by
  cases enabled with
  | false => exact Asks.const _
  | true =>
    unfold refinement misses
    simp only [if_true, hget]
    cases byId rows id with
    | none => exact Asks.const _
    | some r =>
      obtain ⟨row, i⟩ := r
      cases hfound : row.found with
      | true =>
        simp only [hfound, if_true]
        exact Asks.const _
      | false =>
        have hone : (true && (some (row, i)).any fun r => !r.1.found).toNat = 1 := by simp [hfound]
        simp only [hfound, hsearch, hone, Bool.false_eq_true, if_false]
        exact hfn.map fun o => [(id, o)]

theorem asks_deezerSearch (q : String) : Asks AllUpstreams.answer (fun _ => 1)
    fun up : AllUpstreams => outcome (Deezer.lookupFreeText py.isPrintable up.deezer q) :=
  ((Deezer.asks_lookupFreeText q).comap (fun up : AllUpstreams => up.deezer) UpstreamRequest.deezer
    fun _ _ => rfl).map outcome

theorem asks_discogsSearch (q : String) : Asks AllUpstreams.answer (fun _ => 1)
    fun up : AllUpstreams => outcome (Discogs.lookupReleaseFreeText py.isPrintable up.discogs q) :=
  ((Discogs.asks_lookupReleaseFreeText q).comap (fun up : AllUpstreams => up.discogs)
    UpstreamRequest.discogs fun _ _ => rfl).map outcome

/-- **The second look asks once for each row missed.** -/
theorem asks_refineByTitleHint (rows : List ProviderEntry) : Asks AllUpstreams.answer
    (fun _ => misses rows st.deezerEnabled "deezer" + misses rows st.discogsEnabled "discogs")
    fun up => refineByTitleHint st (application py sparqlUrl up) rows := by
  unfold refineByTitleHint
  cases hintTitleArtist rows with
  | none => exact Asks.const _
  | some hint =>
    obtain ⟨title, artist⟩ := hint
    have hdeezer := asks_refinement Provider.lookupFreeText (get?_deezer py sparqlUrl) (fun _ => rfl)
      (asks_deezerSearch (deezerDiscogsHintQuery title artist)) rows st.deezerEnabled
    have hdiscogs := asks_refinement Provider.lookupReleaseFreeText (get?_discogs py sparqlUrl)
      (fun _ => rfl) (asks_discogsSearch (deezerDiscogsHintQuery title artist)) rows st.discogsEnabled
    exact (hdeezer.map₂ hdiscogs (· ++ ·)).map fun rs => rs.foldlM (refine rows) rows

/-! ### The lookup -/

/-- What found an entry left no row to search for again. -/
theorem hits_add_misses_le (st : ProviderSettings) (kind : Kind) (code : String) {id : String}
    {up : AllUpstreams} {p : Provider} (hget : (application py sparqlUrl up).get? id = some p) (enabled : Bool) :
    hits (codeLookup kind code p) +
      misses ((tasks st (application py sparqlUrl up) kind code).map ownRow) enabled id ≤ 1 := by
  have hhits := hits_le_one (codeLookup kind code p)
  unfold misses
  cases hrow : byId ((tasks st (application py sparqlUrl up) kind code).map ownRow) id with
  | none => simpa using hhits
  | some r =>
    have hanswers : Answers st (application py sparqlUrl up) kind code := allSound_application.answers
    obtain ⟨t, ht, hid, hown⟩ := exists_of_byId
      (fun t ht => provider_ownRow (hanswers.answers t ht) (hanswers.ids t ht)) hrow
    obtain ⟨p', hget', hcall⟩ := codeLookup_of_mem_tasks (List.mem_of_getElem? ht)
    have hp : p' = p := Option.some.inj (hget'.symm.trans (hid ▸ hget))
    have hfound : hits (codeLookup kind code p) = r.1.found.toNat := by
      rw [← hown, ← hp, ← hcall]
      exact hits_eq (hanswers.answers t (List.mem_of_getElem? ht))
    rw [hfound, Option.any_some]
    cases r.1.found <;> cases enabled <;> decide

/-- What a provider with a second search is asked, in all. -/
theorem searches_add_misses_le (st : ProviderSettings) (kind : Kind) (code : String) {id : String}
    {up : AllUpstreams} {p : Provider} (hget : (application py sparqlUrl up).get? id = some p) (enabled : Bool) (n : ℕ) :
    (if enabled then n + hits (codeLookup kind code p) else 0) +
        misses ((tasks st (application py sparqlUrl up) kind code).map ownRow) enabled id ≤
      (n + 1) * enabled.toNat := by
  have hle := hits_add_misses_le st kind code hget enabled
  cases enabled with
  | false => exact Nat.le_refl 0
  | true =>
    rw [if_pos rfl, Bool.toNat_true]
    omega

theorem ite_toNat (b : Bool) (n : ℕ) : (if b then n else 0) = n * b.toNat := by cases b <;> simp

/-- **The requests of a lookup stay within the limit.** -/
theorem requests_le (up : AllUpstreams) (kind : Kind) (code : String) :
    taskRequests py st kind code up +
        (misses ((tasks st (application py sparqlUrl up) kind code).map ownRow) st.deezerEnabled "deezer" +
          misses ((tasks st (application py sparqlUrl up) kind code).map ownRow) st.discogsEnabled "discogs") ≤
      requestLimit st kind := by
  have hdeezer := searches_add_misses_le st kind code (get?_deezer py sparqlUrl up)
    st.deezerEnabled (deezerSearches kind)
  have hdiscogs := searches_add_misses_le st kind code (get?_discogs py sparqlUrl up)
    st.discogsEnabled (discogsSearches kind)
  unfold taskRequests deezerOutcome discogsOutcome
  rw [ite_toNat st.musicbrainzEnabled, ite_toNat (lastEnabled st kind)]
  cases kind with
  | isrc =>
    simp only [musicbrainzRequests, lastEnabled, deezerSearches, discogsSearches, requestLimit]
      at hdeezer hdiscogs ⊢
    omega
  | upc =>
    simp only [musicbrainzRequests, lastEnabled, deezerSearches, discogsSearches, requestLimit]
      at hdeezer hdiscogs ⊢
    omega

/-- The rows of a lookup, after the second look. -/
theorem asks_rows (py : Python) (sparqlUrl : String) (st : ProviderSettings) (kind : Kind) (code : String) :
    Asks AllUpstreams.answer (fun _ => requestLimit st kind) fun up =>
      refineByTitleHint st (application py sparqlUrl up)
        ((tasks st (application py sparqlUrl up) kind code).map ownRow) :=
  ((asks_tasks kind code).bind (g := fun ts up =>
      refineByTitleHint st (application py sparqlUrl up) (ts.map ownRow))
    fun ts => asks_refineByTitleHint (ts.map ownRow)).mono fun up => requests_le up kind code

end Requests

theorem assemble_eq (cf : CaseFolding) (st : ProviderSettings) (providers : Dict String Provider) (kind : Kind)
    (code : String) (c : Completion (tasks st providers kind code).length) :
    assemble cf st providers kind code c =
      (refineByTitleHint st providers ((tasks st providers kind code).map ownRow)).map fun rows =>
        ⟨code, omitProvidersWithOnlyError rows, summaryWithDroppedErrors rows
          (buildSummary cf (omitProvidersWithOnlyError rows))⟩ := by
  rw [assemble, gather_eq]
  cases refineByTitleHint st providers ((tasks st providers kind code).map ownRow) <;> rfl

/-- **As many answers of the upstreams as a lookup sends requests, at most, decide its response**: whatever
they would have answered to anything else, and in any order of completion, the response is the same. -/
theorem requests_of_lookup (py : Python) (sparqlUrl : String) (st : ProviderSettings) (kind : Kind)
    (code : String) (up : AllUpstreams) :
    ∃ qs : List UpstreamRequest, qs.length ≤ requestLimit st kind ∧
      ∀ up' : AllUpstreams, (∀ q ∈ qs, up'.answer q = up.answer q) →
        ∀ (c : Completion (tasks st (application py sparqlUrl up) kind code).length)
          (c' : Completion (tasks st (application py sparqlUrl up') kind code).length),
          assemble py.caseFolding st (application py sparqlUrl up') kind code c' =
            assemble py.caseFolding st (application py sparqlUrl up) kind code c := by
  obtain ⟨qs, hlength, hqs⟩ := asks_rows py sparqlUrl st kind code up
  refine ⟨qs, hlength, fun up' hup c c' => ?_⟩
  rw [assemble_eq, assemble_eq]
  exact congrArg _ (hqs up' hup)

end LookupAggregator.LookupService
