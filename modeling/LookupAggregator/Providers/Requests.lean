import LookupAggregator.Lib.Queries
import LookupAggregator.MusicBrainz.Provider
import LookupAggregator.Providers.Attach
import LookupAggregator.Providers.OpenLibrary
import LookupAggregator.Providers.Wikidata

/-! # How many requests a provider sends

A lookup of a provider is a function of all answers of its upstream; as many of them as its requests decide
what it gives. MusicBrainz asks three times for an ISRC and twice for a UPC, Deezer once or twice for the
search and once more for a hit, Discogs up to four times and once more for a hit, and the others once. -/

namespace LookupAggregator.Providers

open Lib Py

/-- One if an entry is found, else none. -/
def hits {ε : Type} (x : Except ε ProviderEntry) : ℕ := costOf (fun entry => entry.found.toNat) x

theorem hits_le_one {ε : Type} (x : Except ε ProviderEntry) : hits x ≤ 1 := by
  cases x with
  | error e => exact Nat.zero_le _
  | ok entry => exact Bool.toNat_le _

/-- What completes a hit keeps it found. -/
theorem hits_le_bind {x : Except PyError ProviderEntry} {f : ProviderEntry → Except PyError ProviderEntry}
    (h : ∀ entry, x = .ok entry → entry.found = true → Returns (f entry) fun entry' => entry'.found = true) :
    hits x ≤ hits (x >>= f) := by
  cases x with
  | error e => exact Nat.zero_le _
  | ok entry =>
    cases hfound : entry.found with
    | false =>
      have hzero : hits (.ok entry : Except PyError ProviderEntry) = 0 := by simp [hits, costOf, hfound]
      rw [hzero]
      exact Nat.zero_le _
    | true =>
      obtain ⟨entry', heq, hfound'⟩ := h entry rfl hfound
      have hbind : (.ok entry >>= f : Except PyError ProviderEntry) = .ok entry' := heq
      rw [hbind, hits, hits, costOf, costOf, hfound, hfound']

end LookupAggregator.Providers

/-! ### MusicBrainz -/

namespace LookupAggregator.MusicBrainz

open Lib Py Normalize Providers

variable {cf : CaseFolding} {isPrintable : Char → Bool}

theorem fetchReleaseEnrichment_congr {up up' : Query → Fetched} {releaseMbid : String}
    (h : up' (.release releaseMbid) = up (.release releaseMbid)) :
    fetchReleaseEnrichment isPrintable up' releaseMbid = fetchReleaseEnrichment isPrintable up releaseMbid := by
  rw [fetchReleaseEnrichment, fetchReleaseEnrichment, h]

theorem asks_enrichPicked (detail : Items) (picked : Option Items) :
    Asks id (fun _ => 1) fun up => enrichPicked isPrintable up detail picked := by
  unfold enrichPicked
  cases picked.bind fun rel => textId (lookup rel "id") with
  | none => exact Asks.const _
  | some pickedId =>
    refine .of_apply (.release pickedId) fun up up' h => ?_
    dsimp only
    rw [fetchReleaseEnrichment_congr h]

theorem asks_enrichRecordingIsrc (mbid : String) (artistHint : Option String) :
    Asks id (fun _ => 2) fun up => enrichRecordingIsrc cf isPrintable up mbid artistHint := by
  refine Asks.of_apply_cases (n := 1) (.recording mbid) fun up => ?_
  generalize up (.recording mbid) = answer
  refine ⟨_, ?_, fun up' h => by rw [enrichRecordingIsrc, h]⟩
  cases answer with
  | error e => exact Asks.const _
  | ok data =>
    cases data with
    | obj detail => exact Asks.of_bind _ fun picked => asks_enrichPicked detail picked
    | _ => exact Asks.const _

/-- **An ISRC takes three requests**, at most: the search, the recording and the release. -/
theorem asks_lookupIsrc (code : String) :
    Asks id (fun _ => 3) fun up => lookupIsrc cf isPrintable up code := by
  refine Asks.of_apply_cases (n := 2) (.search "recording" ("isrc:" ++ code)) fun up => ?_
  generalize up (.search "recording" ("isrc:" ++ code)) = answer
  refine ⟨_, ?_, fun up' h => by rw [lookupIsrc, h]⟩
  cases answer with
  | error e => exact Asks.const _
  | ok data =>
    refine Asks.of_bind _ fun value => ?_
    dsimp only
    split_ifs with hnone
    · exact Asks.const _
    · refine Asks.of_bind _ fun hit => Asks.of_bind _ fun sentTitle => Asks.of_bind _ fun title =>
        Asks.of_bind _ fun credits => Asks.of_bind _ fun artist => Asks.of_bind _ fun mbid => ?_
      cases textId mbid with
      | none => exact Asks.const _
      | some mbid => exact (asks_enrichRecordingIsrc mbid artist).map fun x => x >>= _

/-- **A UPC takes two requests**, at most: the search and the release. -/
theorem asks_lookupUpc (code : String) :
    Asks id (fun _ => 2) fun up => lookupUpc isPrintable up code := by
  refine Asks.of_apply_cases (n := 1) (.search "release" ("barcode:" ++ code)) fun up => ?_
  generalize up (.search "release" ("barcode:" ++ code)) = answer
  refine ⟨_, ?_, fun up' h => by rw [lookupUpc, h]⟩
  cases answer with
  | error e => exact Asks.const _
  | ok data =>
    refine Asks.of_bind _ fun value => ?_
    dsimp only
    split_ifs with hnone
    · exact Asks.const _
    · refine Asks.of_bind _ fun hit => Asks.of_bind _ fun sentTitle => Asks.of_bind _ fun title =>
        Asks.of_bind _ fun credits => Asks.of_bind _ fun artist => Asks.of_bind _ fun relId => ?_
      cases textId relId with
      | none => exact Asks.const _
      | some id =>
        refine .of_apply (.release id) fun up up' h => ?_
        dsimp only
        rw [fetchReleaseEnrichment_congr h]

end LookupAggregator.MusicBrainz

/-! ### Deezer -/

namespace LookupAggregator.Deezer

open Lib Py Normalize Providers

variable {isPrintable : Char → Bool}

theorem asks_search (query : String) : Asks id (fun _ => 1) fun up => search isPrintable up query :=
  .of_apply (.search query) fun up up' h => by rw [search, search, h]

theorem getEntity_congr {up up' : Request → Fetched} {path : String} (h : up' (.entity path) = up (.entity path)) :
    getEntity up' path = getEntity up path := by
  rw [getEntity, getEntity, h]

/-- A hit has its track asked for. -/
theorem asks_attachTrackDetail (entry : ProviderEntry) :
    Asks id (fun _ => entry.found.toNat) fun up => attachTrackDetail isPrintable up entry := by
  cases hfound : entry.found with
  | false =>
    simp only [attachTrackDetail_of_not_found hfound]
    exact Asks.const _
  | true =>
    refine .of_apply (.entity ("track/" ++ (lookup (rawItems entry) "id").text isPrintable)) fun up up' h => ?_
    simp only [attachTrackDetail, getEntity_congr h]

/-- A hit has its album asked for. -/
theorem asks_attachAlbumDetail (entry : ProviderEntry) :
    Asks id (fun _ => entry.found.toNat) fun up => attachAlbumDetail isPrintable up entry := by
  cases hfound : entry.found with
  | false =>
    simp only [attachAlbumDetail_of_not_found hfound]
    exact Asks.const _
  | true =>
    unfold attachAlbumDetail
    split_ifs
    · exact Asks.const _
    · refine Asks.of_bind _ fun aid => ?_
      refine .of_apply (.entity ("album/" ++ aid.text isPrintable)) fun up up' h => ?_
      simp only [getEntity_congr h]

/-- **An ISRC takes one request, and a hit one more.** -/
theorem asks_lookupIsrc (code : String) : Asks id (fun up => 1 + hits (lookupIsrc isPrintable up code))
    fun up => lookupIsrc isPrintable up code := by
  refine ((asks_search _).except_bind (n := fun entry => entry.found.toNat) asks_attachTrackDetail).mono
    fun up => Nat.add_le_add_left (hits_le_bind fun entry _ hfound => ?_) 1
  refine (attachTrackDetail_returns entry).mono fun entry' hentry => ?_
  rcases hentry with rfl | ⟨detail, rfl⟩ <;> exact hfound

/-- **A UPC takes a request for each of its forms, and a hit one more.** -/
theorem asks_lookupUpc (code : String) : Asks id (fun up => 2 + hits (lookupUpc isPrintable up code))
    fun up => lookupUpc isPrintable up code := by
  simp only [lookupUpc_eq (miss providerId none)]
  have hqueries : (queries code).length ≤ 2 := by
    unfold queries
    split_ifs <;> simp
  refine ((Asks.firstHit (fun q _ => asks_search q) _).except_bind (n := fun entry => entry.found.toNat)
    asks_attachAlbumDetail).mono fun up => ?_
  refine Nat.add_le_add hqueries (hits_le_bind fun entry _ hfound => ?_)
  refine (attachAlbumDetail_returns entry).mono fun entry' hentry => ?_
  rcases hentry with rfl | ⟨label, detail, rfl⟩ <;> exact hfound

/-- A text takes one request. -/
theorem asks_lookupFreeText (query : String) :
    Asks id (fun _ => 1) fun up => lookupFreeText isPrintable up query := by
  unfold lookupFreeText
  dsimp only
  split_ifs
  · exact Asks.const _
  · exact asks_search _

end LookupAggregator.Deezer

/-! ### Discogs -/

namespace LookupAggregator.Discogs

open Lib Py Normalize Providers

variable {isPrintable : Char → Bool}

theorem asks_search (params : Items) (isBarcodeQuery : Bool) :
    Asks id (fun _ => 1) fun up => search isPrintable up params isBarcodeQuery :=
  .of_apply (.search params) fun up up' h => by rw [search, search, h]

/-- A hit has its release asked for. -/
theorem asks_finish (entry : ProviderEntry) :
    Asks id (fun _ => entry.found.toNat) fun up => finish isPrintable up entry := by
  cases hfound : entry.found with
  | false =>
    simp only [finish, hfound]
    exact Asks.const _
  | true =>
    refine .of_apply (.release ((lookup (rawItems entry) "id").text isPrintable)) fun up up' h => ?_
    simp only [finish, attachReleaseDetail, h]

/-- An ISRC takes one request. -/
theorem asks_lookupIsrc (code : String) :
    Asks id (fun _ => 1) fun up => lookupIsrc isPrintable up code := asks_search _ _

/-- **A UPC takes two requests for each of its forms, and a hit one more.** -/
theorem asks_lookupUpc (code : String) : Asks id (fun up => 4 + hits (lookupUpc isPrintable up code))
    fun up => lookupUpc isPrintable up code := by
  simp only [lookupUpc, upcLoop_eq _ (show (miss providerId none).found = false from rfl)]
  have hqueries : (queriesOf (variants code)).length ≤ 4 := by
    unfold variants
    split_ifs <;> simp [queriesOf]
  refine ((Asks.firstHit (fun params _ => asks_search params true) _).except_bind
    (n := fun entry => entry.found.toNat) asks_finish).mono fun up => ?_
  refine Nat.add_le_add hqueries (hits_le_bind fun entry hentry hfound => ?_)
  -- what is found was decoded from an answer
  have hsearch (params : Items) : Ensures (search isPrintable up params true) fun entry =>
      entry.found = true → ∃ answer, searchEntry isPrintable true answer = .ok entry :=
    fun entry h _ => ⟨_, h⟩
  obtain ⟨answer, hanswer⟩ :=
    ensures_firstHit (fun params _ => hsearch params) (fun h => by cases h) entry hentry hfound
  rw [finish, if_pos hfound]
  exact (fillsIn_release hanswer hfound up).mono fun entry' h => h.found

/-- A text takes one request. -/
theorem asks_lookupReleaseFreeText (query : String) :
    Asks id (fun _ => 1) fun up => lookupReleaseFreeText isPrintable up query := by
  unfold lookupReleaseFreeText
  dsimp only
  split_ifs
  · exact Asks.const _
  · exact asks_search _ _

end LookupAggregator.Discogs

/-! ### Wikidata and Open Library -/

namespace LookupAggregator

/-- An ISRC takes one request to Wikidata. -/
theorem Wikidata.asks_lookupIsrc {an : Wikidata.AlnumClass} {isPrintable : Char → Bool}
    {sparqlUrl : String} (code : String) :
    Lib.Asks id (fun _ => 1) fun up => Wikidata.lookupIsrc an isPrintable sparqlUrl up code :=
  .of_apply (Wikidata.requestUrl sparqlUrl code) fun up up' h => by
    rw [Wikidata.lookupIsrc, Wikidata.lookupIsrc, h]

/-- A UPC takes one request to Open Library. -/
theorem OpenLibrary.asks_lookupUpc {isPrintable : Char → Bool} {truncate : String → ℤ}
    (code : String) :
    Lib.Asks id (fun _ => 1) fun up => OpenLibrary.lookupUpc isPrintable truncate up code :=
  .of_apply (OpenLibrary.searchParams code) fun up up' h => by
    rw [OpenLibrary.lookupUpc, OpenLibrary.lookupUpc, h]

end LookupAggregator
