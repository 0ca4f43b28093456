import LookupAggregator.Providers.Attach

/-! # Fallback queries and failures

A UPC is searched by several queries, of which each is issued after a miss of the ones before, and the
entry of the last is returned. What an earlier failure said is lost with its entry: `lookupUpc_reports_iff`
says when a failure reaches the caller, `failed_barcode_query_is_a_miss` that it may not. A failure that
Deezer reports in the body of a search is seen in no lookup (`error_body_is_a_miss`), though the same body
is a failure where an entity is fetched. -/

namespace LookupAggregator.Providers

open Lib Py Normalize

/-! ### What a lookup reports -/

section Reports
variable {Query : Type} (decode : Fetched → Except PyError ProviderEntry) (ask : Query → Fetched)

/-- The query misses: its answer makes an entry that is not found. An answer that makes the search raise
neither hits nor misses. -/
def MissOf (q : Query) : Prop := Misses (fun q => decode (ask q)) ProviderEntry.found q

/-- The queries that are issued. -/
def issuedOf (queries : List Query) : List Query :=
  issued (fun q => decode (ask q)) ProviderEntry.found queries

/-- A lookup over `queries` that ends in `result` reports failures: it returns a clean miss only if every
query it issued was answered, and if none hit and one failed, the entry returned has an error text. -/
def ReportsFailures (queries : List Query) (result : Except PyError ProviderEntry) : Prop :=
  ∀ entry, result = .ok entry →
    (CleanMiss entry → ∀ q ∈ issuedOf decode ask queries, Answered (ask q)) ∧
    ((∀ q ∈ issuedOf decode ask queries, ¬ ∃ hit, decode (ask q) = .ok hit ∧ hit.found = true) →
      (∃ q ∈ issuedOf decode ask queries, ¬ Answered (ask q)) → truthy entry.error = true)

/-- No failure is overwritten: some query does not miss, or none fails, or the last one fails, with a
text. -/
def LastFailureShows (queries : List Query) : Prop :=
  (∃ q ∈ queries, ¬ MissOf decode ask q) ∨ (∀ q ∈ queries, Answered (ask q)) ∨
    ∃ q, queries.getLast? = some q ∧ failureText (ask q) ≠ ""

/-- How a provider decodes the answer to a search, and what it makes of the entry. -/
structure Decoding (provider : String) (finish : ProviderEntry → Except PyError ProviderEntry) : Prop where
  failure : ∀ e, decode (.error e) = .ok (.ofError provider e.text)
  answer : ∀ data entry, decode (.ok data) = .ok entry → entry.error = none
  hit : ∀ answer entry, decode answer = .ok entry → entry.found = true →
    Returns (finish entry) fun entry' => entry'.found = true
  miss : ∀ entry, entry.found = false → finish entry = .ok entry

variable {decode ask}

/-- The error of a decoded answer is the text of its failure. -/
theorem Decoding.error_iff {provider : String} {finish : ProviderEntry → Except PyError ProviderEntry}
    (hd : Decoding decode provider finish) {answer : Fetched} {entry : ProviderEntry}
    (h : decode answer = .ok entry) :
    (entry.error = none ↔ Answered answer) ∧ (truthy entry.error = true ↔ failureText answer ≠ "") := by
  cases answer with
  | error e =>
    obtain rfl : .ofError provider e.text = entry := Except.ok.inj ((hd.failure e).symm.trans h)
    refine ⟨iff_of_false (fun h => by cases h) (fun ⟨_, h⟩ => by cases h), ?_⟩
    simp [ProviderEntry.ofError, truthy, failureText]
  | ok data =>
    rw [hd.answer data entry h]
    exact ⟨iff_of_true rfl ⟨data, rfl⟩, iff_of_false (by simp [truthy]) (by simp [failureText])⟩

section Result
variable {provider : String} {finish : ProviderEntry → Except PyError ProviderEntry} {queries : List Query}

/-- Where some query does not miss, a hit is returned, or nothing is. -/
theorem reportsFailures_of_not_misses (hd : Decoding decode provider finish) (last : ProviderEntry)
    (h : ∃ q ∈ queries, ¬ MissOf decode ask q) :
    ReportsFailures decode ask queries
      (firstHit (fun q => decode (ask q)) ProviderEntry.found last queries >>= finish) := by
  obtain ⟨q, hq, heq, hnot⟩ := firstHit_of_not_misses h last
  intro entry hentry
  rw [heq] at hentry
  obtain ⟨hit, hhit, hfinish⟩ := bind_eq_ok.mp hentry
  have hfound : hit.found = true := by
    by_contra h
    exact hnot ⟨hit, hhit, by simpa using h⟩
  have hentryFound := (hd.hit _ hit hhit hfound).of_eq_ok hfinish
  refine ⟨fun hclean => ?_, fun hnone => absurd ⟨hit, hhit, hfound⟩ (hnone q hq)⟩
  rw [hclean.1] at hentryFound
  cases hentryFound

/-- Where every query misses, the entry of the last one is returned. -/
theorem firstHit_finish_of_misses (hd : Decoding decode provider finish) (last : ProviderEntry)
    (h : ∀ q ∈ queries, MissOf decode ask q) {q : Query} (hq : queries.getLast? = some q) :
    ∃ entry, decode (ask q) = .ok entry ∧
      firstHit (fun q => decode (ask q)) ProviderEntry.found last queries >>= finish = .ok entry := by
  obtain ⟨entry, hentry, hnotFound⟩ := h q (List.mem_of_getLast? hq)
  refine ⟨entry, hentry, ?_⟩
  rw [(firstHit_of_misses h last).2, hq]
  exact bind_eq_ok.mpr ⟨entry, hentry, hd.miss entry hnotFound⟩

/-- A query that misses does not hit. -/
theorem not_hit_of_miss {q : Query} (h : MissOf decode ask q) :
    ¬ ∃ hit, decode (ask q) = .ok hit ∧ hit.found = true := by
  rintro ⟨hit, hhit, hfound⟩
  obtain ⟨b, hb, hnot⟩ := h
  obtain rfl := Except.ok.inj (hb.symm.trans hhit)
  rw [hnot] at hfound
  cases hfound

/-- Where every query misses, failures are reported if there is none or if the last one shows. -/
theorem reportsFailures_iff_of_misses (hd : Decoding decode provider finish) (last : ProviderEntry)
    (h : ∀ q ∈ queries, MissOf decode ask q) {q : Query} (hq : queries.getLast? = some q) :
    ReportsFailures decode ask queries
        (firstHit (fun q => decode (ask q)) ProviderEntry.found last queries >>= finish) ↔
      (∀ q ∈ queries, Answered (ask q)) ∨ failureText (ask q) ≠ "" := by
  obtain ⟨entry, hentry, hresult⟩ := firstHit_finish_of_misses hd last h hq
  have herror := hd.error_iff hentry
  rw [hresult, ← herror.2]
  unfold ReportsFailures issuedOf
  rw [(firstHit_of_misses h last).1]
  constructor
  · intro hreports
    by_cases hanswered : ∀ q ∈ queries, Answered (ask q)
    · exact Or.inl hanswered
    · obtain ⟨q', hq', hfailed⟩ := not_forall₂.mp hanswered
      exact Or.inr ((hreports entry rfl).2 (fun q' hq' => not_hit_of_miss (h q' hq')) ⟨q', hq', hfailed⟩)
  · rintro (hanswered | htruthy) entry' hentry'
    · exact ⟨fun _ => hanswered, fun _ ⟨q', hq', hfailed⟩ => absurd (hanswered q' hq') hfailed⟩
    · obtain rfl := Except.ok.inj hentry'
      refine ⟨fun hclean => ?_, fun _ _ => htruthy⟩
      rw [hclean.2] at htruthy
      cases htruthy

/-- **When a lookup by first hit reports failures.** -/
theorem reportsFailures_iff (hd : Decoding decode provider finish) (hne : queries ≠ [])
    (last : ProviderEntry) :
    ReportsFailures decode ask queries
        (firstHit (fun q => decode (ask q)) ProviderEntry.found last queries >>= finish) ↔
      LastFailureShows decode ask queries := by
  by_cases hmiss : ∃ q ∈ queries, ¬ MissOf decode ask q
  · exact iff_of_true (reportsFailures_of_not_misses hd last hmiss) (Or.inl hmiss)
  · have hall : ∀ q ∈ queries, MissOf decode ask q := fun q hq => by
      by_contra h
      exact hmiss ⟨q, hq, h⟩
    obtain ⟨q, hq⟩ : ∃ q, queries.getLast? = some q := ⟨_, List.getLast?_eq_some_getLast hne⟩
    unfold LastFailureShows
    rw [reportsFailures_iff_of_misses hd last hall hq, or_iff_right hmiss, hq]
    simp only [Option.some.injEq, exists_eq_left']

end Result

end Reports

/-! ### The two providers -/

variable {isPrintable : Char → Bool}

theorem discogs_decoding (up : Discogs.Request → Fetched) :
    Decoding (Discogs.searchEntry isPrintable true) Discogs.providerId (Discogs.finish isPrintable up) where
  failure _ := rfl
  answer _ _ h := (Discogs.searchResult_of_ok h).error
  hit _ _ h hfound := by
    rw [Discogs.finish, if_pos hfound]
    exact (fillsIn_release h hfound up).mono fun _ hfill => hfill.found
  miss _ h := by rw [Discogs.finish, if_neg (by rw [h]; simp)]

theorem deezer_decoding (up : Deezer.Request → Fetched) :
    Decoding (Deezer.searchEntry isPrintable) Deezer.providerId (Deezer.attachAlbumDetail isPrintable up) where
  failure _ := rfl
  answer _ _ h := (Deezer.searchResult_of_ok h).error
  hit _ _ h hfound := (fillsIn_album h hfound up).mono fun _ hfill => hfill.found
  miss _ h := Deezer.attachAlbumDetail_of_not_found h

/-- **When a UPC lookup reports failures**: for every code and every answer to each of its requests. -/
theorem lookupUpc_reports_iff (isPrintable : Char → Bool) (code : String) :
    (∀ up : Discogs.Request → Fetched,
      ReportsFailures (Discogs.searchEntry isPrintable true) (fun params => up (.search params))
        (Discogs.queriesOf (Discogs.variants code)) (Discogs.lookupUpc isPrintable up code) ↔
      LastFailureShows (Discogs.searchEntry isPrintable true) (fun params => up (.search params))
        (Discogs.queriesOf (Discogs.variants code))) ∧
    ∀ up : Deezer.Request → Fetched,
      ReportsFailures (Deezer.searchEntry isPrintable) (fun q => up (.search q)) (Deezer.queries code)
        (Deezer.lookupUpc isPrintable up code) ↔
      LastFailureShows (Deezer.searchEntry isPrintable) (fun q => up (.search q)) (Deezer.queries code) := by
  constructor
  · intro up
    rw [Discogs.lookupUpc, Discogs.upcLoop_eq _ rfl]
    exact reportsFailures_iff (discogs_decoding up) (Discogs.queriesOf_variants_ne_nil code) _
  · intro up
    rw [Deezer.lookupUpc_eq (miss Deezer.providerId none)]
    exact reportsFailures_iff (deezer_decoding up) (Deezer.queries_ne_nil code) _

/-- The barcode search of Discogs is refused; its text search finds nothing. -/
def refusedBarcode : Discogs.Request → Fetched
  | .search params =>
    if (params.lookup "barcode").isSome then .error (.httpError "429 Too Many Requests")
    else .ok (.obj [("results", .arr [])])
  | .release _ => .error (.httpError "404 Not Found")

/-- **A failed barcode query is a clean miss**, where the text query after it finds nothing. -/
theorem failed_barcode_query_is_a_miss :
    ¬ ReportsFailures (Discogs.searchEntry (fun _ => true) true)
      (fun params => refusedBarcode (.search params)) (Discogs.queriesOf (Discogs.variants "724384960650"))
      (Discogs.lookupUpc (fun _ => true) refusedBarcode "724384960650") := by
  intro h
  have hmiss : Discogs.lookupUpc (fun _ => true) refusedBarcode "724384960650" =
      .ok (miss "discogs" (some [("result_count", .int 0)])) := rfl
  obtain ⟨data, hdata⟩ := (h _ hmiss).1 ⟨rfl, rfl⟩ (Discogs.searchParams "barcode" "724384960650" 10)
    List.mem_cons_self
  cases hdata

/-! ### Errors in the body -/

/-- A body that says `error` and has no `data`. -/
def ErrorBody (body : Json) : Prop :=
  ∃ d, body = .obj d ∧ (lookup d "error").truthy = true ∧ d.lookup "data" = none

/-- The answer is such a body, with HTTP status 200. -/
def AnsweredByErrorBody (answer : Fetched) : Prop := ∃ body, answer = .ok body ∧ ErrorBody body

/-- The entry tells of a failure. -/
def FailureReported (entry : ProviderEntry) : Prop := entry.found = false ∧ truthy entry.error = true

theorem not_failureReported_of_cleanMiss {entry : ProviderEntry} (h : CleanMiss entry) :
    ¬ FailureReported entry := by
  rintro ⟨-, herror⟩
  rw [h.2] at herror
  cases herror

/-- A search takes an error for an empty result. -/
theorem returns_searchEntry_errorBody {answer : Fetched} (h : AnsweredByErrorBody answer) :
    Returns (Deezer.searchEntry isPrintable answer) CleanMiss := by
  obtain ⟨_, rfl, d, rfl, -, hdata⟩ := h
  have hnull : lookup d "data" = .null := by rw [lookup, hdata, Option.getD_none]
  rw [Deezer.searchEntry, Json.get_obj, returns_bind, returns_ok, hnull]
  exact returns_bind.mpr (returns_ok.mpr (returns_ok.mpr ⟨rfl, rfl⟩))

/-- Where every query is answered by an error, a UPC lookup ends in a clean miss. -/
theorem returns_lookupUpc_errorBody {up : Deezer.Request → Fetched} {code : String}
    (h : ∀ q ∈ Deezer.queries code, AnsweredByErrorBody (up (.search q))) :
    Returns (Deezer.lookupUpc isPrintable up code) CleanMiss := by
  have hall : ∀ q ∈ Deezer.queries code,
      Misses (fun q => Deezer.searchEntry isPrintable (up (.search q))) ProviderEntry.found q := fun q hq => by
    obtain ⟨entry, hentry, hclean⟩ := returns_searchEntry_errorBody (h q hq)
    exact ⟨entry, hentry, hclean.1⟩
  obtain ⟨q, hq⟩ : ∃ q, (Deezer.queries code).getLast? = some q :=
    ⟨_, List.getLast?_eq_some_getLast (Deezer.queries_ne_nil code)⟩
  rw [Deezer.lookupUpc_eq (miss Deezer.providerId none), (firstHit_of_misses hall _).2, hq, Option.map_some,
    Option.getD_some, returns_bind]
  refine (returns_searchEntry_errorBody (h q (List.mem_of_getLast? hq))).mono fun entry hclean => ?_
  rw [Deezer.attachAlbumDetail_of_not_found hclean.1]
  exact returns_ok.mpr hclean

/-- What `_get_entity` takes for a failed request. -/
theorem getEntity_errorBody {up : Deezer.Request → Fetched} {path : String}
    (h : AnsweredByErrorBody (up (.entity path))) : Deezer.getEntity up path = .ok none := by
  obtain ⟨_, hanswer, d, rfl, herror, -⟩ := h
  rw [Deezer.getEntity, hanswer]
  simp only [Json.isObj, Json.get_obj]
  exact if_pos herror

/-- A lookup that ends in a clean miss reports no failure. -/
theorem not_returns_failureReported {x : Except PyError ProviderEntry} (h : Returns x CleanMiss) :
    ¬ Returns x FailureReported := by
  obtain ⟨entry, rfl, hclean⟩ := h
  exact fun hreported => not_failureReported_of_cleanMiss hclean (returns_ok.mp hreported)

/-- **An error in the body of a search is reported by no lookup**: each ends in a clean miss, whatever the
error is, though the same body is a failure where an entity is fetched. -/
theorem error_body_is_a_miss (isPrintable : Char → Bool) (up : Deezer.Request → Fetched) :
    (∀ path, AnsweredByErrorBody (up (.entity path)) → Deezer.getEntity up path = .ok none) ∧
    (∀ code, AnsweredByErrorBody (up (.search (Deezer.fieldQuery "isrc" code))) →
      Returns (Deezer.lookupIsrc isPrintable up code) CleanMiss ∧
        ¬ Returns (Deezer.lookupIsrc isPrintable up code) FailureReported) ∧
    (∀ code, (∀ q ∈ Deezer.queries code, AnsweredByErrorBody (up (.search q))) →
      Returns (Deezer.lookupUpc isPrintable up code) CleanMiss ∧
        ¬ Returns (Deezer.lookupUpc isPrintable up code) FailureReported) ∧
    ∀ query, collapseWs query ≠ "" → AnsweredByErrorBody (up (.search (collapseWs query))) →
      Returns (Deezer.lookupFreeText isPrintable up query) CleanMiss ∧
        ¬ Returns (Deezer.lookupFreeText isPrintable up query) FailureReported := by
  refine ⟨fun path h => getEntity_errorBody h, fun code h => ?_, fun code h => ?_, fun query hquery h => ?_⟩
  · have hmiss : Returns (Deezer.lookupIsrc isPrintable up code) CleanMiss := by
      rw [Deezer.lookupIsrc, Deezer.search, returns_bind]
      refine (returns_searchEntry_errorBody h).mono fun entry hclean => ?_
      rw [Deezer.attachTrackDetail_of_not_found hclean.1]
      exact returns_ok.mpr hclean
    exact ⟨hmiss, not_returns_failureReported hmiss⟩
  · have hmiss : Returns (Deezer.lookupUpc isPrintable up code) CleanMiss := returns_lookupUpc_errorBody h
    exact ⟨hmiss, not_returns_failureReported hmiss⟩
  · have hmiss : Returns (Deezer.lookupFreeText isPrintable up query) CleanMiss := by
      rw [Deezer.lookupFreeText, if_neg hquery]
      exact returns_searchEntry_errorBody h
    exact ⟨hmiss, not_returns_failureReported hmiss⟩

/-- The quota error of Deezer. -/
def quotaError : Json :=
  .obj [("error", .obj [("type", .str "Exception"), ("message", .str "Quota limit exceeded"), ("code", .int 4)])]

theorem errorBody_quotaError : AnsweredByErrorBody (.ok quotaError) := ⟨_, rfl, _, rfl, rfl, rfl⟩

theorem error_body_is_a_miss_quota :
    ¬ Returns (Deezer.lookupIsrc (fun _ => true) (fun _ => .ok quotaError) "USRC17607839") FailureReported ∧
    ¬ Returns (Deezer.lookupUpc (fun _ => true) (fun _ => .ok quotaError) "0724384960650") FailureReported ∧
    ¬ Returns (Deezer.lookupFreeText (fun _ => true) (fun _ => .ok quotaError) "song") FailureReported := by
  have h := error_body_is_a_miss (fun _ => true) (fun _ => .ok quotaError)
  exact ⟨(h.2.1 _ errorBody_quotaError).2, (h.2.2.1 _ fun _ _ => errorBody_quotaError).2,
    (h.2.2.2 "song" (by decide) errorBody_quotaError).2⟩

/-- **The same body, two readings**: a failed request for an album, a clean miss for a search. -/
theorem quota_error_is_a_miss :
    Deezer.getEntity (fun _ => .ok quotaError) "album/302127" = .ok none ∧
      Deezer.lookupIsrc (fun _ => true) (fun _ => .ok quotaError) "USRC17607839" =
        .ok (miss "deezer" (some [("total", .null)])) ∧
      ¬ FailureReported (miss "deezer" (some [("total", .null)])) :=
  ⟨rfl, rfl, not_failureReported_of_cleanMiss ⟨rfl, rfl⟩⟩

end LookupAggregator.Providers
