import LookupAggregator.Providers.Fallback

/-! # A UPC-A as its zero-led EAN-13

The queries for the zero-led form of a twelve-digit code come before those for the code itself, so a hit of the
code is lost only if one of the former makes the search raise: `lookupUpc_zero_led`. -/

namespace LookupAggregator.Providers

open Lib Py

/-- Found, after whatever may be attached. -/
def Found (x : Except PyError ProviderEntry) : Prop := Returns x fun entry => entry.found = true

section ZeroLed
variable {Query : Type} {decode : Fetched → Except PyError ProviderEntry} {ask : Query → Fetched}

/-- A hit, an empty result or a failure: the search makes an entry of the answer. -/
def Decodes (decode : Fetched → Except PyError ProviderEntry) (answer : Fetched) : Prop :=
  Returns (decode answer) fun _ => True

/-- A failure always makes an entry. -/
theorem Decoding.decodes_error {provider : String} {finish : ProviderEntry → Except PyError ProviderEntry}
    (hd : Decoding decode provider finish) (e : FetchError) : Decodes decode (.error e) := by
  unfold Decodes
  rw [hd.failure]
  exact returns_ok.mpr trivial

/-- What is attached to the entry of a search decides nothing: it was found before, or is not. -/
theorem Decoding.found_iff {provider : String} {finish : ProviderEntry → Except PyError ProviderEntry}
    (hd : Decoding decode provider finish) (last : ProviderEntry) (queries : List Query)
    (hlast : last.found = false) :
    Found (firstHit (fun q => decode (ask q)) ProviderEntry.found last queries >>= finish) ↔
      Found (firstHit (fun q => decode (ask q)) ProviderEntry.found last queries) := by
  have hfinish : Ensures (firstHit (fun q => decode (ask q)) ProviderEntry.found last queries) fun entry =>
      Found (finish entry) ↔ entry.found = true := by
    -- a result that is found is a hit of some query
    have hsource : Ensures (firstHit (fun q => decode (ask q)) ProviderEntry.found last queries) fun entry =>
        entry.found = true → ∃ answer, decode answer = .ok entry := by
      refine ensures_firstHit ?_ ?_
      · exact fun q _ entry hentry _ => ⟨ask q, hentry⟩
      · intro hfound
        rw [hlast] at hfound
        cases hfound
    refine hsource.mono fun entry hentry => ?_
    cases hfound : entry.found with
    | true =>
      obtain ⟨answer, hanswer⟩ := hentry hfound
      exact iff_of_true (hd.hit answer entry hanswer hfound) rfl
    | false =>
      rw [hd.miss entry hfound]
      exact returns_ok.trans (by rw [hfound])
  unfold Found
  rw [returns_bind]
  constructor
  · rintro ⟨entry, hentry, hfound⟩
    exact ⟨entry, hentry, (hfinish entry hentry).mp hfound⟩
  · rintro ⟨entry, hentry, hfound⟩
    exact ⟨entry, hentry, (hfinish entry hentry).mpr hfound⟩

/-- **More queries before its own lose no hit.** -/
theorem Decoding.found_append {provider : String} {finish : ProviderEntry → Except PyError ProviderEntry}
    (hd : Decoding decode provider finish) {last : ProviderEntry} (hlast : last.found = false)
    {pre queries : List Query} (hpre : ∀ q ∈ pre, Decodes decode (ask q))
    (h : Found (firstHit (fun q => decode (ask q)) ProviderEntry.found last queries >>= finish)) :
    Found (firstHit (fun q => decode (ask q)) ProviderEntry.found last (pre ++ queries) >>= finish) := by
  rw [hd.found_iff last _ hlast] at h ⊢
  exact Returns.firstHit_append hpre hlast h last

end ZeroLed

/-! ### The queries for both forms -/

section Forms
variable {u : String}

theorem zero_led_of_length (hu : u.length = 12) :
    (("0" ++ u).length = 13 ∧ ("0" ++ u).toList.head? = some '0') ∧
      String.ofList (("0" ++ u).toList.drop 1) = u := by
  have htoList : ("0" ++ u).toList = '0' :: u.toList := String.toList_append
  refine ⟨⟨?_, ?_⟩, ?_⟩
  · rw [String.length_append, hu]
    rfl
  · rw [htoList]
    rfl
  · rw [htoList, List.drop_one, List.tail_cons, String.ofList_toList]

theorem not_thirteen (hu : u.length = 12) : ¬ (u.length = 13 ∧ u.toList.head? = some '0') := by
  rw [hu]
  omega

/-- Discogs is asked for the zero-led form, then for the code. -/
theorem discogs_queries_zero_led (hu : u.length = 12) :
    Discogs.queriesOf (Discogs.variants ("0" ++ u)) =
      Discogs.queriesOf ["0" ++ u] ++ Discogs.queriesOf (Discogs.variants u) := by
  have hzero := zero_led_of_length hu
  unfold Discogs.variants
  rw [if_pos hzero.1, if_neg (not_thirteen hu), hzero.2]
  rfl

/-- And so is Deezer. -/
theorem deezer_queries_zero_led (hu : u.length = 12) :
    Deezer.queries ("0" ++ u) = [Deezer.fieldQuery "upc" ("0" ++ u)] ++ Deezer.queries u := by
  have hzero := zero_led_of_length hu
  unfold Deezer.queries
  rw [if_pos hzero.1, if_neg (not_thirteen hu), hzero.2]
  rfl

end Forms

/-- **Writing a UPC-A as its zero-led EAN-13 loses no hit**, for every behaviour of the requests in which each
query for the zero-led form hits, finds nothing or fails. -/
theorem lookupUpc_zero_led (isPrintable : Char → Bool) {u : String} (hu : u.length = 12) :
    (∀ up : Discogs.Request → Fetched,
      (∀ params ∈ Discogs.queriesOf ["0" ++ u],
        Decodes (Discogs.searchEntry isPrintable true) (up (.search params))) →
      Found (Discogs.lookupUpc isPrintable up u) → Found (Discogs.lookupUpc isPrintable up ("0" ++ u))) ∧
    ∀ up : Deezer.Request → Fetched,
      Decodes (Deezer.searchEntry isPrintable) (up (.search (Deezer.fieldQuery "upc" ("0" ++ u)))) →
      Found (Deezer.lookupUpc isPrintable up u) → Found (Deezer.lookupUpc isPrintable up ("0" ++ u)) := by
  constructor
  · intro up hextra h
    rw [Discogs.lookupUpc, Discogs.upcLoop_eq _ rfl] at h ⊢
    rw [discogs_queries_zero_led hu]
    exact (discogs_decoding up).found_append rfl hextra h
  · intro up hextra h
    rw [Deezer.lookupUpc_eq (miss Deezer.providerId none)] at h ⊢
    rw [deezer_queries_zero_led hu]
    refine (deezer_decoding up).found_append rfl (fun q hq => ?_) h
    rw [List.mem_singleton.mp hq]
    exact hextra

/-- Discogs finds what has a title in a text search, and refuses any other. -/
def foundByText : Discogs.Request → Fetched
  | .search params =>
    match params.lookup "q" with
    | some (.str _) => .ok (.obj [("results", .arr [.obj [("title", .str "Homework")]])])
    | _ => .error (.httpError "429 Too Many Requests")
  | .release _ => .error (.httpError "404 Not Found")

/-- Deezer finds one code. -/
def foundByUpc (code : String) : Deezer.Request → Fetched
  | .search query =>
    if query = Deezer.fieldQuery "upc" code then
      .ok (.obj [("data", .arr [.obj [("title", .str "Homework")]])])
    else .ok (.obj [("data", .arr [])])
  | .entity _ => .error (.httpError "404 Not Found")

theorem lookupUpc_zero_led_found :
    Found (Discogs.lookupUpc (fun _ => true) foundByText "0724384960650") ∧
    Found (Deezer.lookupUpc (fun _ => true) (foundByUpc "724384960650") "0724384960650") := by
  have h := lookupUpc_zero_led (fun _ => true) (u := "724384960650") rfl
  refine ⟨h.1 foundByText (fun params _ => ?_) ⟨_, rfl, rfl⟩, h.2 (foundByUpc "724384960650") ?_ ?_⟩
  · unfold foundByText
    dsimp only
    split
    · exact ⟨_, rfl, trivial⟩
    · exact (discogs_decoding foundByText).decodes_error _
  · unfold foundByUpc
    dsimp only
    split_ifs
    · exact ⟨_, rfl, trivial⟩
    · exact ⟨_, rfl, trivial⟩
  · have hqueries : Deezer.queries "724384960650" = [Deezer.fieldQuery "upc" "724384960650"] := rfl
    have hhit : foundByUpc "724384960650" (.search (Deezer.fieldQuery "upc" "724384960650")) =
        .ok (.obj [("data", .arr [.obj [("title", .str "Homework")]])]) := by
      unfold foundByUpc
      exact if_pos rfl
    rw [Deezer.lookupUpc_eq (miss Deezer.providerId none), (deezer_decoding _).found_iff _ _ rfl, hqueries,
      firstHit, hhit]
    exact ⟨_, rfl, rfl⟩

end LookupAggregator.Providers
