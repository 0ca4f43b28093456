import LookupAggregator.Providers.Deezer
import LookupAggregator.Providers.Discogs

/-! # Searches that can be read

Which answers to a search of Deezer or of Discogs make an entry, and which one (`items_read`,
`results_read`): any other JSON value makes the lookup raise, and nothing else does (`lookups_return_iff`),
whatever the answer to the request that completes a hit. -/

namespace LookupAggregator.Deezer

open Lib Py Normalize Providers

/-! ### The items of Deezer -/

/-- A part of an item can be read: it is an object, or false. -/
def IsPart (v : Json) : Prop := v.truthy = true → v.isObj = true

/-- The items of a part, none where it is false. -/
def partOf : Json → Items
  | .obj d => d
  | _ => []

/-- An item whose parts can be read. -/
structure IsItem (item : Items) : Prop where
  artist : IsPart (lookup item "artist")
  album : IsPart (lookup item "album")

/-- The items of an answer can be read: there are none, or a list whose first element is one. -/
def Readable (data : Items) : Prop := (lookup data "data").truthy = true →
  ∃ item items, lookup data "data" = .arr (.obj item :: items) ∧ IsItem item

section Entry
variable (isPrintable : Char → Bool)

/-- The collapsed text of a value, if there is one. -/
def textIn (d : Items) (key : String) : Option String :=
  if (lookup d key).isNull then none else some (collapsed isPrintable (lookup d key))

/-- What is kept of an item. -/
def keptItem (item : Items) : Items :=
  let artist := partOf (lookup item "artist")
  let album := partOf (lookup item "album")
  ["id", "link", "duration", "rank", "explicit_lyrics"].map (fun key => (key, lookup item key)) ++
    [("artist", .obj [("id", lookup artist "id"), ("name", textOrNull (textIn isPrintable artist "name"))]),
      ("album", .obj [("id", lookup album "id"), ("title", textOrNull (textIn isPrintable album "title"))])]

/-- The entry of an item. -/
def entryOfItem (item : Items) : ProviderEntry :=
  let title := textIn isPrintable item "title"
  ⟨providerId, truthy title, title, textIn isPrintable (partOf (lookup item "artist")) "name",
    textIn isPrintable (partOf (lookup item "album")) "title", none, none,
    some (safeRawFragment isPrintable (.obj (keptItem isPrintable item)))⟩

/-- The entry that is read from an answer. -/
def reading (data : Items) : ProviderEntry :=
  match lookup data "data" with
  | .arr (.obj item :: _) => entryOfItem isPrintable item
  | _ => miss providerId (some (safeRawFragment isPrintable (.obj [("total", lookup data "total")])))

end Entry

section Search
variable {isPrintable : Char → Bool} {up : Request → Fetched}

theorem getStr_obj (isPrintable : Char → Bool) (d : Items) (key : String) :
    ∃ s, getStr isPrintable (.obj d) key = .ok s ∧ s.map collapseWs = textIn isPrintable d key := by
  have hget : getStr isPrintable (.obj d) key =
      if (lookup d key).isNull then .ok none else .ok (some ((lookup d key).text isPrintable)) := rfl
  rw [hget, textIn]
  split_ifs
  · exact ⟨none, rfl, rfl⟩
  · exact ⟨_, rfl, rfl⟩

theorem columns_obj (d : Items) (keys : List String) :
    columns (.obj d) keys = .ok (keys.map fun key => (key, lookup d key)) := by
  have hcolumns : columns (.obj d) keys = .ok (keys.flatMap fun key => [(key, lookup d key)]) :=
    gather_eq fun key _ => rfl
  rw [hcolumns, List.map_eq_flatMap]

/-- A part that can be read is taken for an object. -/
theorem IsPart.orElse_eq {v : Json} (h : IsPart v) : v.orElse (.obj []) = .obj (partOf v) := by
  unfold Json.orElse
  split_ifs with hv
  · obtain ⟨d, rfl⟩ := Json.eq_obj_of_isObj (h hv)
    rfl
  · cases v with
    | obj d =>
      cases d with
      | nil => rfl
      | cons e d => exact absurd rfl hv
    | _ => rfl

/-- A part that cannot be read has no text, and no id. -/
theorem not_isPart (isPrintable : Char → Bool) {v : Json} (h : ¬ IsPart v) (key : String) :
    getStr isPrintable (v.orElse (.obj [])) key = .ok none ∧
      ∀ post, ¬ Returns ((v.orElse (.obj [])).get "id") post := by
  obtain ⟨hv, hobj⟩ : v.truthy = true ∧ ¬ v.isObj = true := by simpa [IsPart] using h
  rw [Json.orElse_of_truthy hv]
  cases v with
  | obj d => exact absurd rfl hobj
  | _ => exact ⟨rfl, fun post => not_returns_error⟩

/-- **An answer makes an entry if and only if its items can be read**, and then it makes the one that is
read. -/
theorem computes_searchEntry (data : Items) :
    Computes (searchEntry isPrintable (.ok (.obj data))) (Readable data) (reading isPrintable data) := by
  refine Json.computes_firstOf (fun item _ => IsItem item) (fun item _ => entryOfItem isPrintable item)
    (v := lookup data "data") (fun x post hx h => ?_) fun item items _ post => ?_
  · -- what is no object has no title, and then no artist
    obtain ⟨e, he⟩ := Json.get_of_not_isObj hx "artist"
    simp only [returns_bind, he] at h
    obtain ⟨title, -, h⟩ := h
    exact not_returns_error h
  · obtain ⟨title, htitle, htitle'⟩ := getStr_obj isPrintable item "title"
    simp only [returns_bind, htitle, Json.get_obj, returns_ok, htitle', columns_obj]
    by_cases hartist : IsPart (lookup item "artist")
    · obtain ⟨artist, hname, hname'⟩ := getStr_obj isPrintable (partOf (lookup item "artist")) "name"
      simp only [hartist.orElse_eq, hname, hname', Json.get_obj, returns_ok]
      by_cases halbum : IsPart (lookup item "album")
      · obtain ⟨album, hrecord, hrecord'⟩ := getStr_obj isPrintable (partOf (lookup item "album")) "title"
        simp only [halbum.orElse_eq, hrecord, hrecord', Json.get_obj, returns_ok]
        exact ⟨fun hp => ⟨⟨hartist, halbum⟩, hp⟩, fun h => h.2⟩
      · obtain ⟨hrecord, hid⟩ := not_isPart isPrintable halbum "title"
        simp only [hrecord, returns_ok]
        exact iff_of_false (fun h => hid _ h) fun h => halbum h.1.album
    · obtain ⟨hname, hid⟩ := not_isPart isPrintable hartist "name"
      simp only [hname, returns_ok]
      refine iff_of_false ?_ fun h => hartist h.1.artist
      rintro ⟨album, -, h⟩
      exact hid _ h

theorem searchEntry_eq_ok_iff {data : Json} {entry : ProviderEntry} :
    searchEntry isPrintable (.ok data) = .ok entry ↔
      ∃ d, data = .obj d ∧ Readable d ∧ entry = reading isPrintable d := by
  refine Json.eq_ok_iff_of_computes (f := fun data => searchEntry isPrintable (.ok data))
    computes_searchEntry fun v entry hv h => ?_
  obtain ⟨e, he⟩ := Json.get_of_not_isObj hv "data"
  rw [searchEntry, he] at h
  cases h

/-- **Which answers make an entry, and which one.** An answer to a search makes an entry if and only if it is
an object whose items can be read; every other JSON value makes the lookup raise. The entry is the one that
is read, and is found exactly if it has a title. -/
theorem items_read (isPrintable : Char → Bool) (data : Json) :
    (∀ entry, searchEntry isPrintable (.ok data) = .ok entry ↔
      ∃ d, data = .obj d ∧ Readable d ∧ entry = reading isPrintable d) ∧
    ∀ d, (reading isPrintable d).found = truthy (reading isPrintable d).title := by
  refine ⟨fun entry => searchEntry_eq_ok_iff, fun d => ?_⟩
  unfold reading
  split <;> rfl

/-! ### When a lookup of Deezer returns -/

/-- The search failed, or its answer can be read. -/
def Legible (answer : Fetched) : Prop := ∀ data, answer = .ok data → ∃ d, data = .obj d ∧ Readable d

theorem returns_searchEntry (answer : Fetched) :
    (Returns (searchEntry isPrintable answer) fun _ => True) ↔ Legible answer := by
  cases answer with
  | error e => exact iff_of_true (returns_ok.mpr trivial) fun data h => by cases h
  | ok data =>
    constructor
    · rintro ⟨entry, hentry, -⟩ data' hdata
      cases hdata
      obtain ⟨d, hd, hread, -⟩ := searchEntry_eq_ok_iff.mp hentry
      exact ⟨d, hd, hread⟩
    · intro h
      obtain ⟨d, rfl, hread⟩ := h data rfl
      exact (computes_searchEntry d).returns.mpr hread

/-- The entry of a search has its details attached, which never raises. -/
theorem returns_lookups (text : String) :
    ((Returns (lookupIsrc isPrintable up text) fun _ => True) ↔
      Legible (up (.search (fieldQuery "isrc" text)))) ∧
    ((Returns (lookupUpc isPrintable up text) fun _ => True) ↔
      ∀ q ∈ issued (fun q => searchEntry isPrintable (up (.search q))) ProviderEntry.found (queries text),
        Legible (up (.search q))) ∧
    ((Returns (lookupFreeText isPrintable up text) fun _ => True) ↔
      collapseWs text ≠ "" → Legible (up (.search (collapseWs text)))) := by
  refine ⟨?_, ?_, ?_⟩
  · have hattach (entry : ProviderEntry) :
        Returns (attachTrackDetail isPrintable up entry) fun _ => True :=
      (attachTrackDetail_returns entry).mono fun _ _ => trivial
    rw [lookupIsrc, returns_bind, returns_iff_of_forall hattach]
    exact returns_searchEntry _
  · have hattach (entry : ProviderEntry) :
        Returns (attachAlbumDetail isPrintable up entry) fun _ => True :=
      (attachAlbumDetail_returns entry).mono fun _ _ => trivial
    rw [lookupUpc_eq (miss providerId none), returns_bind, returns_iff_of_forall hattach, returns_firstHit]
    exact forall₂_congr fun q _ => returns_searchEntry _
  · unfold lookupFreeText
    dsimp only
    split_ifs with hempty
    · exact iff_of_true (returns_ok.mpr trivial) fun hne => absurd hempty hne
    · exact (returns_searchEntry _).trans ⟨fun h _ => h, fun h => h hempty⟩

end Search

end LookupAggregator.Deezer

namespace LookupAggregator.Discogs

open Lib Py Normalize Providers

/-! ### The results of Discogs -/

/-- The results of an answer can be read: there are none, or a list whose first element is an object. -/
def Readable (data : Items) : Prop := (lookup data "results").truthy = true →
  ∃ result results, lookup data "results" = .arr (.obj result :: results)

section Entry
variable (isPrintable : Char → Bool)

/-- The first of the labels, or the one label. -/
def labelOf (result : Items) : Option String :=
  match lookup result "label" with
  | .arr (name :: _) => some (collapsed isPrintable name)
  | .str name => some (collapseWs name)
  | _ => none

/-- The first credit that is not false. -/
def creditOf (result : Items) : Option String :=
  ((["artist", "anv"].map (lookup result)).find? Json.truthy).map (collapsed isPrintable)

/-- The entry of a result. -/
def entryOfResult (isBarcodeQuery : Bool) (result : Items) : ProviderEntry :=
  let title := orNone (collapsed isPrintable ((result.lookup "title").getD (.str "")))
  let artist := creditOf isPrintable result
  let label := labelOf isPrintable result
  ⟨providerId, truthy title || isBarcodeQuery && (truthy artist || truthy label), title, artist, title, label,
    none, some (safeRawFragment isPrintable
      (.obj (resultKeys.filterMap fun key => (result.lookup key).map fun v => (key, v))))⟩

/-- The entry that is read from an answer. -/
def reading (isBarcodeQuery : Bool) (data : Items) : ProviderEntry :=
  match lookup data "results" with
  | .arr (.obj result :: _) => entryOfResult isPrintable isBarcodeQuery result
  | _ => miss providerId (some (safeRawFragment isPrintable (.obj [("result_count", .int 0)])))

end Entry

section Search
variable {isPrintable : Char → Bool} {up : Request → Fetched} {isBarcodeQuery : Bool}

theorem resultLabel_obj (result : Items) :
    resultLabel isPrintable (.obj result) = .ok (labelOf isPrintable result) := by
  unfold resultLabel labelOf
  rw [Json.get_obj]
  generalize lookup result "label" = labels
  cases labels with
  | arr items => cases items <;> rfl
  | _ => rfl

theorem firstCredit_obj (result : Items) (keys : List String) :
    firstCredit isPrintable (.obj result) keys =
      .ok (((keys.map (lookup result)).find? Json.truthy).map (collapsed isPrintable)) := by
  induction keys with
  | nil => rfl
  | cons key keys ih =>
    have hcons : firstCredit isPrintable (.obj result) (key :: keys) =
        if (lookup result key).truthy then .ok (some (collapsed isPrintable (lookup result key)))
        else firstCredit isPrintable (.obj result) keys := rfl
    rw [hcons, List.map_cons, List.find?_cons]
    cases hv : (lookup result key).truthy with
    | true => rfl
    | false => exact ih

/-- **An answer makes an entry if and only if its results can be read**, and then it makes the one that is
read. -/
theorem computes_searchEntry (data : Items) :
    Computes (searchEntry isPrintable isBarcodeQuery (.ok (.obj data))) (Readable data)
      (reading isPrintable isBarcodeQuery data) := by
  refine Computes.of_iff (Json.computes_firstOf (fun _ _ => True)
    (fun result _ => entryOfResult isPrintable isBarcodeQuery result) (v := lookup data "results")
    (fun x post hx h => ?_) fun result results _ post => ?_) (by simp [Readable])
  · -- what is no object has no title
    cases x with
    | obj d => cases hx
    | _ => exact not_returns_error h
  · have htitle : (Json.obj result).getOr "title" (.str "") =
        .ok ((result.lookup "title").getD (.str "")) := rfl
    have hraw : compactResult (.obj result) =
        .ok (resultKeys.filterMap fun key => (result.lookup key).map fun v => (key, v)) := rfl
    simp only [returns_bind, htitle, resultLabel_obj, firstCredit_obj, hraw, returns_ok, true_and]
    cases isBarcodeQuery with
    | true => simp [entryOfResult, creditOf, Bool.or_assoc]
    | false => simp [entryOfResult, creditOf]

theorem searchEntry_eq_ok_iff {data : Json} {entry : ProviderEntry} :
    searchEntry isPrintable isBarcodeQuery (.ok data) = .ok entry ↔
      ∃ d, data = .obj d ∧ Readable d ∧ entry = reading isPrintable isBarcodeQuery d := by
  refine Json.eq_ok_iff_of_computes (f := fun data => searchEntry isPrintable isBarcodeQuery (.ok data))
    computes_searchEntry fun v entry hv h => ?_
  obtain ⟨e, he⟩ := Json.get_of_not_isObj hv "results"
  rw [searchEntry, he] at h
  cases h

/-- **Which answers make an entry, and which one.** An answer to a search makes an entry if and only if it is
an object whose results can be read; every other JSON value makes the lookup raise. The entry is the one that
is read: its album is its title, and it is found exactly if it has a title or, searched by barcode, an artist
or a label. -/
theorem results_read (isPrintable : Char → Bool) (isBarcodeQuery : Bool) (data : Json) :
    (∀ entry, searchEntry isPrintable isBarcodeQuery (.ok data) = .ok entry ↔
      ∃ d, data = .obj d ∧ Readable d ∧ entry = reading isPrintable isBarcodeQuery d) ∧
    ∀ d, let entry := reading isPrintable isBarcodeQuery d
      entry.album = entry.title ∧ entry.found =
        (truthy entry.title || isBarcodeQuery && (truthy entry.artist || truthy entry.label)) := by
  refine ⟨fun entry => searchEntry_eq_ok_iff, fun d => ?_⟩
  dsimp only
  unfold reading
  split
  · simp only [entryOfResult, and_self]
  · simp [miss, truthy]

/-! ### When a lookup of Discogs returns -/

/-- The search failed, or its answer can be read. -/
def Legible (answer : Fetched) : Prop := ∀ data, answer = .ok data → ∃ d, data = .obj d ∧ Readable d

theorem returns_searchEntry (answer : Fetched) :
    (Returns (searchEntry isPrintable isBarcodeQuery answer) fun _ => True) ↔ Legible answer := by
  cases answer with
  | error e => exact iff_of_true (returns_ok.mpr trivial) fun data h => by cases h
  | ok data =>
    constructor
    · rintro ⟨entry, hentry, -⟩ data' hdata
      cases hdata
      obtain ⟨d, hd, hread, -⟩ := searchEntry_eq_ok_iff.mp hentry
      exact ⟨d, hd, hread⟩
    · intro h
      obtain ⟨d, rfl, hread⟩ := h data rfl
      exact (computes_searchEntry d).returns.mpr hread

/-- The hit of a search by barcode has its release attached, which never raises. -/
theorem returns_lookups (text : String) :
    ((Returns (lookupIsrc isPrintable up text) fun _ => True) ↔
      Legible (up (.search (searchParams "q" text 5)))) ∧
    ((Returns (lookupUpc isPrintable up text) fun _ => True) ↔
      ∀ params ∈ issued (fun params => searchEntry isPrintable true (up (.search params)))
        ProviderEntry.found (queriesOf (variants text)), Legible (up (.search params))) ∧
    ((Returns (lookupReleaseFreeText isPrintable up text) fun _ => True) ↔
      collapseWs text ≠ "" → Legible (up (.search (searchParams "q" (collapseWs text) 10)))) := by
  refine ⟨returns_searchEntry _, ?_, ?_⟩
  · have hfinish (entry : ProviderEntry) : Returns (finish isPrintable up entry) fun _ => True := by
      unfold finish
      split_ifs
      · exact (attachReleaseDetail_returns entry).mono fun _ _ => trivial
      · exact returns_ok.mpr trivial
    rw [lookupUpc, upcLoop_eq _ rfl, returns_bind, returns_iff_of_forall hfinish, returns_firstHit]
    exact forall₂_congr fun params _ => returns_searchEntry _
  · unfold lookupReleaseFreeText
    dsimp only
    split_ifs with hempty
    · exact iff_of_true (returns_ok.mpr trivial) fun hne => absurd hempty hne
    · exact (returns_searchEntry _).trans ⟨fun h _ => h, fun h => h hempty⟩

end Search

end LookupAggregator.Discogs

namespace LookupAggregator.Providers

open Lib Py Normalize

/-- **When the lookups of Deezer and of Discogs return**: if and only if each answer to a search that they
issue can be read, or is a failure. No answer to the request that completes a hit makes them raise. -/
theorem lookups_return_iff (isPrintable : Char → Bool) (deezer : Deezer.Request → Fetched)
    (discogs : Discogs.Request → Fetched) (text : String) :
    (((Returns (Deezer.lookupIsrc isPrintable deezer text) fun _ => True) ↔
        Deezer.Legible (deezer (.search (Deezer.fieldQuery "isrc" text)))) ∧
      ((Returns (Deezer.lookupUpc isPrintable deezer text) fun _ => True) ↔
        ∀ q ∈ issued (fun q => Deezer.searchEntry isPrintable (deezer (.search q))) ProviderEntry.found
          (Deezer.queries text), Deezer.Legible (deezer (.search q))) ∧
      ((Returns (Deezer.lookupFreeText isPrintable deezer text) fun _ => True) ↔
        collapseWs text ≠ "" → Deezer.Legible (deezer (.search (collapseWs text))))) ∧
    ((Returns (Discogs.lookupIsrc isPrintable discogs text) fun _ => True) ↔
        Discogs.Legible (discogs (.search (Discogs.searchParams "q" text 5)))) ∧
      ((Returns (Discogs.lookupUpc isPrintable discogs text) fun _ => True) ↔
        ∀ params ∈ issued (fun params => Discogs.searchEntry isPrintable true (discogs (.search params)))
          ProviderEntry.found (Discogs.queriesOf (Discogs.variants text)),
          Discogs.Legible (discogs (.search params))) ∧
      ((Returns (Discogs.lookupReleaseFreeText isPrintable discogs text) fun _ => True) ↔
        collapseWs text ≠ "" →
          Discogs.Legible (discogs (.search (Discogs.searchParams "q" (collapseWs text) 10)))) :=
  ⟨Deezer.returns_lookups text, Discogs.returns_lookups text⟩

end LookupAggregator.Providers
