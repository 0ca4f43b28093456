import LookupAggregator.Providers.Base

/-! # Deezer

`app/providers/deezer.py`. A search decodes its first item; the track of an ISRC hit and the album of a UPC
hit are fetched and attached. Search and entity answers are decoded apart: `getEntity` looks at `error`,
`searchEntry` does not. -/

namespace LookupAggregator.Deezer

open Lib Py Normalize Providers

/-- `DeezerProvider.id`. -/
def providerId : String := "deezer"

/-- The requests: a search with its query, and an entity by its path. -/
inductive Request
  | search (query : String)
  | entity (path : String)

section Lookup
variable (isPrintable : Char → Bool) (up : Request → Fetched)

/-! ### Searching -/

/-- `_get_str`. -/
def getStr (obj : Json) (key : String) : Except PyError (Option String) :=
  if !obj.isObj then .ok none
  else do
    let v ← obj.get key
    if v.isNull then .ok none else .ok (some (v.text isPrintable))

/-- A text, or `None`. -/
def textOrNull : Option String → Json
  | some s => .str s
  | none => .null

/-- The entry that `_search` makes of the answer to its request. -/
def searchEntry : Fetched → Except PyError ProviderEntry
  | .error e => .ok (.ofError providerId e.text)
  | .ok data => do
    let items := (← data.get "data").orElse (.arr [])
    if !items.truthy then
      let total ← data.get "total"
      .ok (miss providerId (some (safeRawFragment isPrintable (.obj [("total", total)]))))
    else
      let first ← items.head
      let title := (← getStr isPrintable first "title").map collapseWs
      let performer := (← first.get "artist").orElse (.obj [])
      let artist := (← getStr isPrintable performer "name").map collapseWs
      let record := (← first.get "album").orElse (.obj [])
      let album := (← getStr isPrintable record "title").map collapseWs
      let head ← columns first ["id", "link", "duration", "rank", "explicit_lyrics"]
      let artistId ← performer.get "id"
      let albumId ← record.get "id"
      let raw := safeRawFragment isPrintable (.obj (head ++
        [("artist", .obj [("id", artistId), ("name", textOrNull artist)]),
          ("album", .obj [("id", albumId), ("title", textOrNull album)])]))
      .ok ⟨providerId, truthy title, title, artist, album, none, none, some raw⟩

/-- `_search`. -/
def search (query : String) : Except PyError ProviderEntry := searchEntry isPrintable (up (.search query))

/-! ### Entities -/

/-- `_get_entity`. -/
def getEntity (path : String) : Except PyError (Option Json) :=
  match up (.entity path) with
  | .error _ => .ok none
  | .ok data =>
    if !data.isObj then .ok none
    else do
      let error ← data.get "error"
      if error.truthy then .ok none else .ok (some data)

/-- `[str(x["name"])]` of the first `n` of a list, less those without a name. -/
def names (v : Json) (n : ℕ) : Except PyError (List String) := do
  let first ← v.slice n
  let elements ← first.iter
  gather (nameOf isPrintable) elements

/-- A list of texts. -/
def textArray (texts : List String) : Json := .arr (texts.map .str)

/-- The names of the contributors. -/
def contributorNames (d : Json) : Except PyError (List String) := do
  let contribs ← d.get "contributors"
  if nonEmptyList contribs then names isPrintable contribs 12 else .ok []

/-- `_compact_track_detail`. -/
def compactTrackDetail (d : Json) : Except PyError Items := do
  let record ← d.get "album"
  let alb := if record.isObj then record else .obj []
  let head ← columns d ["isrc", "bpm", "gain", "track_position", "disk_number"]
  let released ← d.get "release_date"
  let albumReleased ← alb.get "release_date"
  let tail ← columns d ["explicit_content_lyrics", "readable"]
  let contributors ← contributorNames isPrintable d
  let row := head ++ [("release_date", released.orElse albumReleased)] ++ tail ++
    if contributors = [] then [] else [("contributors", textArray contributors)]
  .ok (row.filter fun item => !item.2.isNullOrEmptyList)

/-- The names of `d["genres"]["data"]`. -/
def genreNames (d : Json) : Except PyError (List String) := do
  let block := (← d.get "genres").orElse (.obj [])
  let glist ← getIfObj block "data" (.arr [])
  if glist.isArr then names isPrintable glist 8 else .ok []

/-- `_compact_album_detail`. -/
def compactAlbumDetail (d : Json) : Except PyError Items := do
  let genres ← genreNames isPrintable d
  let head ← columns d
    ["title", "upc", "label", "nb_tracks", "duration", "release_date", "record_type", "explicit_lyrics"]
  let row := head ++ [("genres", if genres = [] then .null else textArray genres)]
  .ok (row.filter fun item => !item.2.isNullOrEmptyList)

/-- `_attach_track_detail`. -/
def attachTrackDetail (entry : ProviderEntry) : Except PyError ProviderEntry :=
  if !entry.found || (rawItems entry).isEmpty then .ok entry
  else
    let tid := lookup (rawItems entry) "id"
    if !tid.isInt then .ok entry
    else do
      match ← getEntity up ("track/" ++ tid.text isPrintable) with
      | none => .ok entry
      | some detail =>
        if !detail.truthy then .ok entry
        else
          let compact ← compactTrackDetail isPrintable detail
          let merged := setItem (rawItems entry) "track_detail" (.obj compact)
          .ok { entry with
            provider := providerId, raw := some (safeRawFragment isPrintable (.obj merged)) }

/-- `_attach_album_detail`. -/
def attachAlbumDetail (entry : ProviderEntry) : Except PyError ProviderEntry :=
  if !entry.found || (rawItems entry).isEmpty then .ok entry
  else do
    let alb := lookup (rawItems entry) "album"
    let aid ← getIfObj alb "id" .null
    if !aid.isInt then .ok entry
    else
      match ← getEntity up ("album/" ++ aid.text isPrintable) with
      | none => .ok entry
      | some detail =>
        if !detail.truthy then .ok entry
        else
          let compact ← compactAlbumDetail isPrintable detail
          let merged := setItem (rawItems entry) "album_detail" (.obj compact)
          let name ← detail.get "label"
          let label := Py.orElse (some (collapsed isPrintable (name.orElse (.str "")))) entry.label
          .ok { entry with
            provider := providerId, label := label,
            raw := some (safeRawFragment isPrintable (.obj merged)) }

/-! ### The lookups -/

/-- A query on a field, `"isrc"` or `"upc"`. -/
def fieldQuery (field code : String) : String := field ++ ":\"" ++ code ++ "\""

/-- `lookup_isrc`. -/
def lookupIsrc (code : String) : Except PyError ProviderEntry := do
  let entry ← search isPrintable up (fieldQuery "isrc" code)
  attachTrackDetail isPrintable up entry

/-- The queries for a UPC: thirteen digits with a leading zero are searched without it as well. -/
def queries (code : String) : List String :=
  if code.length = 13 ∧ code.toList.head? = some '0' then
    [fieldQuery "upc" code, fieldQuery "upc" (String.ofList (code.toList.drop 1))]
  else [fieldQuery "upc" code]

/-- `for q in queries: ...` of `lookup_upc` and what follows it; `first` is `queries[0]`. -/
def upcLoop (first : String) (last : Option ProviderEntry) : List String → Except PyError ProviderEntry
  | [] => do
    let fallback ← match last with
      | some entry => .ok entry
      | none => search isPrintable up first
    attachAlbumDetail isPrintable up fallback
  | q :: qs => do
    let entry ← search isPrintable up q
    if entry.found then attachAlbumDetail isPrintable up entry else upcLoop first (some entry) qs

/-- `lookup_upc`. -/
def lookupUpc (code : String) : Except PyError ProviderEntry :=
  upcLoop isPrintable up (fieldQuery "upc" code) none (queries code)

/-- `lookup_free_text`. -/
def lookupFreeText (query : String) : Except PyError ProviderEntry :=
  let q := collapseWs query
  if q = "" then .ok (miss providerId none) else search isPrintable up q

/-! ### What a search gives -/

variable {isPrintable up}

/-- What the code relies on in an entry that a search made of an answer. -/
structure SearchResult (entry : ProviderEntry) : Prop where
  provider : entry.provider = providerId
  error : entry.error = none
  label : entry.label = none
  track : (rawItems entry).lookup "track_detail" = none
  album : (rawItems entry).lookup "album_detail" = none

/-- A row of columns has their keys. -/
theorem keys_columns {x : Json} {keys : List String} {row : Items} (h : columns x keys = .ok row) :
    row.map Prod.fst = keys := by
  induction keys generalizing row with
  | nil => cases h; rfl
  | cons key keys ih =>
    simp only [columns, gather, bind_eq_ok] at h
    obtain ⟨rows, ⟨v, -, hv⟩, rest, hrest, h⟩ := h
    cases hv
    cases h
    rw [List.map_append, ih hrest]
    rfl

theorem lookup_eq_none_of_keys {d : Items} {keys : List String} (hd : d.map Prod.fst = keys) {key : String}
    (h : key ∉ keys) : d.lookup key = none := by
  rw [List.lookup_eq_none_iff]
  intro e he
  exact bne_iff_ne.mpr fun heq => h (hd ▸ heq ▸ List.mem_map_of_mem he)

theorem searchResult_of_ok {data : Json} {entry : ProviderEntry}
    (h : searchEntry isPrintable (.ok data) = .ok entry) : SearchResult entry := by
  simp only [searchEntry, bind_eq_ok] at h
  obtain ⟨items, -, h⟩ := h
  split_ifs at h with hitems
  · obtain ⟨total, -, h⟩ := bind_eq_ok.mp h
    cases h
    exact ⟨rfl, rfl, rfl, lookup_raw_none _ rfl (by decide) rfl, lookup_raw_none _ rfl (by decide) rfl⟩
  · simp only [bind_eq_ok] at h
    obtain ⟨first, -, title, -, performer, -, artist, -, record, -, album, -, head, hhead, artistId, -,
      albumId, -, h⟩ := h
    cases h
    have hkeys (artistItem albumItem : Json) :
        (head ++ [("artist", artistItem), ("album", albumItem)]).map Prod.fst =
          ["id", "link", "duration", "rank", "explicit_lyrics", "artist", "album"] := by
      rw [List.map_append, keys_columns hhead]
      rfl
    exact ⟨rfl, rfl, rfl, lookup_raw_none _ rfl (by decide) (lookup_eq_none_of_keys (hkeys _ _) (by decide)),
      lookup_raw_none _ rfl (by decide) (lookup_eq_none_of_keys (hkeys _ _) (by decide))⟩

/-- An answer that makes a found entry is no failure. -/
theorem searchResult_of_found {answer : Fetched} {entry : ProviderEntry}
    (h : searchEntry isPrintable answer = .ok entry) (hfound : entry.found = true) : SearchResult entry := by
  cases answer with
  | error e =>
    cases h
    cases hfound
  | ok data => exact searchResult_of_ok h

/-! ### Attaching a track or an album -/

theorem returns_getEntity (path : String) :
    Returns (getEntity up path) fun found => ∀ data, found = some data → ∃ d, data = .obj d := by
  unfold getEntity
  split
  · exact returns_ok.mpr fun _ h => by cases h
  · rename_i data _
    split_ifs with hdata
    · exact returns_ok.mpr fun _ h => by cases h
    · obtain ⟨d, rfl⟩ := Json.eq_obj_of_isObj (by simpa using hdata)
      rw [Json.get_obj, returns_bind, returns_ok]
      split_ifs
      · exact returns_ok.mpr fun _ h => by cases h
      · exact returns_ok.mpr fun _ h => ⟨d, (Option.some.inj h).symm⟩

theorem returns_names {v : Json} {n : ℕ} (hv : v.isArr = true) :
    Returns (names isPrintable v n) fun _ => True := by
  cases v with
  | arr items =>
    rw [names, Json.slice_arr, returns_bind, returns_ok, Json.iter_arr, returns_bind, returns_ok]
    exact returns_gather.mpr fun x _ => returns_nameOf isPrintable x
  | _ => cases hv

theorem returns_contributorNames (d : Items) :
    Returns (contributorNames isPrintable (.obj d)) fun _ => True := by
  rw [contributorNames, Json.get_obj, returns_bind, returns_ok]
  split_ifs with hcontribs
  · exact returns_names ((Bool.and_eq_true _ _).mp hcontribs).1
  · exact returns_ok.mpr trivial

theorem returns_genreNames (d : Items) : Returns (genreNames isPrintable (.obj d)) fun _ => True := by
  rw [genreNames, Json.get_obj, returns_bind, returns_ok, returns_bind]
  refine (returns_getIfObj _ _ _).mono fun glist _ => ?_
  split_ifs with hlist
  · exact returns_names hlist
  · exact returns_ok.mpr trivial

/-- **Compacting a track raises on no object.** -/
theorem returns_compactTrackDetail (d : Items) :
    Returns (compactTrackDetail isPrintable (.obj d)) fun _ => True := by
  obtain ⟨alb, halb⟩ : ∃ alb, (if (lookup d "album").isObj then lookup d "album" else .obj []) = .obj alb := by
    split_ifs with h
    · exact Json.eq_obj_of_isObj h
    · exact ⟨[], rfl⟩
  simp only [compactTrackDetail, Json.get_obj, returns_bind, returns_ok, halb]
  exact (returns_columns d _).mono fun head _ => (returns_columns d _).mono fun tail _ =>
    (returns_contributorNames d).mono fun _ _ => trivial

/-- **Compacting an album raises on no object.** -/
theorem returns_compactAlbumDetail (d : Items) :
    Returns (compactAlbumDetail isPrintable (.obj d)) fun _ => True := by
  rw [compactAlbumDetail, returns_bind]
  refine (returns_genreNames d).mono fun genres _ => ?_
  rw [returns_bind]
  exact (returns_columns d _).mono fun _ _ => returns_ok.mpr trivial

/-- **Attaching a track raises on no answer**: the entry stays as it is, or has the track attached. -/
theorem attachTrackDetail_returns (entry : ProviderEntry) :
    Returns (attachTrackDetail isPrintable up entry) fun entry' => entry' = entry ∨ ∃ detail,
      entry' = { entry with
        provider := providerId,
        raw := some (safeRawFragment isPrintable
          (.obj (setItem (rawItems entry) "track_detail" detail))) } := by
  unfold attachTrackDetail
  dsimp only
  split_ifs with hentry htid
  · exact returns_ok.mpr (Or.inl rfl)
  · exact returns_ok.mpr (Or.inl rfl)
  · rw [returns_bind]
    refine (returns_getEntity _).mono fun found hfound => ?_
    split
    · exact returns_ok.mpr (Or.inl rfl)
    · obtain ⟨d, rfl⟩ := hfound _ rfl
      split_ifs with hdetail
      · exact returns_ok.mpr (Or.inl rfl)
      · rw [returns_bind]
        exact (returns_compactTrackDetail d).mono fun compact _ => returns_ok.mpr (Or.inr ⟨_, rfl⟩)

/-- **Attaching an album raises on no answer**: the entry stays as it is, or has the album attached, with
its label before the one of the entry. -/
theorem attachAlbumDetail_returns (entry : ProviderEntry) :
    Returns (attachAlbumDetail isPrintable up entry) fun entry' => entry' = entry ∨ ∃ label detail,
      entry' = { entry with
        provider := providerId, label := label,
        raw := some (safeRawFragment isPrintable
          (.obj (setItem (rawItems entry) "album_detail" detail))) } := by
  unfold attachAlbumDetail
  split_ifs with hentry
  · exact returns_ok.mpr (Or.inl rfl)
  rw [returns_bind]
  refine (returns_getIfObj _ _ _).mono fun aid _ => ?_
  split_ifs with hid
  · exact returns_ok.mpr (Or.inl rfl)
  · rw [returns_bind]
    refine (returns_getEntity _).mono fun found hfound => ?_
    split
    · exact returns_ok.mpr (Or.inl rfl)
    · obtain ⟨d, rfl⟩ := hfound _ rfl
      split_ifs with hdetail
      · exact returns_ok.mpr (Or.inl rfl)
      · rw [returns_bind]
        refine (returns_compactAlbumDetail d).mono fun compact _ => ?_
        rw [Json.get_obj, returns_bind]
        exact returns_ok.mpr (returns_ok.mpr (Or.inr ⟨_, _, rfl⟩))

/-! ### The queries for a UPC -/

/-- **The loop over the forms of a UPC is the search for the first hit** among their queries. -/
theorem upcLoop_eq (first : String) {last : Option ProviderEntry} {entry : ProviderEntry} (qs : List String)
    (hlast : qs = [] → last = some entry) :
    upcLoop isPrintable up first last qs =
      firstHit (fun q => searchEntry isPrintable (up (.search q))) ProviderEntry.found entry qs >>=
        attachAlbumDetail isPrintable up := by
  induction qs generalizing last entry with
  | nil =>
    obtain rfl := hlast rfl
    rfl
  | cons q qs ih =>
    rw [upcLoop, firstHit_cons_bind]
    refine bind_congr fun b => ?_
    split_ifs with hb
    · rfl
    · exact ih fun _ => rfl

theorem queries_ne_nil (code : String) : queries code ≠ [] := by
  unfold queries
  split_ifs <;> exact List.cons_ne_nil _ _

theorem lookupUpc_eq (entry : ProviderEntry) (code : String) : lookupUpc isPrintable up code =
    firstHit (fun q => searchEntry isPrintable (up (.search q))) ProviderEntry.found entry (queries code) >>=
      attachAlbumDetail isPrintable up := by
  rw [lookupUpc]
  exact upcLoop_eq _ _ fun h => absurd h (queries_ne_nil code)

/-- A miss has nothing to attach an album to. -/
theorem attachAlbumDetail_of_not_found {entry : ProviderEntry} (h : entry.found = false) :
    attachAlbumDetail isPrintable up entry = .ok entry := by
  rw [attachAlbumDetail, if_pos (by rw [h]; rfl)]

theorem attachTrackDetail_of_not_found {entry : ProviderEntry} (h : entry.found = false) :
    attachTrackDetail isPrintable up entry = .ok entry := by
  rw [attachTrackDetail, if_pos (by rw [h]; rfl)]

end Lookup

end LookupAggregator.Deezer
