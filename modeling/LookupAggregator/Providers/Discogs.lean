import LookupAggregator.Providers.Base

/-! # Discogs

`app/providers/discogs.py`. A search decodes its first result; a UPC is searched by barcode, then by text,
for each of its forms in turn, and the release of a hit is fetched and attached. The walk over an answer
raises where the code does not check a type first. -/

namespace LookupAggregator.Discogs

open Lib Py Normalize Providers

/-- `DiscogsProvider.id`. -/
def providerId : String := "discogs"

/-- The requests: a search with its parameters, and a release by the text of its id. -/
inductive Request
  | search (params : Items)
  | release (rid : String)

section Lookup
variable (isPrintable : Char → Bool) (up : Request → Fetched)

/-! ### Searching -/

/-- The parameters of a search: `field` is `"q"` or `"barcode"`. -/
def searchParams (field query : String) (perPage : ℤ) : Items :=
  [(field, .str query), ("type", .str "release"), ("per_page", .int perPage)]

/-- The label of a search result: the first of a list, or a text. -/
def resultLabel (best : Json) : Except PyError (Option String) := do
  let labels ← best.get "label"
  if labels.isArr && labels.truthy then
    .ok (some (collapsed isPrintable (← labels.head)))
  else
    match labels with
    | .str s => .ok (some (collapseWs s))
    | _ => .ok none

/-- `for key in ("artist", "anv"): ...`. -/
def firstCredit (best : Json) : List String → Except PyError (Option String)
  | [] => .ok none
  | key :: keys => do
    let v ← best.get key
    if v.truthy then .ok (some (collapsed isPrintable v)) else firstCredit best keys

/-- The keys that `_compact_result` keeps. -/
def resultKeys : List String :=
  ["id", "type", "resource_url", "title", "year", "barcode", "catno", "country", "genre", "style"]

/-- `_compact_result`. -/
def compactResult (item : Json) : Except PyError Items := do
  let d ← item.items
  .ok (resultKeys.filterMap fun k => (d.lookup k).map fun v => (k, v))

/-- The entry that `_search` makes of the answer to its request. -/
def searchEntry (isBarcodeQuery : Bool) : Fetched → Except PyError ProviderEntry
  | .error e => .ok (.ofError providerId e.text)
  | .ok data => do
    let results := (← data.get "results").orElse (.arr [])
    if !results.truthy then
      .ok (miss providerId (some (safeRawFragment isPrintable (.obj [("result_count", .int 0)]))))
    else
      let best ← results.head
      let title := orNone (collapsed isPrintable (← best.getOr "title" (.str "")))
      let label ← resultLabel isPrintable best
      let artist ← firstCredit isPrintable best ["artist", "anv"]
      let found :=
        if isBarcodeQuery then truthy title || truthy artist || truthy label else truthy title
      let raw := safeRawFragment isPrintable (.obj (← compactResult best))
      .ok ⟨providerId, found, title, artist, title, label, none, some raw⟩

/-- `_search`. -/
def search (params : Items) (isBarcodeQuery : Bool) : Except PyError ProviderEntry :=
  searchEntry isPrintable isBarcodeQuery (up (.search params))

/-! ### The release of a hit -/

/-- `[row(x) for x in xs[:n] if isinstance(x, dict)]`, where `row` may leave an element out. -/
def rows (xs : Json) (n : ℕ) (row : Json → Except PyError (List Json)) : Except PyError Json := do
  let first ← xs.slice n
  let elements ← first.iter
  let out ← gather (fun x => if x.isObj then row x else .ok []) elements
  .ok (.arr out)

/-- `isinstance(v, list) and v and isinstance(v[0], dict)`. -/
def listOfObjects (v : Json) : Except PyError Bool :=
  if nonEmptyList v then do
    let first ← v.head
    .ok first.isObj
  else .ok false

/-- `notes_preview`. -/
def notesPreview (d : Json) : Except PyError Items := do
  match ← d.get "notes" with
  | .str s =>
    if strip s ≠ "" then
      .ok [("notes_preview", .str (String.ofList ((strip s).toList.take 1200)))]
    else .ok []
  | _ => .ok []

/-- The first twelve of a list, as texts: `genres` and `styles`. -/
def textList (key : String) (d : Json) : Except PyError Items := do
  let v ← d.get key
  if nonEmptyList v then
    let first ← v.slice 12
    let elements ← first.iter
    .ok [(key, .arr (elements.map fun x => .str (x.text isPrintable)))]
  else .ok []

/-- `identifiers`. -/
def identifiers (d : Json) : Except PyError Items := do
  let ids := (← d.get "identifiers").orElse (.arr [])
  if nonEmptyList ids then
    let out ← rows ids 15 fun x => do
      let row ← columns x ["type", "value"]
      .ok [.obj row]
    .ok [("identifiers", out)]
  else .ok []

/-- `labels` and `formats`: the first eight, with two columns, if the first is an object. -/
def pairList (key : String) (keys : List String) (d : Json) : Except PyError Items := do
  let v := (← d.get key).orElse (.arr [])
  if ← listOfObjects v then
    let out ← rows v 8 fun x => do
      let row ← columns x keys
      .ok [.obj row]
    .ok [(key, out)]
  else .ok []

/-- `artists`. -/
def artists (d : Json) : Except PyError Items := do
  let v := (← d.get "artists").orElse (.arr [])
  if nonEmptyList v then
    let out ← rows v 8 fun x => do
      let name ← x.get "name"
      if name.truthy then .ok [.obj [("name", name)]] else .ok []
    .ok [("artists", out)]
  else .ok []

/-- `tracklist`. -/
def tracklist (d : Json) : Except PyError Items := do
  let tl := (← d.get "tracklist").orElse (.arr [])
  if nonEmptyList tl then
    let out ← rows tl 50 fun x => do
      let row ← columns x ["position", "title", "duration"]
      .ok [.obj (row.filter fun item => !item.2.isNull)]
    .ok [("tracklist", out)]
  else .ok []

/-- `data_quality`. -/
def dataQuality (d : Json) : Except PyError Items := do
  let dq ← d.get "data_quality"
  if dq.isNull then .ok [] else .ok [("data_quality", dq)]

/-- `_compact_release`. -/
def compactRelease (d : Json) : Except PyError Items := do
  let head ← columns d ["id", "title", "released", "year", "country"]
  let out ← gather (fun part => part d)
    [dataQuality, notesPreview, textList isPrintable "genres", textList isPrintable "styles", identifiers,
      pairList "labels" ["name", "catno"], artists, pairList "formats" ["name", "qty"], tracklist]
  .ok ((head ++ out).filter fun item => !item.2.isNull)

/-- The artist or the label of an entry, from the first object of `d[key]` if the entry has none. -/
def fillName (d : Json) (key : String) (base : Option String) : Except PyError (Option String) :=
  if truthy base then .ok base
  else do
    let values := (← d.get key).orElse (.arr [])
    if ← listOfObjects values then
      let first ← values.head
      let name ← first.get "name"
      .ok (orNone (collapsed isPrintable (name.orElse (.str ""))))
    else .ok base

/-- `_attach_release_detail`. -/
def attachReleaseDetail (entry : ProviderEntry) : Except PyError ProviderEntry :=
  let rid := lookup (rawItems entry) "id"
  if rid.isNull then .ok entry
  else
    match up (.release (rid.text isPrintable)) with
    | .error _ => .ok entry
    | .ok d =>
      if !d.isObj then .ok entry
      else do
        let name ← d.get "title"
        let title := Py.orElse entry.title (orNone (collapsed isPrintable (name.orElse (.str ""))))
        let artist ← fillName isPrintable d "artists" entry.artist
        let label ← fillName isPrintable d "labels" entry.label
        let album := Py.orElse entry.album title
        let found := truthy title || truthy artist || truthy label
        let detail ← compactRelease isPrintable d
        let raw := setItem (rawItems entry) "release_detail" (.obj detail)
        .ok ⟨providerId, found, title, artist, album, label, none,
          some (safeRawFragment isPrintable (.obj raw))⟩

/-! ### The lookups -/

/-- `lookup_isrc`. -/
def lookupIsrc (code : String) : Except PyError ProviderEntry :=
  search isPrintable up (searchParams "q" code 5) false

/-- `lookup_release_free_text`. -/
def lookupReleaseFreeText (query : String) : Except PyError ProviderEntry :=
  let q := collapseWs query
  if q = "" then .ok (miss providerId none) else search isPrintable up (searchParams "q" q 10) false

/-- The forms of a UPC: thirteen digits with a leading zero are searched without it as well. -/
def variants (code : String) : List String :=
  if code.length = 13 ∧ code.toList.head? = some '0' then
    [code, String.ofList (code.toList.drop 1)]
  else [code]

/-- `for cand in variants: ...` of `lookup_upc`. -/
def upcLoop (entry : ProviderEntry) : List String → Except PyError ProviderEntry
  | [] => .ok entry
  | cand :: cands => do
    let entry ← search isPrintable up (searchParams "barcode" cand 10) true
    if entry.found then attachReleaseDetail isPrintable up entry
    else
      let entry ← search isPrintable up (searchParams "q" cand 10) true
      if entry.found then attachReleaseDetail isPrintable up entry
      else upcLoop entry cands

/-- `lookup_upc`. -/
def lookupUpc (code : String) : Except PyError ProviderEntry :=
  upcLoop isPrintable up (miss providerId none) (variants code)

/-! ### What a search gives -/

variable {isPrintable up}

/-- What the code relies on in an entry that a search made of an answer. -/
structure SearchResult (entry : ProviderEntry) : Prop where
  provider : entry.provider = providerId
  error : entry.error = none
  named : entry.found = true → (truthy entry.title || truthy entry.artist || truthy entry.label) = true
  raw : (rawItems entry).lookup "release_detail" = none

/-- A compacted result has no release. -/
theorem lookup_compactResult {best : Json} {item : Items} (h : compactResult best = .ok item) :
    item.lookup "release_detail" = none := by
  simp only [compactResult, bind_eq_ok] at h
  obtain ⟨d, -, h⟩ := h
  cases h
  rw [List.lookup_eq_none_iff]
  intro e he
  obtain ⟨k, hk, hv⟩ := List.mem_filterMap.mp he
  obtain ⟨v, -, rfl⟩ := Option.map_eq_some_iff.mp hv
  have hnot : "release_detail" ∉ resultKeys := by decide
  exact bne_iff_ne.mpr fun heq => hnot (heq ▸ hk)

theorem searchResult_of_ok {isBarcodeQuery : Bool} {data : Json} {entry : ProviderEntry}
    (h : searchEntry isPrintable isBarcodeQuery (.ok data) = .ok entry) : SearchResult entry := by
  simp only [searchEntry, bind_eq_ok] at h
  obtain ⟨results, -, h⟩ := h
  split_ifs at h with hresults
  · cases h
    exact ⟨rfl, rfl, fun hfound => absurd hfound (by simp [miss]), lookup_raw_none _ rfl (by decide) rfl⟩
  all_goals
    simp only [bind_eq_ok] at h
    obtain ⟨best, -, name, -, label, -, artist, -, item, hitem, h⟩ := h
    cases h
    refine ⟨rfl, rfl, fun hfound => ?_, lookup_raw_none _ rfl (by decide) (lookup_compactResult hitem)⟩
    simp_all

/-- An answer that makes a found entry is no failure. -/
theorem searchResult_of_found {isBarcodeQuery : Bool} {answer : Fetched} {entry : ProviderEntry}
    (h : searchEntry isPrintable isBarcodeQuery answer = .ok entry) (hfound : entry.found = true) :
    SearchResult entry := by
  cases answer with
  | error e =>
    cases h
    cases hfound
  | ok data => exact searchResult_of_ok h

/-! ### Attaching a release -/

theorem returns_rows {v : Json} {n : ℕ} {row : Json → Except PyError (List Json)}
    (hv : nonEmptyList v = true) (hrow : ∀ d, Returns (row (.obj d)) fun _ => True) : Returns (rows v n row) fun _ => True := by
  obtain ⟨x, xs, rfl⟩ := Json.exists_cons_of_list hv
  rw [rows, Json.slice_arr, returns_bind, returns_ok, Json.iter_arr, returns_bind, returns_ok, returns_bind]
  refine (returns_gather.mpr fun y _ => ?_).mono fun _ _ => returns_ok.mpr trivial
  split_ifs with hy
  · obtain ⟨d, rfl⟩ := Json.eq_obj_of_isObj hy
    exact hrow d
  · exact returns_ok.mpr trivial

theorem returns_listOfObjects (v : Json) :
    Returns (listOfObjects v) fun b => b = true → ∃ d xs, v = .arr (.obj d :: xs) := by
  unfold listOfObjects
  split_ifs with hv
  · obtain ⟨x, xs, rfl⟩ := Json.exists_cons_of_list hv
    refine returns_bind.mpr (returns_ok.mpr (returns_ok.mpr fun hx => ?_))
    obtain ⟨d, rfl⟩ := Json.eq_obj_of_isObj hx
    exact ⟨d, xs, rfl⟩
  · exact returns_ok.mpr fun h => by cases h

/-- A list of rows, one for each object, with the same columns. -/
theorem returns_rows_columns {v : Json} {n : ℕ} (keys : List String) (f : Items → Json)
    (hv : nonEmptyList v = true) :
    Returns (rows v n fun x => do
      let row ← columns x keys
      .ok [f row]) fun _ => True :=
  returns_rows hv fun d => returns_bind.mpr
    ((returns_columns d keys).mono fun _ _ => returns_ok.mpr trivial)

theorem returns_notesPreview (d : Items) : Returns (notesPreview (.obj d)) fun _ => True := by
  rw [notesPreview, Json.get_obj, returns_bind, returns_ok]
  split
  · split_ifs <;> exact returns_ok.mpr trivial
  · exact returns_ok.mpr trivial

theorem returns_textList (key : String) (d : Items) :
    Returns (textList isPrintable key (.obj d)) fun _ => True := by
  rw [textList, Json.get_obj, returns_bind, returns_ok]
  split_ifs with hv
  · obtain ⟨x, xs, hv⟩ := Json.exists_cons_of_list hv
    simp [hv]
  · exact returns_ok.mpr trivial

theorem returns_identifiers (d : Items) : Returns (identifiers (.obj d)) fun _ => True := by
  rw [identifiers, Json.get_obj, returns_bind, returns_ok]
  dsimp only
  split_ifs with hv
  · exact returns_bind.mpr ((returns_rows_columns _ _ hv).mono fun _ _ => returns_ok.mpr trivial)
  · exact returns_ok.mpr trivial

theorem returns_pairList (key : String) (keys : List String) (d : Items) :
    Returns (pairList key keys (.obj d)) fun _ => True := by
  rw [pairList, Json.get_obj, returns_bind, returns_ok, returns_bind]
  refine (returns_listOfObjects _).mono fun b hb => ?_
  split_ifs with h
  · obtain ⟨x, xs, hv⟩ := hb h
    have hlist : nonEmptyList ((lookup d key).orElse (.arr [])) = true := by rw [hv]; rfl
    exact returns_bind.mpr ((returns_rows_columns _ _ hlist).mono fun _ _ => returns_ok.mpr trivial)
  · exact returns_ok.mpr trivial

theorem returns_artists (d : Items) : Returns (artists (.obj d)) fun _ => True := by
  rw [artists, Json.get_obj, returns_bind, returns_ok]
  dsimp only
  split_ifs with hv
  · refine returns_bind.mpr ((returns_rows hv fun x => ?_).mono fun _ _ => returns_ok.mpr trivial)
    rw [Json.get_obj, returns_bind, returns_ok]
    split_ifs <;> exact returns_ok.mpr trivial
  · exact returns_ok.mpr trivial

theorem returns_tracklist (d : Items) : Returns (tracklist (.obj d)) fun _ => True := by
  rw [tracklist, Json.get_obj, returns_bind, returns_ok]
  dsimp only
  split_ifs with hv
  · exact returns_bind.mpr ((returns_rows_columns _ _ hv).mono fun _ _ => returns_ok.mpr trivial)
  · exact returns_ok.mpr trivial

theorem returns_dataQuality (d : Items) : Returns (dataQuality (.obj d)) fun _ => True := by
  rw [dataQuality, Json.get_obj, returns_bind, returns_ok]
  split_ifs <;> exact returns_ok.mpr trivial

/-- **Compacting a release raises on no object.** -/
theorem returns_compactRelease (d : Items) :
    Returns (compactRelease isPrintable (.obj d)) fun _ => True := by
  rw [compactRelease, returns_bind]
  refine (returns_columns d _).mono fun head _ => ?_
  rw [returns_bind]
  refine (returns_gather.mpr ?_).mono fun _ _ => returns_ok.mpr trivial
  simp only [List.forall_mem_cons, List.not_mem_nil, IsEmpty.forall_iff, implies_true, and_true]
  exact ⟨returns_dataQuality d, returns_notesPreview d, returns_textList _ d, returns_textList _ d,
    returns_identifiers d, returns_pairList _ _ d, returns_artists d, returns_pairList _ _ d,
    returns_tracklist d⟩

theorem returns_fillName (d : Items) (key : String) (base : Option String) :
    Returns (fillName isPrintable (.obj d) key base) fun name => truthy base → name = base := by
  unfold fillName
  split_ifs with hbase
  · exact returns_ok.mpr fun _ => rfl
  · rw [Json.get_obj, returns_bind, returns_ok, returns_bind]
    refine (returns_listOfObjects _).mono fun b hb => ?_
    split_ifs with h
    · obtain ⟨x, xs, hv⟩ := hb h
      rw [hv, returns_bind]
      refine returns_ok.mpr ?_
      rw [Json.get_obj, returns_bind]
      exact returns_ok.mpr (returns_ok.mpr fun h => absurd h hbase)
    · exact returns_ok.mpr fun h => absurd h hbase

/-- What a release attached to an entry makes of it. -/
structure Attached (isPrintable : Char → Bool) (base entry : ProviderEntry) : Prop where
  provider : entry.provider = providerId
  title : truthy base.title → entry.title = base.title
  artist : truthy base.artist → entry.artist = base.artist
  album : truthy base.album → entry.album = base.album
  label : truthy base.label → entry.label = base.label
  found : entry.found = (truthy entry.title || truthy entry.artist || truthy entry.label)
  error : entry.error = none
  raw : ∃ detail, entry.raw =
    some (safeRawFragment isPrintable (.obj (setItem (rawItems base) "release_detail" detail)))

/-- **Attaching a release raises on no answer**: the entry stays as it is, or has the release attached. -/
theorem attachReleaseDetail_returns (entry : ProviderEntry) :
    Returns (attachReleaseDetail isPrintable up entry) fun entry' =>
      entry' = entry ∨ Attached isPrintable entry entry' := by
  unfold attachReleaseDetail
  dsimp only
  split_ifs with hrid
  · exact returns_ok.mpr (Or.inl rfl)
  split
  · exact returns_ok.mpr (Or.inl rfl)
  · rename_i d _
    split_ifs with hd
    · exact returns_ok.mpr (Or.inl rfl)
    · obtain ⟨d, rfl⟩ := Json.eq_obj_of_isObj (by simpa using hd)
      rw [Json.get_obj, returns_bind, returns_ok, returns_bind]
      refine (returns_fillName d _ _).mono fun artist hartist => ?_
      rw [returns_bind]
      refine (returns_fillName d _ _).mono fun label hlabel => ?_
      rw [returns_bind]
      refine (returns_compactRelease d).mono fun detail _ => ?_
      refine returns_ok.mpr (Or.inr ?_)
      exact ⟨rfl, fun h => if_pos h, hartist, fun h => if_pos h, hlabel, rfl, rfl, ⟨_, rfl⟩⟩

/-! ### The queries for a UPC -/

/-- The searches for forms of a UPC, in order. -/
def queriesOf (cands : List String) : List Items :=
  cands.flatMap fun cand => [searchParams "barcode" cand 10, searchParams "q" cand 10]

theorem queriesOf_variants_ne_nil (code : String) : queriesOf (variants code) ≠ [] := by
  unfold variants
  split_ifs <;> exact List.cons_ne_nil _ _

/-- A hit has its release attached; the entry of a miss is returned. -/
def finish (isPrintable : Char → Bool) (up : Request → Fetched) (entry : ProviderEntry) :
    Except PyError ProviderEntry :=
  if entry.found then attachReleaseDetail isPrintable up entry else .ok entry

/-- **The loop over the forms of a UPC is the search for the first hit** among their queries. -/
theorem upcLoop_eq (cands : List String) {entry : ProviderEntry} (hentry : entry.found = false) :
    upcLoop isPrintable up entry cands =
      firstHit (fun params => searchEntry isPrintable true (up (.search params))) ProviderEntry.found entry
        (queriesOf cands) >>= finish isPrintable up := by
  induction cands generalizing entry with
  | nil =>
    show _ = finish isPrintable up entry
    rw [finish, if_neg (by rw [hentry]; simp)]
    rfl
  | cons cand cands ih =>
    have hqueries : queriesOf (cand :: cands) =
        searchParams "barcode" cand 10 :: searchParams "q" cand 10 :: queriesOf cands := rfl
    rw [upcLoop, hqueries, firstHit_cons_bind]
    refine bind_congr fun first => ?_
    split_ifs with hfirst
    · rw [finish, if_pos hfirst]
    · rw [firstHit_cons_bind]
      refine bind_congr fun second => ?_
      split_ifs with hsecond
      · rw [finish, if_pos hsecond]
      · exact ih (by simpa using hsecond)

end Lookup

end LookupAggregator.Discogs
