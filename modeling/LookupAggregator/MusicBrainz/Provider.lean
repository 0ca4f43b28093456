import Mathlib.Data.List.Infix
import Mathlib.Data.List.Sort
import LookupAggregator.Providers.Base

/-! # MusicBrainz

`app/providers/musicbrainz.py`, less the waits of `_respect_rate_limit`. A lookup decodes the first hit of a
search and enriches it: an ISRC by the recording's detail and by the release picked from it, a UPC by the
release. The walk over an answer raises where the code does not check a type first; a value that it has
checked to be a dictionary is a list of items here. -/

namespace LookupAggregator.MusicBrainz

open Lib Py Normalize Providers

/-- `MusicBrainzProvider.id`. -/
def providerId : String := "musicbrainz"

/-- The requests: a search for an entity with its query, and a recording or a release by its id. -/
inductive Query
  | search (entity query : String)
  | recording (mbid : String)
  | release (mbid : String)

section Lookup
variable (cf : CaseFolding) (isPrintable : Char → Bool) (up : Query → Fetched)

/-! ### Fields of an answer -/

/-- `collapse_ws(v)`, of a value that may not be a text. -/
def collapseWsOf : Json → Except PyError (Option String)
  | .null => .ok none
  | .str s => .ok (some (collapseWs s))
  | v => .error (.attributeError ("'" ++ v.typeName ++ "' object has no attribute 'strip'"))

/-- `d.get(key) if isinstance(d.get(key), dict) else {}`. -/
def subObject (d : Items) (key : String) : Items :=
  match lookup d key with
  | .obj items => items
  | _ => []

/-- `v == s`. -/
def isText (s : String) : Json → Bool
  | .str t => t = s
  | _ => false

/-- `" / ".join(parts)`. -/
def joinParts (parts : List String) : String := " / ".intercalate parts

/-- The names that a credit adds to `parts` of `_artist_credit`. -/
def creditPart : Json → Except PyError (List Json)
  | .obj d =>
    match d.lookup "artist" with
    | some artist => do
      let name ← artist.get "name"
      .ok (if name.truthy then [name] else [])
    | none =>
      let name := lookup d "name"
      .ok (if name.truthy then [.str (name.text isPrintable)] else [])
  | _ => .ok []

/-- The texts of `parts` from the item `i` on; `join` takes no other values. -/
def partTexts (i : ℕ) : List Json → Except PyError (List String)
  | [] => .ok []
  | .str s :: parts => do
    let rest ← partTexts (i + 1) parts
    .ok (s :: rest)
  | v :: _ => .error (.typeError
    ("sequence item " ++ toString i ++ ": expected str instance, " ++ v.typeName ++ " found"))

/-- `_artist_credit`. -/
def artistCredit (credits : Json) : Except PyError (Option String) :=
  if !credits.truthy then .ok none
  else do
    let elements ← credits.iter
    let parts ← gather (creditPart isPrintable) elements
    let texts ← partTexts 0 parts
    .ok (some (collapseWs (joinParts texts)))

/-! ### Picking a release -/

/-- `_release_credit_line`. -/
def releaseCreditLine (release : Items) : Except PyError String := do
  let credits ← ((lookup release "artist-credit").orElse (.arr [])).iter
  let parts ← gather (nameOf isPrintable) credits
  .ok (joinParts parts)

/-- `primary_order`. -/
def primaryOrder (primaryType : String) : ℕ :=
  (["Single", "EP", "Album", "Broadcast"].idxOf? primaryType).getD 9

/-- `rank`. -/
def rank (rel : Items) : ℕ × String :=
  let rg := subObject rel "release-group"
  (primaryOrder (((lookup rg "primary-type").orElse (.str "")).text isPrintable),
    ((lookup rel "date").orElse (.str "9999-99-99")).text isPrintable)

/-- The order of ranks, that of tuples. -/
def rankLe (r s : ℕ × String) : Prop := r.1 < s.1 ∨ r.1 = s.1 ∧ ¬ s.2 < r.2

instance (r s : ℕ × String) : Decidable (rankLe r s) := inferInstanceAs (Decidable (_ ∨ _))

/-- A credit line that the display takes: not of various artists, and with the hint in it if there is
one. -/
def fits (hint credit : String) : Bool :=
  !decide ("Various Artists".toList <:+: credit.toList) &&
    (hint = "" || decide (hint.toList <:+: (normCompare cf (some credit)).toList))

/-- The candidate that a release is, if any. -/
def candidate (hint : String) : Json → Except PyError (List Items)
  | .obj rel =>
    if isText "Official" (lookup rel "status") then do
      let credit ← releaseCreditLine isPrintable rel
      .ok (if fits cf hint credit then [rel] else [])
    else .ok []
  | _ => .ok []

/-- The candidate of the lowest rank, the first of those. -/
def firstByRank (candidates : List Items) : Option Items :=
  (candidates.insertionSort fun a b => rankLe (rank isPrintable a) (rank isPrintable b)).head?

/-- `_pick_display_release`. -/
def pickDisplayRelease (releases : Json) (artistHint : Option String) : Except PyError (Option Items) :=
  if !releases.truthy then .ok none
  else do
    let elements ← releases.iter
    let hinted ← gather (candidate cf isPrintable (normCompare cf artistHint)) elements
    if hinted = [] then
      let unhinted ← gather (candidate cf isPrintable "") elements
      .ok (firstByRank isPrintable unhinted)
    else .ok (firstByRank isPrintable hinted)

/-! ### The detail of a release -/

/-- `_first_label_name_from_release`. -/
def firstLabelNameFromRelease (data : Items) : Except PyError (Option String) :=
  let infos := (lookup data "label-info").orElse (.arr [])
  if !infos.truthy then .ok none
  else do
    match ← infos.head with
    | .obj info =>
      let name := lookup (subObject info "label") "name"
      .ok (if name.truthy then some (name.text isPrintable) else none)
    | _ => .ok none

/-- A row of `_compact_mb_label_infos`. -/
def labelRow : Json → List Json
  | .obj info =>
    let name := lookup (subObject info "label") "name"
    let cat := lookup info "catalog-number"
    if name.truthy then
      [.obj [("name", .str (name.text isPrintable)),
        ("catalog_number", if cat.truthy then .str (cat.text isPrintable) else .null)]]
    else []
  | _ => []

/-- `_compact_mb_label_infos`. -/
def compactMbLabelInfos (data : Items) : Except PyError (List Json) := do
  let infos ← ((lookup data "label-info").orElse (.arr [])).slice 8
  let elements ← infos.iter
  .ok (elements.flatMap (labelRow isPrintable))

/-- `_compact_mb_release_group`. -/
def compactMbReleaseGroup (rg : Items) : Items :=
  ["id", "title", "primary-type", "secondary-types", "first-release-date"].filterMap fun k =>
    match rg.lookup k with
    | some v => if v.isNullOrEmptyList then none else some (k, v)
    | none => none

/-- A row without its empty fields. -/
def rowOf (row : Items) : Json := .obj (row.filter fun item => !item.2.isNull)

/-- The row of a track. -/
def trackRow : Json → List Json
  | .obj tr =>
    [rowOf [("position", lookup tr "position"), ("title", lookup tr "title"), ("length_ms", lookup tr "length"),
      ("recording_id", lookup (subObject tr "recording") "id")]]
  | _ => []

/-- The rows of a tracklist, at most. -/
def maxTracks : ℕ := 80

/-- `for medium in ...` of `_tracklist_from_mb_release`, which is left with the last row. -/
def addMedia (out : List Json) : List Json → Except PyError (List Json)
  | [] => .ok out
  | .obj medium :: media => do
    let tracks ← ((lookup medium "tracks").orElse (.arr [])).iter
    let out ← gatherUpTo maxTracks (fun tr => .ok (trackRow tr)) out tracks
    if maxTracks ≤ out.length then .ok out else addMedia out media
  | _ :: media => addMedia out media

/-- `_tracklist_from_mb_release`. -/
def tracklistFromMbRelease (data : Items) : Except PyError (List Json) := do
  let media ← ((lookup data "media").orElse (.arr [])).iter
  addMedia [] media

/-- `v in (None, [], {})`. -/
def isNullOrEmpty : Json → Bool
  | .null | .arr [] | .obj [] => true
  | _ => false

/-- `_fetch_release_enrichment`. -/
def fetchReleaseEnrichment (releaseMbid : String) : Except PyError (Option String × Items) :=
  match up (.release releaseMbid) with
  | .ok (.obj data) => do
    let labelName ← firstLabelNameFromRelease isPrintable data
    let rg := subObject data "release-group"
    let labels ← compactMbLabelInfos isPrintable data
    let tracklist ← tracklistFromMbRelease data
    let enrichment : Items := [("labels", .arr labels), ("tracklist", .arr tracklist),
      ("packaging", lookup data "packaging"), ("disambiguation", lookup data "disambiguation"),
      ("quality", lookup data "quality"), ("status", lookup data "status"),
      ("country", lookup data "country"),
      ("release_group", if rg = [] then .null else .obj (compactMbReleaseGroup rg))]
    .ok (labelName, enrichment.filter fun item => !isNullOrEmpty item.2)
  | _ => .ok (none, [])

/-! ### The detail of a recording -/

/-- What `_enrich_recording_isrc` returns. -/
structure Enrichment where
  detail : Option Items
  picked : Option Items
  labelName : Option String
  releaseExtra : Items

/-- The text that a value is, if it is not empty: `isinstance(v, str) and v`. -/
def textId : Json → Option String
  | .str s => orNone s
  | _ => none

/-- `_enrich_recording_isrc` once a release is picked. -/
def enrichPicked (detail : Items) (picked : Option Items) : Except PyError Enrichment :=
  match picked.bind fun rel => textId (lookup rel "id") with
  | some pickedId => do
    let (labelName, releaseExtra) ← fetchReleaseEnrichment isPrintable up pickedId
    .ok ⟨some detail, picked, labelName, releaseExtra⟩
  | none => .ok ⟨some detail, picked, none, []⟩

/-- `_enrich_recording_isrc`. -/
def enrichRecordingIsrc (mbid : String) (artistHint : Option String) : Except PyError Enrichment :=
  match up (.recording mbid) with
  | .ok (.obj detail) => do
    let picked ← pickDisplayRelease cf isPrintable ((lookup detail "releases").orElse (.arr [])) artistHint
    enrichPicked isPrintable up detail picked
  | _ => .ok ⟨none, none, none, []⟩

/-- `_compact_tag_names` and `_compact_alias_names`, which differ in their limits. -/
def compactNames (v : Json) (limit : ℕ) : Except PyError (List String) :=
  match v with
  | .arr items => gatherUpTo limit (nameOf isPrintable) [] items
  | _ => .ok []

/-- `_compact_tag_names`. -/
def compactTagNames (tags : Json) : Except PyError (List String) := compactNames isPrintable tags 20

/-- `_compact_alias_names`. -/
def compactAliasNames (aliases : Json) : Except PyError (List String) := compactNames isPrintable aliases 15

/-- The row of a release, in a sample and as the primary one. -/
def releaseRow (rel : Items) : Items :=
  let rg := subObject rel "release-group"
  [("id", lookup rel "id"), ("title", lookup rel "title"), ("date", lookup rel "date"),
    ("barcode", lookup rel "barcode"), ("country", lookup rel "country"), ("status", lookup rel "status"),
    ("release_group_title", lookup rg "title"), ("primary_type", lookup rg "primary-type")]

/-- The row that a release adds to a sample. -/
def sampleRow (excludeId : Option String) : Json → List Json
  | .obj rel =>
    if excludeId.any fun s => s ≠ "" && isText s (lookup rel "id") then [] else [rowOf (releaseRow rel)]
  | _ => []

/-- `_compact_releases_sample`. -/
def compactReleasesSample (releases : List Json) (excludeId : Option String) : Except PyError (List Json) :=
  gatherUpTo 12 (fun rel => .ok (sampleRow excludeId rel)) [] releases

/-- A key with its value, unless the value is an empty list. -/
def unlessEmpty (key : String) (values : List Json) : Items :=
  if values = [] then [] else [(key, .arr values)]

/-! ### The lookups -/

/-- `_compact_recording`. -/
def compactRecording (hit : Json) : Except PyError Items :=
  columns hit ["id", "title", "length", "disambiguation"]

/-- `other_releases_sample`. -/
def otherReleases (rels : Json) (picked : Option Items) : Except PyError (List Json) :=
  match rels, picked with
  | .arr items, some rel => compactReleasesSample items (textId (lookup rel "id"))
  | _, _ => .ok []

/-- What the detail of a recording adds to `raw_payload`. -/
def detailPayload (detail : Items) (picked : Option Items) : Except PyError Items := do
  let rels := lookup detail "releases"
  let tags ← compactNames isPrintable (lookup detail "tags") 20
  let aliases ← compactNames isPrintable (lookup detail "aliases") 15
  let sample ← otherReleases rels picked
  let video := if (detail.lookup "video").isSome then [("video", lookup detail "video")] else []
  let count := match rels with
    | .arr items => [("releases_linked_count", .int items.length)]
    | _ => []
  .ok ([("isrcs", lookup detail "isrcs"), ("first_release_date", lookup detail "first-release-date")] ++
    video ++ count ++ unlessEmpty "tags" (tags.map .str) ++ unlessEmpty "aliases" (aliases.map .str) ++
    unlessEmpty "other_releases_sample" sample)

/-- What an enrichment adds to `raw_payload`, as far as it is a detail. -/
def enrichmentPayload (e : Enrichment) : Except PyError Items :=
  match e.detail with
  | some detail => detailPayload isPrintable detail e.picked
  | none => .ok []

/-- `collapse_ws(label_name) if label_name else None`. -/
def labelOf (labelName : Option String) : Option String :=
  if truthy labelName then labelName.map collapseWs else none

/-- What `lookup_isrc` returns for a hit without an id. -/
def plainHit (hit : Json) (title artist : Option String) : Except PyError ProviderEntry := do
  let raw ← compactRecording hit
  .ok ⟨providerId, true, title, artist, none, none, none, some (safeRawFragment isPrintable (.obj raw))⟩

/-- What `lookup_isrc` returns for a hit with an id. -/
def enrichedHit (hit : Json) (title artist : Option String) (e : Enrichment) :
    Except PyError ProviderEntry := do
  let album := match e.picked with
    | some rel => orNone (collapsed isPrintable
      (((lookup (subObject rel "release-group") "title").orElse (lookup rel "title")).orElse (.str "")))
    | none => none
  let base ← compactRecording hit
  let fromDetail ← enrichmentPayload isPrintable e
  let primary := match e.picked with
    | some rel => [("primary_release", .obj (releaseRow rel))]
    | none => []
  let extra := if e.releaseExtra = [] then [] else [("primary_release_detail", .obj e.releaseExtra)]
  let label := match e.labelName with
    | some name => if name = "" then [] else [("label_name", .str name)]
    | none => []
  .ok ⟨providerId, true, title, artist, album, labelOf e.labelName, none,
    some (safeRawFragment isPrintable (.obj (base ++ fromDetail ++ primary ++ extra ++ label)))⟩

/-- `lookup_isrc`. -/
def lookupIsrc (code : String) : Except PyError ProviderEntry :=
  match up (.search "recording" ("isrc:" ++ code)) with
  | .error e => .ok (.ofError providerId e.text)
  | .ok data => do
    let recordings := (← data.get "recordings").orElse (.arr [])
    if !recordings.truthy then
      let count ← data.getOr "recording-count" (.int 0)
      .ok (miss providerId (some (safeRawFragment isPrintable (.obj [("count", count)]))))
    else
      let hit ← recordings.head
      let title ← collapseWsOf (← hit.get "title")
      let artist ← artistCredit isPrintable (← hit.get "artist-credit")
      let mbid ← hit.get "id"
      match textId mbid with
      | none => plainHit isPrintable hit title artist
      | some id => do
        let e ← enrichRecordingIsrc cf isPrintable up id artist
        enrichedHit isPrintable hit title artist e

/-- What `lookup_upc` returns for a hit. -/
def releaseHit (data : Json) (hit : Json) (title artist labelName : Option String) (extra : Items) :
    Except PyError ProviderEntry := do
  let group ← hit.get "release-group"
  let rg := match group with
    | .obj items => items
    | _ => []
  let date ← hit.get "date"
  let barcode ← hit.get "barcode"
  let tail ← columns hit ["status", "country", "id"]
  let releaseCount ← data.get "release-count"
  let groupTitle := lookup rg "title"
  let primaryType := lookup rg "primary-type"
  let raw : Items := [("title", match title with
      | some s => .str s
      | none => .null), ("date", date), ("barcode", barcode)] ++ tail ++
    (if groupTitle.truthy then [("release_group_title", groupTitle)] else []) ++
    (if primaryType.truthy then [("primary_type", primaryType)] else []) ++
    (if releaseCount.isInt then [("release_search_total", releaseCount)] else []) ++
    (if extra = [] then [] else [("musicbrainz_release", .obj extra)])
  .ok ⟨providerId, true, title, artist, orNone (collapsed isPrintable (groupTitle.orElse (.str ""))),
    labelOf labelName, none, some (safeRawFragment isPrintable (.obj raw))⟩

/-- `lookup_upc`. -/
def lookupUpc (code : String) : Except PyError ProviderEntry :=
  match up (.search "release" ("barcode:" ++ code)) with
  | .error e => .ok (.ofError providerId e.text)
  | .ok data => do
    let releases := (← data.get "releases").orElse (.arr [])
    if !releases.truthy then
      let count ← data.getOr "release-count" (.int 0)
      .ok (miss providerId (some (safeRawFragment isPrintable (.obj [("count", count)]))))
    else
      let hit ← releases.head
      let title ← collapseWsOf (← hit.get "title")
      let artist ← artistCredit isPrintable (← hit.get "artist-credit")
      let relId ← hit.get "id"
      match textId relId with
      | none => releaseHit isPrintable data hit title artist none []
      | some id => do
        let (labelName, extra) ← fetchReleaseEnrichment isPrintable up id
        releaseHit isPrintable data hit title artist labelName extra

end Lookup

end LookupAggregator.MusicBrainz
