import LookupAggregator.MusicBrainz.Collectors

/-! # When enrichment costs MusicBrainz its match

The requests of an enrichment are guarded against every failure, the walks over their answers are not: a
value that is walked and cannot be iterated raises out of the lookup, and the match is lost.
`enrichment_keeps_match_iff` says of which answers that is true, level by level: the releases of a recording
and the credits of the official ones (`DetailWalkable`), the labels, the media and the tracks of a release
(`ReleaseWalkable`). -/

namespace LookupAggregator.MusicBrainz

open Lib Py Normalize Providers

variable {cf : CaseFolding} {isPrintable : Char → Bool} {up : Query → Fetched}

/-! ### The release to display -/

/-- The credit of an official release can be walked. -/
def CreditWalkable (x : Json) : Prop :=
  ∀ rel, x = .obj rel → isText "Official" (lookup rel "status") = true →
    (lookup rel "artist-credit").Walkable

/-- The credit line of a release. -/
def creditLine (isPrintable : Char → Bool) (rel : Items) : String :=
  joinParts ((lookup rel "artist-credit").walked.flatMap (namesOf isPrintable))

/-- The candidate that a release is, if any. -/
def candidatesOf (cf : CaseFolding) (isPrintable : Char → Bool) (hint : String) : Json → List Items
  | .obj rel =>
    if isText "Official" (lookup rel "status") && fits cf hint (creditLine isPrintable rel) then [rel] else []
  | _ => []

/-- The release to display: of the official ones with the hint in their credit, or else of all official
ones. -/
def displayRelease (cf : CaseFolding) (isPrintable : Char → Bool) (releases : Json)
    (artistHint : Option String) : Option Items :=
  let hinted := releases.walked.flatMap (candidatesOf cf isPrintable (normCompare cf artistHint))
  firstByRank isPrintable
    (if hinted = [] then releases.walked.flatMap (candidatesOf cf isPrintable "") else hinted)

theorem computes_releaseCreditLine (rel : Items) : Computes (releaseCreditLine isPrintable rel)
    (lookup rel "artist-credit").Walkable (creditLine isPrintable rel) := by
  have hnames : gather (nameOf isPrintable) (lookup rel "artist-credit").walked =
      .ok ((lookup rel "artist-credit").walked.flatMap (namesOf isPrintable)) :=
    gather_eq fun x _ => nameOf_eq isPrintable x
  intro post
  rw [releaseCreditLine, returns_bind, Json.computes_walk, hnames, returns_bind, returns_ok, returns_ok]
  rfl

theorem computes_candidate (hint : String) (x : Json) : Computes (candidate cf isPrintable hint x)
    (CreditWalkable x) (candidatesOf cf isPrintable hint x) := by
  intro post
  cases x with
  | obj rel =>
    rw [candidate, candidatesOf]
    by_cases hstatus : isText "Official" (lookup rel "status") = true
    · have hgood : CreditWalkable (.obj rel) ↔ (lookup rel "artist-credit").Walkable :=
        ⟨fun h => h rel rfl hstatus, fun h rel' heq _ => by cases heq; exact h⟩
      rw [if_pos hstatus, hstatus, Bool.true_and, returns_bind, computes_releaseCreditLine, returns_ok, hgood]
    · have hgood : CreditWalkable (.obj rel) := fun rel' heq h => by cases heq; exact absurd h hstatus
      have hfalse : isText "Official" (lookup rel "status") = false := by simpa using hstatus
      rw [if_neg hstatus, returns_ok, hfalse, Bool.false_and]
      exact (and_iff_right hgood).symm
  | _ => exact returns_ok.trans (and_iff_right fun rel heq => by cases heq).symm

/-- **Picking a release raises unless the releases and their credits can be walked**, and else finds the
release to display. -/
theorem computes_pickDisplayRelease (releases : Json) (artistHint : Option String) :
    Computes (pickDisplayRelease cf isPrintable (releases.orElse (.arr [])) artistHint)
      (releases.Walkable ∧ ∀ x ∈ releases.walked, CreditWalkable x)
      (displayRelease cf isPrintable releases artistHint) := by
  intro post
  have hwalk := Json.computes_walk releases
  have hgather (hint : String) : Computes (gather (candidate cf isPrintable hint) releases.walked)
      (∀ x ∈ releases.walked, CreditWalkable x)
      (releases.walked.flatMap (candidatesOf cf isPrintable hint)) :=
    Computes.gather fun x _ => computes_candidate hint x
  unfold pickDisplayRelease displayRelease
  by_cases htruthy : (releases.orElse (.arr [])).truthy = true
  · rw [if_neg (by rw [htruthy]; simp), returns_bind, hwalk, returns_bind, hgather]
    dsimp only
    split_ifs with hnone
    · rw [returns_bind, hgather, returns_ok]
      tauto
    · rw [returns_ok]
      tauto
  · obtain ⟨hwalkable, hwalked⟩ := Json.walked_of_not_truthy htruthy
    rw [if_pos (by simpa using htruthy), returns_ok, hwalked]
    simp [hwalkable, firstByRank]

/-! ### The walk over a release -/

/-- A release can be walked: its labels are a list or a text, its media can be iterated, and so can the
tracks of each medium that is reached, which those before it have too few rows to prevent. -/
structure ReleaseWalkable (data : Items) : Prop where
  labels : (lookup data "label-info").truthy = true → (lookup data "label-info").Sequence
  media : (lookup data "media").Walkable
  tracks : ∀ pre x post, (lookup data "media").walked = pre ++ x :: post →
    (pre.flatMap mediumRows).length < maxTracks → MediumWalkable x

/-- What both label helpers read. -/
theorem sequence_labels {data : Items} :
    ((lookup data "label-info").truthy = true → (lookup data "label-info").Sequence) ↔
      ((lookup data "label-info").orElse (.arr [])).Sequence := by
  unfold Json.orElse
  split_ifs with h
  · exact forall_prop_of_true h
  · exact iff_of_true (fun h' => absurd h' h) trivial

theorem returns_firstLabelName (data : Items) :
    (Returns (firstLabelNameFromRelease isPrintable data) fun _ => True) ↔
      ((lookup data "label-info").orElse (.arr [])).Sequence := by
  unfold firstLabelNameFromRelease
  by_cases h : ((lookup data "label-info").orElse (.arr [])).truthy = true
  · have hbody (v : Json) : Returns (match v with
        | .obj info =>
          let name := lookup (subObject info "label") "name"
          (.ok (if name.truthy then some (name.text isPrintable) else none) : Except PyError (Option String))
        | _ => .ok none) fun _ => True := by
      split <;> exact returns_ok.mpr trivial
    dsimp only
    rw [if_neg (by rw [h]; simp), returns_bind, ← Json.returns_head h]
    exact ⟨fun hr => hr.mono fun _ _ => trivial, fun hr => hr.mono fun v _ => hbody v⟩
  · refine iff_of_true ?_ ?_
    · dsimp only
      rw [if_pos (by simpa using h)]
      exact returns_ok.mpr trivial
    · rw [← sequence_labels]
      exact fun hl => absurd (by rw [Json.orElse_of_truthy hl]; exact hl) h

theorem returns_compactMbLabelInfos {data : Items}
    (h : ((lookup data "label-info").orElse (.arr [])).Sequence) :
    Returns (compactMbLabelInfos isPrintable data) fun _ => True := by
  have hwalk := Json.returns_slice_iter h 8
  rw [returns_bind] at hwalk
  rw [compactMbLabelInfos, returns_bind]
  refine hwalk.mono fun infos hinfos => ?_
  rw [returns_bind]
  exact hinfos.mono fun _ _ => returns_ok.mpr trivial

/-- There is one answer to a request. -/
theorem forall_answer_iff {q : Query} {d : Items} (hanswer : up q = .ok (.obj d)) {P : Items → Prop} :
    (∀ d', up q = .ok (.obj d') → P d') ↔ P d := by
  refine ⟨fun h => h d hanswer, fun h d' heq => ?_⟩
  rw [hanswer] at heq
  cases heq
  exact h

/-- **The detail of a release is fetched without raising if and only if it can be walked**, or its request
fails or is answered by no object. -/
theorem returns_fetchReleaseEnrichment (releaseMbid : String) :
    (Returns (fetchReleaseEnrichment isPrintable up releaseMbid) fun _ => True) ↔
      ∀ data, up (.release releaseMbid) = .ok (.obj data) → ReleaseWalkable data := by
  unfold fetchReleaseEnrichment
  split
  · rename_i data hanswer
    rw [forall_answer_iff hanswer, returns_bind]
    constructor
    · intro h
      have hlabels : ((lookup data "label-info").orElse (.arr [])).Sequence :=
        (returns_firstLabelName data).mp (h.mono fun _ _ => trivial)
      obtain ⟨labelName, -, h⟩ := h
      rw [returns_bind] at h
      obtain ⟨labels, -, h⟩ := h
      rw [returns_bind] at h
      obtain ⟨hmedia, htracks⟩ := (computes_tracklist data).returns.mp (h.mono fun _ _ => trivial)
      exact ⟨sequence_labels.mpr hlabels, hmedia, htracks⟩
    · intro h
      have hlabels := sequence_labels.mp h.labels
      refine ((returns_firstLabelName data).mpr hlabels).mono fun labelName _ => ?_
      rw [returns_bind]
      refine (returns_compactMbLabelInfos hlabels).mono fun labels _ => ?_
      rw [returns_bind]
      exact ((computes_tracklist data).returns.mpr ⟨h.media, h.tracks⟩).mono fun _ _ => returns_ok.mpr trivial
  · rename_i hno
    exact iff_of_true (returns_ok.mpr trivial) fun data heq => absurd heq (hno data)

/-! ### The walk over a recording -/

/-- The detail of a recording can be walked: its releases can be iterated, and so can the credits of the
official ones; and the release to display, if it has an id, is answered by one that can be walked, or by
no object, or not at all. -/
structure DetailWalkable (cf : CaseFolding) (isPrintable : Char → Bool) (up : Query → Fetched)
    (artist : Option String) (detail : Items) : Prop where
  releases : (lookup detail "releases").Walkable
  credits : ∀ x ∈ (lookup detail "releases").walked, CreditWalkable x
  release : ∀ rel id, displayRelease cf isPrintable (lookup detail "releases") artist = some rel →
    textId (lookup rel "id") = some id → ∀ data, up (.release id) = .ok (.obj data) → ReleaseWalkable data

theorem returns_enrichPicked (detail : Items) (picked : Option Items) :
    (Returns (enrichPicked isPrintable up detail picked) fun _ => True) ↔
      ∀ rel id, picked = some rel → textId (lookup rel "id") = some id →
        ∀ data, up (.release id) = .ok (.obj data) → ReleaseWalkable data := by
  unfold enrichPicked
  split
  · rename_i pickedId hid
    obtain ⟨rel, rfl, hrel⟩ := Option.bind_eq_some_iff.mp hid
    have hfetch : (Returns (fetchReleaseEnrichment isPrintable up pickedId) fun _ => True) ↔ _ :=
      returns_fetchReleaseEnrichment pickedId
    rw [returns_bind]
    constructor
    · rintro h rel' id heq hid'
      obtain rfl := Option.some.inj heq
      obtain rfl := Option.some.inj (hrel.symm.trans hid')
      exact hfetch.mp (h.mono fun _ _ => trivial)
    · exact fun h => (hfetch.mpr (h rel pickedId rfl hrel)).mono fun _ _ => returns_ok.mpr trivial
  · rename_i hnone
    refine iff_of_true (returns_ok.mpr trivial) fun rel id heq hid => ?_
    rw [heq, Option.bind_some, hid] at hnone
    cases hnone

/-- **A recording is enriched without raising if and only if its detail can be walked**, or its request
fails or is answered by no object. -/
theorem returns_enrichRecordingIsrc (mbid : String) (artist : Option String) :
    (Returns (enrichRecordingIsrc cf isPrintable up mbid artist) fun _ => True) ↔
      ∀ detail, up (.recording mbid) = .ok (.obj detail) → DetailWalkable cf isPrintable up artist detail := by
  unfold enrichRecordingIsrc
  split
  · rename_i detail hanswer
    rw [forall_answer_iff hanswer, returns_bind, computes_pickDisplayRelease, returns_enrichPicked]
    exact ⟨fun ⟨⟨hr, hc⟩, hd⟩ => ⟨hr, hc, hd⟩, fun h => ⟨⟨h.releases, h.credits⟩, h.release⟩⟩
  · rename_i hno
    exact iff_of_true (returns_ok.mpr trivial) fun detail heq => absurd heq (hno detail)

/-! ### The match -/

/-- A title as it is sent, and the title of the entry. -/
inductive SentTitle : Json → Option String → Prop
  | null : SentTitle .null none
  | text (s : String) : SentTitle (.str s) (some (collapseWs s))

/-- A credit as it is sent, and the name of its artist. -/
inductive SentCredit : Json → String → Prop
  | credit {d artist : Items} {name : String} (hartist : d.lookup "artist" = some (.obj artist))
      (hname : lookup artist "name" = .str name) : SentCredit (.obj d) name

/-- The artist of the entry, from the names of a list of credits. -/
def creditedArtist (names : List String) : Option String :=
  if names = [] then none else some (collapseWs (joinParts (names.filter (· ≠ ""))))

/-- A hit as it is sent, with its title and its artist. -/
structure SentHit (hit : Items) (title artist : Option String) : Prop where
  title : SentTitle (lookup hit "title") title
  credits : ∃ credits names, lookup hit "artist-credit" = .arr credits ∧
    List.Forall₂ SentCredit credits names ∧ artist = creditedArtist names

/-- The entry is the match: found, with its title and its artist. -/
def IsMatch (title artist : Option String) (entry : ProviderEntry) : Prop :=
  entry.found = true ∧ entry.title = title ∧ entry.artist = artist

theorem partTexts_map (i : ℕ) (names : List String) : partTexts i (names.map .str) = .ok names := by
  induction names generalizing i with
  | nil => rfl
  | cons name names ih =>
    rw [List.map_cons, partTexts, ih]
    rfl

theorem gather_creditPart {credits : List Json} {names : List String}
    (h : List.Forall₂ SentCredit credits names) : gather (creditPart isPrintable) credits =
      .ok ((names.filter (· ≠ "")).map .str) := by
  induction h with
  | nil => rfl
  | @cons c name credits names hc _ ih =>
    obtain ⟨hartist, hname⟩ := hc
    rw [gather, ih, creditPart, hartist]
    dsimp only
    rw [Json.get_obj, hname]
    by_cases hempty : name = ""
    · subst hempty
      rfl
    · have htruthy : (Json.str name).truthy = true := by simpa [Json.truthy] using hempty
      show Except.ok ((if (Json.str name).truthy = true then [Json.str name] else []) ++ _) = _
      rw [if_pos htruthy, List.filter_cons_of_pos (by simpa using hempty)]
      rfl

/-- **The artist of a hit as it is sent.** -/
theorem artistCredit_eq {credits : List Json} {names : List String}
    (h : List.Forall₂ SentCredit credits names) :
    artistCredit isPrintable (.arr credits) = .ok (creditedArtist names) := by
  unfold artistCredit creditedArtist
  cases h with
  | nil => rfl
  | @cons c name credits names hc hcs =>
    have hall : gather (creditPart isPrintable) (c :: credits) = _ :=
      gather_creditPart (List.Forall₂.cons hc hcs)
    rw [if_neg (by simp [Json.truthy]), Json.iter_arr, if_neg (List.cons_ne_nil _ _)]
    show gather (creditPart isPrintable) (c :: credits) >>= _ = _
    rw [hall]
    show partTexts 0 _ >>= _ = _
    rw [partTexts_map]
    rfl

theorem collapseWsOf_eq {v : Json} {title : Option String} (h : SentTitle v title) :
    collapseWsOf v = .ok title := by
  cases h <;> rfl

/-! ### What is made of the match -/

theorem returns_otherReleases (rels : Json) (picked : Option Items) :
    Returns (otherReleases rels picked) fun _ => True := by
  unfold otherReleases
  split
  · rw [compactReleasesSample_eq]
    exact returns_ok.mpr trivial
  · exact returns_ok.mpr trivial

theorem returns_enrichmentPayload (e : Enrichment) :
    Returns (enrichmentPayload isPrintable e) fun _ => True := by
  unfold enrichmentPayload
  split
  · rw [detailPayload, compactNames_eq _ (by decide), returns_bind, returns_ok, compactNames_eq _ (by decide),
      returns_bind, returns_ok, returns_bind]
    exact (returns_otherReleases _ _).mono fun _ _ => returns_ok.mpr trivial
  · exact returns_ok.mpr trivial

/-- The entry of an ISRC hit is the match, whatever it is enriched by. -/
theorem returns_enrichedHit (hit : Items) (title artist : Option String) (e : Enrichment) :
    Returns (enrichedHit isPrintable (.obj hit) title artist e) (IsMatch title artist) := by
  rw [enrichedHit, compactRecording, returns_bind]
  refine (returns_columns hit _).mono fun base _ => ?_
  rw [returns_bind]
  exact (returns_enrichmentPayload e).mono fun _ _ => returns_ok.mpr ⟨rfl, rfl, rfl⟩

theorem returns_plainHit (hit : Items) (title artist : Option String) :
    Returns (plainHit isPrintable (.obj hit) title artist) (IsMatch title artist) := by
  rw [plainHit, compactRecording, returns_bind]
  exact (returns_columns hit _).mono fun _ _ => returns_ok.mpr ⟨rfl, rfl, rfl⟩

/-- The entry of a UPC hit is the match, whatever it is enriched by. -/
theorem returns_releaseHit (data hit : Items) (title artist labelName : Option String) (extra : Items) :
    Returns (releaseHit isPrintable (.obj data) (.obj hit) title artist labelName extra)
      (IsMatch title artist) := by
  simp only [releaseHit, Json.get_obj, returns_bind, returns_ok]
  exact (returns_columns hit _).mono fun _ _ => ⟨rfl, rfl, rfl⟩

/-- A search answered by `data`, whose first hit is `hit`. -/
def FirstHit (answer : Fetched) (key : String) (data hit : Items) : Prop :=
  answer = .ok (.obj data) ∧ ∃ rest, lookup data key = .arr (.obj hit :: rest)

section Hit
variable {code : String} {data hit : Items} {title artist : Option String} {post : ProviderEntry → Prop}

/-- What both lookups read of a hit, before they go on with it. -/
theorem returns_hitFields (hhit : SentHit hit title artist)
    (next : Option String → Option String → Json → Except PyError ProviderEntry) :
    Returns (do
        let sentTitle ← (Json.obj hit).get "title"
        let title ← collapseWsOf sentTitle
        let credits ← (Json.obj hit).get "artist-credit"
        let artist ← artistCredit isPrintable credits
        let id ← (Json.obj hit).get "id"
        next title artist id) post ↔
      Returns (next title artist (lookup hit "id")) post := by
  obtain ⟨htitle, credits, names, hcredits, hsent, rfl⟩ := hhit
  simp only [Json.get_obj, returns_bind, returns_ok, hcredits, collapseWsOf_eq htitle, artistCredit_eq hsent]

/-- What `lookup_isrc` does with a hit. -/
theorem returns_lookupIsrc_hit (hhit : SentHit hit title artist)
    (h : FirstHit (up (.search "recording" ("isrc:" ++ code))) "recordings" data hit) :
    Returns (lookupIsrc cf isPrintable up code) post ↔
      match textId (lookup hit "id") with
      | none => Returns (plainHit isPrintable (.obj hit) title artist) post
      | some mbid => Returns (enrichRecordingIsrc cf isPrintable up mbid artist) fun e =>
        Returns (enrichedHit isPrintable (.obj hit) title artist e) post := by
  obtain ⟨hanswer, rest, hdata⟩ := h
  rw [lookupIsrc, hanswer]
  dsimp only
  rw [Json.get_obj, returns_bind, returns_ok, hdata]
  refine (returns_hitFields hhit _).trans ?_
  cases textId (lookup hit "id") with
  | none => rfl
  | some mbid => exact returns_bind

/-- What `lookup_upc` does with a hit. -/
theorem returns_lookupUpc_hit (hhit : SentHit hit title artist)
    (h : FirstHit (up (.search "release" ("barcode:" ++ code))) "releases" data hit) :
    Returns (lookupUpc isPrintable up code) post ↔
      match textId (lookup hit "id") with
      | none => Returns (releaseHit isPrintable (.obj data) (.obj hit) title artist none []) post
      | some id => Returns (fetchReleaseEnrichment isPrintable up id) fun e =>
        Returns (releaseHit isPrintable (.obj data) (.obj hit) title artist e.1 e.2) post := by
  obtain ⟨hanswer, rest, hdata⟩ := h
  rw [lookupUpc, hanswer]
  dsimp only
  rw [Json.get_obj, returns_bind, returns_ok, hdata]
  refine (returns_hitFields hhit _).trans ?_
  cases textId (lookup hit "id") with
  | none => rfl
  | some id => exact returns_bind

/-- **Exactly when enrichment keeps the match.** For every search answer whose first hit is as MusicBrainz
sends it, and every answer to the requests that follow: the lookup returns the match, with its title and its
artist, if and only if what the requests are answered by can be walked. -/
theorem enrichment_keeps_match_iff (cf : CaseFolding) (isPrintable : Char → Bool) (up : Query → Fetched)
    (code : String) (hhit : SentHit hit title artist) :
    (FirstHit (up (.search "recording" ("isrc:" ++ code))) "recordings" data hit →
      (Returns (lookupIsrc cf isPrintable up code) (IsMatch title artist) ↔
        ∀ mbid, textId (lookup hit "id") = some mbid → ∀ detail, up (.recording mbid) = .ok (.obj detail) →
          DetailWalkable cf isPrintable up artist detail)) ∧
    (FirstHit (up (.search "release" ("barcode:" ++ code))) "releases" data hit →
      (Returns (lookupUpc isPrintable up code) (IsMatch title artist) ↔
        ∀ id, textId (lookup hit "id") = some id → ∀ release, up (.release id) = .ok (.obj release) →
          ReleaseWalkable release)) := by
  constructor
  · intro h
    rw [returns_lookupIsrc_hit hhit h]
    cases textId (lookup hit "id") with
    | none => exact iff_of_true (returns_plainHit hit title artist) fun mbid hmbid => by cases hmbid
    | some mbid =>
      refine (returns_iff_of_forall fun _ => returns_enrichedHit hit title artist _).trans ?_
      rw [returns_enrichRecordingIsrc]
      exact ⟨fun hw mbid' heq => by cases heq; exact hw, fun hw => hw mbid rfl⟩
  · intro h
    rw [returns_lookupUpc_hit hhit h]
    cases textId (lookup hit "id") with
    | none => exact iff_of_true (returns_releaseHit data hit title artist none []) fun id hid => by cases hid
    | some id =>
      refine (returns_iff_of_forall fun _ => returns_releaseHit data hit title artist _ _).trans ?_
      rw [returns_fetchReleaseEnrichment]
      exact ⟨fun hw id' heq => by cases heq; exact hw, fun hw => hw id rfl⟩

end Hit

/-- A hit with an id, for either search. -/
def sentHit : Items :=
  [("id", .str "m1"), ("title", .str "Example Track"),
    ("artist-credit", .arr [.obj [("artist", .obj [("name", .str "Example Artist")])]])]

/-- Searches are answered by the hit, the recording by `detail`, and no release is. -/
def answers (detail : Json) : Query → Fetched
  | .search "recording" _ => .ok (.obj [("recordings", .arr [.obj sentHit])])
  | .search _ _ => .ok (.obj [("releases", .arr [.obj sentHit])])
  | .recording _ => .ok detail
  | .release _ => .error (.httpError "503 Service Unavailable")

theorem sentHit_sent : SentHit sentHit (some "Example Track") (some "Example Artist") where
  title := .text "Example Track"
  credits := ⟨_, ["Example Artist"], rfl, .cons (.credit rfl rfl) .nil, by decide⟩

theorem enrichment_keeps_match_iff_official :
    Returns (lookupIsrc .id (fun _ => true) (answers (.obj [("releases", .arr [.obj [("id", .str "r1"),
      ("status", .str "Official"), ("artist-credit", .str "Example Artist")]])])) "USRC17607839")
        (IsMatch (some "Example Track") (some "Example Artist")) ∧
    Returns (lookupUpc (fun _ => true) (answers .null) "724384960650")
        (IsMatch (some "Example Track") (some "Example Artist")) := by
  constructor
  · refine ((enrichment_keeps_match_iff .id _ _ _ sentHit_sent).1 ⟨rfl, [], rfl⟩).mpr ?_
    intro mbid _ detail hdetail
    cases hdetail
    refine ⟨fun _ => trivial, fun x hx rel hrel _ => ?_, fun rel id _ _ data hdata => by cases hdata⟩
    obtain rfl := List.mem_singleton.mp hx
    cases hrel
    exact fun _ => trivial
  · refine ((enrichment_keeps_match_iff .id _ _ _ sentHit_sent).2 ⟨rfl, [], rfl⟩).mpr ?_
    intro id _ release hrelease
    cases hrelease

/-- **A detail whose releases are a number loses the match.** -/
theorem unwalkable_releases_lose_match :
    FirstHit (answers (.obj [("releases", .int 5)]) (.search "recording" "isrc:USRC17607839")) "recordings"
        [("recordings", .arr [.obj sentHit])] sentHit ∧
      SentHit sentHit (some "Example Track") (some "Example Artist") ∧
      ¬ Returns (lookupIsrc .id (fun _ => true) (answers (.obj [("releases", .int 5)])) "USRC17607839")
        (IsMatch (some "Example Track") (some "Example Artist")) := by
  refine ⟨⟨rfl, [], rfl⟩, sentHit_sent, ?_⟩
  have hraised : lookupIsrc .id (fun _ => true) (answers (.obj [("releases", .int 5)])) "USRC17607839" =
      .error (.typeError "'int' object is not iterable") := rfl
  rw [hraised]
  exact not_returns_error

end LookupAggregator.MusicBrainz
