import LookupAggregator.Normalize.Words
import LookupAggregator.Providers.Deezer
import LookupAggregator.Providers.Discogs
import LookupAggregator.Providers.OpenLibrary
import LookupAggregator.Providers.Wikidata
import LookupAggregator.Summary.Confidence

/-! # What every provider promises

Five providers decode five formats, each in its own way; the entries they return have one shape all the same
(`Contract`): the id of the provider, an error in entries with nothing else in them, collapsed texts, and a
raw fragment that is short or cut. Every lookup and every free-text search keeps it, whatever its upstream
answers. -/

namespace LookupAggregator.Providers

open Lib Py Normalize Summary

/-- A raw fragment of at most `rawLimit` characters, or what stands for a longer one: the first `rawLimit`
characters of its text. -/
def Bounded (isPrintable : Char → Bool) (raw : Items) : Prop :=
  rawLength isPrintable raw ≤ rawLimit ∨ ∃ preview : String, preview.length = rawLimit ∧
    raw = [("_truncated", .bool true), ("preview", .str preview)]

/-- What an entry of the provider `id` is like. -/
structure Contract (isPrintable : Char → Bool) (id : String) (entry : ProviderEntry) : Prop where
  provider : entry.provider = id
  failed : ∀ text, entry.error = some text → entry = .ofError id text
  title : Collapsed entry.title
  artist : Collapsed entry.artist
  album : Collapsed entry.album
  label : Collapsed entry.label
  raw : ∀ raw, entry.raw = some raw → Bounded isPrintable raw

section Parts
variable {isPrintable : Char → Bool} {id : String}

/-! ### Texts and fragments -/

theorem collapsed_none : Collapsed none := fun _ h => by cases h

theorem collapsed_collapseWs (s : String) : Collapsed (some (collapseWs s)) := fun t h => by
  rw [← Option.some.inj h, collapseWs_idem]

theorem collapsed_map (s : Option String) : Collapsed (s.map collapseWs) := by
  cases s with
  | none => exact collapsed_none
  | some s => exact collapsed_collapseWs s

theorem collapsed_text (v : Json) : Collapsed (some (collapsed isPrintable v)) := collapsed_collapseWs _

theorem collapsed_orNone (v : Json) : Collapsed (orNone (collapsed isPrintable v)) := by
  unfold orNone
  split_ifs
  · exact collapsed_none
  · exact collapsed_text v

theorem collapsed_orElse {a b : Option String} (ha : Collapsed a) (hb : Collapsed b) :
    Collapsed (Py.orElse a b) := by
  unfold Py.orElse
  split_ifs
  · exact ha
  · exact hb

/-- **Every fragment is bounded.** -/
theorem bounded_safeRawFragment (data : Json) : Bounded isPrintable (safeRawFragment isPrintable data) := by
  unfold safeRawFragment
  dsimp only
  split_ifs with h
  · refine .inr ⟨_, ?_, rfl⟩
    rw [String.length_ofList, List.length_take, min_eq_left]
    exact h.le
  · exact .inl (not_lt.mp h)

theorem contract_ofError (text : String) : Contract isPrintable id (.ofError id text) where
  provider := rfl
  failed _ h := by rw [← Option.some.inj h]
  title := collapsed_none
  artist := collapsed_none
  album := collapsed_none
  label := collapsed_none
  raw _ h := by cases h

/-- An entry without an error, of collapsed texts and a fragment. -/
theorem contract_of_texts (found : Bool) {title artist album label : Option String} (data : Json)
    (htitle : Collapsed title) (hartist : Collapsed artist) (halbum : Collapsed album)
    (hlabel : Collapsed label) :
    Contract isPrintable id
      ⟨id, found, title, artist, album, label, none, some (safeRawFragment isPrintable data)⟩ where
  provider := rfl
  failed _ h := by cases h
  title := htitle
  artist := hartist
  album := halbum
  label := hlabel
  raw raw h := by
    rw [← Option.some.inj h]
    exact bounded_safeRawFragment data

theorem contract_miss (data : Json) :
    Contract isPrintable id (miss id (some (safeRawFragment isPrintable data))) :=
  contract_of_texts false data collapsed_none collapsed_none collapsed_none collapsed_none

theorem contract_blank : Contract isPrintable id (miss id none) where
  provider := rfl
  failed _ h := by cases h
  title := collapsed_none
  artist := collapsed_none
  album := collapsed_none
  label := collapsed_none
  raw _ h := by cases h

/-- A found entry has no error. -/
theorem Contract.error_of_found {entry : ProviderEntry} (h : Contract isPrintable id entry)
    (hfound : entry.found = true) : entry.error = none := by
  cases herror : entry.error with
  | none => rfl
  | some text =>
    rw [h.failed text herror] at hfound
    cases hfound

end Parts

end LookupAggregator.Providers

/-! ### Deezer -/

namespace LookupAggregator.Deezer

open Lib Py Normalize Summary Providers

variable {isPrintable : Char → Bool} {up : Request → Fetched}

theorem contract_searchEntry (answer : Fetched) :
    Ensures (searchEntry isPrintable answer) (Contract isPrintable providerId) := by
  cases answer with
  | error e => exact ensures_ok.mpr (contract_ofError _)
  | ok data =>
    refine .bind fun items => ?_
    dsimp only
    split_ifs
    · exact .bind fun _ => ensures_ok.mpr (contract_miss _)
    · refine .bind fun first => .bind fun title => .bind fun _ => .bind fun artist => .bind fun _ =>
        .bind fun album => .bind fun _ => .bind fun _ => .bind fun _ => ensures_ok.mpr ?_
      exact contract_of_texts _ _ (collapsed_map title) (collapsed_map artist) (collapsed_map album)
        collapsed_none

theorem contract_attachTrackDetail {entry : ProviderEntry} (h : Contract isPrintable providerId entry) :
    Ensures (attachTrackDetail isPrintable up entry) (Contract isPrintable providerId) := by
  cases hfound : entry.found with
  | false =>
    rw [attachTrackDetail_of_not_found hfound]
    exact ensures_ok.mpr h
  | true =>
    refine (attachTrackDetail_returns entry).ensures.mono fun entry' hentry => ?_
    rcases hentry with rfl | ⟨detail, rfl⟩
    · exact h
    · rw [h.error_of_found hfound]
      exact contract_of_texts _ _ h.title h.artist h.album h.label

theorem contract_attachAlbumDetail {entry : ProviderEntry} (h : Contract isPrintable providerId entry) :
    Ensures (attachAlbumDetail isPrintable up entry) (Contract isPrintable providerId) := by
  cases hfound : entry.found with
  | false =>
    rw [attachAlbumDetail_of_not_found hfound]
    exact ensures_ok.mpr h
  | true =>
    unfold attachAlbumDetail
    split_ifs
    · exact ensures_ok.mpr h
    refine .bind fun aid => ?_
    split_ifs
    · exact ensures_ok.mpr h
    refine .bind fun found => ?_
    split
    · exact ensures_ok.mpr h
    · split_ifs
      · exact ensures_ok.mpr h
      · refine .bind fun compact => .bind fun name => ensures_ok.mpr ?_
        rw [h.error_of_found hfound]
        exact contract_of_texts _ _ h.title h.artist h.album (collapsed_orElse (collapsed_text _) h.label)

/-- **Every entry of Deezer keeps the contract.** -/
theorem contract_lookups (text : String) :
    Ensures (lookupIsrc isPrintable up text) (Contract isPrintable providerId) ∧
      Ensures (lookupUpc isPrintable up text) (Contract isPrintable providerId) ∧
      Ensures (lookupFreeText isPrintable up text) (Contract isPrintable providerId) := by
  refine ⟨?_, ?_, ?_⟩
  · exact ensures_bind.mpr ((contract_searchEntry _).mono fun entry h => contract_attachTrackDetail h)
  · rw [lookupUpc_eq (miss providerId none), ensures_bind]
    exact (ensures_firstHit (fun q _ => contract_searchEntry _) contract_blank).mono
      fun entry h => contract_attachAlbumDetail h
  · unfold lookupFreeText
    dsimp only
    split_ifs
    · exact ensures_ok.mpr contract_blank
    · exact contract_searchEntry _

end LookupAggregator.Deezer

/-! ### Discogs -/

namespace LookupAggregator.Discogs

open Lib Py Normalize Summary Providers

variable {isPrintable : Char → Bool} {up : Request → Fetched}

theorem collapsed_resultLabel (best : Json) : Ensures (resultLabel isPrintable best) Collapsed := by
  refine .bind fun labels => ?_
  split_ifs
  · exact .bind fun _ => ensures_ok.mpr (collapsed_collapseWs _)
  · split
    · exact ensures_ok.mpr (collapsed_collapseWs _)
    · exact ensures_ok.mpr collapsed_none

theorem collapsed_firstCredit (best : Json) (keys : List String) :
    Ensures (firstCredit isPrintable best keys) Collapsed := by
  induction keys with
  | nil => exact ensures_ok.mpr collapsed_none
  | cons key keys ih =>
    refine .bind fun v => ?_
    split_ifs
    · exact ensures_ok.mpr (collapsed_collapseWs _)
    · exact ih

theorem contract_searchEntry (isBarcodeQuery : Bool) (answer : Fetched) :
    Ensures (searchEntry isPrintable isBarcodeQuery answer) (Contract isPrintable providerId) := by
  cases answer with
  | error e => exact ensures_ok.mpr (contract_ofError _)
  | ok data =>
    refine .bind fun results => ?_
    dsimp only
    split_ifs
    · exact ensures_ok.mpr (contract_miss _)
    all_goals
      refine .bind fun best => .bind fun name => ensures_bind.mpr ((collapsed_resultLabel best).mono ?_)
      refine fun label hlabel => ensures_bind.mpr ((collapsed_firstCredit best _).mono ?_)
      refine fun artist hartist => .bind fun _ => ensures_ok.mpr ?_
      exact contract_of_texts _ _ (collapsed_orNone _) hartist (collapsed_orNone _) hlabel

theorem collapsed_fillName {d : Json} {key : String} {base : Option String} (h : Collapsed base) :
    Ensures (fillName isPrintable d key base) Collapsed := by
  unfold fillName
  split_ifs
  · exact ensures_ok.mpr h
  · refine .bind fun values => .bind fun isList => ?_
    split_ifs
    · exact .bind fun _ => .bind fun _ => ensures_ok.mpr (collapsed_orNone _)
    · exact ensures_ok.mpr h

theorem contract_attachReleaseDetail {entry : ProviderEntry} (h : Contract isPrintable providerId entry) :
    Ensures (attachReleaseDetail isPrintable up entry) (Contract isPrintable providerId) := by
  unfold attachReleaseDetail
  dsimp only
  split_ifs
  · exact ensures_ok.mpr h
  split
  · exact ensures_ok.mpr h
  · split_ifs
    · exact ensures_ok.mpr h
    · refine .bind fun name => ensures_bind.mpr ((collapsed_fillName h.artist).mono fun artist hartist => ?_)
      refine ensures_bind.mpr ((collapsed_fillName h.label).mono fun label hlabel => ?_)
      refine .bind fun detail => ensures_ok.mpr ?_
      have htitle :
          Collapsed (Py.orElse entry.title (orNone (collapsed isPrintable (name.orElse (.str ""))))) :=
        collapsed_orElse h.title (collapsed_orNone _)
      exact contract_of_texts _ _ htitle hartist (collapsed_orElse h.album htitle) hlabel

/-- **Every entry of Discogs keeps the contract.** -/
theorem contract_lookups (text : String) :
    Ensures (lookupIsrc isPrintable up text) (Contract isPrintable providerId) ∧
      Ensures (lookupUpc isPrintable up text) (Contract isPrintable providerId) ∧
      Ensures (lookupReleaseFreeText isPrintable up text) (Contract isPrintable providerId) := by
  have hmiss : Contract isPrintable providerId (miss providerId none) := contract_blank
  refine ⟨contract_searchEntry _ _, ?_, ?_⟩
  · rw [lookupUpc, upcLoop_eq _ rfl, ensures_bind]
    refine (ensures_firstHit (fun params _ => contract_searchEntry _ _) hmiss).mono fun entry h => ?_
    unfold finish
    split_ifs
    · exact contract_attachReleaseDetail h
    · exact ensures_ok.mpr h
  · unfold lookupReleaseFreeText
    dsimp only
    split_ifs
    · exact ensures_ok.mpr hmiss
    · exact contract_searchEntry _ _

end LookupAggregator.Discogs

/-! ### MusicBrainz -/

namespace LookupAggregator.MusicBrainz

open Lib Py Normalize Summary Providers

variable {cf : CaseFolding} {isPrintable : Char → Bool} {up : Query → Fetched}

theorem collapsed_collapseWsOf (v : Json) : Ensures (collapseWsOf v) Collapsed := by
  cases v with
  | null => exact ensures_ok.mpr collapsed_none
  | str s => exact ensures_ok.mpr (collapsed_collapseWs s)
  | _ => exact fun _ h => by cases h

theorem collapsed_artistCredit (credits : Json) : Ensures (artistCredit isPrintable credits) Collapsed := by
  unfold artistCredit
  split_ifs
  · exact ensures_ok.mpr collapsed_none
  · exact .bind fun _ => .bind fun _ => .bind fun _ => ensures_ok.mpr (collapsed_collapseWs _)

theorem collapsed_labelOf (labelName : Option String) : Collapsed (labelOf labelName) := by
  unfold labelOf
  split_ifs
  · exact collapsed_map labelName
  · exact collapsed_none

theorem contract_hit {hit : Json} {title artist : Option String} (ht : Collapsed title)
    (ha : Collapsed artist) :
    Ensures (plainHit isPrintable hit title artist) (Contract isPrintable providerId) ∧
      (∀ e, Ensures (enrichedHit isPrintable hit title artist e) (Contract isPrintable providerId)) ∧
      ∀ data labelName extra, Ensures (releaseHit isPrintable data hit title artist labelName extra)
        (Contract isPrintable providerId) := by
  refine ⟨.bind fun _ => ensures_ok.mpr ?_, fun e => .bind fun _ => .bind fun _ => ensures_ok.mpr ?_,
    fun data labelName extra => .bind fun _ => .bind fun _ => .bind fun _ => .bind fun _ => .bind fun _ =>
      ensures_ok.mpr ?_⟩
  · exact contract_of_texts _ _ ht ha collapsed_none collapsed_none
  · refine contract_of_texts _ _ ht ha ?_ (collapsed_labelOf _)
    cases e.picked with
    | none => exact collapsed_none
    | some rel => exact collapsed_orNone _
  · exact contract_of_texts _ _ ht ha (collapsed_orNone _) (collapsed_labelOf _)

/-- **Every entry of MusicBrainz keeps the contract.** -/
theorem contract_lookups (cf : CaseFolding) (code : String) :
    Ensures (lookupIsrc cf isPrintable up code) (Contract isPrintable providerId) ∧
      Ensures (lookupUpc isPrintable up code) (Contract isPrintable providerId) := by
  constructor
  · unfold lookupIsrc
    split
    · exact ensures_ok.mpr (contract_ofError _)
    · refine .bind fun recordings => ?_
      dsimp only
      split_ifs
      · exact .bind fun _ => ensures_ok.mpr (contract_miss _)
      · refine .bind fun hit => .bind fun name => ensures_bind.mpr ((collapsed_collapseWsOf name).mono ?_)
        refine fun title ht => .bind fun credits => ensures_bind.mpr ((collapsed_artistCredit credits).mono ?_)
        refine fun artist ha => .bind fun mbid => ?_
        split
        · exact (contract_hit ht ha).1
        · exact .bind fun e => (contract_hit ht ha).2.1 e
  · unfold lookupUpc
    split
    · exact ensures_ok.mpr (contract_ofError _)
    · refine .bind fun releases => ?_
      dsimp only
      split_ifs
      · exact .bind fun _ => ensures_ok.mpr (contract_miss _)
      · refine .bind fun hit => .bind fun name => ensures_bind.mpr ((collapsed_collapseWsOf name).mono ?_)
        refine fun title ht => .bind fun credits => ensures_bind.mpr ((collapsed_artistCredit credits).mono ?_)
        refine fun artist ha => .bind fun relId => ?_
        split
        · exact (contract_hit ht ha).2.2 _ _ _
        · exact .bind fun e => (contract_hit ht ha).2.2 _ _ _

end LookupAggregator.MusicBrainz

/-! ### Wikidata and Open Library -/

namespace LookupAggregator.Wikidata

open Lib Py Normalize Summary Providers

variable {an : AlnumClass} {isPrintable : Char → Bool} {sparqlUrl : String} {up : String → Fetched}

theorem collapsed_collapsedIf (v : Json) : Ensures (collapsedIf v) Collapsed := by
  unfold collapsedIf
  split_ifs
  · exact MusicBrainz.collapsed_collapseWsOf v
  · exact ensures_ok.mpr collapsed_none

/-- **Every entry of Wikidata keeps the contract.** -/
theorem contract_lookups (code : String) :
    Ensures (lookupIsrc an isPrintable sparqlUrl up code) (Contract isPrintable providerId) ∧
      Ensures (lookupUpc code) (Contract isPrintable providerId) := by
  refine ⟨?_, ensures_ok.mpr (contract_ofError _)⟩
  unfold lookupIsrc
  split_ifs
  · unfold entryOf
    split
    · exact ensures_ok.mpr (contract_ofError _)
    · refine .bind fun results => .bind fun bindings => ?_
      dsimp only
      split_ifs
      · exact ensures_ok.mpr (contract_miss _)
      · refine .bind fun b0 => .bind fun titleValue => .bind fun artistValue => ensures_bind.mpr ?_
        refine (collapsed_collapsedIf titleValue).mono fun title ht => ensures_bind.mpr ?_
        refine (collapsed_collapsedIf artistValue).mono fun artist ha => .bind fun pub => .bind fun entity =>
          .bind fun sample => .bind fun elements => .bind fun rows => ensures_ok.mpr ?_
        exact contract_of_texts _ _ ht ha collapsed_none collapsed_none
  · exact ensures_ok.mpr (contract_ofError _)

end LookupAggregator.Wikidata

namespace LookupAggregator.OpenLibrary

open Lib Py Normalize Summary Providers

variable {isPrintable : Char → Bool} {truncate : String → ℤ} {up : Items → Fetched}

theorem collapsed_firstText (doc : Json) (key : String) :
    Ensures (firstText isPrintable doc key) Collapsed := by
  refine .bind fun v => ?_
  split_ifs
  · exact .bind fun _ => ensures_ok.mpr (collapsed_collapseWs _)
  · split
    · exact ensures_ok.mpr (collapsed_collapseWs _)
    · exact ensures_ok.mpr collapsed_none

theorem contract_docEntry (docs : Json) :
    Ensures (docEntry isPrintable docs) (Contract isPrintable providerId) := by
  refine .bind fun doc => .bind fun name => ensures_bind.mpr ((collapsed_firstText doc _).mono ?_)
  refine fun artist ha => ensures_bind.mpr ((collapsed_firstText doc _).mono fun label hl => ?_)
  refine .bind fun raw => ?_
  exact ensures_ok.mpr (contract_of_texts _ _ (collapsed_orNone _) ha (collapsed_orNone _) hl)

/-- **Every entry of Open Library keeps the contract.** -/
theorem contract_lookups (code : String) :
    Ensures (lookupIsrc code) (Contract isPrintable providerId) ∧
      Ensures (lookupUpc isPrintable truncate up code) (Contract isPrintable providerId) := by
  refine ⟨ensures_ok.mpr (contract_ofError _), ?_⟩
  unfold lookupUpc searchEntry
  split
  · exact ensures_ok.mpr (contract_ofError _)
  · refine .bind fun numFound => .bind fun num => .bind fun found => ?_
    dsimp only
    split_ifs
    · exact ensures_ok.mpr (contract_miss _)
    · exact ensures_lift (contract_docEntry _)

end LookupAggregator.OpenLibrary
