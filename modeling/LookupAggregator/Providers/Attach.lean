import LookupAggregator.Providers.Deezer
import LookupAggregator.Providers.Discogs

/-! # Attaching details

A hit is completed by a second request, whose answer is arbitrary. Attaching it never raises and never
costs the hit anything (`attach_fillsIn`), and the raw fragment keeps its keys as long as the rendered
fragment stays within its limit (`attach_rawAfter`); beyond it the fragment is replaced as a whole, base
and all (`long_release_replaces_raw`). -/

namespace LookupAggregator.Providers

open Lib Py

variable {isPrintable : Char → Bool}

/-! ### The fields -/

/-- A release attached to a barcode hit keeps what the hit has, and the hit stays found. -/
theorem fillsIn_of_attached {base entry : ProviderEntry} (hbase : Discogs.SearchResult base)
    (hfound : base.found = true) (h : Discogs.Attached isPrintable base entry) : FillsIn base entry where
  provider := h.provider.trans hbase.provider.symm
  found := by
    have hnamed := hbase.named hfound
    simp only [Bool.or_eq_true] at hnamed
    rw [h.found]
    rcases hnamed with (ht | ha) | hl
    · simp [h.title ht, ht]
    · simp [h.artist ha, ha]
    · simp [h.label hl, hl]
  title := h.title
  artist := h.artist
  album := h.album
  label := h.label
  error := h.error.trans hbase.error.symm

theorem fillsIn_release {answer : Fetched} {base : ProviderEntry}
    (hsearch : Discogs.searchEntry isPrintable true answer = .ok base) (hfound : base.found = true)
    (up : Discogs.Request → Fetched) :
    Returns (Discogs.attachReleaseDetail isPrintable up base) (FillsIn base) := by
  refine (Discogs.attachReleaseDetail_returns base).mono fun entry hentry => ?_
  rcases hentry with rfl | hentry
  · exact FillsIn.refl hfound
  · exact fillsIn_of_attached (Discogs.searchResult_of_found hsearch hfound) hfound hentry

theorem fillsIn_track {answer : Fetched} {base : ProviderEntry}
    (hsearch : Deezer.searchEntry isPrintable answer = .ok base) (hfound : base.found = true)
    (up : Deezer.Request → Fetched) :
    Returns (Deezer.attachTrackDetail isPrintable up base) (FillsIn base) := by
  have hbase := Deezer.searchResult_of_found hsearch hfound
  refine (Deezer.attachTrackDetail_returns base).mono fun entry hentry => ?_
  rcases hentry with rfl | ⟨detail, rfl⟩
  · exact FillsIn.refl hfound
  · exact ⟨hbase.provider.symm, hfound, fun _ => rfl, fun _ => rfl, fun _ => rfl, fun _ => rfl, rfl⟩

theorem fillsIn_album {answer : Fetched} {base : ProviderEntry}
    (hsearch : Deezer.searchEntry isPrintable answer = .ok base) (hfound : base.found = true)
    (up : Deezer.Request → Fetched) :
    Returns (Deezer.attachAlbumDetail isPrintable up base) (FillsIn base) := by
  have hbase := Deezer.searchResult_of_found hsearch hfound
  refine (Deezer.attachAlbumDetail_returns base).mono fun entry hentry => ?_
  rcases hentry with rfl | ⟨label, detail, rfl⟩
  · exact FillsIn.refl hfound
  · refine ⟨hbase.provider.symm, hfound, fun _ => rfl, fun _ => rfl, fun _ => rfl, fun hlabel => ?_, rfl⟩
    -- the album's label comes first, but a hit has none
    rw [hbase.label] at hlabel
    cases hlabel

/-- **Attaching a detail fills in.** For a hit that the provider's own search made of any answer, and any
answer to the second request: nothing is raised, the entry returned is found, and it has every title,
artist, album and label that the hit has. -/
theorem attach_fillsIn (isPrintable : Char → Bool) :
    (∀ answer base, Discogs.searchEntry isPrintable true answer = .ok base → base.found = true → ∀ up,
      Returns (Discogs.attachReleaseDetail isPrintable up base) (FillsIn base)) ∧
    ∀ answer base, Deezer.searchEntry isPrintable answer = .ok base → base.found = true → ∀ up,
      Returns (Deezer.attachTrackDetail isPrintable up base) (FillsIn base) ∧
      Returns (Deezer.attachAlbumDetail isPrintable up base) (FillsIn base) :=
  ⟨fun _ _ hsearch hfound up => fillsIn_release hsearch hfound up,
    fun _ _ hsearch hfound up => ⟨fillsIn_track hsearch hfound up, fillsIn_album hsearch hfound up⟩⟩

/-- Answers with a hit, and the entries they make. -/
def discogsAnswer : Json := .obj [("results", .arr [.obj [("id", .int 1), ("title", .str "Song")]])]

def discogsHit : ProviderEntry :=
  ⟨"discogs", true, some "Song", none, some "Song", none, none, some [("id", .int 1), ("title", .str "Song")]⟩

def deezerAnswer : Json := .obj [("data", .arr [.obj [("id", .int 2), ("title", .str "Song"),
  ("album", .obj [("id", .int 3), ("title", .str "Disc")])]])]

def deezerHit : ProviderEntry :=
  ⟨"deezer", true, some "Song", none, some "Disc", none, none, some (safeRawFragment (fun _ => true) (.obj
    [("id", .int 2), ("link", .null), ("duration", .null), ("rank", .null), ("explicit_lyrics", .null),
      ("artist", .obj [("id", .null), ("name", .null)]),
      ("album", .obj [("id", .int 3), ("title", .str "Disc")])]))⟩

theorem attach_fillsIn_hit :
    Returns (Discogs.attachReleaseDetail (fun _ => true) (fun _ => .ok (.obj [("title", .str "Other"),
      ("labels", .arr [.obj [("name", .str "Label")]])])) discogsHit) (FillsIn discogsHit) ∧
    Returns (Deezer.attachAlbumDetail (fun _ => true) (fun _ => .ok (.obj [("label", .str "Label")])) deezerHit)
      (FillsIn deezerHit) :=
  ⟨(attach_fillsIn fun _ => true).1 (.ok discogsAnswer) discogsHit rfl rfl _,
    ((attach_fillsIn fun _ => true).2 (.ok deezerAnswer) deezerHit rfl rfl _).2⟩

/-! ### The raw fragment -/

/-- An entry that is as it was, or has the detail in its fragment. -/
theorem rawAfter_of_attached {key : String} {raw : Items} {base entry : ProviderEntry}
    (hraw : base.raw = some raw)
    (h : entry = base ∨ ∃ detail, entry.raw =
      some (safeRawFragment isPrintable (.obj (setItem (rawItems base) key detail)))) :
    RawAfter isPrintable key raw entry := by
  rcases h with rfl | ⟨detail, hdetail⟩
  · exact Or.inl hraw
  · rw [rawItems_of_raw hraw] at hdetail
    exact rawAfter_setItem isPrintable hdetail

/-- **Attaching a detail keeps the raw fragment, up to its limit.** For every entry with a raw fragment and
every answer to the second request; a fragment that the providers' own searches make has no key of a
detail, so all of it is kept. -/
theorem attach_rawAfter (isPrintable : Char → Bool) :
    (∀ base raw, base.raw = some raw →
      (∀ up, Returns (Discogs.attachReleaseDetail isPrintable up base)
        (RawAfter isPrintable "release_detail" raw)) ∧
      ∀ up, Returns (Deezer.attachTrackDetail isPrintable up base)
          (RawAfter isPrintable "track_detail" raw) ∧
        Returns (Deezer.attachAlbumDetail isPrintable up base)
          (RawAfter isPrintable "album_detail" raw)) ∧
    (∀ isBarcodeQuery answer base, Discogs.searchEntry isPrintable isBarcodeQuery answer = .ok base →
      base.found = true → (rawItems base).lookup "release_detail" = none) ∧
    ∀ answer base, Deezer.searchEntry isPrintable answer = .ok base → base.found = true →
      (rawItems base).lookup "track_detail" = none ∧ (rawItems base).lookup "album_detail" = none := by
  refine ⟨fun base raw hraw => ⟨fun up => ?_, fun up => ⟨?_, ?_⟩⟩, fun b answer base hsearch hfound => ?_,
    fun answer base hsearch hfound => ?_⟩
  · exact (Discogs.attachReleaseDetail_returns base).mono fun entry hentry =>
      rawAfter_of_attached hraw (hentry.imp_right fun h => h.raw)
  · exact (Deezer.attachTrackDetail_returns base).mono fun entry hentry =>
      rawAfter_of_attached hraw (hentry.imp_right fun ⟨detail, h⟩ => ⟨detail, congrArg ProviderEntry.raw h⟩)
  · exact (Deezer.attachAlbumDetail_returns base).mono fun entry hentry =>
      rawAfter_of_attached hraw (hentry.imp_right fun ⟨_, detail, h⟩ => ⟨detail, congrArg ProviderEntry.raw h⟩)
  · exact (Discogs.searchResult_of_found hsearch hfound).raw
  · have hbase := Deezer.searchResult_of_found hsearch hfound
    exact ⟨hbase.track, hbase.album⟩

theorem attach_rawAfter_hit :
    Returns (Discogs.attachReleaseDetail (fun _ => true) (fun _ => .ok (.obj [("title", .str "Other")]))
      discogsHit) (RawAfter (fun _ => true) "release_detail" [("id", .int 1), ("title", .str "Song")]) ∧
    (rawItems discogsHit).lookup "release_detail" = none :=
  ⟨((attach_rawAfter fun _ => true).1 discogsHit _ rfl).1 _,
    (attach_rawAfter fun _ => true).2.1 true (.ok discogsAnswer) discogsHit rfl rfl⟩

section Long
variable (s : String)

/-- The fragment of the hit with a release of title `s`. -/
def titledRaw : Items :=
  [("id", .int 1), ("title", .str "Song"), ("release_detail", .obj [("title", .str s)])]

theorem attach_titled : Discogs.attachReleaseDetail (fun _ => true)
    (fun _ => .ok (.obj [("title", .str s)])) discogsHit =
      .ok { discogsHit with raw := some (safeRawFragment (fun _ => true) (.obj (titledRaw s))) } := rfl

theorem length_le_titledRaw (p : Char → Bool) : s.toList.length ≤ rawLength p (titledRaw s) := by
  have hstr := length_le_reprStr p s
  have hdetail := length_repr_le_of_mem p
    (List.mem_singleton.mpr rfl : ("title", Json.str s) ∈ [("title", Json.str s)])
  have hraw := length_repr_le_rawLength p
    (by simp [titledRaw] : ("release_detail", Json.obj [("title", Json.str s)]) ∈ titledRaw s)
  rw [Json.repr] at hdetail
  omega

end Long

/-- **A long release costs the hit its fragment.** The hit has an id; with a release whose title has 12001
characters attached, the fragment has none: what stands for it are the first characters of its text. -/
theorem long_release_replaces_raw :
    Discogs.searchEntry (fun _ => true) true (.ok discogsAnswer) = .ok discogsHit ∧
      discogsHit.found = true ∧ (rawItems discogsHit).lookup "id" = some (.int 1) ∧
      ∃ entry, Discogs.attachReleaseDetail (fun _ => true)
        (fun _ => .ok (.obj [("title", .str (String.ofList (List.replicate 12001 'a')))])) discogsHit =
          .ok entry ∧ (rawItems entry).lookup "id" = none := by
  refine ⟨rfl, rfl, rfl, _, attach_titled _, ?_⟩
  have hlong := length_le_titledRaw (String.ofList (List.replicate 12001 'a')) fun _ => true
  rw [String.toList_ofList, List.length_replicate] at hlong
  rw [rawItems_of_raw rfl, safeRawFragment_obj, if_pos (Nat.lt_of_lt_of_le (by decide) hlong)]
  rfl

end LookupAggregator.Providers
