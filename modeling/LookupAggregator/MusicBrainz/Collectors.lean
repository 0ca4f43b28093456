import LookupAggregator.MusicBrainz.Provider

/-! # The bounded collectors

`_tracklist_from_mb_release`, `_compact_tag_names`, `_compact_alias_names` and `_compact_releases_sample` walk
lists and stop at a limit, the first of them in the midst of two nested loops. What they collect is the image
of the first objects, up to the limit: `collectors_eq`. -/

namespace LookupAggregator.MusicBrainz

open Lib Py Normalize Providers

/-! ### What is collected -/

/-- Null or a list. -/
def NullOrList (v : Json) : Prop := v = .null ∨ ∃ items, v = .arr items

/-- The elements of a list; another value has none. -/
def listed : Json → List Json
  | .arr items => items
  | _ => []

/-- The objects of a list. -/
def objects (l : List Json) : List Items :=
  l.filterMap fun
    | .obj d => some d
    | _ => none

/-- The tracks of a release, medium by medium. -/
def flatTracks (data : Items) : List Json :=
  (objects (listed (lookup data "media"))).flatMap fun medium => listed (lookup medium "tracks")

/-- The row of a track. -/
def trackImage (tr : Items) : Json :=
  rowOf [("position", lookup tr "position"), ("title", lookup tr "title"), ("length_ms", lookup tr "length"),
    ("recording_id", lookup (subObject tr "recording") "id")]

/-- An object with a name. -/
def isNamed (d : Items) : Bool := (lookup d "name").truthy

/-- Its name. -/
def nameText (isPrintable : Char → Bool) (d : Items) : String := (lookup d "name").text isPrintable

/-- A release whose id is not the excluded one; without one, or if that is empty, every release. -/
def isOther (excludeId : Option String) (rel : Items) : Bool :=
  excludeId.all fun s => s = "" || !isText s (lookup rel "id")

/-- The row of a release in a sample. -/
def sampleImage (rel : Items) : Json := rowOf (releaseRow rel)

theorem objects_append (l l' : List Json) : objects (l ++ l') = objects l ++ objects l' :=
  List.filterMap_append

theorem NullOrList.walks {v : Json} (h : NullOrList v) : v.Walkable ∧ v.walked = listed v := by
  rcases h with rfl | ⟨items, rfl⟩
  · exact Json.walked_of_not_truthy (by decide)
  · exact Json.walked_arr items

/-! ### A row for each object -/

/-- The body of a loop appends the image under `g` of each object that satisfies `q`, and nothing else. -/
structure RowPerObject {β : Type} (f : Json → List β) (q : Items → Bool) (g : Items → β) : Prop where
  obj : ∀ d, f (.obj d) = if q d then [g d] else []
  other : ∀ v, v.isObj = false → f v = []

namespace RowPerObject
variable {β : Type} {f : Json → List β} {q : Items → Bool} {g : Items → β}

theorem length_le_one (h : RowPerObject f q g) (x : Json) : (f x).length ≤ 1 := by
  cases x with
  | obj d =>
    rw [h.obj]
    split_ifs <;> simp
  | _ =>
    rw [h.other _ rfl]
    exact Nat.zero_le 1

theorem flatMap_eq (h : RowPerObject f q g) (l : List Json) : l.flatMap f = ((objects l).filter q).map g := by
  induction l with
  | nil => rfl
  | cons x l ih =>
    rw [List.flatMap_cons, ih]
    cases x with
    | obj d =>
      have hcons : objects (.obj d :: l) = d :: objects l := rfl
      rw [hcons, h.obj, List.filter_cons]
      split_ifs <;> rfl
    | _ =>
      rw [h.other _ rfl]
      rfl

/-- **Up to its limit a loop collects the images of the first such objects.** -/
theorem gatherUpTo_eq (h : RowPerObject f q g) {body : Json → Except PyError (List β)}
    (hbody : ∀ x, body x = .ok (f x)) {limit : ℕ} (hlimit : 0 < limit) (l : List Json) :
    gatherUpTo limit body [] l = .ok ((((objects l).filter q).take limit).map g) := by
  rw [Lib.gatherUpTo_eq (fun x _ => hbody x) (fun x _ => h.length_le_one x) hlimit, List.nil_append,
    h.flatMap_eq, ← List.map_take]

end RowPerObject

section Collect
variable {isPrintable : Char → Bool}

/-! ### Names and samples -/

theorem rowPerObject_namesOf : RowPerObject (namesOf isPrintable) isNamed (nameText isPrintable) where
  obj _ := rfl
  other v hv := by cases v <;> first | rfl | cases hv

theorem rowPerObject_sampleRow (excludeId : Option String) :
    RowPerObject (sampleRow excludeId) (isOther excludeId) sampleImage where
  obj d := by
    have hexcluded : (excludeId.any fun s => s ≠ "" && isText s (lookup d "id")) = !isOther excludeId d := by
      unfold isOther
      cases excludeId with
      | none => rfl
      | some s => simp
    rw [sampleRow, hexcluded]
    cases isOther excludeId d <;> rfl
  other v hv := by cases v <;> first | rfl | cases hv

theorem rowPerObject_trackRow : RowPerObject trackRow (fun _ => true) trackImage where
  obj _ := rfl
  other v hv := by cases v <;> first | rfl | cases hv

/-- **The names of the first objects that have one.** -/
theorem compactNames_eq (v : Json) {limit : ℕ} (hlimit : 0 < limit) : compactNames isPrintable v limit =
    .ok ((((objects (listed v)).filter isNamed).take limit).map (nameText isPrintable)) := by
  cases v with
  | arr items => exact rowPerObject_namesOf.gatherUpTo_eq (nameOf_eq isPrintable) hlimit items
  | _ =>
    show Except.ok [] = Except.ok ((((objects []).filter isNamed).take limit).map (nameText isPrintable))
    rw [show (objects []).filter isNamed = [] from rfl, List.take_nil, List.map_nil]

/-- **The rows of the first other releases.** -/
theorem compactReleasesSample_eq (releases : List Json) (excludeId : Option String) :
    compactReleasesSample releases excludeId =
      .ok ((((objects releases).filter (isOther excludeId)).take 12).map sampleImage) :=
  (rowPerObject_sampleRow excludeId).gatherUpTo_eq (fun _ => rfl) (by decide) releases

/-! ### The tracklist -/

/-- The rows of a medium. -/
def mediumRows : Json → List Json
  | .obj medium => (lookup medium "tracks").walked.flatMap trackRow
  | _ => []

/-- The tracks of a medium can be walked. -/
def MediumWalkable (x : Json) : Prop := ∀ medium, x = .obj medium → (lookup medium "tracks").Walkable

/-- **The walk over the media raises unless the tracks of each medium that is reached can be walked**, which
those before it have too few rows to prevent; and else it gives the first rows. -/
theorem computes_addMedia (media : List Json) {out : List Json} (hout : out.length < maxTracks) :
    Computes (addMedia out media)
      (∀ pre x post, media = pre ++ x :: post → (out ++ pre.flatMap mediumRows).length < maxTracks →
        MediumWalkable x)
      ((out ++ media.flatMap mediumRows).take maxTracks) := by
  induction media generalizing out with
  | nil =>
    rw [List.flatMap_nil, List.append_nil, List.take_of_length_le hout.le]
    refine (Computes.ok out).of_iff (iff_of_true trivial fun pre x post h => ?_)
    cases pre <;> cases h
  | cons x media ih =>
    intro post
    rw [forall_append_cons, List.flatMap_nil, List.append_nil]
    simp only [List.flatMap_cons, ← List.append_assoc]
    cases x with
    | obj medium =>
      have hgood : MediumWalkable (.obj medium) ↔ (lookup medium "tracks").Walkable :=
        ⟨fun h => h medium rfl, fun h m heq => by cases heq; exact h⟩
      have hone : ∀ tr ∈ (lookup medium "tracks").walked, (trackRow tr).length ≤ 1 :=
        fun tr _ => rowPerObject_trackRow.length_le_one tr
      have hrows : out ++ (lookup medium "tracks").walked.flatMap trackRow =
          out ++ mediumRows (.obj medium) := rfl
      rw [addMedia, returns_bind, Json.computes_walk, gatherUpTo_eq (fun _ _ => rfl) hone hout, returns_bind,
        returns_ok, hgood, hrows, and_assoc]
      refine and_congr (imp_iff_right hout).symm ?_
      by_cases hroom : (out ++ mediumRows (.obj medium)).length < maxTracks
      · rw [List.take_of_length_le hroom.le, if_neg (not_le.mpr hroom)]
        exact ih hroom post
      · -- the loop is left, and no medium after this one is reached
        have hfull : maxTracks ≤ (out ++ mediumRows (.obj medium)).length := not_lt.mp hroom
        have hlen : ((out ++ mediumRows (.obj medium)).take maxTracks).length = maxTracks :=
          List.length_take_of_le hfull
        rw [if_pos hlen.ge, returns_ok, List.take_append_of_le_length hfull]
        refine (and_iff_right fun pre y post _ hlt => absurd hlt ?_).symm
        rw [List.length_append]
        omega
    | _ =>
      show Returns (addMedia out media) post ↔ _
      rw [ih hout]
      simp [mediumRows, MediumWalkable]

/-- **What the tracklist of a release is, and when it is one.** -/
theorem computes_tracklist (data : Items) : Computes (tracklistFromMbRelease data)
    ((lookup data "media").Walkable ∧
      ∀ pre x post, (lookup data "media").walked = pre ++ x :: post →
        (pre.flatMap mediumRows).length < maxTracks → MediumWalkable x)
    (((lookup data "media").walked.flatMap mediumRows).take maxTracks) := by
  have hroom : ([] : List Json).length < maxTracks := by decide
  exact (Json.computes_walk _).bind (computes_addMedia _ hroom)

/-- The rows of media whose tracks are lists. -/
theorem flatMap_mediumRows {l : List Json}
    (h : ∀ medium, .obj medium ∈ l → NullOrList (lookup medium "tracks")) :
    l.flatMap mediumRows =
      (objects ((objects l).flatMap fun medium => listed (lookup medium "tracks"))).map trackImage := by
  induction l with
  | nil => rfl
  | cons x l ih =>
    have hrest := ih fun medium hmem => h medium (List.mem_cons_of_mem x hmem)
    rw [List.flatMap_cons, hrest]
    cases x with
    | obj medium =>
      have hcons : objects (.obj medium :: l) = medium :: objects l := rfl
      rw [mediumRows, (h medium List.mem_cons_self).walks.2, rowPerObject_trackRow.flatMap_eq, List.filter_true,
        hcons, List.flatMap_cons, objects_append, List.map_append]
    | _ => rfl

/-- The rows of the first tracks. -/
theorem tracklist_eq {data : Items} (hmedia : NullOrList (lookup data "media"))
    (htracks : ∀ medium, .obj medium ∈ listed (lookup data "media") → NullOrList (lookup medium "tracks")) :
    tracklistFromMbRelease data = .ok (((objects (flatTracks data)).take maxTracks).map trackImage) := by
  obtain ⟨hwalkable, hwalked⟩ := hmedia.walks
  have hgood : (lookup data "media").Walkable ∧
      ∀ pre x post, (lookup data "media").walked = pre ++ x :: post →
        (pre.flatMap mediumRows).length < maxTracks → MediumWalkable x := by
    refine ⟨hwalkable, fun pre x post hsplit _ medium hx => ?_⟩
    rw [hwalked] at hsplit
    exact (htracks medium (by rw [hsplit, hx]; simp)).walks.1
  rw [(computes_tracklist data).eq_ok hgood, hwalked, flatMap_mediumRows htracks, ← List.map_take]
  rfl

end Collect

/-- **What the bounded collectors collect**: the rows of the first 80 tracks that are objects, medium by medium;
the names of the first 20 tags and of the first 15 aliases that have one; and the rows of the first 12 releases
with another id than the excluded one, where none and an empty one exclude nothing. -/
theorem collectors_eq (isPrintable : Char → Bool) :
    (∀ data, NullOrList (lookup data "media") →
      (∀ medium, .obj medium ∈ listed (lookup data "media") → NullOrList (lookup medium "tracks")) →
      tracklistFromMbRelease data = .ok (((objects (flatTracks data)).take 80).map trackImage)) ∧
    (∀ tags, compactTagNames isPrintable tags =
      .ok ((((objects (listed tags)).filter isNamed).take 20).map (nameText isPrintable))) ∧
    (∀ aliases, compactAliasNames isPrintable aliases =
      .ok ((((objects (listed aliases)).filter isNamed).take 15).map (nameText isPrintable))) ∧
    ∀ releases excludeId, compactReleasesSample releases excludeId =
      .ok ((((objects releases).filter (isOther excludeId)).take 12).map sampleImage) :=
  ⟨fun _ => tracklist_eq, fun tags => compactNames_eq tags (by decide),
    fun aliases => compactNames_eq aliases (by decide), compactReleasesSample_eq⟩

/-- A medium with many tracks. -/
def longMedium (n : ℕ) : Items := [("tracks", .arr (List.replicate n (.obj [("title", .str "Homework")])))]

/-- The limit falls into the second medium. -/
theorem collectors_eq_long :
    tracklistFromMbRelease [("media", .arr [.obj (longMedium 50), .null, .obj (longMedium 50)])] =
      .ok (List.replicate 80 (.obj [("title", .str "Homework")])) := by
  have htracks : ∀ medium, .obj medium ∈ [Json.obj (longMedium 50), .null, .obj (longMedium 50)] →
      NullOrList (lookup medium "tracks") := by
    intro medium hmem
    simp only [List.mem_cons, Json.obj.injEq, reduceCtorEq, List.not_mem_nil, or_false, false_or, or_self] at hmem
    rw [hmem]
    exact Or.inr ⟨_, rfl⟩
  exact ((collectors_eq fun _ => true).1
    [("media", .arr [.obj (longMedium 50), .null, .obj (longMedium 50)])] (Or.inr ⟨_, rfl⟩) htracks).trans rfl

/-- **An empty id excludes nothing**, not even a release with an empty id. -/
theorem empty_id_excludes_nothing :
    compactReleasesSample [.obj [("id", .str "")]] (some "") = .ok [.obj [("id", .str "")]] ∧
      ¬ ∀ releases excludeId, compactReleasesSample releases (some excludeId) = .ok
        ((((objects releases).filter fun rel => !isText excludeId (lookup rel "id")).take 12).map sampleImage) := by
  refine ⟨rfl, fun hall => ?_⟩
  have hempty := hall [.obj [("id", .str "")]] ""
  cases hempty

end LookupAggregator.MusicBrainz
