import LookupAggregator.MusicBrainz.Enrichment

/-! # Which answers of MusicBrainz can be read

For every JSON value that a search may be answered by, whether the lookup returns (`lookups_read`): what is
read of a hit is its title and its credits, and what follows is as in `Enrichment`. -/

namespace LookupAggregator.MusicBrainz

open Lib Py Normalize Providers

/-! ### The credits of a hit -/

/-- A credit can be read: if it has an artist, that is an object whose name is a text, or false. -/
def IsCredit (x : Json) : Prop := ∀ d artist, x = .obj d → d.lookup "artist" = some artist →
  ∃ a, artist = .obj a ∧ ((lookup a "name").truthy = true → ∃ s, lookup a "name" = .str s)

/-- Credits that can be read: each can, and so can the whole as a list. -/
structure IsCredits (v : Json) : Prop where
  walkable : v.Walkable
  credit : ∀ x ∈ v.walked, IsCredit x

/-- The text of a value that is one. -/
def strOf : Json → String
  | .str s => s
  | _ => ""

section Credit
variable (isPrintable : Char → Bool)

/-- The name in a credit, as `creditPart` finds it. -/
def creditName : Json → List Json
  | .obj d =>
    match d.lookup "artist" with
    | some (.obj a) => if (lookup a "name").truthy then [lookup a "name"] else []
    | some _ => []
    | none => if (lookup d "name").truthy then [.str ((lookup d "name").text isPrintable)] else []
  | _ => []

/-- The artist of credits. -/
def creditOf (v : Json) : Option String :=
  if v.truthy then
    some (collapseWs (joinParts ((v.walked.flatMap (creditName isPrintable)).map strOf)))
  else none

theorem computes_creditPart (x : Json) : Computes (creditPart isPrintable x)
    (∀ d artist, x = .obj d → d.lookup "artist" = some artist → ∃ a, artist = .obj a)
    (creditName isPrintable x) := by
  have hok (names : List Json) : Computes (.ok names : Except PyError (List Json)) True names := Computes.ok names
  cases x with
  | obj d =>
    unfold creditPart creditName
    dsimp only
    cases hartist : d.lookup "artist" with
    | none =>
      refine (hok _).of_iff (iff_of_true trivial fun d' artist heq h => ?_)
      cases heq
      rw [hartist] at h
      cases h
    | some artist =>
      cases artist with
      | obj a =>
        refine (hok _).of_iff (iff_of_true trivial fun d' artist heq h => ?_)
        cases heq
        rw [hartist] at h
        exact ⟨a, (Option.some.inj h).symm⟩
      | _ =>
        refine fun post => iff_of_false not_returns_error fun h => ?_
        obtain ⟨a, ha⟩ := h.1 d _ rfl hartist
        cases ha
  | _ => exact (hok _).of_iff (iff_of_true trivial fun d artist heq => by cases heq)

theorem computes_partTexts (i : ℕ) (parts : List Json) :
    Computes (partTexts i parts) (∀ v ∈ parts, ∃ s, v = .str s) (parts.map strOf) := by
  induction parts generalizing i with
  | nil => exact (Computes.ok []).of_iff (by simp)
  | cons v parts ih =>
    rw [List.map_cons]
    cases v with
    | str s =>
      have hrest : Computes (partTexts (i + 1) parts >>= fun rest => .ok (s :: rest))
          (∀ v ∈ parts, ∃ s, v = .str s) (s :: parts.map strOf) :=
        (Computes.bind (f := fun rest => .ok (s :: rest)) (ih (i + 1)) (Computes.ok _)).of_iff
          (iff_of_eq (and_true _))
      exact hrest.of_iff (by simp)
    | _ =>
      refine fun post => iff_of_false not_returns_error fun h => ?_
      obtain ⟨s, hs⟩ := h.1 _ List.mem_cons_self
      cases hs

/-- A credit can be read if its artist is an object and the names found in it are texts. -/
theorem isCredit_iff (x : Json) : IsCredit x ↔
    (∀ d artist, x = .obj d → d.lookup "artist" = some artist → ∃ a, artist = .obj a) ∧
      ∀ name ∈ creditName isPrintable x, ∃ s, name = .str s := by
  constructor
  · refine fun h => ⟨fun d artist heq hartist => ?_, fun name hname => ?_⟩
    · obtain ⟨a, ha, -⟩ := h d artist heq hartist
      exact ⟨a, ha⟩
    · cases x with
      | obj d =>
        unfold creditName at hname
        dsimp only at hname
        split at hname
        · rename_i a hartist
          obtain ⟨a', heq, htext⟩ := h d _ rfl hartist
          cases heq
          split_ifs at hname with htruthy
          · rw [List.mem_singleton.mp hname]
            exact htext htruthy
          · cases hname
        · cases hname
        · split_ifs at hname
          · exact ⟨_, List.mem_singleton.mp hname⟩
          · cases hname
      | _ => cases hname
  · rintro ⟨hobj, htext⟩ d artist rfl hartist
    obtain ⟨a, rfl⟩ := hobj d artist rfl hartist
    refine ⟨a, rfl, fun htruthy => htext _ ?_⟩
    simp [creditName, hartist, htruthy]

/-- **The artist of a hit is found if and only if its credits can be read.** -/
theorem computes_artistCredit (v : Json) :
    Computes (artistCredit isPrintable v) (IsCredits v) (creditOf isPrintable v) := by
  intro post
  unfold artistCredit creditOf
  by_cases htruthy : v.truthy = true
  · have hparts : Computes (gather (creditPart isPrintable) v.walked) _ _ :=
      Computes.gather fun x _ => computes_creditPart isPrintable x
    have hwalk := Json.computes_walk v
    rw [Json.orElse_of_truthy htruthy] at hwalk
    rw [if_neg (by simp [htruthy]), if_pos htruthy, returns_bind, hwalk, returns_bind, hparts, returns_bind,
      computes_partTexts, returns_ok]
    constructor
    · rintro ⟨hwalkable, hobj, htext, hp⟩
      refine ⟨⟨hwalkable, fun x hx => (isCredit_iff isPrintable x).mpr ⟨hobj x hx, ?_⟩⟩, hp⟩
      exact fun name hname => htext name (List.mem_flatMap.mpr ⟨x, hx, hname⟩)
    · rintro ⟨⟨hwalkable, hcredit⟩, hp⟩
      have hiff (x : Json) (hx : x ∈ v.walked) := (isCredit_iff isPrintable x).mp (hcredit x hx)
      refine ⟨hwalkable, fun x hx => (hiff x hx).1, fun name hname => ?_, hp⟩
      obtain ⟨x, hx, hname⟩ := List.mem_flatMap.mp hname
      exact (hiff x hx).2 name hname
  · have hfalse : v.truthy = false := by simpa using htruthy
    obtain ⟨hwalkable, hwalked⟩ := Json.walked_of_not_truthy (v := v) (by
      rw [Json.orElse, if_neg htruthy]
      simp [Json.truthy])
    have hgood : IsCredits v := ⟨hwalkable, fun x hx => by rw [hwalked] at hx; cases hx⟩
    rw [if_pos (by simp [hfalse]), if_neg htruthy, returns_ok, and_iff_right hgood]

end Credit

/-! ### A hit -/

/-- A title that can be read: a text, or none. -/
def IsTitle (v : Json) : Prop := v = .null ∨ ∃ s, v = .str s

/-- The title of a hit. -/
def titleOf : Json → Option String
  | .str s => some (collapseWs s)
  | _ => none

/-- A hit whose title and credits can be read. -/
structure IsHit (hit : Items) : Prop where
  title : IsTitle (lookup hit "title")
  credits : IsCredits (lookup hit "artist-credit")

theorem computes_collapseWsOf (v : Json) : Computes (collapseWsOf v) (IsTitle v) (titleOf v) := by
  cases v with
  | null => exact (Computes.ok none).of_iff (by simp [IsTitle])
  | str s => exact (Computes.ok (some (collapseWs s))).of_iff (by simp [IsTitle])
  | _ => exact fun post => iff_of_false not_returns_error fun h => by simp [IsTitle] at h

section Hit
variable {cf : CaseFolding} {isPrintable : Char → Bool} {up : Query → Fetched} {code : String}

/-- What both lookups read of a hit, before they go on with it. -/
theorem returns_hit (hit : Items)
    (next : Option String → Option String → Json → Except PyError ProviderEntry) (post : ProviderEntry → Prop) :
    Returns (do
        let sentTitle ← (Json.obj hit).get "title"
        let title ← collapseWsOf sentTitle
        let credits ← (Json.obj hit).get "artist-credit"
        let artist ← artistCredit isPrintable credits
        let id ← (Json.obj hit).get "id"
        next title artist id) post ↔
      IsHit hit ∧ Returns (next (titleOf (lookup hit "title")) (creditOf isPrintable (lookup hit "artist-credit"))
        (lookup hit "id")) post := by
  have htitle (post : Option String → Prop) := computes_collapseWsOf (lookup hit "title") post
  have hcredits (post : Option String → Prop) :=
    computes_artistCredit isPrintable (lookup hit "artist-credit") post
  simp only [Json.get_obj, returns_bind, returns_ok, htitle, hcredits]
  constructor
  · rintro ⟨htitle, hcredits, h⟩
    exact ⟨⟨htitle, hcredits⟩, h⟩
  · rintro ⟨hhit, h⟩
    exact ⟨hhit.title, hhit.credits, h⟩

/-- The hits under `key` can be read: there are none, or a list whose first element is one. -/
def Readable (key : String) (data : Items) : Prop := (lookup data key).truthy = true →
  ∃ hit hits, lookup data key = .arr (.obj hit :: hits) ∧ IsHit hit

/-- The entry of an answer without hits. -/
def noHits (isPrintable : Char → Bool) (countKey : String) (data : Items) : ProviderEntry :=
  miss providerId (some (safeRawFragment isPrintable
    (.obj [("count", (data.lookup countKey).getD (.int 0))])))

/-- What both lookups do with an answer. -/
theorem returns_answer (data : Json) (key countKey : String)
    (next : Json → Option String → Option String → Json → Except PyError ProviderEntry)
    (post : ProviderEntry → Prop) :
    Returns (do
        let value ← data.get key
        let hits := value.orElse (.arr [])
        if !hits.truthy then
          let count ← data.getOr countKey (.int 0)
          .ok (miss providerId (some (safeRawFragment isPrintable (.obj [("count", count)]))))
        else
          let hit ← hits.head
          let sentTitle ← hit.get "title"
          let title ← collapseWsOf sentTitle
          let credits ← hit.get "artist-credit"
          let artist ← artistCredit isPrintable credits
          let id ← hit.get "id"
          next hit title artist id) post ↔
      ∃ d, data = .obj d ∧ Readable key d ∧
        ((lookup d key).truthy = false → post (noHits isPrintable countKey d)) ∧
        ∀ hit hits, lookup d key = .arr (.obj hit :: hits) → Returns (next (.obj hit)
          (titleOf (lookup hit "title")) (creditOf isPrintable (lookup hit "artist-credit"))
          (lookup hit "id")) post := by
  cases hdata : data.isObj with
  | false =>
    obtain ⟨e, he⟩ := Json.get_of_not_isObj hdata key
    rw [he]
    refine iff_of_false not_returns_error ?_
    rintro ⟨d, rfl, -⟩
    cases hdata
  | true =>
    obtain ⟨d, rfl⟩ := Json.eq_obj_of_isObj hdata
    have hexists (P : Items → Prop) : (∃ d', Json.obj d = .obj d' ∧ P d') ↔ P d := by simp
    rw [hexists, Json.get_obj, returns_bind, returns_ok]
    dsimp only
    unfold Readable
    cases hvalue : (lookup d key).truthy with
    | false =>
      have horElse : (lookup d key).orElse (.arr []) = .arr [] := by simp [Json.orElse, hvalue]
      have hcount : (Json.obj d).getOr countKey (.int 0) = .ok ((d.lookup countKey).getD (.int 0)) := rfl
      have hnil : (!(Json.arr []).truthy) = true := rfl
      rw [horElse, if_pos hnil, hcount, returns_bind, returns_ok, returns_ok]
      refine ⟨fun hp => ⟨(fun ht => by cases ht), fun _ => hp, fun hit hits heq => ?_⟩, fun h => h.2.1 rfl⟩
      rw [heq] at hvalue
      cases hvalue
    | true =>
      rw [Json.orElse_of_truthy hvalue, if_neg (by simp [hvalue]), Json.returns_head_bind fun x post hx => ?_]
      · simp only [returns_hit]
        constructor
        · rintro ⟨hit, hits, heq, hhit, h⟩
          refine ⟨fun _ => ⟨hit, hits, heq, hhit⟩, (fun hf => by cases hf), fun hit' hits' heq' => ?_⟩
          cases heq.symm.trans heq'
          exact h
        · rintro ⟨hread, -, h⟩
          obtain ⟨hit, hits, heq, hhit⟩ := hread trivial
          exact ⟨hit, hits, heq, hhit, h hit hits heq⟩
      · -- what is no object has no title
        obtain ⟨e, he⟩ := Json.get_of_not_isObj hx "title"
        rw [he]
        exact not_returns_error

/-! ### When a lookup of MusicBrainz returns -/

/-- The entry is read from the answer: it is that of an answer without hits, or the match of the first. -/
structure ReadFrom (isPrintable : Char → Bool) (key countKey : String) (data : Items) (entry : ProviderEntry) :
    Prop where
  noHits : (lookup data key).truthy = false → entry = noHits isPrintable countKey data
  hit : ∀ hit hits, lookup data key = .arr (.obj hit :: hits) →
    IsMatch (titleOf (lookup hit "title")) (creditOf isPrintable (lookup hit "artist-credit")) entry

theorem ReadFrom.of_not_truthy {key countKey : String} {data : Items} (h : (lookup data key).truthy = false) :
    ReadFrom isPrintable key countKey data (MusicBrainz.noHits isPrintable countKey data) where
  noHits _ := rfl
  hit hit hits heq := by
    rw [heq] at h
    cases h

theorem ReadFrom.of_hit {key countKey : String} {data hit : Items} {hits : List Json} {entry : ProviderEntry}
    (heq : lookup data key = .arr (.obj hit :: hits)) (h : IsMatch (titleOf (lookup hit "title"))
      (creditOf isPrintable (lookup hit "artist-credit")) entry) :
    ReadFrom isPrintable key countKey data entry where
  noHits hf := by
    rw [heq] at hf
    cases hf
  hit hit' hits' heq' := by
    cases heq.symm.trans heq'
    exact h

/-- The answer to a search for an ISRC can be read, and so can what is asked of its hit. -/
def IsrcReadable (cf : CaseFolding) (isPrintable : Char → Bool) (up : Query → Fetched) (data : Json) : Prop :=
  ∃ d, data = .obj d ∧ Readable "recordings" d ∧
    ∀ hit hits, lookup d "recordings" = .arr (.obj hit :: hits) →
      ∀ mbid, textId (lookup hit "id") = some mbid → ∀ detail, up (.recording mbid) = .ok (.obj detail) →
        DetailWalkable cf isPrintable up (creditOf isPrintable (lookup hit "artist-credit")) detail

/-- The answer to a search for a UPC can be read, and so can what is asked of its hit. -/
def UpcReadable (up : Query → Fetched) (data : Json) : Prop :=
  ∃ d, data = .obj d ∧ Readable "releases" d ∧
    ∀ hit hits, lookup d "releases" = .arr (.obj hit :: hits) →
      ∀ id, textId (lookup hit "id") = some id → ∀ release, up (.release id) = .ok (.obj release) →
        ReleaseWalkable release

theorem returns_lookupIsrc {data : Json} (hanswer : up (.search "recording" ("isrc:" ++ code)) = .ok data)
    {post : ProviderEntry → Prop} (hpost : ∀ d, data = .obj d → ∀ entry,
      ReadFrom isPrintable "recordings" "recording-count" d entry → post entry) :
    Returns (lookupIsrc cf isPrintable up code) post ↔ IsrcReadable cf isPrintable up data := by
  rw [lookupIsrc, hanswer]
  refine (returns_answer data "recordings" "recording-count" _ post).trans ?_
  constructor
  · rintro ⟨d, rfl, hread, -, hhit⟩
    refine ⟨d, rfl, hread, fun hit hits heq mbid hid => ?_⟩
    have h := hhit hit hits heq
    rw [hid] at h
    exact (returns_enrichRecordingIsrc mbid _).mp ((returns_bind.mp h).mono fun _ _ => trivial)
  · rintro ⟨d, rfl, hread, hwalk⟩
    refine ⟨d, rfl, hread, fun hf => hpost d rfl _ (.of_not_truthy hf), fun hit hits heq => ?_⟩
    have hmatch := fun entry h => hpost d rfl entry (.of_hit heq h)
    cases hid : textId (lookup hit "id") with
    | none => exact (returns_plainHit hit _ _).mono hmatch
    | some mbid =>
      exact returns_bind.mpr (((returns_enrichRecordingIsrc mbid _).mpr (hwalk hit hits heq mbid hid)).mono
        fun e _ => (returns_enrichedHit hit _ _ e).mono hmatch)

theorem returns_lookupUpc {data : Json} (hanswer : up (.search "release" ("barcode:" ++ code)) = .ok data)
    {post : ProviderEntry → Prop} (hpost : ∀ d, data = .obj d → ∀ entry,
      ReadFrom isPrintable "releases" "release-count" d entry → post entry) :
    Returns (lookupUpc isPrintable up code) post ↔ UpcReadable up data := by
  rw [lookupUpc, hanswer]
  refine (returns_answer data "releases" "release-count" _ post).trans ?_
  constructor
  · rintro ⟨d, rfl, hread, -, hhit⟩
    refine ⟨d, rfl, hread, fun hit hits heq id hid => ?_⟩
    have h := hhit hit hits heq
    rw [hid] at h
    exact (returns_fetchReleaseEnrichment id).mp ((returns_bind.mp h).mono fun _ _ => trivial)
  · rintro ⟨d, rfl, hread, hwalk⟩
    refine ⟨d, rfl, hread, fun hf => hpost d rfl _ (.of_not_truthy hf), fun hit hits heq => ?_⟩
    have hmatch := fun entry h => hpost d rfl entry (.of_hit heq h)
    cases hid : textId (lookup hit "id") with
    | none => exact (returns_releaseHit d hit _ _ none []).mono hmatch
    | some id =>
      exact returns_bind.mpr (((returns_fetchReleaseEnrichment id).mpr (hwalk hit hits heq id hid)).mono
        fun e _ => (returns_releaseHit d hit _ _ e.1 e.2).mono hmatch)

end Hit

/-- **Which answers make an entry, and which one**, of all JSON values that a search may be answered by: the
lookup returns if and only if the answer can be read, and so can what is asked of its hit; what it returns
is then read from the answer, whatever else is asked. -/
theorem hits_read (cf : CaseFolding) (isPrintable : Char → Bool) (up : Query → Fetched) (code : String)
    (data : Json) :
    (up (.search "recording" ("isrc:" ++ code)) = .ok data →
      ((Returns (lookupIsrc cf isPrintable up code) fun _ => True) ↔ IsrcReadable cf isPrintable up data) ∧
      Ensures (lookupIsrc cf isPrintable up code) fun entry =>
        ∃ d, data = .obj d ∧ ReadFrom isPrintable "recordings" "recording-count" d entry) ∧
    (up (.search "release" ("barcode:" ++ code)) = .ok data →
      ((Returns (lookupUpc isPrintable up code) fun _ => True) ↔ UpcReadable up data) ∧
      Ensures (lookupUpc isPrintable up code) fun entry =>
        ∃ d, data = .obj d ∧ ReadFrom isPrintable "releases" "release-count" d entry) := by
  refine ⟨fun hanswer => ?_, fun hanswer => ?_⟩
  · have hreturns : (Returns (lookupIsrc cf isPrintable up code) fun _ => True) ↔
        IsrcReadable cf isPrintable up data := returns_lookupIsrc hanswer fun _ _ _ _ => trivial
    refine ⟨hreturns, fun entry hentry => ?_⟩
    have hreadable := hreturns.mp ⟨entry, hentry, trivial⟩
    exact ((returns_lookupIsrc hanswer fun d hd entry h => ⟨d, hd, h⟩).mpr hreadable).of_eq_ok hentry
  · have hreturns : (Returns (lookupUpc isPrintable up code) fun _ => True) ↔ UpcReadable up data :=
      returns_lookupUpc hanswer fun _ _ _ _ => trivial
    refine ⟨hreturns, fun entry hentry => ?_⟩
    have hreadable := hreturns.mp ⟨entry, hentry, trivial⟩
    exact ((returns_lookupUpc hanswer fun d hd entry h => ⟨d, hd, h⟩).mpr hreadable).of_eq_ok hentry

theorem hits_read_sent :
    IsrcReadable .id (fun _ => true) (answers .null) (.obj [("recordings", .arr [.obj sentHit])]) ∧
      UpcReadable (answers .null) (.obj [("releases", .arr [.obj sentHit])]) := by
  constructor
  · exact ((hits_read .id (fun _ => true) (answers .null) "USRC17607839" _).1 rfl).1.mp ⟨_, rfl, trivial⟩
  · exact ((hits_read .id (fun _ => true) (answers .null) "724384960650" _).2 rfl).1.mp ⟨_, rfl, trivial⟩

end LookupAggregator.MusicBrainz
