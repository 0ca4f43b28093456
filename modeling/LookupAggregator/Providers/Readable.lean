import LookupAggregator.Providers.OpenLibrary
import LookupAggregator.Providers.Wikidata

/-! # Answers that can be read

Which answers of Wikidata and of Open Library make an entry, and which one: any other JSON value makes the
lookup raise. `bindings_read`: the bindings of a query, of which the first makes the entry and the first
eight the sample. `documents_read`: the documents of a search, of which the first makes the entry. -/

namespace LookupAggregator.Wikidata

open Lib Py Normalize Providers
open MusicBrainz (collapseWsOf)

/-! ### Bindings -/

/-- A cell can be read: it is an object, or false. -/
def IsCell (cell : Json) : Prop := cell.truthy = true → cell.isObj = true

/-- The value of a variable. -/
def valueOf (d : Items) (var : String) : Json :=
  match lookup d var with
  | .obj cell => lookup cell "value"
  | _ => .null

/-- The variables of the query. -/
def queryVars : List String := ["work", "workLabel", "performerLabel", "pubDate"]

/-- A binding whose cells can be read. -/
def IsBinding (b : Json) : Prop := ∃ d, b = .obj d ∧ ∀ var ∈ queryVars, IsCell (lookup d var)

/-- The row of a binding in the sample. -/
def sampleRow : Json → Json
  | .obj d => .obj [("entity", valueOf d "work"), ("title", valueOf d "workLabel"),
      ("performer", valueOf d "performerLabel"), ("publication_date", valueOf d "pubDate")]
  | _ => .null

/-- The label of the work, or what stands for it. -/
def titleOf (d : Items) : Json := (valueOf d "workLabel").orElse (valueOf d "work")

/-- A value that `collapse_ws` can read. -/
def IsText (v : Json) : Prop := v.truthy = true → ∃ s, v = .str s

/-- The text of such a value. -/
def textOf : Json → Option String
  | .str s => if s = "" then none else some (collapseWs s)
  | _ => none

/-- The bindings of an answer, false where it has none. -/
def bindingsOf (data : Items) : Json :=
  match lookup data "results" with
  | .obj results => lookup results "bindings"
  | _ => .null

/-- The bindings of an answer can be read: there are none, or a list of objects, as far as the sample
reaches, and the first one has a title and a performer that are texts, or none. -/
structure Readable (data : Items) : Prop where
  results : IsCell (lookup data "results")
  bindings : (bindingsOf data).truthy = true → ∃ b bs, bindingsOf data = .arr (.obj b :: bs) ∧
    (∀ x ∈ (.obj b :: bs).take 8, IsBinding x) ∧ IsText (titleOf b) ∧ IsText (valueOf b "performerLabel")

section Entry
variable (isPrintable : Char → Bool)

/-- The entry that is read from an answer. -/
def reading (data : Items) : ProviderEntry :=
  match bindingsOf data with
  | .arr (.obj b :: bs) =>
    let published := valueOf b "pubDate"
    let raw : Items := ("entity", valueOf b "work") ::
      (if published.truthy then [("publication_date", published)] else []) ++
        [("bindings_sample", .arr (((.obj b :: bs).take 8).map sampleRow))]
    ⟨providerId, true, textOf (titleOf b), textOf (valueOf b "performerLabel"), none, none, none,
      some (safeRawFragment isPrintable (.obj raw))⟩
  | _ => miss providerId (some (safeRawFragment isPrintable (.obj [("bindings", .int 0)])))

end Entry

theorem computes_cellValue (d : Items) (var : String) :
    Computes (cellValue (.obj d) var) (IsCell (lookup d var)) (valueOf d var) := by
  have hcell (cell : Json) : Computes (bindingValue cell) (IsCell cell)
      (match cell with | .obj cell => lookup cell "value" | _ => .null) := by
    unfold bindingValue IsCell
    cases cell with
    | obj items =>
      cases items with
      | nil => exact (Computes.ok Json.null).of_iff (by simp [Json.isObj])
      | cons item items => exact (Computes.ok (lookup (item :: items) "value")).of_iff (by simp [Json.isObj])
    | _ =>
      split_ifs with h
      · exact fun post => iff_of_false not_returns_error fun hp => by cases hp.1 h
      · exact (Computes.ok Json.null).of_iff (by simp [h])
  exact hcell (lookup d var)

theorem computes_cellValueOr (d : Items) (var var' : String) :
    Computes (cellValueOr (.obj d) var var')
      (IsCell (lookup d var) ∧ ((valueOf d var).truthy = false → IsCell (lookup d var')))
      ((valueOf d var).orElse (valueOf d var')) := by
  refine (computes_cellValue d var).bind ?_
  unfold Json.orElse
  split_ifs with h
  · exact (Computes.ok _).of_iff (by simp [h])
  · exact (computes_cellValue d var').of_iff (by simp [h])

theorem computes_collapsedIf (v : Json) : Computes (collapsedIf v) (IsText v) (textOf v) := by
  have hok (a : Option String) : Computes (.ok a : Except PyError (Option String)) True a := Computes.ok a
  unfold collapsedIf IsText
  cases v with
  | str s =>
    by_cases hs : s = ""
    · simpa [Json.truthy, hs, textOf] using hok none
    · simpa [Json.truthy, hs, textOf, collapseWsOf] using hok (some (collapseWs s))
  | null => simpa [Json.truthy, textOf] using hok none
  | _ =>
    split_ifs with h
    · refine fun post => iff_of_false not_returns_error fun hp => ?_
      obtain ⟨s, hs⟩ := hp.1 h
      cases hs
    · simpa [h, textOf] using hok none

/-- A row is made of a binding that can be read, and of nothing else. -/
theorem computes_bindingRow (b : Json) : Computes (bindingRow b) (IsBinding b) [sampleRow b] := by
  cases b with
  | obj d =>
    intro post
    have hcell (var : String) (post : Json → Prop) : Returns (cellValue (.obj d) var) post ↔
        IsCell (lookup d var) ∧ post (valueOf d var) := computes_cellValue d var post
    simp only [bindingRow, returns_bind, hcell, returns_ok]
    simp [IsBinding, queryVars, and_assoc, sampleRow]
  | _ =>
    refine fun post => iff_of_false not_returns_error ?_
    rintro ⟨⟨d, hd, -⟩, -⟩
    cases hd

theorem computes_results (v : Json) : Computes ((v.orElse (.obj [])).get "bindings") (IsCell v)
    (match v with | .obj results => lookup results "bindings" | _ => .null) := by
  unfold Json.orElse IsCell
  cases v with
  | obj items =>
    cases items with
    | nil => exact (Computes.ok Json.null).of_iff (by simp [Json.isObj])
    | cons item items => exact (Computes.ok (lookup (item :: items) "bindings")).of_iff (by simp [Json.isObj])
  | _ =>
    split_ifs with h
    · exact fun post => iff_of_false not_returns_error fun hp => by cases hp.1 h
    · exact (Computes.ok Json.null).of_iff (by simp [h])

/-- The rows of a sample. -/
theorem computes_rows (l : List Json) :
    Computes (gather bindingRow l) (∀ x ∈ l, IsBinding x) (l.map sampleRow) := by
  rw [List.map_eq_flatMap]
  exact Computes.gather fun x _ => computes_bindingRow x

theorem reading_of_not_truthy (isPrintable : Char → Bool) {data : Items}
    (h : (bindingsOf data).truthy = false) :
    reading isPrintable data =
      miss providerId (some (safeRawFragment isPrintable (.obj [("bindings", .int 0)]))) :=
  Json.firstOf_of_not_truthy h

/-- **An answer makes an entry if and only if its bindings can be read**, and then it makes the one that is
read. -/
theorem computes_entryOf (isPrintable : Char → Bool) (data : Items) :
    Computes (entryOf isPrintable (.ok (.obj data))) (Readable data) (reading isPrintable data) := by
  have hresults : Computes (((lookup data "results").orElse (.obj [])).get "bindings")
      (IsCell (lookup data "results")) (bindingsOf data) := computes_results (lookup data "results")
  have hread : IsCell (lookup data "results") ∧ ((bindingsOf data).truthy = true →
      ∃ b bs, bindingsOf data = .arr (.obj b :: bs) ∧ (∀ x ∈ (.obj b :: bs).take 8, IsBinding x) ∧
        IsText (titleOf b) ∧ IsText (valueOf b "performerLabel")) ↔ Readable data :=
    ⟨fun h => ⟨h.1, h.2⟩, fun h => ⟨h.results, h.bindings⟩⟩
  refine Computes.of_iff (hresults.bind (Json.computes_firstOf (fun b bs =>
    (∀ x ∈ (.obj b :: bs).take 8, IsBinding x) ∧ IsText (titleOf b) ∧ IsText (valueOf b "performerLabel")) _
    (v := bindingsOf data) (fun x post hx h => ?_) fun b bs hbindings post => ?_)) hread
  · -- what is no object has no cells
    cases x with
    | obj d => cases hx
    | _ => exact not_returns_error h
  · have hcell (var : String) (post : Json → Prop) := computes_cellValue b var post
    have hcellOr (post : Json → Prop) := computes_cellValueOr b "workLabel" "work" post
    have htext (v : Json) (post : Option String → Prop) := computes_collapsedIf v post
    have hrows (l : List Json) (post : List Json → Prop) := computes_rows l post
    rw [hbindings, Json.orElse_arr]
    simp only [returns_ok, returns_bind, hcellOr, hcell, htext, Json.slice_arr, Json.iter_arr, hrows]
    constructor
    · rintro ⟨-, -, htitle, hartist, -, -, hsample, hp⟩
      exact ⟨⟨hsample, htitle, hartist⟩, hp⟩
    · rintro ⟨⟨hsample, htitle, hartist⟩, hp⟩
      -- the first binding is in the sample, so that its cells can be read
      obtain ⟨d, hd, hcells⟩ := hsample (.obj b) (by simp)
      cases hd
      simp only [queryVars, List.forall_mem_cons] at hcells
      obtain ⟨hwork, hlabel, hperformer, hpub, -⟩ := hcells
      exact ⟨⟨hlabel, fun _ => hwork⟩, hperformer, htitle, hartist, hpub, hwork, hsample, hp⟩

/-- **Which answers make an entry, and which one.** An answer to the query makes an entry if and only if it
is an object whose bindings can be read; every other JSON value makes the lookup raise. The entry is the one
that is read, found exactly if there is a binding. -/
theorem bindings_read (isPrintable : Char → Bool) (data : Json) :
    (∀ entry, entryOf isPrintable (.ok data) = .ok entry ↔
      ∃ d, data = .obj d ∧ Readable d ∧ entry = reading isPrintable d) ∧
    ∀ d, Readable d → ((reading isPrintable d).found = true ↔ (bindingsOf d).truthy = true) := by
  refine ⟨fun entry => ?_, fun d hd => ?_⟩
  · refine Json.eq_ok_iff_of_computes (f := fun data => entryOf isPrintable (.ok data))
      (computes_entryOf isPrintable) fun v entry hv h => ?_
    obtain ⟨e, he⟩ := Json.get_of_not_isObj hv "results"
    rw [entryOf, he] at h
    cases h
  · cases hB : (bindingsOf d).truthy with
    | false =>
      rw [reading_of_not_truthy isPrintable hB]
      simp [miss]
    | true =>
      obtain ⟨b, bs, hbindings, -⟩ := hd.bindings hB
      simp [reading, hbindings]

end LookupAggregator.Wikidata

namespace LookupAggregator.OpenLibrary

open Lib Py Normalize Providers

/-! ### Documents -/

section Documents
variable (isPrintable : Char → Bool) (truncate : String → ℤ)

/-- The number that `int` makes of a value, if it makes one. -/
def numberOf : Json → Option ℤ
  | .bool b => some (if b then 1 else 0)
  | .int n => some n
  | .float text => if text ∈ ["nan", "inf", "-inf"] then none else some (truncate text)
  | .str text => Py.int text
  | _ => none

/-- The number of documents, none where it is missing or false. -/
def numFound (data : Items) : Option ℤ := numberOf truncate ((lookup data "numFound").orElse (.int 0))

/-- The documents of an answer can be read: their number is one, and if it is not zero there are no
documents, or a list whose first element is an object. -/
structure Readable (data : Items) : Prop where
  number : (numFound truncate data).isSome
  docs : numFound truncate data ≠ some 0 → (lookup data "docs").truthy = true →
    ∃ doc docs, lookup data "docs" = .arr (.obj doc :: docs)

/-- The first of a list of names, or the one name. -/
def firstName (doc : Items) (key : String) : Option String :=
  match lookup doc key with
  | .arr (name :: _) => some (collapsed isPrintable name)
  | .str name => some (collapseWs name)
  | _ => none

/-- The items of a document that are kept. -/
def keptItems (doc : Items) : Items := docKeys.filterMap fun key => (doc.lookup key).map fun v => (key, v)

/-- The entry of a document. -/
def entryOfDocument (doc : Items) : ProviderEntry :=
  let title := orNone (collapsed isPrintable ((doc.lookup "title").getD (.str "")))
  ⟨providerId, truthy title, title, firstName isPrintable doc "author_name", title,
    firstName isPrintable doc "publisher", none, some (safeRawFragment isPrintable (.obj (keptItems doc)))⟩

/-- The entry that is read from an answer. -/
def reading (data : Items) : ProviderEntry :=
  let n := (numFound truncate data).getD 0
  match if n = 0 then .null else lookup data "docs" with
  | .arr (.obj doc :: _) => entryOfDocument isPrintable doc
  | _ => miss providerId (some (safeRawFragment isPrintable (.obj [("numFound", .int n)])))

variable {isPrintable truncate}

theorem computes_intOf (v : Json) :
    Computes (intOf isPrintable truncate v) (numberOf truncate v).isSome ((numberOf truncate v).getD 0) := by
  have hok (n : ℤ) : Computes (.ok n : Except LookupError ℤ) True n := Computes.ok n
  have herror (e : LookupError) (n : ℤ) : Computes (.error e : Except LookupError ℤ) False n := fun post =>
    iff_of_false not_returns_error fun h => h.1
  cases v with
  | bool b => exact (hok _).of_iff (by simp [numberOf])
  | int n => exact (hok n).of_iff (by simp [numberOf])
  | float text =>
    simp only [intOf, numberOf, List.mem_cons, List.not_mem_nil, or_false]
    by_cases hnan : text = "nan"
    · rw [if_pos hnan, if_pos (.inl hnan)]
      exact (herror _ _).of_iff (by simp)
    · rw [if_neg hnan]
      by_cases hinf : text = "inf" ∨ text = "-inf"
      · rw [if_pos hinf, if_pos (.inr hinf)]
        exact (herror _ _).of_iff (by simp)
      · rw [if_neg hinf, if_neg (not_or.mpr ⟨hnan, hinf⟩)]
        exact (hok _).of_iff (by simp)
  | str text =>
    simp only [intOf, numberOf]
    cases Py.int text with
    | some n =>
      refine (hok n).of_iff ?_
      simp
    | none =>
      refine (herror _ _).of_iff ?_
      simp
  | _ => exact (herror _ _).of_iff (by simp [numberOf])

theorem returns_lift {α : Type} {x : Except PyError α} {post : α → Prop} :
    Returns (lift x) post ↔ Returns x post := by
  cases x with
  | error e => exact iff_of_false not_returns_error not_returns_error
  | ok a => exact returns_ok.trans returns_ok.symm

theorem firstText_eq (doc : Items) (key : String) :
    firstText isPrintable (.obj doc) key = .ok (firstName isPrintable doc key) := by
  have hcases (v : Json) : (if nonEmptyList v then do
        let first ← v.head
        .ok (some (collapsed isPrintable first))
      else match v with
        | .str s => .ok (some (collapseWs s))
        | _ => (.ok none : Except PyError (Option String))) =
      .ok (match v with
        | .arr (name :: _) => some (collapsed isPrintable name)
        | .str name => some (collapseWs name)
        | _ => none) := by
    cases v with
    | arr items => cases items <;> rfl
    | _ => rfl
  exact hcases (lookup doc key)

/-- The entry of a document, if the first one is an object. -/
theorem returns_docEntry (docs : Json) (post : ProviderEntry → Prop) :
    Returns (docEntry isPrintable docs) post ↔ ∃ doc ds, docs = .arr (.obj doc :: ds) ∧
      post (entryOfDocument isPrintable doc) := by
  refine (Json.returns_head_bind fun x post hx h => ?_).trans ?_
  · -- what is no object has no title
    cases x with
    | obj d => cases hx
    | _ => exact not_returns_error h
  · have hname (doc : Items) : (Json.obj doc).getOr "title" (.str "") =
        .ok ((doc.lookup "title").getD (.str "")) := rfl
    have hraw (doc : Items) : compactDoc (.obj doc) = .ok (keptItems doc) := rfl
    simp only [returns_bind, hname, firstText_eq, hraw, returns_ok, entryOfDocument]

/-- **An answer makes an entry if and only if its documents can be read**, and then it makes the one that is
read. -/
theorem computes_searchEntry (data : Items) :
    Computes (searchEntry isPrintable truncate (.ok (.obj data))) (Readable truncate data)
      (reading isPrintable truncate data) := by
  intro post
  have hint (post : ℤ → Prop) :
      Returns (intOf isPrintable truncate ((lookup data "numFound").orElse (.int 0))) post ↔
        (numFound truncate data).isSome ∧ post ((numFound truncate data).getD 0) := computes_intOf _ post
  have hlift (v : Json) : lift (.ok v) = .ok v := rfl
  simp only [searchEntry, returns_bind, Json.get_obj, hlift, returns_ok, hint]
  cases hn : numFound truncate data with
  | none =>
    refine iff_of_false (fun h => by cases h.1) fun h => ?_
    have hnumber := h.1.number
    rw [hn] at hnumber
    cases hnumber
  | some n =>
    have hread : Readable truncate data ↔ (n ≠ 0 → (lookup data "docs").truthy = true →
        ∃ doc docs, lookup data "docs" = .arr (.obj doc :: docs)) := by
      refine ⟨fun h hne => h.docs (by rw [hn]; simpa using hne), fun h => ⟨by rw [hn]; rfl, fun hne => h ?_⟩⟩
      rintro rfl
      exact hne hn
    simp only [Option.isSome_some, true_and, Option.getD_some]
    rw [hread]
    by_cases hzero : n = 0
    · rw [if_pos (.inl hzero), returns_ok]
      simp [reading, hn, hzero]
    · by_cases hdocs : (lookup data "docs").truthy = true
      · rw [Json.orElse_of_truthy hdocs, if_neg (by simp [hzero, hdocs]), returns_lift, returns_docEntry]
        simp only [reading, hn, Option.getD_some, if_neg hzero]
        constructor
        · rintro ⟨doc, docs, heq, hp⟩
          rw [heq]
          exact ⟨fun _ _ => ⟨doc, docs, rfl⟩, hp⟩
        · rintro ⟨hobj, hp⟩
          obtain ⟨doc, docs, heq⟩ := hobj hzero hdocs
          rw [heq] at hp
          exact ⟨doc, docs, heq, hp⟩
      · have horElse : (lookup data "docs").orElse (.arr []) = .arr [] := by simp [Json.orElse, hdocs]
        have hmiss : reading isPrintable truncate data =
            miss providerId (some (safeRawFragment isPrintable (.obj [("numFound", .int n)]))) := by
          simp only [reading, hn, Option.getD_some, if_neg hzero]
          exact Json.firstOf_of_not_truthy (by simpa using hdocs)
        rw [horElse, if_pos (.inr rfl), returns_ok, hmiss]
        exact ⟨fun hp => ⟨fun _ ht => absurd ht hdocs, hp⟩, fun hp => hp.2⟩

/-- **Which answers make an entry, and which one.** An answer to the search makes an entry if and only if it
is an object whose documents can be read; every other JSON value makes the lookup raise. The entry is the
one that is read, and one that is found has a title, which is the album as well. -/
theorem documents_read (isPrintable : Char → Bool) (truncate : String → ℤ) (data : Json) :
    (∀ entry, searchEntry isPrintable truncate (.ok data) = .ok entry ↔
      ∃ d, data = .obj d ∧ Readable truncate d ∧ entry = reading isPrintable truncate d) ∧
    ∀ d, (reading isPrintable truncate d).album = (reading isPrintable truncate d).title ∧
      ((reading isPrintable truncate d).found = true ↔
        truthy (reading isPrintable truncate d).title = true) := by
  refine ⟨fun entry => ?_, fun d => ?_⟩
  · refine Json.eq_ok_iff_of_computes (f := fun data => searchEntry isPrintable truncate (.ok data))
      computes_searchEntry fun v entry hv h => ?_
    obtain ⟨e, he⟩ := Json.get_of_not_isObj hv "numFound"
    rw [searchEntry, he] at h
    cases h
  · simp only [reading]
    split
    · simp only [entryOfDocument, and_self]
    · simp [miss, truthy]

end Documents

end LookupAggregator.OpenLibrary
