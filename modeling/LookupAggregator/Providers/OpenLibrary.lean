import LookupAggregator.Providers.Base

/-! # Open Library

`app/providers/open_library.py`. A UPC is searched, and the first document makes the entry, found if it has
a title. The number of documents goes through `int`, which raises on values and texts that are no numbers.
-/

namespace LookupAggregator.OpenLibrary

open Lib Py Normalize Providers

/-- `OpenLibraryProvider.id`. -/
def providerId : String := "open_library"

/-! ### `int` of a value -/

/-- What the code raises. -/
inductive LookupError
  | py (e : PyError)
  | valueError (text : String)
  | overflowError (text : String)

/-- `str(e)`. -/
def LookupError.text : LookupError → String
  | py e => e.text
  | valueError text | overflowError text => text

/-- What the operations on a value raise. -/
def lift {α : Type} : Except PyError α → Except LookupError α := Except.mapError .py

theorem ensures_lift {α : Type} {x : Except PyError α} {post : α → Prop} (h : Ensures x post) :
    Ensures (lift x) post := fun a ha => by
  cases x with
  | error e => cases ha
  | ok b => exact h a (congrArg Except.ok (Except.ok.inj ha))

/-- The digits that `int` counts before it looks at the rest of a literal, none where an underscore is out
of place. -/
def countedDigits (afterDigit : Bool) : List Char → Option ℕ
  | [] => if afterDigit then some 0 else none
  | c :: cs =>
    if (decimalValue c).isSome then (countedDigits true cs).map (· + 1)
    else if afterDigit then (if c = '_' then countedDigits false cs else some 0)
    else none

/-- A literal without white space around it and without its sign. -/
def unsigned (text : String) : List Char :=
  match stripWhile isIntSpace text.toList with
  | '-' :: cs => cs
  | '+' :: cs => cs
  | cs => cs

section Lookup
variable (isPrintable : Char → Bool) (truncate : String → ℤ) (up : Items → Fetched)

/-- The text of the `ValueError` of `int(text)`. -/
def intErrorText (text : String) : String :=
  let invalid := "invalid literal for int() with base 10: " ++
    String.ofList ((reprStr isPrintable text).take 200)
  match countedDigits false (unsigned text) with
  | some n =>
    if maxStrDigits < n then
      "Exceeds the limit (4300 digits) for integer string conversion: value has " ++ toString n ++
        " digits; use sys.set_int_max_str_digits() to increase the limit"
    else invalid
  | none => invalid

/-- `int(v)`; `truncate` gives the integer part of a float, by its text. -/
def intOf : Json → Except LookupError ℤ
  | .bool b => .ok (if b then 1 else 0)
  | .int n => .ok n
  | .float text =>
    if text = "nan" then .error (.valueError "cannot convert float NaN to integer")
    else if text = "inf" ∨ text = "-inf" then
      .error (.overflowError "cannot convert float infinity to integer")
    else .ok (truncate text)
  | .str text =>
    match Py.int text with
    | some n => .ok n
    | none => .error (.valueError (intErrorText isPrintable text))
  | v => .error (.py (.typeError
      ("int() argument must be a string, a bytes-like object or a real number, not '" ++ v.typeName ++ "'")))

/-! ### The lookups -/

/-- `lookup_isrc`. -/
def lookupIsrc (_code : String) : Except LookupError ProviderEntry :=
  .ok (.ofError providerId "Open Library is not used for ISRC.")

/-- `params`. -/
def searchParams (code : String) : Items := [("q", .str code), ("limit", .int 5)]

/-- `artist` and `label`: the first of the list under `key`, or the text there. -/
def firstText (doc : Json) (key : String) : Except PyError (Option String) := do
  let v ← doc.get key
  if nonEmptyList v then
    let first ← v.head
    .ok (some (collapsed isPrintable first))
  else
    match v with
    | .str s => .ok (some (collapseWs s))
    | _ => .ok none

/-- The keys that `_compact_doc` keeps. -/
def docKeys : List String :=
  ["title", "subtitle", "author_name", "first_publish_year", "publish_year", "isbn", "publisher", "key",
    "subject", "language", "publish_date", "number_of_pages_median", "cover_i", "cover_edition_key"]

/-- `_compact_doc`. -/
def compactDoc (doc : Json) : Except PyError Items := do
  let d ← doc.items
  .ok (docKeys.filterMap fun k => (d.lookup k).map fun v => (k, v))

/-- The entry made of the first document. -/
def docEntry (docs : Json) : Except PyError ProviderEntry := do
  let doc ← docs.head
  let name ← doc.getOr "title" (.str "")
  let title := orNone (collapsed isPrintable name)
  let artist ← firstText isPrintable doc "author_name"
  let label ← firstText isPrintable doc "publisher"
  let raw ← compactDoc doc
  .ok ⟨providerId, truthy title, title, artist, title, label, none,
    some (safeRawFragment isPrintable (.obj raw))⟩

/-- The entry made of the answer. -/
def searchEntry : Fetched → Except LookupError ProviderEntry
  | .error e => .ok (.ofError providerId e.text)
  | .ok data => do
    let numFound ← lift (data.get "numFound")
    let num ← intOf isPrintable truncate (numFound.orElse (.int 0))
    let found ← lift (data.get "docs")
    let docs := found.orElse (.arr [])
    if num = 0 ∨ docs.truthy = false then
      .ok (miss providerId (some (safeRawFragment isPrintable (.obj [("numFound", .int num)]))))
    else lift (docEntry isPrintable docs)

/-- `lookup_upc`. -/
def lookupUpc (code : String) : Except LookupError ProviderEntry :=
  searchEntry isPrintable truncate (up (searchParams code))

end Lookup

end LookupAggregator.OpenLibrary
