import LookupAggregator.Lib.FormEncoding
import LookupAggregator.MusicBrainz.Provider
import LookupAggregator.Validation.Isrc

/-! # Wikidata

`app/providers/wikidata.py`. An ISRC is put into a SPARQL query, if it is alphanumeric, and the query into
the URL of the request; the first binding of the answer makes the entry, whether it has a label or not.

`code_is_one_literal`: what the endpoint reads is the query as it was written, in which the code is all of
one string literal. -/

namespace LookupAggregator.Wikidata

open Lib Py Normalize Providers Validation
open MusicBrainz (collapseWsOf)

/-- `WikidataIsrcProvider.id`. -/
def providerId : String := "wikidata"

/-! ### The request -/

/-- `isalnum()` of a character: of the ASCII characters, the letters and the digits, and every decimal
digit. -/
structure AlnumClass where
  isAlnum : Char → Bool
  ascii : ∀ c : Char, c.toNat < 0x80 → isAlnum c = c.isAlphanum
  decimal : ∀ c, (decimalValue c).isSome → isAlnum c = true

/-- The class without the letters outside of ASCII. -/
def AlnumClass.asciiLetters : AlnumClass where
  isAlnum c := c.isAlphanum || (decimalValue c).isSome
  ascii c h := by
    have hall : ∀ i < 0x80, ((Char.ofNat i).isAlphanum || (decimalValue (Char.ofNat i)).isSome) =
        (Char.ofNat i).isAlphanum := by decide +kernel
    rw [← Char.ofNat_toNat c]
    exact hall _ h
  decimal c h := by rw [h, Bool.or_true]

/-- `code.isalnum()`. -/
def isalnum (an : AlnumClass) (code : String) : Bool := code ≠ "" && code.toList.all an.isAlnum

/-- The query text before the literal with the code. -/
def beforeCode : String := "SELECT ?work ?workLabel ?performerLabel ?pubDate WHERE \x7b\n  ?work wdt:P1243 "

/-- The query text between that literal and the next one. -/
def betweenLiterals : String :=
  " .\n  OPTIONAL \x7b ?work wdt:P175 ?performer . \x7d\n  OPTIONAL \x7b ?work wdt:P577 ?pubDate . \x7d\n" ++
    "  SERVICE wikibase:label \x7b bd:serviceParam wikibase:language "

/-- The query text after the last literal. -/
def afterLiterals : String := ". \x7d\n\x7d\nLIMIT 8"

/-- `query`. -/
def sparqlQuery (code : String) : String :=
  strip ("\n" ++ beforeCode ++ "\"" ++ code ++ "\"" ++ betweenLiterals ++ "\"en\"" ++ afterLiterals ++ "\n")

/-- `s.encode()`. -/
def utf8 (s : String) : List UInt8 := s.toByteArray.data.toList

/-- `urlencode(items)`. -/
def urlencode (items : List (String × String)) : String :=
  String.ofList (FormEncoding.encodeQuery (items.map fun item => (utf8 item.1, utf8 item.2)))

/-- `url`, below `settings.wikidata_sparql_url`. -/
def requestUrl (sparqlUrl code : String) : String :=
  sparqlUrl ++ "?" ++ urlencode [("query", sparqlQuery code), ("format", "json")]

/-! ### The answer -/

/-- `_binding_value`. -/
def bindingValue (cell : Json) : Except PyError Json :=
  if cell.truthy then cell.get "value" else .ok .null

/-- `self._binding_value(b.get(key))`. -/
def cellValue (b : Json) (key : String) : Except PyError Json := do
  let cell ← b.get key
  bindingValue cell

/-- `self._binding_value(b.get(key)) or self._binding_value(b.get(key'))`. -/
def cellValueOr (b : Json) (key key' : String) : Except PyError Json := do
  let v ← cellValue b key
  if v.truthy then .ok v else cellValue b key'

/-- `collapse_ws(v) if v else None`. -/
def collapsedIf (v : Json) : Except PyError (Option String) := if v.truthy then collapseWsOf v else .ok none

/-- A row of `all_rows`. -/
def bindingRow (b : Json) : Except PyError (List Json) := do
  let entity ← cellValue b "work"
  let title ← cellValue b "workLabel"
  let performer ← cellValue b "performerLabel"
  let published ← cellValue b "pubDate"
  .ok [.obj [("entity", entity), ("title", title), ("performer", performer), ("publication_date", published)]]

section Lookup
variable (an : AlnumClass) (isPrintable : Char → Bool) (sparqlUrl : String) (up : String → Fetched)

/-- The entry made of the answer. -/
def entryOf : Fetched → Except PyError ProviderEntry
  | .error e => .ok (.ofError providerId e.text)
  | .ok data => do
    let results := (← data.get "results").orElse (.obj [])
    let bindings := (← results.get "bindings").orElse (.arr [])
    if !bindings.truthy then
      .ok (miss providerId (some (safeRawFragment isPrintable (.obj [("bindings", .int 0)]))))
    else
      let b0 ← bindings.head
      let titleValue ← cellValueOr b0 "workLabel" "work"
      let artistValue ← cellValue b0 "performerLabel"
      let title ← collapsedIf titleValue
      let artist ← collapsedIf artistValue
      let pub ← cellValue b0 "pubDate"
      let entity ← cellValue b0 "work"
      let sample ← bindings.slice 8
      let elements ← sample.iter
      let rows ← gather bindingRow elements
      let raw : Items := ("entity", entity) ::
        (if pub.truthy then [("publication_date", pub)] else []) ++ [("bindings_sample", .arr rows)]
      .ok ⟨providerId, true, title, artist, none, none, none, some (safeRawFragment isPrintable (.obj raw))⟩

/-- `lookup_isrc`; the upstream answers requests by their URL. -/
def lookupIsrc (code : String) : Except PyError ProviderEntry :=
  if isalnum an code then entryOf isPrintable (up (requestUrl sparqlUrl code))
  else .ok (.ofError providerId "Invalid characters for Wikidata query.")

/-- `lookup_upc`. -/
def lookupUpc (_code : String) : Except PyError ProviderEntry :=
  .ok (.ofError providerId "Wikidata provider is not used for UPC in this build.")

end Lookup

/-! ### What the endpoint reads -/

/-- The string literals of a query without escapes: every other part between double quotes. -/
def literals (query : String) : List (List Char) :=
  ((query.toList.splitOn doubleQuote).zipIdx.filter fun part => part.2 % 2 = 1).map Prod.fst

/-- The query text outside of its string literals. -/
def outsideLiterals (query : String) : List (List Char) :=
  ((query.toList.splitOn doubleQuote).zipIdx.filter fun part => part.2 % 2 = 0).map Prod.fst

/-- The text parts of the query, with the code between the first two. -/
def queryParts (code : String) : List (List Char) :=
  [beforeCode.toList, code.toList, betweenLiterals.toList, "en".toList, afterLiterals.toList]

/-- A text with line breaks around it that is not white space at its ends. -/
theorem stripWhile_lines {p : Char → Bool} {first last a b : Char} (hfirst : p first = true)
    (hlast : p last = true) (ha : p a = false) (hb : p b = false) (l : List Char) :
    stripWhile p (first :: a :: (l ++ [b, last])) = a :: (l ++ [b]) := by
  have hright : (a :: (l ++ [b, last])).rdropWhile p = a :: (l ++ [b]) := by
    rw [show a :: (l ++ [b, last]) = (a :: (l ++ [b])) ++ [last] by simp,
      List.rdropWhile_concat_pos _ _ _ hlast, ← List.cons_append, List.rdropWhile_concat_neg _ _ _ (by simp [hb])]
  rw [stripWhile, List.dropWhile_cons_of_pos hfirst, List.dropWhile_cons_of_neg (by simp [ha]), hright]

-- a string literal is the `String.ofList` of its characters, of which these read off what matters here
theorem plain_ofList {l : List Char} (h : (l.all fun c => c ≠ doubleQuote ∧ c ≠ backslash) = true) :
    ∀ c ∈ (String.ofList l).toList, c ≠ doubleQuote ∧ c ≠ backslash := by
  rw [String.toList_ofList]
  simpa using h

theorem exists_concat_ofList {l : List Char} {c : Char} (h : l.getLast? = some c) :
    ∃ l', (String.ofList l).toList = l' ++ [c] := by
  rw [String.toList_ofList]
  exact List.getLast?_eq_some_iff.mp h

theorem toList_sparqlQuery (code : String) :
    (sparqlQuery code).toList = [doubleQuote].intercalate (queryParts code) := by
  obtain ⟨before, hbefore⟩ : ∃ l, beforeCode.toList = 'S' :: l := ⟨_, String.toList_ofList⟩
  obtain ⟨after, hafter⟩ : ∃ l, afterLiterals.toList = l ++ ['8'] := exists_concat_ofList (by decide)
  have hmarks : "\n".toList = ['\n'] ∧ "\"".toList = [doubleQuote] ∧
      "\"en\"".toList = doubleQuote :: ("en".toList ++ [doubleQuote]) := by decide +kernel
  let inner := before ++ doubleQuote :: (code.toList ++ doubleQuote :: (betweenLiterals.toList ++
    doubleQuote :: ("en".toList ++ doubleQuote :: after)))
  have hwhole : ("\n" ++ beforeCode ++ "\"" ++ code ++ "\"" ++ betweenLiterals ++ "\"en\"" ++ afterLiterals ++
      "\n").toList = '\n' :: 'S' :: (inner ++ ['8', '\n']) := by
    simp only [String.toList_append, hmarks, hbefore, hafter]
    simp [inner]
  rw [sparqlQuery, strip, String.toList_ofList, hwhole, stripWhile_lines rfl rfl rfl rfl, queryParts, hbefore,
    hafter]
  simp [inner, List.intercalate]

/-- There are no quotes and no backslashes in the text around the code. -/
theorem plain_queryText : ∀ text ∈ [beforeCode, betweenLiterals, "en", afterLiterals], ∀ c ∈ text.toList,
    c ≠ doubleQuote ∧ c ≠ backslash := by
  have hbetween : ∀ c ∈ betweenLiterals.toList, c ≠ doubleQuote ∧ c ≠ backslash := by
    unfold betweenLiterals
    simp only [String.toList_append, List.mem_append]
    rintro c (hc | hc)
    · exact plain_ofList (by decide +kernel) c hc
    · exact plain_ofList (by decide +kernel) c hc
  simp only [List.forall_mem_cons, List.not_mem_nil, IsEmpty.forall_iff, implies_true, and_true]
  exact ⟨plain_ofList (by decide +kernel), hbetween, plain_ofList (by decide +kernel),
    plain_ofList (by decide +kernel)⟩

/-- **An alphanumeric code has neither quotes nor backslashes**, nor has any other part of the query. -/
theorem plain_queryParts {an : AlnumClass} {code : String} (h : isalnum an code = true) :
    ∀ part ∈ queryParts code, ∀ c ∈ part, c ≠ doubleQuote ∧ c ≠ backslash := by
  have hquote : an.isAlnum doubleQuote = false := (an.ascii _ (by decide)).trans (by decide)
  have hbackslash : an.isAlnum backslash = false := (an.ascii _ (by decide)).trans (by decide)
  have hcode : ∀ c ∈ code.toList, c ≠ doubleQuote ∧ c ≠ backslash := fun c hc => by
    have halnum := List.all_eq_true.mp ((Bool.and_eq_true _ _).mp h).2 c hc
    constructor <;> rintro rfl
    · exact Bool.false_ne_true (hquote.symm.trans halnum)
    · exact Bool.false_ne_true (hbackslash.symm.trans halnum)
  have htext := plain_queryText
  simp only [List.forall_mem_cons, List.not_mem_nil, IsEmpty.forall_iff, implies_true, and_true] at htext
  unfold queryParts
  rw [List.forall_mem_cons, List.forall_mem_cons]
  refine ⟨htext.1, hcode, ?_⟩
  simp only [List.forall_mem_cons, List.not_mem_nil, IsEmpty.forall_iff, implies_true, and_true]
  exact htext.2

/-- **The parts of the query between double quotes**, for an alphanumeric code. -/
theorem splitOn_sparqlQuery {an : AlnumClass} {code : String} (h : isalnum an code = true) :
    (sparqlQuery code).toList.splitOn doubleQuote = queryParts code := by
  have hparts : ∀ part ∈ queryParts code, doubleQuote ∉ part := fun part hpart hmem =>
    (plain_queryParts h part hpart _ hmem).1 rfl
  rw [toList_sparqlQuery, List.splitOn_intercalate doubleQuote hparts (List.cons_ne_nil _ _)]

/-- **The endpoint reads the query as it was written.** -/
theorem requestUrl_decodes (sparqlUrl code : String) : ∃ query, requestUrl sparqlUrl code =
      sparqlUrl ++ "?" ++ String.ofList query ∧
    FormEncoding.decodeQuery query =
      some [(utf8 "query", utf8 (sparqlQuery code)), (utf8 "format", utf8 "json")] :=
  ⟨_, rfl, FormEncoding.decodeQuery_encodeQuery (List.cons_ne_nil _ _)⟩

/-- The query has no escapes. -/
theorem backslash_notMem_sparqlQuery {an : AlnumClass} {code : String} (h : isalnum an code = true) :
    backslash ∉ (sparqlQuery code).toList := by
  have hparts : ∀ part ∈ queryParts code, backslash ∉ part := fun part hpart hmem =>
    (plain_queryParts h part hpart _ hmem).2 rfl
  have hquote : backslash ∉ [doubleQuote] := by decide
  rw [toList_sparqlQuery]
  unfold queryParts at hparts ⊢
  simp only [List.forall_mem_cons, List.not_mem_nil, IsEmpty.forall_iff, implies_true, and_true] at hparts
  simp only [List.intercalate_cons_cons, List.intercalate_singleton, List.mem_append, hparts, hquote, or_self,
    not_false_eq_true]

theorem alternate (a b c d e : List Char) :
    ([a, b, c, d, e].zipIdx.filter fun part => part.2 % 2 = 1).map Prod.fst = [b, d] ∧
      ([a, b, c, d, e].zipIdx.filter fun part => part.2 % 2 = 0).map Prod.fst = [a, c, e] := by
  simp

/-- **An alphanumeric code is the whole of a literal.** -/
theorem literals_sparqlQuery {an : AlnumClass} {code : String} (h : isalnum an code = true) :
    literals (sparqlQuery code) = [code.toList, "en".toList] ∧
      outsideLiterals (sparqlQuery code) =
        [beforeCode.toList, betweenLiterals.toList, afterLiterals.toList] := by
  rw [literals, outsideLiterals, splitOn_sparqlQuery h]
  exact alternate _ _ _ _ _

/-- **A code cannot change the query.** For every text, either it is not alphanumeric and no request is
made, or one request is made, to the one URL, where the endpoint reads the query as it was written: the code
is the whole of its first string literal, and around the literals it is the same for all codes. -/
theorem code_is_one_literal (an : AlnumClass) (isPrintable : Char → Bool) (sparqlUrl code : String) :
    (isalnum an code = false ∧ ∀ up, lookupIsrc an isPrintable sparqlUrl up code =
      .ok (.ofError providerId "Invalid characters for Wikidata query.")) ∨
    (isalnum an code = true ∧
      (∀ up up', up (requestUrl sparqlUrl code) = up' (requestUrl sparqlUrl code) →
        lookupIsrc an isPrintable sparqlUrl up code = lookupIsrc an isPrintable sparqlUrl up' code) ∧
      (∃ query, requestUrl sparqlUrl code = sparqlUrl ++ "?" ++ String.ofList query ∧
        FormEncoding.decodeQuery query =
          some [(utf8 "query", utf8 (sparqlQuery code)), (utf8 "format", utf8 "json")]) ∧
      backslash ∉ (sparqlQuery code).toList ∧
      literals (sparqlQuery code) = [code.toList, "en".toList] ∧
      outsideLiterals (sparqlQuery code) =
        [beforeCode.toList, betweenLiterals.toList, afterLiterals.toList]) := by
  cases h : isalnum an code with
  | false => exact .inl ⟨rfl, fun up => by rw [lookupIsrc, h]; rfl⟩
  | true =>
    refine .inr ⟨rfl, fun up up' hup => ?_, requestUrl_decodes sparqlUrl code, backslash_notMem_sparqlQuery h,
      literals_sparqlQuery h⟩
    simp only [lookupIsrc, h, if_true, hup]

/-! ### Codes that are accepted -/

/-- The letters and digits of an ISRC are alphanumeric. -/
theorem isAlnum_of_ascii (an : AlnumClass) {c : Char} (h : isAsciiUpper c || isAsciiDigit c) :
    an.isAlnum c = true := by
  have hall : ∀ i < 0x80, (isAsciiUpper (Char.ofNat i) || isAsciiDigit (Char.ofNat i)) = true →
      (Char.ofNat i).isAlphanum = true := by decide +kernel
  have hlt : c.toNat < 0x80 := by
    simp only [isAsciiUpper, isAsciiDigit, Bool.or_eq_true, Bool.and_eq_true, decide_eq_true_eq] at h
    omega
  rw [an.ascii c hlt]
  rw [← Char.ofNat_toNat c] at h ⊢
  exact hall _ hlt h

/-- **An ISRC that is accepted is alphanumeric**, the digits outside `0-9` included, so that Wikidata is
asked for it. -/
theorem isalnum_of_validateIsrc (an : AlnumClass) {u : UpperCasing} {code v : String}
    (h : validateIsrc u code = .ok v) : isalnum an v = true := by
  obtain ⟨hmatch, rfl⟩ := validateIsrc_eq_ok.mp h
  have hne : normalizeIsrc u code ≠ "" := fun he => by
    rw [he] at hmatch
    exact absurd hmatch (by decide)
  rw [isalnum, Bool.and_eq_true, List.all_eq_true]
  refine ⟨by simpa using hne, fun c hc => ?_⟩
  obtain ⟨p, hp, hpc⟩ := exists_of_fullmatch hmatch hc
  have hp' : p = isAsciiUpper ∨ p = (fun c => isAsciiUpper c || isAsciiDigit c) ∨ p = isDecimal := by
    simpa [isrcClasses, or_assoc] using hp
  rcases hp' with rfl | rfl | rfl
  · exact isAlnum_of_ascii an (by rw [hpc, Bool.true_or])
  · exact isAlnum_of_ascii an hpc
  · exact an.decimal c hpc

/-- **Every ISRC that is accepted is looked up**, as the whole of a literal: no code that `validate_isrc`
lets pass is refused as invalid here. -/
theorem accepted_isrc_is_looked_up (an : AlnumClass) (isPrintable : Char → Bool) (sparqlUrl : String)
    {u : UpperCasing} {text code : String} (h : validateIsrc u text = .ok code) :
    (∀ up, lookupIsrc an isPrintable sparqlUrl up code =
      entryOf isPrintable (up (requestUrl sparqlUrl code))) ∧
      literals (sparqlQuery code) = [code.toList, "en".toList] := by
  have halnum := isalnum_of_validateIsrc an h
  exact ⟨fun up => if_pos halnum, (literals_sparqlQuery halnum).1⟩

/-- An ISRC with an Arabic digit, which passes. -/
theorem accepted_isrc_is_looked_up_foreign :
    literals (sparqlQuery "USRC1760783٣") = ["USRC1760783٣".toList, "en".toList] :=
  (accepted_isrc_is_looked_up .asciiLetters (fun _ => true) "https://query.wikidata.org/sparql"
    (show validateIsrc .ascii "us-rc1-76-0783٣" = .ok "USRC1760783٣" by decide)).2

end LookupAggregator.Wikidata
