import Mathlib.Data.List.Perm.Basic
import Mathlib.Data.List.Nodup
import LookupAggregator.Lib.Dict
import LookupAggregator.Summary

/-! # Assembling a response

What `lookup_isrc` and `lookup_upc` do after a cache miss: one task for each enabled provider, whose
results `asyncio.gather` collects in any order of completion; a second look at Deezer and Discogs with the
title of an entry found; the entries with nothing but an error dropped, and named in the note when nothing
was found.

A provider is what its methods give during one lookup: an entry, or what they raise. -/

namespace LookupAggregator.LookupService

open Lib Py Normalize Summary

/-! ### Providers -/

/-- What a provider raises, with its text: an `Exception`, or a `BaseException` that is none. -/
inductive PyExc
  | exception (text : String)
  | baseException (text : String)
deriving DecidableEq

/-- `str(e)`. -/
def PyExc.text : PyExc → String
  | .exception text => text
  | .baseException text => text

/-- What awaiting a method of a provider gives. -/
abbrev Outcome := Except PyExc ProviderEntry

/-- A provider during one lookup. Only some have the free-text searches. -/
structure Provider where
  lookupIsrc : String → Outcome
  lookupUpc : String → Outcome
  lookupFreeText : Option (String → Outcome)
  lookupReleaseFreeText : Option (String → Outcome)

/-- The settings the service reads. -/
structure ProviderSettings where
  musicbrainzEnabled : Bool
  deezerEnabled : Bool
  discogsEnabled : Bool
  wikidataEnabled : Bool
  openLibraryEnabled : Bool

/-! ### The tasks -/

/-- The entry, with an empty provider id filled in. -/
def fillId (providerId : String) (entry : ProviderEntry) : ProviderEntry :=
  if entry.provider = "" then { entry with provider := providerId } else entry

/-- `_safe_call(provider_id, coro)`. -/
def safeCall (providerId : String) : Outcome → Except PyExc ProviderEntry
  | .ok entry => .ok (fillId providerId entry)
  | .error (.exception text) => .ok (.ofError providerId text)
  | .error (.baseException text) => .error (.baseException text)

/-- The task of a provider, if it is enabled and registered. -/
def task (providers : Dict String Provider) (call : Provider → Outcome) (enabled : Bool) (id : String) :
    List (String × Outcome) :=
  if enabled then
    match providers.get? id with
    | some p => [(id, call p)]
    | none => []
  else []

/-- The tasks that both lookups create. -/
def sharedTasks (st : ProviderSettings) (providers : Dict String Provider) (call : Provider → Outcome) :
    List (String × Outcome) :=
  task providers call st.musicbrainzEnabled "musicbrainz" ++
    task providers call st.deezerEnabled "deezer" ++ task providers call st.discogsEnabled "discogs"

/-- The tasks of `lookup_isrc`. -/
def isrcTasks (st : ProviderSettings) (providers : Dict String Provider) (code : String) :
    List (String × Outcome) :=
  sharedTasks st providers (·.lookupIsrc code) ++
    task providers (·.lookupIsrc code) st.wikidataEnabled "wikidata"

/-- The tasks of `lookup_upc`. -/
def upcTasks (st : ProviderSettings) (providers : Dict String Provider) (code : String) :
    List (String × Outcome) :=
  sharedTasks st providers (·.lookupUpc code) ++
    task providers (·.lookupUpc code) st.openLibraryEnabled "open_library"

/-- The tasks of a lookup, with the ids of their providers, in the order of their creation. -/
def tasks (st : ProviderSettings) (providers : Dict String Provider) : Kind → String →
    List (String × Outcome)
  | .isrc, code => isrcTasks st providers code
  | .upc, code => upcTasks st providers code

/-! ### Gathering -/

/-- An order in which `n` tasks complete. -/
structure Completion (n : ℕ) where
  order : List ℕ
  perm : order.Perm (List.range n)

/-- `asyncio.gather`: a task that completes puts its result in its own place. -/
def gatherResults {α : Type*} {n : ℕ} (c : Completion n) (results : List α) : List α :=
  (c.order.foldl (fun places i => places.set i results[i]?) (List.replicate n none)).filterMap id

/-- The row of a result; `_safe_call` returns nothing but entries. -/
def gatherRow : Except PyExc ProviderEntry → ProviderEntry
  | .ok entry => entry
  | .error e => .ofError "unknown" e.text

/-- `_gather(tasks)`. -/
def gather {n : ℕ} (c : Completion n) (ts : List (String × Outcome)) : List ProviderEntry :=
  (gatherResults c (ts.map fun t => safeCall t.1 t.2)).map gatherRow

/-! ### The title hint -/

/-- The order in which `_hint_title_artist` asks the providers. -/
def priority : List String := ["musicbrainz", "deezer", "discogs", "open_library", "wikidata"]

/-- `{p.provider: (p, i) for i, p in enumerate(providers)}.get(id)`: the last row of a provider counts. -/
def byId (rows : List ProviderEntry) (id : String) : Option (ProviderEntry × ℕ) :=
  rows.zipIdx.reverse.find? fun r => r.1.provider = id

/-- The title, or the album, and the artist of an entry found. -/
def hintOf (p : ProviderEntry) : Option (String × Option String) :=
  if p.found ∧ (truthy p.title ∨ truthy p.album) then
    let title := collapseWs ((orElse p.title p.album).getD "")
    if title ≠ "" then some (title, if truthy p.artist then p.artist.map collapseWs else none) else none
  else none

/-- `_hint_title_artist(providers)`. -/
def hintTitleArtist (rows : List ProviderEntry) : Option (String × Option String) :=
  match priority.findSome? fun id => (byId rows id).bind fun r => hintOf r.1 with
  | some hint => some hint
  | none => rows.findSome? hintOf

/-- `_deezer_discogs_hint_query(title, artist)`. -/
def deezerDiscogsHintQuery (title : String) (artist : Option String) : String :=
  if truthy artist then artist.getD "" ++ " " ++ title else title

/-- The search to make for a provider whose row was not found. -/
def refinement (providers : Dict String Provider) (rows : List ProviderEntry) (q : String) (enabled : Bool)
    (id : String) (search : Provider → Option (String → Outcome)) : List (String × Outcome) :=
  if enabled then
    match providers.get? id, byId rows id with
    | some p, some (row, _) =>
      if row.found then []
      else
        match search p with
        | some fn => [(id, fn q)]
        | none => []
    | _, _ => []
  else []

/-- The list `refinements`. -/
def refinements (st : ProviderSettings) (providers : Dict String Provider) (rows : List ProviderEntry)
    (q : String) : List (String × Outcome) :=
  refinement providers rows q st.deezerEnabled "deezer" Provider.lookupFreeText ++
    refinement providers rows q st.discogsEnabled "discogs" Provider.lookupReleaseFreeText

/-- One round of the loop over `refinements`. -/
def refine (rows merged : List ProviderEntry) (r : String × Outcome) : Except PyExc (List ProviderEntry) :=
  match safeCall r.1 r.2, byId rows r.1 with
  | .error e, _ => .error e
  | .ok entry, some (_, idx) =>
    if entry.found ∧ merged[idx]?.any (!·.found) then .ok (merged.set idx entry) else .ok merged
  | .ok _, none => .ok merged

/-- `_refine_by_title_hint(providers)`. -/
def refineByTitleHint (st : ProviderSettings) (providers : Dict String Provider)
    (rows : List ProviderEntry) : Except PyExc (List ProviderEntry) :=
  match hintTitleArtist rows with
  | none => .ok rows
  | some (title, artist) =>
    (refinements st providers rows (deezerDiscogsHintQuery title artist)).foldlM (refine rows) rows

/-! ### The response -/

/-- `p.found is False and p.error`. -/
def onlyError (p : ProviderEntry) : Bool := !p.found && truthy p.error

/-- `_omit_providers_with_only_error(providers)`. -/
def omitProvidersWithOnlyError (rows : List ProviderEntry) : List ProviderEntry :=
  rows.filter fun p => !onlyError p

/-- The texts of the errors dropped. -/
def droppedErrors (beforeOmit : List ProviderEntry) : List String :=
  (beforeOmit.filter onlyError).map fun p => p.provider ++ ": " ++ p.error.getD ""

/-- The first four errors. -/
def clip (errs : List String) : String :=
  String.intercalate " | " (errs.take 4) ++ if errs.length > 4 then " | …" else ""

/-- `_summary_with_dropped_errors(before_omit, summary)`. -/
def summaryWithDroppedErrors (beforeOmit : List ProviderEntry) (summary : SummaryBlock) : SummaryBlock :=
  if summary.foundIn > 0 then summary
  else
    let errs := droppedErrors beforeOmit
    if errs = [] then summary
    else
      let note := "Some sources failed (" ++ clip errs ++ ")."
      if truthy summary.note then { summary with note := some (summary.note.getD "" ++ " " ++ note) }
      else { summary with note := some note }

/-- The lookup of a code, after a cache miss. -/
def assemble (cf : CaseFolding) (st : ProviderSettings) (providers : Dict String Provider) (kind : Kind)
    (code : String) (c : Completion (tasks st providers kind code).length) :
    Except PyExc LookupResponse :=
  match refineByTitleHint st providers (gather c (tasks st providers kind code)) with
  | .error e => .error e
  | .ok rows =>
    let kept := omitProvidersWithOnlyError rows
    .ok ⟨code, kept, summaryWithDroppedErrors rows (buildSummary cf kept)⟩

/-- `lookup_isrc` and `lookup_upc`: `hit` is what the cache answered, if there is a cache. What is
assembled is stored before it is returned. -/
def lookup (cf : CaseFolding) (st : ProviderSettings) (providers : Dict String Provider) (kind : Kind)
    (code : String) (c : Completion (tasks st providers kind code).length) (hit : Option LookupResponse) :
    Except PyExc LookupResponse :=
  match hit with
  | some response => .ok response
  | none => assemble cf st providers kind code c

end LookupAggregator.LookupService
