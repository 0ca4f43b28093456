import LookupAggregator.LookupService.Rows
import LookupAggregator.MusicBrainz.Provider
import LookupAggregator.Providers.Deezer
import LookupAggregator.Providers.Discogs

/-! # The service and its providers

The providers that the application registers, as the service sees them; Wikidata and Open Library are arbitrary
here. What their code raises is an `Exception`. Of sound providers, whose entries carry their own ids, a lookup
has answers with the right ids, and its rows carry them to the end (`AllSound.provider_final`). -/

namespace LookupAggregator.LookupService

open Lib Py Normalize Summary Providers

/-! ### Sound providers -/

/-- The code lookup of a kind. -/
def codeLookup : Kind → String → Provider → Outcome
  | .isrc, code => fun p => p.lookupIsrc code
  | .upc, code => fun p => p.lookupUpc code

/-- The free-text search of a provider that has one of the two. -/
def Provider.Searches (p : Provider) (fn : String → Outcome) : Prop :=
  p.lookupFreeText = some fn ∨ p.lookupReleaseFreeText = some fn

/-- What is awaited of the provider `id`: an entry with its id or none, or an `Exception`. -/
structure Outcome.Sound (id : String) (o : Outcome) : Prop where
  answer : o.IsAnswer
  carriesId : o.CarriesId id

/-- All that the provider `id` gives is sound. -/
structure Provider.Sound (id : String) (p : Provider) : Prop where
  codes : ∀ kind code, (codeLookup kind code p).Sound id
  searches : ∀ fn, p.Searches fn → ∀ q, (fn q).Sound id

/-- Every provider registered is sound. -/
def AllSound (providers : Dict String Provider) : Prop :=
  ∀ id p, providers.get? id = some p → p.Sound id

section Tasks
variable {st : ProviderSettings} {providers : Dict String Provider} {kind : Kind} {code : String}

theorem mem_task {call : Provider → Outcome} {enabled : Bool} {id : String} {t : String × Outcome} :
    t ∈ task providers call enabled id ↔
      enabled = true ∧ ∃ p, providers.get? id = some p ∧ t = (id, call p) := by
  unfold task
  split_ifs with henabled
  · cases hp : providers.get? id with
    | none => simp
    | some p => simp [henabled]
  · simp [henabled]

/-- A task awaits the code lookup of a registered provider. -/
theorem codeLookup_of_mem_tasks {t : String × Outcome} (h : t ∈ tasks st providers kind code) :
    ∃ p, providers.get? t.1 = some p ∧ t.2 = codeLookup kind code p := by
  cases kind <;>
  · simp only [tasks, isrcTasks, upcTasks, sharedTasks, List.mem_append, mem_task] at h
    rcases h with ((⟨-, p, hp, rfl⟩ | ⟨-, p, hp, rfl⟩) | ⟨-, p, hp, rfl⟩) | ⟨-, p, hp, rfl⟩ <;>
      exact ⟨p, hp, rfl⟩

theorem searches_of_freeText {id : String} {fn : String → Outcome} (h : freeText providers id = some fn) :
    ∃ p, providers.get? id = some p ∧ p.Searches fn := by
  unfold freeText at h
  split_ifs at h
  · obtain ⟨p, hp, hfn⟩ := Option.bind_eq_some_iff.mp h
    exact ⟨p, hp, Or.inl hfn⟩
  · obtain ⟨p, hp, hfn⟩ := Option.bind_eq_some_iff.mp h
    exact ⟨p, hp, Or.inr hfn⟩

theorem AllSound.searchesCarryId (h : AllSound providers) : SearchesCarryId providers := by
  intro id fn q hfn
  obtain ⟨p, hp, hsearches⟩ := searches_of_freeText hfn
  exact ((h id p hp).searches fn hsearches q).carriesId

theorem AllSound.answers (h : AllSound providers) : Answers st providers kind code := by
  have htask : ∀ t ∈ tasks st providers kind code, t.2.Sound t.1 := fun t ht => by
    obtain ⟨p, hp, hcall⟩ := codeLookup_of_mem_tasks ht
    rw [hcall]
    exact (h t.1 p hp).codes kind code
  refine ⟨fun t ht => (htask t ht).answer, fun t ht => (htask t ht).carriesId, fun id fn q hfn => ?_⟩
  obtain ⟨p, hp, hsearches⟩ := searches_of_freeText hfn
  exact ((h id p hp).searches fn hsearches q).answer

/-- The last rows of a lookup among sound providers carry their ids. -/
theorem AllSound.provider_final (h : AllSound providers) {final : String × Outcome → ProviderEntry}
    (hfinal : ∀ t ∈ tasks st providers kind code, final t = ownRow t ∨
      (ownRow t).found = false ∧ (final t).found ∧
        FoundByHint providers ((tasks st providers kind code).map ownRow) t.1 (final t)) :
    ∀ t ∈ tasks st providers kind code, (final t).provider = t.1 := fun t ht =>
  LookupService.provider_final h.answers h.searchesCarryId ht ((hfinal t ht).imp id fun h => h.2.2)

end Tasks

/-! ### The providers of the application -/

/-- What awaiting a method of a provider gives: what its code raises is an `Exception`. -/
def outcome : Except PyError ProviderEntry → Outcome
  | .ok entry => .ok entry
  | .error e => .error (.exception e.text)

/-- The answers of the upstreams during one lookup. -/
structure Upstreams where
  musicbrainz : MusicBrainz.Query → Fetched
  deezer : Deezer.Request → Fetched
  discogs : Discogs.Request → Fetched

section Catalogue
variable (cf : CaseFolding) (isPrintable : Char → Bool) (up : Upstreams) (wikidata openLibrary : Provider)

/-- `MusicBrainzProvider`. -/
def musicbrainz : Provider where
  lookupIsrc code := outcome (MusicBrainz.lookupIsrc cf isPrintable up.musicbrainz code)
  lookupUpc code := outcome (MusicBrainz.lookupUpc isPrintable up.musicbrainz code)
  lookupFreeText := none
  lookupReleaseFreeText := none

/-- `DeezerProvider`. -/
def deezer : Provider where
  lookupIsrc code := outcome (Deezer.lookupIsrc isPrintable up.deezer code)
  lookupUpc code := outcome (Deezer.lookupUpc isPrintable up.deezer code)
  lookupFreeText := some fun query => outcome (Deezer.lookupFreeText isPrintable up.deezer query)
  lookupReleaseFreeText := none

/-- `DiscogsProvider`. -/
def discogs : Provider where
  lookupIsrc code := outcome (Discogs.lookupIsrc isPrintable up.discogs code)
  lookupUpc code := outcome (Discogs.lookupUpc isPrintable up.discogs code)
  lookupFreeText := none
  lookupReleaseFreeText := some fun query =>
    outcome (Discogs.lookupReleaseFreeText isPrintable up.discogs query)

/-- `{p.id: p for p in providers}`, for the providers that `lifespan` makes. -/
def catalogue : Dict String Provider :=
  Dict.ofList [(MusicBrainz.providerId, musicbrainz cf isPrintable up),
    (Deezer.providerId, deezer isPrintable up), (Discogs.providerId, discogs isPrintable up),
    ("wikidata", wikidata), ("open_library", openLibrary)]

end Catalogue

end LookupAggregator.LookupService
