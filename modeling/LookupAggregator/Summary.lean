import LookupAggregator.Normalize
import LookupAggregator.Schemas

/-! # The summary

`build_summary` counts the entries found and compares their titles and artists. -/

namespace LookupAggregator.Summary

open Py Normalize

/-- `[norm_compare(field(p)) for p in entries if field(p)]`. -/
def normalized (cf : CaseFolding) (field : ProviderEntry → Option String) (entries : List ProviderEntry) :
    List String :=
  (entries.filter fun p => truthy (field p)).map fun p => normCompare cf (field p)

/-- `bool(texts[0]) and all(t == texts[0] for t in texts)`, of a list that is not empty. -/
def agree (texts : List String) : Bool :=
  match texts with
  | [] => false
  | t :: _ => t ≠ "" ∧ texts.all (· = t)

/-- `build_summary(providers)`. -/
def buildSummary (cf : CaseFolding) (providers : List ProviderEntry) : SummaryBlock :=
  let foundEntries := providers.filter ProviderEntry.found
  let foundIn := foundEntries.length
  if foundIn = 0 then ⟨0, .low, none⟩
  else if foundIn = 1 then ⟨1, .medium, none⟩
  else
    let titles := normalized cf ProviderEntry.title foundEntries
    let artists := normalized cf ProviderEntry.artist foundEntries
    let titleAgree := decide (titles.length ≥ 2) && agree titles
    let artistAgree := decide (artists.length < 2) || agree artists
    if titleAgree && artistAgree then ⟨foundIn, .high, none⟩
    else if titleAgree || (titles.isEmpty && artistAgree) then
      ⟨foundIn, .medium, some "Partial agreement between providers."⟩
    else ⟨foundIn, .low, some "Metadata differs across providers."⟩

theorem foundIn_buildSummary (cf : CaseFolding) (providers : List ProviderEntry) :
    (buildSummary cf providers).foundIn = providers.countP ProviderEntry.found := by
  rw [List.countP_eq_length_filter]
  unfold buildSummary
  dsimp only
  split_ifs with h0 h1
  · exact h0.symm
  · exact h1.symm
  all_goals rfl

theorem buildSummary_eq_of_none (cf : CaseFolding) {providers : List ProviderEntry}
    (h : ∀ p ∈ providers, p.found = false) : buildSummary cf providers = ⟨0, .low, none⟩ := by
  have hnil : providers.filter ProviderEntry.found = [] :=
    List.filter_eq_nil_iff.mpr fun p hp => by simp [h p hp]
  unfold buildSummary
  rw [hnil]
  rfl

end LookupAggregator.Summary
