import Mathlib.Data.List.Basic
import LookupAggregator.Py.Json

/-! # The response models

`app/schemas/lookup.py`, less the examples for the API documentation. -/

namespace LookupAggregator

/-- The two kinds of lookup. -/
inductive Kind
  | isrc
  | upc
deriving DecidableEq

/-- `ProviderEntry`. -/
structure ProviderEntry where
  provider : String
  found : Bool
  title : Option String
  artist : Option String
  album : Option String
  label : Option String
  error : Option String
  raw : Option (List (String × Py.Json))

/-- The values of `SummaryBlock.confidence`. -/
inductive Confidence
  | high
  | medium
  | low
deriving DecidableEq

/-- `SummaryBlock`. -/
structure SummaryBlock where
  foundIn : ℕ
  confidence : Confidence
  note : Option String
deriving DecidableEq

/-- `LookupResponse`. -/
structure LookupResponse where
  query : String
  providers : List ProviderEntry
  summary : SummaryBlock

/-- An entry with `found=False` and an error text. -/
def ProviderEntry.ofError (provider error : String) : ProviderEntry :=
  ⟨provider, false, none, none, none, none, some error, none⟩

end LookupAggregator
