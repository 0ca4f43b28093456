import Mathlib.Data.Int.Notation

/-! # JSON values -/

namespace LookupAggregator.Py

/-- What `response.json()` returns. A float is kept as its text, an object as its items in order. -/
inductive Json
  | null
  | bool (b : Bool)
  | int (n : ℤ)
  | float (text : String)
  | str (s : String)
  | arr (items : List Json)
  | obj (items : List (String × Json))

end LookupAggregator.Py
