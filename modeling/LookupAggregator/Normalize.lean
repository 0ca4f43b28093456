import LookupAggregator.Py.Text

/-! # Normalisation

`collapse_ws` and `norm_compare` of `app/normalize.py`. -/

namespace LookupAggregator.Normalize

open Py

/-- `re.sub(r"\s+", " ", ...)`; `inRun` tells whether the character before was white space. -/
def collapseRuns (inRun : Bool) : List Char → List Char
  | [] => []
  | c :: cs =>
    if isSpace c then (if inRun then collapseRuns true cs else ' ' :: collapseRuns true cs)
    else c :: collapseRuns false cs

/-- `collapse_ws(s)` of a string. -/
def collapseWs (s : String) : String := String.ofList (collapseRuns false (stripWhile isSpace s.toList))

/-- `str.casefold()`, character by character: what is not white space folds to at least one character and
to no white space, and white space is left as it is. -/
structure CaseFolding where
  fold : Char → List Char
  fold_ne_nil : ∀ c, isSpace c = false → fold c ≠ []
  isSpace_of_mem_fold : ∀ c, isSpace c = false → ∀ d ∈ fold c, isSpace d = false
  fold_space : ∀ c, isSpace c → fold c = [c]

/-- `norm_compare(s)`. -/
def normCompare (cf : CaseFolding) (s : Option String) : String :=
  if truthy s then String.ofList ((collapseWs (s.getD "")).toList.flatMap cf.fold) else ""

/-- Case folding that changes no character. -/
def CaseFolding.id : CaseFolding where
  fold c := [c]
  fold_ne_nil := by simp
  isSpace_of_mem_fold c hc d hd := by rwa [List.mem_singleton.mp hd]
  fold_space _ _ := rfl

end LookupAggregator.Normalize
