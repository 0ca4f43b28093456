import LookupAggregator.Normalize
import LookupAggregator.Schemas
import LookupAggregator.Py.Value

/-! # What the catalogue providers share

The outcome of a request, as the code of a provider sees it, and `app/providers/base.py`. A provider is
modelled over the answers of its upstream, which are arbitrary; what its code raises is a `PyError`.

`FillsIn` and `RawAfter` say what attaching the answer to a second request may do to an entry. -/

namespace LookupAggregator.Providers

open Lib Py Normalize

/-! ### Outcomes of a request -/

/-- How a request fails: by an `httpx.HTTPError`, which `raise_for_status()` raises as well, or by another
exception, which `json()` raises as well, each with its text. -/
inductive FetchError
  | httpError (text : String)
  | exception (text : String)

/-- The outcome of `resilient_get`, `raise_for_status()` and `json()`. -/
abbrev Fetched := Except FetchError Json

/-- The error text of an entry whose search failed. -/
def FetchError.text : FetchError → String
  | httpError text => "HTTP error: " ++ text
  | exception text => text

/-- The request was answered. -/
def Answered (answer : Fetched) : Prop := ∃ data, answer = .ok data

/-- The error text an answer leaves, empty if none. -/
def failureText : Fetched → String
  | .ok _ => ""
  | .error e => e.text

/-- An entry with `found=False` and no error. -/
def miss (provider : String) (raw : Option Items) : ProviderEntry :=
  ⟨provider, false, none, none, none, none, none, raw⟩

/-- A clean miss. -/
def CleanMiss (entry : ProviderEntry) : Prop := entry.found = false ∧ entry.error = none

/-- `s or None`. -/
def orNone (s : String) : Option String := if s = "" then none else some s

/-- `entry.raw or {}`. -/
def rawItems (entry : ProviderEntry) : Items := entry.raw.getD []

/-- `{key: x.get(key) for key in keys}`, in the order of `keys`. -/
def columns (x : Json) (keys : List String) : Except PyError Items :=
  gather (fun key => do
    let v ← x.get key
    .ok [(key, v)]) keys

theorem returns_columns (d : Items) (keys : List String) : Returns (columns (.obj d) keys) fun _ => True :=
  returns_gather.mpr fun key _ => by simp

/-- `v.get(key) if isinstance(v, dict) else default`. -/
def getIfObj (v : Json) (key : String) (default : Json) : Except PyError Json :=
  if v.isObj then v.get key else .ok default

theorem returns_getIfObj (v : Json) (key : String) (default : Json) :
    Returns (getIfObj v key default) fun _ => True := by
  unfold getIfObj
  split_ifs with h
  · obtain ⟨d, rfl⟩ := Json.eq_obj_of_isObj h
    exact returns_ok.mpr trivial
  · exact returns_ok.mpr trivial

/-- `isinstance(v, list) and v`. -/
def nonEmptyList (v : Json) : Bool := v.isArr && v.truthy

theorem rawItems_of_raw {entry : ProviderEntry} {raw : Items} (h : entry.raw = some raw) :
    rawItems entry = raw := by rw [rawItems, h, Option.getD_some]

section Str
variable (isPrintable : Char → Bool)

/-- `collapse_ws(str(v))`. -/
def collapsed (v : Json) : String := collapseWs (v.text isPrintable)

/-! ### Raw fragments -/

/-- The characters of a raw fragment, as `str` gives them. -/
def rawLimit : ℕ := 12000

/-- `len(str(out))`. -/
def rawLength (out : Items) : ℕ := ((Json.obj out).text isPrintable).length

/-- What stands for a raw fragment that is too long. -/
def truncated (out : Items) : Items :=
  [("_truncated", .bool true),
    ("preview", .str (String.ofList (((Json.obj out).text isPrintable).toList.take rawLimit)))]

/-- `safe_raw_fragment(data)`. -/
def safeRawFragment (data : Json) : Items :=
  let out := match data with
    | .obj items => items
    | v => [("value", v)]
  if rawLimit < rawLength isPrintable out then truncated isPrintable out else out

theorem safeRawFragment_obj (out : Items) : safeRawFragment isPrintable (.obj out) =
    if rawLimit < rawLength isPrintable out then truncated isPrintable out else out := rfl

/-- A fragment is no shorter than a value in it. -/
theorem length_repr_le_rawLength {out : Items} {key : String} {v : Json} (h : (key, v) ∈ out) :
    (v.repr isPrintable).length ≤ rawLength isPrintable out := by
  have htext : (Json.obj out).text isPrintable = String.ofList ((Json.obj out).repr isPrintable) := rfl
  rw [rawLength, htext, String.length_ofList]
  exact length_repr_le_of_mem isPrintable h

/-- A key that is neither in a dictionary nor in what stands for a long one. -/
theorem lookup_raw_none {entry : ProviderEntry} {out : Items} {key : String}
    (hraw : entry.raw = some (safeRawFragment isPrintable (.obj out))) (hkey : key ∉ ["_truncated", "preview"])
    (h : out.lookup key = none) : (rawItems entry).lookup key = none := by
  rw [rawItems_of_raw hraw, safeRawFragment_obj]
  split_ifs
  · rw [List.lookup_eq_none_iff]
    intro e he
    have hmem : e.1 ∈ ["_truncated", "preview"] := List.mem_map_of_mem (f := Prod.fst) he
    exact bne_iff_ne.mpr fun heq => hkey (heq ▸ hmem)
  · exact h

/-! ### Rows of an answer -/

/-- `[str(x["name"])]` of an object with a name, else nothing. -/
def nameOf (x : Json) : Except PyError (List String) :=
  if x.isObj then do
    let name ← x.get "name"
    if name.truthy then .ok [name.text isPrintable] else .ok []
  else .ok []

/-- What `nameOf` gives. -/
def namesOf : Json → List String
  | .obj d => if (lookup d "name").truthy then [(lookup d "name").text isPrintable] else []
  | _ => []

theorem nameOf_eq (x : Json) : nameOf isPrintable x = .ok (namesOf isPrintable x) := by
  cases x with
  | obj d =>
    have hobj : (Json.obj d).isObj = true := rfl
    rw [namesOf, nameOf, if_pos hobj, Json.get_obj]
    by_cases h : (lookup d "name").truthy = true
    · rw [if_pos h]
      exact if_pos h
    · rw [if_neg h]
      exact if_neg h
  | _ => rfl

theorem returns_nameOf (x : Json) : Returns (nameOf isPrintable x) fun _ => True := by
  rw [nameOf_eq]
  exact returns_ok.mpr trivial

/-! ### Attaching a second answer -/

/-- `entry'` is `base` with fields filled in: it is found, and it has every text of `base` that was not
empty. -/
structure FillsIn (base entry' : ProviderEntry) : Prop where
  provider : entry'.provider = base.provider
  found : entry'.found = true
  title : truthy base.title → entry'.title = base.title
  artist : truthy base.artist → entry'.artist = base.artist
  album : truthy base.album → entry'.album = base.album
  label : truthy base.label → entry'.label = base.label
  error : entry'.error = base.error

/-- A found entry fills itself in. -/
theorem FillsIn.refl {base : ProviderEntry} (h : base.found = true) : FillsIn base base :=
  ⟨rfl, h, fun _ => rfl, fun _ => rfl, fun _ => rfl, fun _ => rfl, rfl⟩

/-- What a second answer under `key` leaves of the fragment `raw`: all of it, where nothing is attached;
else every other key with its value, or only what stands for a fragment that is too long. -/
def RawAfter (key : String) (raw : Items) (entry : ProviderEntry) : Prop :=
  entry.raw = some raw ∨ ∃ merged, (∀ k, k ≠ key → merged.lookup k = raw.lookup k) ∧
    entry.raw = some (if rawLimit < rawLength isPrintable merged then truncated isPrintable merged else merged)

theorem rawAfter_setItem {key : String} {raw : Items} {entry : ProviderEntry} {detail : Json}
    (h : entry.raw = some (safeRawFragment isPrintable (.obj (setItem raw key detail)))) :
    RawAfter isPrintable key raw entry := by
  refine Or.inr ⟨setItem raw key detail, fun k hk => ?_, h⟩
  rw [lookup_setItem, if_neg hk]

end Str

end LookupAggregator.Providers
