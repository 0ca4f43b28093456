import LookupAggregator.App.RequestId
import LookupAggregator.Lib.Fields

/-! # The origins of a configuration

`Settings.cors_origins_for_middleware`: the origins that `CORS_ALLOW_ORIGINS` lists, for `CORSMiddleware`.
`cors_origins`: which settings list none, which origins the others list, and that origins which are written
with commas between them are read back. -/

namespace LookupAggregator.App

open Lib Py

/-- Not empty, with no white space at the ends, and without a comma. -/
structure IsOrigin (origin : String) : Prop where
  ne_empty : origin ≠ ""
  stripped : strip origin = origin
  not_mem : ',' ∉ origin.toList

/-- The origin stands in the setting, between commas or ends, with white space around it. -/
def ListedIn (setting origin : String) : Prop :=
  ∃ pre b b' post, EndsField ',' pre ∧ (∀ c ∈ b, isSpace c = true) ∧ (∀ c ∈ b', isSpace c = true) ∧
    BeginsField ',' post ∧ setting.toList = pre ++ b ++ origin.toList ++ b' ++ post

/-- The origins that are read from the setting. -/
def originsOf (limit : ℤ) (setting : String) : Option (List String) :=
  AppSettings.corsOriginsForMiddleware ⟨limit, setting⟩

theorem isField_toList_iff {origin : String} : IsField ',' isSpace origin.toList ↔ IsOrigin origin := by
  have htrim : trim isSpace origin.toList = origin.toList ↔ strip origin = origin := by
    rw [← String.toList_inj, strip, String.toList_ofList]
    rfl
  have hne : origin.toList ≠ [] ↔ origin ≠ "" := by simp
  exact ⟨fun h => ⟨hne.mp h.ne_nil, htrim.mp h.trimmed, h.not_mem⟩,
    fun h => ⟨hne.mpr h.ne_empty, h.not_mem, htrim.mpr h.stripped⟩⟩

/-- **The origins are the fields of the setting**: the cases of the code for an empty setting and for `*`
are no different from the others, and that the whole is stripped first changes nothing. -/
theorem originsOf_eq (limit : ℤ) (setting : String) : originsOf limit setting =
    match (fields ',' isSpace setting.toList).map String.ofList with
    | [] => none
    | origins => some origins := by
  have hfields (s : String) : ((s.toList.splitOn ',').map fun p => strip (String.ofList p)).filter (· ≠ "") =
      (fields ',' isSpace s.toList).map String.ofList := by
    have hmap : ((s.toList.splitOn ',').map fun p => strip (String.ofList p)) =
        ((s.toList.splitOn ',').map (trim isSpace)).map String.ofList := by
      rw [List.map_map]
      exact List.map_congr_left fun w _ => by rw [strip, String.toList_ofList]; rfl
    rw [hmap, List.filter_map, fields]
    congr 2
    funext w
    simp
  have hstrip : fields ',' isSpace (strip setting).toList = fields ',' isSpace setting.toList := by
    rw [strip, String.toList_ofList]
    exact fields_trim (by decide) setting.toList
  unfold originsOf AppSettings.corsOriginsForMiddleware
  dsimp only
  rw [hfields, ← hstrip]
  split_ifs with hempty hstar
  · have hnil : fields ',' isSpace (strip setting).toList = [] := by simp [hempty, fields_eq_nil_iff]
    rw [hnil]
    rfl
  · have hone : fields ',' isSpace ("*".toList) = [['*']] := by decide +kernel
    rw [hstar, hone]
    rfl
  · cases (fields ',' isSpace (strip setting).toList).map String.ofList <;> rfl

/-- Which settings list no origin. -/
theorem originsOf_eq_none_iff (limit : ℤ) (setting : String) :
    originsOf limit setting = none ↔ ∀ c ∈ setting.toList, isSpace c = true ∨ c = ',' := by
  rw [originsOf_eq, ← fields_eq_nil_iff]
  cases fields ',' isSpace setting.toList <;> simp

/-- Which origins a setting lists. -/
theorem mem_originsOf_iff (limit : ℤ) (setting origin : String) :
    (∃ origins, originsOf limit setting = some origins ∧ origin ∈ origins) ↔
      IsOrigin origin ∧ ListedIn setting origin := by
  have hmem : (∃ origins, originsOf limit setting = some origins ∧ origin ∈ origins) ↔
      origin.toList ∈ fields ',' isSpace setting.toList := by
    have hofList (ws : List (List Char)) : origin ∈ ws.map String.ofList ↔ origin.toList ∈ ws := by
      rw [List.mem_map]
      exact ⟨fun ⟨w, hw, he⟩ => by rwa [← he, String.toList_ofList], fun h => ⟨_, h, String.ofList_toList⟩⟩
    rw [originsOf_eq, ← hofList]
    cases (fields ',' isSpace setting.toList).map String.ofList <;> simp
  rw [hmem, mem_fields_iff (by decide), isField_toList_iff, ListedIn]

/-- **Origins with commas between them are read back.** -/
theorem originsOf_intercalate (limit : ℤ) {origins : List String} (hne : origins ≠ [])
    (h : ∀ origin ∈ origins, IsOrigin origin) : originsOf limit (",".intercalate origins) = some origins := by
  have hfields : ∀ w ∈ origins.map String.toList, IsField ',' isSpace w := by
    intro w hw
    obtain ⟨origin, hmem, rfl⟩ := List.mem_map.mp hw
    exact isField_toList_iff.mpr (h origin hmem)
  have hread : (fields ',' isSpace (",".intercalate origins).toList).map String.ofList = origins := by
    rw [String.toList_intercalate, show (",").toList = [','] by decide, fields_intercalate hfields,
      List.map_map]
    exact (List.map_congr_left fun origin _ => String.ofList_toList).trans (List.map_id _)
  rw [originsOf_eq, hread]
  cases origins with
  | nil => exact absurd rfl hne
  | cons origin origins => rfl

/-- **The origins of a configuration.** A setting lists none exactly if it has nothing but commas and white
space in it; else it lists what stands between its commas, without the white space around it. Exactly the
lists of origins without a comma and without white space at their ends, not all empty, are read from some
setting, and such a list is read back from the setting that has commas between them. -/
theorem cors_origins (limit : ℤ) :
    (∀ setting, originsOf limit setting = none ↔ ∀ c ∈ setting.toList, isSpace c = true ∨ c = ',') ∧
    (∀ setting origin, (∃ origins, originsOf limit setting = some origins ∧ origin ∈ origins) ↔
      IsOrigin origin ∧ ListedIn setting origin) ∧
    (∀ origins, (∃ setting, originsOf limit setting = some origins) ↔
      origins ≠ [] ∧ ∀ origin ∈ origins, IsOrigin origin) ∧
    ∀ origins, origins ≠ [] → (∀ origin ∈ origins, IsOrigin origin) →
      originsOf limit (",".intercalate origins) = some origins := by
  refine ⟨originsOf_eq_none_iff limit, mem_originsOf_iff limit, fun origins => ⟨?_, ?_⟩,
    fun origins => originsOf_intercalate limit⟩
  · rintro ⟨setting, hread⟩
    refine ⟨?_, fun origin hmem => ((mem_originsOf_iff limit setting origin).mp ⟨origins, hread, hmem⟩).1⟩
    rintro rfl
    rw [originsOf_eq] at hread
    cases hfields : (fields ',' isSpace setting.toList).map String.ofList <;> rw [hfields] at hread <;>
      cases hread
  · rintro ⟨hne, horigins⟩
    exact ⟨_, originsOf_intercalate limit hne horigins⟩

example : originsOf 0 " https://a.example ,, http://b.example:80\n" =
    some ["https://a.example", "http://b.example:80"] := by decide +kernel

end LookupAggregator.App
