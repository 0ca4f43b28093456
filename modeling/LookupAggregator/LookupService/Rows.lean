import LookupAggregator.Lib.Lists
import LookupAggregator.LookupService.Assemble

/-! # The rows of a response

One row is made for each task and stays at its place: gathering, refining and omitting neither lose,
double nor mix up an entry. The row of a task is its own answer, or, for Deezer and Discogs, the answer of
a free-text search in place of a miss (`lookup_faithful`). -/

namespace LookupAggregator.LookupService

open Lib Py Normalize Summary

/-! ### The tasks -/

/-- The order in which the two lookups create their tasks. -/
def fixedOrder : Kind → List String
  | .isrc => ["musicbrainz", "deezer", "discogs", "wikidata"]
  | .upc => ["musicbrainz", "deezer", "discogs", "open_library"]

/-- The ids of the tasks. -/
def ids (ts : List (String × Outcome)) : List String := ts.map Prod.fst

theorem nodup_fixedOrder (kind : Kind) : (fixedOrder kind).Nodup := by cases kind <;> decide

theorem ids_task_sublist (providers : Dict String Provider) (call : Provider → Outcome) (enabled : Bool)
    (id : String) : (ids (task providers call enabled id)).Sublist [id] := by
  unfold task
  split_ifs
  · split
    · exact List.Sublist.refl _
    · exact List.nil_sublist _
  · exact List.nil_sublist _

/-- **The tasks stand in the fixed order.** -/
theorem ids_tasks_sublist (st : ProviderSettings) (providers : Dict String Provider) (kind : Kind)
    (code : String) : (ids (tasks st providers kind code)).Sublist (fixedOrder kind) := by
  have hshared (call : Provider → Outcome) :
      (ids (sharedTasks st providers call)).Sublist ["musicbrainz", "deezer", "discogs"] := by
    unfold sharedTasks ids
    rw [List.map_append, List.map_append]
    exact ((ids_task_sublist _ _ _ _).append (ids_task_sublist _ _ _ _)).append (ids_task_sublist _ _ _ _)
  cases kind with
  | isrc =>
    unfold tasks isrcTasks ids
    rw [List.map_append]
    exact (hshared _).append (ids_task_sublist _ _ _ _)
  | upc =>
    unfold tasks upcTasks ids
    rw [List.map_append]
    exact (hshared _).append (ids_task_sublist _ _ _ _)

theorem nodup_ids (st : ProviderSettings) (providers : Dict String Provider) (kind : Kind)
    (code : String) : (ids (tasks st providers kind code)).Nodup :=
  (ids_tasks_sublist st providers kind code).nodup (nodup_fixedOrder kind)

/-! ### The row of a task -/

/-- An entry or an `Exception`. -/
def Outcome.IsAnswer : Outcome → Prop
  | .error (.baseException _) => False
  | _ => True

/-- An entry carries the id of its provider, or none. -/
def Outcome.CarriesId (id : String) : Outcome → Prop
  | .ok entry => entry.provider = id ∨ entry.provider = ""
  | .error _ => True

/-- The row that the code lookup of a task gives. -/
def ownRow (t : String × Outcome) : ProviderEntry := gatherRow (safeCall t.1 t.2)

@[simp] theorem found_fillId (id : String) (e : ProviderEntry) : (fillId id e).found = e.found := by
  unfold fillId; split_ifs <;> rfl

theorem provider_fillId {id : String} {e : ProviderEntry} (h : e.provider = id ∨ e.provider = "") :
    (fillId id e).provider = id := by
  unfold fillId
  split_ifs with he
  · rfl
  · exact h.resolve_right he

theorem provider_ownRow {t : String × Outcome} (ha : t.2.IsAnswer) (hid : t.2.CarriesId t.1) :
    (ownRow t).provider = t.1 := by
  obtain ⟨id, o⟩ := t
  rcases o with (text | text) | entry
  · rfl
  · exact ha.elim
  · exact provider_fillId hid

/-! ### Gathering -/

/-- **Gathering keeps the order of the tasks, whatever the order of completion.** -/
theorem gatherResults_eq {α : Type*} {n : ℕ} (c : Completion n) {results : List α}
    (h : results.length = n) : gatherResults c results = results := by
  have hplaces : c.order.foldl (fun places i => places.set i results[i]?) (List.replicate n none) =
      results.map some := by
    refine List.ext_getElem? fun i => ?_
    rw [getElem?_foldl_set, List.getElem?_map]
    simp only [c.perm.mem_iff, List.mem_range, List.length_replicate]
    by_cases hi : i < n
    · rw [if_pos ⟨hi, hi⟩, List.getElem?_eq_getElem (h ▸ hi)]
      rfl
    · rw [if_neg fun hn => hi hn.1, List.getElem?_eq_none (by simpa using hi),
        List.getElem?_eq_none (by omega)]
      rfl
  unfold gatherResults
  rw [hplaces, List.filterMap_map]
  exact List.filterMap_some

theorem gather_eq (ts : List (String × Outcome)) (c : Completion ts.length) :
    gather c ts = ts.map ownRow := by
  unfold gather
  rw [gatherResults_eq c (List.length_map _), List.map_map]
  rfl

/-! ### Rows by task -/

section Rows
variable {ts : List (String × Outcome)} {row : String × Outcome → ProviderEntry}

theorem index_unique (hnd : (ids ts).Nodup) {i j : ℕ} {t t' : String × Outcome} (hi : ts[i]? = some t)
    (hj : ts[j]? = some t') (he : t.1 = t'.1) : i = j := by
  have hi' : (ids ts)[i]? = some t.1 := by simp [ids, hi]
  have hj' : (ids ts)[j]? = some t'.1 := by simp [ids, hj]
  obtain ⟨hlt, -⟩ := List.getElem?_eq_some_iff.mp hi'
  exact (List.getElem?_inj hlt hnd).mp (by rw [hi', hj', he])

/-- The task of the row of a provider. -/
theorem exists_of_byId (hrow : ∀ t ∈ ts, (row t).provider = t.1) {id : String} {r : ProviderEntry × ℕ}
    (h : byId (ts.map row) id = some r) : ∃ t, ts[r.2]? = some t ∧ t.1 = id ∧ row t = r.1 := by
  have hid := List.find?_some h
  have hm := List.mem_of_find?_eq_some h
  rw [List.mem_reverse, List.mem_zipIdx_iff_getElem?, List.getElem?_map] at hm
  obtain ⟨t, ht, he⟩ := Option.map_eq_some_iff.mp hm
  rw [← he, hrow t (List.mem_of_getElem? ht)] at hid
  exact ⟨t, ht, by simpa using hid, he⟩

/-- Setting the row of one task. -/
theorem set_map (hnd : (ids ts).Nodup) {i : ℕ} {t : String × Outcome} (ht : ts[i]? = some t)
    (e : ProviderEntry) :
    (ts.map row).set i e = ts.map fun t' => if t'.1 = t.1 then e else row t' := by
  refine List.ext_getElem? fun j => ?_
  rw [List.getElem?_set, List.getElem?_map, List.getElem?_map]
  by_cases hij : i = j
  · subst hij
    obtain ⟨hlt, rfl⟩ := List.getElem?_eq_some_iff.mp ht
    simp [hlt]
  · rw [if_neg hij]
    cases hj : ts[j]? with
    | none => rfl
    | some t' =>
      have hne : t'.1 ≠ t.1 := fun he => hij (index_unique hnd ht hj he.symm)
      simp [hne]

end Rows

/-! ### Refining -/

/-- The free-text search of a provider that has one. -/
def freeText (providers : Dict String Provider) (id : String) : Option (String → Outcome) :=
  if id = "deezer" then (providers.get? id).bind Provider.lookupFreeText
  else if id = "discogs" then (providers.get? id).bind Provider.lookupReleaseFreeText
  else none

theorem freeText_id {providers : Dict String Provider} {id : String} {fn : String → Outcome}
    (h : freeText providers id = some fn) : id = "deezer" ∨ id = "discogs" := by
  unfold freeText at h
  split_ifs at h with h1 h2
  · exact .inl h1
  · exact .inr h2

theorem mem_refinement {providers : Dict String Provider} {rows : List ProviderEntry} {q id : String}
    {enabled : Bool} {search : Provider → Option (String → Outcome)} {r : String × Outcome}
    (h : r ∈ refinement providers rows q enabled id search) :
    ∃ p fn x, providers.get? id = some p ∧ search p = some fn ∧ byId rows id = some x ∧ r = (id, fn q) := by
  unfold refinement at h
  split_ifs at h
  · split at h
    · next p row i hp hrow =>
      split_ifs at h
      · cases h
      · split at h
        · next fn hfn => exact ⟨p, fn, _, hp, hfn, hrow, List.mem_singleton.mp h⟩
        · cases h
    · cases h
  · cases h

/-- What is searched for, and by which provider. -/
theorem mem_refinements {st : ProviderSettings} {providers : Dict String Provider}
    {rows : List ProviderEntry} {q : String} {r : String × Outcome}
    (h : r ∈ refinements st providers rows q) :
    ∃ fn x, freeText providers r.1 = some fn ∧ byId rows r.1 = some x ∧ r.2 = fn q := by
  rcases List.mem_append.mp h with h | h
  · obtain ⟨p, fn, x, hp, hfn, hx, rfl⟩ := mem_refinement h
    exact ⟨fn, x, by simp [freeText, hp, hfn], hx, rfl⟩
  · obtain ⟨p, fn, x, hp, hfn, hx, rfl⟩ := mem_refinement h
    exact ⟨fn, x, by simp [freeText, hp, hfn], hx, rfl⟩

theorem found_of_hintOf {p : ProviderEntry} {hint : String × Option String} (h : hintOf p = some hint) :
    p.found := by
  unfold hintOf at h
  by_cases hf : p.found ∧ (truthy p.title ∨ truthy p.album)
  · exact hf.1
  · rw [if_neg hf] at h
    cases h

/-- The hint comes from one row. -/
theorem exists_of_hintTitleArtist {rows : List ProviderEntry} {hint : String × Option String}
    (h : hintTitleArtist rows = some hint) : ∃ src ∈ rows, hintOf src = some hint := by
  unfold hintTitleArtist at h
  split at h
  · next x hx =>
    cases h
    obtain ⟨id, -, hid⟩ := List.exists_of_findSome?_eq_some hx
    obtain ⟨r, hr, hsrc⟩ := Option.bind_eq_some_iff.mp hid
    have hm := List.mem_of_find?_eq_some hr
    rw [List.mem_reverse, List.mem_zipIdx_iff_getElem?] at hm
    exact ⟨r.1, List.mem_of_getElem? hm, hsrc⟩
  · exact List.exists_of_findSome?_eq_some h

section Refine
variable {ts : List (String × Outcome)} {own : String × Outcome → ProviderEntry}

/-- What refining may do to the row of `t`: leave it, or replace a miss by what was found. -/
def RefinedTo (r : List (String × Outcome)) (t : String × Outcome) (before after : ProviderEntry) : Prop :=
  after = before ∨ before.found = false ∧ after.found ∧ ∃ o ∈ r, o.1 = t.1 ∧
    ∃ e, o.2 = .ok e ∧ after = fillId t.1 e

theorem refine_ok {rows merged : List ProviderEntry} {id : String} {o : Outcome} {e x m : ProviderEntry}
    {i : ℕ} (hs : safeCall id o = .ok e) (hb : byId rows id = some (x, i)) (hm : merged[i]? = some m) :
    refine rows merged (id, o) = .ok (if e.found ∧ m.found = false then merged.set i e else merged) := by
  unfold refine
  rw [hs, hb]
  dsimp only
  rw [hm]
  simp only [Option.any_some, Bool.not_eq_true', apply_ite Except.ok]

/-- **One round changes at most the row of its provider.** -/
theorem refine_rows (row : String × Outcome → ProviderEntry) (hnd : (ids ts).Nodup)
    (hown : ∀ t ∈ ts, (own t).provider = t.1)
    {r : String × Outcome} (hr : r.2.IsAnswer) (hsome : (byId (ts.map own) r.1).isSome) :
    ∃ row', refine (ts.map own) (ts.map row) r = .ok (ts.map row') ∧
      ∀ t ∈ ts, RefinedTo [r] t (row t) (row' t) := by
  obtain ⟨id, o⟩ := r
  obtain ⟨⟨x, i⟩, hx⟩ := Option.isSome_iff_exists.mp hsome
  obtain ⟨t, ht, hid, -⟩ := exists_of_byId hown hx
  dsimp only at hx ht hid
  have hi : (ts.map row)[i]? = some (row t) := by rw [List.getElem?_map, ht]; rfl
  obtain ⟨e, hs⟩ : ∃ e, safeCall id o = .ok e := by
    rcases o with (text | text) | e
    · exact ⟨_, rfl⟩
    · exact hr.elim
    · exact ⟨_, rfl⟩
  rw [refine_ok hs hx hi]
  split_ifs with hf
  · refine ⟨fun t' => if t'.1 = t.1 then e else row t', by rw [set_map hnd ht], fun t' ht' => ?_⟩
    by_cases he : t'.1 = t.1
    · obtain ⟨j, hj⟩ := List.getElem?_of_mem ht'
      obtain rfl := index_unique hnd hj ht he
      rw [hj, Option.some.injEq] at ht
      subst ht
      -- an exception makes no entry that is found
      rcases o with (text | text) | e'
      · cases hs
        cases hf.1
      · cases hs
      · cases hs
        refine .inr ⟨hf.2, by simpa using hf.1, _, List.mem_singleton_self _, hid.symm, e', rfl, ?_⟩
        simp [hid]
    · simp [he, RefinedTo]
  · exact ⟨row, rfl, fun _ _ => .inl rfl⟩

/-- **All rounds together.** -/
theorem foldlM_refine_rows (row : String × Outcome → ProviderEntry) (hnd : (ids ts).Nodup)
    (hown : ∀ t ∈ ts, (own t).provider = t.1)
    {rs : List (String × Outcome)} (hrs : ∀ r ∈ rs, r.2.IsAnswer ∧ (byId (ts.map own) r.1).isSome) :
    ∃ row', rs.foldlM (refine (ts.map own)) (ts.map row) = .ok (ts.map row') ∧
      ∀ t ∈ ts, RefinedTo rs t (row t) (row' t) := by
  induction rs generalizing row with
  | nil => exact ⟨row, rfl, fun _ _ => .inl rfl⟩
  | cons r rs ih =>
    obtain ⟨⟨ha, hx⟩, hrs⟩ := List.forall_mem_cons.mp hrs
    obtain ⟨row₁, h₁, hrow₁⟩ := refine_rows row hnd hown ha hx
    obtain ⟨row₂, h₂, hrow₂⟩ := ih row₁ hrs
    refine ⟨row₂, by rw [List.foldlM_cons, h₁]; exact h₂, fun t ht => ?_⟩
    rcases hrow₁ t ht with he | ⟨hf, hf', o, ho, hid, e, hoe, he⟩
    · rcases hrow₂ t ht with he' | ⟨hf, hf', o, ho, hid, e, hoe, he'⟩
      · exact .inl (he'.trans he)
      · rw [he] at hf
        exact .inr ⟨hf, hf', o, List.mem_cons_of_mem _ ho, hid, e, hoe, he'⟩
    · rcases hrow₂ t ht with he' | ⟨hmiss, -⟩
      · obtain rfl := List.mem_singleton.mp ho
        rw [he']
        exact .inr ⟨hf, hf', o, List.mem_cons_self, hid, e, hoe, he⟩
      · -- a row once found is not replaced again
        rw [hmiss] at hf'
        cases hf'

end Refine

/-! ### The response -/

/-- The code lookups give entries with their provider's id or none, or `Exception`s; the free-text
searches give entries or `Exception`s. -/
structure Answers (st : ProviderSettings) (providers : Dict String Provider) (kind : Kind)
    (code : String) : Prop where
  answers : ∀ t ∈ tasks st providers kind code, t.2.IsAnswer
  ids : ∀ t ∈ tasks st providers kind code, t.2.CarriesId t.1
  searches : ∀ id fn q, freeText providers id = some fn → (fn q).IsAnswer

/-- The free-text searches give entries with their provider's id or none. -/
def SearchesCarryId (providers : Dict String Provider) : Prop :=
  ∀ id fn q, freeText providers id = some fn → (fn q).CarriesId id

/-- `e` is what the free-text search of the provider `id` gave for the title (or album) and the artist of
one of `rows` that was found. -/
def FoundByHint (providers : Dict String Provider) (rows : List ProviderEntry) (id : String)
    (e : ProviderEntry) : Prop :=
  ∃ src ∈ rows, ∃ title artist fn found, src.found ∧ hintOf src = some (title, artist) ∧
    freeText providers id = some fn ∧ fn (deezerDiscogsHintQuery title artist) = .ok found ∧
    e = fillId id found

/-- **What a response lists**, `final` being the last row of each task. -/
structure Faithful (st : ProviderSettings) (providers : Dict String Provider) (kind : Kind)
    (code : String) (final : String × Outcome → ProviderEntry) (response : LookupResponse) : Prop where
  query : response.query = code
  /-- One row for each task, in their order, less those with nothing but an error. -/
  listed : response.providers = ((tasks st providers kind code).map final).filter fun e => !onlyError e
  /-- What was found by code is listed as it was returned. -/
  found : ∀ t ∈ tasks st providers kind code, ∀ e, t.2 = .ok e → e.found →
    final t = fillId t.1 e ∧ fillId t.1 e ∈ response.providers
  /-- Only a miss of Deezer or Discogs is replaced, by what was found with a hint. -/
  changed : ∀ t ∈ tasks st providers kind code, final t ≠ ownRow t →
    (t.1 = "deezer" ∨ t.1 = "discogs") ∧ (ownRow t).found = false ∧ (final t).found ∧
      FoundByHint providers ((tasks st providers kind code).map ownRow) t.1 (final t)
  /-- No provider twice, and all in the fixed order. -/
  order : SearchesCarryId providers → (response.providers.map (·.provider)).Sublist (fixedOrder kind)
  /-- A provider is missing exactly when it failed in the end. -/
  absent : SearchesCarryId providers → ∀ t ∈ tasks st providers kind code,
    t.1 ∉ response.providers.map (·.provider) ↔ onlyError (final t)

section Response
variable {st : ProviderSettings} {providers : Dict String Provider} {kind : Kind} {code : String}

/-- **Refining the rows of the tasks.** -/
theorem refineByTitleHint_rows (h : Answers st providers kind code) :
    ∃ final, refineByTitleHint st providers ((tasks st providers kind code).map ownRow) =
        .ok ((tasks st providers kind code).map final) ∧
      ∀ t ∈ tasks st providers kind code, final t = ownRow t ∨
        (ownRow t).found = false ∧ (final t).found ∧
          FoundByHint providers ((tasks st providers kind code).map ownRow) t.1 (final t) := by
  have hown : ∀ t ∈ tasks st providers kind code, (ownRow t).provider = t.1 :=
    fun t ht => provider_ownRow (h.answers t ht) (h.ids t ht)
  unfold refineByTitleHint
  split
  · exact ⟨ownRow, rfl, fun _ _ => .inl rfl⟩
  · next title artist hhint =>
    obtain ⟨src, hsrc, hint⟩ := exists_of_hintTitleArtist hhint
    obtain ⟨final, hok, hfinal⟩ := foldlM_refine_rows ownRow
      (nodup_ids st providers kind code) hown (fun r hr => by
        obtain ⟨fn, x, hfn, hx, he⟩ := mem_refinements hr
        rw [he]
        exact ⟨h.searches _ _ _ hfn, by rw [hx]; rfl⟩)
    refine ⟨final, hok, fun t ht => (hfinal t ht).imp id ?_⟩
    rintro ⟨hmiss, hf, r, hr, hid, e, hoe, he⟩
    obtain ⟨fn, -, hfn, -, hq⟩ := mem_refinements hr
    rw [hid] at hfn
    exact ⟨hmiss, hf, src, hsrc, title, artist, fn, e, found_of_hintOf hint, hint, hfn,
      hq.symm.trans hoe, he⟩

/-- The last row of a task carries the id of its provider. -/
theorem provider_final (h : Answers st providers kind code) (hs : SearchesCarryId providers)
    {t : String × Outcome} (ht : t ∈ tasks st providers kind code) {e : ProviderEntry}
    (he : e = ownRow t ∨ FoundByHint providers ((tasks st providers kind code).map ownRow) t.1 e) :
    e.provider = t.1 := by
  rcases he with rfl | ⟨src, -, title, artist, fn, found, -, -, hfn, hq, rfl⟩
  · exact provider_ownRow (h.answers t ht) (h.ids t ht)
  · have := hs t.1 fn (deezerDiscogsHintQuery title artist) hfn
    rw [hq] at this
    exact provider_fillId this

/-- No provider has two tasks. -/
theorem task_unique {t t' : String × Outcome} (ht : t ∈ tasks st providers kind code)
    (ht' : t' ∈ tasks st providers kind code) (he : t.1 = t'.1) : t = t' := by
  obtain ⟨i, hi⟩ := List.getElem?_of_mem ht
  obtain ⟨j, hj⟩ := List.getElem?_of_mem ht'
  obtain rfl := index_unique (nodup_ids st providers kind code) hi hj he
  rw [hi, Option.some.injEq] at hj
  exact hj

/-- A row that is kept is that of its provider's task, and not only an error. -/
theorem row_of_kept {row : String × Outcome → ProviderEntry}
    (hrow : ∀ t ∈ tasks st providers kind code, (row t).provider = t.1) {t : String × Outcome}
    (ht : t ∈ tasks st providers kind code) {e : ProviderEntry}
    (he : e ∈ omitProvidersWithOnlyError ((tasks st providers kind code).map row))
    (hpe : e.provider = t.1) : e = row t ∧ onlyError e = false := by
  obtain ⟨hm, hkeep⟩ := List.mem_filter.mp he
  obtain ⟨t', ht', rfl⟩ := List.mem_map.mp hm
  rw [hrow t' ht'] at hpe
  obtain rfl := task_unique ht' ht hpe
  exact ⟨rfl, by simpa using hkeep⟩

/-- The rows that are kept stand in the fixed order, none twice. -/
theorem kept_sublist {row : String × Outcome → ProviderEntry}
    (hrow : ∀ t ∈ tasks st providers kind code, (row t).provider = t.1) :
    ((omitProvidersWithOnlyError ((tasks st providers kind code).map row)).map (·.provider)).Sublist
      (fixedOrder kind) := by
  have hids : ((tasks st providers kind code).map row).map (·.provider) =
      ids (tasks st providers kind code) := by
    rw [List.map_map]
    exact List.map_congr_left hrow
  exact ((List.filter_sublist.map _).trans (hids ▸ List.Sublist.refl _)).trans
    (ids_tasks_sublist st providers kind code)

/-- The row of what was found is kept. -/
theorem kept_of_found {row : String × Outcome → ProviderEntry} {t : String × Outcome}
    (ht : t ∈ tasks st providers kind code) {e : ProviderEntry} (he : row t = fillId t.1 e)
    (hf : e.found) : fillId t.1 e ∈ omitProvidersWithOnlyError ((tasks st providers kind code).map row) := by
  refine List.mem_filter.mpr ⟨List.mem_map.mpr ⟨t, ht, he⟩, ?_⟩
  simp [onlyError, hf]

/-- The last row of a task whose code lookup found something. -/
theorem final_of_found {t : String × Outcome} {e e' : ProviderEntry} (hte : t.2 = .ok e) (hf : e.found)
    (h : e' = ownRow t ∨ (ownRow t).found = false) : e' = fillId t.1 e := by
  obtain ⟨id, o⟩ := t
  obtain rfl : o = .ok e := hte
  rcases h with he | hmiss
  · exact he
  · have : (fillId id e).found = false := hmiss
    rw [found_fillId, hf] at this
    cases this

/-- **A lookup that misses the cache returns the last rows of its tasks, less those with an error.** -/
theorem lookup_final (cf : CaseFolding) (h : Answers st providers kind code)
    (c : Completion (tasks st providers kind code).length) :
    ∃ final, lookup cf st providers kind code c none = .ok ⟨code,
        omitProvidersWithOnlyError ((tasks st providers kind code).map final),
        summaryWithDroppedErrors ((tasks st providers kind code).map final)
          (buildSummary cf (omitProvidersWithOnlyError ((tasks st providers kind code).map final)))⟩ ∧
      ∀ t ∈ tasks st providers kind code, final t = ownRow t ∨
        (ownRow t).found = false ∧ (final t).found ∧
          FoundByHint providers ((tasks st providers kind code).map ownRow) t.1 (final t) := by
  obtain ⟨final, hok, hfinal⟩ := refineByTitleHint_rows h
  exact ⟨final, by rw [lookup, assemble, gather_eq, hok], hfinal⟩

/-- **A lookup that misses the cache returns, and lists faithfully what its providers answered.** -/
theorem lookup_faithful (cf : CaseFolding) (h : Answers st providers kind code)
    (c : Completion (tasks st providers kind code).length) :
    ∃ response final, lookup cf st providers kind code c none = .ok response ∧
      Faithful st providers kind code final response := by
  obtain ⟨final, hok, hfinal⟩ := lookup_final cf h c
  have hid : SearchesCarryId providers → ∀ t ∈ tasks st providers kind code,
      (final t).provider = t.1 := fun hs t ht =>
    provider_final h hs ht ((hfinal t ht).imp id fun h => h.2.2)
  refine ⟨_, final, hok, rfl, rfl, fun t ht e hte hf => ?_, fun t ht hne => ?_, fun hs => ?_,
    fun hs t ht => ?_⟩
  · have he := final_of_found hte hf ((hfinal t ht).imp id And.left)
    exact ⟨he, kept_of_found ht he hf⟩
  · rcases hfinal t ht with he | ⟨hmiss, hf, hsrc⟩
    · exact absurd he hne
    · have hid : t.1 = "deezer" ∨ t.1 = "discogs" := by
        obtain ⟨src, -, title, artist, fn, found, -, -, hfn, -⟩ := hsrc
        exact freeText_id hfn
      exact ⟨hid, hmiss, hf, hsrc⟩
  · exact kept_sublist (hid hs)
  · constructor
    · intro habs
      by_contra hne
      refine habs (List.mem_map.mpr ⟨final t, List.mem_filter.mpr ⟨List.mem_map_of_mem ht, ?_⟩,
        hid hs t ht⟩)
      simpa using hne
    · intro herr hm
      obtain ⟨e, he, hpe⟩ := List.mem_map.mp hm
      obtain ⟨rfl, hkeep⟩ := row_of_kept (hid hs) ht he hpe
      exact absurd herr (by simp [hkeep])

end Response

/-- MusicBrainz finds the code; Deezer raises, and then finds the title. -/
def twoProviders : Dict String Provider :=
  (Dict.empty.set "musicbrainz"
    ⟨fun _ => .ok ⟨"musicbrainz", true, some "Song", some "Artist", none, none, none, none⟩,
      fun _ => .error (.exception ""), none, none⟩).set "deezer"
    ⟨fun _ => .error (.exception "timeout"), fun _ => .error (.exception ""),
      some fun q => .ok ⟨"", true, some q, none, none, none, none, none⟩, none⟩

theorem searches_twoProviders {id : String} {fn : String → Outcome} (q : String)
    (h : freeText twoProviders id = some fn) : (fn q).IsAnswer := by
  rcases freeText_id h with rfl | rfl
  · cases h
    trivial
  · cases h

/-- Both providers, Deezer completing first. -/
theorem lookup_faithful_two : ∃ response final,
    lookup .id ⟨true, true, false, false, false⟩ twoProviders .isrc "USRC17607839" ⟨[1, 0], by decide⟩
      none = .ok response ∧
    Faithful ⟨true, true, false, false, false⟩ twoProviders .isrc "USRC17607839" final response := by
  have htasks : tasks ⟨true, true, false, false, false⟩ twoProviders .isrc "USRC17607839" =
      [("musicbrainz", .ok ⟨"musicbrainz", true, some "Song", some "Artist", none, none, none, none⟩),
        ("deezer", .error (.exception "timeout"))] := rfl
  refine lookup_faithful .id ⟨?_, ?_, fun _ _ q => searches_twoProviders q⟩ _
  · rw [htasks]
    simp [Outcome.IsAnswer]
  · rw [htasks]
    simp [Outcome.CarriesId]

end LookupAggregator.LookupService
