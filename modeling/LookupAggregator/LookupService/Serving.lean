import LookupAggregator.Lib.Lists
import LookupAggregator.LookupService.Application
import LookupAggregator.LookupService.Caching

/-! # Lookups of the application that share a cache

Any number of lookups of the application interleave in the runs of `applicationLTS`, over upstreams that
answer anew in each of them. Every response that is returned is well formed, for the code it was asked for,
and nothing is raised but by a cancellation (`responses_wellFormed`); and every lookup under way can return,
whatever the upstreams answer it (`lookups_return`). -/

namespace LookupAggregator.LookupService

open Lib Lib.Transition Py Normalize Cache

/-! ### The system -/

/-- The call after its providers have answered. -/
def gathered (c : LookupCall) : Except PyExc LookupResponse → LookupCall
  | .ok response => { c with phase := .assembled response, own := some response }
  | .error e => { c with phase := .raised e }

/-- What a lookup gathers is what the providers of the application give, over the upstreams that `answers`
has for it. -/
def Gathers (py : Python) (sparqlUrl : String) (st : ProviderSettings) (answers : ℕ → AllUpstreams)
    (w : ServiceWorld) (e : ServiceEvent) (w' : ServiceWorld) : Prop :=
  ∀ i, e = .gather i → ∃ c order, w.calls[i]? = some c ∧ w'.calls = w.calls.set i
    (gathered c (assemble py.caseFolding st (application py sparqlUrl (answers i)) c.kind c.code order))

/-- The service of the application, with a new cache. -/
def applicationLTS (py : Python) (sparqlUrl : String) (st : ProviderSettings) (ttlS : Time) (maxEntries : ℤ) :
    LTS ServiceWorld ServiceEvent where
  init := (serviceLTS py.caseFolding st ttlS maxEntries).init
  step w e w' := ServiceStep py.caseFolding st w e w' ∧ ∃ answers, Gathers py sparqlUrl st answers w e w'

/-- A step of a lookup under way that no cancellation makes. -/
def ServiceEvent.serves : ServiceEvent → Bool
  | .get _ | .gather _ | .set _ => true
  | _ => false

/-- The service that only serves the lookups under way, over upstreams that answer as `answers` says. -/
def servingLTS (py : Python) (sparqlUrl : String) (st : ProviderSettings) (ttlS : Time) (maxEntries : ℤ)
    (answers : ℕ → AllUpstreams) : LTS ServiceWorld ServiceEvent where
  init := (serviceLTS py.caseFolding st ttlS maxEntries).init
  step w e w' := e.serves ∧ ServiceStep py.caseFolding st w e w' ∧ Gathers py sparqlUrl st answers w e w'

section Runs
variable {py : Python} {sparqlUrl : String} {st : ProviderSettings} {ttlS : Time} {maxEntries : ℤ}
  {answers : ℕ → AllUpstreams} {w w' : ServiceWorld} {e : ServiceEvent}

theorem service_of_application (h : (applicationLTS py sparqlUrl st ttlS maxEntries).Reachable w) :
    (serviceLTS py.caseFolding st ttlS maxEntries).Reachable w :=
  h.simulate (T := applicationLTS py sparqlUrl st ttlS maxEntries)
    (U := serviceLTS py.caseFolding st ttlS maxEntries) (fun w => w) (fun _ h => h)
    fun _ e _ _ hs => .inr ⟨e, hs.1⟩

/-! ### Every response is well formed -/

/-- What a call has assembled is well formed, and it has raised nothing but its cancellation. -/
structure CallInv (py : Python) (c : LookupCall) : Prop where
  own : ∀ response, c.own = some response → WellFormed py c.kind c.code response
  raised : ∀ e, c.phase = .raised e → e = .baseException ""

theorem callInv_gathered (c : LookupCall) (up : AllUpstreams)
    (order : Completion (tasks st (application py sparqlUrl up) c.kind c.code).length) :
    CallInv py
      (gathered c (assemble py.caseFolding st (application py sparqlUrl up) c.kind c.code order)) := by
  obtain ⟨response, hok, hformed⟩ := assemble_wellFormed py sparqlUrl up st c.kind c.code order
  rw [hok]
  refine ⟨fun r hr => ?_, fun e he => by cases he⟩
  cases hr
  exact hformed

/-- A call moves on with what it has assembled. -/
theorem CallInv.move {c : LookupCall} (h : CallInv py c) {phase : LookupPhase}
    (hphase : ∀ e, phase = .raised e → e = .baseException "") : CallInv py { c with phase := phase } :=
  ⟨h.own, hphase⟩

/-- **Every step keeps the calls well formed.** -/
theorem callInv_step (h : ∀ c ∈ w.calls, CallInv py c)
    (hs : (applicationLTS py sparqlUrl st ttlS maxEntries).step w e w') : ∀ c ∈ w'.calls, CallInv py c := by
  have hset {i : ℕ} {c : LookupCall} (hc : CallInv py c) : ∀ d ∈ w.calls.set i c, CallInv py d := fun d hd =>
    (List.mem_or_eq_of_mem_set hd).elim (h d) fun he => he ▸ hc
  obtain ⟨hstep, answers, hgather⟩ := hs
  cases hstep with
  | call kind code =>
    intro c hc
    rcases List.mem_append.mp hc with hc | hc
    · exact h c hc
    · rw [List.mem_singleton.mp hc]
      exact ⟨fun _ hr => (by cases hr), fun _ he => (by cases he)⟩
  | hit hi => exact hset ((h _ (List.mem_of_getElem? hi)).move fun _ he => by cases he)
  | miss hi => exact hset ((h _ (List.mem_of_getElem? hi)).move fun _ he => by cases he)
  | gather =>
    obtain ⟨c, order, -, hcalls⟩ := hgather _ rfl
    rw [hcalls]
    exact hset (callInv_gathered c _ order)
  | gatherRaises =>
    obtain ⟨c, order, -, hcalls⟩ := hgather _ rfl
    rw [hcalls]
    exact hset (callInv_gathered c _ order)
  | set hi => exact hset ((h _ (List.mem_of_getElem? hi)).move fun _ he => by cases he)
  | cancel hi => exact hset ((h _ (List.mem_of_getElem? hi)).move fun _ he => (by cases he; rfl))
  | tick => exact h

theorem callInv_of_reachable (h : (applicationLTS py sparqlUrl st ttlS maxEntries).Reachable w) :
    ∀ c ∈ w.calls, CallInv py c := by
  refine h.invariant (fun w hinit c hc => ?_) fun _ _ _ hi hs => callInv_step hi hs
  rw [hinit.2.1] at hc
  cases hc

/-- A response returned is the own one of a call of the kind and code. -/
theorem wellFormed_of_returned (h : (applicationLTS py sparqlUrl st ttlS maxEntries).Reachable w)
    {c : LookupCall} (hc : c ∈ w.calls) {response : LookupResponse} {t : Time}
    (hr : c.phase = .returned response t) : WellFormed py c.kind c.code response := by
  have hcalls := callInv_of_reachable h
  obtain ⟨i, hi⟩ := List.getElem?_of_mem hc
  have hinv := inv_of_reachable (service_of_application h)
  have horigin := hinv.origin i c hi
  rw [Origin, hr] at horigin
  rcases horigin with hown | ⟨wr, hm, -, hkind, hcode, rfl, -⟩
  · exact (hcalls c hc).own response hown
  · obtain ⟨-, d, hd, hdk, hdc, hdo⟩ := hinv.written wr hm
    have hformed := (hcalls d (List.mem_of_getElem? hd)).own _ hdo
    rwa [hdk, hdc, hkind, hcode] at hformed

/-- **Every response returned is well formed, and no lookup raises but by a cancellation**, for any number
of lookups, in any interleaving, whatever the upstreams answer in each of them and whatever the cache keeps.
-/
theorem responses_wellFormed (h : (applicationLTS py sparqlUrl st ttlS maxEntries).Reachable w) :
    ∀ c ∈ w.calls, (∀ response t, c.phase = .returned response t → WellFormed py c.kind c.code response) ∧
      ∀ e, c.phase = .raised e → e = .baseException "" := fun c hc =>
  ⟨fun _ _ hr => wellFormed_of_returned h hc hr, (callInv_of_reachable h c hc).raised⟩

/-! ### Every lookup can return -/

/-- The steps a call that stands there has left. -/
def LookupPhase.rank : LookupPhase → ℕ
  | .called => 3
  | .missed => 2
  | .assembled _ => 1
  | _ => 0

/-- The call is still for this kind and code, and was not cancelled. -/
def Serves (c c' : LookupCall) : Prop := c'.kind = c.kind ∧ c'.code = c.code ∧ ∀ e, c'.phase ≠ .raised e

/-- **A lookup under way has a step to make.** -/
theorem exists_serve (h : (applicationLTS py sparqlUrl st ttlS maxEntries).Reachable w)
    (answers : ℕ → AllUpstreams) {i : ℕ} {c : LookupCall} (hi : w.calls[i]? = some c)
    (hrun : c.phase.running) :
    ∃ e w' c', (servingLTS py sparqlUrl st ttlS maxEntries answers).step w e w' ∧ w'.calls = w.calls.set i c' ∧
      Serves c c' ∧ c'.phase.rank < c.phase.rank := by
  have hinv := inv_of_reachable (service_of_application h)
  cases hp : c.phase with
  | called =>
    cases hg : (w.cache.get (cacheKey c.kind c.code) w.now w.now).1 with
    | some response =>
      exact ⟨.get i, _, _, ⟨rfl, .hit hi hp le_rfl le_rfl hg, fun _ he => by cases he⟩, rfl,
        ⟨rfl, rfl, fun _ he => by cases he⟩, by simp [LookupPhase.rank]⟩
    | none =>
      exact ⟨.get i, _, _, ⟨rfl, .miss hi hp le_rfl le_rfl hg, fun _ he => by cases he⟩, rfl,
        ⟨rfl, rfl, fun _ he => by cases he⟩, by simp [LookupPhase.rank]⟩
  | missed =>
    let order : Completion (tasks st (application py sparqlUrl (answers i)) c.kind c.code).length :=
      ⟨List.range _, List.Perm.refl _⟩
    obtain ⟨response, hok, -⟩ := assemble_wellFormed py sparqlUrl (answers i) st c.kind c.code order
    refine ⟨.gather i, _, _, ⟨rfl, .gather hi hp hok, fun j he => ?_⟩, rfl,
      ⟨rfl, rfl, fun _ he => by cases he⟩, by simp [LookupPhase.rank]⟩
    cases he
    exact ⟨c, order, hi, by rw [hok]; rfl⟩
  | assembled response =>
    exact ⟨.set i, _, _,
      ⟨rfl, .set hi hp le_rfl le_rfl (TtlCache.set_eq hinv.max _ _ _ _), fun _ he => by cases he⟩, rfl,
      ⟨rfl, rfl, fun _ he => by cases he⟩, by simp [LookupPhase.rank]⟩
  | returned response t => rw [hp] at hrun; cases hrun
  | raised e => rw [hp] at hrun; cases hrun

/-- The lookups of `w` are still served. -/
def AllServed (w w' : ServiceWorld) : Prop :=
  w'.calls.length = w.calls.length ∧ ∀ (i : ℕ) (c : LookupCall), w.calls[i]? = some c → c.phase.running →
    ∃ c', w'.calls[i]? = some c' ∧ Serves c c'

theorem AllServed.refl (w : ServiceWorld) : AllServed w w :=
  ⟨rfl, fun _ c hi hrun => ⟨c, hi, rfl, rfl, fun e he => by rw [he] at hrun; cases hrun⟩⟩

/-- Serving one of the calls. -/
theorem AllServed.set {w₁ w₂ : ServiceWorld} (h : AllServed w w₁) {i : ℕ} {c c' : LookupCall}
    (hi : w₁.calls[i]? = some c) (hc : Serves c c') (hcalls : w₂.calls = w₁.calls.set i c') :
    AllServed w w₂ := by
  obtain ⟨hlen, hserved⟩ := h
  refine ⟨by rw [hcalls, List.length_set, hlen], fun j d hj hrun => ?_⟩
  obtain ⟨d', hd', hdk, hdc, hdr⟩ := hserved j d hj hrun
  rw [hcalls]
  by_cases hij : i = j
  · subst hij
    obtain rfl := Option.some.inj (hi.symm.trans hd')
    obtain ⟨hkind, hcode, hraised⟩ := hc
    exact ⟨c', List.getElem?_set_self (List.getElem?_eq_some_iff.mp hi).1, hkind.trans hdk,
      hcode.trans hdc, hraised⟩
  · exact ⟨d', by rw [List.getElem?_set_ne hij, hd'], hdk, hdc, hdr⟩

/-- **Every lookup under way can return.** In every reachable state the lookups that have not ended can all
go on to return, with no other step in between, and what they return is well formed, whatever the upstreams
answer. -/
theorem lookups_return (answers : ℕ → AllUpstreams)
    (h : (applicationLTS py sparqlUrl st ttlS maxEntries).Reachable w) :
    ∃ l w', (servingLTS py sparqlUrl st ttlS maxEntries answers).Path w l w' ∧
      ∀ (i : ℕ) (c : LookupCall), w.calls[i]? = some c → c.phase.running → ∃ c' response t,
        w'.calls[i]? = some c' ∧ c'.phase = .returned response t ∧ WellFormed py c.kind c.code response := by
  have hstep (w₁ : ServiceWorld)
      (hw₁ : (applicationLTS py sparqlUrl st ttlS maxEntries).Reachable w₁ ∧ AllServed w w₁)
      (hdone : ¬ ∀ c ∈ w₁.calls, c.phase.running = false) :
      ∃ l w₂, (servingLTS py sparqlUrl st ttlS maxEntries answers).Path w₁ l w₂ ∧
        ((applicationLTS py sparqlUrl st ttlS maxEntries).Reachable w₂ ∧ AllServed w w₂) ∧
        (w₂.calls.map fun c => c.phase.rank).sum < (w₁.calls.map fun c => c.phase.rank).sum := by
    obtain ⟨hreach, hserved⟩ := hw₁
    push Not at hdone
    obtain ⟨c, hmem, hrun⟩ := hdone
    obtain ⟨i, hi⟩ := List.getElem?_of_mem hmem
    obtain ⟨e, w₂, c₂, hs, hcalls, hc, hless⟩ := exists_serve hreach answers hi (by simpa using hrun)
    refine ⟨_, w₂, .snoc (.nil w₁) hs, ⟨.step hreach ⟨hs.2.1, answers, hs.2.2⟩, hserved.set hi hc hcalls⟩, ?_⟩
    have hset := sum_map_set (fun c => c.phase.rank) hi c₂
    rw [hcalls]
    omega
  obtain ⟨l, w', hl, ⟨hreach, -, hserved⟩, hdone⟩ := LTS.exists_path_of_potential _ hstep ⟨h, .refl w⟩
  refine ⟨l, w', hl, fun i c hi hrun => ?_⟩
  obtain ⟨c', hi', hkind, hcode, hraised⟩ := hserved i c hi hrun
  have hmem := List.mem_of_getElem? hi'
  have hended := hdone c' hmem
  cases hp : c'.phase with
  | returned response t =>
    have hformed := wellFormed_of_returned hreach hmem hp
    rw [hkind, hcode] at hformed
    exact ⟨c', response, t, hi', hp, hformed⟩
  | raised e => exact absurd hp (hraised e)
  | _ => rw [hp] at hended; cases hended

end Runs

/-! ### A run -/

/-- Texts compared as they are, and all of them printable. -/
def plainPython : Python := ⟨.id, .asciiLetters, fun _ => true, fun _ => 0⟩

/-- Upstreams that cannot be reached. -/
def noUpstreams : AllUpstreams where
  musicbrainz _ := .error (.httpError "Connection refused")
  deezer _ := .error (.httpError "Connection refused")
  discogs _ := .error (.httpError "Connection refused")
  wikidata _ := .error (.httpError "Connection refused")
  openLibrary _ := .error (.httpError "Connection refused")

/-- All providers enabled, behind the cache of the default settings. -/
def defaultLTS : LTS ServiceWorld ServiceEvent :=
  applicationLTS plainPython "https://query.wikidata.org/sparql" ⟨true, true, true, true, true⟩ 300 512

/-- One lookup that has missed the cache, and another that has not asked it yet. -/
def twoLookups : ServiceWorld :=
  ⟨0, ((TtlCache.init 300 512).get (cacheKey .isrc "USRC17607839") 0 0).2,
    [⟨.isrc, "USRC17607839", .missed, none⟩, ⟨.upc, "5901234123457", .called, none⟩], []⟩

theorem twoLookups_reachable : defaultLTS.Reachable twoLookups := by
  have h0 : defaultLTS.Reachable ⟨0, TtlCache.init 300 512, [], []⟩ := .init ⟨rfl, rfl, rfl⟩
  have h1 := h0.step (a := ServiceEvent.call .isrc "USRC17607839")
    ⟨.call _ _ _, fun _ => noUpstreams, fun _ he => by cases he⟩
  have h2 := h1.step (a := ServiceEvent.call .upc "5901234123457")
    ⟨.call _ _ _, fun _ => noUpstreams, fun _ he => by cases he⟩
  exact h2.step (a := ServiceEvent.get 0)
    ⟨.miss (i := 0) (c := ⟨.isrc, "USRC17607839", .called, none⟩) rfl rfl le_rfl le_rfl rfl,
      fun _ => noUpstreams, fun _ he => by cases he⟩

/-- Both lookups return. -/
theorem lookups_return_two : ∃ l w', (servingLTS plainPython "https://query.wikidata.org/sparql"
      ⟨true, true, true, true, true⟩ 300 512 fun _ => noUpstreams).Path twoLookups l w' ∧
    ∃ (c : LookupCall) (response : LookupResponse) (t : Time), w'.calls[1]? = some c ∧
      c.phase = .returned response t ∧ WellFormed plainPython .upc "5901234123457" response := by
  obtain ⟨l, w', hl, hreturn⟩ := lookups_return (fun _ => noUpstreams) twoLookups_reachable
  exact ⟨l, w', hl, hreturn 1 _ rfl rfl⟩

/-- Upstreams of which only Wikidata can be reached, and answers with a title. -/
def wikidataOnly : AllUpstreams :=
  { noUpstreams with
    wikidata := fun _ => .ok (.obj [("results", .obj [("bindings",
      .arr [.obj [("workLabel", .obj [("value", .str "Moon River")])]])])]) }

/-- The lookup that has missed the cache gathers, with one row, and returns. -/
theorem returned_reachable : ∃ (w : ServiceWorld) (response : LookupResponse), defaultLTS.Reachable w ∧
    ⟨.isrc, "USRC17607839", .returned response 1, some response⟩ ∈ w.calls ∧
    response.providers.map (fun e => (e.provider, e.title)) = [("wikidata", some "Moon River")] := by
  let order : Completion (tasks ⟨true, true, true, true, true⟩
    (application plainPython "https://query.wikidata.org/sparql" wikidataOnly) .isrc "USRC17607839").length :=
    ⟨List.range _, List.Perm.refl _⟩
  obtain ⟨response, hok, -⟩ := assemble_wellFormed plainPython "https://query.wikidata.org/sparql" wikidataOnly
    ⟨true, true, true, true, true⟩ .isrc "USRC17607839" order
  have hrows : (assemble plainPython.caseFolding ⟨true, true, true, true, true⟩
      (application plainPython "https://query.wikidata.org/sparql" wikidataOnly) .isrc "USRC17607839" order).map
        (fun r => r.providers.map fun e => (e.provider, e.title)) = .ok [("wikidata", some "Moon River")] := rfl
  have h1 := twoLookups_reachable.step (a := ServiceEvent.gather 0)
    ⟨.gather (i := 0) rfl rfl hok, fun _ => wikidataOnly, fun i he => by
      cases he
      exact ⟨_, order, rfl, by rw [hok]; rfl⟩⟩
  have h2 := h1.step (a := ServiceEvent.set 0)
    ⟨.set (i := 0) (c := ⟨.isrc, "USRC17607839", .assembled response, some response⟩) rfl rfl
      zero_le_one le_rfl (TtlCache.set_eq (le_max_left _ _) _ _ _ _), fun _ => noUpstreams, fun _ he => by cases he⟩
  rw [hok] at hrows
  exact ⟨_, response, h2, List.mem_cons_self, Except.ok.inj hrows⟩

/-- What it returns, in that run: the row of Wikidata, in a well-formed response. -/
theorem responses_wellFormed_missed : ∃ (w : ServiceWorld) (response : LookupResponse), defaultLTS.Reachable w ∧
    ⟨.isrc, "USRC17607839", .returned response 1, some response⟩ ∈ w.calls ∧
    response.providers.map (fun e => (e.provider, e.title)) = [("wikidata", some "Moon River")] ∧
    WellFormed plainPython .isrc "USRC17607839" response := by
  obtain ⟨w, response, h, hc, hrows⟩ := returned_reachable
  exact ⟨w, response, h, hc, hrows, (responses_wellFormed h _ hc).1 response 1 rfl⟩

end LookupAggregator.LookupService
