import LookupAggregator.LookupService.Requests
import LookupAggregator.LookupService.Serving
import LookupAggregator.ResilientHttp.Agree

/-! # Lookups over HTTP

The upstreams as `resilient_get`, `raise_for_status()` and `json()` make them from what each GET comes to. A few
requests decide the response of a lookup, and of each the GETs that its call sends (`gets_of_lookup`); how many
of these failed before the last one makes no difference, as long as they are no more than 1024
(`retries_masked`). -/

namespace LookupAggregator.ResilientHttp

/-! ### One call -/

section Call
variable {st : HttpSettings} {outcomes outcomes' : ℕ → Except GetError Response}

/-- **An outcome is retried or ends the call**, whatever comes after. -/
theorem afterOutcome_cases (st : HttpSettings) (a : ℕ) (o : Except GetError Response) :
    (∀ next, afterOutcome st next a o = next.after [.sleep (st.backoff a)]) ∨
      ∃ result, ∀ next, afterOutcome st next a o = ⟨[], some result⟩ := by
  cases o with
  | error e =>
    simp only [afterOutcome, sleepThen]
    split_ifs
    · exact .inr ⟨_, fun _ => rfl⟩
    · exact .inr ⟨_, fun _ => rfl⟩
    · exact .inl fun _ => rfl
    · exact .inr ⟨_, fun _ => rfl⟩
  | ok r =>
    simp only [afterOutcome, sleepThen]
    cases (readResponseBodyLimited r st.maxResponseBodyBytes).result with
    | error e => exact .inr ⟨_, fun _ => rfl⟩
    | ok body =>
      dsimp only
      split_ifs
      · exact .inr ⟨_, fun _ => rfl⟩
      · exact .inl fun _ => rfl
      · exact .inr ⟨_, fun _ => rfl⟩

theorem attemptsIn_after_get (t : CallTrace) (a : ℕ) :
    attemptsIn (t.after [.get a]).actions = a :: attemptsIn t.actions := rfl

theorem attemptsIn_after_sleep (t : CallTrace) (d : Time) :
    attemptsIn (t.after [.sleep d]).actions = attemptsIn t.actions := rfl

/-- A round of the loop sends its GET, and then what the rest of the loop sends, if it is retried. -/
theorem attemptLoop_congr {remaining : ℕ} : ∀ {attempt : ℕ},
    (∀ k ∈ attemptsIn (attemptLoop st outcomes remaining attempt).actions, outcomes' k = outcomes k) →
      attemptLoop st outcomes' remaining attempt = attemptLoop st outcomes remaining attempt := by
  induction remaining with
  | zero => exact fun _ => rfl
  | succ remaining ih =>
    intro attempt h
    unfold attemptLoop at h ⊢
    rw [attemptsIn_after_get, List.forall_mem_cons] at h
    rw [h.1]
    rcases afterOutcome_cases st attempt (outcomes attempt) with hretry | ⟨result, hend⟩
    · rw [hretry, hretry, ih fun k hk => h.2 k (by rwa [hretry, attemptsIn_after_sleep])]
    · rw [hend, hend]

theorem length_attemptsIn_attemptLoop {remaining : ℕ} : ∀ {attempt : ℕ},
    (attemptsIn (attemptLoop st outcomes remaining attempt).actions).length ≤ remaining := by
  induction remaining with
  | zero => exact Nat.le_refl 0
  | succ remaining ih =>
    intro attempt
    unfold attemptLoop
    rw [attemptsIn_after_get, List.length_cons, Nat.succ_le_succ_iff]
    rcases afterOutcome_cases st attempt (outcomes attempt) with hretry | ⟨result, hend⟩
    · rw [hretry, attemptsIn_after_sleep]
      exact ih
    · rw [hend]
      exact Nat.zero_le _

/-- The attempts whose GETs a call sends. -/
def attemptsSent (st : HttpSettings) (outcomes : ℕ → Except GetError Response) : List ℕ :=
  attemptsIn (resilientGet st outcomes).actions

/-- **What is sent decides the call.** -/
theorem resilientGet_congr (h : ∀ k ∈ attemptsSent st outcomes, outcomes' k = outcomes k) :
    resilientGet st outcomes' = resilientGet st outcomes := attemptLoop_congr h

theorem length_attemptsSent (st : HttpSettings) (outcomes : ℕ → Except GetError Response) :
    (attemptsSent st outcomes).length ≤ st.attempts.toNat := length_attemptsIn_attemptLoop

/-- The last attempts of two calls come to the same, whatever the retried ones before came to, of which there
are at most 1024 in each. -/
def SameEnd (st : HttpSettings) (outcomes outcomes' : ℕ → Except GetError Response) : Prop :=
  ∃ k k', LastAttempt st outcomes k ∧ LastAttempt st outcomes' k' ∧ k ≤ 1024 ∧ k' ≤ 1024 ∧
    outcomes' k' = outcomes k

theorem SameEnd.result_eq (hmax : 0 ≤ st.maxResponseBodyBytes) (h : SameEnd st outcomes outcomes') :
    (resilientGet st outcomes').result = (resilientGet st outcomes).result := by
  obtain ⟨k, k', hk, hk', hle, hle', heq⟩ := h
  rw [resilientGet_of_le hmax hk hle, resilientGet_of_le hmax hk' hle', heq]

end Call

end LookupAggregator.ResilientHttp

namespace LookupAggregator.LookupService

open Lib Py Normalize Summary Providers ResilientHttp

/-! ### The answers of the upstreams -/

/-- What the client makes of a response in memory: the text of what `raise_for_status()` raises, if it does,
and what `json()` gives, or the text of what that raises. -/
structure Httpx where
  raiseForStatus : UpstreamRequest → Response → Option String
  json : List UInt8 → Except String Json

/-- What a provider catches; a cancellation is not caught, and comes to none of these calls
(`HttpOutcomes.alive`). -/
def caught : GetError → FetchError
  | .timeout msg | .connect msg | .remoteProtocol msg | .http msg => .httpError msg
  | .bodyTooLarge maxBytes => .httpError ("response body exceeds " ++ toString maxBytes ++ " bytes")
  | .other msg => .exception msg
  | .cancelled => .exception ""

/-- `r.raise_for_status()` and `r.json()`. -/
def decoded (client : Httpx) (q : UpstreamRequest) (r : Response) : Fetched :=
  match client.raiseForStatus q r with
  | some text => .error (.httpError text)
  | none =>
    match client.json r.body with
    | .ok data => .ok data
    | .error text => .error (.exception text)

/-- The `try` block of a provider, around a request whose attempts come to `outcomes`. -/
def fetch (client : Httpx) (st : HttpSettings) (q : UpstreamRequest)
    (outcomes : ℕ → Except GetError Response) : Fetched :=
  match (resilientGet st outcomes).result with
  | some (.ok r) => decoded client q r
  | some (.error e) => .error (caught e)
  | none => .error (.exception "'NoneType' object has no attribute 'raise_for_status'")

/-- What each GET of a lookup comes to: that of each attempt of each request. -/
structure HttpOutcomes where
  outcome : UpstreamRequest → ℕ → Except GetError Response
  alive : ∀ q k, outcome q k ≠ .error .cancelled

/-- The upstreams that a lookup sees. -/
def HttpOutcomes.upstreams (http : HttpOutcomes) (client : Httpx) (st : HttpSettings) : AllUpstreams where
  musicbrainz q := fetch client st (.musicbrainz q) (http.outcome (.musicbrainz q))
  deezer r := fetch client st (.deezer r) (http.outcome (.deezer r))
  discogs r := fetch client st (.discogs r) (http.outcome (.discogs r))
  wikidata url := fetch client st (.wikidata url) (http.outcome (.wikidata url))
  openLibrary params := fetch client st (.openLibrary params) (http.outcome (.openLibrary params))

section Lookup
variable {client : Httpx} {hst : HttpSettings} {http http' : HttpOutcomes}

theorem answer_upstreams (http : HttpOutcomes) (q : UpstreamRequest) :
    (http.upstreams client hst).answer q = fetch client hst q (http.outcome q) := by cases q <;> rfl

/-- The GETs that the call of a request sends. -/
def getsSent (hst : HttpSettings) (http : HttpOutcomes) (q : UpstreamRequest) : List (UpstreamRequest × ℕ) :=
  (attemptsSent hst (http.outcome q)).map fun k => (q, k)

theorem answer_congr {q : UpstreamRequest}
    (h : ∀ g ∈ getsSent hst http q, http'.outcome g.1 g.2 = http.outcome g.1 g.2) :
    (http'.upstreams client hst).answer q = (http.upstreams client hst).answer q := by
  rw [answer_upstreams, answer_upstreams, fetch, fetch,
    resilientGet_congr fun k hk => h (q, k) (List.mem_map_of_mem hk)]

/-! ### The lookup -/

/-- The answers to these requests decide the response of a lookup, whatever is answered to any other and in
whatever order the tasks complete. -/
def DecidedBy (py : Python) (sparqlUrl : String) (st : ProviderSettings) (kind : Kind) (code : String)
    (up : AllUpstreams) (qs : List UpstreamRequest) : Prop :=
  ∀ up' : AllUpstreams, (∀ q ∈ qs, up'.answer q = up.answer q) →
    ∀ (c : Completion (tasks st (application py sparqlUrl up) kind code).length)
      (c' : Completion (tasks st (application py sparqlUrl up') kind code).length),
      assemble py.caseFolding st (application py sparqlUrl up') kind code c' =
        assemble py.caseFolding st (application py sparqlUrl up) kind code c

/-- **The GETs that decide a lookup** are those that the calls send for the requests that decide it, at most as
many as these have attempts: whatever any other GET would have come to, of these requests or of others, and in
any order of completion, the response is the same. -/
theorem gets_of_lookup (py : Python) (sparqlUrl : String) (client : Httpx) (hst : HttpSettings)
    (st : ProviderSettings) (kind : Kind) (code : String) (http : HttpOutcomes) :
    ∃ qs : List UpstreamRequest, qs.length ≤ requestLimit st kind ∧
      DecidedBy py sparqlUrl st kind code (http.upstreams client hst) qs ∧
      (qs.flatMap (getsSent hst http)).length ≤ requestLimit st kind * hst.attempts.toNat ∧
      ∀ http' : HttpOutcomes,
        (∀ g ∈ qs.flatMap (getsSent hst http), http'.outcome g.1 g.2 = http.outcome g.1 g.2) →
        ∀ (c : Completion (tasks st (application py sparqlUrl (http.upstreams client hst)) kind code).length)
          (c' : Completion (tasks st (application py sparqlUrl (http'.upstreams client hst)) kind code).length),
          assemble py.caseFolding st (application py sparqlUrl (http'.upstreams client hst)) kind code c' =
            assemble py.caseFolding st (application py sparqlUrl (http.upstreams client hst)) kind code c := by
  have hlength (http : HttpOutcomes) (q : UpstreamRequest) :
      (getsSent hst http q).length ≤ hst.attempts.toNat := by
    rw [getsSent, List.length_map]
    exact length_attemptsSent hst (http.outcome q)
  obtain ⟨qs, hqs, hgets, hanswers, hdecide⟩ := (asks_rows py sparqlUrl st kind code).substitute
    (fun (http : HttpOutcomes) (g : UpstreamRequest × ℕ) => http.outcome g.1 g.2)
    (fun http : HttpOutcomes => http.upstreams client hst) hlength (fun _ _ _ h => answer_congr h) http
  refine ⟨qs, hqs, fun up' h c c' => ?_, hgets, fun http' h c c' => ?_⟩
  · rw [assemble_eq, assemble_eq]
    exact congrArg _ (hanswers up' h)
  · rw [assemble_eq, assemble_eq]
    exact congrArg _ (hdecide http' h)

/-- **Retries are masked**: a few requests decide the response of a lookup, and of each only what its last
attempt comes to; that it is the first of all, or comes after timeouts, broken connections and 503s, up to 1024
of them, makes no difference. -/
theorem retries_masked (py : Python) (sparqlUrl : String) (client : Httpx) (hst : HttpSettings)
    (hmax : 0 ≤ hst.maxResponseBodyBytes) (st : ProviderSettings) (kind : Kind) (code : String)
    (http : HttpOutcomes) :
    ∃ qs : List UpstreamRequest, qs.length ≤ requestLimit st kind ∧
      ∀ http' : HttpOutcomes, (∀ q ∈ qs, SameEnd hst (http.outcome q) (http'.outcome q)) →
        ∀ (c : Completion (tasks st (application py sparqlUrl (http.upstreams client hst)) kind code).length)
          (c' : Completion (tasks st (application py sparqlUrl (http'.upstreams client hst)) kind code).length),
          assemble py.caseFolding st (application py sparqlUrl (http'.upstreams client hst)) kind code c' =
            assemble py.caseFolding st (application py sparqlUrl (http.upstreams client hst)) kind code c := by
  obtain ⟨qs, hqs, hdecide⟩ := asks_rows py sparqlUrl st kind code (http.upstreams client hst)
  refine ⟨qs, hqs, fun http' h c c' => ?_⟩
  rw [assemble_eq, assemble_eq]
  refine congrArg _ (hdecide (http'.upstreams client hst) fun q hq => ?_)
  rw [answer_upstreams, answer_upstreams, fetch, fetch, (h q hq).result_eq hmax]

end Lookup

/-! ### A lookup with and without a 503 -/

/-- Every response decoded as an empty object. -/
def emptyAnswers : Httpx := ⟨fun _ _ => none, fun _ => .ok (.obj [])⟩

/-- Every GET answered at once. -/
def prompt : HttpOutcomes := ⟨fun _ _ => .ok ⟨200, [], [[123, 125]]⟩, fun _ _ h => by cases h⟩

/-- Every request answered after one 503. -/
def delayed : HttpOutcomes :=
  ⟨fun _ k => .ok ⟨if k = 0 then 503 else 200, [], [[123, 125]]⟩, fun _ _ h => by cases h⟩

theorem sameEnd_delayed (q : UpstreamRequest) :
    SameEnd ⟨2, 0.15, 2000000⟩ (prompt.outcome q) (delayed.outcome q) := by
  refine ⟨0, 1, ⟨by decide, fun i hi => (Nat.not_lt_zero i hi).elim, fun h => absurd h.1 (by decide)⟩,
    ⟨by decide, fun i hi => ?_, fun h => absurd h.1 (by decide)⟩, by decide, by decide, rfl⟩
  obtain rfl := Nat.lt_one_iff.mp hi
  exact ⟨by decide, by decide⟩

/-- The response of the lookup of an ISRC by all providers. -/
def responseOver (http : HttpOutcomes) : Except PyExc LookupResponse :=
  assemble plainPython.caseFolding ⟨true, true, true, true, true⟩
    (application plainPython "https://query.wikidata.org/sparql"
      (http.upstreams emptyAnswers ⟨2, 0.15, 2000000⟩)) .isrc "USRC17607839" ⟨List.range _, .refl _⟩

theorem retries_masked_delayed : responseOver delayed = responseOver prompt := by
  obtain ⟨qs, -, h⟩ := retries_masked plainPython "https://query.wikidata.org/sparql" emptyAnswers
    ⟨2, 0.15, 2000000⟩ (by decide) ⟨true, true, true, true, true⟩ .isrc "USRC17607839" prompt
  exact h delayed (fun q _ => sameEnd_delayed q) _ _

end LookupAggregator.LookupService
