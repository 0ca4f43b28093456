import LookupAggregator.App.Routes

/-! # Requests one after the other

The app over a run of requests: the limiter of `create_app`, with its window of 60 seconds, is asked for the
requests that CORS does not answer and whose path is not skipped, in the order of the clock readings it
takes.

To the limiter such a run is a run of calls of `allow` (`serve_fst`, `map_admitted`); hence who is turned
away is told by the responses alone: `too_many_requests_iff`. -/

namespace LookupAggregator.App

open Lib Py RateLimit SlidingWindowLimiter Validation LookupService

/-! ### The run -/

/-- A request, with the clock reading of the limiter, the `uuid4`s made for it, and what its route gives. -/
structure Arrival where
  req : Request
  now : Time
  uuid : String
  handlerUuid : String
  outcome : RouteOutcome

/-- The request meets this limiter. -/
def Arrival.meets (a : Arrival) (limiter : SlidingWindowLimiter) : Circumstances :=
  ⟨limiter, a.now, a.uuid, a.handlerUuid, a.outcome⟩

/-- The call of `allow` for a request. -/
def Arrival.call (a : Arrival) : Call := ⟨limiterKey a.req, a.now⟩

/-- The limiter is asked for the request. -/
def counted (st : AppSettings) (a : Arrival) : Bool :=
  st.apiRateLimitPerMinute > 0 && !answeredByCors st a.req && !skipRateLimit a.req.path

section Run
variable (st : AppSettings) (cors : CorsHeaders)

/-- The limiter after a request. -/
def limiterAfter (limiter : SlidingWindowLimiter) (a : Arrival) : SlidingWindowLimiter :=
  if counted st a then (limiter.allow a.call).2 else limiter

/-- One request of a run: the limiter after it, and the requests so far with their responses. -/
def serveOne (s : SlidingWindowLimiter × List (Arrival × Response)) (a : Arrival) :
    SlidingWindowLimiter × List (Arrival × Response) :=
  (limiterAfter st s.1 a, s.2 ++ [(a, respond st cors a.req (a.meets s.1))])

/-- A run of the app as it is created. -/
def serve (arrivals : List Arrival) : SlidingWindowLimiter × List (Arrival × Response) :=
  arrivals.foldl (serveOne st cors) (init st.apiRateLimitPerMinute 60, [])

/-- The response to `a` after a run. -/
def responseAfter (arrivals : List Arrival) (a : Arrival) : Response :=
  respond st cors a.req (a.meets (serve st cors arrivals).1)

/-- The limiter was asked for the request and let it through. -/
def admitted (x : Arrival × Response) : Bool := counted st x.1 && x.2.statusCode ≠ 429

/-- The calls of `allow` in a run. -/
def calls (arrivals : List Arrival) : List Call := (arrivals.filter (counted st)).map Arrival.call

theorem serve_concat (arrivals : List Arrival) (a : Arrival) :
    serve st cors (arrivals ++ [a]) = serveOne st cors (serve st cors arrivals) a := by simp [serve]

end Run

/-! ### The limiter in the run -/

section Limiter
variable {st : AppSettings} (cors : CorsHeaders) {arrivals : List Arrival} {a : Arrival}

theorem calls_concat : calls st (arrivals ++ [a]) =
    calls st arrivals ++ if counted st a then [a.call] else [] := by
  unfold calls
  rw [List.filter_append, List.map_append]
  cases h : counted st a <;> simp [h]

theorem serve_fst : (serve st cors arrivals).1 = (run st.apiRateLimitPerMinute 60 (calls st arrivals)).1 := by
  induction arrivals using List.reverseRecOn with
  | nil => rfl
  | append_singleton arrivals a ih =>
    rw [serve_concat, calls_concat, serveOne, limiterAfter, ih]
    split_ifs
    · rw [run_concat, step]
    · rw [List.append_nil]

theorem answeredByLimiter_of_counted (hcounted : counted st a = true) (limiter : SlidingWindowLimiter) :
    answeredByLimiter st a.req (a.meets limiter) = !(limiter.allow a.call).1 := by
  simp only [counted, Bool.and_eq_true, decide_eq_true_eq, Bool.not_eq_true'] at hcounted
  obtain ⟨⟨hpos, -⟩, hskip⟩ := hcounted
  simp [answeredByLimiter, rejected, hpos, hskip, Arrival.meets, Arrival.call]

theorem answeredByLimiter_of_not_counted (hcounted : counted st a = false)
    (hcors : answeredByCors st a.req = false) (limiter : SlidingWindowLimiter) :
    answeredByLimiter st a.req (a.meets limiter) = false := by
  by_contra hl
  simp only [answeredByLimiter, rejected, Bool.not_eq_false, Bool.and_eq_true, decide_eq_true_eq] at hl
  simp [counted, hl.1, hcors, hl.2.1] at hcounted

/-- For a request that it is asked for, the limiter decides. -/
theorem statusCode_of_counted (h : counted st a = true) (limiter : SlidingWindowLimiter) :
    (respond st cors a.req (a.meets limiter)).statusCode =
      if (limiter.allow a.call).1 then a.outcome.statusCode else 429 := by
  have hlimited := answeredByLimiter_of_counted h limiter
  simp only [counted, Bool.and_eq_true, Bool.not_eq_true'] at h
  rw [respond_statusCode cors h.1.2, hlimited]
  cases (limiter.allow a.call).1 <;> rfl

/-- **The requests let through are the calls that were.** -/
theorem map_admitted (h : ∀ b ∈ arrivals, b.outcome.statusCode ≠ 429) :
    ((serve st cors arrivals).2.filter (admitted st)).map (fun x => x.1.call) =
      (run st.apiRateLimitPerMinute 60 (calls st arrivals)).2 := by
  induction arrivals using List.reverseRecOn with
  | nil => rfl
  | append_singleton arrivals a ih =>
    rw [List.forall_mem_append, List.forall_mem_singleton] at h
    rw [serve_concat, serveOne, List.filter_append, List.map_append, ih h.1, calls_concat, serve_fst]
    by_cases hc : counted st a = true
    · have hstatus := statusCode_of_counted cors hc
        (run st.apiRateLimitPerMinute 60 (calls st arrivals)).1
      rw [if_pos hc, run_concat, step]
      dsimp only
      split_ifs at hstatus ⊢ with hallow
      · simp [admitted, hc, hstatus, h.2]
      · simp [admitted, hc, hstatus]
    · simp [admitted, hc]

theorem countP_admitted (h : ∀ b ∈ arrivals, b.outcome.statusCode ≠ 429) (p : Call → Bool) :
    (serve st cors arrivals).2.countP (fun x => p x.1.call && admitted st x) =
      (run st.apiRateLimitPerMinute 60 (calls st arrivals)).2.countP p := by
  rw [← map_admitted cors h, List.countP_map, List.countP_filter]
  rfl

theorem readings_calls : readings (calls st arrivals) = (arrivals.filter (counted st)).map Arrival.now := by
  rw [readings, calls, List.map_map]
  rfl

theorem limit_pos_of_counted (h : counted st a = true) : 0 < st.apiRateLimitPerMinute := by
  simp only [counted, Bool.and_eq_true, decide_eq_true_eq] at h
  exact h.1.1

end Limiter

/-! ### Who is turned away -/

/-- Of the client of `a`, at most 60 seconds before it. -/
def recent (a : Arrival) (x : Arrival × Response) : Bool :=
  decide (limiterKey x.1.req = limiterKey a.req ∧ a.now - x.1.now ≤ 60)

/-- Of this client, in the minute from `t` on. -/
def inMinute (client : String) (t : Time) (x : Arrival × Response) : Bool :=
  decide (limiterKey x.1.req = client ∧ t ≤ x.1.now ∧ x.1.now ≤ t + 60)

section Quota
variable {st : AppSettings} (cors : CorsHeaders) {arrivals : List Arrival} {a : Arrival}

/-- The requests of the client of `a` that were let through in the 60 seconds before it. -/
def quotaUsed (st : AppSettings) (cors : CorsHeaders) (arrivals : List Arrival) (a : Arrival) : ℕ :=
  (serve st cors arrivals).2.countP fun x => recent a x && admitted st x

/-- **The limiter lets a request through while the quota of its client is not used up.** -/
theorem allow_iff_quota (h : ∀ b ∈ arrivals, b.outcome.statusCode ≠ 429) (hcounted : counted st a = true)
    (hc : Chronological (((arrivals ++ [a]).filter (counted st)).map Arrival.now)) :
    ((serve st cors arrivals).1.allow a.call).1 = true ↔
      quotaUsed st cors arrivals a < st.apiRateLimitPerMinute := by
  have hpos := limit_pos_of_counted hcounted
  rw [← readings_calls, calls_concat, if_pos hcounted] at hc
  rw [serve_fst, allow_eq_specAllow st.apiRateLimitPerMinute 60 hc, specAllow,
    max_eq_right (show 1 ≤ st.apiRateLimitPerMinute from hpos), ← countP_admitted cors h, decide_eq_true_eq]
  rfl

end Quota

/-- **Who is turned away**, told by the responses. A request that the limiter is asked for gets a 429
exactly when as many requests of its client as the limit allows were let through in the 60 seconds before
it; any other request that CORS does not answer gets none; and in no 60 seconds are more requests of one
client let through. -/
theorem too_many_requests_iff (st : AppSettings) (cors : CorsHeaders) {arrivals : List Arrival} {a : Arrival}
    (h : ∀ b ∈ arrivals ++ [a], b.outcome.statusCode ≠ 429)
    (hc : Chronological (((arrivals ++ [a]).filter (counted st)).map Arrival.now)) :
    (counted st a = true → ((responseAfter st cors arrivals a).statusCode = 429 ↔
      st.apiRateLimitPerMinute ≤ quotaUsed st cors arrivals a)) ∧
    (counted st a = false → answeredByCors st a.req = false →
      (responseAfter st cors arrivals a).statusCode ≠ 429) ∧
    ∀ client t, ((serve st cors arrivals).2.countP fun x => inMinute client t x && admitted st x : ℕ) ≤
      max 0 st.apiRateLimitPerMinute := by
  rw [List.forall_mem_append, List.forall_mem_singleton] at h
  obtain ⟨hearlier, ha⟩ := h
  refine ⟨fun hcounted => ?_, fun hcounted hcors => ?_, fun client t => ?_⟩
  · have hallow := allow_iff_quota cors hearlier hcounted hc
    rw [responseAfter, statusCode_of_counted cors hcounted]
    split_ifs with hlet
    · exact iff_of_false ha (not_le.mpr (hallow.mp hlet))
    · exact iff_of_true rfl (not_lt.mp fun hlt => hlet (hallow.mpr hlt))
  · rw [responseAfter, respond_statusCode cors hcors, answeredByLimiter_of_not_counted hcounted hcors]
    exact ha
  · by_cases hpos : 0 < st.apiRateLimitPerMinute
    · have hpre : Chronological (readings (calls st arrivals)) := by
        rw [← readings_calls, calls_concat, readings, List.map_append] at hc
        exact hc.prefix
      have hle := countP_inWindow_le hpos.le 60 client t (calls st arrivals)
      have hmax : max 1 st.apiRateLimitPerMinute = st.apiRateLimitPerMinute := max_eq_right hpos
      rw [← hmax, ← run_eq_specRun _ _ hpre, ← countP_admitted cors hearlier, hmax] at hle
      exact hle.trans (le_max_right _ _)
    · have hnone : ((serve st cors arrivals).2.countP fun x => inMinute client t x && admitted st x) = 0 := by
        refine List.countP_eq_zero.mpr fun x _ hx => hpos ?_
        simp only [admitted, Bool.and_eq_true] at hx
        exact limit_pos_of_counted hx.2.1
      rw [hnone]
      exact le_max_left _ _

/-- CORS without headers. -/
def plainCors : CorsHeaders := ⟨fun _ _ => ⟨200, [], none⟩, fun _ _ => [], by simp [Response.header], by simp⟩

theorem one_noSlash : '/' ∉ "1".toList := by decide

/-- A lookup at `now`, with a text that is refused. -/
def refusedLookup (now : Time) : Arrival :=
  ⟨lookupRequest .upc ⟨"1", by simp, one_noSlash⟩ [] none, now, "8e4f", "51c2", .httpException 422 .null⟩

/-- Two requests in a minute, of which the limit allows one. -/
theorem too_many_requests_iff_second :
    (responseAfter ⟨1, ""⟩ plainCors [refusedLookup 0] (refusedLookup 30)).statusCode = 429 := by
  have hchrono :
      Chronological (([refusedLookup 0, refusedLookup 30].filter (counted ⟨1, ""⟩)).map Arrival.now) := by
    rw [List.filter_eq_self.mpr (by decide)]
    norm_num [Chronological, refusedLookup]
  exact ((too_many_requests_iff _ _ (by simp [RouteOutcome.statusCode, refusedLookup]) hchrono).1
    (by decide)).mpr (by decide +kernel)

/-! ### How a lookup is answered -/

section Lookup
variable {py : Python} {sparqlUrl : String} {pst : ProviderSettings} {ttlS : Time} {maxEntries : ℤ}
  {u : UpperCasing} {kind : Kind} {code : PathParam} {service : String → LookupResponse}

end Lookup

end LookupAggregator.App
