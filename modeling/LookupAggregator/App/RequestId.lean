import LookupAggregator.Py.Json
import LookupAggregator.Py.Text
import LookupAggregator.RateLimit

/-! # The request id of a response

The layers that `create_app` puts around the routes, from the outside in: the handler for `Exception`
(Starlette runs it outside of all added middleware), `CORSMiddleware` if origins are configured,
`RateLimitMiddleware` if a limit is, `RequestIdMiddleware`, and the handlers for the other exceptions.

`RequestIdMiddleware` sets the `X-Request-ID` header on the way back of what is inside of it, so a response
has the header exactly when no outer layer made it: `carriesRequestId_iff`. -/

namespace LookupAggregator.App

open Py RateLimit

/-! ### Requests and responses -/

/-- A request. The header names are in lower case, as Starlette compares them. -/
structure Request where
  method : String
  path : String
  headers : List (String × String)
  client : Option String

/-- `headers.get(name)`. -/
def Request.header (r : Request) (name : String) : Option String :=
  (r.headers.find? fun h => h.1 = name).map Prod.snd

/-- A response; `json` is its body, if that is JSON. -/
structure Response where
  statusCode : ℕ
  headers : List (String × String)
  json : Option Json

/-- `response.headers.get(name)`. -/
def Response.header (r : Response) (name : String) : Option String :=
  (r.headers.find? fun h => h.1 = name).map Prod.snd

/-- `response.headers[name] = value`. -/
def Response.setHeader (r : Response) (name value : String) : Response :=
  { r with headers := r.headers.filter (fun h => h.1 ≠ name) ++ [(name, value)] }

/-- `JSONResponse`, of one of the error bodies of the app. -/
def errorResponse (statusCode : ℕ) (detail : Json) (type : String) (requestId : Json) : Response :=
  ⟨statusCode, [], some (.obj [("detail", detail), ("type", .str type), ("request_id", requestId)])⟩

/-- What a route gives: a response without an error, or what it raises. -/
inductive RouteOutcome
  | response (r : Response) (h : r.statusCode < 400)
  | validationError (errors : Json)
  /-- `fastapi.HTTPException`. -/
  | httpException (statusCode : ℕ) (detail : Json)
  /-- Starlette's own `HTTPException`, which its router raises. -/
  | routingException (statusCode : ℕ) (detail : Json)
  | exception (text : String)

/-- An `Exception` without a handler among the inner layers. -/
inductive Unhandled
  | exception (text : String)
  /-- `request.state` has no `request_id`. -/
  | attributeError

/-- A layer answers a request, or lets an exception pass, and leaves `request.state.request_id` behind, which
all layers share. -/
abbrev Layer := Option String → Except Unhandled Response × Option String

/-! ### The exception handlers -/

/-- `_or_new_rid(request)`, with the `uuid4` it makes if it makes one. -/
def orNewRid (uuid : String) (rid : Option String) : String := rid.getD uuid

/-- `validation_error_handler`. -/
def validationErrorHandler (rid : String) (errors : Json) : Response :=
  errorResponse 422 errors "validation_error" (.str rid)

/-- `http_error_handler`. -/
def httpErrorHandler (rid : String) (statusCode : ℕ) (detail : Json) : Response :=
  errorResponse statusCode detail "http_error" (.str rid)

/-- `unhandled_error_handler`. -/
def unhandledErrorHandler (rid : String) : Response :=
  errorResponse 500 (.str "Internal server error") "internal_error" (.str rid)

/-- FastAPI's handler for Starlette's `HTTPException`, which the app leaves in place. -/
def defaultHttpExceptionHandler (statusCode : ℕ) (detail : Json) : Response :=
  ⟨statusCode, [], some (.obj [("detail", detail)])⟩

/-- The routes, with the handlers for everything but `Exception`. -/
def exceptionMiddleware (uuid : String) (outcome : RouteOutcome) : Layer := fun rid =>
  match outcome with
  | .response r _ => (.ok r, rid)
  | .validationError errors =>
    (.ok (validationErrorHandler (orNewRid uuid rid) errors), some (orNewRid uuid rid))
  | .httpException statusCode detail =>
    (.ok (httpErrorHandler (orNewRid uuid rid) statusCode detail), some (orNewRid uuid rid))
  | .routingException statusCode detail => (.ok (defaultHttpExceptionHandler statusCode detail), rid)
  | .exception text => (.error (.exception text), rid)

/-- Starlette's outermost layer, with the handler for `Exception`. -/
def serverErrorMiddleware (uuid : String) (inner : Layer) (rid : Option String) : Response :=
  match inner rid with
  | (.ok r, _) => r
  | (.error _, rid') => unhandledErrorHandler (orNewRid uuid rid')

/-! ### The middleware -/

/-- `RequestIdMiddleware.dispatch`, with the `uuid4` it makes. -/
def requestIdMiddleware (uuid : String) (inner : Layer) : Layer := fun _ =>
  match inner (some uuid) with
  | (.ok r, some rid) => (.ok (r.setHeader "x-request-id" rid), some rid)
  | (.ok _, none) => (.error .attributeError, none)
  | (.error e, rid) => (.error e, rid)

/-- `_skip_rate_limit(path)`. -/
def skipRateLimit (path : String) : Bool :=
  path ∈ ["/health", "/ready", "/openapi.json", "/scalar"] || "/docs".toList.isPrefixOf path.toList ||
    "/redoc".toList.isPrefixOf path.toList

/-- The key a request is counted under. -/
def limiterKey (req : Request) : String := req.client.getD "unknown"

/-- The request is turned away by the limiter, at the clock reading `now`. -/
def rejected (limiter : SlidingWindowLimiter) (now : Time) (req : Request) : Bool :=
  !skipRateLimit req.path && !(limiter.allow ⟨limiterKey req, now⟩).1

/-- `RateLimitMiddleware.dispatch`. -/
def rateLimitMiddleware (limiter : SlidingWindowLimiter) (now : Time) (req : Request) (inner : Layer) :
    Layer := fun rid =>
  if rejected limiter now req then
    (.ok (errorResponse 429 (.str "Too many requests") "rate_limited" (rid.elim .null .str)), rid)
  else inner rid

/-- What `CORSMiddleware` writes, for the origins allowed: its answer to a preflight request, and the headers
it adds to other responses. None of its headers is `X-Request-ID`. -/
structure CorsHeaders where
  preflight : List String → Request → Response
  simple : List String → Request → List (String × String)
  preflight_header : ∀ origins req, (preflight origins req).header "x-request-id" = none
  simple_header : ∀ origins req, ∀ h ∈ simple origins req, h.1 ≠ "x-request-id"

/-- A request that `CORSMiddleware` answers itself. -/
def isPreflight (req : Request) : Bool :=
  (req.header "origin").isSome && req.method = "OPTIONS" &&
    (req.header "access-control-request-method").isSome

/-- `CORSMiddleware`. -/
def corsMiddleware (cors : CorsHeaders) (origins : List String) (req : Request) (inner : Layer) : Layer :=
  fun rid =>
    if isPreflight req then (.ok (cors.preflight origins req), rid)
    else if (req.header "origin").isNone then inner rid
    else
      match inner rid with
      | (.ok r, rid') => (.ok { r with headers := r.headers ++ cors.simple origins req }, rid')
      | (.error e, rid') => (.error e, rid')

/-! ### The app -/

/-- The settings `create_app` reads for its layers. -/
structure AppSettings where
  apiRateLimitPerMinute : ℤ
  corsAllowOrigins : String

/-- `cors_origins_for_middleware()`. -/
def AppSettings.corsOriginsForMiddleware (st : AppSettings) : Option (List String) :=
  let s := strip st.corsAllowOrigins
  if s = "" then none
  else if s = "*" then some ["*"]
  else
    match ((s.toList.splitOn ',').map fun p => strip (String.ofList p)).filter (· ≠ "") with
    | [] => none
    | parts => some parts

/-- What a request meets: the state of the limiter, the clock reading, the `uuid4`s of the middleware and of
the handlers, and what the route gives. -/
structure Circumstances where
  limiter : SlidingWindowLimiter
  now : Time
  uuid : String
  handlerUuid : String
  outcome : RouteOutcome

/-- The layers inside of CORS. -/
def limitedApp (st : AppSettings) (req : Request) (x : Circumstances) : Layer :=
  let inner := requestIdMiddleware x.uuid (exceptionMiddleware x.handlerUuid x.outcome)
  if st.apiRateLimitPerMinute > 0 then rateLimitMiddleware x.limiter x.now req inner else inner

/-- `create_app()`, answering one request. -/
def respond (st : AppSettings) (cors : CorsHeaders) (req : Request) (x : Circumstances) : Response :=
  serverErrorMiddleware x.handlerUuid (match st.corsOriginsForMiddleware with
    | some origins => corsMiddleware cors origins req (limitedApp st req x)
    | none => limitedApp st req x) none

/-! ### The request id -/

/-- The `request_id` of a JSON body. -/
def requestIdOf : Option Json → Option Json
  | some (.obj items) => (items.find? fun i => i.1 = "request_id").map Prod.snd
  | _ => none

/-- **The response has an `X-Request-ID` header, and an error body that has a `request_id` has the same.** -/
def CarriesRequestId (r : Response) : Prop :=
  ∃ rid, r.header "x-request-id" = some rid ∧
    (400 ≤ r.statusCode → ∀ v, requestIdOf r.json = some v → v = .str rid)

section Layers
variable {st : AppSettings} {cors : CorsHeaders} {req : Request} {x : Circumstances}

theorem header_setHeader (r : Response) (name value : String) :
    (r.setHeader name value).header name = some value := by
  have hnone : (r.headers.filter fun h => h.1 ≠ name).find? (fun h => h.1 = name) = none := by
    rw [List.find?_eq_none]
    intro h hh
    simpa using (List.mem_filter.mp hh).2
  unfold Response.setHeader Response.header
  rw [List.find?_append, hnone]
  simp

/-- More headers of other names. -/
theorem header_append {r : Response} {hs : List (String × String)} {name : String}
    (h : ∀ x ∈ hs, x.1 ≠ name) :
    ({ r with headers := r.headers ++ hs } : Response).header name = r.header name := by
  have hnone : hs.find? (fun h => h.1 = name) = none := by
    rw [List.find?_eq_none]
    intro x hx
    simpa using h x hx
  simp [Response.header, List.find?_append, hnone]

/-- A layer answers with the header, and with the same id in an error body. -/
def Carries (layer : Layer) (rid : Option String) : Prop :=
  ∃ r rid', layer rid = (.ok r, rid') ∧ CarriesRequestId r

/-- A layer answers without the header, or lets an exception pass. -/
def Lacks (layer : Layer) (rid : Option String) : Prop :=
  (∃ r rid', layer rid = (.ok r, rid') ∧ r.header "x-request-id" = none) ∨
    ∃ e rid', layer rid = (.error e, rid')

/-- **Inside, only an unhandled exception goes without the header.** -/
theorem carries_requestIdMiddleware (uuid handlerUuid : String) {outcome : RouteOutcome}
    (h : ∀ text, outcome ≠ .exception text) (rid : Option String) :
    Carries (requestIdMiddleware uuid (exceptionMiddleware handlerUuid outcome)) rid := by
  cases outcome with
  | response r hr =>
    refine ⟨_, _, rfl, uuid, header_setHeader _ _ _, fun h4 => ?_⟩
    exact absurd h4 (not_le.mpr hr)
  | validationError errors =>
    refine ⟨_, _, rfl, uuid, header_setHeader _ _ _, fun _ v hv => ?_⟩
    cases hv
    rfl
  | httpException statusCode detail =>
    refine ⟨_, _, rfl, uuid, header_setHeader _ _ _, fun _ v hv => ?_⟩
    cases hv
    rfl
  | routingException statusCode detail =>
    refine ⟨_, _, rfl, uuid, header_setHeader _ _ _, fun _ v hv => ?_⟩
    cases hv
  | exception text => exact absurd rfl (h text)

/-- The limiter turns the request away. -/
def answeredByLimiter (st : AppSettings) (req : Request) (x : Circumstances) : Bool :=
  st.apiRateLimitPerMinute > 0 && rejected x.limiter x.now req

/-- CORS answers the request. -/
def answeredByCors (st : AppSettings) (req : Request) : Bool :=
  st.corsOriginsForMiddleware.isSome && isPreflight req

theorem carries_limitedApp (hl : answeredByLimiter st req x = false)
    (h : ∀ text, x.outcome ≠ .exception text) (rid : Option String) :
    Carries (limitedApp st req x) rid := by
  have hinner := carries_requestIdMiddleware x.uuid x.handlerUuid h rid
  unfold limitedApp
  dsimp only
  split_ifs with hpos
  · have hr : rejected x.limiter x.now req = false := by simpa [answeredByLimiter, hpos] using hl
    unfold Carries rateLimitMiddleware
    rw [if_neg (by simp [hr])]
    exact hinner
  · exact hinner

theorem lacks_limitedApp (h : answeredByLimiter st req x = true ∨ ∃ text, x.outcome = .exception text)
    (rid : Option String) : Lacks (limitedApp st req x) rid := by
  by_cases hl : answeredByLimiter st req x = true
  · -- turned away, before an id is made
    obtain ⟨hpos, hr⟩ : st.apiRateLimitPerMinute > 0 ∧ rejected x.limiter x.now req = true := by
      simpa [answeredByLimiter] using hl
    refine .inl ⟨errorResponse 429 (.str "Too many requests") "rate_limited" (rid.elim .null .str), rid,
      ?_, rfl⟩
    simp [limitedApp, hpos, rateLimitMiddleware, hr]
  · obtain ⟨text, ht⟩ := h.resolve_left hl
    refine .inr ⟨.exception text, some x.uuid, ?_⟩
    have hr : st.apiRateLimitPerMinute > 0 → rejected x.limiter x.now req = false := fun hpos => by
      simpa [answeredByLimiter, hpos] using hl
    by_cases hpos : st.apiRateLimitPerMinute > 0
    · simp [limitedApp, hpos, rateLimitMiddleware, hr hpos, ht, requestIdMiddleware, exceptionMiddleware]
    · simp [limitedApp, hpos, ht, requestIdMiddleware, exceptionMiddleware]

theorem carries_corsMiddleware {origins : List String} {inner : Layer} {rid : Option String}
    (hp : isPreflight req = false) (h : Carries inner rid) :
    Carries (corsMiddleware cors origins req inner) rid := by
  obtain ⟨r, rid', hr, id, hid, hbody⟩ := h
  unfold Carries corsMiddleware
  rw [if_neg (by simp [hp])]
  split_ifs
  · exact ⟨r, rid', hr, id, hid, hbody⟩
  · rw [hr]
    exact ⟨_, _, rfl, id, (header_append (cors.simple_header origins req)).trans hid, hbody⟩

theorem lacks_corsMiddleware {origins : List String} {inner : Layer} {rid : Option String}
    (h : isPreflight req = true ∨ Lacks inner rid) : Lacks (corsMiddleware cors origins req inner) rid := by
  unfold Lacks corsMiddleware
  split_ifs with hp ho
  · exact .inl ⟨_, _, rfl, cors.preflight_header origins req⟩
  · exact h.resolve_left hp
  · rcases h.resolve_left hp with ⟨r, rid', hr, hnone⟩ | ⟨e, rid', he⟩
    · rw [hr]
      exact .inl ⟨_, _, rfl, (header_append (cors.simple_header origins req)).trans hnone⟩
    · rw [he]
      exact .inr ⟨_, _, rfl⟩

theorem carries_serverErrorMiddleware {uuid : String} {inner : Layer} {rid : Option String}
    (h : Carries inner rid) : CarriesRequestId (serverErrorMiddleware uuid inner rid) := by
  obtain ⟨r, rid', hr, hc⟩ := h
  unfold serverErrorMiddleware
  rw [hr]
  exact hc

theorem lacks_serverErrorMiddleware {uuid : String} {inner : Layer} {rid : Option String}
    (h : Lacks inner rid) : ¬ CarriesRequestId (serverErrorMiddleware uuid inner rid) := by
  rintro ⟨id, hid, -⟩
  unfold serverErrorMiddleware at hid
  rcases h with ⟨r, rid', hr, hnone⟩ | ⟨e, rid', he⟩
  · rw [hr, hnone] at hid
    cases hid
  · rw [he] at hid
    cases hid

/-- **A response carries the request id exactly when CORS did not answer a preflight request, the limiter did
not turn the request away, and the route raised nothing unhandled.** -/
theorem carriesRequestId_iff (st : AppSettings) (cors : CorsHeaders) (req : Request) (x : Circumstances) :
    CarriesRequestId (respond st cors req x) ↔ answeredByCors st req = false ∧
      answeredByLimiter st req x = false ∧ ∀ text, x.outcome ≠ .exception text := by
  constructor
  · intro h
    by_contra hn
    refine lacks_serverErrorMiddleware ?_ h
    have hcases : answeredByCors st req = true ∨ Lacks (limitedApp st req x) none := by
      by_cases hc : answeredByCors st req = true
      · exact .inl hc
      · refine .inr (lacks_limitedApp ?_ none)
        by_contra hno
        push Not at hno
        exact hn ⟨by simpa using hc, by simpa using hno.1, hno.2⟩
    cases ho : st.corsOriginsForMiddleware with
    | none => exact hcases.resolve_left (by simp [answeredByCors, ho])
    | some origins =>
      refine lacks_corsMiddleware (hcases.imp (fun hc => ?_) id)
      simpa [answeredByCors, ho] using hc
  · rintro ⟨hc, hl, hx⟩
    refine carries_serverErrorMiddleware ?_
    have hinner := carries_limitedApp hl hx none
    cases ho : st.corsOriginsForMiddleware with
    | none => exact hinner
    | some origins => exact carries_corsMiddleware (by simpa [answeredByCors, ho] using hc) hinner

/-- **An unhandled exception is answered without the header**: `GET /lookup/isrc/USRC17607839` when the route
raises, without CORS and without a limit. -/
theorem unhandled_exception_lacks_header : ¬ ∀ st cors req x, CarriesRequestId (respond st cors req x) := by
  intro hall
  obtain ⟨rid, hrid, -⟩ := hall ⟨0, ""⟩ ⟨fun _ _ => ⟨200, [], none⟩, fun _ _ => [], by simp [Response.header],
    by simp⟩ ⟨"GET", "/lookup/isrc/USRC17607839", [], none⟩
    ⟨.init 120 60, 0, "8e4f", "51c2", .exception "boom"⟩
  cases hrid

end Layers

end LookupAggregator.App
