import LookupAggregator.Py.Text

/-! # Reading a response body

`read_response_body_limited` gives up as soon as the `Content-Length` header or the bytes read so far
exceed `max_response_body_bytes`. -/

namespace LookupAggregator.ResilientHttp

/-- What a `resilient_get` can raise: the three exceptions it retries on, `ResponseBodyTooLarge`, any
other `httpx.HTTPError`, any other `Exception`, and the cancellation of the task. -/
inductive GetError
  | timeout (msg : String)
  | connect (msg : String)
  | remoteProtocol (msg : String)
  | bodyTooLarge (maxBytes : ℤ)
  | http (msg : String)
  | other (msg : String)
  | cancelled
deriving DecidableEq

/-- A response: the header names in lower case, as `httpx.Headers` compares them, and the chunks that
`aiter_bytes()` yields. -/
structure Response where
  statusCode : ℕ
  headers : List (String × String)
  chunks : List (List UInt8)
deriving DecidableEq

/-- `response.headers.get(name)`: repeated headers are joined. -/
def Response.header (r : Response) (name : String) : Option String :=
  match (r.headers.filter fun h => h.1 = name).map Prod.snd with
  | [] => none
  | values => some (String.intercalate ", " values)

/-- `_content_length_int(response)`. -/
def contentLengthInt (r : Response) : Option ℤ := (r.header "content-length").bind Py.int

/-- A body, or why there is none, and whether the response was closed before its end. -/
structure BodyRead where
  result : Except GetError (List UInt8)
  closed : Bool

/-- The loop over `response.aiter_bytes()`, with the bytes read so far. -/
def readChunks (maxBytes : ℤ) (buf : List UInt8) : List (List UInt8) → BodyRead
  | [] => ⟨.ok buf, false⟩
  | chunk :: chunks =>
    if ((buf ++ chunk).length : ℤ) > maxBytes then ⟨.error (.bodyTooLarge maxBytes), true⟩
    else readChunks maxBytes (buf ++ chunk) chunks

/-- `read_response_body_limited(response, max_bytes)`. -/
def readResponseBodyLimited (r : Response) (maxBytes : ℤ) : BodyRead :=
  match contentLengthInt r with
  | some cl =>
    if cl > maxBytes then ⟨.error (.bodyTooLarge maxBytes), true⟩ else readChunks maxBytes [] r.chunks
  | none => readChunks maxBytes [] r.chunks

/-- `_materialized_response(original, body)`: the headers about the transfer are dropped. The
`Content-Length` that `httpx` writes for the new body is not modelled. -/
def materializedResponse (original : Response) (body : List UInt8) : Response where
  statusCode := original.statusCode
  headers := original.headers.filter fun h =>
    h.1 ∉ ["content-encoding", "content-length", "transfer-encoding"]
  chunks := [body]

end LookupAggregator.ResilientHttp
