import LookupAggregator.ResilientHttp.Retry

/-! # The limit on the body, and the network

`read_response_body_limited` is exact about the limit: `readResponseBodyLimited_iff`. But `resilient_get` hands
it a response whose body `client.get` has read into memory already, so the limit decides what is returned, not
what is read from the network: `capRespected_iff` says for which bodies the two come to the same, and
`cap_exceeded` that they need not. -/

namespace LookupAggregator.ResilientHttp

/-! ### What is returned -/

/-- The `Content-Length` is absent, no integer, or within the limit. -/
def HeaderAllows (r : Response) (maxBytes : ℤ) : Prop :=
  ∀ raw, r.header "content-length" = some raw → ∀ cl, Py.int raw = some cl → cl ≤ maxBytes

/-- The `Content-Length` is over the limit. -/
def Response.headerOver (r : Response) (maxBytes : ℤ) : Bool := (contentLengthInt r).any (· > maxBytes)

theorem headerOver_eq_false_iff {r : Response} {maxBytes : ℤ} :
    r.headerOver maxBytes = false ↔ HeaderAllows r maxBytes := by
  unfold Response.headerOver HeaderAllows contentLengthInt
  cases r.header "content-length" with
  | none => simp
  | some raw => cases hcl : Py.int raw <;> simp [hcl]

theorem overLimit_eq_false_iff {r : Response} {maxBytes : ℤ} :
    r.overLimit maxBytes = false ↔ HeaderAllows r maxBytes ∧ (r.chunks.flatten.length : ℤ) ≤ maxBytes := by
  have hover : r.overLimit maxBytes =
      (r.headerOver maxBytes || decide ((r.chunks.flatten.length : ℤ) > maxBytes)) := rfl
  rw [hover, Bool.or_eq_false_iff, headerOver_eq_false_iff, decide_eq_false_iff_not, not_lt]

/-- **A body is returned whole exactly when header and size allow it**, and else the response is closed. The
chunks do not matter, and a body may be as large as the limit. -/
theorem readResponseBodyLimited_iff {maxBytes : ℤ} (h : 0 ≤ maxBytes) :
    (∀ r, HeaderAllows r maxBytes ∧ (r.chunks.flatten.length : ℤ) ≤ maxBytes →
      readResponseBodyLimited r maxBytes = ⟨.ok r.chunks.flatten, false⟩) ∧
    (∀ r, ¬ (HeaderAllows r maxBytes ∧ (r.chunks.flatten.length : ℤ) ≤ maxBytes) →
      readResponseBodyLimited r maxBytes = ⟨.error (.bodyTooLarge maxBytes), true⟩) ∧
    (∀ r r', r'.header "content-length" = r.header "content-length" → r'.chunks.flatten = r.chunks.flatten →
      readResponseBodyLimited r' maxBytes = readResponseBodyLimited r maxBytes) ∧
    ∀ r, HeaderAllows r maxBytes → (r.chunks.flatten.length : ℤ) = maxBytes →
      readResponseBodyLimited r maxBytes = ⟨.ok r.chunks.flatten, false⟩ := by
  have hok (r : Response) (hr : HeaderAllows r maxBytes ∧ (r.chunks.flatten.length : ℤ) ≤ maxBytes) :
      readResponseBodyLimited r maxBytes = ⟨.ok r.chunks.flatten, false⟩ := by
    rw [readResponseBodyLimited_eq h, overLimit_eq_false_iff.mpr hr]
    rfl
  refine ⟨hok, fun r hr => ?_, fun r r' hheader hbody => ?_, fun r hr hsize => hok r ⟨hr, hsize.le⟩⟩
  · have hover : r.overLimit maxBytes = true := by
      rw [← Bool.not_eq_false, overLimit_eq_false_iff]
      exact hr
    rw [readResponseBodyLimited_eq h, hover]
    rfl
  · have hover : r'.overLimit maxBytes = r.overLimit maxBytes := by
      unfold Response.overLimit Response.body contentLengthInt
      rw [hheader, hbody]
    have hbody' : r'.body = r.body := hbody
    rw [readResponseBodyLimited_eq h, readResponseBodyLimited_eq h, hover, hbody']

/-- Three bytes in two chunks and an empty one, with the limit 3 and with the limit 2. -/
theorem readResponseBodyLimited_iff_three :
    readResponseBodyLimited ⟨200, [("content-length", "3")], [[1, 2], [], [3]]⟩ 3 = ⟨.ok [1, 2, 3], false⟩ ∧
    readResponseBodyLimited ⟨200, [("content-length", "x")], [[1, 2], [], [3]]⟩ 2 =
      ⟨.error (.bodyTooLarge 2), true⟩ := by
  refine ⟨(readResponseBodyLimited_iff (by decide)).2.2.2 _ ?_ rfl,
    (readResponseBodyLimited_iff (by decide)).2.1 _ fun hr => absurd hr.2 (by decide)⟩
  rw [← headerOver_eq_false_iff]
  decide

/-! ### What is read from the network -/

/-- What comes back to a GET: no response, or a response whose chunks come one by one and that ends or, with
an error, breaks off. -/
inductive Wire
  | failed (e : GetError)
  | sent (response : Response) (broken : Option GetError)

/-- The bytes of a body that is in memory, as `aiter_bytes()` yields them again. -/
def rechunk (body : List UInt8) : List (List UInt8) := if body = [] then [] else [body]

/-- `await client.get(...)`, which reads the body to its end. -/
def clientGet : Wire → Except GetError Response
  | .failed e => .error e
  | .sent _ (some e) => .error e
  | .sent response none => .ok { response with chunks := rechunk response.body }

/-- The chunks it pulls from the network. -/
def pulled : Wire → List (List UInt8)
  | .failed _ => []
  | .sent response _ => response.chunks

/-- The head of a response says that the body is over the limit. -/
def Wire.headerOver (maxBytes : ℤ) : Wire → Bool
  | .failed _ => false
  | .sent response _ => response.headerOver maxBytes

/-- No chunk is pulled when the header or what has been pulled before is over the limit; so what is pulled
is over the limit by less than the last chunk. -/
structure CapRespected (maxBytes : ℤ) (headerOver : Bool) (chunks : List (List UInt8)) : Prop where
  stops : ∀ pre chunk post, chunks = pre ++ chunk :: post →
    headerOver = false ∧ (pre.flatten.length : ℤ) ≤ maxBytes
  bounded : ∀ pre chunk, chunks = pre ++ [chunk] → (chunks.flatten.length : ℤ) ≤ maxBytes + chunk.length

/-- There is no body, or the header is within the limit and all chunks but the last one are. -/
def FitsBeforeLast (maxBytes : ℤ) (headerOver : Bool) (chunks : List (List UInt8)) : Prop :=
  chunks = [] ∨ headerOver = false ∧ (chunks.dropLast.flatten.length : ℤ) ≤ maxBytes

/-- After this a call goes on to the next attempt, if there is one: one of the exceptions of the `except`
clause, or a 502, 503 or 504 with a body that is empty or within the limit. -/
def Wire.Retried (maxBytes : ℤ) : Wire → Prop
  | .failed e => e.retryable
  | .sent _ (some e) => e.retryable
  | .sent response none => response.statusCode ∈ retryStatus ∧ response.headerOver maxBytes = false ∧
      (response.body = [] ∨ (response.body.length : ℤ) ≤ maxBytes)

section Pulled
variable {maxBytes : ℤ} {headerOver : Bool} {chunks : List (List UInt8)}

/-- **The limit is kept exactly if all chunks before the last one are within it.** -/
theorem capRespected_iff_fits :
    CapRespected maxBytes headerOver chunks ↔ FitsBeforeLast maxBytes headerOver chunks := by
  constructor
  · intro h
    rcases List.eq_nil_or_concat chunks with hnil | ⟨pre, chunk, rfl⟩
    · exact Or.inl hnil
    · right
      rw [List.concat_eq_append, List.dropLast_concat]
      exact h.stops pre chunk [] (List.concat_eq_append ..)
  · intro h
    have hstops (pre post : List (List UInt8)) (chunk : List UInt8) (heq : chunks = pre ++ chunk :: post) :
        headerOver = false ∧ (pre.flatten.length : ℤ) ≤ maxBytes := by
      obtain ⟨hheader, hsize⟩ := h.resolve_left (by simp [heq])
      -- what comes before a chunk comes before the last one
      have hle : pre.flatten.length ≤ chunks.dropLast.flatten.length := by
        rw [heq, List.dropLast_append_cons, List.flatten_append, List.length_append]
        omega
      exact ⟨hheader, by omega⟩
    refine ⟨fun pre chunk post heq => hstops pre post chunk heq, fun pre chunk heq => ?_⟩
    have hpre := (hstops pre [] chunk heq).2
    rw [heq, List.flatten_append, List.length_append, List.flatten_singleton]
    push_cast
    omega

/-- The chunks that the loop of `read_response_body_limited` takes, with the bytes it has read so far. -/
def chunksTaken (maxBytes : ℤ) (buf : List UInt8) : List (List UInt8) → List (List UInt8)
  | [] => []
  | chunk :: chunks =>
    if ((buf ++ chunk).length : ℤ) > maxBytes then [chunk]
    else chunk :: chunksTaken maxBytes (buf ++ chunk) chunks

theorem chunksTaken_dropLast :
    ∀ {buf : List UInt8}, (buf.length : ℤ) ≤ maxBytes →
      ((buf ++ (chunksTaken maxBytes buf chunks).dropLast.flatten).length : ℤ) ≤ maxBytes := by
  induction chunks with
  | nil =>
    intro buf h
    simpa [chunksTaken] using h
  | cons chunk chunks ih =>
    intro buf h
    unfold chunksTaken
    split_ifs with hover
    · simpa using h
    · have hnext := ih (not_lt.mp hover)
      cases htaken : chunksTaken maxBytes (buf ++ chunk) chunks with
      | nil => simpa using h
      | cons c cs =>
        rw [htaken] at hnext
        rwa [List.dropLast_cons_cons, List.flatten_cons, ← List.append_assoc]

/-- **Handed the stream itself, `read_response_body_limited` would keep the limit.** -/
theorem capRespected_chunksTaken (h : 0 ≤ maxBytes) :
    CapRespected maxBytes false (chunksTaken maxBytes [] chunks) := by
  have hsize : (([] ++ (chunksTaken maxBytes [] chunks).dropLast.flatten).length : ℤ) ≤ maxBytes :=
    chunksTaken_dropLast (by simpa using h)
  rw [List.nil_append] at hsize
  exact capRespected_iff_fits.mpr (Or.inr ⟨rfl, hsize⟩)

end Pulled

/-! ### Which attempts are made -/

section Attempts
variable {st : HttpSettings} {wires : ℕ → Wire}

/-- A body in memory is read when header and size allow it, an empty one whatever its size may be. -/
theorem readResponseBodyLimited_rechunk (r : Response) (maxBytes : ℤ) :
    (readResponseBodyLimited { r with chunks := rechunk r.body } maxBytes).result =
      if r.headerOver maxBytes = false ∧ (r.body = [] ∨ (r.body.length : ℤ) ≤ maxBytes) then .ok r.body
      else .error (.bodyTooLarge maxBytes) := by
  have hchunks : (readChunks maxBytes [] (rechunk r.body)).result =
      if r.body = [] ∨ (r.body.length : ℤ) ≤ maxBytes then .ok r.body else .error (.bodyTooLarge maxBytes) := by
    unfold rechunk
    by_cases hnil : r.body = []
    · simp [hnil, readChunks]
    · by_cases hsize : (r.body.length : ℤ) ≤ maxBytes
      · simp [hnil, hsize, readChunks, not_lt.mpr hsize]
      · simp [hnil, hsize, readChunks, not_le.mp hsize]
  have hheader : (contentLengthInt { r with chunks := rechunk r.body }).any (· > maxBytes) =
      r.headerOver maxBytes := rfl
  rw [readResponseBodyLimited_header, hheader]
  cases r.headerOver maxBytes with
  | true => rfl
  | false => simpa using hchunks

/-- **What follows a GET**: the next attempt, or the end of the call. -/
theorem afterOutcome_clientGet (st : HttpSettings) (next : CallTrace) (a : ℕ) (w : Wire) :
    (w.Retried st.maxResponseBodyBytes ∧ SleepsAfter st a ∧
      (afterOutcome st next a (clientGet w)).actions = .sleep (st.backoff a) :: next.actions) ∨
    (¬ (w.Retried st.maxResponseBodyBytes ∧ SleepsAfter st a) ∧
      (afterOutcome st next a (clientGet w)).actions = []) := by
  have hsleep {P : Prop} (hP : P) (hleft : ((a + 1 : ℕ) : ℤ) < st.attempts) :
      (P ∧ SleepsAfter st a ∧ (sleepThen st next a).actions = .sleep (st.backoff a) :: next.actions) ∨
        (¬ (P ∧ SleepsAfter st a) ∧ (sleepThen st next a).actions = []) := by
    unfold sleepThen
    split_ifs with hoverflow
    · refine Or.inr ⟨fun h => ?_, rfl⟩
      rw [h.2.2] at hoverflow
      cases hoverflow
    · exact Or.inl ⟨hP, ⟨hleft, by simpa using hoverflow⟩, rfl⟩
  have herror (e : GetError) : (e.retryable ∧ SleepsAfter st a ∧
      (afterOutcome st next a (.error e)).actions = .sleep (st.backoff a) :: next.actions) ∨
      (¬ (e.retryable ∧ SleepsAfter st a) ∧ (afterOutcome st next a (.error e)).actions = []) := by
    unfold afterOutcome
    dsimp only
    split_ifs with he hlast
    · exact Or.inr ⟨fun h => absurd h.2.1 (not_lt.mpr hlast), rfl⟩
    · exact hsleep he (not_le.mp hlast)
    · exact Or.inr ⟨fun h => he h.1, rfl⟩
  rcases w with e | ⟨r, _ | e⟩
  · exact herror e
  · unfold afterOutcome clientGet Wire.Retried
    dsimp only
    rw [readResponseBodyLimited_rechunk]
    by_cases hread : r.headerOver st.maxResponseBodyBytes = false ∧
        (r.body = [] ∨ (r.body.length : ℤ) ≤ st.maxResponseBodyBytes)
    · rw [if_pos hread]
      dsimp only
      split_ifs with hretry
      · exact hsleep ⟨hretry.1, hread⟩ hretry.2
      · exact Or.inr ⟨fun h => hretry ⟨h.1.1, h.2.1⟩, rfl⟩
    · rw [if_neg hread]
      exact Or.inr ⟨fun h => hread h.1.2, rfl⟩
  · exact herror e

/-- The attempts of the loop from an attempt on. -/
theorem get_mem_attemptLoop {i : ℕ} : ∀ {remaining attempt : ℕ},
    ((attempt + remaining : ℕ) : ℤ) = st.attempts →
      (.get i ∈ (attemptLoop st (fun i => clientGet (wires i)) remaining attempt).actions ↔
        attempt ≤ i ∧ (i : ℤ) < st.attempts ∧
          ∀ j, attempt ≤ j → j < i → (wires j).Retried st.maxResponseBodyBytes ∧ overflows j = false) := by
  intro remaining
  induction remaining with
  | zero =>
    intro attempt hn
    refine iff_of_false List.not_mem_nil fun h => ?_
    have := h.1
    have := h.2.1
    omega
  | succ remaining ih =>
    intro attempt hn
    have hmem : .get i ∈ (attemptLoop st (fun i => clientGet (wires i)) (remaining + 1) attempt).actions ↔
        i = attempt ∨ .get i ∈ (afterOutcome st
          (attemptLoop st (fun i => clientGet (wires i)) remaining (attempt + 1)) attempt
          (clientGet (wires attempt))).actions := by
      simp [attemptLoop, CallTrace.after]
    rw [hmem]
    rcases afterOutcome_clientGet st (attemptLoop st (fun i => clientGet (wires i)) remaining (attempt + 1))
      attempt (wires attempt) with ⟨hretried, ⟨hlt, hfloat⟩, hactions⟩ | ⟨hlast, hactions⟩
    · rw [hactions, List.mem_cons, ih (by omega)]
      simp only [reduceCtorEq, false_or]
      constructor
      · rintro (rfl | ⟨hle, hi, hall⟩)
        · exact ⟨le_rfl, by omega, fun j hj hj' => by omega⟩
        · refine ⟨by omega, hi, fun j hj hj' => ?_⟩
          rcases Nat.eq_or_lt_of_le hj with rfl | hj
          · exact ⟨hretried, hfloat⟩
          · exact hall j hj hj'
      · rintro ⟨hle, hi, hall⟩
        rcases Nat.eq_or_lt_of_le hle with rfl | hlt'
        · exact Or.inl rfl
        · exact Or.inr ⟨hlt', hi, fun j hj hj' => hall j (by omega) hj'⟩
    · rw [hactions]
      simp only [List.not_mem_nil, or_false]
      constructor
      · rintro rfl
        exact ⟨le_rfl, by omega, fun j hj hj' => by omega⟩
      · rintro ⟨hle, hi, hall⟩
        by_contra hne
        obtain ⟨hretried, hfloat⟩ := hall attempt le_rfl (by omega)
        exact hlast ⟨hretried, by omega, hfloat⟩

/-- **A GET is sent in every attempt up to the first whose outcome is not retried**, and in none after the
attempt 1024. -/
theorem get_mem_resilientGet {i : ℕ} :
    .get i ∈ (resilientGet st fun i => clientGet (wires i)).actions ↔
      (i : ℤ) < st.attempts ∧ i ≤ 1024 ∧ ∀ j < i, (wires j).Retried st.maxResponseBodyBytes := by
  have hn : ((0 + st.attempts.toNat : ℕ) : ℤ) = st.attempts := by
    have := attempts_pos st
    omega
  unfold resilientGet
  rw [get_mem_attemptLoop hn]
  simp only [zero_le, true_and, true_implies, forall_and, overflows, decide_eq_false_iff_not, not_le]
  refine and_congr_right fun _ => and_comm.trans (and_congr_left fun _ => ⟨fun hfloat => ?_, ?_⟩)
  · by_contra hi
    exact absurd (hfloat 1024 (not_le.mp hi)) (lt_irrefl 1024)
  · exact fun hi j hj => Nat.lt_of_lt_of_le hj hi

end Attempts

/-- **Exactly when `resilient_get` keeps the limit on the network**: when in every attempt made there is no
body, or the header and all chunks before the last one are within the limit. -/
theorem capRespected_iff (st : HttpSettings) (wires : ℕ → Wire) :
    (∀ i, .get i ∈ (resilientGet st fun i => clientGet (wires i)).actions →
      CapRespected st.maxResponseBodyBytes ((wires i).headerOver st.maxResponseBodyBytes)
        (pulled (wires i))) ↔
    ∀ i : ℕ, (i : ℤ) < st.attempts → i ≤ 1024 → (∀ j < i, (wires j).Retried st.maxResponseBodyBytes) →
      FitsBeforeLast st.maxResponseBodyBytes ((wires i).headerOver st.maxResponseBodyBytes)
        (pulled (wires i)) := by
  simp only [get_mem_resilientGet, capRespected_iff_fits, and_imp]

/-- **Three chunks are read under a limit of one byte**, and then the body is too large. -/
theorem cap_exceeded :
    (resilientGet ⟨0, 0, 1⟩ fun _ => clientGet (.sent ⟨200, [], [[1], [2], [3]]⟩ none)) =
      ⟨[.get 0], some (.error (.bodyTooLarge 1))⟩ ∧
    ¬ ∀ (st : HttpSettings) (wires : ℕ → Wire) (i : ℕ),
      .get i ∈ (resilientGet st fun i => clientGet (wires i)).actions →
        CapRespected st.maxResponseBodyBytes ((wires i).headerOver st.maxResponseBodyBytes)
          (pulled (wires i)) := by
  have hrun : (resilientGet ⟨0, 0, 1⟩ fun _ => clientGet (.sent ⟨200, [], [[1], [2], [3]]⟩ none)) =
      ⟨[.get 0], some (.error (.bodyTooLarge 1))⟩ := rfl
  refine ⟨hrun, fun hall => ?_⟩
  have hcap := hall ⟨0, 0, 1⟩ (fun _ => .sent ⟨200, [], [[1], [2], [3]]⟩ none) 0
    (by rw [hrun]; exact List.mem_singleton_self _)
  exact absurd (hcap.stops [[1], [2]] [3] [] rfl).2 (by decide)

end LookupAggregator.ResilientHttp
