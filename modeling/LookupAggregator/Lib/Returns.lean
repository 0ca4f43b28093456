import Mathlib.Data.List.Basic

/-! # Computations that may raise

`Returns x post` says of a computation `x` that it returns, and that what it returns satisfies `post`: the
weakest precondition of `x` for total correctness; `Ensures x post` is the one for partial correctness. They
are computed through `>>=` and through the two loops over a list, `gather` and `gatherUpTo`, which append
what their body gives for each element; a search for the first hit is `firstHit`. -/

namespace LookupAggregator.Lib

variable {ε : Type*} {α β γ : Type}

/-- The computation returns, and what it returns satisfies `post`. -/
def Returns (x : Except ε α) (post : α → Prop) : Prop := ∃ a, x = .ok a ∧ post a

/-! ### Rules -/

@[simp] theorem returns_ok {a : α} {post : α → Prop} : Returns (.ok a : Except ε α) post ↔ post a := by
  constructor
  · rintro ⟨b, hb, h⟩
    cases hb
    exact h
  · exact fun h => ⟨a, rfl, h⟩

@[simp] theorem not_returns_error {e : ε} {post : α → Prop} : ¬ Returns (.error e : Except ε α) post := by
  rintro ⟨a, ha, -⟩
  cases ha

@[simp] theorem returns_bind {x : Except ε α} {f : α → Except ε β} {post : β → Prop} :
    Returns (x >>= f) post ↔ Returns x fun a => Returns (f a) post := by
  cases x with
  | error e => exact iff_of_false not_returns_error not_returns_error
  | ok a => rw [returns_ok]; rfl

theorem Returns.mono {x : Except ε α} {post post' : α → Prop} (h : Returns x post)
    (hpost : ∀ a, post a → post' a) : Returns x post' := by
  obtain ⟨a, ha, hp⟩ := h
  exact ⟨a, ha, hpost a hp⟩

/-- Where every result is as wanted, only returning matters. -/
theorem returns_iff_of_forall {x : Except ε α} {post : α → Prop} (h : ∀ a, post a) :
    Returns x post ↔ Returns x fun _ => True :=
  ⟨fun hr => hr.mono fun _ _ => trivial, fun hr => hr.mono fun a _ => h a⟩

theorem Returns.of_eq_ok {x : Except ε α} {post : α → Prop} (h : Returns x post) {a : α} (ha : x = .ok a) :
    post a := by
  rw [ha] at h
  exact returns_ok.mp h

theorem bind_eq_ok {x : Except ε α} {f : α → Except ε β} {b : β} :
    x >>= f = .ok b ↔ ∃ a, x = .ok a ∧ f a = .ok b := by
  cases x with
  | error e => exact iff_of_false (fun h => by cases h) (fun ⟨_, h, _⟩ => by cases h)
  | ok a => exact ⟨fun h => ⟨a, rfl, h⟩, fun ⟨_, h, hf⟩ => by cases h; exact hf⟩

/-! ### Partial correctness -/

/-- Whatever the computation returns satisfies `post`; it may raise instead. -/
def Ensures (x : Except ε α) (post : α → Prop) : Prop := ∀ a, x = .ok a → post a

@[simp] theorem ensures_ok {a : α} {post : α → Prop} : Ensures (.ok a : Except ε α) post ↔ post a :=
  ⟨fun h => h a rfl, fun h _ ha => Except.ok.inj ha ▸ h⟩

@[simp] theorem ensures_bind {x : Except ε α} {f : α → Except ε β} {post : β → Prop} :
    Ensures (x >>= f) post ↔ Ensures x fun a => Ensures (f a) post := by
  constructor
  · exact fun h a ha b hb => h b (bind_eq_ok.mpr ⟨a, ha, hb⟩)
  · intro h b hb
    obtain ⟨a, ha, hb⟩ := bind_eq_ok.mp hb
    exact h a ha b hb

/-- Where the first part may return anything, only what follows matters. -/
theorem Ensures.bind {x : Except ε α} {f : α → Except ε β} {post : β → Prop}
    (h : ∀ a, Ensures (f a) post) : Ensures (x >>= f) post :=
  ensures_bind.mpr fun a _ => h a

theorem Ensures.mono {x : Except ε α} {post post' : α → Prop} (h : Ensures x post)
    (hpost : ∀ a, post a → post' a) : Ensures x post' := fun a ha => hpost a (h a ha)

theorem Returns.ensures {x : Except ε α} {post : α → Prop} (h : Returns x post) : Ensures x post :=
  fun _ ha => h.of_eq_ok ha

/-! ### Loops that append -/

/-- `for x in xs: out += f(x)`. -/
def gather (f : α → Except ε (List β)) : List α → Except ε (List β)
  | [] => .ok []
  | x :: xs => do
    let rows ← f x
    let rest ← gather f xs
    .ok (rows ++ rest)

/-- `for x in xs: out += f(x)`, left as soon as `out` has `limit` elements. -/
def gatherUpTo (limit : ℕ) (f : α → Except ε (List β)) (out : List β) : List α → Except ε (List β)
  | [] => .ok out
  | x :: xs => do
    let rows ← f x
    if limit ≤ (out ++ rows).length then .ok (out ++ rows) else gatherUpTo limit f (out ++ rows) xs

theorem gather_eq {f : α → Except ε (List β)} {g : α → List β} {xs : List α}
    (h : ∀ x ∈ xs, f x = .ok (g x)) : gather f xs = .ok (xs.flatMap g) := by
  induction xs with
  | nil => rfl
  | cons x xs ih =>
    rw [List.forall_mem_cons] at h
    rw [gather, h.1, ih h.2]
    rfl

/-- **A loop returns if and only if its body does for each element.** -/
theorem returns_gather {f : α → Except ε (List β)} {xs : List α} :
    (Returns (gather f xs) fun _ => True) ↔ ∀ x ∈ xs, Returns (f x) fun _ => True := by
  induction xs with
  | nil => simp [gather]
  | cons x xs ih =>
    rw [List.forall_mem_cons, ← ih, gather, returns_bind]
    constructor
    · rintro ⟨rows, hrows, h⟩
      exact ⟨⟨rows, hrows, trivial⟩, (returns_bind.mp h).mono fun _ _ => trivial⟩
    · rintro ⟨⟨rows, hrows, -⟩, h⟩
      exact ⟨rows, hrows, returns_bind.mpr (h.mono fun _ _ => returns_ok.mpr trivial)⟩

/-- **A bounded loop whose body appends at most one element gives the first elements, up to the limit**, of
all that an unbounded one gives. -/
theorem gatherUpTo_eq {limit : ℕ} {f : α → Except ε (List β)} {g : α → List β} {xs : List α}
    (hf : ∀ x ∈ xs, f x = .ok (g x)) (hg : ∀ x ∈ xs, (g x).length ≤ 1) {out : List β}
    (hout : out.length < limit) : gatherUpTo limit f out xs = .ok ((out ++ xs.flatMap g).take limit) := by
  induction xs generalizing out with
  | nil => rw [gatherUpTo, List.flatMap_nil, List.append_nil, List.take_of_length_le (Nat.le_of_lt hout)]
  | cons x xs ih =>
    rw [List.forall_mem_cons] at hf hg
    have hlen : (out ++ g x).length ≤ limit := by
      have := hg.1
      rw [List.length_append]
      omega
    have hstep : gatherUpTo limit f out (x :: xs) =
        if limit ≤ (out ++ g x).length then .ok (out ++ g x) else gatherUpTo limit f (out ++ g x) xs := by
      rw [gatherUpTo, hf.1]
      rfl
    rw [hstep, List.flatMap_cons, ← List.append_assoc]
    split_ifs with hfull
    · rw [List.take_left' (Nat.le_antisymm hlen hfull)]
    · exact ih hf.2 hg.2 (Nat.lt_of_not_le hfull)

/-! ### When a computation returns, and what -/

/-- The computation returns if and only if `good` holds, and then it returns `a`. -/
def Computes (x : Except ε α) (good : Prop) (a : α) : Prop := ∀ post, Returns x post ↔ good ∧ post a

namespace Computes
variable {x : Except ε α} {good : Prop} {a : α}

theorem ok (a : α) : Computes (.ok a : Except ε α) True a := fun _ => by
  rw [returns_ok, true_and]

theorem of_iff (h : Computes x good a) {good' : Prop} (hgood : good ↔ good') : Computes x good' a :=
  fun post => by rw [h post, hgood]

theorem returns (h : Computes x good a) : (Returns x fun _ => True) ↔ good := by
  rw [h, and_true]

/-- Where it returns, a computation is its result. -/
theorem eq_ok (h : Computes x good a) (hgood : good) : x = .ok a := by
  obtain ⟨b, hb, rfl⟩ := (h fun b => b = a).mpr ⟨hgood, rfl⟩
  exact hb

theorem eq_ok_iff (h : Computes x good a) {b : α} : x = .ok b ↔ good ∧ b = a := by
  have hreturns : x = .ok b ↔ Returns x fun c => b = c :=
    ⟨fun hx => ⟨b, hx, rfl⟩, fun ⟨c, hx, hc⟩ => hc ▸ hx⟩
  rw [hreturns, h]

theorem bind (hx : Computes x good a) {f : α → Except ε β} {good' : Prop} {b : β}
    (hf : Computes (f a) good' b) : Computes (x >>= f) (good ∧ good') b := fun post => by
  rw [returns_bind, hx, hf, and_assoc]

theorem gather {f : α → Except ε (List β)} {goodAt : α → Prop} {g : α → List β} {xs : List α}
    (h : ∀ x ∈ xs, Computes (f x) (goodAt x) (g x)) :
    Computes (gather f xs) (∀ x ∈ xs, goodAt x) (xs.flatMap g) := by
  induction xs with
  | nil =>
    exact (ok []).of_iff (by simp)
  | cons x xs ih =>
    rw [List.forall_mem_cons] at h
    have hrest : Computes (Lib.gather f xs >>= fun rest => .ok (g x ++ rest)) (∀ x ∈ xs, goodAt x)
        (g x ++ xs.flatMap g) :=
      (bind (f := fun rest => .ok (g x ++ rest)) (ih h.2) (ok _)).of_iff (iff_of_eq (and_true _))
    have hcons : Computes (Lib.gather f (x :: xs)) (goodAt x ∧ ∀ x ∈ xs, goodAt x) (g x ++ xs.flatMap g) :=
      bind (f := fun rows => Lib.gather f xs >>= fun rest => .ok (rows ++ rest)) h.1 hrest
    exact hcons.of_iff List.forall_mem_cons.symm

end Computes

/-! ### The first hit -/

section FirstHit
variable (run : α → Except ε β) (hit : β → Bool)

/-- Runs the queries in turn until one hits, and returns what the last one run gave. -/
def firstHit (last : β) : List α → Except ε β
  | [] => .ok last
  | q :: qs => do
    let b ← run q
    if hit b then .ok b else firstHit b qs

/-- The queries that `firstHit` runs: it goes on after a miss only. -/
def issued : List α → List α
  | [] => []
  | q :: qs => q :: match run q with
    | .ok b => if hit b then [] else issued qs
    | .error _ => []

/-- A query that returns, without a hit. -/
def Misses (q : α) : Prop := ∃ b, run q = .ok b ∧ hit b = false

variable {run hit}

/-- A search for the first hit, and what is done with its result. -/
theorem firstHit_cons_bind (last : β) (q : α) (qs : List α) (next : β → Except ε γ) :
    firstHit run hit last (q :: qs) >>= next =
      run q >>= fun b => if hit b then next b else firstHit run hit b qs >>= next := by
  rw [firstHit, bind_assoc]
  refine bind_congr fun b => ?_
  split_ifs <;> rfl

/-- What holds of `last` and of every result holds of the result of the search. -/
theorem ensures_firstHit {post : β → Prop} {qs : List α} (h : ∀ q ∈ qs, Ensures (run q) post) {last : β}
    (hlast : post last) : Ensures (firstHit run hit last qs) post := by
  induction qs generalizing last with
  | nil => exact ensures_ok.mpr hlast
  | cons q qs ih =>
    rw [List.forall_mem_cons] at h
    rw [firstHit, ensures_bind]
    intro b hb
    split_ifs
    · exact ensures_ok.mpr (h.1 b hb)
    · exact ih h.2 (h.1 b hb)

/-- Where every query misses, all are run and the last one decides. -/
theorem firstHit_of_misses {qs : List α} (h : ∀ q ∈ qs, Misses run hit q) (last : β) :
    issued run hit qs = qs ∧ firstHit run hit last qs = (qs.getLast?.map run).getD (.ok last) := by
  induction qs generalizing last with
  | nil => exact ⟨rfl, rfl⟩
  | cons q qs ih =>
    rw [List.forall_mem_cons] at h
    obtain ⟨⟨b, hb, hmiss⟩, h⟩ := h
    have hrest := ih h b
    constructor
    · simp [issued, hb, hmiss, hrest.1]
    · have hstep : firstHit run hit last (q :: qs) = firstHit run hit b qs := by
        rw [firstHit, hb]
        exact if_neg (by rw [hmiss]; simp)
      rw [hstep, hrest.2, List.getLast?_cons]
      cases qs.getLast? with
      | none => exact hb.symm
      | some q' => rfl

/-- Where some query does not miss, the first such one is the last that is run, and its result is
returned. -/
theorem firstHit_of_not_misses {qs : List α} (h : ∃ q ∈ qs, ¬ Misses run hit q) (last : β) :
    ∃ q ∈ issued run hit qs, firstHit run hit last qs = run q ∧ ¬ Misses run hit q := by
  induction qs generalizing last with
  | nil =>
    obtain ⟨q, hq, -⟩ := h
    cases hq
  | cons q qs ih =>
    cases hrun : run q with
    | error e =>
      refine ⟨q, List.mem_cons_self, ?_, ?_⟩
      · rw [firstHit, hrun]
        rfl
      · rintro ⟨b, hb, -⟩
        rw [hrun] at hb
        cases hb
    | ok b =>
      cases hhit : hit b with
      | true =>
        refine ⟨q, List.mem_cons_self, ?_, ?_⟩
        · rw [firstHit, hrun]
          exact if_pos hhit
        · rintro ⟨b', hb', hmiss⟩
          rw [hrun] at hb'
          cases hb'
          rw [hhit] at hmiss
          cases hmiss
      | false =>
        have hrest : ∃ q' ∈ qs, ¬ Misses run hit q' := by
          obtain ⟨q', hq', hnot⟩ := h
          rcases List.mem_cons.mp hq' with rfl | hq'
          · exact absurd ⟨b, hrun, hhit⟩ hnot
          · exact ⟨q', hq', hnot⟩
        obtain ⟨q', hmem, heq, hnot⟩ := ih hrest b
        refine ⟨q', ?_, ?_, hnot⟩
        · simp [issued, hrun, hhit, hmem]
        · rw [← heq, firstHit, hrun]
          exact if_neg (by rw [hhit]; simp)

/-- **A search returns if and only if each query that it runs does.** -/
theorem returns_firstHit {qs : List α} (last : β) :
    (Returns (firstHit run hit last qs) fun _ => True) ↔
      ∀ q ∈ issued run hit qs, Returns (run q) fun _ => True := by
  induction qs generalizing last with
  | nil => exact iff_of_true (returns_ok.mpr trivial) fun q hq => by cases hq
  | cons q qs ih =>
    rw [firstHit, issued, returns_bind, List.forall_mem_cons]
    cases hrun : run q with
    | error e => exact iff_of_false not_returns_error fun h => not_returns_error h.1
    | ok b =>
      rw [returns_ok, returns_ok, true_and]
      dsimp only
      split_ifs with hb
      · exact iff_of_true (returns_ok.mpr trivial) fun q hq => by cases hq
      · exact ih b

/-- A search that hits goes on hitting when queries that return are put before its own. -/
theorem Returns.firstHit_append {pre qs : List α} (hpre : ∀ q ∈ pre, Returns (run q) fun _ => True)
    {last : β} (hlast : hit last = false)
    (h : Returns (firstHit run hit last qs) fun b => hit b = true) (last' : β) :
    Returns (firstHit run hit last' (pre ++ qs)) fun b => hit b = true := by
  induction pre generalizing last' with
  | nil =>
    cases qs with
    | nil =>
      -- a search over no query does not hit
      have hhit := returns_ok.mp h
      rw [hlast] at hhit
      cases hhit
    | cons q qs => exact h
  | cons q pre ih =>
    rw [List.forall_mem_cons] at hpre
    rw [List.cons_append, firstHit, returns_bind]
    refine hpre.1.mono fun b _ => ?_
    split_ifs with hb
    · exact returns_ok.mpr hb
    · exact ih hpre.2 b

end FirstHit

end LookupAggregator.Lib
