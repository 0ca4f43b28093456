import Mathlib.Algebra.Order.BigOperators.Group.List
import Mathlib.Algebra.Order.Group.Nat
import LookupAggregator.Lib.Returns

/-! # Computations that ask

A computation that asks questions is a function of the world that answers them. `Asks ask cost f` says that
at most `cost u` answers decide what `f` gives in the world `u`: it gives the same in every world where these
are the same, whatever the others. Which questions they are may depend on the answers to the ones before
(`Asks.bind`, `Asks.of_cases`). -/

namespace LookupAggregator.Lib

variable {U V Q P A B C D : Type*} {ε α β γ : Type}

/-- In each world, as many answers as `cost` says decide what `f` gives. -/
def Asks (ask : U → Q → A) (cost : U → ℕ) (f : U → B) : Prop :=
  ∀ u, ∃ qs : List Q, qs.length ≤ cost u ∧ ∀ u', (∀ q ∈ qs, ask u' q = ask u q) → f u' = f u

/-- The cost that depends on a result, if there is one. -/
def costOf (n : α → ℕ) : Except ε α → ℕ
  | .ok a => n a
  | .error _ => 0

namespace Asks
variable {ask : U → Q → A} {cost cost' : U → ℕ} {f : U → B}

/-! ### Rules -/

theorem const (b : B) : Asks ask cost fun _ => b := fun _ => ⟨[], Nat.zero_le _, fun _ _ => rfl⟩

/-- One answer decides. -/
theorem of_answer (q : Q) (h : ∀ u u', ask u' q = ask u q → f u' = f u) : Asks ask (fun _ => 1) f :=
  fun u => ⟨[q], Nat.le_refl _, fun u' hu => h u u' (hu q (List.mem_singleton_self q))⟩

theorem mono (h : Asks ask cost f) (hcost : ∀ u, cost u ≤ cost' u) : Asks ask cost' f := by
  intro u
  obtain ⟨qs, hlength, hqs⟩ := h u
  exact ⟨qs, Nat.le_trans hlength (hcost u), hqs⟩

theorem map (h : Asks ask cost f) (g : B → C) : Asks ask cost fun u => g (f u) := by
  intro u
  obtain ⟨qs, hlength, hqs⟩ := h u
  exact ⟨qs, hlength, fun u' hu => congrArg g (hqs u' hu)⟩

/-- What is asked second may depend on what the first part gives. -/
theorem bind (hf : Asks ask cost f) {g : B → U → C} {n : B → U → ℕ}
    (hg : ∀ b, Asks ask (n b) (g b)) :
    Asks ask (fun u => cost u + n (f u) u) fun u => g (f u) u := by
  intro u
  obtain ⟨qs, hlength, hqs⟩ := hf u
  obtain ⟨qs', hlength', hqs'⟩ := hg (f u) u
  refine ⟨qs ++ qs', ?_, fun u' hu => ?_⟩
  · rw [List.length_append]
    exact Nat.add_le_add hlength hlength'
  · rw [List.forall_mem_append] at hu
    show g (f u') u' = g (f u) u
    rw [hqs u' hu.1]
    exact hqs' u' hu.2

theorem map₂ {g : U → C} (hf : Asks ask cost f) (hg : Asks ask cost' g) (op : B → C → D) :
    Asks ask (fun u => cost u + cost' u) fun u => op (f u) (g u) :=
  hf.bind (g := fun b u => op b (g u)) fun b => hg.map (op b)

/-- The computation asks `q`, and goes on in a way that depends on the answer. -/
theorem of_cases (q : Q) {n : ℕ}
    (h : ∀ u, ∃ g : U → B, Asks ask (fun _ => n) g ∧ ∀ u', ask u' q = ask u q → f u' = g u') :
    Asks ask (fun _ => 1 + n) f := by
  intro u
  obtain ⟨g, hg, hfg⟩ := h u
  obtain ⟨qs, hlength, hqs⟩ := hg u
  have hle : (q :: qs).length ≤ 1 + n := by
    rw [List.length_cons, Nat.add_comm]
    exact Nat.add_le_add_left hlength 1
  refine ⟨q :: qs, hle, fun u' hu => ?_⟩
  rw [List.forall_mem_cons] at hu
  rw [hfg u' hu.1, hfg u rfl]
  exact hqs u' hu.2

/-- A part of the world asks for its part of the answers. -/
theorem comap {askV : V → P → A} {costV : V → ℕ} {f : V → B} (h : Asks askV costV f) (view : U → V)
    (embed : P → Q) (hask : ∀ u p, ask u (embed p) = askV (view u) p) :
    Asks ask (fun u => costV (view u)) fun u => f (view u) := by
  intro u
  obtain ⟨ps, hlength, hps⟩ := h (view u)
  refine ⟨ps.map embed, by rwa [List.length_map], fun u' hu => hps (view u') fun p hp => ?_⟩
  rw [← hask, ← hask]
  exact hu _ (List.mem_map_of_mem hp)

/-- The answer to each question comes of answers from below, those that `sent` lists for it: of the questions
that decide, these decide. -/
theorem substitute {W R : Type*} (h : Asks ask cost f) (below : W → P → R) (view : W → U)
    {sent : W → Q → List P} {n : ℕ} (hlength : ∀ w q, (sent w q).length ≤ n)
    (hsent : ∀ w w' q, (∀ p ∈ sent w q, below w' p = below w p) → ask (view w') q = ask (view w) q) (w : W) :
    ∃ qs : List Q, qs.length ≤ cost (view w) ∧ (qs.flatMap (sent w)).length ≤ cost (view w) * n ∧
      (∀ u, (∀ q ∈ qs, ask u q = ask (view w) q) → f u = f (view w)) ∧
      ∀ w', (∀ p ∈ qs.flatMap (sent w), below w' p = below w p) → f (view w') = f (view w) := by
  obtain ⟨qs, hqs, hf⟩ := h (view w)
  refine ⟨qs, hqs, ?_, hf, fun w' hw => hf (view w') fun q hq => hsent w w' q ?_⟩
  · have hsum : ((qs.map fun q => (sent w q).length)).sum ≤ qs.length * n := by
      rw [← List.length_map (f := fun q => (sent w q).length)]
      refine List.sum_le_card_nsmul _ n fun x hx => ?_
      obtain ⟨q, -, rfl⟩ := List.mem_map.mp hx
      exact hlength w q
    rw [List.length_flatMap]
    exact hsum.trans (Nat.mul_le_mul_right n hqs)
  · exact fun p hp => hw p (List.mem_flatMap.mpr ⟨q, hq, hp⟩)

/-! ### A world that is its answers -/

theorem of_apply {f : (Q → A) → B} (q : Q) (h : ∀ u u' : Q → A, u' q = u q → f u' = f u) :
    Asks id (fun _ => 1) f :=
  of_answer q h

theorem of_apply_cases {f : (Q → A) → B} (q : Q) {n : ℕ} (h : ∀ u : Q → A, ∃ g : (Q → A) → B,
    Asks id (fun _ => n) g ∧ ∀ u' : Q → A, u' q = u q → f u' = g u') : Asks id (fun _ => 1 + n) f :=
  of_cases q h

/-! ### Computations that may raise -/

/-- What comes first asks nothing. -/
theorem of_bind (x : Except ε α) {g : α → U → Except ε γ} (hg : ∀ a, Asks ask cost (g a)) :
    Asks ask cost fun u => x >>= fun a => g a u := by
  cases x with
  | error e => exact const (Except.error e)
  | ok a => exact hg a

/-- What comes second asks as often as the result of the first says. -/
theorem except_bind {x : U → Except ε α} (hx : Asks ask cost x) {g : α → U → Except ε γ} {n : α → ℕ}
    (hg : ∀ a, Asks ask (fun _ => n a) (g a)) :
    Asks ask (fun u => cost u + costOf n (x u)) fun u => x u >>= fun a => g a u := by
  refine hx.bind (g := fun x u => x >>= fun a => g a u) (n := fun x _ => costOf n x) fun x => ?_
  cases x with
  | error e => exact const (Except.error e)
  | ok a => exact hg a

/-- A search for the first hit asks once for each query, at most. -/
theorem firstHit {run : U → α → Except ε β} {hit : β → Bool} {qs : List α}
    (h : ∀ q ∈ qs, Asks ask (fun _ => 1) fun u => run u q) (last : β) :
    Asks ask (fun _ => qs.length) fun u => firstHit (run u) hit last qs := by
  induction qs generalizing last with
  | nil => exact const (Except.ok last)
  | cons q qs ih =>
    rw [List.forall_mem_cons] at h
    refine (h.1.except_bind (n := fun _ => qs.length) fun b => ?_).mono fun u => ?_
    · split_ifs
      · exact const _
      · exact ih h.2 b
    · rw [List.length_cons]
      have hcost : costOf (fun _ => qs.length) (run u q) ≤ qs.length := by
        cases run u q with
        | error e => exact Nat.zero_le _
        | ok b => exact Nat.le_refl _
      omega

end Asks

end LookupAggregator.Lib
