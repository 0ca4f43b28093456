import Mathlib.Data.List.Basic

/-! # Labelled transition systems

A system is a set of initial states and a labelled step relation; an interleaving of tasks is a run
of it. Six rules are used by the developments above:

* `Reachable.invariant`: what holds initially and is kept by every step holds in every reachable
  state;
* `Reachable.simulate`: a map that turns every step into a step or into nothing carries reachable
  states to reachable states;
* `Path.embed`: a map that turns every step into a step carries runs to runs;
* `Path.forall_safe_iff`: when the steps that meet `C` keep an invariant and no other step leads to a
  safe state, a run is safe throughout exactly when all its steps meet `C`;
* `Path.countP_add_le`: steps that take from a potential to which no step adds are at most as many as there
  was potential;
* `exists_path_of_potential`: where a lower potential can always be reached, the end can. -/

namespace LookupAggregator.Lib.Transition

/-- A labelled transition system. -/
structure LTS (σ α : Type*) where
  init : σ → Prop
  step : σ → α → σ → Prop

variable {σ τ α β : Type*}

namespace LTS

variable (T : LTS σ α)

/-- The states that runs reach. -/
inductive Reachable : σ → Prop
  | init {s : σ} (h : T.init s) : Reachable s
  | step {s s' : σ} {a : α} (h : Reachable s) (hs : T.step s a s') : Reachable s'

/-- The system with only the steps that meet `C`. -/
def restrict (C : σ → α → Prop) : LTS σ α where
  init := T.init
  step s a s' := C s a ∧ T.step s a s'

/-- A run from `s` to `s'`, as the list of its steps. -/
inductive Path : σ → List (σ × α × σ) → σ → Prop
  | nil (s : σ) : Path s [] s
  | snoc {s s' s'' : σ} {a : α} {l : List (σ × α × σ)} (h : Path s l s') (hs : T.step s' a s'') :
    Path s (l ++ [(s', a, s'')]) s''

variable {T}

/-! ### Invariants -/

/-- **The invariant rule.** -/
theorem Reachable.invariant {I : σ → Prop} (h0 : ∀ s, T.init s → I s)
    (hI : ∀ s a s', I s → T.step s a s' → I s') {s : σ} (h : T.Reachable s) : I s := by
  induction h with
  | init h => exact h0 _ h
  | step _ hs ih => exact hI _ _ _ ih hs

/-- **The simulation rule.** -/
theorem Reachable.simulate {U : LTS τ β} (f : σ → τ) (h0 : ∀ s, T.init s → U.init (f s))
    (hs : ∀ s a s', T.Reachable s → T.step s a s' → f s' = f s ∨ ∃ b, U.step (f s) b (f s')) {s : σ}
    (h : T.Reachable s) : U.Reachable (f s) := by
  induction h with
  | init h => exact .init (h0 _ h)
  | step hr hstep ih =>
    rcases hs _ _ _ hr hstep with he | ⟨b, hb⟩
    · rw [he]; exact ih
    · exact .step ih hb

theorem Reachable.of_restrict {C : σ → α → Prop} {s : σ} (h : (T.restrict C).Reachable s) : T.Reachable s := by
  induction h with
  | init h => exact .init h
  | step _ hs ih => exact .step ih hs.2

theorem Path.of_restrict {C : σ → α → Prop} {s s' : σ} {l : List (σ × α × σ)}
    (h : (T.restrict C).Path s l s') : T.Path s l s' := by
  induction h with
  | nil => exact .nil _
  | snoc _ hs ih => exact .snoc ih hs.2

/-- **The embedding rule.** -/
theorem Path.embed {U : LTS τ β} (f : σ → τ) (g : α → β)
    (hs : ∀ s a s', T.step s a s' → U.step (f s) (g a) (f s')) {s s' : σ} {l : List (σ × α × σ)}
    (h : T.Path s l s') : U.Path (f s) (l.map fun tr => (f tr.1, g tr.2.1, f tr.2.2)) (f s') := by
  induction h with
  | nil => exact .nil _
  | snoc _ hstep ih =>
    rw [List.map_append]
    exact .snoc ih (hs _ _ _ hstep)

/-! ### Safe runs -/

/-- **Safe runs.** `I` implies `Safe` and is kept by the steps that meet `C`; a step from `I` that ends
in a safe state meets `C`. Then a run is safe throughout exactly when all its steps meet `C`. -/
theorem Path.forall_safe_iff {I Safe : σ → Prop} {C : σ → α → Prop} (hsafe : ∀ s, I s → Safe s)
    (hI : ∀ s a s', I s → T.step s a s' → C s a → I s')
    (hbad : ∀ s a s', I s → T.step s a s' → Safe s' → C s a) {s s' : σ} {l : List (σ × α × σ)}
    (h0 : I s) (h : T.Path s l s') :
    (∀ tr ∈ l, Safe tr.2.2) ↔ ∀ tr ∈ l, C tr.1 tr.2.1 := by
  -- the invariant holds at the end of every run that is safe or whose steps meet `C`
  suffices hall : ((∀ tr ∈ l, Safe tr.2.2) → (∀ tr ∈ l, C tr.1 tr.2.1) ∧ I s') ∧
      ((∀ tr ∈ l, C tr.1 tr.2.1) → (∀ tr ∈ l, Safe tr.2.2) ∧ I s') from
    ⟨fun h => (hall.1 h).1, fun h => (hall.2 h).1⟩
  induction h with
  | nil => exact ⟨fun _ => ⟨by simp, h0⟩, fun _ => ⟨by simp, h0⟩⟩
  | snoc _ hs ih =>
    obtain ⟨ih1, ih2⟩ := ih
    simp only [List.forall_mem_append, List.forall_mem_singleton]
    constructor
    · rintro ⟨hl, hlast⟩
      obtain ⟨hC, hI'⟩ := ih1 hl
      have hc := hbad _ _ _ hI' hs hlast
      exact ⟨⟨hC, hc⟩, hI _ _ _ hI' hs hc⟩
    · rintro ⟨hl, hlast⟩
      obtain ⟨hS, hI'⟩ := ih2 hl
      have hi := hI _ _ _ hI' hs hlast
      exact ⟨⟨hS, hsafe _ hi⟩, hi⟩

/-! ### Potentials -/

theorem Path.reachable {s s' : σ} {l : List (σ × α × σ)} (h : T.Path s l s') (h0 : T.Reachable s) :
    T.Reachable s' := by
  induction h with
  | nil => exact h0
  | snoc _ hs ih => exact .step ih hs

theorem Path.append {s s' s'' : σ} {l l' : List (σ × α × σ)} (h : T.Path s l s') (h' : T.Path s' l' s'') :
    T.Path s (l ++ l') s'' := by
  induction h' with
  | nil => rwa [List.append_nil]
  | snoc _ hs ih =>
    rw [← List.append_assoc]
    exact .snoc ih hs

/-- **The potential rule.** No step adds to the potential `m` and the steps of the kind `D` take from it, so
there are at most as many of these as there was potential. -/
theorem Path.countP_add_le {I : σ → Prop} {m : σ → ℕ} {D : α → Bool}
    (hI : ∀ s a s', I s → T.step s a s' → I s')
    (hm : ∀ s a s', I s → T.step s a s' → m s' + (if D a then 1 else 0) ≤ m s) {s s' : σ}
    {l : List (σ × α × σ)} (h0 : I s) (h : T.Path s l s') :
    (l.countP fun tr => D tr.2.1) + m s' ≤ m s := by
  suffices hall : I s' ∧ (l.countP fun tr => D tr.2.1) + m s' ≤ m s from hall.2
  induction h with
  | nil => exact ⟨h0, by simp⟩
  | snoc _ hs ih =>
    obtain ⟨hi, hle⟩ := ih
    refine ⟨hI _ _ _ hi hs, ?_⟩
    have hstep := hm _ _ _ hi hs
    rw [List.countP_append, List.countP_singleton]
    dsimp only
    omega

/-- **The progress rule.** From every state that is not done a run leads to a lower potential; hence one
leads to a state that is done. -/
theorem exists_path_of_potential {I Done : σ → Prop} (m : σ → ℕ)
    (h : ∀ s, I s → ¬ Done s → ∃ l s', T.Path s l s' ∧ I s' ∧ m s' < m s) {s : σ} (h0 : I s) :
    ∃ l s', T.Path s l s' ∧ I s' ∧ Done s' := by
  induction hn : m s using Nat.strongRecOn generalizing s with
  | ind n ih =>
    by_cases hd : Done s
    · exact ⟨[], s, .nil s, h0, hd⟩
    · obtain ⟨l, s', hl, hi, hlt⟩ := h s h0 hd
      obtain ⟨l', s'', hl', hdone⟩ := ih (m s') (hn ▸ hlt) hi rfl
      exact ⟨l ++ l', s'', hl.append hl', hdone⟩

end LTS

end LookupAggregator.Lib.Transition
