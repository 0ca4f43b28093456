import Mathlib.Tactic.NormNum
import LookupAggregator.Lib.Lists
import LookupAggregator.Cache.History

/-! # When the cache loses no live entry

`set` makes room before it looks whether its key is stored, and an overwrite leaves the key where it
stands. So an overwrite in a full store evicts the oldest entry although the store would not grow
(`overwrite_evicts_live_key`), and an overwrite below capacity leaves the refreshed key in front of keys
written before.

Neither happens when every `set` of a live key finds it as the newest entry below capacity, or as the
oldest entry of a full store (`InOrder`). In such runs a key that is in the store stays there until it
expires or as many other keys have been set as the store holds: behind it stand only keys set since
(`Behind`), and the store stands in the order of last writes (`written_order`). -/

namespace LookupAggregator.Cache

open LookupAggregator.Lib TtlCache

variable {V : Type}

/-! ### The law -/

/-- `k` was set after the last `set` of `k'`. -/
def WrittenBefore (ops : List (Op V)) (k' k : String) : Prop :=
  ∃ pre post, ops = pre ++ post ∧ k' ∉ setKeys post ∧ k ∈ setKeys post

/-- **No live entry is lost early** in the run `ops`. -/
structure KeepsLive (ttlS : Time) (maxEntries : ℤ) (ops : List (Op V)) : Prop where
  /-- A key set at `s`, and fewer than `max(1, max_entries)` other keys since: it is found until it
  expires. -/
  found : ∀ pre k v now₁ s post, ops = pre ++ .set k v now₁ s :: post → k ∉ setKeys post →
    ((setKeys post).dedup.length : ℤ) < max 1 maxEntries →
    ∀ c, run ttlS maxEntries ops = .ok c → ∀ t₁ t₂, Chronological (readings ops ++ [t₁, t₂]) →
      t₂ < s + ttlS → (c.get k t₁ t₂).1 = some v
  /-- Overwriting a stored key leaves every other live entry in the store. -/
  overwrite : ∀ pre k v now₁ s post, ops = pre ++ .set k v now₁ s :: post →
    ∀ c c', run ttlS maxEntries pre = .ok c → c.set k v now₁ s = .ok c' →
      k ∈ (c.purgeExpired now₁).store.keys →
      ∀ k' e, k' ≠ k → (k', e) ∈ (c.purgeExpired now₁).store.entries → (k', e) ∈ c'.store.entries
  /-- A `set` that evicts a key evicts every key written before it. -/
  order : ∀ pre k v now₁ s post, ops = pre ++ .set k v now₁ s :: post →
    ∀ c c', run ttlS maxEntries pre = .ok c → c.set k v now₁ s = .ok c' →
      ∀ k₁ k₂, k₁ ∈ (c.purgeExpired now₁).store.keys → k₁ ∉ c'.store.keys →
        k₂ ≠ k → WrittenBefore pre k₂ k₁ → k₂ ∉ c'.store.keys

/-- Where a `set` finds its key: not stored, or the newest entry below capacity, or the oldest entry of a
full store. -/
def InOrder (c : TtlCache V) (k : String) (now₁ : Time) : Prop :=
  k ∉ (c.purgeExpired now₁).store.keys ∨
  (((c.purgeExpired now₁).store.length : ℤ) < c.max ∧
    (c.purgeExpired now₁).store.keys.getLast? = some k) ∨
  (c.max ≤ (c.purgeExpired now₁).store.length ∧ (c.purgeExpired now₁).store.keys.head? = some k)

/-- The runs in which every `set` finds its key in order. -/
def Orderly (ttlS : Time) (maxEntries : ℤ) (ops : List (Op V)) : Prop :=
  ∀ pre k v now₁ s post, ops = pre ++ .set k v now₁ s :: post →
    ∀ c, run ttlS maxEntries pre = .ok c → InOrder c k now₁

theorem Orderly.prefix {ttlS : Time} {m : ℤ} {ops ops' : List (Op V)}
    (h : Orderly ttlS m (ops ++ ops')) : Orderly ttlS m ops := fun pre k v now₁ s post he c hc =>
  h pre k v now₁ s (post ++ ops') (by rw [he]; simp) c hc

instance (c : TtlCache V) (k : String) (now₁ : Time) : Decidable (InOrder c k now₁) := by
  unfold InOrder; infer_instance

theorem orderly_nil (ttlS : Time) (m : ℤ) : Orderly (V := V) ttlS m [] :=
  fun pre k v now₁ s post he => by simp at he

theorem Orderly.set {ttlS : Time} {m : ℤ} {ops : List (Op V)} {c : TtlCache V}
    (h : Orderly ttlS m ops) (hc : run ttlS m ops = .ok c) (k : String) (now₁ : Time)
    (ho : InOrder c k now₁) (v : V) (s : Time) : Orderly ttlS m (ops ++ [.set k v now₁ s]) := by
  intro pre k' v' now₁' s' post he c' hc'
  rcases List.eq_nil_or_concat post with rfl | ⟨post', o, rfl⟩
  · have := List.append_inj' he rfl
    simp only [List.cons.injEq, Op.set.injEq, and_true] at this
    obtain ⟨rfl, rfl, -, rfl, -⟩ := this
    rw [hc] at hc'
    cases hc'
    exact ho
  · rw [List.concat_eq_append, ← List.cons_append, ← List.append_assoc] at he
    exact h pre k' v' now₁' s' post' (List.append_inj' he rfl).1 c' hc'

/-! ### One `set` in order -/

/-- `set` in order: some oldest entries go, the others stay in their order, and the key comes last. -/
theorem entries_afterSet {c : TtlCache V} {k : String} {now₁ : Time} (h : InOrder c k now₁)
    (hmax : 1 ≤ c.max) (v : V) (s : Time) :
    ∃ kept : List (String × (Time × V)),
      (c.afterSet k v now₁ s).store.entries = kept ++ [(k, (s + c.ttl, v))] ∧
      k ∉ kept.map Prod.fst ∧
      ∃ last : List (String × (Time × V)), (last = [] ∨ ∃ e, last = [(k, e)]) ∧
        (c.purgeExpired now₁).store.entries.drop (c.pops now₁) = kept ++ last := by
  have hpops : c.pops now₁ = (c.purgeExpired now₁).store.length + 1 - c.max.toNat := rfl
  unfold afterSet
  unfold InOrder at h
  dsimp only
  generalize (c.purgeExpired now₁).store = d at h hpops ⊢
  rcases h with h | ⟨hlt, hlast⟩ | ⟨hge, hhead⟩
  · -- a new key is appended
    have hnot : k ∉ (d.drop (c.pops now₁)).keys := fun hm =>
      h ((List.Sublist.map Prod.fst (List.drop_sublist _ _)).subset hm)
    refine ⟨d.entries.drop (c.pops now₁), Dict.entries_set_of_notMem hnot _, hnot, [], Or.inl rfl, ?_⟩
    simp
  · -- below capacity nothing is evicted, and the newest entry is replaced where it stands
    have hpops : c.pops now₁ = 0 := by omega
    obtain ⟨kept, he⟩ : ∃ kept e, d.entries = kept ++ [(k, e)] := by
      obtain ⟨e, he⟩ : ∃ e, d.entries.getLast? = some (k, e) := by
        have := hlast
        rw [Dict.keys, List.getLast?_map, Option.map_eq_some_iff] at this
        obtain ⟨⟨k', e⟩, he, hk⟩ := this
        exact ⟨e, by rw [he]; simp only at hk; rw [hk]⟩
      obtain ⟨kept, hk⟩ := List.getLast?_eq_some_iff.mp he
      exact ⟨kept, e, hk⟩
    obtain ⟨e, he⟩ := he
    have hnot : k ∉ kept.map Prod.fst := by
      have := d.nodup
      rw [he, List.map_append, List.nodup_append] at this
      intro hm
      exact this.2.2 k hm k (by simp) rfl
    refine ⟨kept, ?_, hnot, [(k, e)], Or.inr ⟨e, rfl⟩, by rw [hpops, List.drop_zero, he]⟩
    rw [hpops]
    show Dict.setEntries k _ (d.entries.drop 0) = _
    rw [List.drop_zero, he, Dict.setEntries_append hnot]
    simp [Dict.setEntries]
  · -- the oldest entry of a full store is evicted, and the key appended
    have hpos : 1 ≤ c.pops now₁ := by omega
    obtain ⟨e, rest, he⟩ : ∃ e rest, d.entries = (k, e) :: rest := by
      have := hhead
      rw [Dict.keys, List.head?_map, Option.map_eq_some_iff] at this
      obtain ⟨⟨k', e⟩, he, hk⟩ := this
      obtain ⟨rest, hr⟩ := List.head?_eq_some_iff.mp he
      simp only at hk
      exact ⟨e, rest, by rw [hr, hk]⟩
    have hsub : (d.entries.drop (c.pops now₁)).Sublist rest := by
      obtain ⟨n, hn⟩ := Nat.exists_eq_add_of_le' hpos
      rw [hn, he, List.drop_succ_cons]
      exact List.drop_sublist _ _
    have hnot : k ∉ (d.drop (c.pops now₁)).keys := by
      have := d.nodup
      rw [he, List.map_cons, List.nodup_cons] at this
      exact fun hm => this.1 ((hsub.map Prod.fst).subset hm)
    refine ⟨d.entries.drop (c.pops now₁), Dict.entries_set_of_notMem hnot _, hnot, [], Or.inl rfl, ?_⟩
    simp

theorem keys_afterSet {c : TtlCache V} {k : String} {now₁ : Time} (h : InOrder c k now₁)
    (hmax : 1 ≤ c.max) (v : V) (s : Time) :
    ∃ kept : List String, (c.afterSet k v now₁ s).store.keys = kept ++ [k] ∧
      kept.Sublist c.store.keys ∧ k ∉ kept := by
  obtain ⟨kept, he, hnot, last, -, hdrop⟩ := entries_afterSet h hmax v s
  refine ⟨kept.map Prod.fst, by unfold Dict.keys; rw [he]; simp, ?_, hnot⟩
  have hsub : kept.Sublist c.store.entries := by
    refine (List.sublist_append_left kept last).trans ?_
    rw [← hdrop]
    exact (List.drop_sublist _ _).trans List.filter_sublist
  exact hsub.map Prod.fst

/-! ### The store stands in the order of last writes -/

theorem WrittenBefore.concat {ops : List (Op V)} {k' k : String} (h : WrittenBefore ops k' k)
    (o : Op V) (ho : k' ∉ setKeys [o]) : WrittenBefore (ops ++ [o]) k' k := by
  obtain ⟨pre, post, rfl, hk', hk⟩ := h
  refine ⟨pre, post ++ [o], by simp, ?_, ?_⟩
  · unfold setKeys at *
    rw [List.filterMap_append, List.mem_append]
    exact not_or.mpr ⟨hk', ho⟩
  · unfold setKeys at *
    rw [List.filterMap_append]
    exact List.mem_append_left _ hk

theorem WrittenBefore.asymm {ops : List (Op V)} {k' k : String} (h : WrittenBefore ops k' k) :
    ¬ WrittenBefore ops k k' := by
  rintro ⟨pre', post', he', hk', hk''⟩
  obtain ⟨pre, post, he, h1, h2⟩ := h
  -- one of the two final segments contains the other
  rcases List.append_eq_append_iff.mp (he.symm.trans he') with ⟨mid, -, hm⟩ | ⟨mid, -, hm⟩
  · refine h1 ?_
    rw [hm, setKeys, List.filterMap_append]
    exact List.mem_append_right _ hk''
  · refine hk' ?_
    rw [hm, setKeys, List.filterMap_append]
    exact List.mem_append_right _ h2

variable {ttlS : Time} {maxEntries : ℤ} {ops : List (Op V)} {c : TtlCache V}

/-- **In an orderly run the store stands in the order of last writes.** -/
theorem written_order (hord : Orderly ttlS maxEntries ops) (h : run ttlS maxEntries ops = .ok c) :
    c.store.keys.Pairwise (WrittenBefore ops) := by
  induction ops using List.reverseRecOn generalizing c with
  | nil =>
    rw [run_nil] at h
    cases h
    simp [init]
  | append_singleton ops o ih =>
    obtain ⟨c₀, hc₀, hs⟩ := run_sound (V := V) ttlS maxEntries ops
    have ih := ih hord.prefix hc₀
    cases o with
    | get k now₁ now₂ =>
      rw [run_get hc₀] at h
      cases h
      obtain ⟨p, hp, -⟩ := get_entries c₀ k now₁ now₂
      have hsub : (c₀.get k now₁ now₂).2.store.keys.Sublist c₀.store.keys := by
        unfold Dict.keys
        rw [hp]
        exact List.filter_sublist.map _
      exact (ih.sublist hsub).imp fun hw => hw.concat _ (by simp [setKeys])
    | set k v now₁ s =>
      rw [run_set hc₀] at h
      cases h
      obtain ⟨kept, he, hsub, hnot⟩ :=
        keys_afterSet (hord ops k v now₁ s [] rfl c₀ hc₀) hs.one_le_max v s
      have hne : ∀ k' ∈ kept, k' ≠ k := fun k' hk' he => hnot (he ▸ hk')
      rw [he, List.pairwise_append]
      refine ⟨?_, by simp, fun k' hk' k'' hk'' => ?_⟩
      · refine (ih.sublist hsub).imp_of_mem fun {k' k''} hk' _ hw => hw.concat _ ?_
        simpa [setKeys] using hne k' hk'
      · rw [List.mem_singleton] at hk''
        subst hk''
        exact ⟨ops, [.set k'' v now₁ s], rfl, by simpa [setKeys] using hne k' hk', by simp [setKeys]⟩

/-! ### What stands behind a key -/

/-- `k` is stored with `e`, and behind it stand only keys of `since`. -/
def Behind (c : TtlCache V) (k : String) (e : Time × V) (since : List String) : Prop :=
  ∃ front back, c.store.entries = front ++ (k, e) :: back ∧ ∀ p ∈ back, p.1 ∈ since

theorem Behind.filter {c' : TtlCache V} {k : String} {e : Time × V} {since : List String}
    (h : Behind c k e since) {p : String × (Time × V) → Bool}
    (hc : c'.store.entries = c.store.entries.filter p) (hp : p (k, e) = true) :
    Behind c' k e since := by
  obtain ⟨front, back, he, hb⟩ := h
  refine ⟨front.filter p, back.filter p, ?_, fun q hq => hb q (List.mem_of_mem_filter hq)⟩
  rw [hc, he, List.filter_append, List.filter_cons_of_pos hp]

theorem Behind.mem {k : String} {e : Time × V} {since : List String} (h : Behind c k e since) :
    (k, e) ∈ c.store.entries := by
  obtain ⟨front, back, he, -⟩ := h
  rw [he]; simp

theorem Behind.get (k' : String) {k : String} {e : Time × V} {since : List String} {now₁ now₂ : Time}
    (h : Behind c k e since) (h1 : now₁ < e.1) (h2 : now₂ < e.1) :
    Behind (c.get k' now₁ now₂).2 k e since := by
  obtain ⟨p, hp, hlive⟩ := get_entries c k' now₁ now₂
  exact h.filter hp (hlive _ h.mem h1 h2)

theorem Behind.purgeExpired {k : String} {e : Time × V} {since : List String} {now : Time}
    (h : Behind c k e since) (h1 : now < e.1) : Behind (c.purgeExpired now) k e since :=
  h.filter rfl (by simpa using h1)

theorem Behind.set {k k' : String} {e : Time × V} {since : List String} {now₁ s : Time} (v : V)
    (h : Behind c k e since) (hne : k' ≠ k) (h1 : now₁ < e.1) (hmax : 1 ≤ c.max)
    (hord : InOrder c k' now₁) (hcount : ((since ++ [k']).dedup.length : ℤ) < c.max) :
    Behind (c.afterSet k' v now₁ s) k e (since ++ [k']) := by
  obtain ⟨front, back, he, hb⟩ := h.purgeExpired h1
  have hlen : (c.purgeExpired now₁).store.length = front.length + (back.length + 1) := by
    unfold Dict.length; rw [he]; simp
  have hpops : c.pops now₁ = (c.purgeExpired now₁).store.length + 1 - c.max.toNat := rfl
  have hnodup := (c.purgeExpired now₁).store.nodup
  rw [he, List.map_append, List.map_cons, List.nodup_append, List.nodup_cons] at hnodup
  obtain ⟨-, ⟨-, hnb⟩, hdis⟩ := hnodup
  -- the key stays: the loop stops before it
  have hstay : c.pops now₁ ≤ front.length := by
    by_cases hk' : k' ∈ back.map Prod.fst
    · rcases hord with hord | ⟨hlt, -⟩ | ⟨-, hhead⟩
      · exact absurd (by unfold Dict.keys; rw [he]; simp_all) hord
      · omega
      · -- the oldest entry is not behind `k`
        exfalso
        unfold Dict.keys at hhead
        rw [he] at hhead
        rcases front with _ | ⟨q, front⟩
        · simp only [List.nil_append, List.map_cons, List.head?_cons, Option.some.injEq] at hhead
          exact hne hhead.symm
        · simp only [List.cons_append, List.map_cons, List.head?_cons, Option.some.injEq] at hhead
          exact hdis k' (by simp [hhead]) k' (by simp [hk']) rfl
    · have hsince : ∀ q ∈ k' :: back.map Prod.fst, q ∈ since ++ [k'] := by
        intro q hq
        rcases List.mem_cons.mp hq with rfl | hq
        · simp
        · obtain ⟨p, hp, rfl⟩ := List.mem_map.mp hq
          exact List.mem_append_left _ (hb p hp)
      have hle := length_le_dedup (List.nodup_cons.mpr ⟨hk', hnb⟩) hsince
      simp only [List.length_cons, List.length_map] at hle
      omega
  obtain ⟨kept, hnew, -, last, hlast, hdrop⟩ := entries_afterSet hord hmax v s
  rw [he, drop_append_cons hstay] at hdrop
  unfold Behind
  rw [hnew]
  rcases hlast with rfl | ⟨e', rfl⟩
  · rw [List.append_nil] at hdrop
    refine ⟨front.drop (c.pops now₁), back ++ [(k', (s + c.ttl, v))], by rw [← hdrop]; simp, ?_⟩
    intro q hq
    rcases List.mem_append.mp hq with hq | hq
    · exact List.mem_append_left _ (hb q hq)
    · simp only [List.mem_singleton] at hq
      simp [hq]
  · -- the old entry of `k'` was the newest
    rcases List.eq_nil_or_concat back with rfl | ⟨back', q, rfl⟩
    · have := (List.append_inj' hdrop rfl).2
      simp only [List.cons.injEq, Prod.mk.injEq] at this
      exact absurd this.1.1.symm hne
    · have hsplit : front.drop (c.pops now₁) ++ (k, e) :: back' = kept := by
        rw [List.concat_eq_append, ← List.cons_append, ← List.append_assoc] at hdrop
        exact (List.append_inj' hdrop rfl).1
      refine ⟨front.drop (c.pops now₁), back' ++ [(k', (s + c.ttl, v))], by rw [← hsplit]; simp, ?_⟩
      intro q' hq
      rcases List.mem_append.mp hq with hq | hq
      · exact List.mem_append_left _ (hb q' (by simp [hq]))
      · simp only [List.mem_singleton] at hq
        simp [hq]

/-- **Behind a key stand only keys set since**, while it lives and fewer than `max` have been set. -/
theorem behind_run {pre : List (Op V)} {k : String} {v : V} {now₁ s : Time} {post : List (Op V)}
    (hord : Orderly ttlS maxEntries (pre ++ .set k v now₁ s :: post)) (hk : k ∉ setKeys post)
    (hcount : ((setKeys post).dedup.length : ℤ) < max 1 maxEntries)
    (hlive : ∀ t ∈ readings post, t < s + ttlS)
    (h : run ttlS maxEntries (pre ++ .set k v now₁ s :: post) = .ok c) :
    Behind c k (s + ttlS, v) (setKeys post) := by
  induction post using List.reverseRecOn generalizing c with
  | nil =>
    obtain ⟨c₀, hc₀, hs⟩ := run_sound (V := V) ttlS maxEntries pre
    rw [run_set hc₀] at h
    cases h
    obtain ⟨kept, he, -⟩ :=
      entries_afterSet (hord pre k v now₁ s [] rfl c₀ hc₀) hs.one_le_max v s
    rw [hs.ttl] at he
    exact ⟨kept, [], he, by simp⟩
  | append_singleton post o ih =>
    have hops : pre ++ Op.set k v now₁ s :: (post ++ [o]) =
        (pre ++ Op.set k v now₁ s :: post) ++ [o] := by simp
    rw [hops] at hord h
    obtain ⟨c₀, hc₀, hs⟩ := run_sound (V := V) ttlS maxEntries (pre ++ .set k v now₁ s :: post)
    have hpre : ∀ t ∈ readings post, t < s + ttlS := fun t ht =>
      hlive t (by unfold readings at *; rw [List.flatMap_append]; exact List.mem_append_left _ ht)
    have hlast : ∀ t ∈ o.readings, t < s + ttlS := fun t ht =>
      hlive t (by unfold readings; rw [List.flatMap_append]; exact List.mem_append_right _ (by simpa))
    cases o with
    | get k' t₁ t₂ =>
      rw [setKeys_get] at hk hcount ⊢
      rw [run_get hc₀] at h
      cases h
      exact (ih hord.prefix hk hcount hpre hc₀).get k' (hlast t₁ (by simp [Op.readings]))
        (hlast t₂ (by simp [Op.readings]))
    | set k' v' t₁ t₂ =>
      rw [setKeys_set] at hk hcount ⊢
      rw [run_set hc₀] at h
      cases h
      simp only [List.mem_append, List.mem_singleton, not_or] at hk
      have hle : (setKeys post).dedup.length ≤ (setKeys post ++ [k']).dedup.length :=
        length_le_dedup (List.nodup_dedup _) fun q hq => List.mem_append_left _ (List.mem_dedup.mp hq)
      exact (ih hord.prefix hk.1 (by omega) hpre hc₀).set v' (Ne.symm hk.2)
        (hlast t₁ (by simp [Op.readings])) hs.one_le_max (hord _ k' v' t₁ t₂ [] rfl c₀ hc₀)
        (by rw [hs.max]; exact hcount)

/-! ### The law in orderly runs -/

/-- An overwrite in order evicts no other entry. -/
theorem mem_afterSet_of_mem {k k' : String} {v : V} {e : Time × V} {now₁ s : Time}
    (hs : Sound ttlS maxEntries ops c) (hord : InOrder c k now₁)
    (hk : k ∈ (c.purgeExpired now₁).store.keys) (hne : k' ≠ k)
    (hm : (k', e) ∈ (c.purgeExpired now₁).store.entries) :
    (k', e) ∈ (c.afterSet k v now₁ s).store.entries := by
  obtain ⟨kept, he, -, last, hlast, hdrop⟩ := entries_afterSet hord hs.one_le_max v s
  have hpops : c.pops now₁ = (c.purgeExpired now₁).store.length + 1 - c.max.toNat := rfl
  have hmem : (k', e) ∈ (c.purgeExpired now₁).store.entries.drop (c.pops now₁) := by
    rcases hord with hord | ⟨hlt, -⟩ | ⟨hge, hhead⟩
    · exact absurd hk hord
    · rw [show c.pops now₁ = 0 by omega, List.drop_zero]
      exact hm
    · -- the store is exactly full: one pop, of `k`
      have hlen := length_purgeExpired_le c now₁
      have hbound := hs.bound
      have hone := hs.one_le_max
      rw [show c.pops now₁ = 1 by omega]
      unfold Dict.keys at hhead
      rcases hl : (c.purgeExpired now₁).store.entries with _ | ⟨q, rest⟩
      · rw [hl] at hm; exact absurd hm List.not_mem_nil
      · rw [hl, List.map_cons, List.head?_cons, Option.some.injEq] at hhead
        rw [hl] at hm
        rcases List.mem_cons.mp hm with rfl | hm
        · exact absurd hhead hne
        · simpa using hm
  rw [hdrop] at hmem
  rw [he]
  rcases List.mem_append.mp hmem with hmem | hmem
  · exact List.mem_append_left _ hmem
  · rcases hlast with rfl | ⟨e', rfl⟩
    · exact absurd hmem List.not_mem_nil
    · simp only [List.mem_singleton, Prod.mk.injEq] at hmem
      exact absurd hmem.1 hne

/-- A `set` of an orderly run evicts the keys written longest ago. -/
theorem evicted_of_writtenBefore {k k₁ k₂ : String} {v : V} {now₁ s : Time}
    (hord : Orderly ttlS maxEntries ops) (h : run ttlS maxEntries ops = .ok c)
    (h1 : k₁ ∈ (c.purgeExpired now₁).store.keys) (h2 : k₁ ∉ (c.afterSet k v now₁ s).store.keys)
    (hne : k₂ ≠ k) (hw : WrittenBefore ops k₂ k₁) : k₂ ∉ (c.afterSet k v now₁ s).store.keys := by
  intro hm
  have hpw : (c.purgeExpired now₁).store.keys.Pairwise (WrittenBefore ops) :=
    (written_order hord h).sublist (List.filter_sublist.map _)
  unfold afterSet at h2 hm
  dsimp only at h2 hm
  rw [Dict.keys_set] at h2 hm
  have hdrop : ((c.purgeExpired now₁).store.drop (c.pops now₁)).keys =
      (c.purgeExpired now₁).store.keys.drop (c.pops now₁) := List.map_drop
  rw [hdrop] at h2 hm
  generalize (c.purgeExpired now₁).store.keys = keys at h1 h2 hm hpw
  have h1' : k₁ ∉ keys.drop (c.pops now₁) := by
    split_ifs at h2 with hk
    · exact h2
    · exact fun hm' => h2 (List.mem_append_left _ hm')
  have h2' : k₂ ∈ keys.drop (c.pops now₁) := by
    split_ifs at hm with hk
    · exact hm
    · exact (List.mem_append.mp hm).resolve_right (by simpa using hne)
  -- `k₁` went, `k₂` stayed: so `k₁` stood in front of `k₂`
  rw [← List.take_append_drop (c.pops now₁) keys] at h1 hpw
  have hfront := (List.mem_append.mp h1).resolve_right h1'
  exact hw.asymm ((List.pairwise_append.mp hpw).2.2 k₁ hfront k₂ h2')

/-- **An orderly run loses no live entry early.** -/
theorem orderly_keepsLive (ttlS : Time) (maxEntries : ℤ) (ops : List (Op V))
    (hord : Orderly ttlS maxEntries ops) : KeepsLive ttlS maxEntries ops where
  found pre k v now₁ s post he hk hcount c hc t₁ t₂ hchron ht := by
    subst he
    obtain ⟨-, htt, hle⟩ := List.pairwise_append.mp hchron
    have ht₁ : t₁ < s + ttlS := lt_of_le_of_lt (by simpa using htt) ht
    have hlive : ∀ t ∈ readings post, t < s + ttlS := fun t hm => by
      have hm' : t ∈ readings (pre ++ Op.set k v now₁ s :: post) := by
        unfold readings at *
        rw [List.flatMap_append, List.flatMap_cons]
        exact List.mem_append_right _ (List.mem_append_right _ hm)
      exact lt_of_le_of_lt (hle t hm' t₁ (by simp)) ht₁
    have := (behind_run hord hk hcount hlive hc).mem
    exact TtlCache.get_eq_some.mpr ⟨s + ttlS, this, ht₁, ht⟩
  overwrite pre k v now₁ s post he c c' hc hset hk k' e hne hm := by
    have hs := Sound.of_run hc
    rw [set_eq hs.one_le_max] at hset
    cases hset
    exact mem_afterSet_of_mem hs (hord pre k v now₁ s post he c hc) hk hne hm
  order pre k v now₁ s post he c c' hc hset k₁ k₂ h1 h2 hne hw := by
    rw [set_eq (Sound.of_run hc).one_le_max] at hset
    cases hset
    rw [he] at hord
    exact evicted_of_writtenBefore hord.prefix hc h1 h2 hne hw

/-- A full store of two keys, and the older one refreshed: the other is still found. -/
theorem orderly_keepsLive_refresh :
    KeepsLive 60 2 [.set "a" 1 0 0, .set "b" 2 1 1, .set "a" 3 2 2] := by
  have r0 := run_nil (V := ℕ) 60 2
  have r1 := run_set r0 "a" 1 0 0
  have r2 := run_set r1 "b" 2 1 1
  have h1 := (orderly_nil 60 2).set r0 "a" 0 (by decide +kernel) 1 0
  have h2 := h1.set r1 "b" 1 (by decide +kernel) 2 1
  have h3 := h2.set r2 "a" 2 (by decide +kernel) 3 2
  exact orderly_keepsLive 60 2 _ h3

/-- **An overwrite in a full store evicts a live key**: `"b"` is written again, and `"a"` is gone three
seconds after it was set, with no other key set since. -/
theorem overwrite_evicts_live_key :
    ¬ KeepsLive 60 2 [.set "a" 1 0 0, .set "b" 2 1 1, .set "b" 3 2 2] := by
  intro h
  have r3 := run_set (run_set (run_set (run_nil (V := ℕ) 60 2) "a" 1 0 0) "b" 2 1 1) "b" 3 2 2
  have hget := h.found [] "a" 1 0 0 [.set "b" 2 1 1, .set "b" 3 2 2] rfl (by decide) (by decide) _ r3
    3 3 (by norm_num [readings, Op.readings, Chronological]) (by norm_num)
  exact absurd hget (by decide +kernel)

end LookupAggregator.Cache
