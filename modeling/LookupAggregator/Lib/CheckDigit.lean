import Mathlib.Algebra.Order.Ring.Int
import Mathlib.Algebra.Ring.Divisibility.Basic
import Mathlib.Data.Nat.ModEq
import Mathlib.Tactic.Ring

/-! # Check digits

A code is valid when its digits, each with the weight of its place, add up to a multiple of a modulus; the
places are counted from the right, so that the check digit has place 0. A single digit put in the place of
another is detected wherever the weight is prime to the modulus (`eq_of_substitution`), and two neighbours
that change places unless their difference, times that of their weights, is a multiple of it
(`dvd_swap_iff`). -/

namespace LookupAggregator.Lib

variable {w w' : ℕ → ℕ} {m : ℕ}

/-- The sum of the digits, each with the weight of its place, counted from the right. -/
def weightedSum (w : ℕ → ℕ) : List ℕ → ℕ
  | [] => 0
  | d :: ds => w ds.length * d + weightedSum w ds

theorem weightedSum_congr {ds : List ℕ} (h : ∀ j < ds.length, w j = w' j) :
    weightedSum w ds = weightedSum w' ds := by
  induction ds with
  | nil => rfl
  | cons d ds ih =>
    have hlen : (d :: ds).length = ds.length + 1 := rfl
    rw [weightedSum, weightedSum, h ds.length (by omega), ih fun j hj => h j (by omega)]

/-- The digits before others stand at higher places. -/
theorem weightedSum_append (w : ℕ → ℕ) (ds ds' : List ℕ) :
    weightedSum w (ds ++ ds') = weightedSum (fun j => w (j + ds'.length)) ds + weightedSum w ds' := by
  induction ds with
  | nil => simp [weightedSum]
  | cons d ds ih =>
    rw [List.cons_append, weightedSum, weightedSum, ih, List.length_append]
    omega

theorem weightedSum_concat (w : ℕ → ℕ) (ds : List ℕ) (d : ℕ) :
    weightedSum w (ds ++ [d]) = weightedSum (fun j => w (j + 1)) ds + w 0 * d := by
  rw [weightedSum_append]
  rfl

/-- A leading zero weighs nothing. -/
@[simp] theorem weightedSum_zero_cons (w : ℕ → ℕ) (ds : List ℕ) :
    weightedSum w (0 :: ds) = weightedSum w ds := by
  rw [weightedSum, Nat.mul_zero, Nat.zero_add]

/-- Weights given by the place counted from the left, the first place being `k`. -/
theorem foldl_zipIdx_eq {α : Type*} (f : α → ℕ) (v : ℕ → ℕ) (l : List α) (k total : ℕ) :
    (l.zipIdx k).foldl (fun total e => total + f e.1 * v e.2) total =
      total + weightedSum (fun j => v (k + l.length - 1 - j)) (l.map f) := by
  induction l generalizing k total with
  | nil => rfl
  | cons a l ih =>
    have hplace : k + (a :: l).length - 1 - (l.map f).length = k := by
      rw [List.length_map, List.length_cons]
      omega
    have htail : weightedSum (fun j => v (k + 1 + l.length - 1 - j)) (l.map f) =
        weightedSum (fun j => v (k + (a :: l).length - 1 - j)) (l.map f) :=
      weightedSum_congr fun j _ => by
        congr 1
        rw [List.length_cons]
        omega
    rw [List.zipIdx_cons, List.foldl_cons, ih, htail, List.map_cons, weightedSum, hplace,
      Nat.mul_comm (v k), Nat.add_assoc]

/-! ### The check digit -/

/-- The digit that makes a sum a multiple of the modulus. -/
def checkDigit (m total : ℕ) : ℕ := (m - total % m) % m

theorem checkDigit_lt (hm : 0 < m) (total : ℕ) : checkDigit m total < m := Nat.mod_lt _ hm

/-- **The check digit is the one digit that makes the sum a multiple.** -/
theorem eq_checkDigit_iff {d total : ℕ} (hd : d < m) : d = checkDigit m total ↔ m ∣ total + d := by
  have hm : 0 < m := Nat.zero_lt_of_lt hd
  have hlt := Nat.mod_lt total hm
  rw [Nat.dvd_iff_mod_eq_zero, Nat.add_mod, Nat.mod_eq_of_lt hd, checkDigit]
  rcases Nat.eq_zero_or_pos (total % m) with hzero | hpos
  · rw [hzero, Nat.sub_zero, Nat.mod_self, Nat.zero_add, Nat.mod_eq_of_lt hd]
  · rw [Nat.mod_eq_of_lt (Nat.sub_lt hm hpos)]
    constructor
    · intro h
      rw [h, Nat.add_sub_cancel' hlt.le, Nat.mod_self]
    · intro h
      obtain ⟨k, hk⟩ := Nat.dvd_of_mod_eq_zero h
      -- the sum is below `2 * m`, so it is `m`
      have hk1 : k = 1 := by
        have hle : m * k < m * 2 := by omega
        have hk2 := Nat.lt_of_mul_lt_mul_left hle
        have hk0 : k ≠ 0 := by
          rintro rfl
          omega
        omega
      rw [hk1] at hk
      omega

/-! ### Errors that are detected -/

section Detection
variable {pre post : List ℕ} {a b : ℕ}

/-- **A single digit cannot be replaced by another**, where its weight is prime to the modulus. -/
theorem eq_of_substitution (hw : Nat.Coprime m (w post.length)) (ha : a < m) (hb : b < m)
    (h : m ∣ weightedSum w (pre ++ a :: post)) (h' : m ∣ weightedSum w (pre ++ b :: post)) : a = b := by
  have hsum (d : ℕ) : weightedSum w (pre ++ d :: post) =
      weightedSum (fun j => w (j + (post.length + 1))) pre + weightedSum w post + w post.length * d := by
    rw [weightedSum_append, weightedSum, List.length_cons]
    omega
  rw [hsum, ← Nat.modEq_zero_iff_dvd] at h h'
  have hmul : w post.length * a ≡ w post.length * b [MOD m] :=
    Nat.ModEq.add_left_cancel' _ (h.trans h'.symm)
  exact Nat.ModEq.eq_of_lt_of_lt (Nat.ModEq.cancel_left_of_coprime hw hmul) ha hb

/-- **When two neighbours that change places leave a code valid.** -/
theorem dvd_swap_iff (h : m ∣ weightedSum w (pre ++ a :: b :: post)) :
    m ∣ weightedSum w (pre ++ b :: a :: post) ↔
      (m : ℤ) ∣ ((w (post.length + 1) : ℤ) - w post.length) * (a - b) := by
  have hsum (d e : ℕ) : weightedSum w (pre ++ d :: e :: post) =
      weightedSum (fun j => w (j + (post.length + 2))) pre + weightedSum w post +
        (w (post.length + 1) * d + w post.length * e) := by
    rw [weightedSum_append, weightedSum, weightedSum, List.length_cons, List.length_cons, Nat.add_assoc]
    omega
  have hdiff : (weightedSum w (pre ++ b :: a :: post) : ℤ) = weightedSum w (pre ++ a :: b :: post) -
      ((w (post.length + 1) : ℤ) - w post.length) * (a - b) := by
    rw [hsum, hsum]
    push_cast
    ring
  rw [← Int.natCast_dvd_natCast, hdiff]
  exact dvd_sub_right (Int.natCast_dvd_natCast.mpr h)

end Detection

end LookupAggregator.Lib
