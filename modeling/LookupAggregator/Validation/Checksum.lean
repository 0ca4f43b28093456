import LookupAggregator.Lib.CheckDigit
import LookupAggregator.Validation

/-! # Check digits of UPC and EAN

One loop over twelve digits, counted from the left, checks twelve and thirteen digits alike: either way the
digits, with the weights 1 and 3 in turn from the last one on, add up to a multiple of ten
(`validateUpc_iff`). So a wrong digit is detected, and so are two neighbours that changed places, unless
they differ by five (`error_detected`).

Of fourteen digits the code checks the last thirteen. The check digit of a GTIN-14 is another one, unless
its packaging indicator is zero: `gtin14_iff`. -/

namespace LookupAggregator.Validation

open Lib Py

/-! ### The digits of a code -/

/-- The decimal digits of a text, in order. -/
def decimals (s : String) : List Char := s.toList.filter isDecimal

/-- `validate_upc(code)` returns. -/
def AcceptsUpc (s : String) : Prop := ∃ v, validateUpc s = .ok v

/-- The weights by place, counted from the right: 1 for the check digit, then 3 and 1 in turn. -/
def gs1Weight (place : ℕ) : ℕ := if place % 2 = 0 then 1 else 3

/-- The weighted sum of the digits. -/
def gs1Sum (digits : List Char) : ℕ := weightedSum gs1Weight (digits.map digit)

theorem toList_normalizeUpc (s : String) : (normalizeUpc s).toList = decimals s := by
  unfold normalizeUpc decimals strip
  rw [String.toList_ofList, String.toList_ofList]
  refine filter_stripWhile (fun c hc => ?_) _
  by_contra hd
  have hdecimal : isDecimal c = true := by simpa using hd
  have hspace := isSpace_of_decimal hdecimal
  rw [hc] at hspace
  cases hspace

theorem decimals_append (s t : String) : decimals (s ++ t) = decimals s ++ decimals t := by
  unfold decimals
  rw [String.toList_append, List.filter_append]

/-- Decimal digits are all kept. -/
theorem decimals_ofList {l : List Char} (h : ∀ c ∈ l, isDecimal c = true) :
    decimals (String.ofList l) = l := by
  unfold decimals
  rw [String.toList_ofList, List.filter_eq_self]
  exact h

theorem isDecimal_of_mem_decimals {s : String} {c : Char} (h : c ∈ decimals s) : isDecimal c = true :=
  (List.mem_filter.mp h).2

theorem digit_lt (c : Char) : digit c < 10 := by
  unfold digit
  cases hc : decimalValue c with
  | none => decide
  | some d => exact decimalValue_lt hc

/-! ### The check digit -/

/-- Over twelve digits the weights from the left are those of the places to the left of a check digit. -/
theorem ean13CheckDigit_eq {first12 : List Char} (h : first12.length = 12) :
    ean13CheckDigit first12 =
      checkDigit 10 (weightedSum (fun j => gs1Weight (j + 1)) (first12.map digit)) := by
  have htotal := foldl_zipIdx_eq digit gs1Weight first12 0 0
  have hweights : weightedSum (fun j => gs1Weight (0 + first12.length - 1 - j)) (first12.map digit) =
      weightedSum (fun j => gs1Weight (j + 1)) (first12.map digit) :=
    weightedSum_congr fun j hj => by
      rw [List.length_map] at hj
      unfold gs1Weight
      split_ifs <;> omega
  rw [hweights, Nat.zero_add] at htotal
  rw [← htotal]
  rfl

/-- **A last digit is the check digit of those before it if and only if the weighted sum is a multiple of
ten.** -/
theorem digitAt_eq_checkDigit_iff {digits : List Char} {n : ℕ} (h : digits.length = n + 1) :
    digitAt digits n =
        checkDigit 10 (weightedSum (fun j => gs1Weight (j + 1)) ((digits.take n).map digit)) ↔
      10 ∣ gs1Sum digits := by
  obtain ⟨first, c, rfl⟩ : ∃ first c, digits = first ++ [c] := by
    refine ⟨digits.dropLast, digits.getLast (List.ne_nil_of_length_eq_add_one h), ?_⟩
    exact (List.dropLast_append_getLast _).symm
  obtain rfl : first.length = n := by simpa using h
  have hlast : digitAt (first ++ [c]) first.length = digit c := by
    unfold digitAt
    rw [List.getD_eq_getElem?_getD, List.getElem?_concat_length, Option.getD_some]
  have hweight : gs1Weight 0 = 1 := rfl
  rw [hlast, List.take_left', eq_checkDigit_iff (digit_lt c), gs1Sum, List.map_append, List.map_singleton,
    weightedSum_concat, hweight, Nat.one_mul]
  rfl

theorem ean13_iff {digits : List Char} : Ean13 digits ↔ digits.length = 13 ∧ 10 ∣ gs1Sum digits := by
  refine and_congr_right fun hlen => ?_
  rw [ean13CheckDigit_eq (by rw [List.length_take, hlen]; rfl)]
  exact digitAt_eq_checkDigit_iff hlen

theorem upcA_iff {digits : List Char} : UpcA digits ↔ digits.length = 12 ∧ 10 ∣ gs1Sum digits := by
  refine and_congr_right fun hlen => ?_
  have hzero : digit '0' = 0 := by decide
  rw [ean13CheckDigit_eq (by rw [List.length_cons, List.length_take, hlen]; rfl), List.map_cons, hzero,
    weightedSum_zero_cons]
  exact digitAt_eq_checkDigit_iff hlen

/-! ### What is accepted -/

/-- **What `validate_upc` accepts, and as which code**, for any input. -/
theorem validateUpc_eq_ok_iff {s v : String} : validateUpc s = .ok v ↔
    (((decimals s).length = 8 ∨
        ((decimals s).length = 12 ∨ (decimals s).length = 13) ∧ 10 ∣ gs1Sum (decimals s)) ∧
      v = String.ofList (decimals s)) ∨
    (((decimals s).length = 14 ∧ 10 ∣ gs1Sum ((decimals s).drop 1)) ∧
      v = String.ofList ((decimals s).drop 1)) := by
  rw [validateUpc_eq_ok, toList_normalizeUpc]
  unfold Accepted
  simp only [upcA_iff, ean13_iff]
  constructor
  · rintro ⟨code, ⟨rfl, h8 | ⟨h12, hsum⟩ | ⟨h13, hsum⟩⟩ | ⟨h14, rfl, -, hsum⟩, rfl⟩
    · exact Or.inl ⟨Or.inl h8, rfl⟩
    · exact Or.inl ⟨Or.inr ⟨Or.inl h12, hsum⟩, rfl⟩
    · exact Or.inl ⟨Or.inr ⟨Or.inr h13, hsum⟩, rfl⟩
    · exact Or.inr ⟨⟨h14, hsum⟩, rfl⟩
  · rintro (⟨h8 | ⟨h12 | h13, hsum⟩, rfl⟩ | ⟨⟨h14, hsum⟩, rfl⟩)
    · exact ⟨_, Or.inl ⟨rfl, Or.inl h8⟩, rfl⟩
    · exact ⟨_, Or.inl ⟨rfl, Or.inr (Or.inl ⟨h12, hsum⟩)⟩, rfl⟩
    · exact ⟨_, Or.inl ⟨rfl, Or.inr (Or.inr ⟨h13, hsum⟩)⟩, rfl⟩
    · exact ⟨_, Or.inr ⟨h14, rfl, by rw [List.length_drop, h14], hsum⟩, rfl⟩

/-- Twelve or thirteen digits are accepted by their sum alone. -/
theorem acceptsUpc_iff {s : String} (h : (decimals s).length = 12 ∨ (decimals s).length = 13) :
    AcceptsUpc s ↔ 10 ∣ gs1Sum (decimals s) := by
  unfold AcceptsUpc
  simp only [validateUpc_eq_ok_iff]
  constructor
  · rintro ⟨v, ⟨h8 | ⟨-, hsum⟩, -⟩ | ⟨⟨h14, -⟩, -⟩⟩
    · omega
    · exact hsum
    · omega
  · exact fun hsum => ⟨_, Or.inl ⟨Or.inr ⟨h, hsum⟩, rfl⟩⟩

/-- A code returned is accepted as it is. -/
theorem validateUpc_idem {s v : String} (h : validateUpc s = .ok v) : validateUpc v = .ok v := by
  rw [validateUpc_eq_ok_iff] at h ⊢
  rcases h with ⟨hcode, rfl⟩ | ⟨⟨h14, hsum⟩, rfl⟩
  · rw [decimals_ofList fun c hc => isDecimal_of_mem_decimals hc]
    exact Or.inl ⟨hcode, rfl⟩
  · rw [decimals_ofList fun c hc => isDecimal_of_mem_decimals (List.mem_of_mem_drop hc)]
    exact Or.inl ⟨Or.inr ⟨Or.inr (by rw [List.length_drop, h14]), hsum⟩, rfl⟩

theorem decimals_zero_append (s : String) : decimals ("0" ++ s) = '0' :: decimals s := by
  rw [decimals_append]
  rfl

theorem gs1Sum_zero_cons (digits : List Char) : gs1Sum ('0' :: digits) = gs1Sum digits := by
  have hzero : digit '0' = 0 := by decide
  rw [gs1Sum, List.map_cons, hzero, weightedSum_zero_cons]
  rfl

/-- **`validate_upc` accepts by the number of digits and their weighted sum**, and returns the digits,
without the first of fourteen; a code it returned it returns again, and a leading zero makes no difference
to twelve digits. -/
theorem validateUpc_iff :
    (∀ s v, validateUpc s = .ok v ↔
      (((decimals s).length = 8 ∨
          ((decimals s).length = 12 ∨ (decimals s).length = 13) ∧ 10 ∣ gs1Sum (decimals s)) ∧
        v = String.ofList (decimals s)) ∨
      (((decimals s).length = 14 ∧ 10 ∣ gs1Sum ((decimals s).drop 1)) ∧
        v = String.ofList ((decimals s).drop 1))) ∧
    (∀ s v, validateUpc s = .ok v → validateUpc v = .ok v) ∧
    ∀ s, (decimals s).length = 12 → (AcceptsUpc s ↔ AcceptsUpc ("0" ++ s)) := by
  refine ⟨fun s v => validateUpc_eq_ok_iff, fun s v => validateUpc_idem, fun s h12 => ?_⟩
  have h13 : (decimals ("0" ++ s)).length = 13 := by rw [decimals_zero_append, List.length_cons, h12]
  rw [acceptsUpc_iff (Or.inl h12), acceptsUpc_iff (Or.inr h13), decimals_zero_append, gs1Sum_zero_cons]

/-- A UPC-A with separators, and as an EAN-13. -/
theorem validateUpc_iff_upcA : AcceptsUpc "0-36000-29145-2" ↔ AcceptsUpc ("0" ++ "0-36000-29145-2") :=
  validateUpc_iff.2.2 "0-36000-29145-2" (by decide)

/-! ### Errors that are detected -/

section Errors
variable {pre mid post : List Char} {a b : Char}

theorem decimals_place (ha : isDecimal a = true) : decimals (String.ofList (pre ++ a :: post)) =
    pre.filter isDecimal ++ a :: post.filter isDecimal := by
  unfold decimals
  rw [String.toList_ofList, List.filter_append, List.filter_cons_of_pos ha]

/-- Neighbours among the digits of a text, which has no digit between them. -/
theorem decimals_neighbours (ha : isDecimal a = true) (hb : isDecimal b = true)
    (hmid : ∀ c ∈ mid, isDecimal c = false) : decimals (String.ofList (pre ++ a :: mid ++ b :: post)) =
      pre.filter isDecimal ++ a :: b :: post.filter isDecimal := by
  have hnone : mid.filter isDecimal = [] :=
    List.filter_eq_nil_iff.mpr fun c hc => by simp [hmid c hc]
  unfold decimals
  rw [String.toList_ofList, List.filter_append, List.filter_append, List.filter_cons_of_pos ha,
    List.filter_cons_of_pos hb, hnone, List.append_assoc]
  rfl

theorem coprime_gs1Weight (place : ℕ) : Nat.Coprime 10 (gs1Weight place) := by
  unfold gs1Weight
  split_ifs <;> decide

/-- **A wrong digit is detected.** -/
theorem digit_eq_of_accepts (ha : isDecimal a = true) (hb : isDecimal b = true)
    (hlen : (decimals (String.ofList (pre ++ a :: post))).length = 12 ∨
      (decimals (String.ofList (pre ++ a :: post))).length = 13)
    (h : AcceptsUpc (String.ofList (pre ++ a :: post)))
    (h' : AcceptsUpc (String.ofList (pre ++ b :: post))) : digit a = digit b := by
  rw [acceptsUpc_iff hlen] at h
  rw [decimals_place ha] at h hlen
  have hlen' : (decimals (String.ofList (pre ++ b :: post))).length = 12 ∨
      (decimals (String.ofList (pre ++ b :: post))).length = 13 := by
    rw [decimals_place hb]
    simpa using hlen
  rw [acceptsUpc_iff hlen', decimals_place hb] at h'
  unfold gs1Sum at h h'
  rw [List.map_append, List.map_cons] at h h'
  exact eq_of_substitution (coprime_gs1Weight _) (digit_lt a) (digit_lt b) h h'

/-- Weights of neighbouring places differ by two. -/
theorem gs1Weight_succ_sub (n : ℕ) :
    (gs1Weight (n + 1) : ℤ) - gs1Weight n = 2 ∨ (gs1Weight (n + 1) : ℤ) - gs1Weight n = -2 := by
  unfold gs1Weight
  split_ifs <;> omega

/-- **Neighbours that changed places are detected, unless they differ by five.** -/
theorem accepts_swap_iff (ha : isDecimal a = true) (hb : isDecimal b = true)
    (hmid : ∀ c ∈ mid, isDecimal c = false) (hne : digit a ≠ digit b)
    (hlen : (decimals (String.ofList (pre ++ a :: mid ++ b :: post))).length = 12 ∨
      (decimals (String.ofList (pre ++ a :: mid ++ b :: post))).length = 13)
    (h : AcceptsUpc (String.ofList (pre ++ a :: mid ++ b :: post))) :
    AcceptsUpc (String.ofList (pre ++ b :: mid ++ a :: post)) ↔
      digit a = digit b + 5 ∨ digit b = digit a + 5 := by
  rw [acceptsUpc_iff hlen] at h
  rw [decimals_neighbours ha hb hmid] at h hlen
  have hlen' : (decimals (String.ofList (pre ++ b :: mid ++ a :: post))).length = 12 ∨
      (decimals (String.ofList (pre ++ b :: mid ++ a :: post))).length = 13 := by
    rw [decimals_neighbours hb ha hmid]
    simpa using hlen
  rw [acceptsUpc_iff hlen', decimals_neighbours hb ha hmid]
  unfold gs1Sum at h ⊢
  rw [List.map_append, List.map_cons, List.map_cons] at h ⊢
  rw [dvd_swap_iff h]
  have hda := digit_lt a
  have hdb := digit_lt b
  rcases gs1Weight_succ_sub ((post.filter isDecimal).map digit).length with hw | hw
  · rw [hw]
    omega
  · rw [hw]
    omega

end Errors

/-- **Errors that `validate_upc` detects**, in any text with twelve or thirteen digits: a digit replaced by
another, and two neighbours that changed places, if they do not differ by five. -/
theorem error_detected :
    (∀ pre post a b, isDecimal a = true → isDecimal b = true → digit b ≠ digit a →
      ((decimals (String.ofList (pre ++ a :: post))).length = 12 ∨
        (decimals (String.ofList (pre ++ a :: post))).length = 13) →
      AcceptsUpc (String.ofList (pre ++ a :: post)) → ¬ AcceptsUpc (String.ofList (pre ++ b :: post))) ∧
    ∀ pre mid post a b, isDecimal a = true → isDecimal b = true → (∀ c ∈ mid, isDecimal c = false) →
      digit a ≠ digit b →
      ((decimals (String.ofList (pre ++ a :: mid ++ b :: post))).length = 12 ∨
        (decimals (String.ofList (pre ++ a :: mid ++ b :: post))).length = 13) →
      AcceptsUpc (String.ofList (pre ++ a :: mid ++ b :: post)) →
      (¬ AcceptsUpc (String.ofList (pre ++ b :: mid ++ a :: post)) ↔
        ¬ (digit a = digit b + 5 ∨ digit b = digit a + 5)) := by
  constructor
  · intro pre post a b ha hb hne hlen h h'
    exact hne (digit_eq_of_accepts ha hb hlen h h').symm
  · intro pre mid post a b ha hb hmid hne hlen h
    exact not_congr (accepts_swap_iff ha hb hmid hne hlen h)

/-- A UPC-A whose last digit is wrong, and one whose first two digits changed places. -/
theorem error_detected_upcA :
    ¬ AcceptsUpc (String.ofList ("03600029145".toList ++ '7' :: [])) ∧
      ¬ AcceptsUpc (String.ofList ([] ++ '3' :: [] ++ '0' :: "6000291452".toList)) := by
  have haccepted : AcceptsUpc "036000291452" := ⟨"036000291452", by decide⟩
  constructor
  · exact error_detected.1 "03600029145".toList [] '2' '7' (by decide) (by decide) (by decide) (by decide)
      haccepted
  · exact (error_detected.2 [] [] "6000291452".toList '0' '3' (by decide) (by decide) (by simp) (by decide)
      (by decide) haccepted).mpr (by decide)

/-! ### GTIN-14 -/

/-- The code of some digits. -/
def codeOf (ds : List ℕ) : String := String.ofList (ds.map Nat.digitChar)

/-- The digits are a valid EAN-13. -/
structure ValidEan13 (e : List ℕ) : Prop where
  digits : ∀ d ∈ e, d < 10
  length : e.length = 13
  sum : 10 ∣ weightedSum gs1Weight e

/-- The check digit of GS1 for the digits before it. -/
def gs1CheckDigit (body : List ℕ) : ℕ := checkDigit 10 (weightedSum (fun j => gs1Weight (j + 1)) body)

/-- The GTIN-14 with the packaging indicator `p` of what has the EAN-13 `e`: both have the same twelve
digits, and each has its own check digit. -/
def gtin14 (p : ℕ) (e : List ℕ) : List ℕ := p :: e.take 12 ++ [gs1CheckDigit (p :: e.take 12)]

theorem digit_digitChar {d : ℕ} (h : d < 10) :
    isDecimal (Nat.digitChar d) = true ∧ digit (Nat.digitChar d) = d := by
  revert h d
  decide

theorem decimals_codeOf {ds : List ℕ} (h : ∀ d ∈ ds, d < 10) :
    decimals (codeOf ds) = ds.map Nat.digitChar := by
  refine decimals_ofList fun c hc => ?_
  obtain ⟨d, hd, rfl⟩ := List.mem_map.mp hc
  exact (digit_digitChar (h d hd)).1

theorem gs1Sum_digitChar {ds : List ℕ} (h : ∀ d ∈ ds, d < 10) :
    gs1Sum (ds.map Nat.digitChar) = weightedSum gs1Weight ds := by
  have hdigits : (ds.map Nat.digitChar).map digit = ds := by
    rw [List.map_map]
    exact (List.map_congr_left fun d hd => (digit_digitChar (h d hd)).2).trans (List.map_id ds)
  rw [gs1Sum, hdigits]

/-- Fourteen digits are accepted as the last thirteen, if these are an EAN-13. -/
theorem validateUpc_fourteen {ds : List ℕ} (h : ∀ d ∈ ds, d < 10) (hlen : ds.length = 14) {v : String} :
    validateUpc (codeOf ds) = .ok v ↔
      10 ∣ weightedSum gs1Weight (ds.drop 1) ∧ v = codeOf (ds.drop 1) := by
  have hdrop : (ds.map Nat.digitChar).drop 1 = (ds.drop 1).map Nat.digitChar := List.map_drop.symm
  have hsum : gs1Sum ((ds.drop 1).map Nat.digitChar) = weightedSum gs1Weight (ds.drop 1) :=
    gs1Sum_digitChar fun d hd => h d (List.mem_of_mem_drop hd)
  rw [validateUpc_eq_ok_iff, decimals_codeOf h, hdrop, hsum, List.length_map, hlen]
  simp [codeOf]

section Gtin
variable {e : List ℕ} {p : ℕ}

/-- The last digit of a valid EAN-13 is the check digit of the others. -/
theorem ValidEan13.eq_concat (h : ValidEan13 e) : e = e.take 12 ++ [gs1CheckDigit (e.take 12)] := by
  obtain ⟨first, c, rfl⟩ : ∃ first c, e = first ++ [c] := by
    have hne : e ≠ [] := List.ne_nil_of_length_eq_add_one h.length
    exact ⟨e.dropLast, e.getLast hne, (List.dropLast_append_getLast hne).symm⟩
  have hfirst : first.length = 12 := by simpa using h.length
  have hc : c < 10 := h.digits c (by simp)
  have hsum := h.sum
  have hweight : gs1Weight 0 = 1 := rfl
  rw [weightedSum_concat, hweight, Nat.one_mul, ← eq_checkDigit_iff hc] at hsum
  rw [List.take_left' hfirst, gs1CheckDigit, ← hsum]

/-- An indicator weighs three. -/
theorem weightedSum_indicator (h : e.length = 13) :
    weightedSum (fun j => gs1Weight (j + 1)) (p :: e.take 12) =
      3 * p + weightedSum (fun j => gs1Weight (j + 1)) (e.take 12) := by
  have hweight : gs1Weight ((e.take 12).length + 1) = 3 := by
    rw [List.length_take, h]
    rfl
  rw [weightedSum, hweight]

/-- **A GTIN-14 has the check digit of its EAN-13 only with the indicator zero.** -/
theorem gs1CheckDigit_eq_iff (h : ValidEan13 e) (hp : p < 10) :
    gs1CheckDigit (p :: e.take 12) = gs1CheckDigit (e.take 12) ↔ p = 0 := by
  have hlt : gs1CheckDigit (e.take 12) < 10 := checkDigit_lt (by decide) _
  have hbase : 10 ∣ weightedSum (fun j => gs1Weight (j + 1)) (e.take 12) + gs1CheckDigit (e.take 12) :=
    (eq_checkDigit_iff hlt).mp rfl
  rw [eq_comm]
  refine (eq_checkDigit_iff hlt).trans ?_
  rw [weightedSum_indicator h.length]
  omega

/-- The last thirteen digits of a GTIN-14 are an EAN-13 only with the indicator zero. -/
theorem dvd_tail_gtin14_iff (h : ValidEan13 e) (hp : p < 10) :
    10 ∣ weightedSum gs1Weight ((gtin14 p e).drop 1) ↔ p = 0 := by
  have hlt : gs1CheckDigit (p :: e.take 12) < 10 := checkDigit_lt (by decide) _
  have hweight : gs1Weight 0 = 1 := rfl
  show 10 ∣ weightedSum gs1Weight (e.take 12 ++ [gs1CheckDigit (p :: e.take 12)]) ↔ p = 0
  rw [weightedSum_concat, hweight, Nat.one_mul, ← eq_checkDigit_iff hlt]
  exact gs1CheckDigit_eq_iff h hp

/-- With the indicator zero these are the EAN-13. -/
theorem drop_gtin14_zero (h : ValidEan13 e) : (gtin14 0 e).drop 1 = e := by
  have hcheck := (gs1CheckDigit_eq_iff h (by decide)).mpr rfl
  show e.take 12 ++ [gs1CheckDigit (0 :: e.take 12)] = e
  rw [hcheck]
  exact h.eq_concat.symm

theorem digits_gtin14 (h : ValidEan13 e) (hp : p < 10) : ∀ d ∈ gtin14 p e, d < 10 := by
  have hlt : gs1CheckDigit (p :: e.take 12) < 10 := checkDigit_lt (by decide) _
  intro d hd
  rcases List.mem_append.mp hd with hd | hd
  · rcases List.mem_cons.mp hd with rfl | hd
    · exact hp
    · exact h.digits d (List.mem_of_mem_take hd)
  · rw [List.mem_singleton.mp hd]
    exact hlt

theorem length_gtin14 (h : ValidEan13 e) : (gtin14 p e).length = 14 := by
  unfold gtin14
  rw [List.length_append, List.length_cons, List.length_take, h.length]
  rfl

/-- **Which fourteen digits are accepted for a valid EAN-13**: any digit before it, and it is what is
returned; but the GTIN-14 with the same twelve digits and a check digit of its own only if its packaging
indicator is zero. -/
theorem gtin14_iff (h : ValidEan13 e) (hp : p < 10) :
    validateUpc (codeOf (p :: e)) = .ok (codeOf e) ∧
      (validateUpc (codeOf (gtin14 p e)) = .ok (codeOf e) ↔ p = 0) ∧
      (AcceptsUpc (codeOf (gtin14 p e)) ↔ p = 0) := by
  have hzero : p = 0 → validateUpc (codeOf (gtin14 p e)) = .ok (codeOf e) := by
    rintro rfl
    rw [validateUpc_fourteen (digits_gtin14 h hp) (length_gtin14 h), dvd_tail_gtin14_iff h hp,
      drop_gtin14_zero h]
    exact ⟨rfl, rfl⟩
  have haccepts : ∀ v, validateUpc (codeOf (gtin14 p e)) = .ok v → p = 0 := fun v hv => by
    rw [validateUpc_fourteen (digits_gtin14 h hp) (length_gtin14 h), dvd_tail_gtin14_iff h hp] at hv
    exact hv.1
  refine ⟨?_, ⟨haccepts _, hzero⟩, fun ⟨v, hv⟩ => haccepts v hv, fun hp0 => ⟨_, hzero hp0⟩⟩
  have hlen : (p :: e).length = 14 := by rw [List.length_cons, h.length]
  rw [validateUpc_fourteen (List.forall_mem_cons.mpr ⟨hp, h.digits⟩) hlen]
  exact ⟨h.sum, rfl⟩

end Gtin

theorem validEan13_evolve : ValidEan13 [0, 6, 0, 2, 5, 6, 7, 4, 9, 1, 2, 4, 8] :=
  ⟨by decide, by decide, by decide⟩

/-- A valid EAN-13 behind the indicator zero, which is its GTIN-14. -/
theorem gtin14_iff_evolve : validateUpc (codeOf (gtin14 0 [0, 6, 0, 2, 5, 6, 7, 4, 9, 1, 2, 4, 8])) =
    .ok (codeOf [0, 6, 0, 2, 5, 6, 7, 4, 9, 1, 2, 4, 8]) :=
  (gtin14_iff validEan13_evolve (by decide)).2.1.mpr rfl

/-- **The GTIN-14 of a case is rejected**: of an EAN-13, with the indicator 1 and its own check digit 5. -/
theorem gtin14_of_case_rejected :
    gtin14 1 [0, 6, 0, 2, 5, 6, 7, 4, 9, 1, 2, 4, 8] = [1, 0, 6, 0, 2, 5, 6, 7, 4, 9, 1, 2, 4, 5] ∧
      ¬ ∀ e p, ValidEan13 e → p < 10 → validateUpc (codeOf (gtin14 p e)) = .ok (codeOf e) := by
  refine ⟨by decide, fun hall => ?_⟩
  have hrejected : validateUpc (codeOf (gtin14 1 [0, 6, 0, 2, 5, 6, 7, 4, 9, 1, 2, 4, 8])) ≠
      .ok (codeOf [0, 6, 0, 2, 5, 6, 7, 4, 9, 1, 2, 4, 8]) := by decide
  exact hrejected (hall _ 1 validEan13_evolve (by decide))

end LookupAggregator.Validation
