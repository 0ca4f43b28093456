import LookupAggregator.Py.Text

/-! # Validation of codes

`validate_isrc` and `validate_upc` of `app/validation.py`, the only gate before the cache keys and the
upstream queries. Both take the class `\d` for "digit", which on text has every decimal digit of Unicode,
and `int()` reads all of these; so a code with a digit outside `0-9` can pass, as it is.
`canonical_iff_ascii` says exactly when, `foreign_digits_pass` that it happens. -/

namespace LookupAggregator.Validation

open Py

/-- A `ValueError`, with its text. -/
structure ValueError where
  text : String
deriving DecidableEq

/-- `\d`. -/
def isDecimal (c : Char) : Bool := (decimalValue c).isSome

/-- `[0-9]`. -/
def isAsciiDigit (c : Char) : Bool := 0x30 ≤ c.toNat && c.toNat ≤ 0x39

/-- `[A-Z]`. -/
def isAsciiUpper (c : Char) : Bool := 0x41 ≤ c.toNat && c.toNat ≤ 0x5A

/-! ### ISRC -/

/-- `str.upper()`, character by character: white space, hyphens and decimal digits stay as they are, and
come from nothing else; what is upper case stays so. -/
structure UpperCasing where
  upper : Char → List Char
  upper_ascii : ∀ c, c.toNat < 128 → upper c = [c.toUpper]
  upper_fixed : ∀ c, isSpace c || isDecimal c → upper c = [c]
  eq_of_mem_upper : ∀ c, ∀ d ∈ upper c, isSpace d || isDecimal d || d == '-' → d = c
  upper_upper : ∀ c, ∀ d ∈ upper c, upper d = [d]

/-- `normalize_isrc(code)`. -/
def normalizeIsrc (u : UpperCasing) (code : String) : String :=
  String.ofList ((((strip code).toList.flatMap u.upper).filter (· ≠ '-')).filter (· ≠ ' '))

/-- The character classes of `_ISRC_RE`, one for each character. -/
def isrcClasses : List (Char → Bool) :=
  List.replicate 2 isAsciiUpper ++ List.replicate 3 (fun c => isAsciiUpper c || isAsciiDigit c) ++
    List.replicate 2 isDecimal ++ List.replicate 5 isDecimal

/-- `re.fullmatch`, of a pattern that is a sequence of classes. -/
def fullmatch : List (Char → Bool) → List Char → Bool
  | [], [] => true
  | p :: ps, c :: cs => p c && fullmatch ps cs
  | _, _ => false

/-- `validate_isrc(code)`. -/
def validateIsrc (u : UpperCasing) (code : String) : Except ValueError String :=
  let normalized := normalizeIsrc u code
  if !fullmatch isrcClasses normalized.toList then
    .error ⟨"ISRC must be 12 characters: 2-letter country, 3-char registrant, " ++
      "2-digit year, 5-digit designation (hyphens optional)."⟩
  else .ok normalized

/-! ### UPC and EAN -/

/-- `int(ch)`, of a decimal digit. -/
def digit (c : Char) : ℕ := (decimalValue c).getD 0

/-- `int(digits[i])`. -/
def digitAt (digits : List Char) (i : ℕ) : ℕ := digit (digits.getD i '0')

/-- `normalize_upc(code)`. -/
def normalizeUpc (code : String) : String := String.ofList ((strip code).toList.filter isDecimal)

/-- `_ean13_check_digit(first_12)`. -/
def ean13CheckDigit (first12 : List Char) : ℕ :=
  let total := first12.zipIdx.foldl (fun total ch => total + digit ch.1 * if ch.2 % 2 = 0 then 1 else 3) 0
  (10 - total % 10) % 10

/-- Of fourteen digits, the last thirteen if they are an EAN-13. -/
def dropIndicator (digits : List Char) : List Char :=
  if digits.length = 14 then
    let tail := digits.drop 1
    if digitAt tail 12 = ean13CheckDigit (tail.take 12) then tail else digits
  else digits

/-- The checks of `validate_upc`, by the number of digits. -/
def checkDigits (digits : List Char) : Except ValueError String :=
  if digits.length ∉ [8, 12, 13] then
    .error ⟨"UPC/EAN must be 8, 12, or 13 digits " ++
      "(or 14 digits that yield a valid EAN-13 after the first digit)."⟩
  else if digits.length = 13 then
    let expected := ean13CheckDigit (digits.take 12)
    if digitAt digits 12 ≠ expected then .error ⟨"Invalid EAN-13 check digit."⟩
    else .ok (String.ofList digits)
  else if digits.length = 12 then
    let expected := ean13CheckDigit ('0' :: digits.take 11)
    if digitAt digits 11 ≠ expected then .error ⟨"Invalid UPC-A check digit."⟩
    else .ok (String.ofList digits)
  else .ok (String.ofList digits)

/-- `validate_upc(code)`. -/
def validateUpc (code : String) : Except ValueError String :=
  checkDigits (dropIndicator (normalizeUpc code).toList)

/-! ### Digits of the input and of the code -/

/-- `[A-Z]` has no decimal digit. -/
theorem isDecimal_of_isAsciiUpper {c : Char} (h : isAsciiUpper c) : isDecimal c = false := by
  have hall : ∀ z ∈ decimalZeros, ∀ i < 10, isAsciiUpper (Char.ofNat (z + i)) = false := by decide +kernel
  by_contra hn
  have hd : isDecimal c := by simpa using hn
  obtain ⟨z, hz, i, hi, rfl⟩ := exists_zero_of_decimal hd
  rw [hall z hz i hi] at h
  cases h

/-- **Normalising an ISRC changes no decimal digit.** -/
theorem mem_normalizeIsrc {u : UpperCasing} {s : String} {c : Char} (hc : isDecimal c) :
    c ∈ (normalizeIsrc u s).toList ↔ c ∈ s.toList := by
  have hspace := isSpace_of_decimal hc
  have hne : c ≠ '-' ∧ c ≠ ' ' := by
    constructor <;> rintro rfl <;> revert hc <;> decide
  have hupper : c ∈ (strip s).toList.flatMap u.upper ↔ c ∈ (strip s).toList := by
    rw [List.mem_flatMap]
    constructor
    · rintro ⟨b, hb, hcb⟩
      rwa [u.eq_of_mem_upper b c hcb (by simp [hc])]
    · intro h
      exact ⟨c, h, by rw [u.upper_fixed c (by simp [hc])]; exact List.mem_singleton_self c⟩
  unfold normalizeIsrc
  rw [String.toList_ofList, List.mem_filter, List.mem_filter, hupper]
  simp [hne, strip, mem_stripWhile hspace]

/-! ### ISRC in canonical form -/

/-- The classes of a canonical ISRC. -/
def canonicalClasses : List (Char → Bool) :=
  List.replicate 2 isAsciiUpper ++ List.replicate 3 (fun c => isAsciiUpper c || isAsciiDigit c) ++
    List.replicate 7 isAsciiDigit

/-- Two letters `A-Z`, three characters `A-Z` or `0-9`, seven digits `0-9`. -/
def CanonicalIsrc (code : String) : Prop := fullmatch canonicalClasses code.toList

/-- Two patterns that agree on each character, up to whether a digit is one of `0-9`, agree on texts. -/
theorem fullmatch_iff_ascii {ps : List ((Char → Bool) × (Char → Bool))}
    (hps : ∀ p ∈ ps, ∀ c, p.1 c → (p.2 c ↔ (isDecimal c → isAsciiDigit c))) {l : List Char}
    (h : fullmatch (ps.map Prod.fst) l) :
    fullmatch (ps.map Prod.snd) l ↔ ∀ c ∈ l, isDecimal c → isAsciiDigit c := by
  induction ps generalizing l with
  | nil =>
    cases l with
    | nil => simp [fullmatch]
    | cons => cases h
  | cons p ps ih =>
    cases l with
    | nil => cases h
    | cons c l =>
      simp only [List.map_cons, fullmatch, Bool.and_eq_true] at h ⊢
      have hhead := hps p List.mem_cons_self c h.1
      have htail := ih (fun q hq => hps q (List.mem_cons_of_mem p hq)) h.2
      rw [hhead, htail, List.forall_mem_cons]

/-- **A text that `_ISRC_RE` matches is canonical if it has no digit outside `0-9`.** -/
theorem canonicalIsrc_iff {code : String} (h : fullmatch isrcClasses code.toList) :
    CanonicalIsrc code ↔ ∀ c ∈ code.toList, isDecimal c → isAsciiDigit c := by
  let alnum (c : Char) : Bool := isAsciiUpper c || isAsciiDigit c
  let ps : List ((Char → Bool) × (Char → Bool)) :=
    List.replicate 2 (isAsciiUpper, isAsciiUpper) ++ List.replicate 3 (alnum, alnum) ++
      List.replicate 7 (isDecimal, isAsciiDigit)
  show fullmatch (ps.map Prod.snd) code.toList ↔ _
  refine fullmatch_iff_ascii (fun p hp c hc => ?_) h
  have hp' : p = (isAsciiUpper, isAsciiUpper) ∨ p = (alnum, alnum) ∨ p = (isDecimal, isAsciiDigit) := by
    simpa [ps, or_assoc] using hp
  rcases hp' with rfl | rfl | rfl
  · simp [show isAsciiUpper c = true from hc, isDecimal_of_isAsciiUpper hc]
  · rcases Bool.or_eq_true _ _ |>.mp hc with hu | hd
    · simp [alnum, hu, isDecimal_of_isAsciiUpper hu]
    · simp [alnum, hd]
  · simp [show isDecimal c = true from hc]

theorem validateIsrc_eq_ok {u : UpperCasing} {s v : String} :
    validateIsrc u s = .ok v ↔ fullmatch isrcClasses (normalizeIsrc u s).toList ∧ v = normalizeIsrc u s := by
  unfold validateIsrc
  by_cases h : fullmatch isrcClasses (normalizeIsrc u s).toList
  · simp [h, eq_comm]
  · simp [h]

/-! ### UPC and EAN in canonical form -/

/-- Only digits `0-9`. -/
def AsciiDigits (digits : List Char) : Prop := ∀ c ∈ digits, isAsciiDigit c

/-- Only digits `0-9`, of length 8, 12 or 13. -/
def CanonicalUpc (code : String) : Prop := AsciiDigits code.toList ∧ code.toList.length ∈ [8, 12, 13]

/-- Thirteen digits with their check digit. -/
def Ean13 (digits : List Char) : Prop :=
  digits.length = 13 ∧ digitAt digits 12 = ean13CheckDigit (digits.take 12)

/-- Twelve digits with their check digit. -/
def UpcA (digits : List Char) : Prop :=
  digits.length = 12 ∧ digitAt digits 11 = ean13CheckDigit ('0' :: digits.take 11)

/-- The digits of the input, and those of the code it is accepted as. -/
def Accepted (digits code : List Char) : Prop :=
  (code = digits ∧ (digits.length = 8 ∨ UpcA digits ∨ Ean13 digits)) ∨
    (digits.length = 14 ∧ code = digits.drop 1 ∧ Ean13 code)

theorem Accepted.length {digits code : List Char} (h : Accepted digits code) :
    code.length ∈ [8, 12, 13] := by
  rcases h with ⟨rfl, h | h | h⟩ | ⟨-, -, h⟩
  · simp [h]
  · simp [h.1]
  · simp [h.1]
  · simp [h.1]

theorem checkDigits_eq_ok {digits : List Char} {v : String} :
    checkDigits digits = .ok v ↔
      (digits.length = 8 ∨ UpcA digits ∨ Ean13 digits) ∧ v = String.ofList digits := by
  unfold checkDigits UpcA Ean13
  by_cases h13 : digits.length = 13
  · by_cases hc : digitAt digits 12 = ean13CheckDigit (digits.take 12) <;> simp [h13, hc, eq_comm]
  · by_cases h12 : digits.length = 12
    · by_cases hc : digitAt digits 11 = ean13CheckDigit ('0' :: digits.take 11) <;> simp [h12, hc, eq_comm]
    · by_cases h8 : digits.length = 8
      · simp [h8, eq_comm]
      · simp [h8, h12, h13]

/-- **What `validate_upc` accepts, and as which code.** -/
theorem validateUpc_eq_ok {s v : String} :
    validateUpc s = .ok v ↔ ∃ code, Accepted (normalizeUpc s).toList code ∧ v = String.ofList code := by
  unfold validateUpc
  rw [checkDigits_eq_ok]
  generalize (normalizeUpc s).toList = digits
  by_cases h14 : digits.length = 14
  · have hlen : (digits.drop 1).length = 13 := by simp [h14]
    by_cases hc : digitAt (digits.drop 1) 12 = ean13CheckDigit ((digits.drop 1).take 12)
    · have hdrop : dropIndicator digits = digits.drop 1 := by
        unfold dropIndicator
        rw [if_pos h14, if_pos hc]
      rw [hdrop]
      have hean : Ean13 (digits.drop 1) := ⟨hlen, hc⟩
      constructor
      · rintro ⟨-, rfl⟩
        exact ⟨_, .inr ⟨h14, rfl, hean⟩, rfl⟩
      · rintro ⟨code, ⟨rfl, h | h | h⟩ | ⟨-, rfl, -⟩, rfl⟩
        · omega
        · have := h.1; omega
        · have := h.1; omega
        · exact ⟨.inr (.inr hean), rfl⟩
    · have hdrop : dropIndicator digits = digits := by
        unfold dropIndicator
        rw [if_pos h14, if_neg hc]
      rw [hdrop]
      constructor
      · rintro ⟨h | h | h, -⟩
        · omega
        · have := h.1; omega
        · have := h.1; omega
      · rintro ⟨code, ⟨rfl, h⟩ | ⟨-, rfl, h⟩, rfl⟩
        · exact ⟨h, rfl⟩
        · exact absurd h.2 hc
  · have hdrop : dropIndicator digits = digits := if_neg h14
    rw [hdrop]
    simp [Accepted, h14]

theorem canonicalUpc_iff {s : String} : (∀ v, validateUpc s = .ok v → CanonicalUpc v) ↔
    ∀ code, Accepted (normalizeUpc s).toList code → AsciiDigits code := by
  constructor
  · intro h code hcode
    have hcanon := h _ (validateUpc_eq_ok.mpr ⟨code, hcode, rfl⟩)
    simpa using hcanon.1
  · intro h v hv
    obtain ⟨code, hcode, rfl⟩ := validateUpc_eq_ok.mp hv
    unfold CanonicalUpc
    rw [String.toList_ofList]
    exact ⟨h code hcode, hcode.length⟩

theorem accepted_ascii_iff {digits : List Char} : (∀ code, Accepted digits code → AsciiDigits code) ↔
    (digits.length = 8 ∨ UpcA digits ∨ Ean13 digits → AsciiDigits digits) ∧
      (digits.length = 14 → Ean13 (digits.drop 1) → AsciiDigits (digits.drop 1)) := by
  constructor
  · intro h
    exact ⟨fun hd => h digits (.inl ⟨rfl, hd⟩), fun h14 he => h _ (.inr ⟨h14, rfl, he⟩)⟩
  · rintro ⟨hall, htail⟩ code (⟨rfl, hd⟩ | ⟨h14, rfl, he⟩)
    · exact hall hd
    · exact htail h14 he

/-- **A validated code is canonical unless it has a digit outside `0-9`**: a decimal digit of the input for an
ISRC, one of the digits that are kept for a UPC. -/
theorem canonical_iff_ascii (u : UpperCasing) (s : String) :
    ((∀ v, validateIsrc u s = .ok v → CanonicalIsrc v) ↔
      (fullmatch isrcClasses (normalizeIsrc u s).toList → ∀ c ∈ s.toList, isDecimal c → isAsciiDigit c)) ∧
    ((∀ v, validateUpc s = .ok v → CanonicalUpc v) ↔
      let digits := (normalizeUpc s).toList
      (digits.length = 8 ∨ UpcA digits ∨ Ean13 digits → AsciiDigits digits) ∧
        (digits.length = 14 → Ean13 (digits.drop 1) → AsciiDigits (digits.drop 1))) := by
  refine ⟨⟨fun h hmatch c hc hd => ?_, fun h v hv => ?_⟩, canonicalUpc_iff.trans accepted_ascii_iff⟩
  · have hcanon := h _ (validateIsrc_eq_ok.mpr ⟨hmatch, rfl⟩)
    exact (canonicalIsrc_iff hmatch).mp hcanon c ((mem_normalizeIsrc hd).mpr hc) hd
  · obtain ⟨hmatch, rfl⟩ := validateIsrc_eq_ok.mp hv
    refine (canonicalIsrc_iff hmatch).mpr fun c hc hd => ?_
    exact h hmatch c ((mem_normalizeIsrc hd).mp hc) hd

/-- A letter that is not among `a-z` is left alone. -/
theorem toUpper_eq_or_lower (c : Char) : c.toUpper = c ∨ ∃ i < 26, c = Char.ofNat (97 + i) := by
  by_cases h : 97 ≤ c.toNat ∧ c.toNat ≤ 122
  · refine .inr ⟨c.toNat - 97, by omega, ?_⟩
    rw [Nat.add_sub_cancel' h.1, Char.ofNat_toNat]
  · refine .inl (dif_neg fun hc => h ?_)
    simpa [UInt32.le_iff_toNat_le] using hc

/-- Upper case for ASCII letters. -/
def UpperCasing.ascii : UpperCasing where
  upper c := [c.toUpper]
  upper_ascii _ _ := rfl
  upper_fixed c h := by
    rcases toUpper_eq_or_lower c with hc | ⟨i, hi, rfl⟩
    · rw [hc]
    · revert h hi i
      decide +kernel
  eq_of_mem_upper c d hd h := by
    obtain rfl := List.mem_singleton.mp hd
    rcases toUpper_eq_or_lower c with hc | ⟨i, hi, rfl⟩
    · exact hc
    · revert h hi i
      decide +kernel
  upper_upper c d hd := by
    obtain rfl := List.mem_singleton.mp hd
    rcases toUpper_eq_or_lower c with hc | ⟨i, hi, rfl⟩
    · rw [hc, hc]
    · revert hi i
      decide +kernel

/-- **Digits outside `0-9` pass both validators.** -/
theorem foreign_digits_pass : (¬ ∀ u s v, validateIsrc u s = .ok v → CanonicalIsrc v) ∧
    ¬ ∀ s v, validateUpc s = .ok v → CanonicalUpc v := by
  constructor
  · intro hall
    have hisrc := hall .ascii "USRC1760783٣" "USRC1760783٣" (by decide)
    exact absurd hisrc (by unfold CanonicalIsrc; decide)
  · intro hall
    have hupc := (hall "٣٣٣٣٣٣٣٣" "٣٣٣٣٣٣٣٣" (by decide)).1 '٣' (by decide)
    exact absurd hupc (by decide)

end LookupAggregator.Validation
