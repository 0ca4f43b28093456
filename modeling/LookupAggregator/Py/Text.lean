import Mathlib.Data.List.DropRight
import Mathlib.Data.Int.Notation

/-! # Python text

What the code uses of Python's `str` and `int`: the white space of `str.isspace()`, `str.strip()`, which
`\s` agree with; the decimal digits of Unicode 15.0, the table of Python 3.12; and `int(text)`. -/

namespace LookupAggregator.Py

/-! ### White space -/

/-- White space, as `isspace()` and `\s` see it. -/
def isSpace (c : Char) : Bool :=
  let n := c.toNat
  (0x9 ≤ n && n ≤ 0xD) || (0x1C ≤ n && n ≤ 0x20) || n == 0x85 || n == 0xA0 || n == 0x1680 ||
    (0x2000 ≤ n && n ≤ 0x200A) || n == 0x2028 || n == 0x2029 || n == 0x202F || n == 0x205F || n == 0x3000

/-- `strip`, of the characters that satisfy `p`. -/
def stripWhile (p : Char → Bool) (l : List Char) : List Char := (l.dropWhile p).rdropWhile p

/-- `text.strip()`. -/
def strip (text : String) : String := String.ofList (stripWhile isSpace text.toList)

/-- Stripping removes nothing but what it strips. -/
theorem mem_stripWhile {p : Char → Bool} {l : List Char} {c : Char} (hc : p c = false) :
    c ∈ stripWhile p l ↔ c ∈ l := by
  have hdrop (l : List Char) : c ∈ l.dropWhile p ↔ c ∈ l := by
    conv_rhs => rw [← List.takeWhile_append_dropWhile (p := p) (l := l), List.mem_append]
    have hnot : c ∉ l.takeWhile p := fun h => by
      rw [List.mem_takeWhile_imp h] at hc
      cases hc
    simp [hnot]
  unfold stripWhile List.rdropWhile
  rw [List.mem_reverse, hdrop, List.mem_reverse, hdrop]

theorem subset_stripWhile {p : Char → Bool} {l : List Char} : stripWhile p l ⊆ l :=
  ((List.rdropWhile_prefix p _).sublist.trans (List.dropWhile_sublist p)).subset

/-- **Stripping changes nothing if and only if neither end is to be stripped.** -/
theorem stripWhile_eq_self_iff {p : Char → Bool} {l : List Char} : stripWhile p l = l ↔
    ¬ ((∃ c, l.head? = some c ∧ p c = true) ∨ ∃ c, l.getLast? = some c ∧ p c = true) := by
  have hdrop : stripWhile p l = l ↔ l.dropWhile p = l ∧ l.rdropWhile p = l := by
    constructor
    · intro h
      have hlen : l.length ≤ (l.dropWhile p).length := by
        conv_lhs => rw [← h]
        exact (List.rdropWhile_prefix p _).length_le
      have hd := (List.dropWhile_sublist p).eq_of_length_le hlen
      unfold stripWhile at h
      rw [hd] at h
      exact ⟨hd, h⟩
    · rintro ⟨hd, hr⟩
      rw [stripWhile, hd, hr]
  rw [hdrop, List.dropWhile_eq_self_iff, List.rdropWhile_eq_self_iff]
  cases l with
  | nil => simp
  | cons c l =>
    have hlast : (c :: l).getLast? = some ((c :: l).getLast (List.cons_ne_nil c l)) :=
      List.getLast?_eq_some_getLast _
    simp [hlast]

/-- What is not stripped is kept in its order. -/
theorem filter_stripWhile {p q : Char → Bool} (h : ∀ c, p c = true → q c = false) (l : List Char) :
    (stripWhile p l).filter q = l.filter q := by
  have hdrop (l : List Char) : (l.dropWhile p).filter q = l.filter q := by
    have hnil : (l.takeWhile p).filter q = [] :=
      List.filter_eq_nil_iff.mpr fun c hc => by simp [h c (List.mem_takeWhile_imp hc)]
    conv_rhs => rw [← List.takeWhile_append_dropWhile (p := p) (l := l), List.filter_append, hnil]
    rfl
  unfold stripWhile List.rdropWhile
  rw [List.filter_reverse, hdrop, ← List.filter_reverse, List.reverse_reverse, hdrop]

/-! ### Truth values -/

/-- `bool(text)`: neither `None` nor empty. -/
def truthy (text : Option String) : Bool := text.any (· ≠ "")

/-- `a or b`. -/
def orElse (a b : Option String) : Option String := if truthy a then a else b

/-! ### Digits and `int` -/

/-- The digits zero of Unicode's category `Nd`; the other nine follow each of them. -/
def decimalZeros : List ℕ :=
  [0x30, 0x660, 0x6F0, 0x7C0, 0x966, 0x9E6, 0xA66, 0xAE6, 0xB66, 0xBE6, 0xC66, 0xCE6, 0xD66, 0xDE6, 0xE50,
    0xED0, 0xF20, 0x1040, 0x1090, 0x17E0, 0x1810, 0x1946, 0x19D0, 0x1A80, 0x1A90, 0x1B50, 0x1BB0, 0x1C40,
    0x1C50, 0xA620, 0xA8D0, 0xA900, 0xA9D0, 0xA9F0, 0xAA50, 0xABF0, 0xFF10, 0x104A0, 0x10D30, 0x11066,
    0x110F0, 0x11136, 0x111D0, 0x112F0, 0x11450, 0x114D0, 0x11650, 0x116C0, 0x11730, 0x118E0, 0x11950,
    0x11C50, 0x11D50, 0x11DA0, 0x11F50, 0x16A60, 0x16AC0, 0x16B50, 0x1D7CE, 0x1D7D8, 0x1D7E2, 0x1D7EC,
    0x1D7F6, 0x1E140, 0x1E2F0, 0x1E4F0, 0x1E950, 0x1FBF0]

/-- The value of a decimal digit. -/
def decimalValue (c : Char) : Option ℕ :=
  (decimalZeros.find? fun z => z ≤ c.toNat && c.toNat < z + 10).map (c.toNat - ·)

/-- A decimal digit stands among the ten that follow a zero. -/
theorem exists_zero_of_decimal {c : Char} (h : (decimalValue c).isSome) :
    ∃ z ∈ decimalZeros, ∃ i < 10, c = Char.ofNat (z + i) := by
  obtain ⟨d, hd⟩ := Option.isSome_iff_exists.mp h
  obtain ⟨z, hz, -⟩ := Option.map_eq_some_iff.mp hd
  have hmem := List.mem_of_find?_eq_some hz
  have hrange := List.find?_some hz
  simp only [Bool.and_eq_true, decide_eq_true_eq] at hrange
  refine ⟨z, hmem, c.toNat - z, by omega, ?_⟩
  rw [Nat.add_sub_cancel' hrange.1, Char.ofNat_toNat]

theorem isSpace_of_decimal {c : Char} (h : (decimalValue c).isSome) : isSpace c = false := by
  have hall : ∀ z ∈ decimalZeros, ∀ i < 10, isSpace (Char.ofNat (z + i)) = false := by decide +kernel
  obtain ⟨z, hz, i, hi, rfl⟩ := exists_zero_of_decimal h
  exact hall z hz i hi

theorem decimalValue_lt {c : Char} {d : ℕ} (h : decimalValue c = some d) : d < 10 := by
  obtain ⟨z, hz, rfl⟩ := Option.map_eq_some_iff.mp h
  have hrange := List.find?_some hz
  simp only [Bool.and_eq_true, decide_eq_true_eq] at hrange
  omega

/-- What `int` takes for white space: the ASCII separators 1C to 1F are none to it. -/
def isIntSpace (c : Char) : Bool := isSpace c && !(0x1C ≤ c.toNat && c.toNat ≤ 0x1F)

/-- The digits of a number literal, with single underscores between digits; `afterDigit` tells whether
the character before was a digit. -/
def literalDigits (afterDigit : Bool) : List Char → Option (List ℕ)
  | [] => if afterDigit then some [] else none
  | c :: cs =>
    match decimalValue c with
    | some d => (literalDigits true cs).map (d :: ·)
    | none => if c = '_' ∧ afterDigit then literalDigits false cs else none

/-- The longest literal `int` reads. -/
def maxStrDigits : ℕ := 4300

/-- A literal without its sign. -/
def natOfLiteral (cs : List Char) : Option ℕ :=
  match literalDigits false cs with
  | some ds => if ds.length ≤ maxStrDigits then some (ds.foldl (fun n d => 10 * n + d) 0) else none
  | none => none

/-- `int(text)`, or none where it raises `ValueError`. -/
def int (text : String) : Option ℤ :=
  match stripWhile isIntSpace text.toList with
  | '-' :: cs => (natOfLiteral cs).map fun n => -(n : ℤ)
  | '+' :: cs => (natOfLiteral cs).map fun n => (n : ℤ)
  | cs => (natOfLiteral cs).map fun n => (n : ℤ)

example : ["0", " 12\t", "-1_000", "٣", "1__2", "_1", "", "5\x1c"].map int =
    [some 0, some 12, some (-1000), some 3, none, none, none, none] := by decide

end LookupAggregator.Py
