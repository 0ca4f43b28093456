import Mathlib.Data.List.Basic

/-! # Form-encoded query strings

Keys and values, as bytes, in a query string: a byte that is not left as it is becomes `+`, if it is a
space, or `%` and two digits in base 16; the two parts of an item are joined by `=`, the items by `&`. What
an encoder writes is read back: `decodeQuery_encodeQuery`. -/

namespace LookupAggregator.Lib.FormEncoding

/-! ### Bytes -/

/-- A digit in base 16, in upper case. -/
def hexDigit (n : ℕ) : Char := Char.ofNat (if n < 10 then 0x30 + n else 0x37 + n)

/-- The value of a digit in base 16. -/
def hexValue (c : Char) : Option ℕ :=
  if '0' ≤ c ∧ c ≤ '9' then some (c.toNat - 0x30)
  else if 'A' ≤ c ∧ c ≤ 'F' then some (c.toNat - 0x37)
  else none

/-- The bytes left as they are: ASCII letters and digits, `_`, `.`, `-` and `~`. -/
def isPlain (b : UInt8) : Bool :=
  (0x30 ≤ b && b ≤ 0x39) || (0x41 ≤ b && b ≤ 0x5A) || (0x61 ≤ b && b ≤ 0x7A) || b == 0x5F || b == 0x2E ||
    b == 0x2D || b == 0x7E

/-- A byte, encoded. -/
def encodeByte (b : UInt8) : List Char :=
  if isPlain b then [Char.ofNat b.toNat]
  else if b = 0x20 then ['+']
  else ['%', hexDigit (b.toNat / 16), hexDigit (b.toNat % 16)]

/-- Bytes, encoded. -/
def encode (bs : List UInt8) : List Char := bs.flatMap encodeByte

/-- Bytes, read back; none where the two characters after a `%` are not digits, or a character is no byte. At
the end, with fewer than two characters after it, a `%` is read as itself. -/
def decode : List Char → Option (List UInt8)
  | [] => some []
  | '+' :: cs => (decode cs).map (0x20 :: ·)
  | '%' :: h :: l :: cs =>
    match hexValue h, hexValue l with
    | some h, some l => (decode cs).map (UInt8.ofNat (16 * h + l) :: ·)
    | _, _ => none
  | c :: cs => if c.toNat < 0x80 then (decode cs).map (UInt8.ofNat c.toNat :: ·) else none

/-- What separates items, and the parts of an item. -/
def isSeparator (c : Char) : Bool := c == '&' || c == '='

theorem hexValue_hexDigit {n : ℕ} (h : n < 16) : hexValue (hexDigit n) = some n ∧
    isSeparator (hexDigit n) = false := by
  have hall : ∀ n < 16, hexValue (hexDigit n) = some n ∧ isSeparator (hexDigit n) = false := by decide
  exact hall n h

/-- A byte left as it is: its character is none that the decoder treats apart. -/
theorem of_isPlain {b : UInt8} (h : isPlain b = true) :
    (Char.ofNat b.toNat).toNat = b.toNat ∧ b.toNat < 0x80 ∧ Char.ofNat b.toNat ≠ '+' ∧
      Char.ofNat b.toNat ≠ '%' ∧ isSeparator (Char.ofNat b.toNat) = false := by
  have hall : ∀ n < 256, isPlain (UInt8.ofNat n) = true → (Char.ofNat n).toNat = n ∧ n < 0x80 ∧
      Char.ofNat n ≠ '+' ∧ Char.ofNat n ≠ '%' ∧ isSeparator (Char.ofNat n) = false := by decide +kernel
  exact hall b.toNat b.toNat_lt (by simpa using h)

/-- **An encoded byte is read back.** -/
theorem decode_encodeByte_append (b : UInt8) (cs : List Char) :
    decode (encodeByte b ++ cs) = (decode cs).map (b :: ·) := by
  unfold encodeByte
  split_ifs with hplain hspace
  · obtain ⟨htoNat, hlt, hplus, hpercent, -⟩ := of_isPlain hplain
    rw [List.singleton_append, decode, htoNat, if_pos hlt, UInt8.ofNat_toNat]
    · exact hplus
    · intro _ _ _ he
      exact absurd he hpercent
  · rw [List.singleton_append, decode, hspace]
  · have hlt := b.toNat_lt
    have hdigits : 16 * (b.toNat / 16) + b.toNat % 16 = b.toNat := Nat.div_add_mod _ _
    simp only [List.cons_append, List.nil_append]
    rw [decode, (hexValue_hexDigit (n := b.toNat / 16) (by omega)).1,
      (hexValue_hexDigit (n := b.toNat % 16) (by omega)).1]
    simp only [hdigits, UInt8.ofNat_toNat]

theorem isSeparator_of_mem_encodeByte {b : UInt8} {c : Char} (h : c ∈ encodeByte b) :
    isSeparator c = false := by
  unfold encodeByte at h
  split_ifs at h with hplain hspace
  · rw [List.mem_singleton.mp h]
    exact (of_isPlain hplain).2.2.2.2
  · rw [List.mem_singleton.mp h]
    rfl
  · have hlt := b.toNat_lt
    simp only [List.mem_cons, List.not_mem_nil, or_false] at h
    rcases h with rfl | rfl | rfl
    · rfl
    · exact (hexValue_hexDigit (n := b.toNat / 16) (by omega)).2
    · exact (hexValue_hexDigit (n := b.toNat % 16) (by omega)).2

/-- **Encoded bytes are read back.** -/
theorem decode_encode (bs : List UInt8) : decode (encode bs) = some bs := by
  induction bs with
  | nil => rfl
  | cons b bs ih => rw [encode, List.flatMap_cons, decode_encodeByte_append, ← encode, ih, Option.map_some]

theorem isSeparator_of_mem_encode {bs : List UInt8} {c : Char} (h : c ∈ encode bs) :
    isSeparator c = false := by
  obtain ⟨b, -, hb⟩ := List.mem_flatMap.mp h
  exact isSeparator_of_mem_encodeByte hb

/-! ### Query strings -/

/-- An item, encoded. -/
def encodeItem (item : List UInt8 × List UInt8) : List Char := encode item.1 ++ '=' :: encode item.2

/-- Items, encoded. -/
def encodeQuery (items : List (List UInt8 × List UInt8)) : List Char :=
  ['&'].intercalate (items.map encodeItem)

/-- An item, read back: its two parts meet at the first `=`. -/
def decodeItem (cs : List Char) : Option (List UInt8 × List UInt8) :=
  match decode (cs.takeWhile (· != '=')), cs.dropWhile (· != '=') with
  | some key, '=' :: rest => (decode rest).map (key, ·)
  | _, _ => none

/-- Items, read back. -/
def decodeQuery (cs : List Char) : Option (List (List UInt8 × List UInt8)) :=
  (cs.splitOn '&').mapM decodeItem

theorem decodeItem_encodeItem (item : List UInt8 × List UInt8) : decodeItem (encodeItem item) = some item := by
  have hkey : ∀ c ∈ encode item.1, (c != '=') = true := fun c hc => by
    have hsep := isSeparator_of_mem_encode hc
    simp only [isSeparator, Bool.or_eq_false_iff] at hsep
    simp [bne, hsep.2]
  have htake : (encodeItem item).takeWhile (· != '=') = encode item.1 := by
    rw [encodeItem, List.takeWhile_append_of_pos hkey]
    simp
  have hdrop : (encodeItem item).dropWhile (· != '=') = '=' :: encode item.2 := by
    rw [encodeItem, List.dropWhile_append_of_pos hkey]
    simp
  rw [decodeItem, htake, hdrop, decode_encode]
  simp only [decode_encode, Option.map_some]

theorem ampersand_notMem_encodeItem (item : List UInt8 × List UInt8) : '&' ∉ encodeItem item := by
  intro h
  rcases List.mem_append.mp h with h | h
  · cases isSeparator_of_mem_encode h
  · rcases List.mem_cons.mp h with h | h
    · cases h
    · cases isSeparator_of_mem_encode h

/-- **An encoded query string is read back**, item by item. -/
theorem decodeQuery_encodeQuery {items : List (List UInt8 × List UInt8)} (h : items ≠ []) :
    decodeQuery (encodeQuery items) = some items := by
  have hsplit : (encodeQuery items).splitOn '&' = items.map encodeItem := by
    refine List.splitOn_intercalate '&' (fun cs hcs => ?_) (by simpa using h)
    obtain ⟨item, -, rfl⟩ := List.mem_map.mp hcs
    exact ampersand_notMem_encodeItem item
  have hmap (l : List (List UInt8 × List UInt8)) : (l.map encodeItem).mapM decodeItem = some l := by
    induction l with
    | nil => rfl
    | cons item l ih => rw [List.map_cons, List.mapM_cons, decodeItem_encodeItem, ih]; rfl
  rw [decodeQuery, hsplit, hmap]

end LookupAggregator.Lib.FormEncoding
