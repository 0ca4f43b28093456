import LookupAggregator.Lib.Dict
import LookupAggregator.Lib.Lists
import LookupAggregator.Lib.Returns
import LookupAggregator.Py.Json
import LookupAggregator.Py.Text

/-! # Operations on JSON values

What Python does with a value of `response.json()`: its truth, `get`, iteration and indexing, which raise
on a value of the wrong type (`PyError`), and `str`. The dictionaries of the code are lists of items; a key
is assigned by `setItem`. -/

namespace LookupAggregator.Py

/-- What an operation raises, with its text. -/
inductive PyError
  | attributeError (text : String)
  | typeError (text : String)
  | keyError (text : String)
  | indexError (text : String)
deriving DecidableEq

/-- `str(e)`. -/
def PyError.text : PyError → String
  | attributeError text | typeError text | keyError text | indexError text => text

/-- The items of a dictionary. -/
abbrev Items := List (String × Json)

/-- `d.get(key)`. -/
def lookup (d : Items) (key : String) : Json := (d.lookup key).getD .null

/-- `d[key] = value`. -/
def setItem (d : Items) (key : String) (value : Json) : Items := Lib.Dict.setEntries key value d

namespace Json

/-! ### Types and truth -/

/-- `type(v).__name__`. -/
def typeName : Json → String
  | null => "NoneType"
  | bool _ => "bool"
  | int _ => "int"
  | float _ => "float"
  | str _ => "str"
  | arr _ => "list"
  | obj _ => "dict"

/-- `bool(v)`. -/
def truthy : Json → Bool
  | null => false
  | bool b => b
  | int n => n ≠ 0
  | float text => text ∉ ["0.0", "-0.0"]
  | str s => s ≠ ""
  | arr items => !items.isEmpty
  | obj items => !items.isEmpty

/-- `v or w`. -/
def orElse (v w : Json) : Json := if v.truthy then v else w

/-- `v is None`. -/
def isNull : Json → Bool
  | null => true
  | _ => false

/-- `isinstance(v, dict)`. -/
def isObj : Json → Bool
  | obj _ => true
  | _ => false

/-- `isinstance(v, list)`. -/
def isArr : Json → Bool
  | arr _ => true
  | _ => false

/-- `isinstance(v, int)`, which a `bool` is as well. -/
def isInt : Json → Bool
  | int _ | bool _ => true
  | _ => false

/-- `v in (None, [])`. -/
def isNullOrEmptyList : Json → Bool
  | null | arr [] => true
  | _ => false

/-! ### Operations that raise -/

/-- The items of a dictionary; any other value has no `get`. -/
def items : Json → Except PyError Items
  | obj items => .ok items
  | v => .error (.attributeError ("'" ++ v.typeName ++ "' object has no attribute 'get'"))

/-- `v.get(key)`. -/
def get (v : Json) (key : String) : Except PyError Json := v.items.map fun d => lookup d key

/-- `v.get(key, default)`. -/
def getOr (v : Json) (key : String) (default : Json) : Except PyError Json :=
  v.items.map fun d => (d.lookup key).getD default

/-- What `for x in v` runs through. -/
def iter : Json → Except PyError (List Json)
  | arr items => .ok items
  | obj items => .ok (items.map fun item => str item.1)
  | str s => .ok (s.toList.map fun c => str (String.singleton c))
  | v => .error (.typeError ("'" ++ v.typeName ++ "' object is not iterable"))

/-- `v[0]`. -/
def head : Json → Except PyError Json
  | arr (x :: _) => .ok x
  | arr [] => .error (.indexError "list index out of range")
  | str s =>
    match s.toList with
    | c :: _ => .ok (str (String.singleton c))
    | [] => .error (.indexError "string index out of range")
  | obj _ => .error (.keyError "0")
  | v => .error (.typeError ("'" ++ v.typeName ++ "' object is not subscriptable"))

/-- `v[:n]`. -/
def slice (v : Json) (n : ℕ) : Except PyError Json :=
  match v with
  | arr items => .ok (arr (items.take n))
  | str s => .ok (str (String.ofList (s.toList.take n)))
  | obj _ => .error (.keyError ("slice(None, " ++ toString n ++ ", None)"))
  | v => .error (.typeError ("'" ++ v.typeName ++ "' object is not subscriptable"))

@[simp] theorem get_obj (d : Items) (key : String) : (obj d).get key = .ok (lookup d key) := rfl
@[simp] theorem iter_arr (items : List Json) : (arr items).iter = .ok items := rfl
@[simp] theorem slice_arr (items : List Json) (n : ℕ) : (arr items).slice n = .ok (arr (items.take n)) := rfl

/-- The value can be iterated. -/
def Iterable : Json → Prop
  | arr _ | obj _ | str _ => True
  | _ => False

/-- What an iteration runs through, nothing if the value cannot be iterated. -/
def elements (v : Json) : List Json := v.iter.toOption.getD []

theorem computes_iter (v : Json) : Lib.Computes v.iter v.Iterable v.elements := by
  cases v with
  | arr items => exact (Lib.Computes.ok items).of_iff Iff.rfl
  | obj items => exact (Lib.Computes.ok _).of_iff Iff.rfl
  | str s => exact (Lib.Computes.ok _).of_iff Iff.rfl
  | null | bool _ | int _ | float _ =>
    exact fun post => iff_of_false Lib.not_returns_error fun h => h.1

/-- `for x in v or []` does not raise. -/
def Walkable (v : Json) : Prop := v.truthy = true → v.Iterable

/-- What `for x in v or []` runs through. -/
def walked (v : Json) : List Json := (v.orElse (arr [])).elements

theorem computes_walk (v : Json) : Lib.Computes (v.orElse (arr [])).iter v.Walkable v.walked := by
  refine (computes_iter _).of_iff ?_
  unfold orElse Walkable
  split_ifs with h
  · exact ⟨fun hv _ => hv, fun hv => hv h⟩
  · exact iff_of_true trivial fun hv => absurd hv h

theorem orElse_of_truthy {v w : Json} (h : v.truthy = true) : v.orElse w = v := if_pos h

theorem orElse_arr (items : List Json) : (arr items).orElse (arr []) = arr items := by
  cases items <;> rfl

/-- A list is walked as it is. -/
theorem walked_arr (items : List Json) : (arr items).Walkable ∧ (arr items).walked = items :=
  ⟨fun _ => trivial, by rw [walked, orElse_arr]; rfl⟩

/-- A value that is false has nothing to walk. -/
theorem walked_of_not_truthy {v : Json} (h : ¬ (v.orElse (arr [])).truthy = true) :
    v.Walkable ∧ v.walked = [] := by
  have hfalse : ¬ v.truthy = true := fun hv => h (by rw [orElse_of_truthy hv]; exact hv)
  refine ⟨fun hv => absurd hv hfalse, ?_⟩
  rw [walked, orElse, if_neg hfalse]
  rfl

/-- The value is a list or a text, which has a first element and slices. -/
def Sequence : Json → Prop
  | arr _ | str _ => True
  | _ => False

theorem returns_head {v : Json} (h : v.truthy = true) : (Lib.Returns v.head fun _ => True) ↔ v.Sequence := by
  cases v with
  | arr items =>
    cases items with
    | nil => cases h
    | cons x items => exact iff_of_true (Lib.returns_ok.mpr trivial) trivial
  | str s =>
    refine iff_of_true ?_ trivial
    rw [head]
    split
    · exact Lib.returns_ok.mpr trivial
    · rename_i hnil
      exact absurd (String.toList_eq_nil_iff.mp hnil) (by simpa [truthy] using h)
  | _ => exact iff_of_false Lib.not_returns_error id

/-- A slice of a list or a text can be iterated. -/
theorem returns_slice_iter {v : Json} (h : v.Sequence) (n : ℕ) :
    Lib.Returns (v.slice n >>= iter) fun _ => True := by
  cases v with
  | arr items => exact Lib.returns_ok.mpr trivial
  | str s => exact Lib.returns_ok.mpr trivial
  | _ => cases h

theorem eq_obj_of_isObj {v : Json} (h : v.isObj = true) : ∃ d, v = obj d := by
  cases v with
  | obj d => exact ⟨d, rfl⟩
  | _ => cases h

/-- Any value but an object has no `get`. -/
theorem get_of_not_isObj {v : Json} (h : v.isObj = false) (key : String) : ∃ e, v.get key = .error e := by
  cases v with
  | obj d => cases h
  | _ => exact ⟨_, rfl⟩

/-- What is computed of the objects alone is computed of a value if and only if it is one. -/
theorem eq_ok_iff_of_computes {ε α : Type} {f : Json → Except ε α} {good : Items → Prop} {a : Items → α}
    (hobj : ∀ d, Lib.Computes (f (obj d)) (good d) (a d))
    (hother : ∀ v b, v.isObj = false → f v ≠ .ok b) {v : Json} {b : α} :
    f v = .ok b ↔ ∃ d, v = obj d ∧ good d ∧ b = a d := by
  constructor
  · intro h
    cases hv : v.isObj with
    | true =>
      obtain ⟨d, rfl⟩ := eq_obj_of_isObj hv
      exact ⟨d, rfl, (hobj d).eq_ok_iff.mp h⟩
    | false => exact absurd h (hother v b hv)
  · rintro ⟨d, rfl, h⟩
    exact (hobj d).eq_ok_iff.mpr h

section First
variable {α : Type}

/-- What is read of a first element that is an object and of those behind it, or `none`. -/
def firstOf (read : Items → List Json → α) (none : α) : Json → α
  | arr (obj d :: l) => read d l
  | _ => none

theorem firstOf_of_not_truthy {read : Items → List Json → α} {none : α} {v : Json} (h : v.truthy = false) :
    v.firstOf read none = none := by
  unfold firstOf
  split
  · cases h
  · rfl

/-- Only a list has a first element that is an object. -/
theorem returns_head_bind {f : Json → Except PyError α}
    (hf : ∀ x post, x.isObj = false → ¬ Lib.Returns (f x) post) {v : Json} {post : α → Prop} :
    Lib.Returns (v.head >>= f) post ↔ ∃ d l, v = arr (obj d :: l) ∧ Lib.Returns (f (obj d)) post := by
  cases v with
  | arr items =>
    cases items with
    | nil =>
      refine iff_of_false Lib.not_returns_error ?_
      rintro ⟨d, l, heq, -⟩
      cases heq
    | cons x items =>
      rw [Lib.returns_bind, head, Lib.returns_ok]
      cases hx : x.isObj with
      | false =>
        refine iff_of_false (hf x post hx) ?_
        rintro ⟨d, l, heq, -⟩
        cases heq
        cases hx
      | true =>
        obtain ⟨d, rfl⟩ := eq_obj_of_isObj hx
        constructor
        · exact fun h => ⟨d, items, rfl, h⟩
        · rintro ⟨d', l, heq, h⟩
          cases heq
          exact h
  | str s =>
    refine iff_of_false ?_ ?_
    · rw [Lib.returns_bind, head]
      split
      · rw [Lib.returns_ok]
        exact hf _ _ rfl
      · exact Lib.not_returns_error
    · rintro ⟨d, l, heq, -⟩
      cases heq
  | _ =>
    refine iff_of_false Lib.not_returns_error ?_
    rintro ⟨d, l, heq, -⟩
    cases heq

/-- The first of the elements, if there are any: they are read if the first one is an object that can be. -/
theorem computes_firstOf (good : Items → List Json → Prop) (read : Items → List Json → α)
    {f : Json → Except PyError α} {none : α} {v : Json}
    (hf : ∀ x post, x.isObj = false → ¬ Lib.Returns (f x) post)
    (hobj : ∀ d l, v = arr (obj d :: l) → Lib.Computes (f (obj d)) (good d l) (read d l)) :
    Lib.Computes (if !(v.orElse (arr [])).truthy then .ok none else (v.orElse (arr [])).head >>= f)
      (v.truthy = true → ∃ d l, v = arr (obj d :: l) ∧ good d l) (v.firstOf read none) := by
  intro post
  cases hv : v.truthy with
  | false =>
    have horElse : v.orElse (arr []) = arr [] := by simp [orElse, hv]
    have hnil : (!(arr []).truthy) = true := rfl
    rw [horElse, if_pos hnil, Lib.returns_ok, firstOf_of_not_truthy hv]
    exact ⟨fun h => ⟨(fun ht => by cases ht), h⟩, fun h => h.2⟩
  | true =>
    rw [orElse_of_truthy hv, if_neg (by simp [hv]), returns_head_bind hf]
    constructor
    · rintro ⟨d, l, heq, h⟩
      obtain ⟨hgood, hp⟩ := (hobj d l heq post).mp h
      rw [heq]
      exact ⟨fun _ => ⟨d, l, rfl, hgood⟩, hp⟩
    · rintro ⟨hread, hp⟩
      obtain ⟨d, l, heq, hgood⟩ := hread rfl
      rw [heq] at hp
      exact ⟨d, l, heq, (hobj d l heq post).mpr ⟨hgood, hp⟩⟩

end First

/-- A list that is not empty has a first element. -/
theorem exists_cons_of_list {v : Json} (h : (v.isArr && v.truthy) = true) : ∃ x xs, v = arr (x :: xs) := by
  cases v with
  | arr items =>
    cases items with
    | nil => cases h
    | cons x xs => exact ⟨x, xs, rfl⟩
  | _ => cases h

end Json

/-! ### Dictionaries -/

theorem lookup_setItem (d : Items) (key key' : String) (value : Json) :
    (setItem d key value).lookup key' = if key' = key then some value else d.lookup key' := by
  unfold setItem
  induction d with
  | nil =>
    simp only [Lib.Dict.setEntries, List.lookup_cons, List.lookup_nil]
    by_cases h : key' = key
    · simp [h]
    · have hb : (key' == key) = false := by simpa using h
      simp [hb, h]
  | cons e d ih =>
    obtain ⟨k, v⟩ := e
    unfold Lib.Dict.setEntries
    by_cases hk : k = key
    · subst hk
      rw [if_pos rfl, List.lookup_cons, List.lookup_cons]
      by_cases h : key' = k
      · simp [h]
      · have hb : (key' == k) = false := by simpa using h
        simp [hb, h]
    · rw [if_neg hk, List.lookup_cons, List.lookup_cons, ih]
      by_cases h : key' = k
      · subst h
        simp [hk]
      · have hb : (key' == k) = false := by simpa using h
        simp [hb]

/-! ### `str` -/

/-- The characters of a number in base 16, `width` of them. -/
def hexDigits : ℕ → ℕ → List Char
  | 0, _ => []
  | width + 1, n => hexDigits width (n / 16) ++ [Nat.digitChar (n % 16)]

/-- The single quote, the double quote and the backslash. -/
def quote : Char := Char.ofNat 0x27
def doubleQuote : Char := Char.ofNat 0x22
def backslash : Char := Char.ofNat 0x5C

section Str
variable (isPrintable : Char → Bool)

/-- A character in `repr` of a text between the quotes `q`; `isPrintable` is `str.isprintable`. -/
def reprChar (q c : Char) : List Char :=
  if c = backslash ∨ c = q then [backslash, c]
  else if c = '\n' then [backslash, 'n']
  else if c = '\r' then [backslash, 'r']
  else if c = '\t' then [backslash, 't']
  else if isPrintable c then [c]
  else if c.toNat < 0x100 then backslash :: 'x' :: hexDigits 2 c.toNat
  else if c.toNat < 0x10000 then backslash :: 'u' :: hexDigits 4 c.toNat
  else backslash :: 'U' :: hexDigits 8 c.toNat

/-- `repr` of a text: between double quotes if it has single quotes and no double ones. -/
def reprStr (s : String) : List Char :=
  let q := if quote ∈ s.toList ∧ doubleQuote ∉ s.toList then doubleQuote else quote
  q :: s.toList.flatMap (reprChar isPrintable q) ++ [q]

mutual

/-- `repr(v)`. -/
def Json.repr : Json → List Char
  | .null => "None".toList
  | .bool b => if b then "True".toList else "False".toList
  | .int n => (toString n).toList
  | .float text => text.toList
  | .str s => reprStr isPrintable s
  | .arr items => '[' :: [',', ' '].intercalate (reprAll items) ++ [']']
  | .obj items => Char.ofNat 0x7B :: [',', ' '].intercalate (reprItems items) ++ [Char.ofNat 0x7D]

/-- `repr` of each item of a list. -/
def reprAll : List Json → List (List Char)
  | [] => []
  | v :: items => v.repr :: reprAll items

/-- `repr` of each item of a dictionary. -/
def reprItems : Items → List (List Char)
  | [] => []
  | (k, v) :: items => (reprStr isPrintable k ++ [':', ' '] ++ v.repr) :: reprItems items

end

/-- `str(v)`. -/
def Json.text : Json → String
  | .str s => s
  | v => String.ofList (v.repr isPrintable)

/-! ### Lengths of texts -/

theorem reprChar_ne_nil (q c : Char) : reprChar isPrintable q c ≠ [] := by
  unfold reprChar
  split_ifs <;> simp

theorem length_le_reprStr (s : String) : s.toList.length ≤ (reprStr isPrintable s).length := by
  have hflat (q : Char) (l : List Char) : l.length ≤ (l.flatMap (reprChar isPrintable q)).length := by
    induction l with
    | nil => simp
    | cons c l ih =>
      have := List.length_pos_of_ne_nil (reprChar_ne_nil isPrintable q c)
      rw [List.flatMap_cons, List.length_append, List.length_cons]
      omega
  unfold reprStr
  simp only [List.length_cons, List.length_append]
  have := hflat (if quote ∈ s.toList ∧ doubleQuote ∉ s.toList then doubleQuote else quote) s.toList
  omega

theorem reprItems_eq_map (items : Items) : reprItems isPrintable items =
    items.map fun item => reprStr isPrintable item.1 ++ [':', ' '] ++ item.2.repr isPrintable := by
  induction items with
  | nil => rfl
  | cons item items ih => rw [List.map_cons, ← ih, reprItems]

/-- The text of a dictionary is no shorter than that of a value in it. -/
theorem length_repr_le_of_mem {items : Items} {key : String} {v : Json} (h : (key, v) ∈ items) :
    (v.repr isPrintable).length ≤ ((Json.obj items).repr isPrintable).length := by
  have hmem : reprStr isPrintable key ++ [':', ' '] ++ v.repr isPrintable ∈ reprItems isPrintable items := by
    rw [reprItems_eq_map]
    exact List.mem_map.mpr ⟨(key, v), h, rfl⟩
  have hsuffix := (List.suffix_append (reprStr isPrintable key ++ [':', ' ']) (v.repr isPrintable)).isInfix
  have hinfix : v.repr isPrintable <:+: [',', ' '].intercalate (reprItems isPrintable items) :=
    hsuffix.trans (Lib.infix_intercalate hmem)
  have hle := hinfix.length_le
  rw [Json.repr, List.cons_append, List.length_cons, List.length_append]
  omega

end Str

end LookupAggregator.Py
