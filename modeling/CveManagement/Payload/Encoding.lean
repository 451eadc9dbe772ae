import CveManagement.Payload.Python
import Mathlib

/-!
# Values written out: `json.dumps` and `str`

Both write lists and dictionaries with the same punctuation, and go on inside them; they differ in
how they write what holds no others. `json.dumps` puts a text in double quotes and leaves nothing
but ASCII, and a key that is no text in quotes, too; `repr` puts a text in single quotes unless it
has one in it and no double quote, and leaves what is printable as it is.
-/

namespace CveManagement

/-- A value that holds no other, over the numbers. -/
inductive PyScalar (ν : Type)
  | none
  | bool (b : Bool)
  | num (n : ν)
  | str (s : Text)

/-- **A value that `json.dumps` can encode**: scalars, lists, and dictionaries with scalars for
keys. -/
inductive PyObject (ν : Type)
  | scalar (k : PyScalar ν)
  | list (items : List (PyObject ν))
  | dict (members : List (PyScalar ν × PyObject ν))

/-- The single quote. -/
def singleQuote : Char := Char.ofNat 39

/-- The backslash. -/
def backslash : Char := Char.ofNat 92

/-- The opening brace. -/
def openBrace : Char := Char.ofNat 123

/-- The closing brace. -/
def closeBrace : Char := Char.ofNat 125

/-- A digit to the base of sixteen. -/
def hexDigit (n : ℕ) : Char := "0123456789abcdef".toList.getD (n % 16) '0'

/-- The last digits of a number to the base of sixteen. -/
def hexText : ℕ → ℕ → Text
  | 0, _ => []
  | width + 1, n => hexText width (n / 16) ++ [hexDigit n]

/-- **What the two encoders call**, over the numbers. -/
structure PyEncoders (ν : Type) extends PyText where
  /-- `str.isprintable`, of a character. -/
  printable : Char → Bool
  /-- What `json.dumps` writes for a number. -/
  jsonNum : ν → Text
  /-- What `repr` writes for a number. -/
  reprNum : ν → Text
  printable_ascii : ∀ c, c.toNat < 128 → printable c = (32 ≤ c.toNat && c.toNat < 127)
  /-- What is in a number. -/
  jsonNum_mem : ∀ n, ∀ c ∈ jsonNum n, c.isAlphanum = true ∨ c ∈ ['+', '-', '.']
  reprNum_mem : ∀ n, ∀ c ∈ reprNum n, c.isAlphanum = true ∨ c ∈ ['+', '-', '.']
  /-- A number has one point at most. -/
  reprNum_point : ∀ n, (reprNum n).count '.' ≤ 1
  /-- A number has one sign at most, and another in its exponent. -/
  reprNum_sign : ∀ n, (reprNum n).count '-' ≤ 2

/-! ### Values of either encoder -/

/-- How scalars are written, as values and as keys. -/
structure Notation (ν : Type) where
  value : PyScalar ν → Text
  key : PyScalar ν → Text

section Write

variable {ν : Type} (style : Notation ν)

mutual

/-- **A value, written out.** -/
def write : PyObject ν → Text
  | .scalar k => style.value k
  | .list [] => ['[', ']']
  | .list (v :: items) => '[' :: (write v ++ writeItems items)
  | .dict [] => [openBrace, closeBrace]
  | .dict ((k, v) :: members) =>
    openBrace :: (style.key k ++ (':' :: ' ' :: (write v ++ writeMembers members)))

/-- The other elements of a list. -/
def writeItems : List (PyObject ν) → Text
  | [] => [']']
  | v :: items => ',' :: ' ' :: (write v ++ writeItems items)

/-- The other members of a dictionary. -/
def writeMembers : List (PyScalar ν × PyObject ν) → Text
  | [] => [closeBrace]
  | (k, v) :: members =>
    ',' :: ' ' :: (style.key k ++ (':' :: ' ' :: (write v ++ writeMembers members)))

end

end Write

/-! ### `json.dumps` -/

/-- `\u` and four digits, or two such for a character beyond them. -/
def unicodeEscape (n : ℕ) : Text :=
  if n < 65536 then backslash :: 'u' :: hexText 4 n
  else backslash :: 'u' :: (hexText 4 (55296 + (n - 65536) / 1024) ++
    (backslash :: 'u' :: hexText 4 (56320 + (n - 65536) % 1024)))

/-- A character in a text of JSON, of ASCII. -/
def jsonChar (c : Char) : Text :=
  if c = '"' ∨ c = backslash then [backslash, c]
  else if c = '\n' then [backslash, 'n']
  else if c = '\r' then [backslash, 'r']
  else if c = '\t' then [backslash, 't']
  else if c.toNat = 12 then [backslash, 'f']
  else if c.toNat = 8 then [backslash, 'b']
  else if 32 ≤ c.toNat ∧ c.toNat ≤ 126 then [c]
  else unicodeEscape c.toNat

/-- A text, as JSON. -/
def jsonStr (s : Text) : Text := '"' :: (s.flatMap jsonChar ++ ['"'])

namespace PyEncoders

variable {ν : Type} (py : PyEncoders ν)

/-- A scalar, as JSON. -/
def jsonScalar : PyScalar ν → Text
  | .none => "null".toList
  | .bool b => if b then "true".toList else "false".toList
  | .num n => py.jsonNum n
  | .str s => jsonStr s

/-- A key, as JSON: one that is no text is put in quotes. -/
def jsonKey : PyScalar ν → Text
  | .str s => jsonStr s
  | k => '"' :: (py.jsonScalar k ++ ['"'])

/-- **`json.dumps`.** -/
def dumps (v : PyObject ν) : Text := write ⟨py.jsonScalar, py.jsonKey⟩ v

/-! ### `str` -/

/-- The quote that `repr` chooses for a text. -/
def quoteOf (s : Text) : Char :=
  if s.contains singleQuote && !s.contains '"' then '"' else singleQuote

/-- A character in the `repr` of a text. -/
def reprChar (quote c : Char) : Text :=
  if c = quote ∨ c = backslash then [backslash, c]
  else if c = '\t' then [backslash, 't']
  else if c = '\n' then [backslash, 'n']
  else if c = '\r' then [backslash, 'r']
  else if py.printable c then [c]
  else if c.toNat < 256 then backslash :: 'x' :: hexText 2 c.toNat
  else if c.toNat < 65536 then backslash :: 'u' :: hexText 4 c.toNat
  else backslash :: 'U' :: hexText 8 c.toNat

/-- `repr` of a text. -/
def reprStr (s : Text) : Text :=
  quoteOf s :: (s.flatMap (py.reprChar (quoteOf s)) ++ [quoteOf s])

/-- `repr` of a scalar. -/
def reprScalar : PyScalar ν → Text
  | .none => "None".toList
  | .bool b => if b then "True".toList else "False".toList
  | .num n => py.reprNum n
  | .str s => py.reprStr s

/-- `repr`. -/
def repr (v : PyObject ν) : Text := write ⟨py.reprScalar, py.reprScalar⟩ v

/-- **`str`**: a text as it is, and of anything else the `repr`. -/
def str : PyObject ν → Text
  | .scalar (.str s) => s
  | v => py.repr v

end PyEncoders

/-! ### Keys and texts at any depth -/

namespace PyObject

variable {ν : Type}

mutual

/-- **The keys in a value**, at any depth. -/
def keys : PyObject ν → List (PyScalar ν)
  | .scalar _ => []
  | .list items => keysOfItems items
  | .dict members => keysOfMembers members

/-- Those in a list. -/
def keysOfItems : List (PyObject ν) → List (PyScalar ν)
  | [] => []
  | v :: items => keys v ++ keysOfItems items

/-- Those in a dictionary. -/
def keysOfMembers : List (PyScalar ν × PyObject ν) → List (PyScalar ν)
  | [] => []
  | (k, v) :: members => k :: (keys v ++ keysOfMembers members)

end

end PyObject

/-- The text, if the scalar is one. -/
def PyScalar.text? {ν : Type} : PyScalar ν → List Text
  | .str s => [s]
  | _ => []

namespace PyObject

variable {ν : Type}

mutual

/-- **The texts in a value**, keys and others, at any depth. -/
def texts : PyObject ν → List Text
  | .scalar k => k.text?
  | .list items => textsOfItems items
  | .dict members => textsOfMembers members

/-- Those in a list. -/
def textsOfItems : List (PyObject ν) → List Text
  | [] => []
  | v :: items => texts v ++ textsOfItems items

/-- Those in a dictionary. -/
def textsOfMembers : List (PyScalar ν × PyObject ν) → List Text
  | [] => []
  | (k, v) :: members => k.text? ++ (texts v ++ textsOfMembers members)

end

end PyObject

/-! ### Where a key is written -/

section Write

variable {ν : Type} {style : Notation ν} {k : PyScalar ν}

/-- A key is written in its member, or in what is under it, or in one of the others. -/
theorem key_infix_member {k' : PyScalar ν} {v : PyObject ν}
    {members : List (PyScalar ν × PyObject ν)}
    (hk : k ∈ PyObject.keysOfMembers ((k', v) :: members))
    (hv : k ∈ v.keys → style.key k ++ [':', ' '] <:+: write style v)
    (hm : k ∈ PyObject.keysOfMembers members →
      style.key k ++ [':', ' '] <:+: writeMembers style members) :
    style.key k ++ [':', ' '] <:+:
      style.key k' ++ (':' :: ' ' :: (write style v ++ writeMembers style members)) := by
  have hrest : write style v ++ writeMembers style members <:+:
      style.key k' ++ (':' :: ' ' :: (write style v ++ writeMembers style members)) :=
    ((List.suffix_append [':', ' '] _).trans (List.suffix_append _ _)).isInfix
  rw [PyObject.keysOfMembers] at hk
  rcases List.mem_cons.mp hk with rfl | hk
  · refine List.IsPrefix.isInfix ⟨write style v ++ writeMembers style members, ?_⟩
    rw [List.append_assoc]
    rfl
  rcases List.mem_append.mp hk with hk | hk
  · exact ((hv hk).trans (List.prefix_append _ _).isInfix).trans hrest
  · exact ((hm hk).trans (List.suffix_append _ _).isInfix).trans hrest

mutual

/-- **A key is written before a colon and a space**, at any depth. -/
theorem key_infix_write (v : PyObject ν) (hk : k ∈ v.keys) :
    style.key k ++ [':', ' '] <:+: write style v := by
  cases v with
  | scalar k => exact absurd hk List.not_mem_nil
  | list items =>
    rw [PyObject.keys] at hk
    cases items with
    | nil => exact absurd hk List.not_mem_nil
    | cons v items =>
      rw [PyObject.keysOfItems] at hk
      have hopen := (List.suffix_cons '[' (write style v ++ writeItems style items)).isInfix
      rw [write]
      rcases List.mem_append.mp hk with hk | hk
      · exact ((key_infix_write v hk).trans (List.prefix_append _ _).isInfix).trans hopen
      · exact ((key_infix_writeItems items hk).trans (List.suffix_append _ _).isInfix).trans hopen
  | dict members =>
    rw [PyObject.keys] at hk
    cases members with
    | nil => exact absurd hk List.not_mem_nil
    | cons m members =>
      obtain ⟨k', v⟩ := m
      rw [write]
      exact (key_infix_member hk (key_infix_write v) (key_infix_writeMembers members)).trans
        (List.suffix_cons _ _).isInfix

theorem key_infix_writeItems (items : List (PyObject ν)) (hk : k ∈ PyObject.keysOfItems items) :
    style.key k ++ [':', ' '] <:+: writeItems style items := by
  cases items with
  | nil => exact absurd hk List.not_mem_nil
  | cons v items =>
    have hrest := (List.suffix_append [',', ' '] (write style v ++ writeItems style items)).isInfix
    rw [PyObject.keysOfItems] at hk
    rw [writeItems]
    rcases List.mem_append.mp hk with hk | hk
    · exact ((key_infix_write v hk).trans (List.prefix_append _ _).isInfix).trans hrest
    · exact ((key_infix_writeItems items hk).trans (List.suffix_append _ _).isInfix).trans hrest

theorem key_infix_writeMembers (members : List (PyScalar ν × PyObject ν))
    (hk : k ∈ PyObject.keysOfMembers members) :
    style.key k ++ [':', ' '] <:+: writeMembers style members := by
  cases members with
  | nil => exact absurd hk List.not_mem_nil
  | cons m members =>
    obtain ⟨k', v⟩ := m
    rw [writeMembers]
    exact (key_infix_member hk (key_infix_write v) (key_infix_writeMembers members)).trans
      (List.suffix_append [',', ' '] _).isInfix

end

end Write

/-! ### Texts without escapes -/

theorem toNat_of_isAlphanum {c : Char} (h : c.isAlphanum = true) :
    48 ≤ c.toNat ∧ c.toNat ≤ 122 := by
  simp only [Char.isAlphanum, Char.isAlpha, Char.isUpper, Char.isLower, Char.isDigit,
    Bool.or_eq_true, Bool.and_eq_true, decide_eq_true_eq, ge_iff_le,
    UInt32.le_iff_toNat_le] at h
  rcases h with (h | h) | h <;>
    exact ⟨Nat.le_trans (by decide) h.1, Nat.le_trans h.2 (by decide)⟩

/-- A letter, a digit or an underscore is written as it is. -/
theorem jsonChar_of_isAlphanum {c : Char} (h : c.isAlphanum = true ∨ c = '_') :
    jsonChar c = [c] := by
  have hquoted : ¬(c = '"' ∨ c = backslash) := by
    rintro (rfl | rfl) <;> exact absurd h (by decide)
  have hrange : 48 ≤ c.toNat ∧ c.toNat ≤ 122 := by
    rcases h with h | rfl
    · exact toNat_of_isAlphanum h
    · decide
  have hne : ∀ d : Char, d.toNat < 48 → c ≠ d := by
    rintro d hd rfl
    omega
  unfold jsonChar
  rw [if_neg hquoted, if_neg (hne _ (by decide)), if_neg (hne _ (by decide)),
    if_neg (hne _ (by decide)), if_neg (by omega), if_neg (by omega), if_pos (by omega)]

theorem jsonStr_of_isAlphanum {s : Text} (h : ∀ c ∈ s, c.isAlphanum = true ∨ c = '_') :
    jsonStr s = '"' :: (s ++ ['"']) := by
  have hsame : s.flatMap jsonChar = s := by
    induction s with
    | nil => rfl
    | cons c s ih =>
      obtain ⟨hc, hs⟩ := List.forall_mem_cons.mp h
      rw [List.flatMap_cons, jsonChar_of_isAlphanum hc, ih hs, List.singleton_append]
  rw [jsonStr, hsame]

/-! ### JSON is ASCII -/

/-- A text of ASCII. -/
def IsAscii (s : Text) : Prop := ∀ c ∈ s, c.toNat < 128

theorem isAscii_append {s t : Text} (hs : IsAscii s) (ht : IsAscii t) : IsAscii (s ++ t) :=
  fun c hc => (List.mem_append.mp hc).elim (hs c) (ht c)

theorem isAscii_cons {c : Char} {s : Text} (hc : c.toNat < 128) (hs : IsAscii s) :
    IsAscii (c :: s) :=
  List.forall_mem_cons.mpr ⟨hc, hs⟩

theorem isAscii_nil : IsAscii [] := fun _ hc => absurd hc List.not_mem_nil

theorem isAscii_of_all {s : Text} (h : (s.all fun c => decide (c.toNat < 128)) = true) :
    IsAscii s :=
  fun c hc => of_decide_eq_true (List.all_eq_true.mp h c hc)

theorem hexDigit_mem (n : ℕ) : hexDigit n ∈ "0123456789abcdef".toList := by
  have hlt : n % 16 < "0123456789abcdef".toList.length := Nat.mod_lt n (by decide)
  rw [hexDigit, List.getD_eq_getElem _ _ hlt]
  exact List.getElem_mem hlt

theorem mem_of_mem_hexText {width n : ℕ} {c : Char} (hc : c ∈ hexText width n) :
    c ∈ "0123456789abcdef".toList := by
  induction width generalizing n with
  | zero => exact absurd hc List.not_mem_nil
  | succ width ih =>
    rcases List.mem_append.mp hc with hc | hc
    · exact ih hc
    · rw [List.mem_singleton.mp hc]
      exact hexDigit_mem n

theorem isAscii_hexText (width n : ℕ) : IsAscii (hexText width n) :=
  fun c hc => isAscii_of_all rfl c (mem_of_mem_hexText hc)

theorem isAscii_unicodeEscape (n : ℕ) : IsAscii (unicodeEscape n) := by
  unfold unicodeEscape
  split_ifs
  · exact isAscii_cons (by decide) (isAscii_cons (by decide) (isAscii_hexText 4 n))
  · exact isAscii_cons (by decide) (isAscii_cons (by decide) (isAscii_append (isAscii_hexText 4 _)
      (isAscii_cons (by decide) (isAscii_cons (by decide) (isAscii_hexText 4 _)))))

theorem isAscii_jsonChar (c : Char) : IsAscii (jsonChar c) := by
  have hback : backslash.toNat < 128 := by decide
  unfold jsonChar
  split_ifs with hquoted _ _ _ _ _ hplain
  · refine isAscii_cons hback (isAscii_cons ?_ isAscii_nil)
    rcases hquoted with rfl | rfl <;> decide
  · exact isAscii_cons hback (isAscii_cons (by decide) isAscii_nil)
  · exact isAscii_cons hback (isAscii_cons (by decide) isAscii_nil)
  · exact isAscii_cons hback (isAscii_cons (by decide) isAscii_nil)
  · exact isAscii_cons hback (isAscii_cons (by decide) isAscii_nil)
  · exact isAscii_cons hback (isAscii_cons (by decide) isAscii_nil)
  · exact isAscii_cons (Nat.lt_of_le_of_lt hplain.2 (by decide)) isAscii_nil
  · exact isAscii_unicodeEscape _

theorem isAscii_jsonStr (s : Text) : IsAscii (jsonStr s) := by
  refine isAscii_cons (by decide) (isAscii_append (fun c hc => ?_)
    (isAscii_cons (by decide) isAscii_nil))
  obtain ⟨c', -, hc⟩ := List.mem_flatMap.mp hc
  exact isAscii_jsonChar c' c hc

section Dumps

variable {ν : Type} {style : Notation ν}

mutual

/-- A value is written in ASCII if its scalars are. -/
theorem isAscii_write (hvalue : ∀ k, IsAscii (style.value k)) (hkey : ∀ k, IsAscii (style.key k))
    (v : PyObject ν) : IsAscii (write style v) := by
  cases v with
  | scalar k => exact hvalue k
  | list items =>
    cases items with
    | nil => exact isAscii_cons (by decide) (isAscii_cons (by decide) isAscii_nil)
    | cons v items =>
      exact isAscii_cons (by decide) (isAscii_append (isAscii_write hvalue hkey v)
        (isAscii_writeItems hvalue hkey items))
  | dict members =>
    cases members with
    | nil => exact isAscii_cons (by decide) (isAscii_cons (by decide) isAscii_nil)
    | cons m members =>
      obtain ⟨k, v⟩ := m
      exact isAscii_cons (by decide) (isAscii_append (hkey k) (isAscii_cons (by decide)
        (isAscii_cons (by decide) (isAscii_append (isAscii_write hvalue hkey v)
          (isAscii_writeMembers hvalue hkey members)))))

theorem isAscii_writeItems (hvalue : ∀ k, IsAscii (style.value k))
    (hkey : ∀ k, IsAscii (style.key k)) (items : List (PyObject ν)) :
    IsAscii (writeItems style items) := by
  cases items with
  | nil => exact isAscii_cons (by decide) isAscii_nil
  | cons v items =>
    exact isAscii_cons (by decide) (isAscii_cons (by decide)
      (isAscii_append (isAscii_write hvalue hkey v) (isAscii_writeItems hvalue hkey items)))

theorem isAscii_writeMembers (hvalue : ∀ k, IsAscii (style.value k))
    (hkey : ∀ k, IsAscii (style.key k)) (members : List (PyScalar ν × PyObject ν)) :
    IsAscii (writeMembers style members) := by
  cases members with
  | nil => exact isAscii_cons (by decide) isAscii_nil
  | cons m members =>
    obtain ⟨k, v⟩ := m
    exact isAscii_cons (by decide) (isAscii_cons (by decide) (isAscii_append (hkey k)
      (isAscii_cons (by decide) (isAscii_cons (by decide) (isAscii_append
        (isAscii_write hvalue hkey v) (isAscii_writeMembers hvalue hkey members))))))

end

theorem isAscii_number {s : Text} (h : ∀ c ∈ s, c.isAlphanum = true ∨ c ∈ ['+', '-', '.']) :
    IsAscii s := by
  intro c hc
  rcases h c hc with halnum | hmark
  · exact Nat.lt_of_le_of_lt (toNat_of_isAlphanum halnum).2 (by decide)
  · exact isAscii_of_all rfl c hmark

variable (py : PyEncoders ν)

theorem isAscii_jsonScalar (k : PyScalar ν) : IsAscii (py.jsonScalar k) := by
  cases k with
  | none => exact isAscii_of_all rfl
  | bool b => cases b <;> exact isAscii_of_all rfl
  | num n => exact isAscii_number (py.jsonNum_mem n)
  | str s => exact isAscii_jsonStr s

theorem isAscii_jsonKey (k : PyScalar ν) : IsAscii (py.jsonKey k) := by
  have hquoted : ∀ k, IsAscii ('"' :: (py.jsonScalar k ++ ['"'])) := fun k =>
    isAscii_cons (by decide) (isAscii_append (isAscii_jsonScalar py k)
      (isAscii_cons (by decide) isAscii_nil))
  cases k with
  | str s => exact isAscii_jsonStr s
  | _ => exact hquoted _

/-- **What `json.dumps` writes is ASCII.** -/
theorem isAscii_dumps (v : PyObject ν) : IsAscii (py.dumps v) :=
  isAscii_write (isAscii_jsonScalar py) (isAscii_jsonKey py) v

end Dumps

end CveManagement
