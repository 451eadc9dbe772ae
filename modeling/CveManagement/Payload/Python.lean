import CveManagement.Payload.Json
import Mathlib.Data.List.DropRight
import Mathlib.Data.List.Infix

/-!
# Python's operations on payloads and texts

A payload is a value of any shape, and the code treats it as a dictionary of lists: what
`.get`, `or`, `for … in` and the like do to a value of another shape is part of what it
does. `CveManagement.PyError` names the exceptions that come out of that.

Texts are lists of characters. The operations of `str` that depend on Unicode tables –
`lower`, what is white space, what is a digit – are those of a `CveManagement.PyText`,
which fixes them on ASCII only; the others are defined here.
-/

namespace CveManagement

/-- The exceptions that the operations below raise. -/
inductive PyError
  | attributeError
  | typeError
  | valueError
  | overflowError
  deriving DecidableEq, Repr

/-- A text. -/
abbrev Text := List Char

/-! ### Exceptions -/

section Except

variable {α β ε : Type}

/-- What comes out of a step and the rest comes out of both. -/
theorem bind_eq_ok_iff {x : Except ε α} {f : α → Except ε β} {b : β} :
    x >>= f = .ok b ↔ ∃ a, x = .ok a ∧ f a = .ok b := by
  cases x <;> simp [bind, Except.bind]

/-- What both raise, and a step does not, the rest after it raises. -/
theorem error_of_bind {x : Except ε α} {f : α → Except ε β} {e : ε} (hx : x ≠ .error e)
    (h : x >>= f = .error e) : ∃ a, x = .ok a ∧ f a = .error e := by
  cases x with
  | error e' => exact absurd (congrArg Except.error (Except.error.inj h)) hx
  | ok a => exact ⟨a, rfl, h⟩

/-- A loop gets through exactly if each round does. -/
theorem mapM_ok_iff {f : α → Except ε β} {l : List α} :
    (∃ r, l.mapM f = .ok r) ↔ ∀ a ∈ l, ∃ b, f a = .ok b := by
  induction l with
  | nil => exact iff_of_true ⟨[], rfl⟩ fun a ha => absurd ha List.not_mem_nil
  | cons a l ih =>
    rw [List.forall_mem_cons, ← ih, List.mapM_cons]
    cases f a with
    | error e => simp [bind, Except.bind]
    | ok b =>
      cases l.mapM f with
      | error e => simp [bind, Except.bind]
      | ok bs => simp [bind, Except.bind, pure, Except.pure]

/-- A loop that never raises. -/
theorem mapM_eq_ok {f : α → Except ε β} {g : α → β} {l : List α}
    (h : ∀ a ∈ l, f a = .ok (g a)) : l.mapM f = .ok (l.map g) := by
  induction l with
  | nil => rfl
  | cons a l ih =>
    rw [List.mapM_cons, h a List.mem_cons_self, ih fun b hb => h b (List.mem_cons_of_mem a hb)]
    rfl

/-- What a loop returns, one of its rounds has returned. -/
theorem exists_of_mem_mapM {f : α → Except ε β} {l : List α} {r : List β} (h : l.mapM f = .ok r)
    {b : β} (hb : b ∈ r) : ∃ a ∈ l, f a = .ok b := by
  induction l generalizing r with
  | nil =>
    obtain rfl := Except.ok.inj h
    cases hb
  | cons a l ih =>
    rw [List.mapM_cons] at h
    obtain ⟨b', hb', h⟩ := bind_eq_ok_iff.mp h
    obtain ⟨bs, hbs, h⟩ := bind_eq_ok_iff.mp h
    obtain rfl := Except.ok.inj h
    rcases List.mem_cons.mp hb with rfl | hb
    · exact ⟨a, List.mem_cons_self, hb'⟩
    · obtain ⟨a', ha', hfa'⟩ := ih hbs hb
      exact ⟨a', List.mem_cons_of_mem a ha', hfa'⟩

end Except

/-! ### Values -/

namespace Json

/-- The truth value. -/
def truthy : Json → Bool
  | .null => false
  | .bool b => b
  | .num q => q != 0
  | .str s => s != ""
  | .arr items => !items.isEmpty
  | .obj members => !members.isEmpty

/-- `a or b`. -/
def or (a b : Json) : Json := if a.truthy then a else b

/-- The member of an object. -/
def member? (key : String) (members : List (String × Json)) : Option Json :=
  (members.find? fun m => m.1 == key).map Prod.snd

/-- `.get(key)`: `None` for a key that is not there. -/
def get (j : Json) (key : String) : Except PyError Json :=
  match j with
  | .obj members => .ok ((member? key members).getD .null)
  | _ => .error .attributeError

/-- The elements that a `for` loop or `list.extend` takes from a value. -/
def iter : Json → Except PyError (List Json)
  | .arr items => .ok items
  | .obj members => .ok (members.map fun m => .str m.1)
  | .str s => .ok (s.toList.map fun c => .str (String.singleton c))
  | _ => .error .typeError

/-- The elements of `value or []`. -/
def iterOr (j : Json) : Except PyError (List Json) := if j.truthy then j.iter else .ok []

/-- The value, where a method of `str` is called on it. -/
def text : Json → Except PyError Text
  | .str s => .ok s.toList
  | _ => .error .attributeError

end Json

/-! ### Texts -/

/-- ASCII white space, as `str.strip` has it. -/
def isAsciiSpace (c : Char) : Bool :=
  (9 ≤ c.toNat && c.toNat ≤ 13) || (28 ≤ c.toNat && c.toNat ≤ 32)

/-- The value of an ASCII digit. -/
def asciiDigit (c : Char) : Option ℕ := if c.isDigit then some (c.toNat - 48) else none

/-- **The operations of `str` that depend on Unicode**, on ASCII as documented. -/
structure PyText where
  /-- `str.lower`. -/
  lower : Text → Text
  /-- What `str.strip` strips. -/
  isSpace : Char → Bool
  /-- The value of a decimal digit, for `\d` and `int`. -/
  digit : Char → Option ℕ
  lower_ascii : ∀ s, (∀ c ∈ s, c.toNat < 128) → lower s = s.map Char.toLower
  isSpace_ascii : ∀ c, c.toNat < 128 → isSpace c = isAsciiSpace c
  digit_ascii : ∀ c, c.toNat < 128 → digit c = asciiDigit c

namespace PyText

/-- The operations that know no character but ASCII. -/
def ascii : PyText where
  lower := List.map Char.toLower
  isSpace := isAsciiSpace
  digit := asciiDigit
  lower_ascii _ _ := rfl
  isSpace_ascii _ _ := rfl
  digit_ascii _ _ := rfl

variable (py : PyText)

/-- `str.strip`. -/
def strip (s : Text) : Text := ((s.dropWhile py.isSpace).reverse.dropWhile py.isSpace).reverse

/-- There is nothing left to strip. -/
theorem strip_strip (s : Text) : py.strip (py.strip s) = py.strip s := by
  have hdrop : (py.strip s).dropWhile py.isSpace = py.strip s := by
    have hprefix : py.strip s <+: s.dropWhile py.isSpace := List.rdropWhile_prefix _ _
    rw [List.dropWhile_eq_self_iff]
    intro hlen
    obtain ⟨rest, hrest⟩ := hprefix
    have hhead := List.dropWhile_get_zero_not py.isSpace s
      (by rw [← hrest, List.length_append]; omega)
    simpa [← hrest, List.getElem_append_left hlen] using hhead
  have hright : (py.strip s).rdropWhile py.isSpace = py.strip s := List.rdropWhile_idempotent _ _
  calc py.strip (py.strip s) = ((py.strip s).dropWhile py.isSpace).rdropWhile py.isSpace := rfl
    _ = py.strip s := by rw [hdrop, hright]

/-- The character matches `\d`. -/
def isDigit (c : Char) : Bool := (py.digit c).isSome

/-- The value of a run of digits. -/
def digitsValue (ds : Text) : ℕ := ds.foldl (fun n c => n * 10 + (py.digit c).getD 0) 0

/-- `sys.get_int_max_str_digits()`. -/
def maxStrDigits : ℕ := 4300

/-- The digits of a number, of which two may be separated by an underscore. -/
def ungroup : Text → Option Text
  | [] => none
  | [c] => if py.isDigit c then some [c] else none
  | c :: '_' :: s => if py.isDigit c then (ungroup s).map (c :: ·) else none
  | c :: s => if py.isDigit c then (ungroup s).map (c :: ·) else none

/-- `int` of a text that is stripped; `none` is a `ValueError`. -/
def int (s : Text) : Option ℤ :=
  let unsigned : Text → Option ℕ := fun s =>
    (py.ungroup s).bind fun ds =>
      if ds.length ≤ maxStrDigits then some (py.digitsValue ds) else none
  match s with
  | '-' :: s => (unsigned s).map fun n => -(n : ℤ)
  | '+' :: s => (unsigned s).map fun n => (n : ℤ)
  | s => (unsigned s).map fun n => (n : ℤ)

end PyText

/-- A letter of `[a-z]`. -/
def isLower (c : Char) : Bool := 'a' ≤ c && c ≤ 'z'

/-- `a in b`, of texts. -/
def Text.isIn (a b : Text) : Bool := decide (a <:+: b)

/-- `s.startswith(prefix)`. -/
def Text.startsWith (s start : Text) : Bool := start.isPrefixOf s

/-- `s.split(":")`. -/
def Text.splitColon (s : Text) : List Text := s.splitOn ':'

end CveManagement
