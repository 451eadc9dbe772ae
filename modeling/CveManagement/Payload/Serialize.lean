import CveManagement.Library.Decimal
import CveManagement.Library.Unambiguous
import CveManagement.Payload.Encoding
import Mathlib

/-!
# Payloads, serialised

`serialize_payload` of `app/services/webhooks.py` is `json.dumps` with the keys of each dictionary
sorted and no white space. What is signed and posted is that text: of the payload at hand, or of the
one that has been through a column of `jsonb`, which keeps members in an order of its own. The text
does not depend on the order, and tells payloads apart that differ in more than that
(`CveManagement.serializePayload_eq_iff`).

The default separators have a space behind them; the keys of `app/api/routers/live.py` in Redis are
written with those.
-/

namespace CveManagement

open Written

/-! ### Values -/

/-- **A value that `json.dumps` encodes**, with texts for keys, over the numbers. -/
inductive JsonData (ν : Type)
  | null
  | bool (b : Bool)
  | num (n : ν)
  | str (s : Text)
  | list (items : List (JsonData ν))
  | dict (members : List (Text × JsonData ν))

/-- A character of a number. -/
def IsNumberChar (c : Char) : Prop := c.isAlphanum = true ∨ c ∈ ['+', '-', '.']

/-- **How numbers are written**: each begins with a digit, with its sign, or as `NaN` and `Infinity`
do. -/
structure JsonNumbers (ν : Type) where
  text : ν → Text
  injective : Function.Injective text
  begins : ∀ n, ∃ c s, text n = c :: s ∧ (c.isDigit = true ∨ c ∈ ['-', 'N', 'I'])
  isNumeric : ∀ n, ∀ c ∈ text n, IsNumberChar c

/-- `int.__repr__`. -/
def intText : ℤ → Text
  | .ofNat n => Nat.toDigits 10 n
  | .negSucc n => '-' :: Nat.toDigits 10 (n + 1)

theorem isDigit_of_mem_digits {n : ℕ} : ∀ c ∈ Nat.toDigits 10 n, c.isDigit = true :=
  fun _ hc => Decimal.isDigit_of_mem_toDigits hc

/-- A number begins with a digit. -/
theorem digits_eq_cons (n : ℕ) : ∃ c s, Nat.toDigits 10 n = c :: s ∧ c.isDigit = true := by
  obtain ⟨c, s, hn⟩ := List.exists_cons_of_ne_nil (Nat.toDigits_ne_nil (b := 10) (n := n))
  exact ⟨c, s, hn, isDigit_of_mem_digits c (hn ▸ List.mem_cons_self)⟩

theorem digits_injective : Function.Injective (Nat.toDigits 10) := fun m n h => by
  rw [← @Nat.ofDigitChars_ten_toDigits m, h, Nat.ofDigitChars_ten_toDigits]

/-- **Whole numbers.** -/
def JsonNumbers.int : JsonNumbers ℤ where
  text := intText
  injective a b h := by
    have hsign : ∀ n m : ℕ, Nat.toDigits 10 n ≠ '-' :: Nat.toDigits 10 m := fun n m h =>
      absurd (isDigit_of_mem_digits '-' (h ▸ List.mem_cons_self)) (by decide)
    cases a with
    | ofNat n =>
      cases b with
      | ofNat m => rw [digits_injective h]
      | negSucc m => exact absurd h (hsign n _)
    | negSucc n =>
      cases b with
      | ofNat m => exact absurd h.symm (hsign m _)
      | negSucc m => rw [Nat.succ_injective (digits_injective (List.cons.inj h).2)]
  begins n := by
    cases n with
    | ofNat n =>
      obtain ⟨c, s, hn, hc⟩ := digits_eq_cons n
      exact ⟨c, s, hn, .inl hc⟩
    | negSucc n => exact ⟨'-', _, rfl, .inr (by decide)⟩
  isNumeric n c hc := by
    have hdigit : ∀ m, c ∈ Nat.toDigits 10 m → IsNumberChar c := fun m hm =>
      .inl (by rw [Char.isAlphanum, isDigit_of_mem_digits c hm, Bool.or_true])
    cases n with
    | ofNat n => exact hdigit n hc
    | negSucc n =>
      rcases List.mem_cons.mp hc with rfl | hc
      · exact .inr (by decide)
      · exact hdigit _ hc

namespace JsonData

variable {ν : Type}

section Write

variable (numbers : JsonNumbers ν) (space : Text)

mutual

/-- **A value, written out**, with the white space behind its separators. -/
def write : JsonData ν → Text
  | .null => "null".toList
  | .bool b => if b then "true".toList else "false".toList
  | .num n => numbers.text n
  | .str s => jsonStr s
  | .list items => '[' :: writeItems [] items
  | .dict members => openBrace :: writeMembers [] members

/-- The elements of a list, with what stands before the first. -/
def writeItems (sep : Text) : List (JsonData ν) → Text
  | [] => [']']
  | v :: items => sep ++ (write v ++ writeItems (',' :: space) items)

/-- The members of a dictionary. -/
def writeMembers (sep : Text) : List (Text × JsonData ν) → Text
  | [] => [closeBrace]
  | (k, v) :: members =>
    sep ++ (jsonStr k ++ (':' :: (space ++ (write v ++ writeMembers (',' :: space) members))))

end

end Write

mutual

/-- The keys of each dictionary in their order. -/
def sortKeys : JsonData ν → JsonData ν
  | .list items => .list (sortItems items)
  | .dict members => .dict ((sortMembers members).insertionSort fun e e' => e.1 ≤ e'.1)
  | .null => .null
  | .bool b => .bool b
  | .num n => .num n
  | .str s => .str s

/-- In each element of a list. -/
def sortItems : List (JsonData ν) → List (JsonData ν)
  | [] => []
  | v :: items => sortKeys v :: sortItems items

/-- In each member of a dictionary. -/
def sortMembers : List (Text × JsonData ν) → List (Text × JsonData ν)
  | [] => []
  | (k, v) :: members => (k, sortKeys v) :: sortMembers members

end

/-- **`json.dumps`** with `sort_keys`. -/
def dumps (numbers : JsonNumbers ν) (space : Text) (v : JsonData ν) : Text :=
  v.sortKeys.write numbers space

mutual

/-- **The same value**, as `==` has it: dictionaries have as many members, and what is under a key
of the one is the same as what is under it in the other. -/
def Same : JsonData ν → JsonData ν → Prop
  | .null, .null => True
  | .bool b, .bool b' => b = b'
  | .num n, .num n' => n = n'
  | .str s, .str s' => s = s'
  | .list items, .list items' => SameItems items items'
  | .dict members, .dict members' =>
    members.length = members'.length ∧ SameMembers members members'
  | _, _ => False

def SameItems : List (JsonData ν) → List (JsonData ν) → Prop
  | [], [] => True
  | v :: items, v' :: items' => Same v v' ∧ SameItems items items'
  | _, _ => False

def SameMembers : List (Text × JsonData ν) → List (Text × JsonData ν) → Prop
  | [], _ => True
  | (k, v) :: members, members' =>
    (∃ v', (k, v') ∈ members' ∧ Same v v') ∧ SameMembers members members'

end

mutual

/-- **No key is twice in a dictionary.** -/
def Keyed : JsonData ν → Prop
  | .list items => KeyedItems items
  | .dict members => (members.map Prod.fst).Nodup ∧ KeyedMembers members
  | _ => True

def KeyedItems : List (JsonData ν) → Prop
  | [] => True
  | v :: items => Keyed v ∧ KeyedItems items

def KeyedMembers : List (Text × JsonData ν) → Prop
  | [] => True
  | (_, v) :: members => Keyed v ∧ KeyedMembers members

end

end JsonData

/-! ### Texts -/

/-- The value of a digit to the base of sixteen. -/
def hexValue (c : Char) : ℕ := "0123456789abcdef".toList.idxOf c

/-- The number with these digits. -/
def readHex (digits : Text) : ℕ := digits.foldl (fun n c => 16 * n + hexValue c) 0

theorem hexValue_hexDigit (n : ℕ) : hexValue (hexDigit n) = n % 16 := by
  have hlt : n % 16 < 16 := Nat.mod_lt n (by norm_num)
  have hall : ∀ m : Fin 16, hexValue ("0123456789abcdef".toList.getD m '0') = m := by decide
  exact hall ⟨n % 16, hlt⟩

theorem length_hexText (width n : ℕ) : (hexText width n).length = width := by
  induction width generalizing n with
  | zero => rfl
  | succ width ih => rw [hexText, List.length_append, ih, List.length_singleton]

/-- **Digits are read as what they are of.** -/
theorem readHex_hexText (width n : ℕ) : readHex (hexText width n) = n % 16 ^ width := by
  induction width generalizing n with
  | zero => rw [pow_zero, Nat.mod_one]; rfl
  | succ width ih =>
    have hread : readHex (hexText (width + 1) n) =
        16 * readHex (hexText width (n / 16)) + hexValue (hexDigit n) := by
      rw [hexText, readHex, List.foldl_append]
      rfl
    rw [hread, ih, hexValue_hexDigit, pow_succ', Nat.mod_mul, add_comm]

/-- What stands for a character behind a backslash, other than its number. -/
def readEscape (e : Char) : Char :=
  if e = 'n' then '\n' else if e = 'r' then '\r' else if e = 't' then '\t'
  else if e = 'f' then Char.ofNat 12 else if e = 'b' then Char.ofNat 8 else e

/-- The character with the number that comes next, in one part or in two. -/
def readUnicode (s : Text) : Char × Text :=
  let n := readHex (s.take 4)
  if 55296 ≤ n ∧ n < 56320 then
    (Char.ofNat (65536 + (n - 55296) * 1024 + (readHex ((s.drop 6).take 4) - 56320)), s.drop 10)
  else (Char.ofNat n, s.drop 4)

/-- The character that comes next. -/
def readJsonChar : Text → Option (Char × Text)
  | [] => none
  | c :: s =>
    if c = backslash then
      match s with
      | [] => none
      | e :: s => if e = 'u' then some (readUnicode s) else some (readEscape e, s)
    else some (c, s)

/-- A number of four digits, with something behind it. -/
theorem readHex_take {n : ℕ} (hn : n < 65536) (s : Text) :
    readHex ((hexText 4 n ++ s).take 4) = n := by
  rw [List.take_left' (length_hexText 4 n), readHex_hexText]
  exact Nat.mod_eq_of_lt hn

/-- **A character of JSON is read.** -/
theorem readUnicode_escape (c : Char) (s : Text) : ∃ rest,
    unicodeEscape c.toNat ++ s = backslash :: 'u' :: rest ∧ readUnicode rest = (c, s) := by
  have hvalid : c.toNat < 55296 ∨ 57343 < c.toNat ∧ c.toNat < 1114112 := c.valid
  unfold unicodeEscape
  split_ifs with hshort
  · refine ⟨hexText 4 c.toNat ++ s, rfl, ?_⟩
    have hnot : ¬ (55296 ≤ c.toNat ∧ c.toNat < 56320) := by omega
    rw [readUnicode, readHex_take hshort, if_neg hnot, List.drop_left' (length_hexText 4 _),
      Char.ofNat_toNat]
  · set high := 55296 + (c.toNat - 65536) / 1024 with hhigh
    set low := 56320 + (c.toNat - 65536) % 1024 with hlow
    refine ⟨hexText 4 high ++ (backslash :: 'u' :: (hexText 4 low ++ s)), ?_, ?_⟩
    · simp only [List.cons_append, List.append_assoc]
    · have hpair : 55296 ≤ high ∧ high < 56320 := by omega
      have hdrop : (hexText 4 high ++ (backslash :: 'u' :: (hexText 4 low ++ s))).drop 6 =
          hexText 4 low ++ s := by
        have hshort : (hexText 4 high).length ≤ 6 := by
          rw [length_hexText]
          omega
        rw [List.drop_append, length_hexText, List.drop_eq_nil_of_le hshort]
        rfl
      have hend : (hexText 4 high ++ (backslash :: 'u' :: (hexText 4 low ++ s))).drop 10 = s := by
        rw [show 10 = 6 + 4 from rfl, ← List.drop_drop, hdrop,
          List.drop_left' (length_hexText 4 low)]
      have hsum : 65536 + (high - 55296) * 1024 + (low - 56320) = c.toNat := by omega
      rw [readUnicode, readHex_take (by omega), if_pos hpair, hdrop, readHex_take (by omega), hend,
        hsum, Char.ofNat_toNat]

theorem readJsonChar_jsonChar (c : Char) (s : Text) :
    readJsonChar (jsonChar c ++ s) = some (c, s) := by
  have hescape : ∀ e, e ≠ 'u' →
      readJsonChar ([backslash, e] ++ s) = some (readEscape e, s) := fun e he => if_neg he
  unfold jsonChar
  split_ifs with hquote hn hr ht hf hb hplain
  · rcases hquote with rfl | rfl
    · exact hescape '"' (by decide)
    · exact hescape backslash (by decide)
  · rw [hn]
    exact hescape 'n' (by decide)
  · rw [hr]
    exact hescape 'r' (by decide)
  · rw [ht]
    exact hescape 't' (by decide)
  · rw [hescape 'f' (by decide), ← Char.ofNat_toNat c, hf]
    rfl
  · rw [hescape 'b' (by decide), ← Char.ofNat_toNat c, hb]
    rfl
  · exact if_neg fun h => hquote (.inr h)
  · obtain ⟨rest, hrest, hread⟩ := readUnicode_escape c s
    rw [hrest, readJsonChar, if_pos rfl]
    exact congrArg some hread

/-- No character is written with a quote at its beginning. -/
theorem jsonChar_eq_cons (c : Char) : ∃ c' s, jsonChar c = c' :: s ∧ True ∧ c' ≠ '"' := by
  unfold jsonChar
  split_ifs with hquote
  all_goals first
    | exact ⟨backslash, _, rfl, trivial, by decide⟩
    | skip
  · exact ⟨c, _, rfl, trivial, fun h => hquote (.inl h)⟩
  · obtain ⟨rest, hrest, -⟩ := readUnicode_escape c []
    rw [List.append_nil] at hrest
    exact ⟨backslash, _, hrest, trivial, by decide⟩

/-- **Texts of JSON can be told apart.** -/
theorem unambiguous_jsonStr : Unambiguous (fun _ => True) jsonStr := by
  have hchars : Unambiguous (fun _ => True) fun s : Text => s.flatMap jsonChar ++ ['"'] :=
    (Unambiguous.of_reader fun c s _ => readJsonChar_jsonChar c s).flatMap trivial jsonChar_eq_cons
  intro a b s t hs ht h
  exact hchars a b s t hs ht (List.cons.inj h).2

/-! ### Values can be told apart -/

/-- The constructor of a value. -/
def JsonData.tag {ν : Type} : JsonData ν → Fin 8
  | .null => 0
  | .bool true => 1
  | .bool false => 2
  | .num _ => 3
  | .str _ => 4
  | .list _ => 5
  | .dict _ => 6

/-- What the first character of a value says about it. -/
def tagOf (c : Char) : Fin 8 :=
  if c = 'n' then 0 else if c = 't' then 1 else if c = 'f' then 2 else if c = '"' then 4
  else if c = '[' then 5 else if c = openBrace then 6
  else if c = ']' ∨ c = closeBrace then 7 else 3

theorem tagOf_of_number {c : Char} (h : c.isDigit = true ∨ c ∈ ['-', 'N', 'I']) : tagOf c = 3 := by
  have hne : ∀ d : Char, (d.isDigit || ['-', 'N', 'I'].contains d) = false → c ≠ d := by
    rintro _ hd rfl
    rw [Bool.or_eq_false_iff] at hd
    rcases h with h | h
    · rw [h] at hd
      cases hd.1
    · rw [List.contains_iff_mem.mpr h] at hd
      cases hd.2
  unfold tagOf
  rw [if_neg (hne 'n' (by decide)), if_neg (hne 't' (by decide)), if_neg (hne 'f' (by decide)),
    if_neg (hne '"' (by decide)), if_neg (hne '[' (by decide)), if_neg (hne openBrace (by decide)),
    if_neg (not_or.mpr ⟨hne ']' (by decide), hne closeBrace (by decide)⟩)]

namespace JsonData

variable {ν : Type} {numbers : JsonNumbers ν} {space : Text}

variable (numbers space) in
/-- **The first character of a value tells its constructor.** -/
theorem write_eq_cons (v : JsonData ν) :
    ∃ c s, v.write numbers space = c :: s ∧ tagOf c = v.tag := by
  cases v with
  | null => exact ⟨'n', "ull".toList, rfl, rfl⟩
  | bool b =>
    cases b with
    | false => exact ⟨'f', "alse".toList, rfl, rfl⟩
    | true => exact ⟨'t', "rue".toList, rfl, rfl⟩
  | num n =>
    obtain ⟨c, s, hn, hc⟩ := numbers.begins n
    exact ⟨c, s, hn, tagOf_of_number hc⟩
  | str s => exact ⟨'"', _, rfl, rfl⟩
  | list items => exact ⟨'[', _, rfl, rfl⟩
  | dict members => exact ⟨openBrace, _, rfl, rfl⟩

/-- Values with one text have one constructor. -/
theorem tag_eq {v w : JsonData ν} {s t : Text}
    (h : v.write numbers space ++ s = w.write numbers space ++ t) : v.tag = w.tag := by
  obtain ⟨c, v', hv, hc⟩ := v.write_eq_cons numbers space
  obtain ⟨d, w', hw, hd⟩ := w.write_eq_cons numbers space
  rw [hv, hw] at h
  rw [← hc, ← hd, (List.cons.inj h).1]

/-- No element of a list begins as the end of the list does. -/
theorem sep_append_ne_cons {sep : Text} (hsep : sep = [] ∨ sep = ',' :: space) (v : JsonData ν)
    {close : Char} (hclose : tagOf close = 7) (rest s : Text) :
    sep ++ (v.write numbers space ++ rest) ≠ close :: s := by
  intro h
  rcases hsep with rfl | rfl
  · obtain ⟨c, tail, hv, hc⟩ := v.write_eq_cons numbers space
    rw [List.nil_append, hv] at h
    obtain rfl := (List.cons.inj h).1
    rw [hc] at hclose
    cases v with
    | bool b => cases b <;> cases hclose
    | _ => cases hclose
  · obtain rfl := (List.cons.inj h).1
    cases hclose

/-- No digit comes behind an element of a list. -/
theorem follows_writeItems (items : List (JsonData ν)) (s : Text) :
    Follows (fun c => ¬ IsNumberChar c) (writeItems numbers space (',' :: space) items ++ s) := by
  cases items with
  | nil => exact follows_cons.mpr (by unfold IsNumberChar; decide)
  | cons v items => exact follows_cons.mpr (by unfold IsNumberChar; decide)

/-- Nor behind a member of a dictionary. -/
theorem follows_writeMembers (members : List (Text × JsonData ν)) (s : Text) :
    Follows (fun c => ¬ IsNumberChar c)
      (writeMembers numbers space (',' :: space) members ++ s) := by
  cases members with
  | nil => exact follows_cons.mpr (by unfold IsNumberChar; decide)
  | cons e members => exact follows_cons.mpr (by unfold IsNumberChar; decide)

mutual

/-- **Two values with one text are one**, as long as no digit comes behind them. -/
theorem write_inj : ∀ (v w : JsonData ν) {s t : Text}, Follows (fun c => ¬ IsNumberChar c) s →
    Follows (fun c => ¬ IsNumberChar c) t →
    v.write numbers space ++ s = w.write numbers space ++ t → v = w ∧ s = t
  | v, w, s, t, hs, ht, h => by
    have htag := tag_eq h
    cases v with
    | null =>
      cases w with
      | null => exact ⟨rfl, List.append_cancel_left h⟩
      | bool b => cases b <;> cases htag
      | _ => cases htag
    | bool b =>
      cases w with
      | bool b' =>
        obtain rfl : b = b' := by
          cases b <;> cases b' <;> first | rfl | cases htag
        exact ⟨rfl, List.append_cancel_left h⟩
      | _ => cases b <;> cases htag
    | num n =>
      cases w with
      | num n' =>
        obtain ⟨rfl, hst⟩ := Unambiguous.of_span numbers.injective
          (fun n c hc => not_not.mpr (numbers.isNumeric n c hc)) n n' s t hs ht h
        exact ⟨rfl, hst⟩
      | bool b => cases b <;> cases htag
      | _ => cases htag
    | str x =>
      cases w with
      | str x' =>
        obtain ⟨rfl, hst⟩ := unambiguous_jsonStr x x' s t
          (fun _ _ => trivial) (fun _ _ => trivial) h
        exact ⟨rfl, hst⟩
      | bool b => cases b <;> cases htag
      | _ => cases htag
    | list items =>
      cases w with
      | list items' =>
        obtain ⟨rfl, hst⟩ := writeItems_inj items items' (.inl rfl) (List.cons.inj h).2
        exact ⟨rfl, hst⟩
      | bool b => cases b <;> cases htag
      | _ => cases htag
    | dict members =>
      cases w with
      | dict members' =>
        obtain ⟨rfl, hst⟩ := writeMembers_inj members members' (.inl rfl) (List.cons.inj h).2
        exact ⟨rfl, hst⟩
      | bool b => cases b <;> cases htag
      | _ => cases htag

theorem writeItems_inj : ∀ (items items' : List (JsonData ν)) {sep s t : Text},
    sep = [] ∨ sep = ',' :: space →
    writeItems numbers space sep items ++ s = writeItems numbers space sep items' ++ t →
    items = items' ∧ s = t
  | [], [], _, _, _, _, h => ⟨rfl, (List.cons.inj h).2⟩
  | [], v :: items, sep, s, t, hsep, h => by
    rw [writeItems, writeItems, List.append_assoc, List.append_assoc] at h
    exact absurd h.symm (sep_append_ne_cons hsep v (by decide) _ _)
  | v :: items, [], sep, s, t, hsep, h => by
    rw [writeItems, writeItems, List.append_assoc, List.append_assoc] at h
    exact absurd h (sep_append_ne_cons hsep v (by decide) _ _)
  | v :: items, v' :: items', sep, s, t, hsep, h => by
    simp only [writeItems, List.append_assoc] at h
    obtain ⟨rfl, hitems⟩ := write_inj v v' (follows_writeItems items s)
      (follows_writeItems items' t) (List.append_cancel_left h)
    obtain ⟨rfl, hst⟩ := writeItems_inj items items' (.inr rfl) hitems
    exact ⟨rfl, hst⟩

theorem writeMembers_inj : ∀ (members members' : List (Text × JsonData ν)) {sep s t : Text},
    sep = [] ∨ sep = ',' :: space →
    writeMembers numbers space sep members ++ s =
      writeMembers numbers space sep members' ++ t → members = members' ∧ s = t
  | [], [], _, _, _, _, h => ⟨rfl, (List.cons.inj h).2⟩
  | [], (k, v) :: members, sep, s, t, hsep, h => by
    rw [writeMembers, writeMembers] at h
    rcases hsep with rfl | rfl
    · exact absurd (List.cons.inj h).1 (by decide)
    · exact absurd (List.cons.inj h).1 (by decide)
  | (k, v) :: members, [], sep, s, t, hsep, h => by
    rw [writeMembers, writeMembers] at h
    rcases hsep with rfl | rfl
    · exact absurd (List.cons.inj h).1 (by decide)
    · exact absurd (List.cons.inj h).1 (by decide)
  | (k, v) :: members, (k', v') :: members', sep, s, t, hsep, h => by
    simp only [writeMembers, List.append_assoc, List.cons_append] at h
    obtain ⟨rfl, hcolon⟩ := unambiguous_jsonStr k k' _ _
      (fun _ _ => trivial) (fun _ _ => trivial) (List.append_cancel_left h)
    have hvalue := List.append_cancel_left (List.cons.inj hcolon).2
    obtain ⟨rfl, hmembers⟩ :=
      write_inj v v' (follows_writeMembers members s) (follows_writeMembers members' t) hvalue
    obtain ⟨rfl, hst⟩ := writeMembers_inj members members' (.inr rfl) hmembers
    exact ⟨rfl, hst⟩

end

/-- **Different values are written differently.** -/
theorem write_injective : Function.Injective (write numbers space) := fun v w h =>
  (write_inj v w follows_nil follows_nil (by rw [h])).1

/-! ### The order of keys -/

theorem mem_sortMembers {members : List (Text × JsonData ν)} {k : Text} {v : JsonData ν} :
    (k, v) ∈ sortMembers members ↔ ∃ v', (k, v') ∈ members ∧ v = v'.sortKeys := by
  induction members with
  | nil => simp [sortMembers]
  | cons e members ih =>
    obtain ⟨k', v'⟩ := e
    rw [sortMembers, List.mem_cons, ih]
    constructor
    · rintro (heq | ⟨w, hw, hv⟩)
      · obtain ⟨rfl, rfl⟩ := Prod.mk.inj heq
        exact ⟨v', List.mem_cons_self, rfl⟩
      · exact ⟨w, List.mem_cons_of_mem _ hw, hv⟩
    · rintro ⟨w, hw, rfl⟩
      rcases List.mem_cons.mp hw with heq | hw
      · obtain ⟨rfl, rfl⟩ := Prod.mk.inj heq
        exact .inl rfl
      · exact .inr ⟨w, hw, rfl⟩

theorem keys_sortMembers (members : List (Text × JsonData ν)) :
    (sortMembers members).map Prod.fst = members.map Prod.fst := by
  induction members with
  | nil => rfl
  | cons e members ih =>
    obtain ⟨k, v⟩ := e
    rw [sortMembers, List.map_cons, List.map_cons, ih]

theorem length_sortMembers (members : List (Text × JsonData ν)) :
    (sortMembers members).length = members.length := by
  rw [← List.length_map Prod.fst, keys_sortMembers, List.length_map]

/-- Members with distinct keys are sorted in one way. -/
theorem insertionSort_eq_of_perm {members members' : List (Text × JsonData ν)}
    (hkeys : (members.map Prod.fst).Nodup) (h : members.Perm members') :
    (members.insertionSort fun e e' => e.1 ≤ e'.1) =
      members'.insertionSort fun e e' => e.1 ≤ e'.1 := by
  have hperm : ∀ l : List (Text × JsonData ν), (l.insertionSort fun e e' => e.1 ≤ e'.1).Perm l :=
    List.perm_insertionSort _
  have hsorted : ∀ l : List (Text × JsonData ν),
      (l.insertionSort fun e e' => e.1 ≤ e'.1).Pairwise fun e e' => e.1 ≤ e'.1 :=
    have : Std.Total fun e e' : Text × JsonData ν => e.1 ≤ e'.1 := ⟨fun e e' => le_total e.1 e'.1⟩
    have : IsTrans (Text × JsonData ν) fun e e' => e.1 ≤ e'.1 := ⟨fun _ _ _ => le_trans⟩
    List.pairwise_insertionSort _
  refine List.Perm.eq_of_pairwise ?_ (hsorted members) (hsorted members')
    ((hperm members).trans (h.trans (hperm members').symm))
  intro e e' he he' hle hle'
  refine List.inj_on_of_nodup_map hkeys ((hperm members).mem_iff.mp he) ?_ (le_antisymm hle hle')
  exact h.mem_iff.mpr ((hperm members').mem_iff.mp he')

mutual

/-- **What has the same keys in order is the same.** -/
theorem same_of_sortKeys_eq : ∀ v w : JsonData ν, v.sortKeys = w.sortKeys → v.Same w
  | .null, w, h => by
    cases w with
    | null => trivial
    | _ => cases h
  | .bool b, w, h => by
    cases w with
    | bool b' => exact JsonData.bool.inj h
    | _ => cases h
  | .num n, w, h => by
    cases w with
    | num n' => exact JsonData.num.inj h
    | _ => cases h
  | .str s, w, h => by
    cases w with
    | str s' => exact JsonData.str.inj h
    | _ => cases h
  | .list items, w, h => by
    cases w with
    | list items' => exact sameItems_of_sortItems_eq items items' (JsonData.list.inj h)
    | _ => cases h
  | .dict members, w, h => by
    cases w with
    | dict members' =>
      have hsorted := List.perm_insertionSort (fun e e' => e.1 ≤ e'.1) (sortMembers members)
      rw [JsonData.dict.inj h] at hsorted
      have hperm := hsorted.symm.trans (List.perm_insertionSort _ _)
      refine ⟨?_, sameMembers_of_subset members members' fun e he => hperm.mem_iff.mp he⟩
      rw [← length_sortMembers members, hperm.length_eq, length_sortMembers]
    | _ => cases h

theorem sameItems_of_sortItems_eq : ∀ items items' : List (JsonData ν),
    sortItems items = sortItems items' → SameItems items items'
  | [], [], _ => trivial
  | [], _ :: _, h => by cases h
  | _ :: _, [], h => by cases h
  | v :: items, v' :: items', h => by
    obtain ⟨hv, hitems⟩ := List.cons.inj h
    exact ⟨same_of_sortKeys_eq v v' hv, sameItems_of_sortItems_eq items items' hitems⟩

theorem sameMembers_of_subset : ∀ members members' : List (Text × JsonData ν),
    (∀ e ∈ sortMembers members, e ∈ sortMembers members') → SameMembers members members'
  | [], _, _ => trivial
  | (k, v) :: members, members', h => by
    obtain ⟨hmem, hmembers⟩ := List.forall_mem_cons.mp h
    obtain ⟨v', hv', heq⟩ := mem_sortMembers.mp hmem
    exact ⟨⟨v', hv', same_of_sortKeys_eq v v' heq⟩,
      sameMembers_of_subset members members' hmembers⟩

end

/-- A member of the one dictionary is one of the other. -/
theorem SameMembers.exists {members members' : List (Text × JsonData ν)}
    (h : SameMembers members members') {k : Text} {v : JsonData ν} (hv : (k, v) ∈ members) :
    ∃ v', (k, v') ∈ members' ∧ v.Same v' := by
  induction members with
  | nil => cases hv
  | cons e members ih =>
    obtain ⟨k', w⟩ := e
    rcases List.mem_cons.mp hv with heq | hv
    · obtain ⟨rfl, rfl⟩ := Prod.mk.inj heq
      exact h.1
    · exact ih h.2 hv

theorem KeyedMembers.keyed {members : List (Text × JsonData ν)} (h : KeyedMembers members)
    {k : Text} {v : JsonData ν} (hv : (k, v) ∈ members) : v.Keyed := by
  induction members with
  | nil => cases hv
  | cons e members ih =>
    obtain ⟨k', v'⟩ := e
    rcases List.mem_cons.mp hv with heq | hv
    · obtain ⟨rfl, rfl⟩ := Prod.mk.inj heq
      exact h.1
    · exact ih h.2 hv

mutual

/-- **What is the same has the same keys in order.** -/
theorem sortKeys_eq_of_same : ∀ v w : JsonData ν, v.Keyed → w.Keyed → v.Same w →
    v.sortKeys = w.sortKeys
  | .null, w, _, _, h => by
    cases w with
    | null => rfl
    | _ => exact h.elim
  | .bool b, w, _, _, h => by
    cases w with
    | bool b' => exact congrArg JsonData.bool h
    | _ => exact h.elim
  | .num n, w, _, _, h => by
    cases w with
    | num n' => exact congrArg JsonData.num h
    | _ => exact h.elim
  | .str s, w, _, _, h => by
    cases w with
    | str s' => exact congrArg JsonData.str h
    | _ => exact h.elim
  | .list items, w, hv, hw, h => by
    cases w with
    | list items' => exact congrArg JsonData.list (sortItems_eq_of_same items items' hv hw h)
    | _ => exact h.elim
  | .dict members, w, hv, hw, h => by
    cases w with
    | dict members' =>
      obtain ⟨hlength, hsame⟩ := h
      have hkeys : ((sortMembers members).map Prod.fst).Nodup := by
        rw [keys_sortMembers]
        exact hv.1
      have hsubset := subset_of_sameMembers members members' hv.2 hw.2 hsame
      have hperm : (sortMembers members).Perm (sortMembers members') :=
        (hkeys.of_map.subperm hsubset).perm_of_length_le
          (by rw [length_sortMembers, length_sortMembers, hlength])
      exact congrArg JsonData.dict (insertionSort_eq_of_perm hkeys hperm)
    | _ => exact h.elim

theorem sortItems_eq_of_same : ∀ items items' : List (JsonData ν), KeyedItems items →
    KeyedItems items' → SameItems items items' → sortItems items = sortItems items'
  | [], [], _, _, _ => rfl
  | [], _ :: _, _, _, h => h.elim
  | _ :: _, [], _, _, h => h.elim
  | v :: items, v' :: items', hv, hw, h => by
    rw [sortItems, sortItems, sortKeys_eq_of_same v v' hv.1 hw.1 h.1,
      sortItems_eq_of_same items items' hv.2 hw.2 h.2]

theorem subset_of_sameMembers : ∀ members members' : List (Text × JsonData ν),
    KeyedMembers members → KeyedMembers members' → SameMembers members members' →
    sortMembers members ⊆ sortMembers members'
  | [], _, _, _, _ => List.nil_subset _
  | (k, v) :: members, members', hv, hw, h => by
    obtain ⟨⟨v', hv', hsame⟩, hmembers⟩ := h
    refine List.cons_subset.mpr
      ⟨?_, subset_of_sameMembers members members' hv.2 hw hmembers⟩
    exact mem_sortMembers.mpr ⟨v', hv', sortKeys_eq_of_same v v' hv.1 (hw.keyed hv') hsame⟩

end

/-- **Texts with sorted keys are the same for the same values**, and for no others. -/
theorem dumps_eq_iff {v w : JsonData ν} (hv : v.Keyed) (hw : w.Keyed) :
    v.dumps numbers space = w.dumps numbers space ↔ v.Same w := by
  constructor
  · exact fun h => same_of_sortKeys_eq v w (write_injective h)
  · intro h
    rw [dumps, dumps, sortKeys_eq_of_same v w hv hw h]

mutual

/-- Nothing but ASCII is written: a byte for each character. -/
theorem isAscii_write (hspace : IsAscii space) : ∀ v : JsonData ν, IsAscii (v.write numbers space)
  | .null => isAscii_of_all (s := "null".toList) (by decide)
  | .bool true => isAscii_of_all (s := "true".toList) (by decide)
  | .bool false => isAscii_of_all (s := "false".toList) (by decide)
  | .num n => isAscii_number (numbers.isNumeric n)
  | .str s => isAscii_jsonStr s
  | .list items => isAscii_cons (by decide) (isAscii_writeItems hspace items isAscii_nil)
  | .dict members => isAscii_cons (by decide) (isAscii_writeMembers hspace members isAscii_nil)

theorem isAscii_writeItems (hspace : IsAscii space) : ∀ (items : List (JsonData ν)) {sep : Text},
    IsAscii sep → IsAscii (writeItems numbers space sep items)
  | [], _, _ => isAscii_cons (by decide) isAscii_nil
  | v :: items, _, hsep => isAscii_append hsep (isAscii_append (isAscii_write hspace v)
      (isAscii_writeItems hspace items (isAscii_cons (by decide) hspace)))

theorem isAscii_writeMembers (hspace : IsAscii space) :
    ∀ (members : List (Text × JsonData ν)) {sep : Text},
      IsAscii sep → IsAscii (writeMembers numbers space sep members)
  | [], _, _ => isAscii_cons (by decide) isAscii_nil
  | (k, v) :: members, _, hsep => isAscii_append hsep (isAscii_append (isAscii_jsonStr k)
      (isAscii_cons (by decide) (isAscii_append hspace (isAscii_append (isAscii_write hspace v)
        (isAscii_writeMembers hspace members (isAscii_cons (by decide) hspace))))))

end

end JsonData

/-! ### Payloads -/

section Payloads

variable {ν : Type} (numbers : JsonNumbers ν)

/-- **`serialize_payload`.** -/
def serializePayload (payload : JsonData ν) : Text := payload.dumps numbers []

/-- **What is signed and posted** is the same for payloads that are the same, in whichever order
their members are, and for no others. -/
theorem serializePayload_eq_iff {payload payload' : JsonData ν} (h : payload.Keyed)
    (h' : payload'.Keyed) :
    serializePayload numbers payload = serializePayload numbers payload' ↔
      payload.Same payload' :=
  JsonData.dumps_eq_iff h h'

/-- A payload, and the same one as `jsonb` has it: shorter keys first. -/
def severityPayload : JsonData ℤ :=
  .dict [("severity".toList, .str "HIGH".toList), ("cve_id".toList, .null)]

def storedPayload : JsonData ℤ :=
  .dict [("cve_id".toList, .null), ("severity".toList, .str "HIGH".toList)]

theorem keyed_severityPayload : severityPayload.Keyed := ⟨by decide, trivial, trivial, trivial⟩

theorem keyed_storedPayload : storedPayload.Keyed := ⟨by decide, trivial, trivial, trivial⟩

theorem same_storedPayload : severityPayload.Same storedPayload :=
  ⟨rfl, ⟨_, .tail _ (.head _), rfl⟩, ⟨_, .head _, trivial⟩, trivial⟩

/-- Both are posted as one text. -/
theorem serializePayload_stored :
    serializePayload .int severityPayload = serializePayload .int storedPayload :=
  (serializePayload_eq_iff .int keyed_severityPayload keyed_storedPayload).mpr same_storedPayload

end Payloads

end CveManagement
