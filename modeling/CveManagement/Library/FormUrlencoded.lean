import Mathlib

/-!
# Pairs in a query

The format `application/x-www-form-urlencoded`: pairs of texts, joined by `&` and each with a `=`
between its two texts, of which all bytes but those of letters, digits and `*-._` are escaped – a
space as `+`, any other one as `%` with two digits. The texts may be of any kind that has an
encoding in bytes which can be decoded (`FormUrlencoded.Coder`).

What is read takes any query for one: parts that are empty are left out, a part without `=` has an
empty value, and a `%` without two digits is one. What was written is read as it was
(`FormUrlencoded.parse_serialize`), so the pairs of a query may be taken apart and put together
again.
-/

namespace FormUrlencoded

/-- **An encoding of texts** that can be decoded. -/
structure Coder (τ : Type*) where
  encode : τ → List UInt8
  decode : List UInt8 → τ
  decode_encode : ∀ t, decode (encode t) = t

/-- UTF-8; bytes that are none have no text. -/
def utf8 : Coder (List Char) where
  encode t := (String.ofList t).toByteArray.data.toList
  decode bs := (ByteArray.mk bs.toArray).utf8Decode?.elim [] Array.toList
  decode_encode t := by
    rw [Array.toArray_toList, String.toByteArray_ofList, List.utf8Decode?_utf8Encode,
      Option.elim_some, List.toList_toArray]

/-! ### Bytes -/

/-- The bytes that are not escaped: `*-._`, the digits and the letters. -/
def isPlain (b : UInt8) : Bool :=
  b = 0x2A || b = 0x2D || b = 0x2E || b = 0x5F || (0x30 ≤ b && b ≤ 0x39) ||
    (0x41 ≤ b && b ≤ 0x5A) || (0x61 ≤ b && b ≤ 0x7A)

/-- The digit for a number below sixteen. -/
def hexDigit (n : ℕ) : UInt8 := if n < 10 then UInt8.ofNat (0x30 + n) else UInt8.ofNat (0x37 + n)

/-- The number of a digit. -/
def hexValue (b : UInt8) : Option ℕ :=
  if 0x30 ≤ b && b ≤ 0x39 then some (b.toNat - 0x30)
  else if 0x41 ≤ b && b ≤ 0x46 then some (b.toNat - 0x37)
  else if 0x61 ≤ b && b ≤ 0x66 then some (b.toNat - 0x57)
  else none

/-- What is written for a byte. -/
def escape (b : UInt8) : List UInt8 :=
  if b = 0x20 then [0x2B]
  else if isPlain b then [b]
  else [0x25, hexDigit (b.toNat / 16), hexDigit (b.toNat % 16)]

/-- A `+` is read as a space. -/
def plusToSpace (b : UInt8) : UInt8 := if b = 0x2B then 0x20 else b

/-- Bytes for two digits. -/
def unescapeAt (h l : UInt8) : Option UInt8 :=
  match hexValue h, hexValue l with
  | some m, some n => some (UInt8.ofNat (16 * m + n))
  | _, _ => none

/-- What is read of bytes, of which a `%` with two digits is one. -/
def unescape : List UInt8 → List UInt8
  | [] => []
  | [b] => [b]
  | [b, c] => [b, c]
  | b :: h :: l :: rest =>
    if b = 0x25 then
      match unescapeAt h l with
      | some c => c :: unescape rest
      | none => b :: unescape (h :: l :: rest)
    else b :: unescape (h :: l :: rest)

theorem hexDigit_spec : ∀ n < 16, hexValue (hexDigit n) = some n ∧ hexDigit n ≠ 0x2B ∧
    hexDigit n ≠ 0x26 ∧ hexDigit n ≠ 0x3D := by
  decide

/-- A byte that is no `%` stands for itself. -/
theorem unescape_cons_of_ne {b : UInt8} (h : b ≠ 0x25) (rest : List UInt8) :
    unescape (b :: rest) = b :: unescape rest := by
  match rest with
  | [] => rfl
  | [c] => rfl
  | c :: d :: rest => rw [unescape, if_neg h]

/-- The two digits of a byte. -/
theorem unescapeAt_hexDigit (b : UInt8) :
    unescapeAt (hexDigit (b.toNat / 16)) (hexDigit (b.toNat % 16)) = some b := by
  have hhi : b.toNat / 16 < 16 := Nat.div_lt_of_lt_mul b.toNat_lt
  have hlo : b.toNat % 16 < 16 := Nat.mod_lt _ (by decide)
  rw [unescapeAt, (hexDigit_spec _ hhi).1, (hexDigit_spec _ hlo).1]
  dsimp only
  rw [Nat.div_add_mod, UInt8.ofNat_toNat]

/-- The bytes that have a meaning are escaped. -/
theorem ne_of_isPlain {b : UInt8} (h : isPlain b = true) :
    b ≠ 0x2B ∧ b ≠ 0x25 ∧ b ≠ 0x26 ∧ b ≠ 0x3D := by
  refine ⟨?_, ?_, ?_, ?_⟩ <;>
    · rintro rfl
      revert h
      decide

/-- **A byte is read as it was written.** -/
theorem unescape_escape (b : UInt8) (rest : List UInt8) :
    unescape ((escape b).map plusToSpace ++ rest) = b :: unescape rest := by
  rw [escape]
  split_ifs with hspace hplain
  · subst hspace
    exact unescape_cons_of_ne (by decide) rest
  · obtain ⟨hplus, hpercent, -, -⟩ := ne_of_isPlain hplain
    rw [List.map_singleton, plusToSpace, if_neg hplus]
    exact unescape_cons_of_ne hpercent rest
  · have hhi : b.toNat / 16 < 16 := Nat.div_lt_of_lt_mul b.toNat_lt
    have hlo : b.toNat % 16 < 16 := Nat.mod_lt _ (by decide)
    have hdigit : ∀ n < 16, plusToSpace (hexDigit n) = hexDigit n := fun n hn =>
      if_neg (hexDigit_spec n hn).2.1
    rw [List.map_cons, List.map_cons, List.map_singleton, hdigit _ hhi, hdigit _ hlo]
    change unescape (0x25 :: hexDigit _ :: hexDigit _ :: rest) = _
    rw [unescape, if_pos rfl, unescapeAt_hexDigit]

/-- Neither `&` nor `=` is written for a byte. -/
theorem ne_of_mem_escape {b c : UInt8} (h : c ∈ escape b) : c ≠ 0x26 ∧ c ≠ 0x3D := by
  rw [escape] at h
  split_ifs at h with hspace hplain
  · rw [List.mem_singleton.mp h]
    decide
  · rw [List.mem_singleton.mp h]
    exact (ne_of_isPlain hplain).2.2
  · have hhi : b.toNat / 16 < 16 := Nat.div_lt_of_lt_mul b.toNat_lt
    have hlo : b.toNat % 16 < 16 := Nat.mod_lt _ (by decide)
    simp only [List.mem_cons, List.not_mem_nil, or_false] at h
    rcases h with rfl | rfl | rfl
    · decide
    · exact (hexDigit_spec _ hhi).2.2
    · exact (hexDigit_spec _ hlo).2.2

/-! ### Texts -/

section Texts

variable {τ : Type*} (coder : Coder τ)

/-- What is written for a text. -/
def write (t : τ) : List UInt8 := (coder.encode t).flatMap escape

/-- What is read for a text. -/
def read (bs : List UInt8) : τ := coder.decode (unescape (bs.map plusToSpace))

/-- **A text is read as it was written.** -/
theorem read_write (t : τ) : read coder (write coder t) = t := by
  have hbytes : ∀ bs : List UInt8, unescape ((bs.flatMap escape).map plusToSpace) = bs := by
    intro bs
    induction bs with
    | nil => rfl
    | cons b bs ih => rw [List.flatMap_cons, List.map_append, unescape_escape, ih]
  rw [read, write, hbytes, coder.decode_encode]

theorem ne_of_mem_write {t : τ} {c : UInt8} (h : c ∈ write coder t) : c ≠ 0x26 ∧ c ≠ 0x3D := by
  obtain ⟨b, -, hb⟩ := List.mem_flatMap.mp h
  exact ne_of_mem_escape hb

/-! ### Queries -/

/-- A pair, as it is written. -/
def writePair (p : τ × τ) : List UInt8 := write coder p.1 ++ 0x3D :: write coder p.2

/-- A part of a query, as it is read. -/
def readPair (bs : List UInt8) : τ × τ :=
  (read coder (bs.takeWhile fun b => b ≠ 0x3D),
    read coder ((bs.dropWhile fun b => b ≠ 0x3D).drop 1))

/-- **The query of pairs.** -/
def serialize (l : List (τ × τ)) : List UInt8 := [0x26].intercalate (l.map (writePair coder))

/-- **The pairs of a query.** -/
def parse (query : List UInt8) : List (τ × τ) :=
  ((query.splitOn 0x26).filter fun bs => !bs.isEmpty).map (readPair coder)

theorem readPair_writePair (p : τ × τ) : readPair coder (writePair coder p) = p := by
  have hname : ∀ b ∈ write coder p.1, decide (b ≠ 0x3D) = true := fun b hb =>
    decide_eq_true (ne_of_mem_write coder hb).2
  rw [readPair, writePair, List.takeWhile_append_of_pos hname, List.dropWhile_append_of_pos hname,
    List.takeWhile_cons_of_neg (by decide), List.dropWhile_cons_of_neg (by decide),
    List.append_nil, List.drop_one, List.tail_cons, read_write, read_write]

/-- **Pairs are read as they were written.** -/
@[simp] theorem parse_serialize (l : List (τ × τ)) : parse coder (serialize coder l) = l := by
  by_cases hl : l = []
  · rw [hl]
    rfl
  · have hsep : ∀ bs ∈ l.map (writePair coder), (0x26 : UInt8) ∉ bs := by
      intro bs hbs
      obtain ⟨p, -, rfl⟩ := List.mem_map.mp hbs
      rw [writePair, List.mem_append, List.mem_cons, not_or, not_or]
      exact ⟨fun h => (ne_of_mem_write coder h).1 rfl, by decide,
        fun h => (ne_of_mem_write coder h).1 rfl⟩
    have hkeep : (l.map (writePair coder)).filter (fun bs => !bs.isEmpty) =
        l.map (writePair coder) := by
      refine List.filter_eq_self.mpr fun bs hbs => ?_
      obtain ⟨p, -, rfl⟩ := List.mem_map.mp hbs
      rw [writePair]
      cases write coder p.1 <;> rfl
    rw [parse, serialize, List.splitOn_intercalate _ hsep (by simpa using hl), hkeep, List.map_map]
    exact List.map_id'' (readPair_writePair coder) l

end Texts

end FormUrlencoded
