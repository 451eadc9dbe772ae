import CveManagement.Library.Regex
import CveManagement.Payload.Encoding
import Mathlib

/-!
# The patterns of the egress filter

`_BLOCKLIST` of `app/core/http.py` has three patterns: an address of the internet, one of a network
card, and the name of a field in double quotes before a colon. None of them goes over the
punctuation of a list or a dictionary, or out of a text that `repr` has put in quotes. So a search
of what `str` writes for a value finds what it finds in one of the texts in it
(`CveManagement.PyRe.search_repr_iff`).
-/

namespace CveManagement

/-- **What `re` goes by**, on ASCII as documented, and the decoding of bytes. -/
structure PyRe (ν : Type) extends PyEncoders ν where
  /-- A character of `\w`. -/
  isWord : Char → Bool
  /-- The characters that match each other under `re.IGNORECASE`. -/
  sameLetter : Char → Char → Bool
  /-- `decode("utf-8", errors="replace")`. -/
  decode : List UInt8 → Text
  isWord_ascii : ∀ c, c.toNat < 128 → isWord c = (c.isAlphanum || c == '_')
  sameLetter_ascii : ∀ a b, a.toNat < 128 → b.toNat < 128 →
    sameLetter a b = (a.toLower == b.toLower)
  decode_ascii : ∀ s, IsAscii s → decode (s.map fun c => UInt8.ofNat c.toNat) = s

/-- The names of the fields of the inventory. -/
def fieldNames : List Text :=
  ["hostname".toList, "host".toList, "asset_id".toList, "asset_tag".toList, "asset_uuid".toList,
    "machine_id".toList, "mac_address".toList, "ip_address".toList, "ipv4".toList, "ipv6".toList,
    "fqdn".toList]

/-- A digit to the base of sixteen, in either case. -/
def isHexDigit (c : Char) : Bool :=
  c.isDigit || ('a' ≤ c && c ≤ 'f') || ('A' ≤ c && c ≤ 'F')

namespace PyRe

open Regex

variable {ν : Type} (py : PyRe ν)

/-! ### The patterns -/

/-- A character. -/
def lit (c : Char) : Regex Char := .one (· == c)

/-- `\d`. -/
def anyDigit : Regex Char := .one py.isDigit

/-- `25[0-5]|2[0-4]\d|[01]?\d?\d`. -/
def octet : Regex Char :=
  alts [seqs [lit '2', lit '5', .one fun c => '0' ≤ c && c ≤ '5'],
    seqs [lit '2', .one fun c => '0' ≤ c && c ≤ '4', py.anyDigit],
    seqs [opt (.one fun c => c == '0' || c == '1'), opt py.anyDigit, py.anyDigit]]

/-- The pattern `ipv4`. -/
def ipv4 : Regex Char := seqs [.boundary, py.octet, times (seqs [lit '.', py.octet]) 3, .boundary]

/-- Two digits. -/
def hexPair : Regex Char := seqs [.one isHexDigit, .one isHexDigit]

/-- The pattern `mac`, with what its group matches. -/
def macWith (separator : Char) : Regex Char :=
  seqs [.boundary, hexPair, lit separator, hexPair, times (seqs [lit separator, hexPair]) 4,
    .boundary]

/-- The pattern `mac`. -/
def mac : Regex Char := alts [macWith ':', macWith '-']

/-- A name, in upper or lower case. -/
def name (word : Text) : Regex Char := seqs (word.map fun a => .one (py.sameLetter a))

/-- The pattern `asset_field_name`. -/
def assetFieldName : Regex Char :=
  seqs [lit '"', alts (fieldNames.map py.name), lit '"', .many py.isSpace, lit ':']

/-- `_BLOCKLIST`. -/
def blocklist : List (String × Regex Char) :=
  [("ipv4", py.ipv4), ("mac", mac), ("asset_field_name", py.assetFieldName)]

/-! ### Searching what is written out -/

/-- **What follows a value or a key** in what is written out. -/
def Follows (s : Text) : Prop :=
  s = [] ∨ (∃ d t, s = d :: t ∧ (d = ',' ∨ d = ']' ∨ d = closeBrace)) ∨ ∃ t, s = ':' :: ' ' :: t

/-- **There is a match in one of the texts**, as `repr` writes it. -/
def HitIn (r : Regex Char) (texts : List Text) : Prop :=
  ∃ s ∈ texts, search py.isWord r false (py.reprStr s) = true

/-- **A pattern stays within the texts**: a match begins with none of the punctuation, and does not
go over the end of a scalar. -/
structure Local (r : Regex Char) : Prop where
  ended : search py.isWord r false [] = false
  punctuation : ∀ d ∈ ['[', ']', openBrace, closeBrace, ',', ' '], ∀ t,
    search py.isWord r false (d :: t) = search py.isWord r false t
  colon : ∀ t, search py.isWord r false (':' :: ' ' :: t) = search py.isWord r false t
  scalar : ∀ k t, Follows t → (search py.isWord r false (py.reprScalar k ++ t) = true ↔
    py.HitIn r k.text? ∨ search py.isWord r false t = true)

section Write

variable {py} {r : Regex Char}

theorem hitIn_append {s t : List Text} : py.HitIn r (s ++ t) ↔ py.HitIn r s ∨ py.HitIn r t := by
  simp only [HitIn, List.mem_append, or_and_right, exists_or]

/-- What is written of the values after another begins with punctuation. -/
theorem follows_writeItems {style : Notation ν} (items : List (PyObject ν)) (t : Text) :
    Follows (writeItems style items ++ t) := by
  refine .inr (.inl ?_)
  cases items with
  | nil => exact ⟨']', t, rfl, .inr (.inl rfl)⟩
  | cons v items => exact ⟨',', _, rfl, .inl rfl⟩

theorem follows_writeMembers {style : Notation ν} (members : List (PyScalar ν × PyObject ν))
    (t : Text) : Follows (writeMembers style members ++ t) := by
  refine .inr (.inl ?_)
  cases members with
  | nil => exact ⟨closeBrace, t, rfl, .inr (.inr rfl)⟩
  | cons m members => exact ⟨',', _, rfl, .inl rfl⟩

/-- **A member**: a match is in its key, under it, or in what follows. -/
theorem search_member (h : py.Local r) {k : PyScalar ν} {v t : Text} {under : List Text}
    (hv : search py.isWord r false v = true ↔
      py.HitIn r under ∨ search py.isWord r false t = true) :
    search py.isWord r false (py.reprScalar k ++ (':' :: ' ' :: v)) = true ↔
      py.HitIn r (k.text? ++ under) ∨ search py.isWord r false t = true := by
  rw [h.scalar k _ (.inr (.inr ⟨_, rfl⟩)), h.colon, hv, hitIn_append, or_assoc]

/-- The style of `repr`. -/
abbrev reprStyle (py : PyRe ν) : Notation ν := ⟨py.reprScalar, py.reprScalar⟩

theorem hitIn_nil : ¬py.HitIn r [] := fun ⟨_, hs, _⟩ => List.not_mem_nil hs

/-- Punctuation in a list of them. -/
theorem Local.skip (h : py.Local r) {d : Char}
    (hd : d ∈ ['[', ']', openBrace, closeBrace, ',', ' ']) (t : Text) :
    search py.isWord r false (d :: t) = search py.isWord r false t :=
  h.punctuation d hd t

mutual

/-- **What is written of a value has a match** exactly if one of the texts in it has one, or what
follows. -/
theorem search_write (h : py.Local r) (v : PyObject ν) {t : Text} (ht : Follows t) :
    search py.isWord r false (write py.reprStyle v ++ t) = true ↔
      py.HitIn r v.texts ∨ search py.isWord r false t = true := by
  cases v with
  | scalar k => exact h.scalar k t ht
  | list items =>
    rw [PyObject.texts]
    cases items with
    | nil =>
      rw [write, List.cons_append, List.cons_append, List.nil_append, h.skip (by simp),
        h.skip (by simp), PyObject.textsOfItems]
      exact (or_iff_right hitIn_nil).symm
    | cons v items =>
      rw [write, List.cons_append, List.append_assoc, h.skip (by simp),
        search_write h v (follows_writeItems items t), search_writeItems h items,
        PyObject.textsOfItems, hitIn_append, or_assoc]
  | dict members =>
    rw [PyObject.texts]
    cases members with
    | nil =>
      rw [write, List.cons_append, List.cons_append, List.nil_append, h.skip (by simp),
        h.skip (by simp), PyObject.textsOfMembers]
      exact (or_iff_right hitIn_nil).symm
    | cons m members =>
      obtain ⟨k, v⟩ := m
      have hv : search py.isWord r false (write py.reprStyle v ++
          (writeMembers py.reprStyle members ++ t)) = true ↔
            py.HitIn r (v.texts ++ PyObject.textsOfMembers members) ∨
              search py.isWord r false t = true := by
        rw [search_write h v (follows_writeMembers members t), search_writeMembers h members,
          hitIn_append, or_assoc]
      rw [write, List.cons_append, List.append_assoc, List.cons_append, List.cons_append,
        List.append_assoc, h.skip (by simp), PyObject.textsOfMembers]
      exact search_member h hv

theorem search_writeItems (h : py.Local r) (items : List (PyObject ν)) {t : Text} :
    search py.isWord r false (writeItems py.reprStyle items ++ t) = true ↔
      py.HitIn r (PyObject.textsOfItems items) ∨ search py.isWord r false t = true := by
  cases items with
  | nil =>
    rw [writeItems, List.cons_append, List.nil_append, h.skip (by simp), PyObject.textsOfItems]
    exact (or_iff_right hitIn_nil).symm
  | cons v items =>
    rw [writeItems, List.cons_append, List.cons_append, List.append_assoc, h.skip (by simp),
      h.skip (by simp), search_write h v (follows_writeItems items t), search_writeItems h items,
      PyObject.textsOfItems, hitIn_append, or_assoc]

theorem search_writeMembers (h : py.Local r) (members : List (PyScalar ν × PyObject ν))
    {t : Text} : search py.isWord r false (writeMembers py.reprStyle members ++ t) = true ↔
      py.HitIn r (PyObject.textsOfMembers members) ∨ search py.isWord r false t = true := by
  cases members with
  | nil =>
    rw [writeMembers, List.cons_append, List.nil_append, h.skip (by simp),
      PyObject.textsOfMembers]
    exact (or_iff_right hitIn_nil).symm
  | cons m members =>
    obtain ⟨k, v⟩ := m
    have hv : search py.isWord r false (write py.reprStyle v ++
        (writeMembers py.reprStyle members ++ t)) = true ↔
          py.HitIn r (v.texts ++ PyObject.textsOfMembers members) ∨
            search py.isWord r false t = true := by
      rw [search_write h v (follows_writeMembers members t), search_writeMembers h members,
        hitIn_append, or_assoc]
    rw [writeMembers, List.cons_append, List.cons_append, List.append_assoc, List.cons_append,
      List.cons_append, List.append_assoc, h.skip (by simp), h.skip (by simp),
      PyObject.textsOfMembers]
    exact search_member h hv

end

/-- **A search of a `repr`** finds what it finds in one of the texts. -/
theorem search_repr_iff (h : py.Local r) (v : PyObject ν) :
    search py.isWord r false (py.repr v) = true ↔ py.HitIn r v.texts := by
  have hwrite := search_write h v (t := []) (.inl rfl)
  rw [List.append_nil, h.ended] at hwrite
  exact hwrite.trans (or_iff_left Bool.false_ne_true)

end Write

/-! ### The patterns stay within the texts -/

section Local

variable {py} {r : Regex Char}

/-- **A separator** of a pattern: a character that it cannot match, and that is none of a word. -/
def Separates (py : PyRe ν) (r : Regex Char) (d : Char) : Prop :=
  py.isWord d = false ∧ r.Spares d

theorem search_cut {d : Char} (hd : py.Separates r d) (w : Bool) (s t : Text) :
    search py.isWord r w (s ++ d :: t) =
      (search py.isWord r w s || search py.isWord r false t) :=
  search_append hd.1 hd.2 w s t

/-- A separator is passed over. -/
theorem search_separator {d : Char} (hd : py.Separates r d)
    (hnil : search py.isWord r false [] = false) (t : Text) :
    search py.isWord r false (d :: t) = search py.isWord r false t := by
  rw [← List.nil_append (d :: t), search_cut hd, hnil, Bool.false_or]

/-- What `repr` writes of a scalar that is no text. -/
def IsPlain (py : PyRe ν) (s : Text) : Prop :=
  s = "None".toList ∨ s = "True".toList ∨ s = "False".toList ∨ ∃ n, s = py.reprNum n

variable (py) in
theorem reprScalar_cases (k : PyScalar ν) :
    (∃ s, k = .str s) ∨ (k.text? = [] ∧ py.IsPlain (py.reprScalar k)) := by
  cases k with
  | str s => exact .inl ⟨s, rfl⟩
  | none => exact .inr ⟨rfl, .inl rfl⟩
  | num n => exact .inr ⟨rfl, .inr (.inr (.inr ⟨n, rfl⟩))⟩
  | bool b =>
    cases b with
    | true => exact .inr ⟨rfl, .inr (.inl rfl)⟩
    | false => exact .inr ⟨rfl, .inr (.inr (.inl rfl))⟩

/-- A text in quotes is cut out of what is written, if its quote is a separator. -/
theorem search_quoted {q : Char} (hq : py.Separates r q)
    (hnil : search py.isWord r false [] = false) (s t : Text) :
    search py.isWord r false ((q :: (s ++ [q])) ++ t) =
      (search py.isWord r false (q :: (s ++ [q])) || search py.isWord r false t) := by
  have hall : ∀ t, search py.isWord r false (q :: (s ++ q :: t)) =
      (search py.isWord r false s || search py.isWord r false t) := by
    intro t
    rw [search_separator hq hnil, search_cut hq]
  rw [List.cons_append, List.append_assoc, List.singleton_append, hall, hall, hnil, Bool.or_false]

/-- **A pattern stays within the texts** if both quotes and the punctuation separate it, and it has
no match in a scalar that is no text, be it a key. -/
theorem local_of_separates (hnil : search py.isWord r false [] = false)
    (hquote : py.Separates r singleQuote ∧ py.Separates r '"')
    (hpunctuation : ∀ d ∈ ['[', ']', openBrace, closeBrace, ',', ' '], py.Separates r d)
    (hcolon : search py.isWord r false [':'] = false)
    (hplain : ∀ s, py.IsPlain s → search py.isWord r false s = false ∧
      search py.isWord r false (s ++ [':']) = false) : py.Local r := by
  have hskip : ∀ d ∈ ['[', ']', openBrace, closeBrace, ',', ' '], ∀ t,
      search py.isWord r false (d :: t) = search py.isWord r false t :=
    fun d hd => search_separator (hpunctuation d hd) hnil
  have hkey : ∀ t, search py.isWord r false (':' :: ' ' :: t) = search py.isWord r false t := by
    intro t
    have hcut := search_cut (hpunctuation ' ' (by simp)) false [':'] t
    rwa [hcolon, Bool.false_or] at hcut
  refine ⟨hnil, hskip, hkey, fun k t ht => ?_⟩
  rcases reprScalar_cases py k with ⟨s, rfl⟩ | ⟨htext, hk⟩
  · have hq : py.Separates r (PyEncoders.quoteOf s) := by
      rw [PyEncoders.quoteOf]
      split_ifs
      · exact hquote.2
      · exact hquote.1
    have hcut := search_quoted hq hnil (s.flatMap (py.reprChar (PyEncoders.quoteOf s))) t
    have hwrite : py.reprScalar (.str s) = PyEncoders.quoteOf s ::
        (s.flatMap (py.reprChar (PyEncoders.quoteOf s)) ++ [PyEncoders.quoteOf s]) := rfl
    have hhit : py.HitIn r [s] ↔ search py.isWord r false (py.reprScalar (.str s)) = true := by
      simp [HitIn, PyEncoders.reprScalar]
    rw [PyScalar.text?, hhit, hwrite, hcut, Bool.or_eq_true]
  · rw [htext]
    refine Iff.trans ?_ (or_iff_right hitIn_nil).symm
    obtain ⟨halone, hbefore⟩ := hplain _ hk
    rcases ht with rfl | ⟨d, t, rfl, hd⟩ | ⟨t, rfl⟩
    · rw [List.append_nil, halone, hnil]
    · have hmem : d ∈ ['[', ']', openBrace, closeBrace, ',', ' '] := by
        rcases hd with rfl | rfl | rfl <;> simp
      rw [search_cut (hpunctuation d hmem), halone, Bool.false_or, hskip d hmem]
    · have hcut := search_cut (hpunctuation ' ' (by simp)) false (py.reprScalar k ++ [':']) t
      rw [List.append_assoc, List.singleton_append, hbefore, Bool.false_or] at hcut
      rw [hcut, hkey]

/-! ### Addresses -/

/-- The quotes and the punctuation of lists and dictionaries. -/
def marks : List Char := [singleQuote, '"', '[', ']', openBrace, closeBrace, ',', ' ']

theorem isWord_of_mark {d : Char} (hd : d.toNat < 128)
    (hmark : (d.isAlphanum || d == '_') = false) : py.isWord d = false :=
  (py.isWord_ascii d hd).trans hmark

theorem isDigit_of_mark {d : Char} (hd : d.toNat < 128) (hmark : d.isDigit = false) :
    py.isDigit d = false := by
  rw [PyText.isDigit, py.digit_ascii d hd, asciiDigit, hmark]
  rfl

/-- The marks are of ASCII, and none of them is one of a word. -/
theorem isWord_of_mem_marks {d : Char} (hd : d ∈ marks) :
    py.isWord d = false ∧ py.isDigit d = false := by
  have hall : (marks.all fun d => decide (d.toNat < 128) && !(d.isAlphanum || d == '_') &&
      !d.isDigit) = true := rfl
  have hd := List.all_eq_true.mp hall d hd
  simp only [Bool.and_eq_true, decide_eq_true_eq, Bool.not_eq_true'] at hd
  exact ⟨isWord_of_mark hd.1.1 hd.1.2, isDigit_of_mark hd.1.1 hd.2⟩

theorem separates_ipv4 {d : Char} (hd : d ∈ marks) : py.Separates py.ipv4 d := by
  obtain ⟨hword, hdigit⟩ : py.isWord d = false ∧ py.isDigit d = false := isWord_of_mem_marks hd
  have hall : (marks.all fun d => !(d == '.') && !(d == '2') && !(d == '5') && !(d == '0') &&
      !(d == '1') && !('0' ≤ d && d ≤ '5') && !('0' ≤ d && d ≤ '4')) = true := rfl
  have hd := List.all_eq_true.mp hall d hd
  simp only [Bool.and_eq_true, Bool.not_eq_true'] at hd
  refine ⟨hword, ?_⟩
  simp [ipv4, octet, anyDigit, lit, seqs, alts, times, opt, Spares, hdigit, hd]

theorem needs_ipv4 : Needs py.isWord (· == '.') py.ipv4 3 := by
  have hpoint : Needs py.isWord (· == '.') (seqs [lit '.', py.octet]) 1 :=
    (needs_one fun _ hc => hc).seq (needs_zero _)
  exact (needs_zero _).seq ((needs_zero _).seq ((hpoint.times 3).seq (needs_zero _)))

theorem point_of_isPlain {s : Text} (h : py.IsPlain s) : s.countP (· == '.') ≤ 1 := by
  rcases h with rfl | rfl | rfl | ⟨n, rfl⟩
  · decide
  · decide
  · decide
  · exact py.reprNum_point n

theorem local_ipv4 : py.Local py.ipv4 := by
  have hfew : ∀ s : Text, s.countP (· == '.') ≤ 1 → search py.isWord py.ipv4 false s = false :=
    fun s hs => needs_ipv4.search_eq_false (Nat.lt_of_le_of_lt hs (by decide))
  refine local_of_separates (hfew [] (by decide))
    ⟨separates_ipv4 (by simp [marks]), separates_ipv4 (by simp [marks])⟩
    (fun d hd => separates_ipv4 (List.mem_cons_of_mem _ (List.mem_cons_of_mem _ hd)))
    (hfew [':'] (by decide)) fun s hs => ⟨hfew s (point_of_isPlain hs), hfew _ ?_⟩
  rw [List.countP_append]
  exact point_of_isPlain hs

theorem separates_mac {d : Char} (hd : d ∈ marks) : py.Separates mac d := by
  obtain ⟨hword, -⟩ : py.isWord d = false ∧ py.isDigit d = false := isWord_of_mem_marks hd
  have hall : (marks.all fun d => !(d == ':') && !(d == '-') && !isHexDigit d) = true := rfl
  have hd := List.all_eq_true.mp hall d hd
  simp only [Bool.and_eq_true, Bool.not_eq_true'] at hd
  refine ⟨hword, ?_⟩
  simp [mac, macWith, hexPair, lit, seqs, alts, times, Spares, hd]

theorem needs_mac : Needs py.isWord (fun c => c == ':' || c == '-') mac 5 := by
  have hwith : ∀ d, (d == ':' || d == '-') = true →
      Needs py.isWord (fun c => c == ':' || c == '-') (macWith d) 5 := by
    intro d hd
    have hlit : Needs py.isWord (fun c => c == ':' || c == '-') (lit d) 1 :=
      needs_one fun c hc => by rw [eq_of_beq hc]; exact hd
    have hpair : Needs py.isWord (fun c => c == ':' || c == '-') (seqs [lit d, hexPair]) 1 :=
      hlit.seq (needs_zero _)
    exact (needs_zero _).seq ((needs_zero _).seq (hlit.seq ((needs_zero _).seq
      ((hpair.times 4).seq (needs_zero _)))))
  refine Needs.alts fun a ha => ?_
  simp only [List.mem_cons, List.not_mem_nil, or_false] at ha
  rcases ha with rfl | rfl
  · exact hwith ':' (by decide)
  · exact hwith '-' (by decide)

theorem sign_of_isPlain {s : Text} (h : py.IsPlain s) :
    s.countP (fun c => c == ':' || c == '-') ≤ 2 := by
  rcases h with rfl | rfl | rfl | ⟨n, rfl⟩
  · decide
  · decide
  · decide
  · have hsame : (py.reprNum n).countP (fun c => c == ':' || c == '-') =
        (py.reprNum n).count '-' := by
      refine List.countP_congr fun c hc => ?_
      have hcolon : c ≠ ':' := by
        rintro rfl
        exact absurd (py.reprNum_mem n ':' hc) (by decide)
      simp [hcolon]
    exact hsame ▸ py.reprNum_sign n

theorem local_mac : py.Local mac := by
  have hfew : ∀ s : Text, s.countP (fun c => c == ':' || c == '-') ≤ 3 →
      search py.isWord mac false s = false :=
    fun s hs => needs_mac.search_eq_false (Nat.lt_of_le_of_lt hs (by decide))
  refine local_of_separates (hfew [] (by decide))
    ⟨separates_mac (by simp [marks]), separates_mac (by simp [marks])⟩
    (fun d hd => separates_mac (List.mem_cons_of_mem _ (List.mem_cons_of_mem _ hd)))
    (hfew [':'] (by decide)) fun s hs =>
      ⟨hfew s ((sign_of_isPlain hs).trans (by decide)), hfew _ ?_⟩
  rw [List.countP_append]
  exact Nat.add_le_add_right (sign_of_isPlain hs) 1

/-! ### Names of fields -/

theorem search_field_cons {c : Char} (hc : c ≠ '"') (w : Bool) (t : Text) :
    search py.isWord py.assetFieldName w (c :: t) =
      search py.isWord py.assetFieldName (py.isWord c) t := by
  have hat : matchAt py.isWord py.assetFieldName w (c :: t) = false := by
    rw [Bool.eq_false_iff, ne_eq, matchAt_iff]
    rintro ⟨e, he⟩
    obtain ⟨e', he', -⟩ := mem_ends_seq.mp he
    rw [lit, ends, if_neg (by simpa using hc)] at he'
    exact List.not_mem_nil he'
  rw [search, hat, Bool.false_or]

/-- What stands before a quote does not matter. -/
theorem search_field_eq (w : Bool) (t : Text) :
    search py.isWord py.assetFieldName w t = search py.isWord py.assetFieldName false t := by
  cases t with
  | nil => rfl
  | cons c t => rfl

theorem search_field_append {s : Text} (hs : '"' ∉ s) (w : Bool) (t : Text) :
    search py.isWord py.assetFieldName w (s ++ t) =
      search py.isWord py.assetFieldName false t := by
  induction s generalizing w with
  | nil => exact search_field_eq w t
  | cons c s ih =>
    rw [List.mem_cons, not_or] at hs
    obtain ⟨hc, hs⟩ := hs
    rw [List.cons_append, search_field_cons (Ne.symm hc), ih hs]

theorem needs_field : Needs py.isWord (· == '"') py.assetFieldName 2 := by
  have hquote : Needs py.isWord (· == '"') (lit '"') 1 := needs_one fun _ hc => hc
  exact hquote.seq ((needs_zero _).seq (hquote.seq ((needs_zero _).seq (needs_zero _))))

theorem search_field_of_few {s : Text} (hs : s.count '"' ≤ 1) (w : Bool) :
    search py.isWord py.assetFieldName w s = false :=
  needs_field.search_eq_false (Nat.lt_of_le_of_lt hs (by decide))

/-- The marks without the double quote and the space. -/
def fieldMarks : List Char := [singleQuote, '[', ']', openBrace, closeBrace, ',']

theorem sameLetter_of_toLower {a d : Char} (ha : a.toNat < 128) (hd : d.toNat < 128)
    (h : (a.toLower == d.toLower) = false) : py.sameLetter a d = false :=
  (py.sameLetter_ascii a d ha hd).trans h

theorem separates_field {d : Char} (hd : d ∈ fieldMarks) : py.Separates py.assetFieldName d := by
  have hall : (fieldMarks.all fun d => decide (d.toNat < 128) && !(d.isAlphanum || d == '_') &&
      !(d == '"') && !(d == ':') && !isAsciiSpace d && fieldNames.all fun word => word.all fun a =>
        decide (a.toNat < 128) && !(a.toLower == d.toLower)) = true := rfl
  have hd := List.all_eq_true.mp hall d hd
  simp only [Bool.and_eq_true, decide_eq_true_eq, Bool.not_eq_true', List.all_eq_true] at hd
  obtain ⟨⟨⟨⟨⟨hascii, hword⟩, hquote⟩, hcolon⟩, hspace⟩, hnames⟩ := hd
  have hname : ∀ word ∈ fieldNames, (py.name word).Spares d := by
    intro word hword
    refine spares_seqs.mpr fun r hr => ?_
    obtain ⟨a, ha, rfl⟩ := List.mem_map.mp hr
    obtain ⟨haascii, hne⟩ := hnames word hword a ha
    exact sameLetter_of_toLower haascii hascii hne
  refine ⟨isWord_of_mark hascii hword, spares_seqs.mpr fun r hr => ?_⟩
  simp only [List.mem_cons, List.not_mem_nil, or_false] at hr
  rcases hr with rfl | rfl | rfl | rfl | rfl
  · exact hquote
  · refine spares_alts.mpr fun r hr => ?_
    obtain ⟨word, hword, rfl⟩ := List.mem_map.mp hr
    exact hname word hword
  · exact hquote
  · exact (py.isSpace_ascii d hascii).trans hspace
  · exact hcolon

/-- **No name begins with a colon.** -/
theorem ends_name_colon {word : Text} (hword : word ∈ fieldNames) (w : Bool) (t : Text) :
    ends py.isWord (py.name word) w (':' :: t) = [] := by
  have hall : (fieldNames.all fun word => word.head?.any fun a =>
      decide (a.toNat < 128) && !(a.toLower == Char.toLower ':')) = true := rfl
  have hhead := List.all_eq_true.mp hall word hword
  cases word with
  | nil => cases hhead
  | cons a word =>
    simp only [List.head?_cons, Option.any_some, Bool.and_eq_true, decide_eq_true_eq,
      Bool.not_eq_true'] at hhead
    have hcolon : ¬py.sameLetter a ':' = true := by
      rw [sameLetter_of_toLower hhead.1 (by decide) hhead.2]
      exact Bool.false_ne_true
    have hfirst : ends py.isWord (.one (py.sameLetter a)) w (':' :: t) = [] := if_neg hcolon
    rw [name, List.map_cons, seqs, ends, hfirst, List.flatMap_nil]

/-- **A double quote at the end of a text** begins no match in what follows. -/
theorem search_field_quote {t : Text} (ht : Follows t) :
    search py.isWord py.assetFieldName false ('"' :: t) =
      search py.isWord py.assetFieldName false t := by
  have hnil : search py.isWord py.assetFieldName false [] = false :=
    search_field_of_few (by decide) false
  have hquote : search py.isWord py.assetFieldName false ['"'] = false :=
    search_field_of_few (by decide) false
  rcases ht with rfl | ⟨d, t, rfl, hd⟩ | ⟨t, rfl⟩
  · rw [hquote, hnil]
  · have hmem : d ∈ fieldMarks := by
      rcases hd with rfl | rfl | rfl <;> simp [fieldMarks]
    have hseparates : py.Separates py.assetFieldName d := separates_field hmem
    have hcut := search_cut hseparates false ['"'] t
    rw [List.singleton_append, hquote, Bool.false_or] at hcut
    rw [hcut, search_separator hseparates hnil]
  · have hat : matchAt py.isWord py.assetFieldName false ('"' :: ':' :: ' ' :: t) = false := by
      rw [Bool.eq_false_iff, ne_eq, matchAt_iff]
      rintro ⟨e, he⟩
      obtain ⟨e', he', he⟩ := mem_ends_seq.mp he
      obtain rfl := List.mem_singleton.mp he'
      obtain ⟨e'', he'', -⟩ := mem_ends_seq.mp he
      obtain ⟨r, hr, hmem⟩ := mem_ends_alts.mp he''
      obtain ⟨word, hword, rfl⟩ := List.mem_map.mp hr
      rw [ends_name_colon hword] at hmem
      exact List.not_mem_nil hmem
    rw [search, hat, Bool.false_or, search_field_eq]

/-- In the escapes there is no double quote. -/
theorem notMem_escape {c : Char} (hc : c ≠ '"') (width n : ℕ) :
    '"' ∉ backslash :: c :: hexText width n := by
  intro hmem
  rcases List.mem_cons.mp hmem with hback | hmem
  · exact absurd hback (by decide)
  rcases List.mem_cons.mp hmem with hkind | hmem
  · exact hc hkind.symm
  · exact absurd (mem_of_mem_hexText hmem) (by decide)

theorem notMem_reprChar {c : Char} (hc : c ≠ '"') : '"' ∉ py.reprChar '"' c := by
  unfold PyEncoders.reprChar
  split_ifs with hquoted
  · rcases hquoted with rfl | rfl
    · exact absurd rfl hc
    · decide
  · decide
  · decide
  · decide
  · exact fun hmem => hc (List.mem_singleton.mp hmem).symm
  · exact notMem_escape (by decide) 2 _
  · exact notMem_escape (by decide) 4 _
  · exact notMem_escape (by decide) 8 _

theorem mem_reprChar_singleQuote : singleQuote ∈ py.reprChar '"' singleQuote := by
  have hprintable : py.printable singleQuote = true :=
    (py.printable_ascii singleQuote (by decide)).trans (by decide)
  unfold PyEncoders.reprChar
  rw [if_neg (by decide), if_neg (by decide), if_neg (by decide), if_neg (by decide),
    if_pos hprintable]
  exact List.mem_singleton_self _

/-- **A text in double quotes** has no match in it: there is no other double quote. -/
theorem search_field_doubleQuoted {s t : Text} (hs : PyEncoders.quoteOf s = '"') (ht : Follows t) :
    search py.isWord py.assetFieldName false (py.reprStr s ++ t) =
      search py.isWord py.assetFieldName false t := by
  have hchosen : singleQuote ∈ s ∧ '"' ∉ s := by
    rw [PyEncoders.quoteOf] at hs
    split_ifs at hs with h
    · simpa using h
    · exact absurd hs (by decide)
  have hnone : '"' ∉ s.flatMap (py.reprChar '"') := by
    intro hmem
    obtain ⟨c, hc, hmem⟩ := List.mem_flatMap.mp hmem
    exact notMem_reprChar (fun heq => hchosen.2 (heq ▸ hc)) hmem
  have hsingle : singleQuote ∈ s.flatMap (py.reprChar '"') :=
    List.mem_flatMap.mpr ⟨_, hchosen.1, mem_reprChar_singleQuote⟩
  obtain ⟨s₁, s₂, hsplit⟩ := List.append_of_mem hsingle
  rw [hsplit] at hnone
  have hnone₁ : '"' ∉ s₁ := fun h => hnone (List.mem_append_left _ h)
  have hnone₂ : '"' ∉ s₂ := fun h => hnone (List.mem_append_right _ (List.mem_cons_of_mem _ h))
  have hwrite : py.reprStr s ++ t = ('"' :: s₁) ++ singleQuote :: (s₂ ++ '"' :: t) := by
    rw [PyEncoders.reprStr, hs, hsplit]
    simp
  have hfew : search py.isWord py.assetFieldName false ('"' :: s₁) = false := by
    refine search_field_of_few ?_ false
    rw [List.count_cons_self, List.count_eq_zero.mpr hnone₁]
  rw [hwrite, search_cut (separates_field (by simp [fieldMarks])), hfew, Bool.false_or,
    search_field_append hnone₂, search_field_quote ht]

theorem local_field : py.Local py.assetFieldName := by
  have hnil : search py.isWord py.assetFieldName false [] = false :=
    search_field_of_few (by decide) false
  refine ⟨hnil, fun d hd t => ?_, fun t => ?_, fun k t ht => ?_⟩
  · have hne : d ≠ '"' := by
      rintro rfl
      exact absurd hd (by decide)
    rw [search_field_cons hne, search_field_eq]
  · rw [search_field_cons (by decide), search_field_cons (by decide), search_field_eq]
  · rcases reprScalar_cases py k with ⟨s, rfl⟩ | ⟨htext, hk⟩
    · have hhit : py.HitIn py.assetFieldName [s] ↔
          search py.isWord py.assetFieldName false (py.reprStr s) = true := by
        simp [HitIn]
      rw [PyScalar.text?, hhit, PyEncoders.reprScalar]
      by_cases hs : PyEncoders.quoteOf s = '"'
      · have halone : search py.isWord py.assetFieldName false (py.reprStr s ++ []) = _ :=
          search_field_doubleQuoted hs (.inl rfl)
        rw [List.append_nil, hnil] at halone
        rw [search_field_doubleQuoted hs ht, halone]
        exact (or_iff_right Bool.false_ne_true).symm
      · have hq : PyEncoders.quoteOf s = singleQuote := by
          rw [PyEncoders.quoteOf] at hs ⊢
          split_ifs at hs ⊢
          · exact absurd rfl hs
          · rfl
        rw [PyEncoders.reprStr, hq, search_quoted (separates_field (by simp [fieldMarks])) hnil,
          Bool.or_eq_true]
    · have hnone : '"' ∉ py.reprScalar k := by
        rcases hk with hk | hk | hk | ⟨n, hk⟩
        · rw [hk]; decide
        · rw [hk]; decide
        · rw [hk]; decide
        · rw [hk]
          exact fun hmem => absurd (py.reprNum_mem n '"' hmem) (by decide)
      rw [htext, search_field_append hnone]
      exact (or_iff_right hitIn_nil).symm

/-! ### Keys with the name of a field -/

/-- **A key has the name of a field**, in upper or lower case. -/
def IsFieldName (key : Text) : Prop := key.map Char.toLower ∈ fieldNames

instance (key : Text) : Decidable (IsFieldName key) :=
  inferInstanceAs (Decidable (key.map Char.toLower ∈ fieldNames))

/-- The characters of a name of a field. -/
theorem isAlphanum_of_isFieldName {key : Text} (hkey : IsFieldName key) :
    ∀ c ∈ key, c.isAlphanum = true ∨ c = '_' := by
  intro c hc
  have hall : (fieldNames.all fun word => word.all fun a => a.isAlphanum || a == '_') = true := rfl
  have hword := List.all_eq_true.mp hall _ hkey
  have hlower := List.all_eq_true.mp hword _ (List.mem_map_of_mem hc)
  by_cases hupper : c.isUpper = true
  · exact .inl (by simp [Char.isAlphanum, Char.isAlpha, hupper])
  · rw [Char.toLower_eq_of_not_isUpper hupper, Bool.or_eq_true, beq_iff_eq] at hlower
    exact hlower

theorem mem_ends_name {key : Text} (h : ∀ c ∈ key, py.sameLetter c.toLower c = true) (w : Bool)
    (t : Text) : ∃ w', (w', t) ∈ ends py.isWord (py.name (key.map Char.toLower)) w (key ++ t) := by
  induction key generalizing w with
  | nil => exact ⟨w, List.mem_singleton_self _⟩
  | cons c key ih =>
    obtain ⟨hc, hkey⟩ := List.forall_mem_cons.mp h
    obtain ⟨w', hw'⟩ := ih hkey (py.isWord c)
    exact ⟨w', mem_ends_seq.mpr ⟨_, mem_ends_one_cons hc, hw'⟩⟩

variable (py) in
/-- **A name of a field in double quotes** before a colon is found, wherever it is. -/
theorem search_fieldName {key : Text} (hkey : IsFieldName key) (s t : Text) :
    search py.isWord py.assetFieldName false (s ++ '"' :: (key ++ ('"' :: ':' :: t))) = true := by
  have hsame : ∀ c ∈ key, py.sameLetter c.toLower c = true := by
    intro c hc
    have hascii : ∀ c : Char, c.isAlphanum = true ∨ c = '_' → c.toNat < 128 := by
      rintro c (h | rfl)
      · exact Nat.lt_of_le_of_lt (toNat_of_isAlphanum h).2 (by decide)
      · decide
    have hall : (fieldNames.all fun word => word.all fun a => a.isAlphanum || a == '_') = true :=
      rfl
    have hlower := List.all_eq_true.mp (List.all_eq_true.mp hall _ hkey) _ (List.mem_map_of_mem hc)
    rw [Bool.or_eq_true, beq_iff_eq] at hlower
    rw [py.sameLetter_ascii _ _ (hascii _ hlower) (hascii c (isAlphanum_of_isFieldName hkey c hc)),
      Char.toLower_toLower_eq_toLower, beq_self_eq_true]
  refine search_append_of_matchAt (fun w => matchAt_iff.mpr ?_) s
  obtain ⟨w', hname⟩ := mem_ends_name hsame (py.isWord '"') ('"' :: ':' :: t)
  refine ⟨(py.isWord ':', t), mem_ends_seq.mpr ⟨_, mem_ends_one_cons (by rfl), ?_⟩⟩
  refine mem_ends_seq.mpr ⟨_, mem_ends_alts.mpr ⟨_, List.mem_map_of_mem hkey, hname⟩, ?_⟩
  refine mem_ends_seq.mpr ⟨_, mem_ends_one_cons (by rfl), ?_⟩
  refine mem_ends_seq.mpr ⟨_, mem_runs_self, ?_⟩
  exact mem_ends_seq.mpr ⟨_, mem_ends_one_cons (by rfl), List.mem_singleton_self _⟩

end Local

end PyRe

end CveManagement
