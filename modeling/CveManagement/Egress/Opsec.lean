import CveManagement.Egress.Blocklist

/-!
# Requests with fields of the inventory

`OpsecAwareClient.request` of `app/core/http.py` makes a text of the body, and refuses the request
if one of the patterns has a match in it: of `json=` it makes what `json.dumps` writes, of
`content=` the text itself, and of `data=` what `str` writes.

A mapping with a field of the inventory among its keys is refused as `json=` and as `content=`, at
any depth. As `data=` it is written with single quotes, which the pattern for the names of fields
does not know: it is refused exactly if one of the texts in it would be refused on its own
(`CveManagement.PyRe.refusedHowever_iff`).
-/

namespace CveManagement

/-- An `OpsecAwareClient`. -/
structure OpsecClient where
  provider : String
  enforcement : Bool

/-- What is passed as `content=`. -/
inductive RequestContent
  | text (s : Text)
  | bytes (bs : List UInt8)

/-- The keyword arguments of a request with a body, of which `none` is `None`, too. -/
structure RequestBody (ν : Type) where
  json : Option (PyObject ν)
  content : Option RequestContent
  data : Option (PyObject ν)

/-- `OpsecViolationError`. -/
structure OpsecViolationError where
  provider : String
  reason : String

/-- **What comes of a request.** -/
structure Egress where
  /-- The rule that `_on_violation` logs and counts. -/
  violation : Option String
  raised : Option OpsecViolationError
  /-- The request is made. -/
  sent : Bool

/-- The request is refused, and nothing is sent. -/
def Egress.Refused (e : Egress) : Prop := e.raised.isSome = true ∧ e.sent = false

namespace PyRe

open Regex

variable {ν : Type} (py : PyRe ν)

/-- `_body_as_string`. -/
def bodyAsString (body : RequestBody ν) : Option Text :=
  match body.json with
  | some data => some (py.dumps data)
  | none =>
    match body.content with
    | some (.bytes bs) => some (py.decode bs)
    | some (.text s) => some s
    | none => body.data.map py.str

/-- `_scan`: the first rule with a match. -/
def scan (body : Text) : Option String :=
  (py.blocklist.find? fun rule => search py.isWord rule.2 false body).map Prod.fst

/-- **`OpsecAwareClient.request`.** -/
def request (client : OpsecClient) (body : RequestBody ν) : Egress :=
  match (py.bodyAsString body).bind fun s => if s = [] then none else py.scan s with
  | none => ⟨none, none, true⟩
  | some rule =>
    if client.enforcement then ⟨some rule, some ⟨client.provider, rule⟩, false⟩
    else ⟨some rule, none, true⟩

/-- UTF-8, of a text of ASCII. -/
def utf8 (s : Text) : List UInt8 := s.map fun c => UInt8.ofNat c.toNat

/-- **A mapping is refused however it is passed.** -/
def RefusedHowever (client : OpsecClient) (mapping : PyObject ν) : Prop :=
  (py.request client ⟨some mapping, none, none⟩).Refused ∧
    (py.request client ⟨none, some (.text (py.dumps mapping)), none⟩).Refused ∧
    (py.request client ⟨none, some (.bytes (utf8 (py.dumps mapping))), none⟩).Refused ∧
    (py.request client ⟨none, none, some mapping⟩).Refused

section Request

variable {py} {client : OpsecClient}

theorem scan_isSome_iff (s : Text) : (py.scan s).isSome = true ↔
    ∃ rule ∈ py.blocklist, search py.isWord rule.2 false s = true := by
  rw [scan, Option.isSome_map, List.find?_isSome]

/-- The patterns stay within the texts. -/
theorem local_of_mem_blocklist {rule : String × Regex Char} (h : rule ∈ py.blocklist) :
    py.Local rule.2 := by
  simp only [blocklist, List.mem_cons, List.not_mem_nil, or_false] at h
  rcases h with rfl | rfl | rfl
  · exact local_ipv4
  · exact local_mac
  · exact local_field

/-- **What `repr` writes for a value** is refused exactly if it is for one of the texts in it. -/
theorem scan_repr_iff (v : PyObject ν) : (py.scan (py.repr v)).isSome = true ↔
    ∃ s ∈ v.texts, (py.scan (py.reprStr s)).isSome = true := by
  simp only [scan_isSome_iff]
  constructor
  · rintro ⟨rule, hrule, hsearch⟩
    obtain ⟨s, hs, hhit⟩ := (search_repr_iff (local_of_mem_blocklist hrule) v).mp hsearch
    exact ⟨s, hs, rule, hrule, hhit⟩
  · rintro ⟨s, hs, rule, hrule, hhit⟩
    exact ⟨rule, hrule, (search_repr_iff (local_of_mem_blocklist hrule) v).mpr ⟨s, hs, hhit⟩⟩

/-- With enforcement on, a request is refused exactly if there is a match in what is made of its
body. -/
theorem refused_iff (hon : client.enforcement = true) {body : RequestBody ν} {s : Text}
    (hbody : py.bodyAsString body = some s) (hs : s ≠ []) :
    (py.request client body).Refused ↔ (py.scan s).isSome = true := by
  unfold request
  rw [hbody, Option.bind_some, if_neg hs]
  cases py.scan s with
  | none => exact iff_of_false (fun h => by cases h.1) fun h => by cases h
  | some rule =>
    dsimp only
    rw [if_pos hon]
    exact iff_of_true ⟨rfl, rfl⟩ rfl

/-- **A field of the inventory is found in JSON**, at any depth. -/
theorem scan_dumps {v : PyObject ν} {key : Text} (hkey : IsFieldName key)
    (hmem : PyScalar.str key ∈ v.keys) : (py.scan (py.dumps v)).isSome = true := by
  have hinfix : py.jsonKey (.str key) ++ [':', ' '] <:+: py.dumps v :=
    @key_infix_write ν ⟨py.jsonScalar, py.jsonKey⟩ _ v hmem
  obtain ⟨s, t, hwrite⟩ := hinfix
  refine (scan_isSome_iff _).mpr ⟨("asset_field_name", py.assetFieldName), by simp [blocklist], ?_⟩
  have hfound := search_fieldName py hkey s (' ' :: t)
  have hsame : s ++ '"' :: (key ++ ('"' :: ':' :: ' ' :: t)) = py.dumps v := by
    rw [← hwrite, PyEncoders.jsonKey, jsonStr_of_isAlphanum (isAlphanum_of_isFieldName hkey)]
    simp
  rwa [hsame] at hfound

/-- What is written of a mapping is not empty. -/
theorem write_dict_ne_nil (style : Notation ν) (members : List (PyScalar ν × PyObject ν)) :
    write style (.dict members) ≠ [] := by
  cases members with
  | nil => exact List.cons_ne_nil _ _
  | cons m members => exact List.cons_ne_nil _ _

end Request

/-- **When a mapping with a field of the inventory is refused however it is passed**: exactly if one
of the texts in it, keys and others, is refused on its own as `repr` writes it. -/
theorem refusedHowever_iff (py : PyRe ν) (client : OpsecClient) (hon : client.enforcement = true)
    (members : List (PyScalar ν × PyObject ν)) (key : Text) (hkey : IsFieldName key)
    (hmem : PyScalar.str key ∈ (PyObject.dict members).keys) :
    py.RefusedHowever client (.dict members) ↔
      ∃ s ∈ (PyObject.dict members).texts, (py.scan (py.reprStr s)).isSome = true := by
  have hdumps : (py.scan (py.dumps (.dict members))).isSome = true := scan_dumps hkey hmem
  have hjson : py.dumps (.dict members) ≠ [] := write_dict_ne_nil _ members
  have hstr : py.repr (.dict members) ≠ [] := write_dict_ne_nil _ members
  have hbytes : py.bodyAsString ⟨none, some (.bytes (utf8 (py.dumps (.dict members)))), none⟩ =
      some (py.dumps (.dict members)) :=
    congrArg some (py.decode_ascii _ (isAscii_dumps py.toPyEncoders _))
  rw [← scan_repr_iff, RefusedHowever, refused_iff hon rfl hjson, refused_iff hon rfl hjson,
    refused_iff hon hbytes hjson, refused_iff hon (s := py.repr (.dict members)) rfl hstr]
  exact ⟨fun h => h.2.2.2, fun h => ⟨hdumps, hdumps, hdumps, h⟩⟩

/-! ### A form -/

/-- The two are one ASCII letter. -/
def sameAsciiLetter (a b : Char) : Bool := a.toLower == b.toLower

/-- What goes by ASCII only, and knows no numbers. -/
def ascii : PyRe Empty where
  toPyText := .ascii
  printable c := 32 ≤ c.toNat && c.toNat < 127
  jsonNum n := n.elim
  reprNum n := n.elim
  isWord c := c.isAlphanum || c == '_'
  sameLetter := sameAsciiLetter
  decode bs := bs.map fun b => Char.ofNat b.toNat
  printable_ascii _ _ := rfl
  jsonNum_mem n := n.elim
  reprNum_mem n := n.elim
  reprNum_point n := n.elim
  reprNum_sign n := n.elim
  isWord_ascii _ _ := rfl
  sameLetter_ascii _ _ _ _ := rfl
  decode_ascii s hs := by
    rw [List.map_map, List.map_congr_left fun c hc => ?_, List.map_id]
    have hc := hs c hc
    have hsmall : c.toNat % 256 = c.toNat := Nat.mod_eq_of_lt (by omega)
    simp [hsmall]

/-- A client that enforces the rules. -/
def enforcing : OpsecClient := ⟨"webhook", true⟩

/-- A mapping with the name of a host. -/
def hostMapping (value : String) : List (PyScalar Empty × PyObject Empty) :=
  [(.str "asset".toList, .dict [(.str "Hostname".toList, .scalar (.str value.toList))])]

/-- **A form with the name of a host is sent.** -/
theorem not_refusedHowever : ¬∀ (ν : Type) (py : PyRe ν) (client : OpsecClient)
    (members : List (PyScalar ν × PyObject ν)) (key : Text), client.enforcement = true →
      IsFieldName key → PyScalar.str key ∈ (PyObject.dict members).keys →
        py.RefusedHowever client (.dict members) := by
  intro h
  have hall := h Empty ascii enforcing (hostMapping "web01") "Hostname".toList rfl
    (by decide +kernel) (.tail _ (.head _))
  exact absurd hall.2.2.2.2 (by decide +kernel)

/-- A form whose value holds an address is refused. -/
theorem refusedHowever_iff_address :
    ascii.RefusedHowever enforcing (.dict (hostMapping "10.0.0.1")) ↔
      ∃ s ∈ (PyObject.dict (hostMapping "10.0.0.1")).texts,
        (ascii.scan (ascii.reprStr s)).isSome = true :=
  refusedHowever_iff ascii enforcing rfl (hostMapping "10.0.0.1") "Hostname".toList
    (by decide +kernel) (.tail _ (.head _))

end PyRe

end CveManagement
