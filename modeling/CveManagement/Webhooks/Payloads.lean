import CveManagement.Egress.Opsec
import CveManagement.Payload.Serialize
import CveManagement.Webhooks.Secrets
import Mathlib

/-!
# Webhook payloads and the egress filter

What is posted to a webhook is serialised and handed to `OpsecAwareClient`, which searches it for
addresses and for the names of fields. A text of JSON can have such a name in it, and a quote and a
colon, but its quotes are escaped; so the name of a field is found exactly if a key of a dictionary,
at any depth, is one, or ends with one behind a quote
(`CveManagement.PyRe.search_serializePayload_iff`). The values of an event never have it refused for
that (`CveManagement.refused_event_iff`).
-/

namespace CveManagement

open Regex

/-! ### Keys -/

namespace JsonData

variable {ν : Type}

mutual

/-- The keys of a value, at any depth. -/
def keys : JsonData ν → List Text
  | .list items => keysOfItems items
  | .dict members => keysOfMembers members
  | .null => []
  | .bool _ => []
  | .num _ => []
  | .str _ => []

def keysOfItems : List (JsonData ν) → List Text
  | [] => []
  | v :: items => keys v ++ keysOfItems items

def keysOfMembers : List (Text × JsonData ν) → List Text
  | [] => []
  | (k, v) :: members => k :: (keys v ++ keysOfMembers members)

end

theorem mem_keysOfMembers {k : Text} {members : List (Text × JsonData ν)} :
    k ∈ keysOfMembers members ↔ ∃ e ∈ members, k = e.1 ∨ k ∈ e.2.keys := by
  induction members with
  | nil => exact iff_of_false List.not_mem_nil fun ⟨_, he, _⟩ => List.not_mem_nil he
  | cons e members ih =>
    obtain ⟨k', v⟩ := e
    rw [keysOfMembers, List.mem_cons, List.mem_append, ih, List.exists_mem_cons_iff, or_assoc]

theorem keysOfMembers_perm {members members' : List (Text × JsonData ν)}
    (h : members.Perm members') {k : Text} :
    k ∈ keysOfMembers members ↔ k ∈ keysOfMembers members' := by
  simp only [mem_keysOfMembers, h.mem_iff]

mutual

/-- **Sorted keys are the same keys.** -/
theorem mem_keys_sortKeys {k : Text} : ∀ v : JsonData ν, k ∈ v.sortKeys.keys ↔ k ∈ v.keys
  | .list items => mem_keys_sortItems items
  | .dict members =>
    (keysOfMembers_perm (List.perm_insertionSort _ _)).trans (mem_keys_sortMembers members)
  | .null => Iff.rfl
  | .bool _ => Iff.rfl
  | .num _ => Iff.rfl
  | .str _ => Iff.rfl

theorem mem_keys_sortItems {k : Text} : ∀ items : List (JsonData ν),
    k ∈ keysOfItems (sortItems items) ↔ k ∈ keysOfItems items
  | [] => Iff.rfl
  | v :: items => by
    rw [sortItems, keysOfItems, keysOfItems, List.mem_append, List.mem_append,
      mem_keys_sortKeys v, mem_keys_sortItems items]

theorem mem_keys_sortMembers {k : Text} : ∀ members : List (Text × JsonData ν),
    k ∈ keysOfMembers (sortMembers members) ↔ k ∈ keysOfMembers members
  | [] => Iff.rfl
  | (k', v) :: members => by
    rw [sortMembers, keysOfMembers, keysOfMembers, List.mem_cons, List.mem_cons, List.mem_append,
      List.mem_append, mem_keys_sortKeys v, mem_keys_sortMembers members]

end

end JsonData

/-! ### Names of fields in what is serialised -/

namespace PyRe

/-- **A key that is found**: the name of a field, or one that ends with such a name behind a
quote. -/
def NamesField (key : Text) : Prop :=
  ∃ n, IsFieldName n ∧ (key = n ∨ ∃ p, key = p ++ '"' :: n)

variable {ν μ : Type} {py : PyRe μ} {numbers : JsonNumbers ν}

/-- What a match of a character leaves. -/
theorem of_mem_ends_lit {d : Char} {w : Bool} {t : Text} {e : Bool × Text}
    (h : e ∈ ends py.isWord (lit d) w t) : t = d :: e.2 := by
  cases t with
  | nil => exact absurd h List.not_mem_nil
  | cons c t =>
    rw [lit, ends] at h
    split_ifs at h with hc
    · obtain rfl := List.mem_singleton.mp h
      rw [eq_of_beq hc]
    · exact absurd h List.not_mem_nil

/-- What a match of a name leaves. -/
theorem of_mem_ends_name {word : Text} {w : Bool} {t : Text} {e : Bool × Text}
    (h : e ∈ ends py.isWord (py.name word) w t) :
    ∃ n, t = n ++ e.2 ∧ List.Forall₂ (fun a c => py.sameLetter a c = true) word n := by
  induction word generalizing w t with
  | nil =>
    obtain rfl := List.mem_singleton.mp h
    exact ⟨[], rfl, .nil⟩
  | cons a word ih =>
    obtain ⟨e', he', he⟩ := mem_ends_seq.mp h
    cases t with
    | nil => exact absurd he' List.not_mem_nil
    | cons c t =>
      rw [ends] at he'
      split_ifs at he' with hc
      · obtain rfl := List.mem_singleton.mp he'
        obtain ⟨n, hn, hall⟩ := ih he
        exact ⟨c :: n, congrArg (c :: ·) hn, .cons hc hall⟩
      · exact absurd he' List.not_mem_nil

/-- And what a run of white space leaves. -/
theorem of_mem_runs {p : Char → Bool} {w : Bool} {t : Text} {e : Bool × Text}
    (h : e ∈ runs py.isWord p w t) : ∃ ws, t = ws ++ e.2 ∧ ∀ c ∈ ws, p c = true := by
  induction t generalizing w with
  | nil =>
    obtain rfl := List.mem_singleton.mp h
    exact ⟨[], rfl, fun c hc => absurd hc List.not_mem_nil⟩
  | cons c t ih =>
    rw [runs, List.mem_cons] at h
    rcases h with rfl | h
    · exact ⟨[], rfl, fun c hc => absurd hc List.not_mem_nil⟩
    · split_ifs at h with hc
      · obtain ⟨ws, hws, hall⟩ := ih h
        exact ⟨c :: ws, congrArg (c :: ·) hws, List.forall_mem_cons.mpr ⟨hc, hall⟩⟩
      · exact absurd h List.not_mem_nil

/-- A character that a name matches is one of a name. -/
theorem isFieldName_of_sameLetter {word n : Text} (hword : word ∈ fieldNames)
    (h : List.Forall₂ (fun a c => py.sameLetter a c = true) word n) (hn : IsAscii n) :
    IsFieldName n := by
  have hall : (fieldNames.all fun word => word.all fun a =>
      decide (a.toNat < 128) && a.toLower == a) = true := rfl
  have hlower := List.all_eq_true.mp (List.all_eq_true.mp hall word hword)
  have heq : n.map Char.toLower = word := by
    clear hword hall
    induction h with
    | nil => rfl
    | @cons a c word n hac _ ih =>
      have ha := hlower a List.mem_cons_self
      rw [Bool.and_eq_true, decide_eq_true_eq, beq_iff_eq] at ha
      rw [py.sameLetter_ascii a c ha.1 (hn c List.mem_cons_self), ha.2, beq_iff_eq] at hac
      rw [List.map_cons, ← hac, ih (fun c hc => hn c (List.mem_cons_of_mem _ hc))
        fun a ha => hlower a (List.mem_cons_of_mem _ ha)]
  rw [IsFieldName, heq]
  exact hword

/-- **A match at a quote** is that quote, a name, another quote, white space and a colon. -/
theorem of_matchAt_field {w : Bool} {t : Text}
    (h : matchAt py.isWord py.assetFieldName w ('"' :: t) = true) (ht : IsAscii t) :
    ∃ n ws post, IsFieldName n ∧ (∀ c ∈ ws, py.isSpace c = true) ∧
      t = n ++ '"' :: (ws ++ ':' :: post) := by
  obtain ⟨e, he⟩ := matchAt_iff.mp h
  obtain ⟨e₁, he₁, he⟩ := mem_ends_seq.mp he
  obtain rfl := List.mem_singleton.mp he₁
  obtain ⟨e₂, he₂, he⟩ := mem_ends_seq.mp he
  obtain ⟨r, hr, he₂⟩ := mem_ends_alts.mp he₂
  obtain ⟨word, hword, rfl⟩ := List.mem_map.mp hr
  obtain ⟨n, hn, hall⟩ := of_mem_ends_name he₂
  obtain ⟨e₃, he₃, he⟩ := mem_ends_seq.mp he
  obtain ⟨e₄, he₄, he⟩ := mem_ends_seq.mp he
  obtain ⟨ws, hws, hspace⟩ := of_mem_runs he₄
  obtain ⟨e₅, he₅, -⟩ := mem_ends_seq.mp he
  have heq : t = n ++ '"' :: (ws ++ ':' :: e₅.2) :=
    hn.trans (by rw [of_mem_ends_lit he₃, hws, of_mem_ends_lit he₅])
  refine ⟨n, ws, e₅.2, isFieldName_of_sameLetter hword hall fun c hc => ht c ?_, hspace, heq⟩
  rw [heq]
  exact List.mem_append_left _ hc

/-- What is behind a text or a value: punctuation, or nothing. -/
def Ends (rest : Text) : Prop := ∀ c ∈ rest.head?, c ∈ [',', ']', closeBrace, ':']

theorem Ends.cons {c : Char} {t : Text} (h : c ∈ [',', ']', closeBrace, ':']) : Ends (c :: t) :=
  fun _ hd => Option.some.inj hd ▸ h

/-- **A match at a quote of a text**: the text, from there on, is the name of a field, and a key. -/
theorem of_matchAt_text {w : Bool} {s rest : Text} (hends : Ends rest) (hrest : IsAscii rest)
    (h : matchAt py.isWord py.assetFieldName w
      ('"' :: (s.flatMap jsonChar ++ '"' :: rest)) = true) :
    IsFieldName s ∧ ':' ∈ rest.head? := by
  have hascii : IsAscii (s.flatMap jsonChar ++ '"' :: rest) := by
    refine isAscii_append (fun c hc => ?_) (isAscii_cons (by decide) hrest)
    obtain ⟨c', -, hc⟩ := List.mem_flatMap.mp hc
    exact isAscii_jsonChar c' c hc
  obtain ⟨n, ws, post, hn, hspace, heq⟩ := of_matchAt_field h hascii
  have htexts : jsonStr s ++ rest = jsonStr n ++ (ws ++ ':' :: post) := by
    rw [jsonStr_of_isAlphanum (isAlphanum_of_isFieldName hn), jsonStr]
    simpa using heq
  obtain ⟨rfl, rfl⟩ := unambiguous_jsonStr s n rest _ (fun _ _ => trivial) (fun _ _ => trivial)
    htexts
  refine ⟨hn, ?_⟩
  cases ws with
  | nil => rfl
  | cons c ws =>
    have hall : ([',', ']', closeBrace, ':'].all fun d =>
        decide (d.toNat < 128) && !isAsciiSpace d) = true := rfl
    have hc := List.all_eq_true.mp hall c (hends c rfl)
    rw [Bool.and_eq_true, decide_eq_true_eq, Bool.not_eq_true'] at hc
    have htrue := hspace c List.mem_cons_self
    rw [py.isSpace_ascii c hc.1, hc.2] at htrue
    cases htrue

/-- What is found behind something is found. -/
theorem search_field_of_append {t : Text} (h : search py.isWord py.assetFieldName false t = true)
    (s : Text) : search py.isWord py.assetFieldName false (s ++ t) = true := by
  induction s with
  | nil => exact h
  | cons c s ih => rw [List.cons_append, search, search_field_eq, ih, Bool.or_true]

/-- **The quote at the end of a text** begins no match. -/
theorem search_closing {rest : Text} (hends : Ends rest) (hrest : IsAscii rest) :
    search py.isWord py.assetFieldName false ('"' :: rest) =
      search py.isWord py.assetFieldName false rest := by
  have hat : matchAt py.isWord py.assetFieldName false ('"' :: rest) = false := by
    rw [Bool.eq_false_iff]
    intro h
    obtain ⟨n, ws, post, hn, -, rfl⟩ := of_matchAt_field h hrest
    cases n with
    | nil => exact absurd hn (by decide)
    | cons c n =>
      have hword := isAlphanum_of_isFieldName hn c List.mem_cons_self
      have hmem := hends c rfl
      simp only [List.mem_cons, List.not_mem_nil, or_false] at hmem
      rcases hmem with rfl | rfl | rfl | rfl <;> exact absurd hword (by decide)
  rw [search, hat, Bool.false_or, search_field_eq]

/-- No quote is written for a character that is none. -/
theorem notMem_jsonChar {c : Char} (hc : c ≠ '"') : '"' ∉ jsonChar c := by
  unfold jsonChar
  split_ifs with hquoted
  · rcases hquoted with rfl | rfl
    · exact absurd rfl hc
    · decide
  · decide
  · decide
  · decide
  · decide
  · decide
  · exact fun hmem => hc (List.mem_singleton.mp hmem).symm
  · unfold unicodeEscape
    split_ifs
    · exact notMem_escape (by decide) 4 _
    · intro hmem
      rw [← List.cons_append, ← List.cons_append, List.mem_append] at hmem
      rcases hmem with hmem | hmem
      · exact notMem_escape (by decide) 4 _ hmem
      · exact notMem_escape (by decide) 4 _ hmem

/-- **What is found in the rest of a text** is found at one of its quotes, or behind it. -/
theorem of_search_rest {s rest : Text} (hends : Ends rest) (hrest : IsAscii rest)
    (h : search py.isWord py.assetFieldName false (s.flatMap jsonChar ++ '"' :: rest) = true) :
    ((∃ p n, s = p ++ '"' :: n ∧ IsFieldName n) ∧ ':' ∈ rest.head?) ∨
      search py.isWord py.assetFieldName false rest = true := by
  induction s with
  | nil => exact .inr (by rwa [List.flatMap_nil, List.nil_append, search_closing hends hrest] at h)
  | cons c s ih =>
    rw [List.flatMap_cons, List.append_assoc] at h
    have hlater : search py.isWord py.assetFieldName false
        (s.flatMap jsonChar ++ '"' :: rest) = true →
        ((∃ p n, c :: s = p ++ '"' :: n ∧ IsFieldName n) ∧ ':' ∈ rest.head?) ∨
          search py.isWord py.assetFieldName false rest = true := fun h => by
      refine (ih h).imp_left (And.imp_left ?_)
      rintro ⟨p, n, rfl, hn⟩
      exact ⟨c :: p, n, rfl, hn⟩
    by_cases hc : c = '"'
    · subst hc
      have hescaped : jsonChar '"' = [backslash, '"'] := by decide
      rw [hescaped, List.cons_append, search_field_cons (by decide), search_field_eq,
        List.cons_append, List.nil_append, search, Bool.or_eq_true, search_field_eq] at h
      rcases h with h | h
      · obtain ⟨hn, hcolon⟩ := of_matchAt_text hends hrest h
        exact .inl ⟨⟨[], s, rfl, hn⟩, hcolon⟩
      · exact hlater h
    · rw [search_field_append (notMem_jsonChar hc)] at h
      exact hlater h

/-- **A text in what is serialised**: a match in it is that of a key that names a field. -/
theorem search_jsonStr_iff (s : Text) {rest : Text} (hends : Ends rest) (hrest : IsAscii rest) :
    search py.isWord py.assetFieldName false (jsonStr s ++ rest) = true ↔
      (NamesField s ∧ ':' ∈ rest.head?) ∨
        search py.isWord py.assetFieldName false rest = true := by
  constructor
  · intro h
    rw [jsonStr, List.cons_append, List.append_assoc, List.singleton_append, search,
      Bool.or_eq_true, search_field_eq] at h
    rcases h with h | h
    · obtain ⟨hn, hcolon⟩ := of_matchAt_text hends hrest h
      exact .inl ⟨⟨s, hn, .inl rfl⟩, hcolon⟩
    · refine (of_search_rest hends hrest h).imp_left (And.imp_left ?_)
      rintro ⟨p, n, hs, hn⟩
      exact ⟨n, hn, .inr ⟨p, hs⟩⟩
  · rintro (⟨⟨n, hn, hs⟩, hcolon⟩ | h)
    · obtain ⟨post, rfl⟩ := List.head?_eq_some_iff.mp hcolon
      have hplain : n.flatMap jsonChar = n := by
        have hstr := jsonStr_of_isAlphanum (isAlphanum_of_isFieldName hn)
        exact List.append_cancel_right (List.cons.inj hstr).2
      rcases hs with rfl | ⟨p, rfl⟩
      · have hfound := search_fieldName py hn [] post
        rw [jsonStr, hplain]
        simpa using hfound
      · have hfound := search_fieldName py hn ('"' :: (p.flatMap jsonChar ++ [backslash])) post
        have hescaped : jsonChar '"' = [backslash, '"'] := by decide
        rw [jsonStr, List.flatMap_append, List.flatMap_cons, hplain, hescaped]
        simpa using hfound
    · exact search_field_of_append h _

/-- What is behind a value. -/
def EndsValue (rest : Text) : Prop := ∀ c ∈ rest.head?, c ∈ [',', ']', closeBrace]

theorem EndsValue.cons {c : Char} {t : Text} (h : c ∈ [',', ']', closeBrace]) :
    EndsValue (c :: t) := fun _ hd => Option.some.inj hd ▸ h

theorem EndsValue.ends {rest : Text} (h : EndsValue rest) : Ends rest := fun c hc =>
  List.mem_append_left [':'] (h c hc)

theorem EndsValue.not_colon {rest : Text} (h : EndsValue rest) : ':' ∉ rest.head? := fun hc =>
  absurd (h ':' hc) (by decide)

theorem endsValue_writeItems (items : List (JsonData ν)) (rest : Text) :
    EndsValue (JsonData.writeItems numbers [] [','] items ++ rest) := by
  cases items with
  | nil => exact .cons (by decide)
  | cons v items => exact .cons (by decide)

theorem endsValue_writeMembers (members : List (Text × JsonData ν)) (rest : Text) :
    EndsValue (JsonData.writeMembers numbers [] [','] members ++ rest) := by
  cases members with
  | nil => exact .cons (by decide)
  | cons e members => exact .cons (by decide)

/-- A key is found, or what is behind the value is. -/
def FoundOr (py : PyRe μ) (keys : List Text) (rest : Text) : Prop :=
  (∃ k ∈ keys, NamesField k) ∨ search py.isWord py.assetFieldName false rest = true

theorem foundOr_nil {rest : Text} :
    FoundOr py [] rest ↔ search py.isWord py.assetFieldName false rest = true :=
  or_iff_right fun ⟨_, hk, _⟩ => List.not_mem_nil hk

theorem foundOr_cons {k : Text} {keys : List Text} {rest : Text} :
    FoundOr py (k :: keys) rest ↔ NamesField k ∨ FoundOr py keys rest := by
  rw [FoundOr, FoundOr, List.exists_mem_cons_iff, or_assoc]

theorem foundOr_append {keys keys' : List Text} {rest : Text} :
    FoundOr py (keys ++ keys') rest ↔ (∃ k ∈ keys, NamesField k) ∨ FoundOr py keys' rest := by
  simp only [FoundOr, List.mem_append, or_and_right, exists_or, or_assoc]

theorem isAscii_comma : IsAscii [','] := isAscii_cons (by decide) isAscii_nil

mutual

/-- **What is written of a value** has a match exactly if one of its keys names a field, or what is
behind it has one. -/
theorem search_write_iff : ∀ (v : JsonData ν) {rest : Text}, EndsValue rest → IsAscii rest →
    (search py.isWord py.assetFieldName false (v.write numbers [] ++ rest) = true ↔
      FoundOr py v.keys rest)
  | .null, rest, _, _ => by
    rw [JsonData.write, search_field_append (by decide), JsonData.keys, foundOr_nil]
  | .bool true, rest, _, _ => by
    rw [JsonData.write, search_field_append (by decide), JsonData.keys, foundOr_nil]
  | .bool false, rest, _, _ => by
    rw [JsonData.write, search_field_append (by decide), JsonData.keys, foundOr_nil]
  | .num n, rest, _, _ => by
    have hquote : '"' ∉ numbers.text n := fun h => by
      have := numbers.isNumeric n '"' h
      revert this
      unfold IsNumberChar
      decide
    rw [JsonData.write, search_field_append hquote, JsonData.keys, foundOr_nil]
  | .str s, rest, hends, hrest => by
    rw [JsonData.write, search_jsonStr_iff s hends.ends hrest, JsonData.keys, foundOr_nil]
    exact or_iff_right fun h => hends.not_colon h.2
  | .list items, rest, hends, hrest => by
    rw [JsonData.write, List.cons_append, search_field_cons (by decide), search_field_eq]
    exact search_writeItems_iff items hrest (by decide)
  | .dict members, rest, hends, hrest => by
    rw [JsonData.write, List.cons_append, search_field_cons (by decide), search_field_eq]
    exact search_writeMembers_iff members hrest (by decide)

theorem search_writeItems_iff : ∀ (items : List (JsonData ν)) {sep rest : Text},
    IsAscii rest → '"' ∉ sep →
    (search py.isWord py.assetFieldName false
      (JsonData.writeItems numbers [] sep items ++ rest) = true ↔
        FoundOr py (JsonData.keysOfItems items) rest)
  | [], sep, rest, _, _ => by
    rw [JsonData.writeItems, search_field_append (by decide), JsonData.keysOfItems, foundOr_nil]
  | v :: items, sep, rest, hrest, hsep => by
    have hascii : IsAscii (JsonData.writeItems numbers [] [','] items ++ rest) :=
      isAscii_append (JsonData.isAscii_writeItems isAscii_nil items isAscii_comma) hrest
    rw [JsonData.writeItems, List.append_assoc, List.append_assoc, search_field_append hsep,
      search_write_iff v (endsValue_writeItems items rest) hascii, FoundOr,
      search_writeItems_iff items hrest (by decide), JsonData.keysOfItems, foundOr_append]

theorem search_writeMembers_iff : ∀ (members : List (Text × JsonData ν)) {sep rest : Text},
    IsAscii rest → '"' ∉ sep →
    (search py.isWord py.assetFieldName false
      (JsonData.writeMembers numbers [] sep members ++ rest) = true ↔
        FoundOr py (JsonData.keysOfMembers members) rest)
  | [], sep, rest, _, _ => by
    rw [JsonData.writeMembers, search_field_append (by decide), JsonData.keysOfMembers,
      foundOr_nil]
  | (k, v) :: members, sep, rest, hrest, hsep => by
    have hascii : IsAscii (JsonData.writeMembers numbers [] [','] members ++ rest) :=
      isAscii_append (JsonData.isAscii_writeMembers isAscii_nil members isAscii_comma) hrest
    have hvalue : search py.isWord py.assetFieldName false (v.write numbers [] ++
        (JsonData.writeMembers numbers [] [','] members ++ rest)) = true ↔
          FoundOr py (v.keys ++ JsonData.keysOfMembers members) rest := by
      rw [search_write_iff v (endsValue_writeMembers members rest) hascii, FoundOr,
        search_writeMembers_iff members hrest (by decide), foundOr_append]
    have hkey : IsAscii (':' :: (v.write numbers [] ++
        (JsonData.writeMembers numbers [] [','] members ++ rest))) :=
      isAscii_cons (by decide) (isAscii_append (JsonData.isAscii_write isAscii_nil v) hascii)
    simp only [JsonData.writeMembers, List.append_assoc, List.cons_append, List.nil_append]
    rw [search_field_append hsep, search_jsonStr_iff k (.cons (by decide)) hkey,
      search_field_cons (by decide), search_field_eq, hvalue, JsonData.keysOfMembers, foundOr_cons]
    exact or_congr_left (and_iff_left rfl)

end

/-- **In what is serialised** the name of a field is found exactly if it is, or ends, a key. -/
theorem search_serializePayload_iff (py : PyRe μ) (payload : JsonData ν) :
    search py.isWord py.assetFieldName false (serializePayload numbers payload) = true ↔
      ∃ k ∈ payload.keys, NamesField k := by
  have hwrite := @search_write_iff ν μ py numbers payload.sortKeys []
    (fun _ h => by cases h) isAscii_nil
  rw [List.append_nil] at hwrite
  rw [serializePayload, JsonData.dumps, hwrite, FoundOr,
    or_iff_left (by rw [search_field_of_few (by decide)]; exact Bool.false_ne_true)]
  simp only [JsonData.mem_keys_sortKeys]

/-- The body of the request that posts a payload. -/
def payloadBody (numbers : JsonNumbers ν) (payload : JsonData ν) : RequestBody μ :=
  ⟨none, some (.bytes (utf8 (serializePayload numbers payload))), none⟩

/-- With enforcement on, the rules are tried on the text that is serialised. -/
theorem refused_iff_search {client : OpsecClient} (hon : client.enforcement = true)
    (payload : JsonData ν) :
    (py.request client (payloadBody numbers payload)).Refused ↔
      search py.isWord py.ipv4 false (serializePayload numbers payload) = true ∨
        search py.isWord mac false (serializePayload numbers payload) = true ∨
          search py.isWord py.assetFieldName false (serializePayload numbers payload) = true := by
  have hne : serializePayload numbers payload ≠ [] := by
    obtain ⟨c, s, hwrite, -⟩ := payload.sortKeys.write_eq_cons numbers []
    rw [serializePayload, JsonData.dumps, hwrite]
    exact List.cons_ne_nil c s
  have hbody : py.bodyAsString (payloadBody numbers payload) =
      some (serializePayload numbers payload) :=
    congrArg some (py.decode_ascii _ (JsonData.isAscii_write isAscii_nil _))
  rw [refused_iff hon hbody hne, scan_isSome_iff]
  simp [blocklist]

/-- **What is posted is refused** for an address that is found in it, or for a key that names a
field: for nothing else that is in a text. -/
theorem refused_payload_iff (py : PyRe μ) (numbers : JsonNumbers ν) {client : OpsecClient}
    (hon : client.enforcement = true) (payload : JsonData ν) :
    (py.request client (payloadBody numbers payload)).Refused ↔
      search py.isWord py.ipv4 false (serializePayload numbers payload) = true ∨
        search py.isWord mac false (serializePayload numbers payload) = true ∨
          ∃ k ∈ payload.keys, NamesField k := by
  rw [refused_iff_search hon, search_serializePayload_iff]

/-- A payload with the name of a field for a key, and a text that has one between quotes. -/
def hostPayload : JsonData ℤ :=
  .list [.str "\"fqdn\": 1".toList, .dict [("Host".toList, .null)]]

/-- It is refused, for the key. -/
theorem refused_payload_host :
    (ascii.request enforcing (payloadBody .int hostPayload)).Refused :=
  (refused_payload_iff ascii .int rfl hostPayload).mpr
    (.inr (.inr ⟨"Host".toList, by decide, "Host".toList, by decide, .inl rfl⟩))

end PyRe

/-! ### Events -/

section Events

variable {ν : Type}

/-- The arguments of `build_finding_event`, with the time of the call. -/
structure FindingEvent (ν : Type) where
  eventType : String
  cveId : Text
  severity : Option Text
  priorityScore : Option ν
  affectedCount : ν
  isKev : Bool
  hasPublicPoc : Option Bool
  hasNucleiTemplate : Option Bool
  extra : List (Text × JsonData ν)
  timestamp : Text

/-- A value, or `None`. -/
def orNull {α : Type} (f : α → JsonData ν) : Option α → JsonData ν
  | none => .null
  | some a => f a

/-- The keys of `extra` that are taken over. -/
def extraKeys : List Text := ["delta_score".toList, "previous_priority_score".toList]

/-- The members that every event has. -/
def FindingEvent.members (e : FindingEvent ν) : List (Text × JsonData ν) :=
  [("event_type".toList, .str e.eventType.toList), ("cve_id".toList, .str e.cveId),
    ("severity".toList, orNull .str e.severity),
    ("priority_score".toList, orNull .num e.priorityScore),
    ("affected_count".toList, .num e.affectedCount), ("is_kev".toList, .bool e.isKev),
    ("has_public_poc".toList, orNull .bool e.hasPublicPoc),
    ("has_nuclei_template".toList, orNull .bool e.hasNucleiTemplate),
    ("timestamp".toList, .str e.timestamp)]

/-- The members that it has if they are in `extra`. -/
def FindingEvent.extras (e : FindingEvent ν) : List (Text × JsonData ν) :=
  extraKeys.filterMap fun key => (e.extra.lookup key).map (Prod.mk key)

/-- **`build_finding_event`**; an event of another type is a `ValueError`. -/
def buildFindingEvent (e : FindingEvent ν) : Except PyError (JsonData ν) :=
  if e.eventType ∈ allowedEventTypes then .ok (.dict (e.members ++ e.extras))
  else .error .valueError

theorem keys_orNull {α : Type} {f : α → JsonData ν} (hf : ∀ a, (f a).keys = []) (o : Option α) :
    (orNull f o).keys = [] := by
  cases o with
  | none => rfl
  | some a => exact hf a

theorem not_namesField {key : Text} (hquote : '"' ∉ key) (h : ¬PyRe.IsFieldName key) :
    ¬PyRe.NamesField key := by
  rintro ⟨n, hn, rfl | ⟨p, rfl⟩⟩
  · exact h hn
  · exact hquote (List.mem_append_right _ List.mem_cons_self)

/-- **The members of an event** hold no dictionaries, and none of their keys names a field. -/
theorem FindingEvent.members_plain (e : FindingEvent ν) :
    ∀ m ∈ e.members, m.2.keys = [] ∧ ¬PyRe.NamesField m.1 := by
  have hkeys : ∀ m ∈ e.members, ¬PyRe.NamesField m.1 := by
    have hall : ∀ key ∈ e.members.map Prod.fst, '"' ∉ key ∧ ¬PyRe.IsFieldName key := by
      change ∀ key ∈ ["event_type".toList, "cve_id".toList, "severity".toList,
        "priority_score".toList, "affected_count".toList, "is_kev".toList,
        "has_public_poc".toList, "has_nuclei_template".toList, "timestamp".toList],
          '"' ∉ key ∧ ¬PyRe.IsFieldName key
      decide
    intro m hm
    obtain ⟨hquote, hname⟩ := hall m.1 (List.mem_map_of_mem hm)
    exact not_namesField hquote hname
  intro m hm
  refine ⟨?_, hkeys m hm⟩
  simp only [members, List.mem_cons, List.not_mem_nil, or_false] at hm
  rcases hm with rfl | rfl | rfl | rfl | rfl | rfl | rfl | rfl | rfl
  · rfl
  · rfl
  · exact keys_orNull (fun _ => rfl) e.severity
  · exact keys_orNull (fun _ => rfl) e.priorityScore
  · rfl
  · rfl
  · exact keys_orNull (fun _ => rfl) e.hasPublicPoc
  · exact keys_orNull (fun _ => rfl) e.hasNucleiTemplate
  · rfl

theorem FindingEvent.not_namesField_extras (e : FindingEvent ν) :
    ∀ m ∈ e.extras, ¬PyRe.NamesField m.1 := by
  intro m hm
  obtain ⟨key, hkey, hm⟩ := List.mem_filterMap.mp hm
  obtain ⟨v, -, rfl⟩ := Option.map_eq_some_iff.mp hm
  have hall : ∀ key ∈ extraKeys, '"' ∉ key ∧ ¬PyRe.IsFieldName key := by decide
  exact not_namesField (hall key hkey).1 (hall key hkey).2

/-- **An event is refused** for an address that is found in it, or for what a dictionary has for
keys that is in it as one of the two extras. -/
theorem refused_event_iff {μ : Type} (py : PyRe μ) (numbers : JsonNumbers ν)
    {client : OpsecClient} (hon : client.enforcement = true) {e : FindingEvent ν}
    {payload : JsonData ν} (h : buildFindingEvent e = .ok payload) :
    (py.request client (PyRe.payloadBody numbers payload)).Refused ↔
      Regex.search py.isWord py.ipv4 false (serializePayload numbers payload) = true ∨
        Regex.search py.isWord PyRe.mac false (serializePayload numbers payload) = true ∨
          ∃ m ∈ e.extras, ∃ k ∈ m.2.keys, PyRe.NamesField k := by
  unfold buildFindingEvent at h
  split_ifs at h
  obtain rfl := Except.ok.inj h
  rw [PyRe.refused_iff_search hon, PyRe.search_serializePayload_iff]
  refine or_congr_right (or_congr_right ?_)
  rw [JsonData.keys]
  constructor
  · rintro ⟨k, hk, hnames⟩
    obtain ⟨m, hm, rfl | hk⟩ := JsonData.mem_keysOfMembers.mp hk
    · rcases List.mem_append.mp hm with hm | hm
      · exact absurd hnames (e.members_plain m hm).2
      · exact absurd hnames (e.not_namesField_extras m hm)
    · rcases List.mem_append.mp hm with hm | hm
      · rw [(e.members_plain m hm).1] at hk
        exact absurd hk List.not_mem_nil
      · exact ⟨m, hm, k, hk, hnames⟩
  · rintro ⟨m, hm, k, hk, hnames⟩
    exact ⟨k, JsonData.mem_keysOfMembers.mpr ⟨m, List.mem_append_right _ hm, .inr hk⟩, hnames⟩

/-- An event with a dictionary for its `delta_score`. -/
def hostEvent : FindingEvent ℤ where
  eventType := "finding.kev_match"
  cveId := "CVE-2024-0001".toList
  severity := some "\"hostname\": CRITICAL".toList
  priorityScore := some 90
  affectedCount := 2
  isKev := true
  hasPublicPoc := none
  hasNucleiTemplate := some false
  extra := [("delta_score".toList, .dict [("Host".toList, .null)])]
  timestamp := "2024-01-01T00:00:00+00:00".toList

/-- It is refused, for the key of the dictionary. -/
theorem refused_event_host : (PyRe.ascii.request PyRe.enforcing (PyRe.payloadBody .int
    (.dict (hostEvent.members ++ hostEvent.extras)))).Refused :=
  (refused_event_iff PyRe.ascii .int rfl (e := hostEvent) (if_pos (by decide))).mpr
    (.inr (.inr ⟨("delta_score".toList, .dict [("Host".toList, .null)]), List.mem_singleton_self _,
      "Host".toList, List.mem_singleton_self _, "Host".toList, by decide, .inl rfl⟩))

end Events

end CveManagement
