import CveManagement.Exploitability.VulnxClient
import Mathlib

/-!
# The payload of a batch

`_parse_batch_payload` is written defensively: it takes a list of items, an object with the list
under `data` or `results`, or an object of items under their ids, and leaves out what is no item.
It does not look at the type of an id, on which it calls a method of `str`: an item with another id
ends the parsing, and the records of all others are lost
(`CveManagement.batchParserLaws_iff`).
-/

namespace CveManagement

/-! ### Ids and encodings -/

section Encodings

variable (py : PyCase)

/-- What is taken for the id of an item. -/
def Json.idOf (item : List (String × Json)) : Json :=
  ((Json.field item "cve_id").or (Json.field item "cve")).or (Json.field item "id")

/-- **The id can be read**: it is missing or empty, or a text. -/
def ReadableId (item : List (String × Json)) : Prop :=
  (Json.idOf item).truthy = false ∨ ∃ s, Json.idOf item = .str s

/-- The item is one about a CVE. -/
def NamesCve (item : List (String × Json)) (cveId : String) : Prop :=
  ∃ r, parseItem py 0 item = .ok (some r) ∧ r.cveId = cveId

/-- A key for an item: its id, as it can be spelled. -/
structure IsKeyOf (key : String) (item : List (String × Json)) : Prop where
  cve : (py.upper key.toList).startsWith "CVE-".toList = true
  names : NamesCve py item (py.normalize key)

/-- **The encodings of a list of items.** -/
inductive IsEncoding (items : List (List (String × Json))) : Json → Prop
  | bare : IsEncoding items (.arr (items.map .obj))
  | data {members : List (String × Json)}
      (data : Json.field members "data" = .arr (items.map .obj)) : IsEncoding items (.obj members)
  | results {members : List (String × Json)}
      (data : ∀ l, Json.field members "data" ≠ .arr l)
      (results : Json.field members "results" = .arr (items.map .obj)) :
      IsEncoding items (.obj members)
  | keyed {keys : List String} (keys_of : List.Forall₂ (IsKeyOf py) keys items) :
      IsEncoding items (.obj (keys.zip (items.map .obj)))

/-- **The laws of the parser**, of a payload: it returns a mapping; it has the record of each item
that can be parsed by itself, whatever the others are, unless a later one is about the same CVE; and
if it encodes a list of CVEs, the mapping is that of any other encoding. -/
structure BatchParserLaws (clock : ℕ → Instant) (body : Json) : Prop where
  total : ∃ intel, parseBatchPayload py clock body = .ok intel
  independent : ∀ i item r, (payloadItems py body)[i]? = some item →
    parseItem py (clock i) item = .ok (some r) →
    (∀ j item', i < j → (payloadItems py body)[j]? = some item' → ¬NamesCve py item' r.cveId) →
    ∃ intel, parseBatchPayload py clock body = .ok intel ∧ intel r.cveId = some r
  sameShape : ∀ items, (∀ item ∈ items, ∃ cveId, NamesCve py item cveId) →
    IsEncoding py items body → ∀ body', IsEncoding py items body' →
      parseBatchPayload py clock body' = parseBatchPayload py clock body

end Encodings

/-! ### One item -/

section Item

variable {py : PyCase} {now : Instant} {item item' : List (String × Json)}

/-- The text of an id; there is one exactly if it can be read. -/
theorem exists_text_iff : (∃ text, ((Json.idOf item).or (.str "")).text = .ok text) ↔
    ReadableId item := by
  rw [ReadableId, Json.or]
  cases htruthy : (Json.idOf item).truthy with
  | false => exact iff_of_true ⟨[], rfl⟩ (.inl rfl)
  | true =>
    rw [if_pos rfl, or_iff_right (by decide)]
    cases Json.idOf item with
    | str s => exact iff_of_true ⟨s.toList, rfl⟩ ⟨s, rfl⟩
    | null | bool b | num q | arr items | obj members =>
      exact iff_of_false (fun ⟨_, h⟩ => by cases h) (fun ⟨_, h⟩ => by cases h)

/-- The record of an item, of which the id is given. -/
def intelOf (now : Instant) (cveId : Text) (item : List (String × Json)) : FetchedIntel :=
  let pocUrls := coerceStrList
    [Json.field item "poc_urls", Json.field item "poc", Json.field item "exploits"]
  let templates := coerceStrList
    [Json.field item "nuclei_templates", Json.field item "templates", Json.field item "nuclei"]
  { cveId := String.ofList cveId
    hasPublicPoc := !pocUrls.isEmpty
    hasNucleiTemplate := !templates.isEmpty
    pocUrls := pocUrls
    templatePaths := templates
    references := coerceStrList [Json.field item "references"]
    fetchedAt := now }

/-- **An item whose id can be read** has a record, if the id is that of a CVE. -/
theorem parseItem_of_text {text : Text} (h : ((Json.idOf item).or (.str "")).text = .ok text) :
    parseItem py now item =
      .ok (if (py.upper (py.strip text)).startsWith "CVE-".toList then
        some (intelOf now (py.upper (py.strip text)) item) else none) := by
  have hstep : parseItem py now item = ((Json.idOf item).or (.str "")).text >>= fun text =>
      if !(py.upper (py.strip text)).startsWith "CVE-".toList then .ok none
      else .ok (some (intelOf now (py.upper (py.strip text)) item)) := rfl
  rw [hstep, h]
  change (if _ then _ else _) = _
  cases (py.upper (py.strip text)).startsWith "CVE-".toList <;> rfl

/-- An item is parsed, to a record or not, exactly if its id can be read. -/
theorem exists_parseItem_iff : (∃ o, parseItem py now item = .ok o) ↔ ReadableId item := by
  rw [← exists_text_iff]
  constructor
  · rintro ⟨o, ho⟩
    obtain ⟨text, htext, -⟩ := bind_eq_ok_iff.mp ho
    exact ⟨text, htext⟩
  · rintro ⟨text, htext⟩
    exact ⟨_, parseItem_of_text htext⟩

/-- **The record of an item** is about the CVE that it names. -/
theorem namesCve_iff {cveId : String} : NamesCve py item cveId ↔
    ∃ text, ((Json.idOf item).or (.str "")).text = .ok text ∧
      (py.upper (py.strip text)).startsWith "CVE-".toList = true ∧
        cveId = String.ofList (py.upper (py.strip text)) := by
  constructor
  · rintro ⟨r, hr, rfl⟩
    obtain ⟨text, htext, -⟩ := bind_eq_ok_iff.mp hr
    rw [parseItem_of_text htext] at hr
    split_ifs at hr with hcve
    · obtain rfl := Option.some.inj (Except.ok.inj hr)
      exact ⟨text, htext, hcve, rfl⟩
    · cases hr
  · rintro ⟨text, htext, hcve, rfl⟩
    exact ⟨intelOf 0 (py.upper (py.strip text)) item,
      by rw [parseItem_of_text htext, if_pos hcve], rfl⟩

/-- It is so at any time. -/
theorem namesCve_of_parseItem {r : FetchedIntel} (h : parseItem py now item = .ok (some r)) :
    NamesCve py item r.cveId := by
  obtain ⟨text, htext, -⟩ := bind_eq_ok_iff.mp h
  rw [parseItem_of_text htext] at h
  split_ifs at h with hcve
  · obtain rfl := Option.some.inj (Except.ok.inj h)
    exact namesCve_iff.mpr ⟨text, htext, hcve, rfl⟩
  · cases h

end Item

/-! ### The loop -/

section Loop

variable {py : PyCase} {clock : ℕ → Instant} {items items' : List (List (String × Json))}

/-- A round with an item that can be read. -/
theorem parseInto_of_parseItem {out : Intel} {item : List (String × Json)} {k : ℕ}
    {o : Option FetchedIntel} (h : parseItem py (clock k) item = .ok o) :
    parseInto py clock out (item, k) =
      .ok (o.elim out fun r => Function.update out r.cveId (some r)) := by
  rw [parseInto, h]
  cases o <;> rfl

/-- **The loop gets through exactly if each id can be read.** -/
theorem exists_foldlM_parseInto_iff {k : ℕ} {out : Intel} :
    (∃ intel, (items.zipIdx k).foldlM (parseInto py clock) out = .ok intel) ↔
      ∀ item ∈ items, ReadableId item := by
  induction items generalizing k out with
  | nil => exact iff_of_true ⟨out, rfl⟩ fun item hitem => absurd hitem List.not_mem_nil
  | cons item items ih =>
    have hparse : (∃ o, parseItem py (clock k) item = .ok o) ↔ ReadableId item :=
      exists_parseItem_iff
    rw [List.zipIdx_cons, List.foldlM_cons, List.forall_mem_cons, ← hparse]
    constructor
    · rintro ⟨intel, h⟩
      obtain ⟨out', hout', h⟩ := bind_eq_ok_iff.mp h
      obtain ⟨o, ho, -⟩ := bind_eq_ok_iff.mp hout'
      exact ⟨⟨o, ho⟩, ih.mp ⟨intel, h⟩⟩
    · rintro ⟨⟨o, ho⟩, hitems⟩
      obtain ⟨intel, hintel⟩ := ih.mpr hitems
      refine ⟨intel, ?_⟩
      rw [parseInto_of_parseItem ho]
      exact hintel

/-- Where no item is about a CVE, nothing is put. -/
theorem foldlM_parseInto_of_not_names {k : ℕ} {out intel : Intel} {cveId : String}
    (h : (items.zipIdx k).foldlM (parseInto py clock) out = .ok intel)
    (hnone : ∀ item ∈ items, ¬NamesCve py item cveId) : intel cveId = out cveId := by
  induction items generalizing k out with
  | nil => rw [Except.ok.inj h]
  | cons item items ih =>
    obtain ⟨hitem, hitems⟩ := List.forall_mem_cons.mp hnone
    rw [List.zipIdx_cons, List.foldlM_cons] at h
    obtain ⟨out', hout', h⟩ := bind_eq_ok_iff.mp h
    obtain ⟨o, ho, -⟩ := bind_eq_ok_iff.mp hout'
    rw [parseInto_of_parseItem ho] at hout'
    rw [ih h hitems, ← Except.ok.inj hout']
    cases o with
    | none => rfl
    | some r =>
      refine Function.update_of_ne (fun heq => hitem ?_) _ _
      rw [heq]
      exact namesCve_of_parseItem ho

/-- **The record of an item stays**, unless a later one is about the same CVE. -/
theorem foldlM_parseInto_of_parseItem {k i : ℕ} {out intel : Intel}
    {item : List (String × Json)} {r : FetchedIntel}
    (h : (items.zipIdx k).foldlM (parseInto py clock) out = .ok intel) (hi : items[i]? = some item)
    (hr : parseItem py (clock (k + i)) item = .ok (some r))
    (hlast : ∀ j item', i < j → items[j]? = some item' → ¬NamesCve py item' r.cveId) :
    intel r.cveId = some r := by
  induction items generalizing k i out with
  | nil => cases hi
  | cons first items ih =>
    rw [List.zipIdx_cons, List.foldlM_cons] at h
    obtain ⟨out', hout', h⟩ := bind_eq_ok_iff.mp h
    cases i with
    | zero =>
      obtain rfl := Option.some.inj hi
      rw [Nat.add_zero] at hr
      rw [parseInto_of_parseItem hr] at hout'
      have hrest : ∀ item' ∈ items, ¬NamesCve py item' r.cveId := fun item' hitem' => by
        obtain ⟨j, hj⟩ := List.mem_iff_getElem?.mp hitem'
        exact hlast (j + 1) item' (Nat.succ_pos j) hj
      rw [foldlM_parseInto_of_not_names h hrest, ← Except.ok.inj hout']
      exact Function.update_self _ _ _
    | succ i =>
      have hindex : k + (i + 1) = k + 1 + i := by omega
      rw [hindex] at hr
      refine ih h hi hr fun j item' hj hitem' => ?_
      exact hlast (j + 1) item' (Nat.succ_lt_succ hj) hitem'

/-- **Items that are parsed alike** make the same mapping. -/
theorem foldlM_parseInto_congr {k : ℕ} {out : Intel}
    (h : List.Forall₂ (fun item item' => ∀ now, parseItem py now item = parseItem py now item')
      items items') :
    (items.zipIdx k).foldlM (parseInto py clock) out =
      (items'.zipIdx k).foldlM (parseInto py clock) out := by
  induction h generalizing k out with
  | nil => rfl
  | cons hitem _ ih =>
    rw [List.zipIdx_cons, List.zipIdx_cons, List.foldlM_cons, List.foldlM_cons, parseInto,
      parseInto, hitem]
    exact bind_congr fun out' => ih

end Loop

/-! ### Shapes -/

section Shapes

variable {py : PyCase} {items : List (List (String × Json))}

/-- The objects of a list of objects. -/
theorem objects_map_obj (items : List (List (String × Json))) :
    Json.objects (items.map .obj) = items := by
  rw [Json.objects, List.filterMap_map]
  exact List.filterMap_some

/-- An item under a key: `setdefault` of its id. -/
def withKey (key : String) (item : List (String × Json)) : List (String × Json) :=
  if (Json.member? "cve_id" item).isSome then item else item ++ [("cve_id", .str key)]

/-- The id is set, and nothing else. -/
theorem field_withKey {key name : String} {item : List (String × Json)} (h : name ≠ "cve_id") :
    Json.field (withKey key item) name = Json.field item name := by
  rw [withKey]
  split_ifs
  · rfl
  · rw [Json.field, Json.field, Json.member?, Json.member?, List.find?_append]
    have hno : List.find? (fun m => m.1 == name) [("cve_id", Json.str key)] = none := by
      simp [h.symm]
    rw [hno, Option.or_none]

theorem ne_nil_of_isKeyOf {key : String} {item : List (String × Json)}
    (h : IsKeyOf py key item) : key ≠ "" := by
  rintro rfl
  have hupper : py.upper [] = [] := py.upper_ascii [] fun c hc => absurd hc List.not_mem_nil
  have hcve := h.cve
  rw [String.toList_empty, hupper] at hcve
  cases hcve

/-- **An item under its key** is parsed as the item. -/
theorem parseItem_withKey {key : String} {item : List (String × Json)} (h : IsKeyOf py key item)
    (now : Instant) : parseItem py now (withKey key item) = parseItem py now item := by
  cases hmember : Json.member? "cve_id" item with
  | some v => rw [withKey, if_pos (by rw [hmember]; rfl)]
  | none =>
    obtain ⟨text, htext, -, hname⟩ := namesCve_iff.mp h.names
    -- the key becomes the id, and spells the same CVE
    have hwith : withKey key item = item ++ [("cve_id", .str key)] :=
      if_neg (by rw [hmember]; decide)
    have hfind : item.find? (fun m => m.1 == "cve_id") = none :=
      Option.map_eq_none_iff.mp hmember
    have hfield : Json.field (withKey key item) "cve_id" = .str key := by
      rw [hwith, Json.field, Json.member?, List.find?_append, hfind]
      rfl
    have htruthy : (Json.str key).truthy = true := bne_iff_ne.mpr (ne_nil_of_isKeyOf h)
    have hid : ((Json.idOf (withKey key item)).or (.str "")).text = .ok key.toList := by
      simp only [Json.idOf, hfield, Json.or, htruthy, if_true]
      rfl
    have hspelled : py.upper (py.strip key.toList) = py.upper (py.strip text) :=
      String.ofList_injective hname
    have hrecord : intelOf now (py.upper (py.strip text)) (withKey key item) =
        intelOf now (py.upper (py.strip text)) item := by
      simp only [intelOf, field_withKey, ne_eq, String.reduceEq, not_false_eq_true]
    rw [parseItem_of_text hid, parseItem_of_text htext, hspelled, hrecord]

/-- An object whose keys are those of CVEs has no other members. -/
theorem field_keyed {keys : List String} (h : List.Forall₂ (IsKeyOf py) keys items) {name : String}
    (hname : (py.upper name.toList).startsWith "CVE-".toList = false) :
    Json.field (keys.zip (items.map .obj)) name = .null := by
  have hnone : (keys.zip (items.map Json.obj)).find? (fun m => m.1 == name) = none := by
    induction h with
    | nil => rfl
    | @cons key item keys items hkey _ ih =>
      rw [List.map_cons, List.zip_cons_cons, List.find?_cons]
      have hne : (key == name) = false := by
        rw [beq_eq_false_iff_ne]
        rintro rfl
        exact absurd (hkey.cve.symm.trans hname) (by decide)
      rw [hne]
      exact ih
  rw [Json.field, Json.member?, hnone]
  rfl

/-- **The items of an object of items** are the items under their keys. -/
theorem payloadItems_keyed {keys : List String} (h : List.Forall₂ (IsKeyOf py) keys items) :
    payloadItems py (.obj (keys.zip (items.map .obj))) = List.zipWith withKey keys items := by
  have hdata : Json.field (keys.zip (items.map .obj)) "data" = .null := by
    refine field_keyed h ?_
    rw [py.upper_ascii _ (by simp)]
    rfl
  have hresults : Json.field (keys.zip (items.map .obj)) "results" = .null := by
    refine field_keyed h ?_
    rw [py.upper_ascii _ (by simp)]
    rfl
  unfold payloadItems
  dsimp only
  rw [hdata, hresults]
  clear hdata hresults
  induction h with
  | nil => rfl
  | cons hkey _ ih =>
    rw [List.map_cons, List.zip_cons_cons, List.zipWith_cons_cons, List.filterMap_cons, ← ih]
    simp only [hkey.cve, if_true]
    rfl

/-- **All encodings of a list of CVEs** have the same items, or items that are parsed alike. -/
theorem forall₂_payloadItems {body : Json} (h : IsEncoding py items body) :
    List.Forall₂ (fun item item' => ∀ now, parseItem py now item = parseItem py now item')
      (payloadItems py body) items := by
  have hsame : List.Forall₂ (fun item item' => ∀ now, parseItem py now item =
      parseItem py now item') items items := List.forall₂_same.mpr fun _ _ _ => rfl
  cases h with
  | bare =>
    have hitems : payloadItems py (.arr (items.map .obj)) = items := objects_map_obj items
    rwa [hitems]
  | @data members hdata =>
    have hitems : payloadItems py (.obj members) = items := by
      unfold payloadItems
      dsimp only
      rw [hdata]
      exact objects_map_obj items
    rwa [hitems]
  | @results members hdata hresults =>
    have hitems : payloadItems py (.obj members) = items := by
      unfold payloadItems
      dsimp only
      rw [hresults]
      rcases hfield : Json.field members "data" with _ | _ | _ | _ | l | _
      · exact objects_map_obj items
      · exact objects_map_obj items
      · exact objects_map_obj items
      · exact objects_map_obj items
      · exact absurd hfield (hdata l)
      · exact objects_map_obj items
    rwa [hitems]
  | keyed hkeys =>
    rw [payloadItems_keyed hkeys]
    clear hsame
    induction hkeys with
    | nil => exact List.Forall₂.nil
    | cons hkey _ ih => exact List.Forall₂.cons (parseItem_withKey hkey) ih

end Shapes

/-- **The parser keeps its laws exactly if every id can be read**: it is missing, empty, or a
text. -/
theorem batchParserLaws_iff (py : PyCase) (clock : ℕ → Instant) (body : Json) :
    BatchParserLaws py clock body ↔ ∀ item ∈ payloadItems py body, ReadableId item := by
  constructor
  · intro h
    exact exists_foldlM_parseInto_iff.mp h.total
  · intro h
    have htotal : ∃ intel, parseBatchPayload py clock body = .ok intel :=
      exists_foldlM_parseInto_iff.mpr h
    refine ⟨htotal, fun i item r hi hr hlast => ?_, fun items _ hbody body' hbody' => ?_⟩
    · obtain ⟨intel, hintel⟩ := htotal
      refine ⟨intel, hintel, foldlM_parseInto_of_parseItem hintel hi ?_ hlast⟩
      rwa [Nat.zero_add]
    · have hsame := forall₂_payloadItems hbody
      have hsame' := forall₂_payloadItems hbody'
      rw [parseBatchPayload, parseBatchPayload, foldlM_parseInto_congr hsame,
        foldlM_parseInto_congr hsame']

/-- A well-formed item, and one with a number for its id. -/
def numberedPayload : Json := .arr [.obj [("id", .str "CVE-2024-0001")], .obj [("id", .num 7)]]

/-- **A number for an id loses all records**: those of a well-formed item too. -/
theorem not_batchParserLaws_number : ¬BatchParserLaws .ascii (fun _ => 0) numberedPayload := by
  intro h
  obtain ⟨intel, hintel⟩ := h.total
  have hraises : parseBatchPayload .ascii (fun _ => 0) numberedPayload =
      .error .attributeError := rfl
  cases hraises.symm.trans hintel

end CveManagement
