import CveManagement.Governance.Schema
import CveManagement.Payload.Python
import Mathlib

/-!
# What an audit row holds of a diff

`record_in_tx` of `app/services/audit.py` masks the diff it is passed and serialises it with
`json.dumps`. A diff is a Python value, and may hold dates and points in time, which
`json.dumps` refuses; the masking walks dictionaries and lists and leaves everything else as it
is, so it hides a date only under a sensitive key
(`CveManagement.PyMask.timeless_maskSensitive`).
-/

namespace CveManagement

/-- A value of Python, as diffs are made of. -/
inductive PyVal
  | none
  | bool (b : Bool)
  | num (q : ℚ)
  | str (s : String)
  | datetime (t : Instant)
  | date (d : Date)
  | list (items : List PyVal)
  | dict (members : List (String × PyVal))

namespace PyVal

/-- The truth value. -/
def truthy : PyVal → Bool
  | .none => false
  | .bool b => b
  | .num q => q != 0
  | .str s => s != ""
  | .datetime _ | .date _ => true
  | .list items => !items.isEmpty
  | .dict members => !members.isEmpty

/-- A text, or `None`. -/
def ofText? : Option String → PyVal
  | Option.none => .none
  | some s => .str s

/-- A point in time, or `None`. -/
def ofInstant? : Option Instant → PyVal
  | Option.none => .none
  | some t => .datetime t

end PyVal

/-! ### Masking -/

/-- `re.match` of a literal under `re.IGNORECASE`. -/
def startsLike (same : Char → Char → Bool) : Text → Text → Bool
  | [], _ => true
  | _ :: _, [] => false
  | w :: ws, c :: cs => same w c && startsLike same ws cs

/-- The literals of `_SENSITIVE_KEY_PATTERNS`; the optional separator of `api[_-]?key` gives
three. -/
def sensitiveWords : List Text :=
  ["secret".toList, "password".toList, "token".toList, "apikey".toList, "api_key".toList,
    "api-key".toList, "authorization".toList]

/-- `re.search` of one of the patterns. -/
def containsWord (same : Char → Char → Bool) (key : Text) : Bool :=
  -- a search matches anywhere, so at the beginning of some suffix
  sensitiveWords.any fun word => key.tails.any fun suffix => startsLike same word suffix

/-- **The functions of the standard library** that the masking calls. -/
structure PyMask where
  /-- The characters that match each other under `re.IGNORECASE`. -/
  sameLetter : Char → Char → Bool
  /-- The scheme and the host name of `urlparse`; `none` is a `ValueError`. -/
  urlparse : String → Option (String × Option String)
  sameLetter_ascii : ∀ a b, a.toNat < 128 → b.toNat < 128 →
    sameLetter a b = (a.toLower == b.toLower)

namespace PyMask

variable (py : PyMask)

/-- `_is_sensitive`. -/
def isSensitive (key : String) : Bool := containsWord py.sameLetter key.toList

/-- `_URL_KEY.match`; a dollar sign matches before a final line break, too. -/
def isUrlKey (key : String) : Bool :=
  startsLike py.sameLetter "url".toList key.toList &&
    [[], ['\n']].contains (key.toList.drop 3)

/-- `_mask_url`. -/
def maskUrl (url : String) : String :=
  match py.urlparse url with
  | none => "***"
  | some (scheme, hostname) =>
    let host := hostname.getD ""
    if host = "" then "***"
    else (if scheme = "" then "https" else scheme) ++ "://" ++ host ++ "/***"

/-- What the loop puts under a key, in place of a value that is masked to `masked`. -/
def maskMember (key : String) (value masked : PyVal) : PyVal :=
  -- an empty value under a sensitive key becomes `None`, and shows that it was empty
  if py.isSensitive key then (if value.truthy then .str "***" else .none)
  else match py.isUrlKey key, value with
    | true, .str url => .str (py.maskUrl url)
    | _, _ => masked

mutual

/-- **`mask_sensitive`.** -/
def maskSensitive : PyVal → PyVal
  | .dict members => .dict (maskMembers members)
  | .list items => .list (maskItems items)
  | value => value

/-- The loop of `mask_sensitive` over a list. -/
def maskItems : List PyVal → List PyVal
  | [] => []
  | value :: rest => maskSensitive value :: maskItems rest

/-- The loop of `mask_sensitive` over a dictionary. -/
def maskMembers : List (String × PyVal) → List (String × PyVal)
  | [] => []
  | (key, value) :: rest =>
    (key, py.maskMember key value (maskSensitive value)) :: maskMembers rest

end

end PyMask

/-! ### Serialising -/

mutual

/-- **`json.dumps`**, as far as the value goes whose text it returns. -/
def jsonDumps : PyVal → Except PyError Json
  | .none => .ok .null
  | .bool b => .ok (.bool b)
  | .num q => .ok (.num q)
  | .str s => .ok (.str s)
  | .datetime _ | .date _ => .error .typeError
  | .list items => (dumpItems items).map .arr
  | .dict members => (dumpMembers members).map .obj

/-- The elements of a list. -/
def dumpItems : List PyVal → Except PyError (List Json)
  | [] => .ok []
  | value :: rest => do return (← jsonDumps value) :: (← dumpItems rest)

/-- The members of a dictionary. -/
def dumpMembers : List (String × PyVal) → Except PyError (List (String × Json))
  | [] => .ok []
  | (key, value) :: rest => do return (key, ← jsonDumps value) :: (← dumpMembers rest)

end

/-- The `diff` column of an audit row: `NULL` for an empty diff. -/
def PyMask.diffColumn (py : PyMask) (diff : PyVal) : Except PyError (Option Json) :=
  if diff.truthy then (jsonDumps (py.maskSensitive diff)).map some else .ok none

/-! ### Values without dates -/

namespace PyVal

mutual

/-- **There is neither a date nor a point in time in the value.** -/
def timeless : PyVal → Bool
  | .datetime _ | .date _ => false
  | .list items => timelessItems items
  | .dict members => timelessMembers members
  | _ => true

/-- Nor in a list of values. -/
def timelessItems : List PyVal → Bool
  | [] => true
  | value :: rest => timeless value && timelessItems rest

/-- Nor in the values of a dictionary. -/
def timelessMembers : List (String × PyVal) → Bool
  | [] => true
  | (_, value) :: rest => timeless value && timelessMembers rest

end

theorem timelessMembers_iff {members : List (String × PyVal)} :
    timelessMembers members = true ↔ ∀ m ∈ members, m.2.timeless = true := by
  induction members with
  | nil => simp [timelessMembers]
  | cons m members ih => simp [timelessMembers, ih]

end PyVal

section Dumps

mutual

/-- **`json.dumps` serialises a value exactly if it holds no date.** -/
theorem exists_jsonDumps_iff (v : PyVal) :
    (∃ j, jsonDumps v = .ok j) ↔ v.timeless = true := by
  cases v with
  | none | bool | num | str => simp [jsonDumps, PyVal.timeless]
  | datetime | date => simp [jsonDumps, PyVal.timeless]
  | list items =>
    -- the first element that raises ends the call
    rw [PyVal.timeless, ← exists_dumpItems_iff items, jsonDumps]
    cases dumpItems items <;> simp [Except.map]
  | dict members =>
    rw [PyVal.timeless, ← exists_dumpMembers_iff members, jsonDumps]
    cases dumpMembers members <;> simp [Except.map]

theorem exists_dumpItems_iff (items : List PyVal) :
    (∃ js, dumpItems items = .ok js) ↔ PyVal.timelessItems items = true := by
  cases items with
  | nil => simp [dumpItems, PyVal.timelessItems]
  | cons v items =>
    rw [PyVal.timelessItems, Bool.and_eq_true, ← exists_jsonDumps_iff v,
      ← exists_dumpItems_iff items, dumpItems]
    cases jsonDumps v <;> cases dumpItems items <;> simp [bind, Except.bind, pure, Except.pure]

theorem exists_dumpMembers_iff (members : List (String × PyVal)) :
    (∃ js, dumpMembers members = .ok js) ↔ PyVal.timelessMembers members = true := by
  cases members with
  | nil => simp [dumpMembers, PyVal.timelessMembers]
  | cons m members =>
    obtain ⟨key, v⟩ := m
    rw [PyVal.timelessMembers, Bool.and_eq_true, ← exists_jsonDumps_iff v,
      ← exists_dumpMembers_iff members, dumpMembers]
    cases jsonDumps v <;> cases dumpMembers members <;>
      simp [bind, Except.bind, pure, Except.pure]

end

end Dumps

namespace PyMask

variable {py : PyMask}

theorem timeless_maskMember (key : String) (value : PyVal) {masked : PyVal}
    (h : masked.timeless = true) : (py.maskMember key value masked).timeless = true := by
  unfold maskMember
  split_ifs
  · rfl
  · rfl
  · split
    · rfl
    · exact h

/-- Under a key that is not sensitive, only a text can be hidden. -/
theorem maskMember_of_ne {key : String} {value : PyVal} (masked : PyVal)
    (hkey : py.isSensitive key = false) (hvalue : ∀ url, value ≠ .str url) :
    py.maskMember key value masked = masked := by
  unfold maskMember
  rw [if_neg (by simp [hkey])]
  split
  · exact absurd rfl (hvalue _)
  · rfl

mutual

/-- **Masking brings no date into a value.** -/
theorem timeless_maskSensitive (v : PyVal) (h : v.timeless = true) :
    (py.maskSensitive v).timeless = true := by
  cases v with
  | none | bool | num | str => simpa [maskSensitive] using h
  | datetime | date => simp [PyVal.timeless] at h
  | list items =>
    rw [PyVal.timeless] at h
    simpa [maskSensitive, PyVal.timeless] using timeless_maskItems items h
  | dict members =>
    rw [PyVal.timeless] at h
    simpa [maskSensitive, PyVal.timeless] using timeless_maskMembers members h

theorem timeless_maskItems (items : List PyVal) (h : PyVal.timelessItems items = true) :
    PyVal.timelessItems (py.maskItems items) = true := by
  cases items with
  | nil => rfl
  | cons v items =>
    rw [PyVal.timelessItems, Bool.and_eq_true] at h
    rw [maskItems, PyVal.timelessItems, timeless_maskSensitive v h.1,
      timeless_maskItems items h.2, Bool.and_self]

theorem timeless_maskMembers (members : List (String × PyVal))
    (h : PyVal.timelessMembers members = true) :
    PyVal.timelessMembers (py.maskMembers members) = true := by
  cases members with
  | nil => rfl
  | cons m members =>
    obtain ⟨key, v⟩ := m
    rw [PyVal.timelessMembers, Bool.and_eq_true] at h
    rw [maskMembers, PyVal.timelessMembers, timeless_maskMembers members h.2, Bool.and_true]
    exact timeless_maskMember key v (timeless_maskSensitive v h.1)

end

/-- A member under a key that is not sensitive keeps its point in time. -/
theorem mem_maskMembers {members : List (String × PyVal)} {key : String} {t : Instant}
    (hkey : py.isSensitive key = false) (h : (key, .datetime t) ∈ members) :
    (key, .datetime t) ∈ py.maskMembers members := by
  induction members with
  | nil => exact absurd h List.not_mem_nil
  | cons m members ih =>
    obtain ⟨key', v⟩ := m
    rw [maskMembers]
    rcases List.mem_cons.mp h with heq | hmem
    · obtain ⟨rfl, rfl⟩ := Prod.mk.inj heq
      refine List.mem_cons.mpr (.inl ?_)
      have hself : py.maskSensitive (.datetime t) = .datetime t := by simp [maskSensitive]
      rw [maskMember_of_ne _ hkey (by simp), hself]
    · exact List.mem_cons_of_mem _ (ih hmem)

/-! ### Keys of ASCII -/

theorem startsLike_ascii {w s : Text} (hw : ∀ c ∈ w, c.toNat < 128)
    (hs : ∀ c ∈ s, c.toNat < 128) :
    startsLike py.sameLetter w s = startsLike (fun a b => a.toLower == b.toLower) w s := by
  induction w generalizing s with
  | nil => rfl
  | cons a w ih =>
    cases s with
    | nil => rfl
    | cons b s =>
      obtain ⟨ha, hw⟩ := List.forall_mem_cons.mp hw
      obtain ⟨hb, hs⟩ := List.forall_mem_cons.mp hs
      rw [startsLike, startsLike, py.sameLetter_ascii a b ha hb, ih hw hs]

/-- Whether a key of ASCII is sensitive is known. -/
theorem isSensitive_ascii {key : String}
    (hkey : (key.toList.all fun c => decide (c.toNat < 128)) = true) :
    py.isSensitive key = containsWord (fun a b => a.toLower == b.toLower) key.toList := by
  have hwords : ∀ word ∈ sensitiveWords, ∀ c ∈ word, c.toNat < 128 := by
    have hall : (sensitiveWords.all fun word => word.all fun c => decide (c.toNat < 128)) = true :=
      rfl
    simpa [List.all_eq_true] using hall
  -- the words are of ASCII, and so are the suffixes of the key
  rw [Bool.eq_iff_iff]
  simp only [isSensitive, containsWord, List.any_eq_true]
  refine exists_congr fun word => and_congr_right fun hword => ?_
  refine exists_congr fun suffix => and_congr_right fun hsuffix => ?_
  rw [startsLike_ascii (hwords word hword) fun c hc =>
    of_decide_eq_true (List.all_eq_true.mp hkey c (((List.mem_tails _ _).mp hsuffix).subset hc))]

end PyMask

end CveManagement
