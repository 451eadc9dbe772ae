import CveManagement.Governance.Audit
import CveManagement.Payload.Urlparse

/-!
# What masking forgets, and masking twice

Two laws of `mask_sensitive` of `app/services/audit.py`, over all values.

* It forgets what it is to hide: values that differ only in what is under sensitive keys, but for
  whether it is empty, and in addresses with the same scheme and host name, are masked to the same
  value, and the audit row is the same (`CveManagement.PyMask.maskSensitive_eq_of_alike`).
* To mask twice is to mask once, as its docstring says, exactly if no address that it comes to has a
  host name with a colon or a bracket in it
  (`CveManagement.CPython.maskSensitive_maskSensitive_iff`). The host name of a bracketed address is
  written without the brackets, and what is before its first colon is taken for the host the next
  time.
-/

namespace CveManagement

namespace PyMask

/-! ### Keys -/

theorem length_le_of_startsLike {same : Char → Char → Bool} {w s : Text}
    (h : startsLike same w s = true) : w.length ≤ s.length := by
  induction w generalizing s with
  | nil => exact Nat.zero_le _
  | cons a w ih =>
    cases s with
    | nil => cases h
    | cons b s =>
      rw [startsLike, Bool.and_eq_true] at h
      exact Nat.succ_le_succ (ih h.2)

/-- **The key of an address is not a sensitive one**: it is shorter than the words of those. -/
theorem isSensitive_of_isUrlKey {py : PyMask} {key : String} (h : py.isUrlKey key = true) :
    py.isSensitive key = false := by
  have hlong : key.toList.length ≤ 4 := by
    rw [isUrlKey, Bool.and_eq_true, List.contains_iff_mem] at h
    have hdrop : (key.toList.drop 3).length ≤ 1 := by
      rcases List.mem_cons.mp h.2 with hnil | hbreak
      · rw [hnil]
        exact Nat.zero_le _
      · rw [List.mem_singleton.mp hbreak]
        exact Nat.le_refl _
    rw [List.length_drop] at hdrop
    omega
  rw [Bool.eq_false_iff]
  intro hsensitive
  simp only [isSensitive, containsWord, List.any_eq_true] at hsensitive
  obtain ⟨word, hword, suffix, hsuffix, hstarts⟩ := hsensitive
  have hshort := length_le_of_startsLike hstarts
  have hsub := ((List.mem_tails _ _).mp hsuffix).length_le
  have hfive : 5 ≤ word.length := by
    simp only [sensitiveWords, List.mem_cons, List.not_mem_nil, or_false] at hword
    rcases hword with rfl | rfl | rfl | rfl | rfl | rfl | rfl <;> decide
  omega

/-! ### What is put under a key -/

section Member

variable {py : PyMask} {key : String}

theorem maskMember_of_isSensitive (hkey : py.isSensitive key = true) (value masked : PyVal) :
    py.maskMember key value masked = if value.truthy then .str "***" else .none := by
  unfold maskMember
  rw [if_pos hkey]

theorem maskMember_of_isUrlKey (hkey : py.isUrlKey key = true) (url : String) (masked : PyVal) :
    py.maskMember key (.str url) masked = .str (py.maskUrl url) := by
  unfold maskMember
  rw [isSensitive_of_isUrlKey hkey, hkey]
  rfl

/-- Under any other key the value is walked. -/
theorem maskMember_of_other (hkey : py.isSensitive key = false) (hurl : py.isUrlKey key = false)
    (value masked : PyVal) : py.maskMember key value masked = masked := by
  unfold maskMember
  rw [hkey, hurl]
  rfl

end Member

/-! ### Values that differ in what is to be hidden -/

mutual

/-- **Two values are alike** if they differ only in what masking is to hide, at any depth. -/
inductive Alike (py : PyMask) : PyVal → PyVal → Prop
  | refl (v : PyVal) : Alike py v v
  | list {l l' : List PyVal} (h : AlikeItems py l l') : Alike py (.list l) (.list l')
  | dict {m m' : List (String × PyVal)} (h : AlikeMembers py m m') : Alike py (.dict m) (.dict m')

/-- The elements of two lists are alike. -/
inductive AlikeItems (py : PyMask) : List PyVal → List PyVal → Prop
  | nil : AlikeItems py [] []
  | cons {v v' : PyVal} {l l' : List PyVal} (hv : Alike py v v') (hl : AlikeItems py l l') :
    AlikeItems py (v :: l) (v' :: l')

/-- The members of two dictionaries have the same keys, and are alike under each. -/
inductive AlikeMembers (py : PyMask) : List (String × PyVal) → List (String × PyVal) → Prop
  | nil : AlikeMembers py [] []
  | cons {key : String} {v v' : PyVal} {m m' : List (String × PyVal)} (hv : AlikeUnder py key v v')
    (hm : AlikeMembers py m m') : AlikeMembers py ((key, v) :: m) ((key, v') :: m')

/-- Two values are alike under a key. -/
inductive AlikeUnder (py : PyMask) : String → PyVal → PyVal → Prop
  /-- Both are empty or neither is. -/
  | sensitive {key : String} {v v' : PyVal} (hkey : py.isSensitive key = true)
    (htruthy : v.truthy = v'.truthy) : AlikeUnder py key v v'
  /-- They are addresses with the same scheme and host name. -/
  | url {key : String} {u u' : String} (hkey : py.isUrlKey key = true)
    (hparsed : py.urlparse u = py.urlparse u') : AlikeUnder py key (.str u) (.str u')
  | alike {key : String} {v v' : PyVal} (h : Alike py v v') : AlikeUnder py key v v'

end

variable {py : PyMask}

theorem truthy_of_alike {v w : PyVal} (h : py.Alike v w) : v.truthy = w.truthy := by
  cases h with
  | refl => rfl
  | list h => cases h <;> rfl
  | dict h => cases h <;> rfl

mutual

theorem maskSensitive_of_alike {v w : PyVal} (h : py.Alike v w) :
    py.maskSensitive v = py.maskSensitive w := by
  cases h with
  | refl => rfl
  | list h => rw [maskSensitive, maskSensitive, maskItems_of_alike h]
  | dict h => rw [maskSensitive, maskSensitive, maskMembers_of_alike h]

theorem maskItems_of_alike {l l' : List PyVal} (h : py.AlikeItems l l') :
    py.maskItems l = py.maskItems l' := by
  cases h with
  | nil => rfl
  | cons hv hl => rw [maskItems, maskItems, maskSensitive_of_alike hv, maskItems_of_alike hl]

theorem maskMembers_of_alike {m m' : List (String × PyVal)} (h : py.AlikeMembers m m') :
    py.maskMembers m = py.maskMembers m' := by
  cases h with
  | nil => rfl
  | cons hv hm => rw [maskMembers, maskMembers, maskMember_of_alike hv, maskMembers_of_alike hm]

theorem maskMember_of_alike {key : String} {v v' : PyVal} (h : py.AlikeUnder key v v') :
    py.maskMember key v (py.maskSensitive v) = py.maskMember key v' (py.maskSensitive v') := by
  cases h with
  | sensitive hkey htruthy =>
    rw [maskMember_of_isSensitive hkey, maskMember_of_isSensitive hkey, htruthy]
  | url hkey hparsed =>
    rw [maskMember_of_isUrlKey hkey, maskMember_of_isUrlKey hkey, maskUrl, maskUrl, hparsed]
  | alike h =>
    cases hkey : py.isSensitive key with
    | true =>
      rw [maskMember_of_isSensitive hkey, maskMember_of_isSensitive hkey, truthy_of_alike h]
    | false =>
      -- only a text can be an address, and a text is alike to nothing else here
      cases h with
      | refl => rfl
      | list h =>
        rw [maskMember_of_ne _ hkey (by simp), maskMember_of_ne _ hkey (by simp), maskSensitive,
          maskSensitive, maskItems_of_alike h]
      | dict h =>
        rw [maskMember_of_ne _ hkey (by simp), maskMember_of_ne _ hkey (by simp), maskSensitive,
          maskSensitive, maskMembers_of_alike h]

end

/-- The `metadata` column of an audit row: an empty object for empty metadata. -/
def metadataColumn (py : PyMask) (metadata : PyVal) : Except PyError Json :=
  if metadata.truthy then jsonDumps (py.maskSensitive metadata) else .ok (.obj [])

/-- **Masking forgets what it is to hide**: values that differ in nothing else are masked to the
same value, and leave the same audit row. -/
theorem maskSensitive_eq_of_alike (py : PyMask) (v w : PyVal) (h : py.Alike v w) :
    py.maskSensitive v = py.maskSensitive w ∧ py.diffColumn v = py.diffColumn w ∧
      py.metadataColumn v = py.metadataColumn w := by
  have hmasked : py.maskSensitive v = py.maskSensitive w := maskSensitive_of_alike h
  refine ⟨hmasked, ?_, ?_⟩
  · rw [diffColumn, diffColumn, hmasked, truthy_of_alike h]
  · rw [metadataColumn, metadataColumn, hmasked, truthy_of_alike h]

end PyMask

/-! ### Masking twice -/

/-- **The standard library as CPython has it**, as far as masking goes. -/
structure CPython extends PyUrl where
  /-- The characters that match each other under `re.IGNORECASE`. -/
  sameLetter : Char → Char → Bool
  sameLetter_ascii : ∀ a b, a.toNat < 128 → b.toNat < 128 →
    sameLetter a b = (a.toLower == b.toLower)

namespace CPython

/-- The functions that the masking calls. -/
def pyMask (py : CPython) : PyMask := ⟨py.sameLetter, py.urlparse, py.sameLetter_ascii⟩

/-- With the operations that know no character but ASCII. -/
def ascii : CPython where
  toPyUrl := .ascii
  sameLetter := PyMask.ascii.sameLetter
  sameLetter_ascii := PyMask.ascii.sameLetter_ascii

variable (py : CPython)

/-- **An address is a plain one** if there is neither a colon nor a bracket in its host name. -/
def PlainUrl (url : String) : Prop :=
  ∀ scheme host, py.urlparse url = some (scheme, some host) → PyUrl.PlainHost host.toList

/-- What is walked to under a key is a plain address, if it is an address. -/
def PlainUnder (key : String) (value : PyVal) (walked : Prop) : Prop :=
  py.pyMask.isSensitive key = false →
    match py.pyMask.isUrlKey key, value with
    | true, .str url => py.PlainUrl url
    | _, _ => walked

mutual

/-- **The addresses that the masking comes to are plain ones.** -/
def PlainUrls : PyVal → Prop
  | .dict members => PlainMembers members
  | .list items => PlainItems items
  | _ => True

/-- Those in a list. -/
def PlainItems : List PyVal → Prop
  | [] => True
  | value :: rest => PlainUrls value ∧ PlainItems rest

/-- Those in a dictionary. -/
def PlainMembers : List (String × PyVal) → Prop
  | [] => True
  | (key, value) :: rest => py.PlainUnder key value (PlainUrls value) ∧ PlainMembers rest

end

variable {py}

/-- What `_mask_url` writes, of a scheme and a host. -/
def written (scheme host : Text) : String :=
  String.ofList (scheme ++ (':' :: '/' :: '/' :: (host ++ "/***".toList)))

theorem maskUrl_of_none {url : String} (h : py.urlparse url = none) :
    py.pyMask.maskUrl url = "***" := by
  have hparsed : py.pyMask.urlparse url = none := h
  unfold PyMask.maskUrl
  rw [hparsed]

theorem maskUrl_of_hostless {url scheme : String} (h : py.urlparse url = some (scheme, none)) :
    py.pyMask.maskUrl url = "***" := by
  have hparsed : py.pyMask.urlparse url = some (scheme, none) := h
  unfold PyMask.maskUrl
  rw [hparsed]
  exact if_pos rfl

/-- The scheme that is written: it may be the one that stands for none. -/
def schemeOr (scheme : Text) : Text := if scheme = [] then "https".toList else scheme

theorem maskUrl_of_host {url : String} {scheme host : Text}
    (h : py.urlparse url = some (String.ofList scheme, some (String.ofList host)))
    (hne : host ≠ []) : py.pyMask.maskUrl url = written (schemeOr scheme) host := by
  have hparsed : py.pyMask.urlparse url =
      some (String.ofList scheme, some (String.ofList host)) := h
  have hhost : String.ofList host ≠ "" := fun hempty => hne (String.ofList_eq_empty_iff.mp hempty)
  unfold PyMask.maskUrl
  rw [hparsed]
  dsimp only [Option.getD_some]
  rw [if_neg hhost]
  apply String.toList_injective
  unfold schemeOr
  by_cases hscheme : scheme = []
  · simp [hscheme, written]
  · have hsome : ¬String.ofList scheme = "" := fun hempty =>
      hscheme (String.ofList_eq_empty_iff.mp hempty)
    simp [hscheme, hsome, written]

theorem isLowerScheme_schemeOr {scheme : Text} (h : scheme = [] ∨ PyUrl.IsLowerScheme scheme) :
    PyUrl.IsLowerScheme (schemeOr scheme) := by
  unfold schemeOr
  split_ifs with hempty
  · exact ⟨by decide, by decide⟩
  · exact h.resolve_left hempty

theorem written_ne_hidden (scheme host : Text) : written scheme host ≠ "***" := by
  intro h
  have hmem : ':' ∈ (written scheme host).toList := by simp [written]
  rw [h] at hmem
  exact absurd hmem (by decide)

theorem maskUrl_hidden : py.pyMask.maskUrl "***" = "***" := by
  have hparsed : py.urlparse "***" = some ("", none) := rfl
  exact maskUrl_of_hostless hparsed

/-- What is written of a host is masked to itself exactly if the host is parsed to itself. -/
theorem maskUrl_written_iff {scheme host : Text} (hscheme : PyUrl.IsLowerScheme scheme)
    (hhost : ∀ c ∈ host, ¬PyUrl.IsBoundary c) (hne : host ≠ []) :
    py.pyMask.maskUrl (written scheme host) = written scheme host ↔
      py.admits host = true ∧ py.hostname host = host := by
  have hparsed := PyUrl.urlparse_join py.toPyUrl hscheme hhost
  by_cases hadmits : py.admits host = true
  · rw [if_pos hadmits] at hparsed
    by_cases hempty : py.hostname host = []
    · rw [if_pos hempty] at hparsed
      rw [written, maskUrl_of_hostless hparsed]
      refine iff_of_false (fun h => written_ne_hidden scheme host h.symm) fun h => hne ?_
      rw [← h.2, hempty]
    · rw [if_neg hempty] at hparsed
      have hsame : schemeOr scheme = scheme := by
        refine if_neg fun hnil => ?_
        rw [hnil] at hscheme
        exact absurd hscheme.1 (by decide)
      rw [written, maskUrl_of_host hparsed hempty, hsame, written, String.ofList_inj]
      simp [hadmits]
  · rw [if_neg hadmits] at hparsed
    rw [written, maskUrl_of_none hparsed]
    exact iff_of_false (fun h => written_ne_hidden scheme host h.symm) fun h => hadmits h.1

/-- **One address**: it is masked once if it is a plain one. -/
theorem maskUrl_maskUrl_iff (url : String) :
    py.pyMask.maskUrl (py.pyMask.maskUrl url) = py.pyMask.maskUrl url ↔ py.PlainUrl url := by
  rcases PyUrl.urlparse_cases py.toPyUrl url with hparsed | ⟨scheme, hparsed⟩ |
    ⟨scheme, netloc, hscheme, hbound, hadmits, hne, hparsed⟩
  · rw [maskUrl_of_none hparsed]
    refine iff_of_true maskUrl_hidden fun scheme host h => ?_
    rw [hparsed] at h
    cases h
  · rw [maskUrl_of_hostless hparsed]
    refine iff_of_true maskUrl_hidden fun scheme host h => ?_
    rw [hparsed] at h
    cases h
  · have hhost : ∀ c ∈ py.hostname netloc, ¬PyUrl.IsBoundary c :=
      fun c hc hboundary => hbound c (PyUrl.mem_of_mem_hostinfo
        (PyUrl.mem_of_mem_hostname (PyUrl.isMark_of_isBoundary hboundary) hc)).1 hboundary
    rw [maskUrl_of_host hparsed hne, maskUrl_written_iff (isLowerScheme_schemeOr hscheme) hhost hne,
      PyUrl.hostname_stable_iff hbound hadmits hne]
    constructor
    · intro hplain scheme host h
      rw [hparsed] at h
      cases h
      rwa [String.toList_ofList]
    · intro hplain
      simpa using hplain _ _ hparsed

theorem eq_str_of_maskSensitive {mask : PyMask} {v : PyVal} {s : String}
    (h : mask.maskSensitive v = .str s) : v = .str s := by
  cases v with
  | list l => rw [PyMask.maskSensitive] at h; cases h
  | dict m => rw [PyMask.maskSensitive] at h; cases h
  | str s' => simpa [PyMask.maskSensitive] using h
  | _ => simp [PyMask.maskSensitive] at h

/-- **One member**: what has been put under a key is left as it is by a second walk. -/
theorem maskMember_maskMember_iff (key : String) (value : PyVal) :
    py.pyMask.maskMember key (py.pyMask.maskMember key value (py.pyMask.maskSensitive value))
        (py.pyMask.maskSensitive
          (py.pyMask.maskMember key value (py.pyMask.maskSensitive value))) =
        py.pyMask.maskMember key value (py.pyMask.maskSensitive value) ↔
      py.PlainUnder key value (py.pyMask.maskSensitive (py.pyMask.maskSensitive value) =
        py.pyMask.maskSensitive value) := by
  unfold PlainUnder
  cases hkey : py.pyMask.isSensitive key with
  | true =>
    refine iff_of_true ?_ fun h => by cases h
    rw [PyMask.maskMember_of_isSensitive hkey, PyMask.maskMember_of_isSensitive hkey]
    cases value.truthy <;> rfl
  | false =>
    rw [forall_prop_of_true rfl]
    cases hurl : py.pyMask.isUrlKey key with
    | false =>
      rw [PyMask.maskMember_of_other hkey hurl, PyMask.maskMember_of_other hkey hurl]
    | true =>
      by_cases hvalue : ∃ url, value = .str url
      · obtain ⟨url, rfl⟩ := hvalue
        rw [PyMask.maskMember_of_isUrlKey hurl, PyMask.maskMember_of_isUrlKey hurl,
          PyVal.str.injEq]
        exact maskUrl_maskUrl_iff url
      · rw [not_exists] at hvalue
        have hmasked : ∀ url, py.pyMask.maskSensitive value ≠ .str url := fun url h =>
          hvalue url (eq_str_of_maskSensitive h)
        rw [PyMask.maskMember_of_ne _ hkey hvalue, PyMask.maskMember_of_ne _ hkey hmasked]
        split
        next => exact absurd rfl (hvalue _)
        next => exact Iff.rfl

mutual

theorem maskSensitive_stable_iff (v : PyVal) :
    py.pyMask.maskSensitive (py.pyMask.maskSensitive v) = py.pyMask.maskSensitive v ↔
      py.PlainUrls v := by
  cases v with
  | list items =>
    rw [PyMask.maskSensitive, PyMask.maskSensitive, PyVal.list.injEq, PlainUrls]
    exact maskItems_stable_iff items
  | dict members =>
    rw [PyMask.maskSensitive, PyMask.maskSensitive, PyVal.dict.injEq, PlainUrls]
    exact maskMembers_stable_iff members
  | _ => simp [PyMask.maskSensitive, PlainUrls]

theorem maskItems_stable_iff (items : List PyVal) :
    py.pyMask.maskItems (py.pyMask.maskItems items) = py.pyMask.maskItems items ↔
      py.PlainItems items := by
  cases items with
  | nil => simp [PyMask.maskItems, PlainItems]
  | cons v items =>
    rw [PyMask.maskItems, PyMask.maskItems, List.cons.injEq, PlainItems,
      maskSensitive_stable_iff v, maskItems_stable_iff items]

theorem maskMembers_stable_iff (members : List (String × PyVal)) :
    py.pyMask.maskMembers (py.pyMask.maskMembers members) = py.pyMask.maskMembers members ↔
      py.PlainMembers members := by
  cases members with
  | nil => simp [PyMask.maskMembers, PlainMembers]
  | cons m members =>
    obtain ⟨key, v⟩ := m
    rw [PyMask.maskMembers, PyMask.maskMembers, List.cons.injEq, Prod.mk.injEq, PlainMembers,
      maskMembers_stable_iff members, maskMember_maskMember_iff, maskSensitive_stable_iff v,
      eq_self, true_and]

end

/-- **To mask twice is to mask once** exactly if the addresses that the masking comes to are plain
ones. -/
theorem maskSensitive_maskSensitive_iff (py : CPython) (v : PyVal) :
    py.pyMask.maskSensitive (py.pyMask.maskSensitive v) = py.pyMask.maskSensitive v ↔
      py.PlainUrls v :=
  maskSensitive_stable_iff v

/-- The address of a webhook of the host itself. -/
def localHook : PyVal := .dict [("url", .str "http://[::1]/hook")]

/-- **A bracketed address is masked twice**, to less. -/
theorem not_maskSensitive_maskSensitive : ¬∀ (py : CPython) (v : PyVal),
    py.pyMask.maskSensitive (py.pyMask.maskSensitive v) = py.pyMask.maskSensitive v := by
  intro h
  have hplain := (maskSensitive_stable_iff localHook).mp (h .ascii localHook)
  rw [localHook, PlainUrls, PlainMembers] at hplain
  have hurl : ascii.PlainUrl "http://[::1]/hook" := hplain.1 (by decide +kernel)
  exact absurd (hurl "http" "::1" (by decide +kernel)).1 (by decide)

end CPython

/-! ### Two webhooks -/

/-- A webhook in a list of changes. -/
def hookChange (secret url : String) : PyVal :=
  .dict [("changes", .list [.dict [("secret", .str secret), ("url", .str url)]])]

/-- Another secret and another path leave the same row. -/
theorem maskSensitive_eq_of_alike_hook :
    CPython.ascii.pyMask.maskSensitive (hookChange "s1" "https://hooks.example/a?key=1") =
        CPython.ascii.pyMask.maskSensitive (hookChange "s2" "https://me@HOOKS.example:443/b") ∧
      CPython.ascii.pyMask.diffColumn (hookChange "s1" "https://hooks.example/a?key=1") =
        CPython.ascii.pyMask.diffColumn (hookChange "s2" "https://me@HOOKS.example:443/b") ∧
      CPython.ascii.pyMask.metadataColumn (hookChange "s1" "https://hooks.example/a?key=1") =
        CPython.ascii.pyMask.metadataColumn (hookChange "s2" "https://me@HOOKS.example:443/b") :=
  PyMask.maskSensitive_eq_of_alike _ _ _
    (.dict (.cons (.alike (.list (.cons (.dict
      (.cons (.sensitive (by decide +kernel) rfl)
        (.cons (.url (by decide +kernel) (by decide +kernel)) .nil))) .nil))) .nil))

end CveManagement
