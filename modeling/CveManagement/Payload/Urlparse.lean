import CveManagement.Payload.Python
import Mathlib

/-!
# `urlparse`, as far as the scheme and the host name go

`urllib.parse.urlparse` strips and cleans its text, splits off a scheme and the part between `//`
and the path, and refuses that part if its brackets do not match, if what is in them is no address,
or if its compatibility form has a delimiter in it. The host name of the result is what is left
without the user, the port and the brackets, in lower case up to a percent sign.

What `CveManagement.PyUrl.urlparse` returns for a scheme and a host, put together again, is
`CveManagement.PyUrl.urlparse_join`.
-/

namespace CveManagement

/-- The characters that `_checknetloc` looks for. -/
def urlDelimiters : List Char := ['/', '?', '#', '@', ':']

/-- **The operations that `urlparse` calls**: those of `str`, the normalisation of `unicodedata`,
and the check of what is in brackets, which has not been the same in all versions. -/
structure PyUrl extends PyText where
  /-- `unicodedata.normalize("NFKC", s)`. -/
  nfkc : Text → Text
  /-- `_check_bracketed_host`, or `_check_bracketed_netloc`, of a netloc with both brackets. -/
  checkBracketed : Text → Bool
  lower_lower : ∀ s, lower (lower s) = lower s
  /-- No character but a letter becomes one of ASCII in lower case. -/
  mem_of_mem_lower : ∀ s c, c ∈ lower s → c.toNat < 128 → c.isAlpha = false → c ∈ s
  /-- A delimiter takes no part in a composition. -/
  nfkc_delimiter : ∀ s d, d ∈ urlDelimiters → (d ∈ nfkc s ↔ ∃ c ∈ s, d ∈ nfkc [c])
  nfkc_ascii : ∀ c : Char, c.toNat < 128 → nfkc [c] = [c]
  /-- No character with a delimiter in it is the lower case of another. -/
  nfkc_lower : ∀ s d, d ∈ urlDelimiters → ∀ c ∈ lower s, d ∈ nfkc [c] → c ∈ s

namespace PyUrl

variable (py : PyUrl)

/-! ### Parsing -/

/-- The text without the white space before it, and the characters of
`_UNSAFE_URL_BYTES_TO_REMOVE`. -/
def clean (url : Text) : Text :=
  (url.dropWhile fun c => c.toNat ≤ 32).filter fun c => ¬['\t', '\r', '\n'].contains c

/-- A character of `scheme_chars`. -/
def schemeChar (c : Char) : Bool := c.isAlphanum || ['+', '-', '.'].contains c

/-- What is before the first colon is a scheme. -/
def isScheme (scheme : Text) : Bool := scheme.head?.any Char.isAlpha && scheme.all schemeChar

/-- The scheme in lower case, and the rest. -/
def splitScheme (url : Text) : Text × Text :=
  match url.dropWhile (· != ':') with
  | [] => ([], url)
  | _ :: rest =>
    if isScheme (url.takeWhile (· != ':')) then ((url.takeWhile (· != ':')).map Char.toLower, rest)
    else ([], url)

/-- `netloc`: what is between two slashes and the next delimiter. -/
def netloc : Text → Text
  | '/' :: '/' :: rest => rest.takeWhile fun c => ¬['/', '?', '#'].contains c
  | _ => []

/-- `_checknetloc`. -/
def checknetloc (netloc : Text) : Bool :=
  let n := netloc.filter fun c => ¬['@', ':', '#', '?'].contains c
  netloc.all (fun c => c.toNat < 128) || n == py.nfkc n ||
    (py.nfkc n).all fun c => ¬urlDelimiters.contains c

/-- The netloc is not refused. -/
def admits (netloc : Text) : Bool :=
  netloc.contains '[' == netloc.contains ']' &&
    (!netloc.contains '[' || py.checkBracketed netloc) && py.checknetloc netloc

/-- What is in the brackets, or else before the port. -/
def withoutPort (hostinfo : Text) : Text :=
  match hostinfo.dropWhile (· != '[') with
  | [] => hostinfo.takeWhile (· != ':')
  | _ :: bracketed => bracketed.takeWhile (· != ']')

/-- The first item of `_hostinfo`, of what is after the last at sign. -/
def hostinfo (netloc : Text) : Text := withoutPort (netloc.rtakeWhile (· != '@'))

/-- The lower case of a host name, but for the zone of an address. -/
def lowerHost (host : Text) : Text :=
  py.lower (host.takeWhile (· != '%')) ++ host.dropWhile (· != '%')

/-- `hostname`; the empty text stands for `None`. -/
def hostname (netloc : Text) : Text :=
  if hostinfo netloc = [] then [] else py.lowerHost (hostinfo netloc)

/-- **The scheme and the host name of `urlparse`**; `none` is a `ValueError`. -/
def urlparse (url : String) : Option (String × Option String) :=
  let split := splitScheme (clean url.toList)
  if py.admits (netloc split.2) then
    some (String.ofList split.1,
      if py.hostname (netloc split.2) = [] then none
      else some (String.ofList (py.hostname (netloc split.2))))
  else none

variable {py} {s t : Text} {c d : Char}

/-! ### Host names -/

/-- A character of ASCII that is no letter. -/
def IsMark (c : Char) : Prop := c.toNat < 128 ∧ c.isAlpha = false

/-- **Marks are not brought in by lower case.** -/
theorem mem_of_mem_lowerHost (hc : IsMark c) (h : c ∈ py.lowerHost s) : c ∈ s := by
  rcases List.mem_append.mp h with hlower | hzone
  · exact (List.takeWhile_sublist _).subset (py.mem_of_mem_lower _ _ hlower hc.1 hc.2)
  · exact (List.dropWhile_sublist _).subset hzone

theorem lowerHost_lowerHost (s : Text) : py.lowerHost (py.lowerHost s) = py.lowerHost s := by
  have hall : ∀ c ∈ py.lower (s.takeWhile (· != '%')), (c != '%') = true := by
    intro c hc
    rw [bne_iff_ne]
    rintro rfl
    have hmem := py.mem_of_mem_lower _ _ hc (by decide) (by decide)
    simpa using List.mem_takeWhile_imp hmem
  have htake : (s.dropWhile (· != '%')).takeWhile (· != '%') = [] := by
    rw [List.takeWhile_eq_nil_iff]
    intro hlen
    have hhead := List.dropWhile_get_zero_not (· != '%') s hlen
    simpa using hhead
  have hdrop : (s.dropWhile (· != '%')).dropWhile (· != '%') = s.dropWhile (· != '%') :=
    List.dropWhile_idempotent _ _
  rw [lowerHost, lowerHost, List.takeWhile_append_of_pos hall, List.dropWhile_append_of_pos hall,
    htake, hdrop, List.append_nil, py.lower_lower]

theorem mem_of_mem_withoutPort (h : c ∈ withoutPort s) : c ∈ s := by
  unfold withoutPort at h
  split at h
  · exact (List.takeWhile_sublist _).subset h
  next b bracketed hb =>
    refine (List.dropWhile_sublist (· != '[')).subset ?_
    rw [hb]
    exact List.mem_cons_of_mem _ ((List.takeWhile_sublist _).subset h)

/-- What the host name is made of is in the netloc, and none of it is an at sign. -/
theorem mem_of_mem_hostinfo (h : c ∈ hostinfo s) : c ∈ s ∧ c ≠ '@' := by
  have hsub : c ∈ s.rtakeWhile (· != '@') := mem_of_mem_withoutPort h
  refine ⟨(List.rtakeWhile_suffix _ _).subset hsub, ?_⟩
  simpa using List.mem_rtakeWhile_imp hsub

/-- **What a host name is not made of**: with brackets a closing one, and without them an opening
one. -/
theorem brackets_hostinfo (s : Text) : ']' ∉ hostinfo s ∨ '[' ∉ hostinfo s := by
  unfold hostinfo withoutPort
  split
  next hnone =>
    refine .inr fun hopen => ?_
    have hmem := (List.takeWhile_sublist _).subset hopen
    simpa using List.dropWhile_eq_nil_iff.mp hnone _ hmem
  next => exact .inl fun hclose => by simpa using List.mem_takeWhile_imp hclose

/-- Without an opening bracket the host name is what is before the port. -/
theorem withoutPort_of_notMem (h : '[' ∉ s) : withoutPort s = s.takeWhile (· != ':') := by
  have hdrop : s.dropWhile (· != '[') = [] := by
    rw [List.dropWhile_eq_nil_iff]
    intro c hc
    rw [bne_iff_ne]
    rintro rfl
    exact h hc
  rw [withoutPort, hdrop]

theorem colon_hostinfo (h : '[' ∉ s) : ':' ∉ hostinfo s := by
  rw [hostinfo, withoutPort_of_notMem fun hopen => h ((List.rtakeWhile_suffix _ _).subset hopen)]
  exact fun hcolon => by simpa using List.mem_takeWhile_imp hcolon

/-- **A host name is a plain one** if there is neither a colon nor a bracket in it. -/
def PlainHost (host : Text) : Prop := ':' ∉ host ∧ '[' ∉ host ∧ ']' ∉ host

instance : Decidable (PlainHost s) := inferInstanceAs (Decidable (_ ∧ _ ∧ _))

theorem hostinfo_of_plainHost (h : PlainHost s) (hat : '@' ∉ s) : hostinfo s = s := by
  have hend : s.rtakeWhile (· != '@') = s := by
    rw [List.rtakeWhile_eq_self_iff]
    intro c hc
    rw [bne_iff_ne]
    rintro rfl
    exact hat hc
  rw [hostinfo, hend, withoutPort_of_notMem h.2.1, List.takeWhile_eq_self_iff]
  intro c hc
  rw [bne_iff_ne]
  rintro rfl
  exact h.1 hc

/-! ### Putting a scheme and a host together -/

theorem schemeChar_toLower (c : Char) : schemeChar c.toLower = schemeChar c := by
  by_cases h : c.isUpper = true
  · have halpha : c.isAlpha = true := by simp [Char.isAlpha, h]
    simp [schemeChar, Char.isAlphanum, halpha]
  · rw [Char.toLower_eq_of_not_isUpper h]

/-- A scheme is one in lower case, too. -/
theorem isScheme_toLower (h : isScheme s = true) : isScheme (s.map Char.toLower) = true := by
  rw [isScheme, Bool.and_eq_true] at h ⊢
  refine ⟨?_, ?_⟩
  · cases s with
    | nil => exact absurd h.1 (by simp)
    | cons c s => simpa using h.1
  · rw [List.all_map, List.all_eq_true]
    intro c hc
    exact (schemeChar_toLower c).trans (List.all_eq_true.mp h.2 c hc)

/-- **A scheme in lower case**, as `urlparse` returns one. -/
def IsLowerScheme (scheme : Text) : Prop :=
  isScheme scheme = true ∧ scheme.map Char.toLower = scheme

theorem splitScheme_scheme (s : Text) :
    (splitScheme s).1 = [] ∨ IsLowerScheme (splitScheme s).1 := by
  unfold splitScheme
  split
  · exact .inl rfl
  · split_ifs with h
    · exact .inr ⟨isScheme_toLower h, by simp [Function.comp_def]⟩
    · exact .inl rfl

theorem lt_toNat_of_isAlpha (h : c.isAlpha = true) : 32 < c.toNat := by
  simp only [Char.isAlpha, Char.isUpper, Char.isLower, Bool.or_eq_true, Bool.and_eq_true,
    decide_eq_true_eq, ge_iff_le, UInt32.le_iff_toNat_le] at h
  rcases h with h | h <;> exact lt_of_lt_of_le (by decide) h.1

theorem ne_of_isScheme (hs : isScheme s = true) (hc : c ∈ s) (hd : schemeChar d = false) :
    c ≠ d := by
  rintro rfl
  rw [isScheme, Bool.and_eq_true] at hs
  rw [List.all_eq_true.mp hs.2 c hc] at hd
  cases hd

/-- What ends a netloc, and what is taken out of a text before it is split. -/
def IsBoundary (c : Char) : Prop := c ∈ ['/', '?', '#', '\t', '\r', '\n']

/-- A text that begins with a scheme, and has nothing in it that is taken out, is clean. -/
theorem clean_of_isScheme (hs : isScheme s = true) (ht : ∀ c ∈ t, c ∉ ['\t', '\r', '\n']) :
    clean (s ++ t) = s ++ t := by
  have hhead : (s ++ t).dropWhile (fun c => c.toNat ≤ 32) = s ++ t := by
    cases s with
    | nil => simp [isScheme] at hs
    | cons c s =>
      rw [isScheme, Bool.and_eq_true] at hs
      have hc : ¬c.toNat ≤ 32 := not_le.mpr (lt_toNat_of_isAlpha (by simpa using hs.1))
      rw [List.cons_append, List.dropWhile_cons_of_neg (by simpa using hc)]
  rw [clean, hhead, List.filter_eq_self]
  intro c hc
  rcases List.mem_append.mp hc with hscheme | hrest
  · have hne : c ∉ ['\t', '\r', '\n'] := by
      intro hmem
      have hspecial : schemeChar c = false := by
        simp only [List.mem_cons, List.not_mem_nil, or_false] at hmem
        rcases hmem with rfl | rfl | rfl <;> decide
      exact ne_of_isScheme hs hscheme hspecial rfl
    simpa using hne
  · simpa using ht c hrest

/-- A scheme is split off again. -/
theorem splitScheme_append (hs : IsLowerScheme s) (t : Text) :
    splitScheme (s ++ ':' :: t) = (s, t) := by
  have hall : ∀ c ∈ s, (c != ':') = true := fun c hc =>
    bne_iff_ne.mpr (ne_of_isScheme hs.1 hc (by decide))
  have htake : (s ++ ':' :: t).takeWhile (· != ':') = s := by
    rw [List.takeWhile_append_of_pos hall, List.takeWhile_cons_of_neg (by simp), List.append_nil]
  have hdrop : (s ++ ':' :: t).dropWhile (· != ':') = ':' :: t := by
    rw [List.dropWhile_append_of_pos hall, List.dropWhile_cons_of_neg (by simp)]
  unfold splitScheme
  rw [hdrop, htake]
  dsimp only
  rw [if_pos hs.1, hs.2]

/-- The netloc is what is between two slashes and the next. -/
theorem netloc_append (h : ∀ c ∈ s, ¬IsBoundary c) (t : Text) :
    netloc ('/' :: '/' :: (s ++ '/' :: t)) = s := by
  have hall : ∀ c ∈ s, (decide ¬(['/', '?', '#'].contains c) = true) = true := by
    intro c hc
    have hc := h c hc
    simp only [IsBoundary, List.mem_cons, List.not_mem_nil, or_false, not_or] at hc
    simp [hc]
  rw [netloc, List.takeWhile_append_of_pos (by simpa using hall)]
  simp

variable (py) in
/-- **What `urlparse` makes of a scheme and a host** that are put together. -/
theorem urlparse_join (hs : IsLowerScheme s) (ht : ∀ c ∈ t, ¬IsBoundary c) :
    py.urlparse (String.ofList (s ++ (':' :: '/' :: '/' :: (t ++ "/***".toList)))) =
      if py.admits t then
        some (String.ofList s,
          if py.hostname t = [] then none else some (String.ofList (py.hostname t)))
      else none := by
  have hclean : clean (s ++ (':' :: '/' :: '/' :: (t ++ "/***".toList))) =
      s ++ (':' :: '/' :: '/' :: (t ++ "/***".toList)) := by
    refine clean_of_isScheme hs.1 fun c hc hmem => ?_
    have hc : c ∈ [':', '/', '/'] ++ (t ++ "/***".toList) := hc
    rcases List.mem_append.mp hc with hc | hc
    · simp only [List.mem_cons, List.not_mem_nil, or_false] at hc
      rcases hc with rfl | rfl | rfl <;> exact absurd hmem (by decide)
    rcases List.mem_append.mp hc with hc | hc
    · exact ht c hc (List.mem_append_right ['/', '?', '#'] hmem)
    · have hc : c ∈ ['/', '*', '*', '*'] := hc
      simp only [List.mem_cons, List.not_mem_nil, or_false] at hc
      rcases hc with rfl | rfl | rfl | rfl <;> exact absurd hmem (by decide)
  rw [urlparse, String.toList_ofList, hclean, splitScheme_append hs]
  have hnetloc : netloc ('/' :: '/' :: (t ++ "/***".toList)) = t := netloc_append ht _
  rw [hnetloc]

/-! ### Parsing what has been parsed -/

theorem netloc_subset (s : Text) : netloc s ⊆ s := by
  unfold netloc
  split
  next rest =>
    intro c hc
    exact List.mem_cons_of_mem _ (List.mem_cons_of_mem _ ((List.takeWhile_sublist _).subset hc))
  · exact List.nil_subset _

theorem splitScheme_subset (s : Text) : (splitScheme s).2 ⊆ s := by
  unfold splitScheme
  split
  · exact List.Subset.refl _
  next b rest hrest =>
    have hsub : rest ⊆ s := fun c hc =>
      (List.dropWhile_sublist (· != ':')).subset (by rw [hrest]; exact List.mem_cons_of_mem _ hc)
    split_ifs
    · exact hsub
    · exact List.Subset.refl _

/-- **Nothing that ends a netloc is in one.** -/
theorem not_isBoundary_of_mem_netloc {url : Text} (h : c ∈ netloc (splitScheme (clean url)).2) :
    ¬IsBoundary c := by
  have hclean : c ∈ clean url := splitScheme_subset _ (netloc_subset _ h)
  have htaken : c ∉ ['\t', '\r', '\n'] := by simpa using (List.mem_filter.mp hclean).2
  have hend : c ∉ ['/', '?', '#'] := by
    unfold netloc at h
    split at h
    · simpa using List.mem_takeWhile_imp h
    · exact absurd h List.not_mem_nil
  intro hboundary
  have hboundary : c ∈ ['/', '?', '#'] ++ ['\t', '\r', '\n'] := hboundary
  exact (List.mem_append.mp hboundary).elim hend htaken

variable (py) in
/-- **What `urlparse` can come to**: an error, no host, or the host name of a netloc that is
admitted and has no boundary in it. -/
theorem urlparse_cases (url : String) :
    py.urlparse url = none ∨ (∃ scheme, py.urlparse url = some (scheme, none)) ∨
      ∃ scheme netloc, (scheme = [] ∨ IsLowerScheme scheme) ∧ (∀ c ∈ netloc, ¬IsBoundary c) ∧
        py.admits netloc = true ∧ py.hostname netloc ≠ [] ∧
          py.urlparse url =
            some (String.ofList scheme, some (String.ofList (py.hostname netloc))) := by
  have hbound : ∀ c ∈ netloc (splitScheme (clean url.toList)).2, ¬IsBoundary c :=
    fun _ => not_isBoundary_of_mem_netloc
  unfold urlparse
  dsimp only
  split_ifs with hadmits hempty
  · exact .inr (.inl ⟨_, rfl⟩)
  · exact .inr (.inr ⟨_, _, splitScheme_scheme _, hbound, hadmits, hempty, rfl⟩)
  · exact .inl rfl

theorem isMark_of_isBoundary (h : IsBoundary c) : IsMark c := by
  simp only [IsBoundary, List.mem_cons, List.not_mem_nil, or_false] at h
  rcases h with rfl | rfl | rfl | rfl | rfl | rfl <;> exact ⟨by decide, by decide⟩

/-- The marks in a host name are in the netloc, and none of them is an at sign. -/
theorem mem_of_mem_hostname (hc : IsMark c) (h : c ∈ py.hostname s) : c ∈ hostinfo s := by
  rw [hostname] at h
  split_ifs at h
  · exact absurd h List.not_mem_nil
  · exact mem_of_mem_lowerHost hc h

theorem lowerHost_hostname (h : py.hostname s ≠ []) :
    py.lowerHost (py.hostname s) = py.hostname s := by
  rw [hostname] at h ⊢
  split_ifs at h ⊢
  · exact absurd rfl h
  · exact lowerHost_lowerHost _

theorem toNat_toLower_lt (h : c.toNat < 128) : c.toLower.toNat < 128 := by
  by_cases hupper : c.isUpper = true
  · have hlower : c.toLower.isLower = true := by
      rw [Char.isLower_toLower_eq_isAlpha, Char.isAlpha, hupper, Bool.true_or]
    simp only [Char.isLower, Bool.and_eq_true, decide_eq_true_eq, UInt32.le_iff_toNat_le] at hlower
    exact lt_of_le_of_lt hlower.2 (by decide)
  · rwa [Char.toLower_eq_of_not_isUpper hupper]

/-- A host name is of ASCII if the netloc is. -/
theorem ascii_hostname (h : ∀ c ∈ s, c.toNat < 128) : ∀ c ∈ py.hostname s, c.toNat < 128 := by
  intro c hc
  rw [hostname] at hc
  split_ifs at hc
  · exact absurd hc List.not_mem_nil
  have hinfo : ∀ c ∈ hostinfo s, c.toNat < 128 := fun c hc => h c (mem_of_mem_hostinfo hc).1
  rcases List.mem_append.mp hc with hlower | hzone
  · rw [py.lower_ascii _ fun c hc => hinfo c ((List.takeWhile_sublist _).subset hc)] at hlower
    obtain ⟨c', hc', rfl⟩ := List.mem_map.mp hlower
    exact toNat_toLower_lt (hinfo c' ((List.takeWhile_sublist _).subset hc'))
  · exact hinfo c ((List.dropWhile_sublist _).subset hzone)

/-- A character with a delimiter in it is in a host name only if it is in the netloc. -/
theorem mem_of_nfkc (hd : d ∈ urlDelimiters) (hc : c ∈ py.hostname s) (h : d ∈ py.nfkc [c]) :
    c ∈ s := by
  rw [hostname] at hc
  split_ifs at hc
  · exact absurd hc List.not_mem_nil
  refine (mem_of_mem_hostinfo ?_).1
  rcases List.mem_append.mp hc with hlower | hzone
  · exact (List.takeWhile_sublist _).subset (py.nfkc_lower _ d hd c hlower h)
  · exact (List.dropWhile_sublist _).subset hzone

/-- **The host name of a netloc that `_checknetloc` lets through is let through.** -/
theorem checknetloc_hostname (hs : ∀ c ∈ s, ¬IsBoundary c) (h : py.checknetloc s = true) :
    py.checknetloc (py.hostname s) = true := by
  by_cases hascii : ∀ c ∈ s, c.toNat < 128
  · have hall : (py.hostname s).all (fun c => c.toNat < 128) = true := by
      rw [List.all_eq_true]
      intro c hc
      exact decide_eq_true (ascii_hostname hascii c hc)
    rw [checknetloc, hall, Bool.true_or, Bool.true_or]
  · have hnone : ∀ d ∈ py.nfkc (s.filter fun c => ¬['@', ':', '#', '?'].contains c),
        d ∉ urlDelimiters := by
      intro d hd
      simp only [checknetloc, Bool.or_eq_true] at h
      rcases h with (hall | hsame) | hnone
      · exact absurd (fun c hc => of_decide_eq_true (List.all_eq_true.mp hall c hc)) hascii
      · -- the text is its own compatibility form, and the delimiters have been taken out of it
        rw [← beq_iff_eq.mp hsame] at hd
        obtain ⟨hmem, hkept⟩ := List.mem_filter.mp hd
        have hslash : d ≠ '/' := by
          rintro rfl
          exact hs _ hmem List.mem_cons_self
        simp only [List.contains_iff_mem, List.mem_cons, List.not_mem_nil, or_false,
          decide_eq_true_eq, not_or] at hkept
        simp [urlDelimiters, hslash, hkept]
      · simpa using List.all_eq_true.mp hnone d hd
    have hall : ((py.nfkc ((py.hostname s).filter fun c => ¬['@', ':', '#', '?'].contains c)).all
        fun c => ¬urlDelimiters.contains c) = true := by
      rw [List.all_eq_true]
      intro d hd
      simp only [List.contains_iff_mem, decide_eq_true_eq]
      intro hdelimiter
      obtain ⟨c, hc, hcd⟩ := (py.nfkc_delimiter _ d hdelimiter).mp hd
      obtain ⟨hhost, hkept⟩ := List.mem_filter.mp hc
      refine hnone d ((py.nfkc_delimiter _ d hdelimiter).mpr ⟨c, ?_, hcd⟩) hdelimiter
      exact List.mem_filter.mpr ⟨mem_of_nfkc hdelimiter hhost hcd, hkept⟩
    rw [checknetloc, hall, Bool.or_true]

/-- **A host name that has been parsed is parsed to itself** exactly if it is a plain one. -/
theorem hostname_stable_iff (hs : ∀ c ∈ s, ¬IsBoundary c) (hadmits : py.admits s = true)
    (hne : py.hostname s ≠ []) :
    (py.admits (py.hostname s) = true ∧ py.hostname (py.hostname s) = py.hostname s) ↔
      PlainHost (py.hostname s) := by
  constructor
  · rintro ⟨hagain, hsame⟩
    have hbrackets : '[' ∈ py.hostname s ↔ ']' ∈ py.hostname s := by
      simp only [admits, Bool.and_eq_true, beq_iff_eq] at hagain
      rw [← List.contains_iff_mem, ← List.contains_iff_mem, hagain.1.1]
    have hclose : ']' ∉ py.hostname s := by
      intro hmem
      rcases brackets_hostinfo (py.hostname s) with hnone | hnone
      · exact hnone (mem_of_mem_hostname ⟨by decide, by decide⟩ (by rwa [hsame]))
      · exact hnone (mem_of_mem_hostname ⟨by decide, by decide⟩
          (by rwa [hsame, hbrackets]))
    have hopen : '[' ∉ py.hostname s := fun hmem => hclose (hbrackets.mp hmem)
    exact ⟨fun hmem => colon_hostinfo hopen
      (mem_of_mem_hostname ⟨by decide, by decide⟩ (by rwa [hsame])), hopen, hclose⟩
  · intro hplain
    have hat : '@' ∉ py.hostname s := fun hmem =>
      (mem_of_mem_hostinfo (mem_of_mem_hostname ⟨by decide, by decide⟩ hmem)).2 rfl
    refine ⟨?_, ?_⟩
    · have hcheck : py.checknetloc s = true := by
        simp only [admits, Bool.and_eq_true] at hadmits
        exact hadmits.2
      simp [admits, hplain.2.1, hplain.2.2, checknetloc_hostname hs hcheck]
    · have hinfo : hostinfo (py.hostname s) = py.hostname s := hostinfo_of_plainHost hplain hat
      rw [hostname, hinfo, if_neg hne, lowerHost_hostname hne]

/-! ### ASCII -/

theorem mem_of_mem_map_toLower (hc : c ∈ s.map Char.toLower) (hmark : c.isAlpha = false) :
    c ∈ s := by
  obtain ⟨c', hc', rfl⟩ := List.mem_map.mp hc
  rw [Char.isAlpha_toLower_eq_isAlpha] at hmark
  have hupper : ¬c'.isUpper = true := fun h => by simp [Char.isAlpha, h] at hmark
  rwa [Char.toLower_eq_of_not_isUpper hupper]

/-- The operations that know no character but ASCII, and no address but that of the local host. -/
def ascii : PyUrl where
  toPyText := .ascii
  nfkc s := s
  checkBracketed netloc := withoutPort netloc == "::1".toList
  lower_lower s := by simp [PyText.ascii, Function.comp_def]
  mem_of_mem_lower s c hc _ hmark := mem_of_mem_map_toLower hc hmark
  nfkc_delimiter s d _ := by simp
  nfkc_ascii c _ := rfl
  nfkc_lower s d hd c hc hdc := by
    obtain rfl := List.mem_singleton.mp hdc
    refine mem_of_mem_map_toLower hc ?_
    simp only [urlDelimiters, List.mem_cons, List.not_mem_nil, or_false] at hd
    rcases hd with rfl | rfl | rfl | rfl | rfl <;> decide

end PyUrl

end CveManagement
