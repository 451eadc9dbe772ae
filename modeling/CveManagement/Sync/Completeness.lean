import CveManagement.Sync.Platforms

/-!
# What the prefilter loses

The pattern of `_CANDIDATES_SQL` and the matcher are two notions of a CPE name being about a
product. The prefilter loses no finding if every CVE of which the matcher would be certain is a
candidate (`CveManagement.PrefilterComplete`). It need not be: the matcher takes a name whose
fields *contain* the slugs of the product, or are contained in them, looks into the children of a
node and reads a legacy key, while the pattern wants the slugs themselves, in the `criteria` of an
entry directly under a node.

Of the entry that the matcher stops at, the fields are known to match. This settles what the
pattern makes of them (`CveManagement.mem_language_searchFields_iff`): a field that contains the
slug, or is contained in it, fits it only as the slug itself; and a product that is compared by its
own CPE name asks nothing of the entry any more, but of its name, which the matcher reads in lower
case and the pattern as it is, escapes included.

`CveManagement.prefilterComplete_iff` is the exact condition, for any payload and for the flat
ones that were intended.
-/

namespace CveManagement

/-- **The prefilter does not lose the CVE for the product.** -/
def PrefilterComplete (py : PyText) (cf : CaseFold) (product : Product) (rawPayload : Json) :
    Prop :=
  ∀ cpes r, extractAffectedCpes rawPayload = .ok cpes →
    isCveAffectingProduct py product cpes = .ok r → r.affected = true → r.confidence = .certain →
      isCandidate cf (buildSearchPattern py product) rawPayload = true

/-! ### Where the two agree on the fields -/

/-- Strategy 1: the fields of the product's own CPE name, in lower case. -/
def ownFields (py : PyText) (product : Product) : Option (Text × Text) :=
  let keyword := py.lower (columnText product.normalizedCpe)
  if keyword.startsWith "cpe:".toList then parseCpeVendorProduct keyword else none

/-- **Pattern and matcher agree on the fields of a name that matches the product.** Compared by
the product's own CPE name, they do if its fields in lower case fit the fields as they are;
compared by the slugs, if the fields are the slugs. -/
def AgreeOn (py : PyText) (cf : CaseFold) (product : Product) (vendor prod : Text) : Prop :=
  match ownFields py product with
  | some (pVendor, pProd) =>
    pVendor ∈ Like.language cf.fold (Like.tokens (searchFields py product).1) ∧
      pProd ∈ Like.language cf.fold (Like.tokens (searchFields py product).2)
  | none =>
    match parseCpeVendorProduct (columnText product.normalizedCpe) with
    | some (cVendor, cProd) =>
      vendor ∈ Like.language cf.fold (Like.tokens cVendor) ∧
        prod ∈ Like.language cf.fold (Like.tokens cProd)
    | none =>
      prod = normaliseSlug py product.name.toList ∧
        (normaliseSlug py (columnText product.vendor) = [] ∨
          vendor = normaliseSlug py (columnText product.vendor))

/-- **The product has a plain CPE name of its own**, in lower case and with no escape in its
fields. -/
def PlainName (py : PyText) (product : Product) : Prop :=
  ∃ cpe fields, product.normalizedCpe = some cpe ∧ py.lower cpe.toList = cpe.toList ∧
    Text.startsWith cpe.toList "cpe:".toList = true ∧
    parseCpeVendorProduct cpe.toList = some fields ∧ '\\' ∉ fields.1 ∧ '\\' ∉ fields.2

section Fields

variable {py : PyText} {cf : CaseFold} {product : Product} {vendor prod name : Text}

/-- A slug means itself in a pattern, its underscores apart. -/
theorem not_special_of_mem_slug {s : Text} {c : Char} (hc : c ∈ normaliseSlug py s) :
    c ≠ '\\' ∧ c ≠ '%' := by
  have hslug : isSlugChar c = true := List.of_mem_filter hc
  constructor <;>
  · rintro rfl
    exact absurd hslug (by decide)

/-- **A name that matches by the slugs fits them only if it has them as its fields.** -/
theorem mem_language_slug_iff (h : slugsMatch py product vendor prod = true) :
    prod ∈ Like.language cf.fold (Like.tokens (normaliseSlug py product.name.toList)) ↔
      prod = normaliseSlug py product.name.toList := by
  refine Like.mem_language_iff_of_infix (fun c => not_special_of_mem_slug) ?_
  rw [slugsMatch, Bool.and_eq_true, Bool.or_eq_true, Bool.or_eq_true, beq_iff_eq] at h
  rcases h.1 with (heq | hin) | hin
  · exact .inl (heq ▸ List.infix_rfl)
  · exact .inl (of_decide_eq_true hin)
  · exact .inr (of_decide_eq_true hin)

/-- The same of the vendor, if the product has one. -/
theorem mem_language_vendorSlug_iff (h : slugsMatch py product vendor prod = true)
    (hne : normaliseSlug py (columnText product.vendor) ≠ []) :
    vendor ∈ Like.language cf.fold (Like.tokens (normaliseSlug py (columnText product.vendor))) ↔
      vendor = normaliseSlug py (columnText product.vendor) := by
  refine Like.mem_language_iff_of_infix (fun c => not_special_of_mem_slug) ?_
  have hslugs := (Bool.and_eq_true_iff.mp h).2
  rw [Bool.or_eq_true, Bool.or_eq_true, Bool.or_eq_true, List.isEmpty_iff, beq_iff_eq] at hslugs
  rcases hslugs with ((hempty | heq) | hin) | hin
  · exact absurd hempty hne
  · exact .inl (heq ▸ List.infix_rfl)
  · exact .inl (of_decide_eq_true hin)
  · exact .inr (of_decide_eq_true hin)

/-- The matcher, by its strategy. -/
theorem productMatchesCpe_eq (hname : parseCpeVendorProduct name = some (vendor, prod)) :
    productMatchesCpe py product name =
      match ownFields py product with
      | some (pVendor, pProd) => pVendor == vendor && pProd == prod
      | none => slugsMatch py product vendor prod := by
  rw [productMatchesCpe, hname]
  rfl

/-- **Of a name that matches the product, the fields fit those of the pattern exactly where
pattern and matcher agree.** -/
theorem mem_language_searchFields_iff (hname : parseCpeVendorProduct name = some (vendor, prod))
    (h : productMatchesCpe py product name = true) :
    (vendor ∈ Like.language cf.fold (Like.tokens (searchFields py product).1) ∧
        prod ∈ Like.language cf.fold (Like.tokens (searchFields py product).2)) ↔
      AgreeOn py cf product vendor prod := by
  rw [productMatchesCpe_eq hname] at h
  rw [AgreeOn]
  cases hown : ownFields py product with
  | some own =>
    -- the fields of the name are those of the product
    simp only [hown, Bool.and_eq_true, beq_iff_eq] at h
    rw [← h.1, ← h.2]
  | none =>
    simp only [hown] at h
    rw [searchFields]
    cases hcpe : parseCpeVendorProduct (columnText product.normalizedCpe) with
    | some fields => exact Iff.rfl
    | none =>
      simp only
      by_cases hvendor : normaliseSlug py (columnText product.vendor) = []
      · have hany : vendor ∈ Like.language cf.fold (Like.tokens "%".toList) :=
          Like.mem_language_any.mpr ⟨vendor, [], (List.append_nil vendor).symm,
            Language.nil_mem_one⟩
        rw [if_pos (List.isEmpty_iff.mpr hvendor), mem_language_slug_iff h]
        exact ⟨fun hfits => ⟨hfits.2, .inl hvendor⟩, fun hfits => ⟨hany, hfits.1⟩⟩
      · rw [if_neg fun hempty => hvendor (List.isEmpty_iff.mp hempty), mem_language_slug_iff h,
          mem_language_vendorSlug_iff h hvendor, or_iff_right hvendor, and_comm]

/-- **A product compared by a plain CPE name of its own is agreed on**, whatever the entry. -/
theorem agreeOn_of_plainName (h : PlainName py product) : AgreeOn py cf product vendor prod := by
  obtain ⟨cpe, fields, hcpe, hlower, hstart, hfields, hvendor, hprod⟩ := h
  have hcolumn : columnText product.normalizedCpe = cpe.toList := by rw [hcpe]; rfl
  have hown : ownFields py product = some fields := by
    rw [ownFields, hcolumn, hlower, hfields]
    exact if_pos hstart
  have hsearch : searchFields py product = fields := by
    rw [searchFields, hcolumn, hfields]
  rw [AgreeOn, hown, hsearch]
  exact ⟨Like.mem_language_of_fold hvendor rfl, Like.mem_language_of_fold hprod rfl⟩

end Fields

/-! ### Where a name has its fields -/

/-- **The text is a CPE 2.3 name with the two fields**, and with something behind them. -/
def HasFields (cf : CaseFold) (t vendor prod : Text) : Prop :=
  ∃ start version kind rest, t.splitColon = start :: version :: kind :: vendor :: prod :: rest ∧
    rest ≠ [] ∧ "cpe".toList.map cf.fold = start.map cf.fold ∧
    "2.3".toList.map cf.fold = version.map cf.fold

/-- **The text spells the fields further on**: one of the parts that `%` and `_` stand for, or that
the fields are read from, has a colon in it. -/
def SpellsAcross (cf : CaseFold) (fields : Text × Text) (t : Text) : Prop :=
  ∃ start kind vendor prod rest,
    t = start ++ (kind ++ ':' :: (vendor ++ ':' :: (prod ++ ':' :: rest))) ∧
    "cpe:2.3:".toList.map cf.fold = start.map cf.fold ∧
    vendor ∈ Like.language cf.fold (Like.tokens fields.1) ∧
    prod ∈ Like.language cf.fold (Like.tokens fields.2) ∧ (':' ∈ kind ∨ ':' ∈ vendor ∨ ':' ∈ prod)

section Names

variable {cf : CaseFold} {fields : Text × Text} {t vendor prod : Text}

theorem map_fold_colon_cons {s t : Text} (h : (':' :: s).map cf.fold = t.map cf.fold) :
    ∃ rest, t = ':' :: rest ∧ s.map cf.fold = rest.map cf.fold := by
  cases t with
  | nil => cases h
  | cons c rest =>
    obtain ⟨hc, hrest⟩ := List.cons.inj h
    exact ⟨rest, by rw [cf.eq_colon c hc], hrest⟩

/-- What is like `cpe:2.3:` has its colons where that has them. -/
theorem map_fold_start_iff {start : Text} :
    "cpe:2.3:".toList.map cf.fold = start.map cf.fold ↔
      ∃ c n, start = c ++ ':' :: (n ++ [':']) ∧ "cpe".toList.map cf.fold = c.map cf.fold ∧
        "2.3".toList.map cf.fold = n.map cf.fold := by
  have hsplit : "cpe:2.3:".toList = "cpe".toList ++ ':' :: ("2.3".toList ++ [':']) := by decide
  rw [hsplit]
  constructor
  · intro h
    rw [List.map_append] at h
    obtain ⟨c, behind, rfl, hc, hbehind⟩ := List.map_eq_append_iff.mp h.symm
    obtain ⟨rest, rfl, hrest⟩ := map_fold_colon_cons hbehind.symm
    rw [List.map_append] at hrest
    obtain ⟨n, last, rfl, hn, hlast⟩ := List.map_eq_append_iff.mp hrest.symm
    obtain ⟨final, rfl, hfinal⟩ := map_fold_colon_cons hlast.symm
    obtain rfl := List.map_eq_nil_iff.mp hfinal.symm
    exact ⟨c, n, rfl, hc.symm, hn.symm⟩
  · rintro ⟨c, n, rfl, hc, hn⟩
    simp only [List.map_append, List.map_cons, hc, hn]

/-- What is like a text without colons has none. -/
theorem colon_not_mem_of_map_fold {s t : Text} (hs : ':' ∉ s)
    (h : s.map cf.fold = t.map cf.fold) : ':' ∉ t := by
  intro ht
  have hmem : cf.fold ':' ∈ s.map cf.fold := h ▸ List.mem_map_of_mem ht
  obtain ⟨c, hc, hfold⟩ := List.mem_map.mp hmem
  exact hs (cf.eq_colon c hfold.symm ▸ hc)

/-- A text cut at its first colon. -/
theorem splitColon_eq_cons_iff {s a b : Text} {l : List Text} :
    s.splitColon = a :: b :: l ↔
      ∃ rest : Text, s = a ++ ':' :: rest ∧ ':' ∉ a ∧ rest.splitColon = b :: l := by
  constructor
  · intro h
    by_cases hcolon : ':' ∈ s
    · obtain ⟨a', rest, rfl, ha'⟩ := List.eq_append_cons_of_mem hcolon
      rw [Text.splitColon, List.splitOn_append_cons_self_of_not_mem ha'] at h
      obtain ⟨rfl, hrest⟩ := List.cons.inj h
      exact ⟨rest, rfl, ha', hrest⟩
    · rw [Text.splitColon, List.splitOn_eq_singleton hcolon] at h
      cases h
  · rintro ⟨rest, rfl, ha, hrest⟩
    rw [Text.splitColon, List.splitOn_append_cons_self_of_not_mem ha]
    exact congrArg (a :: ·) hrest

/-- **A name has its fields where the pattern looks for them first**: behind the kind, none of
the three with a colon in it. -/
theorem hasFields_iff :
    HasFields cf t vendor prod ↔ ∃ start kind rest,
      t = start ++ (kind ++ ':' :: (vendor ++ ':' :: (prod ++ ':' :: rest))) ∧
        "cpe:2.3:".toList.map cf.fold = start.map cf.fold ∧ ':' ∉ kind ∧ ':' ∉ vendor ∧
          ':' ∉ prod := by
  constructor
  · rintro ⟨c, n, kind, rest, hsplit, hne, hc, hn⟩
    obtain ⟨b, l, rfl⟩ := List.exists_cons_of_ne_nil hne
    obtain ⟨t₁, rfl, -, hsplit⟩ := splitColon_eq_cons_iff.mp hsplit
    obtain ⟨t₂, rfl, -, hsplit⟩ := splitColon_eq_cons_iff.mp hsplit
    obtain ⟨t₃, rfl, hkind, hsplit⟩ := splitColon_eq_cons_iff.mp hsplit
    obtain ⟨t₄, rfl, hvendor, hsplit⟩ := splitColon_eq_cons_iff.mp hsplit
    obtain ⟨t₅, rfl, hprod, -⟩ := splitColon_eq_cons_iff.mp hsplit
    refine ⟨c ++ ':' :: (n ++ [':']), kind, t₅, ?_, map_fold_start_iff.mpr ⟨c, n, rfl, hc, hn⟩,
      hkind, hvendor, hprod⟩
    simp only [List.append_assoc, List.cons_append, List.nil_append]
  · rintro ⟨start, kind, rest, rfl, hstart, hkind, hvendor, hprod⟩
    obtain ⟨c, n, rfl, hc, hn⟩ := map_fold_start_iff.mp hstart
    have hrest : Text.splitColon rest ≠ [] := List.splitOn_ne_nil ':' rest
    obtain ⟨b, l, hbl⟩ := List.exists_cons_of_ne_nil hrest
    refine ⟨c, n, kind, b :: l, ?_, List.cons_ne_nil b l, hc, hn⟩
    simp only [List.append_assoc, List.cons_append, List.nil_append]
    refine splitColon_eq_cons_iff.mpr ⟨_, rfl, colon_not_mem_of_map_fold (by decide) hc, ?_⟩
    refine splitColon_eq_cons_iff.mpr ⟨_, rfl, colon_not_mem_of_map_fold (by decide) hn, ?_⟩
    refine splitColon_eq_cons_iff.mpr ⟨_, rfl, hkind, ?_⟩
    refine splitColon_eq_cons_iff.mpr ⟨_, rfl, hvendor, ?_⟩
    exact splitColon_eq_cons_iff.mpr ⟨rest, rfl, hprod, hbl⟩

/-- **A text spells two fields as its own, or further on.** -/
theorem spells_iff :
    Spells cf fields t ↔ (∃ vendor prod, HasFields cf t vendor prod ∧
      vendor ∈ Like.language cf.fold (Like.tokens fields.1) ∧
        prod ∈ Like.language cf.fold (Like.tokens fields.2)) ∨ SpellsAcross cf fields t := by
  constructor
  · rintro ⟨start, kind, vendor, prod, rest, ht, hstart, hvendor, hprod⟩
    by_cases hcolon : ':' ∈ kind ∨ ':' ∈ vendor ∨ ':' ∈ prod
    · exact .inr ⟨start, kind, vendor, prod, rest, ht, hstart, hvendor, hprod, hcolon⟩
    · rw [not_or, not_or] at hcolon
      exact .inl ⟨vendor, prod, hasFields_iff.mpr ⟨start, kind, rest, ht, hstart, hcolon⟩,
        hvendor, hprod⟩
  · rintro (⟨vendor, prod, hfields, hvendor, hprod⟩ | ⟨start, kind, vendor, prod, rest, ht,
      hstart, hvendor, hprod, -⟩)
    · obtain ⟨start, kind, rest, ht, hstart, -⟩ := hasFields_iff.mp hfields
      exact ⟨start, kind, vendor, prod, rest, ht, hstart, hvendor, hprod⟩
    · exact ⟨start, kind, vendor, prod, rest, ht, hstart, hvendor, hprod⟩

/-- The matcher reads the same fields. -/
theorem HasFields.parseCpeVendorProduct (h : HasFields cf t vendor prod) :
    parseCpeVendorProduct t = some (vendor, prod) := by
  obtain ⟨start, version, kind, rest, hsplit, -⟩ := h
  rw [CveManagement.parseCpeVendorProduct, hsplit]

end Names

/-! ### When the prefilter is complete -/

section Prefilter

variable (py : PyText) (cf : CaseFold) (product : Product) (rawPayload entry : Json)

/-- **The entry decides**: the matcher goes past those before it, and it fits. -/
def Deciding : Prop :=
  ∃ before after, extractAffectedCpes rawPayload = .ok (before ++ entry :: after) ∧
    (∀ e ∈ before, MatchesOther py product e ∨
      MatchesProduct py product e ∧ OutOfRange py product e) ∧ Fits py product entry

/-- **The query sees what the matcher goes by**: the entry, directly under a node, with its fields
in a CPE 2.3 name under `criteria`. -/
def ShowsFields (vendor prod : Text) : Prop :=
  entry ∈ (visibleEntries rawPayload).items ∧
    ∃ t, criteriaText entry = some t ∧ HasFields cf t vendor prod

/-- **Another name fits the pattern**: that of another entry, whose fields fit those of the
product, or one in which they are spelled further on. -/
def FitsElsewhere : Prop :=
  ∃ m ∈ (visibleEntries rawPayload).items, ∃ t, criteriaText m = some t ∧
    (SpellsAcross cf (searchFields py product) t ∨ m ≠ entry ∧
      ∃ vendor prod, HasFields cf t vendor prod ∧
        vendor ∈ Like.language cf.fold (Like.tokens (searchFields py product).1) ∧
          prod ∈ Like.language cf.fold (Like.tokens (searchFields py product).2))

/-- An entry with a CPE name of at least six fields. -/
def WellNamed (m : Json) : Prop :=
  ∃ t vendor prod, criteriaText m = some t ∧ HasFields cf t vendor prod

end Prefilter

section Complete

variable {py : PyText} {cf : CaseFold} {product : Product} {rawPayload entry : Json}

/-- The name of an entry is its `criteria`, if that is not empty. -/
theorem cpeName_of_criteriaText {m : Json} {t : Text} (h : criteriaText m = some t)
    (hne : t ≠ []) : cpeName m = .ok t := by
  cases m with
  | obj members =>
    rw [criteriaText] at h
    split at h
    · rename_i s hs
      obtain rfl := Option.some.inj h
      have hs' : s ≠ "" := fun hcon => hne (by rw [hcon]; rfl)
      have htruthy : (Json.str s).truthy = true := by rw [Json.truthy, bne_iff_ne]; exact hs'
      rw [cpeName, Json.get_of_arrow hs]
      simp only [Json.get, bind, Except.bind, Json.or, htruthy, if_true]
      rfl
    · cases h
  | _ => cases h

/-- Of an entry that fits the product, the fields fit those of the pattern where the two agree. -/
theorem mem_language_iff_of_fits (hfits : Fits py product entry) {t vendor prod : Text}
    (ht : criteriaText entry = some t) (hfields : HasFields cf t vendor prod) :
    (vendor ∈ Like.language cf.fold (Like.tokens (searchFields py product).1) ∧
        prod ∈ Like.language cf.fold (Like.tokens (searchFields py product).2)) ↔
      AgreeOn py cf product vendor prod := by
  obtain ⟨⟨name, hname, hmatch⟩, -⟩ := hfits
  have hne : t ≠ [] := by
    rintro rfl
    cases hfields.parseCpeVendorProduct
  obtain rfl := Except.ok.inj ((cpeName_of_criteriaText ht hne).symm.trans hname)
  exact mem_language_searchFields_iff hfields.parseCpeVendorProduct hmatch

/-- **A CVE with an entry that decides is a candidate exactly if the query sees the fields of that
entry and the pattern agrees on them, or another name fits.** -/
theorem isCandidate_iff_of_fits (hfits : Fits py product entry) :
    isCandidate cf (buildSearchPattern py product) rawPayload = true ↔
      (∃ vendor prod, ShowsFields cf rawPayload entry vendor prod ∧
        AgreeOn py cf product vendor prod) ∨ FitsElsewhere py cf product rawPayload entry := by
  rw [isCandidate_iff]
  constructor
  · rintro ⟨m, hm, t, ht, hspells⟩
    rcases spells_iff.mp hspells with ⟨vendor, prod, hfields, hlanguage⟩ | hacross
    · by_cases hentry : m = entry
      · subst hentry
        exact .inl ⟨vendor, prod, ⟨hm, t, ht, hfields⟩,
          (mem_language_iff_of_fits hfits ht hfields).mp hlanguage⟩
      · exact .inr ⟨m, hm, t, ht, .inr ⟨hentry, vendor, prod, hfields, hlanguage⟩⟩
    · exact .inr ⟨m, hm, t, ht, .inl hacross⟩
  · rintro (⟨vendor, prod, ⟨hm, t, ht, hfields⟩, hagree⟩ | ⟨m, hm, t, ht, hspells⟩)
    · exact ⟨entry, hm, t, ht, spells_iff.mpr (.inl ⟨vendor, prod, hfields,
        (mem_language_iff_of_fits hfits ht hfields).mpr hagree⟩)⟩
    · refine ⟨m, hm, t, ht, spells_iff.mpr ?_⟩
      rcases hspells with hacross | ⟨-, hfields⟩
      · exact .inr hacross
      · exact .inl hfields

/-- The prefilter loses a CVE only by what it makes of the entry that decides. -/
theorem prefilterComplete_iff_deciding :
    PrefilterComplete py cf product rawPayload ↔ ∀ entry, Deciding py product rawPayload entry →
      isCandidate cf (buildSearchPattern py product) rawPayload = true := by
  constructor
  · rintro h entry ⟨before, after, hcpes, hbefore, hfits⟩
    obtain ⟨r, hr, haffected, hcertain⟩ :=
      certain_iff_fits.mpr ⟨before, entry, after, rfl, hbefore, hfits⟩
    exact h _ r hcpes hr haffected hcertain
  · intro h cpes r hcpes hr haffected hcertain
    obtain ⟨before, entry, after, rfl, hbefore, hfits⟩ :=
      certain_iff_fits.mp ⟨r, hr, haffected, hcertain⟩
    exact h entry ⟨before, after, hcpes, hbefore, hfits⟩

/-- In a flat payload whose entries are named in full, the query sees the fields of every entry. -/
theorem showsFields_of_flat (hflat : Flat rawPayload)
    (hnamed : ∀ m ∈ (visibleEntries rawPayload).items, WellNamed cf m)
    (h : Deciding py product rawPayload entry) :
    ∃ vendor prod, ShowsFields cf rawPayload entry vendor prod := by
  obtain ⟨before, after, hcpes, -⟩ := h
  have hvisible : entry ∈ (visibleEntries rawPayload).items := by
    rw [← mem_visibleEntries_of_flat hflat hcpes]
    exact List.mem_append_right before List.mem_cons_self
  obtain ⟨t, vendor, prod, ht, hfields⟩ := hnamed entry hvisible
  exact ⟨vendor, prod, hvisible, t, ht, hfields⟩

/-- **The prefilter keeps a CVE exactly when the query sees the fields of the entry that decides,
directly under a node and in full, and pattern and matcher agree on them – or when another name
fits.** That is so of every flat payload with its entries named in full, for a product with a plain
CPE name of its own: the case that was intended. -/
theorem prefilterComplete_iff :
    (PrefilterComplete py cf product rawPayload ↔
      ∀ entry, Deciding py product rawPayload entry →
        (∃ vendor prod, ShowsFields cf rawPayload entry vendor prod ∧
          AgreeOn py cf product vendor prod) ∨ FitsElsewhere py cf product rawPayload entry) ∧
      (PlainName py product → Flat rawPayload →
        (∀ m ∈ (visibleEntries rawPayload).items, WellNamed cf m) →
          PrefilterComplete py cf product rawPayload) := by
  have hiff : PrefilterComplete py cf product rawPayload ↔
      ∀ entry, Deciding py product rawPayload entry →
        (∃ vendor prod, ShowsFields cf rawPayload entry vendor prod ∧
          AgreeOn py cf product vendor prod) ∨ FitsElsewhere py cf product rawPayload entry := by
    rw [prefilterComplete_iff_deciding]
    refine forall₂_congr fun entry hdeciding => ?_
    obtain ⟨before, after, -, -, hfits⟩ := hdeciding
    exact isCandidate_iff_of_fits hfits
  refine ⟨hiff, fun hplain hflat hnamed => hiff.mpr fun entry hdeciding => .inl ?_⟩
  obtain ⟨vendor, prod, hshows⟩ := showsFields_of_flat hflat hnamed hdeciding
  exact ⟨vendor, prod, hshows, agreeOn_of_plainName hplain⟩

end Complete

/-! ### One payload and two products -/

/-- A payload with one entry, in the name of OpenSSL. -/
def Json.openSsl : Json :=
  .ofEntries [.ofCriteria "cpe:2.3:a:openssl:openssl:1.0.1:*:*:*:*:*:*:*"]

theorem hasFields_openSsl : HasFields .ascii
    "cpe:2.3:a:openssl:openssl:1.0.1:*:*:*:*:*:*:*".toList "openssl".toList "openssl".toList :=
  ⟨_, _, _, _, rfl, List.cons_ne_nil _ _, rfl, rfl⟩

/-- With a CPE name of its own the product keeps the CVE. -/
theorem prefilterComplete_iff_openSsl : PrefilterComplete .ascii .ascii
    { Product.openSsl with normalizedCpe := some "cpe:2.3:a:openssl:openssl:1.0.1" } .openSsl := by
  refine prefilterComplete_iff.2 ⟨_, ("openssl".toList, "openssl".toList), rfl, by decide +kernel,
    by decide, rfl, by decide, by decide⟩ ?_ ?_
  · refine ⟨_, rfl, List.forall_mem_singleton.mpr ⟨_, rfl, List.forall_mem_singleton.mpr ?_⟩⟩
    exact ⟨rfl, _, rfl, fun _ _ => trivial⟩
  · have hitems : (visibleEntries .openSsl).items =
        [.ofCriteria "cpe:2.3:a:openssl:openssl:1.0.1:*:*:*:*:*:*:*"] := rfl
    rw [hitems, List.forall_mem_singleton]
    exact ⟨_, _, _, rfl, hasFields_openSsl⟩

/-- **The prefilter loses CVEs of which the matcher is certain**: the vendor of the CPE name
occurs in the slug `openssl_project`, which the pattern wants in full. -/
theorem not_prefilterComplete_openSsl : ¬PrefilterComplete .ascii .ascii .openSsl .openSsl := by
  intro h
  have hjudge : isCveAffectingProduct .ascii .openSsl
      [.ofCriteria "cpe:2.3:a:openssl:openssl:1.0.1:*:*:*:*:*:*:*"] = .ok ⟨true, .certain,
        "version_in_range:cpe:2.3:a:openssl:openssl:1.0.1:*:*:*:*:*:*:*"⟩ := by
    decide +kernel
  have hcandidate : isCandidate .ascii (buildSearchPattern .ascii .openSsl) .openSsl = false := by
    decide +kernel
  have hselected := h _ _ rfl hjudge rfl rfl
  rw [hcandidate] at hselected
  cases hselected

end CveManagement
