import CveManagement.Governance.Schema
import CveManagement.Payload.Python

/-!
# The version matcher

`app/resolution/version_matcher.py`: versions and how they compare, the fields of a CPE,
version ranges, and the verdict whether a CVE affects a product. Whatever reads a payload
can raise, since a payload can have any shape; a function that raises for one entry of a
CVE raises for the CVE only if the entry is reached.
-/

namespace CveManagement

variable (py : PyText)

/-! ### Versions -/

/-- `VersionComponent`. -/
structure VersionComponent where
  n : ℤ
  pre : Option Text
  patch : Option Text
  deriving DecidableEq

/-- The number of a component's leading digits; `int` refuses too many. -/
def leadingNumber (ds : Text) : Except PyError ℤ :=
  if ds.length ≤ PyText.maxStrDigits then .ok (py.digitsValue ds) else .error .valueError

/-- `^(\d+)(-[a-z].*)$`: what follows the digits is a pre-release. -/
def isPreRelease : Text → Bool
  | '-' :: c :: s => isLower c && !s.contains '\n'
  | _ => false

/-- `^(\d+)([a-z]+\d*)$`: what follows the digits is a patch letter. -/
def isPatch (s : Text) : Bool :=
  !(s.takeWhile isLower).isEmpty && (s.dropWhile isLower).all py.isDigit

/-- `_parse_component`. -/
def parseComponent (part : Text) : Except PyError VersionComponent :=
  let p := py.strip (py.lower part)
  let digits := p.takeWhile py.isDigit
  let rest := p.dropWhile py.isDigit
  if !digits.isEmpty && isPreRelease rest then do
    return ⟨← leadingNumber py digits, some rest, none⟩
  else if !digits.isEmpty && isPatch py rest then do
    return ⟨← leadingNumber py digits, none, some rest⟩
  else match py.int p with
    | some n => .ok ⟨n, none, none⟩
    | none => .ok ⟨0, some ('-' :: p), none⟩

/-- `_parse_version`; `none` is a version that is not known. -/
def parseVersion (v : Text) : Except PyError (Option (List VersionComponent)) :=
  if v.isEmpty then .ok none
  else
    let s := py.lower (py.strip v)
    if ["*".toList, "-".toList, [], "n/a".toList, "none".toList].contains s then .ok none
    else do return some (← (s.splitOn '.').mapM (parseComponent py))

/-- `_type`: a pre-release sorts below, a patch above. -/
def VersionComponent.type (c : VersionComponent) : ℕ :=
  if c.pre.isSome then 0 else if c.patch.isSome then 2 else 1

/-- `_compare_components`. -/
def compareComponents (ca cb : VersionComponent) : ℤ :=
  if ca.n ≠ cb.n then if ca.n > cb.n then 1 else -1
  else if ca.type ≠ cb.type then if ca.type > cb.type then 1 else -1
  else
    let sa := (ca.pre <|> ca.patch).getD []
    let sb := (cb.pre <|> cb.patch).getD []
    if sa = sb then 0 else if sb < sa then 1 else -1

/-- The loop of `compare_versions`: the first difference, where a list that has ended goes
on with zeros. -/
def compareLists (pa pb : List VersionComponent) : ℤ :=
  let zero : VersionComponent := ⟨0, none, none⟩
  let differences := pa.zipWithAll (fun ca cb => compareComponents (ca.getD zero) (cb.getD zero)) pb
  (differences.find? (· ≠ 0)).getD 0

/-- `compare_versions`. -/
def compareVersions (a b : Text) : Except PyError ℤ := do
  match ← parseVersion py a, ← parseVersion py b with
  | some pa, some pb => return compareLists pa pb
  | _, _ => return 0

/-! ### CPE names -/

/-- `extract_cpe_version`. -/
def extractCpeVersion (cpe : Text) : Option Text := cpe.splitColon[5]?

/-- `parse_cpe_vendor_product`, as the pair that its callers split it into. -/
def parseCpeVendorProduct (cpe : Text) : Option (Text × Text) :=
  match cpe.splitColon with
  | _ :: _ :: _ :: vendor :: product :: _ => some (vendor, product)
  | _ => none

/-- `[a-z0-9_.\-]`. -/
def isSlugChar (c : Char) : Bool := isLower c || c.isDigit || c == '_' || c == '.' || c == '-'

/-- `normalise_slug`. -/
def normaliseSlug (s : Text) : Text :=
  ((py.strip (py.lower s)).map fun c => if c = ' ' then '_' else c).filter isSlugChar

/-! ### Version ranges -/

/-- The value is `None` or otherwise false, and so no bound. -/
def bound (j : Json) : Option Json := if j.truthy then some j else none

/-- Whether the installed version is on the wrong side of a bound. -/
def violates (installed : Text) (b : Option Json) (wrong : ℤ → Bool) : Except PyError Bool :=
  match b with
  | none => .ok false
  | some j => do
    -- the installed version is parsed, and can raise, before the bound is touched
    let _ ← parseVersion py installed
    return wrong (← compareVersions py installed (← j.text))

/-- `is_version_in_range`. -/
def isVersionInRange (installedVersion : Text) (entry : Json) : Except PyError Bool :=
  let installed := py.strip installedVersion
  if installed.isEmpty || installed == ['*'] then .ok true
  else do
    let startInc := bound ((← entry.get "versionStartIncluding").or (← entry.get "versionStart"))
    let startExc := bound (← entry.get "versionStartExcluding")
    let endInc := bound (← entry.get "versionEndIncluding")
    let endExc := bound ((← entry.get "versionEndExcluding").or (← entry.get "versionEnd"))
    if startInc.isNone && startExc.isNone && endInc.isNone && endExc.isNone then
      -- no range: the version field of the CPE itself
      let name := (← entry.get "criteria").or (← entry.get "cpe")
      let cpeVersion ← if name.truthy then extractCpeVersion <$> name.text else pure none
      match cpeVersion with
      | none => return true
      | some v =>
        if v.isEmpty || v == ['*'] || v == ['-'] then return true
        else return (← compareVersions py installed v) == 0
    else if ← violates py installed startInc (· < 0) then return false
    else if ← violates py installed startExc (· ≤ 0) then return false
    else if ← violates py installed endInc (0 < ·) then return false
    else return !(← violates py installed endExc (0 ≤ ·))

/-! ### Products and CVEs -/

/-- A column of text, as the code uses it after `or ""`. -/
def columnText (c : Option String) : Text := (c.getD "").toList

/-- Strategy 2: the slugs of name and vendor occur in the fields, or the other way. -/
def slugsMatch (product : Product) (vendor prod : Text) : Bool :=
  let name := normaliseSlug py product.name.toList
  let normVendor := normaliseSlug py (columnText product.vendor)
  (name == prod || name.isIn prod || prod.isIn name) &&
    (normVendor.isEmpty || normVendor == vendor || normVendor.isIn vendor || vendor.isIn normVendor)

/-- `_product_matches_cpe_vendor_product`; `products` has no column `cpe_keyword`. -/
def productMatchesCpe (product : Product) (cpe : Text) : Bool :=
  match parseCpeVendorProduct cpe with
  | none => false
  | some (vendor, prod) =>
    let keyword := py.lower (columnText product.normalizedCpe)
    match if keyword.startsWith "cpe:".toList then parseCpeVendorProduct keyword else none with
    | some (pVendor, pProd) => pVendor == vendor && pProd == prod
    | none => slugsMatch py product vendor prod

/-- `MatchResult`. -/
structure MatchResult where
  affected : Bool
  confidence : Confidence
  reason : String
  deriving DecidableEq

/-- `cpe_entry.get("criteria") or cpe_entry.get("cpe") or ""`, as a text. -/
def cpeName (entry : Json) : Except PyError Text := do
  let name := (← entry.get "criteria").or (← entry.get "cpe")
  if name.truthy then name.text else return []

/-- What the loop does with one entry: whether it names the product, and whether the
version is in its range. -/
inductive EntryVerdict
  | other
  | outOfRange
  | inRange (name : Text)
  deriving DecidableEq

/-- One round of the loop of `is_cve_affecting_product`. -/
def judgeEntry (product : Product) (installed : Text) (entry : Json) :
    Except PyError EntryVerdict := do
  let name ← cpeName entry
  if !productMatchesCpe py product name then return .other
  else if ← isVersionInRange py installed entry then return .inRange name
  else return .outOfRange

/-- The loop of `is_cve_affecting_product`; `found` says that an entry named the product. -/
def judgeEntries (product : Product) (installed : Text) :
    Bool → List Json → Except PyError MatchResult
  | found, [] => .ok <|
    if found then
      ⟨false, .certain, "version_outside_all_ranges:" ++ String.ofList installed⟩
    else ⟨true, .uncertain, "no_cpe_vendor_product_match"⟩
  | found, entry :: rest => do
    match ← judgeEntry py product installed entry with
    | .other => judgeEntries product installed found rest
    | .outOfRange => judgeEntries product installed true rest
    | .inRange name => return ⟨true, .certain, "version_in_range:" ++ String.ofList name⟩

/-- `is_cve_affecting_product`. -/
def isCveAffectingProduct (product : Product) (affectedCpes : List Json) :
    Except PyError MatchResult :=
  if affectedCpes.isEmpty then .ok ⟨true, .uncertain, "no_cpe_data"⟩
  else judgeEntries py product (py.strip (columnText product.version)) false affectedCpes

/-! ### Flattening the configurations -/

/-- The entries of a node: its own, and those of its children. -/
def nodeCpes (node : Json) : Except PyError (List Json) := do
  let own ← (← node.get "cpeMatch").iterOr
  let children ← (← node.get "children").iterOr
  let nested ← children.mapM fun child => do (← child.get "cpeMatch").iterOr
  return own ++ nested.flatten

/-- The entries of a configuration. -/
def configCpes (config : Json) : Except PyError (List Json) := do
  let nodes ← (← config.get "nodes").iterOr
  return (← nodes.mapM nodeCpes).flatten

/-- `extract_affected_cpes`. -/
def extractAffectedCpes (rawPayload : Json) : Except PyError (List Json) := do
  let configs ← (← rawPayload.get "configurations").iterOr
  return (← configs.mapM configCpes).flatten

/-! ### One round of the loop -/

/-- **What a round says of an entry**: its name cannot be read, it is that of another product, or
the range decides. -/
theorem judgeEntry_spec (py : PyText) (product : Product) (installed : Text) (entry : Json) :
    (∃ e, cpeName entry = .error e ∧ judgeEntry py product installed entry = .error e) ∨
      ∃ name, cpeName entry = .ok name ∧
        (productMatchesCpe py product name = false ∧
            judgeEntry py product installed entry = .ok .other ∨
          productMatchesCpe py product name = true ∧ judgeEntry py product installed entry =
            (isVersionInRange py installed entry).map fun inRange =>
              if inRange then .inRange name else .outOfRange) := by
  unfold judgeEntry
  cases cpeName entry with
  | error e => exact .inl ⟨e, rfl, rfl⟩
  | ok name =>
    refine .inr ⟨name, rfl, ?_⟩
    simp only [bind, Except.bind]
    cases productMatchesCpe py product name with
    | false => exact .inl ⟨rfl, rfl⟩
    | true =>
      refine .inr ⟨rfl, ?_⟩
      rcases isVersionInRange py installed entry with e | _ | _ <;> rfl

end CveManagement
