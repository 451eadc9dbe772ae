import CveManagement.Library.Trajectory
import CveManagement.Query.CirclCache
import CveManagement.Sync.Deleted
import Mathlib

/-!
# What the cache of CIRCL is taken for

A function that finds its key takes the value for one of its own, and the keys do not say who has
written them: `fetch_and_store` and `circl_search` have the same key for a vendor and a product,
and `circl_products` has the one of a search for the vendor `products`. As the type of a value is
that of who has written its key last (`CveManagement.CirclState.Attributed`), a run goes well
exactly if nobody finds what another function has written, except for an empty list, and of its
own values nobody finds one that it cannot use
(`CveManagement.CirclState.throughout_agrees_iff`).
-/

namespace CveManagement

open Trajectory

/-! ### Using a value -/

section Using

variable {s : System} {cveIds : List String}

/-- Texts go into `cve_id` as they are. -/
theorem mapM_cveIdArgument (cveIds : List String) :
    (cveIds.map Json.str).mapM cveIdArgument = .ok cveIds := by
  induction cveIds with
  | nil => rfl
  | cons c cveIds ih =>
    rw [List.map_cons, List.mapM_cons, ih]
    rfl

/-- **Ids that are in the mirror are linked.** -/
theorem CirclClient.upsertFindingsOnly_of_forall (now : Instant) (productId : ℕ)
    (h : ∀ c ∈ cveIds, (s.cves.get? c).isSome) :
    CirclClient.upsertFindingsOnly now productId (cveIds.map .str) s =
      .ok (s.storeCircl now productId (.cached cveIds)) := by
  unfold CirclClient.upsertFindingsOnly
  cases cveIds with
  | nil => rfl
  | cons c cveIds =>
    have hall : ((c :: cveIds).all fun c => (s.cves.get? c).isSome) = true :=
      List.all_eq_true.mpr h
    rw [if_neg (by simp), mapM_cveIdArgument]
    dsimp only [bind, Except.bind]
    rw [if_pos hall]
    rfl

/-- **One that is not violates the foreign key.** -/
theorem CirclClient.upsertFindingsOnly_of_not_forall (now : Instant) (productId : ℕ)
    (h : ¬∀ c ∈ cveIds, (s.cves.get? c).isSome) :
    CirclClient.upsertFindingsOnly now productId (cveIds.map .str) s =
      .error .foreignKeyViolation := by
  unfold CirclClient.upsertFindingsOnly
  cases cveIds with
  | nil => exact absurd (fun c hc => absurd hc List.not_mem_nil) h
  | cons c cveIds =>
    have hall : ¬((c :: cveIds).all fun c => (s.cves.get? c).isSome) = true :=
      fun hall => h (List.all_eq_true.mp hall)
    rw [if_neg (by simp), mapM_cveIdArgument]
    dsimp only [bind, Except.bind]
    rw [if_neg hall]

/-- **The item is one that `circl_search` can list**: an object whose score, if it has an id, is
not too large for a `float`, and whose date is a text or counts as false. -/
def Json.Listable : Json → Prop
  | .obj members =>
    ((Json.member? "id" members).getD .null).truthy = true →
      ¬(((Json.member? "cvss" members).getD .null).or
        ((Json.member? "cvss3" members).getD .null)).TooLarge ∧
      (((Json.member? "Published" members).getD .null).truthy = false ∨
        ∃ text, (Json.member? "Published" members).getD .null = .str text)
  | _ => False

theorem circlParseDt_ok_iff (py : PyParse) {date : Json} :
    (∃ r, circlParseDt py date = .ok r) ↔ date.truthy = false ∨ ∃ text, date = .str text := by
  unfold circlParseDt
  cases hdate : date.truthy with
  | false => exact iff_of_true ⟨none, rfl⟩ (.inl rfl)
  | true =>
    cases date with
    | str text => exact iff_of_true ⟨_, rfl⟩ (.inr ⟨text, rfl⟩)
    | _ => simp [Json.text, bind, Except.bind]

theorem scoreOf_ok_iff (py : PyParse) {score : Json} :
    (∃ r, py.scoreOf score = .ok r) ↔ ¬score.TooLarge := by
  rcases py.scoreOf_cases score with ⟨hlarge, hscore⟩ | ⟨hlarge, hscore⟩
  · rw [hscore]
    exact iff_of_false (fun ⟨r, hr⟩ => by cases hr) (not_not.mpr hlarge)
  · exact iff_of_true ⟨_, hscore⟩ hlarge

theorem normaliseListed_ok_iff (py : PyParse) {item : Json} :
    (∃ r, normaliseListed py item = .ok r) ↔ item.Listable := by
  cases item with
  | obj members =>
    rw [Json.Listable]
    cases hid : ((Json.member? "id" members).getD .null).truthy with
    | false =>
      refine iff_of_true ⟨none, ?_⟩ fun h => absurd h (by decide)
      simp [normaliseListed, Json.get, hid, bind, Except.bind, pure, Except.pure]
    | true =>
      -- with an id, the score and the date are all that can raise
      rw [imp_iff_right rfl, ← circlParseDt_ok_iff py, ← scoreOf_ok_iff py]
      cases hscore : py.scoreOf (((Json.member? "cvss" members).getD .null).or
          ((Json.member? "cvss3" members).getD .null)) with
      | error e =>
        refine iff_of_false ?_ (by simp)
        simp [normaliseListed, normaliseItem, Json.get, hid, hscore, bind, Except.bind,
          Functor.map, Except.map]
      | ok score =>
        cases hdt : circlParseDt py ((Json.member? "Published" members).getD .null) with
        | ok pub =>
          refine iff_of_true ?_ ⟨⟨score, rfl⟩, pub, rfl⟩
          simp [normaliseListed, normaliseItem, Json.get, Json.getOr, hid, hscore, hdt, bind,
            Except.bind, pure, Except.pure, Functor.map, Except.map]
        | error e =>
          refine iff_of_false ?_ (by simp)
          simp [normaliseListed, normaliseItem, Json.get, hid, hscore, hdt, bind, Except.bind,
            Functor.map, Except.map]
  | _ => simp [normaliseListed, Json.get, Json.Listable, bind, Except.bind]

/-- **`circl_search` lists items exactly if it can list each of them.** -/
theorem normalised_ok_iff (py : PyParse) {allItems : List Json} :
    (∃ r, normalised py allItems = .ok r) ↔ ∀ item ∈ allItems, item.Listable := by
  rw [← forall₂_congr fun item _ => normaliseListed_ok_iff py, ← mapM_ok_iff]
  unfold normalised
  cases allItems.mapM (normaliseListed py) with
  | error e => simp [bind, Except.bind]
  | ok listed => simp [bind, Except.bind, pure, Except.pure]

end Using

namespace CirclState

variable {py : PyParse} {text : PyText} {s : CirclState} {key : Text} {value : CirclValue}

/-! ### What an event does to the cache -/

theorem cached_setex : (s.setex key value).cached key = some value := by
  refine Expiring.Store.get?_set ?_
  simp [setex, circlCacheTtl, seconds]

theorem cached_setex_of_ne {key' : Text} (h : key' ≠ key) :
    (s.setex key value).cached key' = s.cached key' :=
  Expiring.Store.get?_set_of_ne h

end CirclState

/-! ### Who writes what -/

section Writers

variable {value : CirclValue}

theorem CirclValue.writtenBy_eq_fetchAndStore :
    value.writtenBy = .fetchAndStore ↔ ∃ cveIds, value = .ids cveIds := by
  cases value <;> simp [writtenBy]

theorem CirclValue.writtenBy_eq_circlSearch :
    value.writtenBy = .circlSearch ↔ ∃ allItems, value = .items allItems := by
  cases value <;> simp [writtenBy]

theorem CirclValue.writtenBy_eq_circlProducts :
    value.writtenBy = .circlProducts ↔ ∃ products, value = .names products := by
  cases value <;> simp [writtenBy]

end Writers

/-- Who makes a call, and the key it looks for. -/
def CirclEvent.lookup (text : PyText) : CirclEvent → Option (CirclFunction × Text)
  | .fetchAndStore _ normalizedCpe _ =>
    (parseCpeVendorProduct normalizedCpe).map fun vp => (.fetchAndStore, circlCacheKey vp.1 vp.2)
  | .circlSearch vendor product _ =>
    some (.circlSearch, circlCacheKey (text.lower vendor) (text.lower product))
  | .circlProducts vendor _ =>
    some (.circlProducts, circlCacheKey "products".toList (text.lower vendor))
  | _ => none

/-- **The function can use a value of its own**: ids have to be in the mirror, and items such as
it can list. -/
def CirclValue.Usable (system : System) : CirclValue → Prop
  | .ids cveIds => ∀ c ∈ cveIds, (system.cves.get? c).isSome
  | .items allItems => ∀ item ∈ allItems, item.Listable
  | .names _ => True

namespace CirclState

variable {py : PyParse} {text : PyText} {s : CirclState}

/-- **What an event does to the cache**: nothing, or one `setex`. -/
theorem redis_step_cases (py : PyParse) (text : PyText) (s : CirclState) (e : CirclEvent) :
    (s.step py text e).redis = s.redis ∧ (s.step py text e).writer = s.writer ∧
        s.now ≤ (s.step py text e).now ∨
      ∃ key value, (s.step py text e).redis = (s.setex key value).redis ∧
        (s.step py text e).writer = (s.setex key value).writer ∧
        (s.step py text e).now = s.now := by
  cases e with
  | tick elapsed => exact .inl ⟨rfl, rfl, by simp [step]⟩
  | others system => exact .inl ⟨rfl, rfl, le_rfl⟩
  | fetchAndStore productId normalizedCpe pages =>
    simp only [step, CirclClient.fetchAndStore]
    split
    · exact .inl ⟨rfl, rfl, le_rfl⟩
    split
    · split <;> exact .inl ⟨rfl, rfl, le_rfl⟩
    split
    · exact .inl ⟨rfl, rfl, le_rfl⟩
    split
    · exact .inl ⟨rfl, rfl, le_rfl⟩
    split
    · exact .inr ⟨_, _, rfl, rfl, rfl⟩
    · exact .inl ⟨rfl, rfl, le_rfl⟩
  | circlSearch vendor product fetched =>
    simp only [step, CveManagement.circlSearch]
    split
    · exact .inl ⟨rfl, rfl, le_rfl⟩
    · exact .inr ⟨_, _, rfl, rfl, rfl⟩
  | circlProducts vendor browsed =>
    simp only [step, CveManagement.circlProducts]
    split
    · exact .inl ⟨rfl, rfl, le_rfl⟩
    · exact .inr ⟨_, _, rfl, rfl, rfl⟩

/-- **The types are those of the writers.** -/
def Attributed (s : CirclState) : Prop :=
  ∀ key value, s.cached key = some value → s.writer key = some value.writtenBy

theorem attributed_start (now : Instant) (system : System) : (start now system).Attributed :=
  fun _ _ h => absurd h (Option.some_ne_none _).symm

/-- **Every event keeps the types with the writers.** -/
theorem attributed_step (e : CirclEvent) (h : s.Attributed) : (s.step py text e).Attributed := by
  intro key value hcached
  rcases redis_step_cases py text s e with ⟨hredis, hwriter, hnow⟩ | ⟨k, v, hredis, hwriter, hnow⟩
  · -- a value that is there now was there before
    rw [hwriter]
    refine h key value (Expiring.Store.get?_of_le hnow ?_)
    rw [← hredis]
    exact hcached
  · have hset : (s.setex k v).cached key = some value := by
      unfold cached at hcached ⊢
      rwa [hredis, hnow] at hcached
    rw [hwriter]
    by_cases hk : key = k
    · subst hk
      rw [cached_setex] at hset
      obtain rfl := Option.some.inj hset
      exact Function.update_self ..
    · rw [cached_setex_of_ne hk] at hset
      exact (Function.update_of_ne hk ..).trans (h key value hset)

/-! ### Who finds what -/

/-- **The call finds nothing that it takes for something else**: its key is not there, or lists
nothing, or has been written by the function itself, with a value that it can use now. -/
def Compatible (text : PyText) (s : CirclState) (e : CirclEvent) : Prop :=
  ∀ reader key, e.lookup text = some (reader, key) → ∀ value, s.cached key = some value →
    value.elements = [] ∨ s.writer key = some reader ∧ value.Usable s.system

/-- **Every value found is of the type that its reader writes, and its reader has used it without
an exception.** A list of nothing is of every type. -/
def Agrees (s : CirclState) : Prop :=
  ∀ h ∈ s.hits, (h.value.elements = [] ∨ h.value.writtenBy = h.reader) ∧ h.raised = none

/-- An event that finds no key is no hit. -/
theorem hits_step_of_none (e : CirclEvent)
    (h : ∀ reader key, e.lookup text = some (reader, key) → s.cached key = none) :
    (s.step py text e).hits = s.hits := by
  cases e with
  | tick elapsed => rfl
  | others system => rfl
  | fetchAndStore productId normalizedCpe pages =>
    simp only [step, CirclClient.fetchAndStore]
    split
    · rfl
    · rename_i vendor product hvp
      have hnone : s.cached (circlCacheKey vendor product) = none :=
        h .fetchAndStore _ (by rw [CirclEvent.lookup, hvp, Option.map_some])
      rw [hnone]
      dsimp only
      split
      · rfl
      split
      · rfl
      split <;> rfl
  | circlSearch vendor product fetched =>
    simp only [step, CveManagement.circlSearch, h .circlSearch _ rfl]
    rfl
  | circlProducts vendor browsed =>
    simp only [step, CveManagement.circlProducts, h .circlProducts _ rfl]
    rfl

theorem raisedBy_eq_none_iff {α : Type} {r : Except PyError α} :
    raisedBy r = none ↔ ∃ a, r = .ok a := by
  cases r with
  | ok a => exact iff_of_true rfl ⟨a, rfl⟩
  | error e => exact iff_of_false (by simp [raisedBy]) (by simp)

/-- **An event that finds its key is a hit**: an empty list is used without an exception, and a
value of the function's own exactly if the function can use it. -/
theorem exists_hit_step (py : PyParse) {e : CirclEvent} {reader : CirclFunction} {key : Text}
    {value : CirclValue} (hlookup : e.lookup text = some (reader, key))
    (hcached : s.cached key = some value) :
    ∃ raised, (s.step py text e).hits = s.hits ++ [⟨reader, value, raised⟩] ∧
      (value.elements = [] → raised = none) ∧
      (value.writtenBy = reader → (raised = none ↔ value.Usable s.system)) := by
  cases e with
  | tick elapsed => cases hlookup
  | others system => cases hlookup
  | fetchAndStore productId normalizedCpe pages =>
    obtain ⟨⟨vendor, product⟩, hvp, hkey⟩ := Option.map_eq_some_iff.mp hlookup
    obtain ⟨rfl, rfl⟩ := Prod.mk.inj hkey
    simp only [step, CirclClient.fetchAndStore, hvp, hcached]
    rcases hused : CirclClient.upsertFindingsOnly s.now productId value.elements s.system with
      err | system
    · refine ⟨some err, rfl, fun hempty => ?_, fun hown => iff_of_false (by simp) fun husable => ?_⟩
      · rw [hempty] at hused
        exact absurd hused (by simp [CirclClient.upsertFindingsOnly])
      · obtain ⟨cveIds, rfl⟩ := CirclValue.writtenBy_eq_fetchAndStore.mp hown
        have hok := CirclClient.upsertFindingsOnly_of_forall s.now productId husable
        exact absurd (hok.symm.trans hused) (by simp)
    · refine ⟨none, rfl, fun _ => rfl, fun hown => iff_of_true rfl (by_contra fun hnot => ?_)⟩
      obtain ⟨cveIds, rfl⟩ := CirclValue.writtenBy_eq_fetchAndStore.mp hown
      have hraises := CirclClient.upsertFindingsOnly_of_not_forall s.now productId hnot
      exact absurd (hraises.symm.trans hused) (by simp)
  | circlSearch vendor product fetched =>
    obtain ⟨rfl, rfl⟩ := Prod.mk.inj (Option.some.inj hlookup)
    simp only [step, CveManagement.circlSearch, hcached]
    refine ⟨_, rfl, fun hempty => ?_, fun hown => ?_⟩
    · rw [hempty]
      rfl
    · obtain ⟨allItems, rfl⟩ := CirclValue.writtenBy_eq_circlSearch.mp hown
      exact raisedBy_eq_none_iff.trans (normalised_ok_iff py)
  | circlProducts vendor browsed =>
    obtain ⟨rfl, rfl⟩ := Prod.mk.inj (Option.some.inj hlookup)
    simp only [step, CveManagement.circlProducts, hcached]
    refine ⟨none, rfl, fun _ => rfl, fun hown => iff_of_true rfl ?_⟩
    obtain ⟨products, rfl⟩ := CirclValue.writtenBy_eq_circlProducts.mp hown
    trivial

/-- **One event**: where the types are those of the writers, what is found goes well exactly if
the call is compatible with it. -/
theorem agrees_step_iff (e : CirclEvent) (hJ : s.Attributed) (h : s.Agrees) :
    (s.step py text e).Agrees ↔ s.Compatible text e := by
  by_cases hhit : ∃ reader key value, e.lookup text = some (reader, key) ∧
      s.cached key = some value
  · obtain ⟨reader, key, value, hlookup, hcached⟩ := hhit
    obtain ⟨raised, hhits, hempty, hown⟩ := exists_hit_step py hlookup hcached
    have hwriter : s.writer key = some value.writtenBy := hJ key value hcached
    constructor
    · intro hafter reader' key' hlookup' value' hcached'
      obtain ⟨rfl, rfl⟩ := Prod.mk.inj (Option.some.inj (hlookup.symm.trans hlookup'))
      obtain rfl := Option.some.inj (hcached.symm.trans hcached')
      obtain ⟨htype, hraised⟩ := hafter ⟨reader, value, raised⟩ (by simp [hhits])
      refine htype.imp_right fun htype => ?_
      exact ⟨hwriter.trans (congrArg some htype), (hown htype).mp hraised⟩
    · intro hcomp hit hmem
      rw [hhits, List.mem_append, List.mem_singleton] at hmem
      rcases hmem with hmem | rfl
      · exact h hit hmem
      rcases hcomp reader key hlookup value hcached with hnil | ⟨hw, husable⟩
      · exact ⟨.inl hnil, hempty hnil⟩
      · have htype : value.writtenBy = reader := Option.some.inj (hwriter.symm.trans hw)
        exact ⟨.inr htype, (hown htype).mpr husable⟩
  · have hnone : ∀ reader key, e.lookup text = some (reader, key) → s.cached key = none :=
      fun reader key hl => Option.eq_none_iff_forall_ne_some.mpr fun value hc =>
        hhit ⟨reader, key, value, hl, hc⟩
    refine iff_of_true ?_ fun reader key hl value hc => absurd ⟨reader, key, value, hl, hc⟩ hhit
    intro hit hmem
    rw [hits_step_of_none e hnone] at hmem
    exact h hit hmem

/-- **When the formats of the cache agree**: in a run that starts with an empty cache, every value
found is of the reader's type and used without an exception, exactly if every call is compatible
with what it finds. -/
theorem throughout_agrees_iff (py : PyParse) (text : PyText) (now : Instant) (system : System)
    (l : List CirclEvent) :
    Throughout (step py text) Agrees (start now system) l ↔
      AllSteps (step py text) (Compatible text) (start now system) l :=
  throughout_iff_allSteps (fun _ e => attributed_step e) (fun _ e => agrees_step_iff e)
    (attributed_start now system) fun _ h => absurd h List.not_mem_nil

end CirclState

/-! ### Values of others -/

/-- A CPE. -/
def nginxCpe : Text := "cpe:2.3:a:f5:nginx:1.25.1:*:*:*:*:*:*:*".toList

/-- An item of CIRCL with an id, and nothing else. -/
def bareItem (id : String) : Json := .obj [("id", .str id)]

namespace CirclState

/-- **A search finds the ids that a fallback has left, and the fallback the items of a search**;
and a search for the vendor `products` finds names. -/
theorem not_agrees_shared_keys :
    ¬Throughout (step .none .ascii) Agrees (start 0 .withCpe)
        [.fetchAndStore 1 nginxCpe (.ok [bareItem "CVE-2024-0001"]),
          .circlSearch "F5".toList "nginx".toList none] ∧
      ¬Throughout (step .none .ascii) Agrees (start 0 .withCpe)
        [.circlSearch "F5".toList "nginx".toList (some [bareItem "CVE-2024-0001"]),
          .fetchAndStore 1 nginxCpe (.error .http)] ∧
      ¬Throughout (step .none .ascii) Agrees (start 0 .withCpe)
        [.circlProducts "F5".toList (some ["nginx"]),
          .circlSearch "products".toList "F5".toList none] := by
  refine ⟨fun hrun => ?_, fun hrun => ?_, fun hrun => ?_⟩
  · have hhit := hrun.last ⟨.circlSearch, .ids ["CVE-2024-0001"], some (.python .attributeError)⟩
      (List.mem_singleton.mpr rfl)
    exact absurd hhit.2 (by decide)
  · have hhit := hrun.last ⟨.fetchAndStore, .items [bareItem "CVE-2024-0001"], some .dataError⟩
      (List.mem_singleton.mpr rfl)
    exact absurd hhit.2 (by decide)
  · have hnames : sortedNames ["nginx"] = ["nginx"] := by simp [sortedNames]
    have hhit := hrun.last ⟨.circlSearch, .names (sortedNames ["nginx"]),
      raisedBy (normalised .none ((sortedNames ["nginx"]).map .str))⟩ (List.mem_singleton.mpr rfl)
    rw [hnames] at hhit
    exact absurd hhit.2 (by decide)

end CirclState

end CveManagement
