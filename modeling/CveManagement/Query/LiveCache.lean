import CveManagement.Library.Projection
import CveManagement.Library.ReadThrough
import CveManagement.Payload.Serialize
import CveManagement.Query.LiveSearch
import CveManagement.Sync.Jobs

/-!
# The live searches in Redis

`live_search` of `app/api/routers/live.py` keeps what it has found for two minutes, under a key made
of the parameters for NVD, the page and its length (`CveManagement.LiveQuery.cacheKey`): a reader in
the sense of `ReadThrough`, of NVD. Answers that raise, and those of a search that finds nothing for
its first page, are not kept.

The severity that a request asks for is not one of the parameters: results of another one are left
out of what is kept, but the key is the same. So a request is answered with the results of another
one with the same texts, dates and page, of any severity (`CveManagement.LiveQuery.cacheKey_eq_iff`,
`CveManagement.live_bounded`).
-/

namespace CveManagement

open ReadThrough (Part)
open Trajectory

/-! ### Requests -/

/-- The parameters of a request to `/api/live`. -/
structure LiveQuery where
  q : Option Text
  cpe : Option Text
  id : Option Text
  severity : Option Text
  from_ : Option Text
  to_ : Option Text
  page : ℤ
  limit : ℤ

/-- **What a search calls**: `str.upper`, `_fmt`, and `from_nvd_cve` with `_enrich` on an element of
`vulnerabilities`, at a point in time; `none` is an exception. -/
structure LiveEnv (Item : Type) where
  upper : Text → Text
  fmt : Text → Text
  enrich : Instant → Json → Option Item
  severity : Item → Option Text
  publishedAt : Item → Option Text

/-- A parameter that is there and not empty. -/
def truthy (o : Option Text) : Option Text := o.filter fun s => !s.isEmpty

/-- The parameter for NVD under a name, if it is there. -/
def liveParam (name : String) (f : Text → Text) (o : Option Text) : List (Text × Text) :=
  match truthy o with
  | none => []
  | some s => [(name.toList, f s)]

variable {Item : Type} (env : LiveEnv Item)

namespace LiveQuery

variable (r : LiveQuery)

/-- `bool(q)`. -/
def keyword : Bool := (truthy r.q).isSome

/-- `min(100, max(1, limit))`. -/
def pageLimit : ℕ := (min 100 (max 1 r.limit)).toNat

/-- `max(1, page)`. -/
def pageNumber : ℕ := (max 1 r.page).toNat

/-- Without `q`, `cpe` and `id` a request is answered with 400. -/
def searches : Bool := r.keyword || (truthy r.cpe).isSome || (truthy r.id).isSome

/-- **`base_params`**; dates do not go with `q`. -/
def baseParams : List (Text × Text) :=
  liveParam "keywordSearch" (fun s => s) r.q ++ liveParam "cpeName" (fun s => s) r.cpe ++
    liveParam "cveId" env.upper r.id ++
      if r.keyword then [] else
        liveParam "pubStartDate" env.fmt r.from_ ++ liveParam "pubEndDate" env.fmt r.to_

/-- `json.dumps(base_params, sort_keys=True)`; there are no numbers in it. -/
def paramsText : Text :=
  JsonData.dumps .int [' '] (.dict ((r.baseParams env).map fun e => (e.1, .str e.2)))

/-- **`cache_key`.** -/
def cacheKey : Text :=
  "live:".toList ++ (r.paramsText env ++ (":p".toList ++ (Nat.toDigits 10 r.pageNumber ++
    (":l".toList ++ Nat.toDigits 10 r.pageLimit))))

end LiveQuery

/-! ### Which requests share a key -/

/-- **What two requests have in common** that have one key: all but the severity, and the dates if
there is a keyword. -/
structure LiveQuery.Shares (r r' : LiveQuery) : Prop where
  q : truthy r.q = truthy r'.q
  cpe : truthy r.cpe = truthy r'.cpe
  id : (truthy r.id).map env.upper = (truthy r'.id).map env.upper
  from_ : r.keyword = false → (truthy r.from_).map env.fmt = (truthy r'.from_).map env.fmt
  to_ : r.keyword = false → (truthy r.to_).map env.fmt = (truthy r'.to_).map env.fmt
  page : r.pageNumber = r'.pageNumber
  limit : r.pageLimit = r'.pageLimit

section Keys

variable {env} {r r' : LiveQuery}

theorem mem_liveParam {name : String} {f : Text → Text} {o : Option Text} {n s : Text} :
    (n, s) ∈ liveParam name f o ↔ n = name.toList ∧ (truthy o).map f = some s := by
  unfold liveParam
  cases truthy o with
  | none => simp
  | some t => simp [eq_comm]

theorem liveParam_congr {name : String} {f : Text → Text} {o o' : Option Text}
    (h : (truthy o).map f = (truthy o').map f) : liveParam name f o = liveParam name f o' := by
  have hlist : ∀ o, liveParam name f o =
      (((truthy o).map f).map (Prod.mk name.toList)).toList := by
    intro o
    unfold liveParam
    cases truthy o <;> rfl
  rw [hlist, hlist, h]

theorem LiveQuery.mem_baseParams {n s : Text} : (n, s) ∈ r.baseParams env ↔
    (n = "keywordSearch".toList ∧ truthy r.q = some s) ∨
      (n = "cpeName".toList ∧ truthy r.cpe = some s) ∨
        (n = "cveId".toList ∧ (truthy r.id).map env.upper = some s) ∨
          r.keyword = false ∧ ((n = "pubStartDate".toList ∧ (truthy r.from_).map env.fmt = some s) ∨
            (n = "pubEndDate".toList ∧ (truthy r.to_).map env.fmt = some s)) := by
  unfold LiveQuery.baseParams
  cases r.keyword <;>
    simp only [List.mem_append, mem_liveParam, Option.map_id', or_assoc, Bool.false_eq_true,
      if_false, if_true, List.not_mem_nil, true_and, reduceCtorEq, false_and]

/-- One text of parameters is one dictionary of them. -/
theorem LiveQuery.baseParams_subset
    (h : JsonData.Same (ν := ℤ) (.dict ((r.baseParams env).map fun e => (e.1, .str e.2)))
      (.dict ((r'.baseParams env).map fun e => (e.1, .str e.2)))) {n s : Text}
    (hs : (n, s) ∈ r.baseParams env) : (n, s) ∈ r'.baseParams env := by
  obtain ⟨v', hv', hsame⟩ := JsonData.SameMembers.exists h.2
    (List.mem_map_of_mem (f := fun e => (e.1, JsonData.str e.2)) hs)
  obtain ⟨⟨n', s'⟩, hs', heq⟩ := List.mem_map.mp hv'
  obtain ⟨rfl, rfl⟩ := Prod.mk.inj heq
  obtain rfl : s = s' := hsame
  exact hs'

/-- Numbers up to what is no digit. -/
theorem unambiguous_digits :
    Written.Unambiguous (fun c : Char => c.isDigit = false) (Nat.toDigits 10) :=
  .of_span digits_injective fun _ c hc => by rw [isDigit_of_mem_digits c hc]; decide

/-- **Requests with one key** have the same parameters, the same page and the same length of it. -/
theorem LiveQuery.of_cacheKey_eq (h : r.cacheKey env = r'.cacheKey env) :
    (∀ n s, (n, s) ∈ r.baseParams env → (n, s) ∈ r'.baseParams env) ∧
      r.pageNumber = r'.pageNumber ∧ r.pageLimit = r'.pageLimit := by
  have hp : ":p".toList = [':', 'p'] := rfl
  have hl : ":l".toList = [':', 'l'] := rfl
  have htail := List.append_cancel_left h
  simp only [paramsText, JsonData.dumps, hp, hl, List.cons_append, List.nil_append] at htail
  obtain ⟨hparams, hpages⟩ := JsonData.write_inj _ _ (Written.follows_cons.mpr (by
    unfold IsNumberChar
    decide)) (Written.follows_cons.mpr (by
    unfold IsNumberChar
    decide)) htail
  obtain ⟨hpage, hlimits⟩ := unambiguous_digits _ _ _ _ (Written.follows_cons.mpr (by decide))
    (Written.follows_cons.mpr (by decide)) (List.cons.inj (List.cons.inj hpages).2).2
  have hlimit := digits_injective (List.cons.inj (List.cons.inj hlimits).2).2
  exact ⟨fun n s hs => baseParams_subset (JsonData.same_of_sortKeys_eq _ _ hparams) hs, hpage,
    hlimit⟩

/-- **Two requests have one key exactly if** they agree in all but the severity, and the dates where
there is a keyword. -/
theorem LiveQuery.cacheKey_eq_iff (r r' : LiveQuery) :
    r.cacheKey env = r'.cacheKey env ↔ r.Shares env r' := by
  constructor
  · intro h
    obtain ⟨hsub, hpage, hlimit⟩ := of_cacheKey_eq h
    obtain ⟨hsub', -, -⟩ := of_cacheKey_eq h.symm
    have hiff : ∀ n s, (n, s) ∈ r.baseParams env ↔ (n, s) ∈ r'.baseParams env :=
      fun n s => ⟨hsub n s, hsub' n s⟩
    simp only [mem_baseParams] at hiff
    have hq : truthy r.q = truthy r'.q :=
      Option.ext fun s => by simpa using hiff "keywordSearch".toList s
    have hkeyword : r.keyword = r'.keyword := congrArg Option.isSome hq
    refine ⟨hq, ?_, ?_, fun hno => ?_, fun hno => ?_, hpage, hlimit⟩
    · exact Option.ext fun s => by simpa using hiff "cpeName".toList s
    · exact Option.ext fun s => by simpa using hiff "cveId".toList s
    · exact Option.ext fun s => by simpa [hno, ← hkeyword] using hiff "pubStartDate".toList s
    · exact Option.ext fun s => by simpa [hno, ← hkeyword] using hiff "pubEndDate".toList s
  · intro h
    have hkeyword : r.keyword = r'.keyword := congrArg Option.isSome h.q
    have hparams : r.baseParams env = r'.baseParams env := by
      unfold baseParams
      rw [liveParam_congr (congrArg _ h.q),
        liveParam_congr (congrArg _ h.cpe),
        liveParam_congr h.id, ← hkeyword]
      split_ifs with hno
      · rfl
      · rw [Bool.not_eq_true] at hno
        rw [liveParam_congr (h.from_ hno), liveParam_congr (h.to_ hno)]
    rw [cacheKey, cacheKey, paramsText, paramsText, hparams, h.page, h.limit]

end Keys

/-! ### Answers -/

/-- What NVD answers, to parameters with a page of them. -/
abbrev LiveNvd := List (Text × Text) → LiveRequest → LiveAnswer

/-- The results of a page, with their number. -/
structure LiveResults (Item : Type) where
  total : ℤ
  items : List Item

/-- What becomes of a body: items that raise or have another severity are left out, and the newest
come first. -/
def LiveQuery.results (r : LiveQuery) (now : Instant) (body : LiveBody) : LiveResults Item where
  total := body.totalResults
  items := ((body.vulnerabilities.filterMap (env.enrich now)).filter fun item =>
    match truthy r.severity with
    | none => true
    | some severity => env.upper ((env.severity item).getD []) == env.upper severity).insertionSort
      fun a b => (env.publishedAt b).getD [] ≤ (env.publishedAt a).getD []

/-- What one request to NVD is answered with, whichever page it is about. -/
abbrev LiveFetch (Item : Type) := LiveRequest → Except LiveError (LiveResults Item)

/-- A request to NVD, at a point in time. -/
def LiveQuery.fetch (r : LiveQuery) (now : Instant) (nvd : LiveNvd) : LiveFetch Item := fun p =>
  (nvdFetch (nvd (r.baseParams env) p)).map (r.results env now)

/-- What `live_search` returns. -/
structure LiveView (Item : Type) where
  data : List Item
  total : ℤ
  page : ℕ
  pages : ℤ

/-- The page that is returned, of what NVD has answered. -/
def liveView (page limit : ℕ) (found : LiveResults Item) : LiveView Item :=
  ⟨found.items, found.total, page, max 1 ((found.total + limit - 1) / limit)⟩

/-- **What is kept**, of the answers of NVD: nothing if one of them raises, or if there are no
results for the first page of a keyword. -/
def liveKept (keyword : Bool) (page limit : ℕ) : List (LiveFetch Item) → Option (LiveView Item)
  | [fetch] => if keyword then none else
    (fetch ⟨limit, (page - 1) * limit⟩).toOption.map (liveView page limit)
  | [probe, fetch] => if keyword then do
      let total := (← (probe ⟨1, 0⟩).toOption).total
      if page = 1 ∧ total = 0 then none
      else (fetch ⟨limit, max 0 (total - page * limit)⟩).toOption.map (liveView page limit)
    else none
  | _ => none

/-! ### The cache -/

/-- `_CACHE_TTL`. -/
def liveTtl : ℕ := 120

/-- **How the searches are kept.** -/
def livePolicy : ReadThrough.Policy LiveQuery Text LiveNvd (LiveFetch Item) Instant where
  key r := r.cacheKey env
  queries r := if r.keyword then [r.fetch env, r.fetch env] else [r.fetch env]
  ttl _ := seconds liveTtl
  ttl_pos _ := by decide

abbrev LiveWorld (Item ω : Type) :=
  ReadThrough.World LiveQuery Text LiveNvd (LiveFetch Item) Instant ω Empty

abbrev LiveEvent (ω : Type) := ReadThrough.Event LiveQuery Text LiveNvd Instant ω Empty

section Runs

variable {ω : Type} [DecidableEq ω]

/-- Whether a request that is over has something to keep. -/
def keeps (s : LiveWorld Item ω) (reader : ω) : Bool :=
  match s.readers reader with
  | .reading r _ _ parts =>
    (liveKept r.keyword r.pageNumber r.pageLimit (parts.map Part.value)).isSome
  | _ => false

/-- **What of an event happens**: a request that does not search asks for nothing, and one with
nothing to keep writes nothing. -/
def liveGuard (s : LiveWorld Item ω) : LiveEvent ω → Option (LiveEvent ω)
  | .ask reader r answered => if r.searches then some (.ask reader r answered) else none
  | .next reader stored answered => some (.next reader (stored && keeps s reader) answered)
  | e => some e

/-- **One event.** -/
def liveStep (s : LiveWorld Item ω) (e : LiveEvent ω) : LiveWorld Item ω :=
  (liveGuard s e).elim s (ReadThrough.step (livePolicy env) s)

/-! ### What is answered -/

variable {env} {delay now : Instant} {nvd : LiveNvd} {l : List (LiveEvent ω)}

/-- **What is kept under a key** is a page, for the requests with the key. -/
def IsLivePage (env : LiveEnv Item) (k : Text) (parts : List (Part (LiveFetch Item) Instant)) :
    Prop :=
  ∃ r : LiveQuery, r.cacheKey env = k ∧
    (liveKept r.keyword r.pageNumber r.pageLimit (parts.map Part.value)).isSome = true

/-- Which results make a page is the same for all requests with one key. -/
theorem IsLivePage.isSome {r : LiveQuery} {parts : List (Part (LiveFetch Item) Instant)}
    (h : IsLivePage env (r.cacheKey env) parts) :
    (liveKept r.keyword r.pageNumber r.pageLimit (parts.map Part.value)).isSome = true := by
  obtain ⟨r', hkey, hkept⟩ := h
  have hshares := (LiveQuery.cacheKey_eq_iff r r').mp hkey.symm
  have hkeyword : r.keyword = r'.keyword := congrArg Option.isSome hshares.q
  rw [hkeyword, hshares.page, hshares.limit]
  exact hkept

omit [DecidableEq ω] in
/-- A search is a reader, that writes pages only. -/
theorem liveGuard_writes {s : LiveWorld Item ω} {e e' : LiveEvent ω} (h : liveGuard s e = some e') :
    ReadThrough.Writes (livePolicy env) (IsLivePage env) s e' := by
  cases e with
  | next reader stored answered =>
    obtain rfl := Option.some.inj h
    intro r startedAt asked parts hr _ hstored
    refine ⟨r, rfl, ?_⟩
    have hkeeps := (Bool.and_eq_true_iff.mp hstored).2
    rwa [keeps, hr] at hkeeps
  | ask reader r answered =>
    rw [liveGuard] at h
    split_ifs at h
    obtain rfl := Option.some.inj h
    trivial
  | _ =>
    obtain rfl := Option.some.inj h
    trivial

omit [DecidableEq ω] in
/-- And as prompt as it is without the guard. -/
theorem liveGuard_prompt {s : LiveWorld Item ω} {e e' : LiveEvent ω}
    (he : ReadThrough.Prompt (livePolicy env) delay s e) (h : liveGuard s e = some e') :
    ReadThrough.Prompt (livePolicy env) delay s e' := by
  cases e with
  | next reader stored answered =>
    obtain rfl := Option.some.inj h
    intro r startedAt asked parts hr hcomplete hstored
    exact he r startedAt asked parts hr hcomplete (Bool.and_eq_true_iff.mp hstored).1
  | ask reader r answered =>
    rw [liveGuard] at h
    split_ifs at h
    obtain rfl := Option.some.inj h
    trivial
  | _ =>
    obtain rfl := Option.some.inj h
    trivial

/-- **A search is answered with a page that is not too old, of whichever severity**: in every run in
which no search takes longer than `delay` until it writes, an answer is a page made of what NVD has
answered to a request that agrees with the one at hand in all but the severity, and the dates if
there is a keyword; each part of it is from less than two minutes and `delay` before. -/
theorem live_bounded (hdelay : 0 ≤ delay)
    (hl : AllSteps (liveStep env) (ReadThrough.Prompt (livePolicy env) delay)
      (ReadThrough.start now nvd) l) {reader : ω} {r : LiveQuery} {askedAt : Instant}
    {parts : List (Part (LiveFetch Item) Instant)}
    (hr : (run (liveStep env) (ReadThrough.start now nvd) l).readers reader =
      .returned r askedAt parts) :
    (∃ r' : LiveQuery, r.Shares env r' ∧ List.Forall₂ (fun query part => ∃ answers,
      (run (liveStep env) (ReadThrough.start now nvd) l).source.HeldAt part.readAt answers ∧
        part.value = query part.readAt answers) ((livePolicy env).queries r') parts) ∧
    (∃ view, liveKept r.keyword r.pageNumber r.pageLimit (parts.map Part.value) = some view) ∧
    ∀ part ∈ parts, askedAt < part.readAt + (seconds liveTtl + delay) := by
  have hguard : ∀ (s : LiveWorld Item ω) (e : LiveEvent ω),
      liveStep env s e = (liveGuard s e).elim s (ReadThrough.step (livePolicy env) s) :=
    fun _ _ => rfl
  obtain ⟨l', hrun, hsteps⟩ := exists_run_of_guard hguard (ReadThrough.start now nvd) l
  have hprompt : AllSteps (ReadThrough.step (livePolicy env))
      (ReadThrough.Prompt (livePolicy env) delay) (ReadThrough.start now nvd) l' :=
    hsteps _ (hl.mono fun _ _ he _ hb => liveGuard_prompt he hb)
  have hwrites : AllSteps (ReadThrough.step (livePolicy env))
      (ReadThrough.Writes (livePolicy env) (IsLivePage env)) (ReadThrough.start now nvd) l' :=
    hsteps _ (hl.mono fun _ _ _ _ hb => liveGuard_writes hb)
  rw [hrun] at hr ⊢
  obtain ⟨⟨r', hkey, hparts⟩, hage⟩ :=
    (ReadThrough.bounded hdelay hprompt).last reader r askedAt parts hr
  have hpage : IsLivePage env (r.cacheKey env) parts :=
    (ReadThrough.passes hwrites).last.returned reader r askedAt parts hr
  refine ⟨⟨r', (LiveQuery.cacheKey_eq_iff r r').mp hkey.symm, hparts.imp ?_⟩,
    Option.isSome_iff_exists.mp hpage.isSome, hage⟩
  rintro query part ⟨answers, hheld, -, hvalue⟩
  exact ⟨answers, hheld, hvalue⟩

/-! ### Another severity -/

/-- Items that are severities. -/
def LiveEnv.shown : LiveEnv Text where
  upper := List.map Char.toUpper
  fmt s := s
  enrich _ vuln :=
    match vuln with
    | .str s => some s.toList
    | _ => none
  severity := some
  publishedAt _ := none

/-- Two requests for one product. -/
def critical : LiveQuery := ⟨none, some ['x'], none, some "critical".toList, none, none, 1, 20⟩

def anySeverity : LiveQuery := { critical with severity := none }

/-- NVD has two results. -/
def nvdShown : LiveNvd := fun _ _ => .response 200 ⟨2, [.str "CRITICAL", .str "LOW"]⟩

/-- The one is answered, and then the other. -/
def severityRun : List (LiveEvent ℕ) :=
  [.ask 0 critical true, .next 0 true true, .next 0 true true, .ask 1 anySeverity true]

theorem prompt_severityRun : AllSteps (liveStep LiveEnv.shown)
    (ReadThrough.Prompt (livePolicy LiveEnv.shown) 0)
    (ReadThrough.start 0 nvdShown : LiveWorld Text ℕ) severityRun := by
  refine ⟨trivial, ?_, ?_, trivial, trivial⟩
  · rintro r startedAt asked parts ⟨⟩ hcomplete
    cases hcomplete
  · rintro r startedAt asked parts ⟨⟩ - -
    exact le_rfl

/-- What is kept of the first. -/
def severityParts : List (Part (LiveFetch Text) Instant) :=
  [⟨critical.fetch LiveEnv.shown 0 nvdShown, 0, 0⟩]

theorem returned_severityRun :
    (run (liveStep LiveEnv.shown) (ReadThrough.start 0 nvdShown) severityRun).readers 1 =
      .returned anySeverity 0 severityParts := rfl

/-- **The second one is answered with a page of the first**, and not with what NVD has of low
severity. -/
theorem live_bounded_severity :
    liveKept anySeverity.keyword anySeverity.pageNumber anySeverity.pageLimit
      (severityParts.map Part.value) = some ⟨["CRITICAL".toList], 2, 1, 1⟩ ∧
    ∀ part ∈ severityParts, (0 : Instant) < part.readAt + (seconds liveTtl + 0) :=
  ⟨rfl, (live_bounded le_rfl prompt_severityRun returned_severityRun).2.2⟩

end Runs

end CveManagement
