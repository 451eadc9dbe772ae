import CveManagement.Ingestion.KevRefresh

/-!
# What the KEV flags say

* A flag is never made up and never taken back: a CVE that is flagged has been in a catalog of CISA,
  with the date that its row has, and keeps both for good
  (`CveManagement.KevWorld.flags_sound`) – also when CISA corrects the date, or takes the CVE out of
  the catalog.
* None is missed: a refresh that is done has flagged every CVE of the mirror that was in the catalog
  all the time since six hours before it asked, and the time that a refresh takes to keep one
  (`CveManagement.KevWorld.flags_complete`).
-/

namespace CveManagement

open Trajectory

variable {ω : Type} {fromisoformat : String → Option Date}

/-! ### Updating rows -/

/-- A row that is flagged, with a date. -/
def KevColumns.Flagged (c : KevColumns) : Prop := c.isKev = true ∧ c.kevAddedDate.isSome = true

theorem KevColumns.Flagged.flag_eq {c : KevColumns} (h : c.Flagged) (added : Date) :
    c.flag added = c := by
  have hdate : c.kevAddedDate.isNone = false := by simpa using h.2
  rw [KevColumns.flag, h.1, hdate]
  rfl

theorem KevColumns.flag_cases (c : KevColumns) (added : Date) :
    c.flag added = c ∧ c.Flagged ∨ c.flag added = ⟨true, some added⟩ := by
  rcases c with ⟨_ | _, _ | d⟩
  · exact .inr rfl
  · exact .inr rfl
  · exact .inr rfl
  · exact .inl ⟨rfl, rfl, rfl⟩

theorem KevColumns.flagged_flag (c : KevColumns) (added : Date) : (c.flag added).Flagged := by
  rcases c.flag_cases added with ⟨heq, h⟩ | heq
  · rwa [heq]
  · rw [heq]
    exact ⟨rfl, rfl⟩

namespace KevRows

variable {rows : KevRows} {cveId : String} {c : KevColumns} {l : List (String × Date)}

theorem update_apply (rows : KevRows) (e : String × Date) (cveId : String) :
    rows.update e cveId =
      if cveId = e.1 then (rows cveId).map (KevColumns.flag e.2) else rows cveId := by
  rw [update, Function.update_apply]
  split_ifs with h
  · rw [h]
  · rfl

/-- A flagged row is left as it is. -/
theorem foldl_of_flagged (hc : rows cveId = some c) (h : c.Flagged) :
    l.foldl update rows cveId = some c := by
  induction l generalizing rows with
  | nil => exact hc
  | cons e l ih =>
    refine ih ?_
    rw [update_apply, hc]
    split_ifs
    · rw [Option.map_some, h.flag_eq]
    · rfl

/-- What is in the row of a CVE is what was there, or comes from an update. -/
theorem foldl_cases (hc : l.foldl update rows cveId = some c) :
    rows cveId = some c ∨ ∃ added, (cveId, added) ∈ l ∧ c = ⟨true, some added⟩ := by
  induction l generalizing rows with
  | nil => exact .inl hc
  | cons e l ih =>
    rcases ih hc with hbefore | ⟨added, hmem, heq⟩
    · rw [update_apply] at hbefore
      split_ifs at hbefore with hid
      · obtain ⟨c₀, hc₀, rfl⟩ := Option.map_eq_some_iff.mp hbefore
        rcases c₀.flag_cases e.2 with ⟨hsame, -⟩ | hflag
        · exact .inl (by rw [hsame, hc₀])
        · exact .inr ⟨e.2, hid ▸ List.mem_cons_self, hflag⟩
      · exact .inl hbefore
    · exact .inr ⟨added, List.mem_cons_of_mem _ hmem, heq⟩

/-- The row of an update is flagged afterwards. -/
theorem flagged_foldl {added : Date} (hmem : (cveId, added) ∈ l) (hc : (rows cveId).isSome) :
    ∃ c, l.foldl update rows cveId = some c ∧ c.Flagged := by
  induction l generalizing rows with
  | nil => exact absurd hmem List.not_mem_nil
  | cons e l ih =>
    obtain ⟨c, hc⟩ := Option.isSome_iff_exists.mp hc
    rcases List.mem_cons.mp hmem with rfl | hmem
    · have hupdate : rows.update (cveId, added) cveId = some (c.flag added) := by
        rw [update_apply, if_pos rfl, hc, Option.map_some]
      have hrest := foldl_of_flagged (l := l) hupdate (c.flagged_flag added)
      exact ⟨c.flag added, hrest, c.flagged_flag added⟩
    · refine ih hmem ?_
      rw [update_apply, hc]
      split_ifs <;> rfl

theorem isSome_foldl : (l.foldl update rows cveId).isSome = (rows cveId).isSome := by
  induction l generalizing rows with
  | nil => rfl
  | cons e l ih =>
    rw [List.foldl_cons, ih, update_apply]
    split_ifs
    · rw [Option.isSome_map]
    · rfl

end KevRows

namespace KevWorld

variable [DecidableEq ω] {s : KevWorld ω} {initial : KevRows}

/-! ### Where flags come from -/

/-- **The CVE has been in the catalog**, with the date. -/
def Listed (fromisoformat : String → Option Date) (s : KevWorld ω) (cveId : String) (added : Date) :
    Prop :=
  ∃ t vulnerabilities, s.client.source.HeldAt t vulnerabilities ∧
    (cveId, added) ∈ kevCatalog fromisoformat vulnerabilities

/-- **Every flag comes from a catalog**, but those of the beginning. -/
structure Sound (fromisoformat : String → Option Date) (initial : KevRows) (s : KevWorld ω) :
    Prop where
  client : ReadThrough.Sound (kevPolicy fromisoformat) s.client
  selected : ∀ refresh toUpdate skipped, s.refreshes refresh = .selected toUpdate skipped →
    ∀ e ∈ toUpdate, Listed fromisoformat s e.1 e.2
  cves : ∀ cveId c, s.cves cveId = some c → c.isKev = true →
    initial cveId = some c ∨ ∃ added, c.kevAddedDate = some added ∧
      Listed fromisoformat s cveId added

omit [DecidableEq ω] in
theorem Listed.of_source {s' : KevWorld ω} {cveId : String} {added : Date}
    (h : Listed fromisoformat s cveId added)
    (hsource : ∀ t a, s.client.source.HeldAt t a → s'.client.source.HeldAt t a) :
    Listed fromisoformat s' cveId added := by
  obtain ⟨t, vulnerabilities, hheld, hmem⟩ := h
  exact ⟨t, vulnerabilities, hsource t _ hheld, hmem⟩

omit [DecidableEq ω] in
/-- **The catalog that a refresh has got** is one of CISA. -/
theorem catalog_eq_some (h : ReadThrough.Sound (kevPolicy fromisoformat) s.client) {refresh : ω}
    {catalog : KevCatalog} (hcatalog : s.catalog refresh = some catalog) :
    ∃ askedAt part, s.client.readers refresh = .returned () askedAt [part] ∧
      ∃ vulnerabilities, s.client.source.HeldAt part.readAt vulnerabilities ∧
        catalog = kevCatalog fromisoformat vulnerabilities := by
  unfold KevWorld.catalog at hcatalog
  split at hcatalog
  next request askedAt parts hr =>
    obtain ⟨_, _, hparts⟩ := h.returned refresh request askedAt parts hr
    obtain ⟨part, rest, ⟨vulnerabilities, hheld, -, hvalue⟩, hrest, rfl⟩ :=
      List.forall₂_cons_left_iff.mp hparts
    obtain rfl := List.forall₂_nil_left_iff.mp hrest
    exact ⟨askedAt, part, hr, vulnerabilities, hheld,
      (Option.some.inj hcatalog).symm.trans hvalue⟩
  · cases hcatalog

omit [DecidableEq ω] in
theorem mem_toUpdate {order : RowOrder (String × Date)} {catalog : KevCatalog}
    {e : String × Date} : e ∈ s.toUpdate order catalog ↔ e ∈ catalog ∧ (s.cves e.1).isSome := by
  rw [toUpdate, (order.perm _).mem_iff, List.mem_filter]

/-- Selecting changes no row. -/
theorem cves_select (refresh : ω) (order : RowOrder (String × Date)) :
    (s.select refresh order).cves = s.cves := by
  rcases s.select_cases refresh order with hsame | ⟨_, phase, -, -, hmoved, -⟩
  · rw [hsame]
  · rw [hmoved]
    rfl

/-- A refresh moves on. -/
theorem Sound.moveTo (h : Sound fromisoformat initial s) (refresh : ω) {phase : KevRefresh}
    (hphase : ∀ toUpdate skipped, phase = .selected toUpdate skipped →
      ∀ e ∈ toUpdate, Listed fromisoformat s e.1 e.2) :
    Sound fromisoformat initial (s.moveTo refresh phase) where
  client := h.client
  selected other toUpdate skipped hselected := by
    change Function.update s.refreshes refresh phase other = _ at hselected
    by_cases heq : other = refresh
    · rw [heq, Function.update_self] at hselected
      exact hphase toUpdate skipped hselected
    · rw [Function.update_of_ne heq] at hselected
      exact h.selected other toUpdate skipped hselected
  cves := h.cves

/-- **No event makes up a flag.** -/
theorem sound_step (h : Sound fromisoformat initial s) (e : KevEvent ω) :
    Sound fromisoformat initial (kevStep fromisoformat s e) := by
  cases e with
  | client e =>
    have hsource : ∀ t a, s.client.source.HeldAt t a →
        (kevStep fromisoformat s (.client e)).client.source.HeldAt t a :=
      fun t a ha => ReadThrough.heldAt_step ha e
    refine ⟨ReadThrough.sound_step h.client e, ?_, ?_⟩
    · exact fun refresh toUpdate skipped hr e he =>
        (h.selected refresh toUpdate skipped hr e he).of_source hsource
    · intro cveId c hc hkev
      refine (h.cves cveId c hc hkev).imp_right ?_
      rintro ⟨added, hadded, hlisted⟩
      exact ⟨added, hadded, hlisted.of_source hsource⟩
  | select refresh order =>
    rcases s.select_cases refresh order with hsame | ⟨catalog, phase, -, hcatalog, hmoved, hphase⟩
    · rwa [kevStep, hsame]
    · rw [kevStep, hmoved]
      refine h.moveTo refresh fun toUpdate skipped hselected e he => ?_
      rw [hphase toUpdate skipped hselected] at he
      obtain ⟨-, part, -, vulnerabilities, hheld, rfl⟩ := catalog_eq_some h.client hcatalog
      exact ⟨part.readAt, vulnerabilities, hheld, (mem_toUpdate.mp he).1⟩
  | update refresh committed =>
    rcases s.commit_cases refresh committed with
      ⟨hsame, -⟩ | ⟨toUpdate, skipped, hselected, hdone | hfailed⟩
    · rwa [kevStep, hsame]
    · have hmoved : Sound fromisoformat initial
          (s.moveTo refresh (.done toUpdate.length skipped)) :=
        h.moveTo refresh fun _ _ hdone => by cases hdone
      rw [kevStep, hdone]
      refine ⟨hmoved.client, hmoved.selected, fun cveId c hc hkev => ?_⟩
      rcases KevRows.foldl_cases hc with hbefore | ⟨added, hmem, rfl⟩
      · exact h.cves cveId c hbefore hkev
      · exact .inr ⟨added, rfl, h.selected refresh toUpdate skipped hselected _ hmem⟩
    · rw [kevStep, hfailed]
      exact h.moveTo refresh fun _ _ hfailed => by cases hfailed
  | insert cveId =>
    refine ⟨h.client, h.selected, fun other c hc hkev => ?_⟩
    change Function.update s.cves cveId _ other = some c at hc
    by_cases heq : other = cveId
    · rw [heq, Function.update_self] at hc
      obtain rfl := Option.some.inj hc
      cases hrow : s.cves cveId with
      | none =>
        rw [hrow] at hkev
        cases hkev
      | some c =>
        rw [hrow] at hkev
        rw [heq]
        exact h.cves cveId c hrow hkev
    · rw [Function.update_of_ne heq] at hc
      exact h.cves other c hc hkev
  | delete cveId =>
    refine ⟨h.client, h.selected, fun other c hc hkev => ?_⟩
    change Function.update s.cves cveId _ other = some c at hc
    by_cases heq : other = cveId
    · rw [heq, Function.update_self] at hc
      exact h.cves other c (heq ▸ (Option.filter_eq_some_iff.mp hc).1) hkev
    · rw [Function.update_of_ne heq] at hc
      exact h.cves other c hc hkev

/-! ### Flags stay -/

/-- **No event takes a flag back**, or changes its date. -/
theorem flagged_step {cveId : String} {c : KevColumns} (hc : s.cves cveId = some c)
    (h : c.Flagged) (e : KevEvent ω) : (kevStep fromisoformat s e).cves cveId = some c := by
  cases e with
  | client e => exact hc
  | select refresh order => exact (congrFun (cves_select refresh order) cveId).trans hc
  | update refresh committed =>
    rcases s.commit_cases refresh committed with ⟨hsame, -⟩ | ⟨toUpdate, _, -, hdone | hfailed⟩
    · rwa [kevStep, hsame]
    · rw [kevStep, hdone]
      exact KevRows.foldl_of_flagged hc h
    · rw [kevStep, hfailed]
      exact hc
  | insert other =>
    change Function.update s.cves other _ cveId = some c
    by_cases heq : cveId = other
    · rw [← heq, Function.update_self, hc]
      rfl
    · rw [Function.update_of_ne heq, hc]
  | delete other =>
    change Function.update s.cves other _ cveId = some c
    by_cases heq : cveId = other
    · rw [← heq, Function.update_self, hc]
      exact Option.filter_eq_some_iff.mpr ⟨rfl, h.1⟩
    · rw [Function.update_of_ne heq, hc]

theorem flagged_run {cveId : String} {c : KevColumns} (hc : s.cves cveId = some c) (h : c.Flagged)
    (l : List (KevEvent ω)) : (run (kevStep fromisoformat) s l).cves cveId = some c := by
  induction l generalizing s with
  | nil => exact hc
  | cons e l ih => exact ih (flagged_step hc h e)

/-- **A flag is never made up and never taken back**: in every run, a CVE that is flagged was so at
the beginning, or has been in a catalog of CISA with the date of its row; and a row that is flagged
with a date stays as it is. -/
theorem flags_sound (fromisoformat : String → Option Date) (now : Instant)
    (vulnerabilities : List KevEntry) (cves : KevRows) (l l' : List (KevEvent ω)) :
    (∀ cveId c, (run (kevStep fromisoformat) (start now vulnerabilities cves) l).cves cveId =
        some c → c.isKev = true → cves cveId = some c ∨ ∃ added, c.kevAddedDate = some added ∧
          Listed fromisoformat (run (kevStep fromisoformat) (start now vulnerabilities cves) l)
            cveId added) ∧
      ∀ cveId c, (run (kevStep fromisoformat) (start now vulnerabilities cves) l).cves cveId =
        some c → c.Flagged →
          (run (kevStep fromisoformat) (start now vulnerabilities cves) (l ++ l')).cves cveId =
            some c := by
  have hstart : Sound fromisoformat cves (start now vulnerabilities cves : KevWorld ω) :=
    ⟨ReadThrough.sound_start now vulnerabilities, fun _ _ _ h => (by cases h),
      fun _ _ hc _ => .inl hc⟩
  have hsound := (throughout_of_step (I := Sound fromisoformat cves)
    (fun s e h => sound_step h e) hstart l).last
  refine ⟨hsound.cves, fun cveId c hc h => ?_⟩
  rw [run_append]
  exact flagged_run hc h l'

/-! ### Flags are set -/

/-- **A refresh is about to flag a CVE**, unless it is flagged, or the refresh has failed. -/
def Underway (refresh : ω) (cveId : String) (s : KevWorld ω) : Prop :=
  (∃ c, s.cves cveId = some c ∧ c.Flagged) ∨ s.refreshes refresh = .failed ∨
    (s.cves cveId).isSome ∧ ∃ toUpdate skipped, s.refreshes refresh = .selected toUpdate skipped ∧
      ∃ added, (cveId, added) ∈ toUpdate

/-- Where a refresh is after an event of another one. -/
theorem refreshes_moveTo {refresh other : ω} (hne : refresh ≠ other) (phase : KevRefresh) :
    (s.moveTo other phase).refreshes refresh = s.refreshes refresh :=
  Function.update_of_ne hne ..

/-- A refresh that waits no longer selects no more. -/
theorem refreshes_select {refresh : ω} (h : s.refreshes refresh ≠ .waiting) (other : ω)
    (order : RowOrder (String × Date)) :
    (s.select other order).refreshes refresh = s.refreshes refresh := by
  rcases s.select_cases other order with hsame | ⟨_, phase, hwaiting, -, hmoved, -⟩
  · rw [hsame]
  · rw [hmoved]
    refine refreshes_moveTo ?_ phase
    rintro rfl
    exact h hwaiting

/-- A refresh is moved by its own transaction only, once it has selected. -/
theorem refreshes_commit {refresh other : ω} (h : refresh = other →
      ∀ toUpdate skipped, s.refreshes refresh ≠ .selected toUpdate skipped) (committed : Bool) :
    (s.commit other committed).refreshes refresh = s.refreshes refresh := by
  rcases s.commit_cases other committed with
    ⟨hsame, -⟩ | ⟨toUpdate, skipped, hselected, hdone | hfailed⟩
  · rw [hsame]
  · rw [hdone]
    exact refreshes_moveTo (fun heq => h heq _ _ (heq ▸ hselected)) _
  · rw [hfailed]
    exact refreshes_moveTo (fun heq => h heq _ _ (heq ▸ hselected)) _

/-- No transaction takes a row away. -/
theorem isSome_commit (other : ω) (committed : Bool) (cveId : String) :
    ((s.commit other committed).cves cveId).isSome = (s.cves cveId).isSome := by
  rcases s.commit_cases other committed with ⟨hsame, -⟩ | ⟨toUpdate, _, -, hdone | hfailed⟩
  · rw [hsame]
  · rw [hdone]
    exact KevRows.isSome_foldl
  · rw [hfailed]
    rfl

omit [DecidableEq ω] in
/-- A refresh that has selected is left alone by all events but its own transaction. -/
theorem underway_of_refreshes {refresh : ω} {cveId : String} {s' : KevWorld ω}
    {toUpdate : List (String × Date)} {skipped : ℕ} {added : Date}
    (hselected : s.refreshes refresh = .selected toUpdate skipped)
    (hmem : (cveId, added) ∈ toUpdate) (hrefreshes : s'.refreshes refresh = s.refreshes refresh)
    (hc : (s'.cves cveId).isSome) : Underway refresh cveId s' :=
  .inr (.inr ⟨hc, toUpdate, skipped, hrefreshes.trans hselected, added, hmem⟩)

/-- **A refresh that has failed** does nothing any more. -/
theorem failed_step {refresh : ω} (hfailed : s.refreshes refresh = .failed) (e : KevEvent ω) :
    (kevStep fromisoformat s e).refreshes refresh = .failed := by
  cases e with
  | client e => exact hfailed
  | select other order =>
    refine (refreshes_select (fun hwaiting => ?_) other order).trans hfailed
    rw [hfailed] at hwaiting
    cases hwaiting
  | update other committed =>
    refine (refreshes_commit (fun _ _ _ hselected => ?_) committed).trans hfailed
    rw [hfailed] at hselected
    cases hselected
  | insert other => exact hfailed
  | delete other => exact hfailed

theorem underway_step {refresh : ω} {cveId : String} (h : Underway refresh cveId s)
    {e : KevEvent ω} (hkept : e ≠ .delete cveId) :
    Underway refresh cveId (kevStep fromisoformat s e) := by
  rcases h with ⟨c, hc, hflagged⟩ | hfailed | ⟨hc, toUpdate, skipped, hselected, added, hmem⟩
  · exact .inl ⟨c, flagged_step hc hflagged e, hflagged⟩
  · exact .inr (.inl (failed_step hfailed e))
  · cases e with
    | client e => exact underway_of_refreshes hselected hmem rfl hc
    | select other order =>
      have hwaiting : s.refreshes refresh ≠ .waiting := by
        rw [hselected]
        exact KevRefresh.noConfusion
      refine underway_of_refreshes hselected hmem (refreshes_select hwaiting other order) ?_
      rwa [kevStep, cves_select]
    | update other committed =>
      by_cases heq : refresh = other
      · subst heq
        rcases s.commit_cases refresh committed with
          ⟨-, hnot⟩ | ⟨toUpdate', skipped', hselected', hdone | hfailed⟩
        · exact absurd hselected (hnot _ _)
        · obtain ⟨rfl, rfl⟩ := KevRefresh.selected.inj (hselected.symm.trans hselected')
          rw [kevStep, hdone]
          exact .inl (KevRows.flagged_foldl hmem hc)
        · rw [kevStep, hfailed]
          exact .inr (.inl (Function.update_self ..))
      · refine underway_of_refreshes hselected hmem
          (refreshes_commit (fun h => absurd h heq) committed) ?_
        exact (isSome_commit other committed cveId).trans hc
    | insert other =>
      refine underway_of_refreshes hselected hmem rfl ?_
      change (Function.update s.cves other _ cveId).isSome
      by_cases heq : cveId = other
      · rw [heq, Function.update_self]
        rfl
      · rwa [Function.update_of_ne heq]
    | delete other =>
      refine underway_of_refreshes hselected hmem rfl ?_
      change (Function.update s.cves other _ cveId).isSome
      have hne : cveId ≠ other := fun heq => hkept (heq ▸ rfl)
      rwa [Function.update_of_ne hne]

theorem underway_run {refresh : ω} {cveId : String} (h : Underway refresh cveId s)
    {l : List (KevEvent ω)} (hkept : .delete cveId ∉ l) :
    Underway refresh cveId (run (kevStep fromisoformat) s l) := by
  induction l generalizing s with
  | nil => exact h
  | cons e l ih =>
    obtain ⟨he, hl⟩ := not_or.mp (mt List.mem_cons.mpr hkept)
    exact ih (underway_step h (Ne.symm he)) hl

/-- Each step of the client is prompt. -/
def Prompt (fromisoformat : String → Option Date) (delay : Instant) (s : KevWorld ω)
    (e : KevEvent ω) : Prop :=
  ∀ e', e.client? = some e' → ReadThrough.Prompt (kevPolicy fromisoformat) delay s.client e'

/-- **A catalog is not older than six hours**, and the time that a refresh takes to keep it. -/
theorem catalog_recent {now delay : Instant} {vulnerabilities : List KevEntry} {cves : KevRows}
    {l : List (KevEvent ω)} (hdelay : 0 ≤ delay)
    (hprompt : AllSteps (kevStep fromisoformat) (Prompt fromisoformat delay)
      (start now vulnerabilities cves) l)
    {refresh : ω} {askedAt : Instant} {parts : List (ReadThrough.Part KevCatalog Instant)}
    (hr : (run (kevStep fromisoformat) (start now vulnerabilities cves) l).client.readers refresh =
      .returned () askedAt parts) :
    ∃ part, parts = [part] ∧ askedAt < part.readAt + (seconds kevTtl + delay) ∧ ∃ vulnerabilities',
      (run (kevStep fromisoformat) (start now vulnerabilities cves) l).client.source.HeldAt
        part.readAt vulnerabilities' ∧ part.value = kevCatalog fromisoformat vulnerabilities' := by
  have hclient := (projects_client (ω := ω) fromisoformat).run (start now vulnerabilities cves) l
  have hsteps := (projects_client (ω := ω) fromisoformat).allSteps.mp hprompt
  rw [hclient] at hr ⊢
  obtain ⟨⟨_, _, hparts⟩, hlt⟩ :=
    (ReadThrough.bounded hdelay hsteps).last refresh () askedAt parts hr
  obtain ⟨part, rest, ⟨vulnerabilities', hheld, -, hvalue⟩, hrest, rfl⟩ :=
    List.forall₂_cons_left_iff.mp hparts
  obtain rfl := List.forall₂_nil_left_iff.mp hrest
  exact ⟨part, rfl, hlt part List.mem_cons_self, vulnerabilities', hheld, hvalue⟩

/-- **No flag is missed**: where a refresh selects its rows, a CVE of the mirror is in the catalog
all the time since six hours before the refresh asked, and the time that refreshes take, then it is
flagged once the refresh is done, if it is not deleted in the meantime. -/
theorem flags_complete {now delay since askedAt : Instant} {vulnerabilities : List KevEntry}
    {cves : KevRows} {l l' : List (KevEvent ω)} {refresh : ω} {order : RowOrder (String × Date)}
    {parts : List (ReadThrough.Part KevCatalog Instant)} {cveId : String} (hdelay : 0 ≤ delay)
    (hprompt : AllSteps (kevStep fromisoformat) (Prompt fromisoformat delay)
      (start now vulnerabilities cves) l)
    (hreturned : (run (kevStep fromisoformat) (start now vulnerabilities cves) l).client.readers
      refresh = .returned () askedAt parts)
    (hwaiting : (run (kevStep fromisoformat) (start now vulnerabilities cves) l).refreshes refresh =
      .waiting)
    (hlisted : (run (kevStep fromisoformat) (start now vulnerabilities cves) l).client.source.After
      since fun published => ∃ added, (cveId, added) ∈ kevCatalog fromisoformat published)
    (hlong : since + (seconds kevTtl + delay) ≤ askedAt)
    (hmirror : ((run (kevStep fromisoformat) (start now vulnerabilities cves) l).cves cveId).isSome)
    (hkept : .delete cveId ∉ l')
    (hdone : ∃ updated skipped, (run (kevStep fromisoformat) (start now vulnerabilities cves)
      (l ++ .select refresh order :: l')).refreshes refresh = .done updated skipped) :
    ∃ c, (run (kevStep fromisoformat) (start now vulnerabilities cves)
      (l ++ .select refresh order :: l')).cves cveId = some c ∧ c.Flagged := by
  obtain ⟨part, rfl, hlt, vulnerabilities', hheld, hvalue⟩ :=
    catalog_recent hdelay hprompt hreturned
  rw [run_append, run_cons] at hdone ⊢
  generalize run (kevStep fromisoformat) (start now vulnerabilities cves) l = s at *
  obtain ⟨added, hadded⟩ :=
    hlisted part.readAt vulnerabilities' (lt_of_add_lt_add_right (hlong.trans_lt hlt)) hheld
  have hcatalog : s.catalog refresh = some part.value := by
    rw [KevWorld.catalog, hreturned]
    rfl
  have hmem : (cveId, added) ∈ s.toUpdate order part.value :=
    mem_toUpdate.mpr ⟨hvalue ▸ hadded, hmirror⟩
  have hselect : Underway refresh cveId (kevStep fromisoformat s (.select refresh order)) := by
    rw [kevStep, KevWorld.select, hwaiting, hcatalog]
    dsimp only
    rw [if_neg (by simpa using List.ne_nil_of_mem hmem)]
    exact .inr (.inr ⟨hmirror, _, _, Function.update_self .., added, hmem⟩)
  obtain ⟨updated, skipped, hdone⟩ := hdone
  have hunderway : Underway refresh cveId (run (kevStep fromisoformat)
      (kevStep fromisoformat s (.select refresh order)) l') := underway_run hselect hkept
  rcases hunderway with hflagged | hfailed | ⟨-, _, _, hselected, -⟩
  · exact hflagged
  · rw [hfailed] at hdone
    cases hdone
  · rw [hselected] at hdone
    cases hdone

/-- A date, and no other text. -/
def kevDate (text : String) : Option Date := if text = "2024-01-02" then some 19724 else none

/-- One CVE is published, and it is in the mirror. -/
def kevExample : KevWorld ℕ :=
  start 0 [⟨some "CVE-2024-1", some "2024-01-02"⟩] fun cveId =>
    if cveId = "CVE-2024-1" then some ⟨false, none⟩ else none

/-- A refresh fetches the catalog six hours later. -/
def kevFetch : List (KevEvent ℕ) :=
  [.client (.tick 21600000001), .client (.ask 0 () true), .client (.next 0 true true),
    .client (.next 0 true true)]

theorem flags_complete_example : ∃ c, (run (kevStep kevDate) kevExample
    (kevFetch ++ [.select 0 .insertion, .update 0 true])).cves "CVE-2024-1" = some c ∧
      c.Flagged := by
  have hprompt : AllSteps (kevStep kevDate) (Prompt kevDate 0) kevExample kevFetch := by
    refine ⟨?_, ?_, ?_, ?_, trivial⟩
    · rintro _ ⟨⟩
      trivial
    · rintro _ ⟨⟩
      trivial
    · rintro _ ⟨⟩ q startedAt asked parts ⟨⟩ hcomplete
      cases hcomplete
    · rintro _ ⟨⟩ q startedAt asked parts ⟨⟩ - -
      exact le_rfl
  have hlisted : (run (kevStep kevDate) kevExample kevFetch).client.source.After 0
      fun published => ∃ added, ("CVE-2024-1", added) ∈ kevCatalog kevDate published := by
    rintro t published - (⟨rfl, -⟩ | ⟨e, he, -⟩)
    · exact ⟨19724, List.mem_singleton.mpr rfl⟩
    · cases he
  exact flags_complete le_rfl hprompt rfl rfl hlisted (by decide) rfl (by simp) ⟨1, 0, rfl⟩

end KevWorld

end CveManagement
