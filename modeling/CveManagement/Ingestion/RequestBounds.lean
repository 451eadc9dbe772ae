import CveManagement.Ingestion.NvdPages
import CveManagement.Library.Asking
import Mathlib

/-!
# How often the clients ask

The two `_iter_pages`, of NVD and of VulnCheck, have a cap on their pages, which is to bound the
requests of a run. But both count the pages that they have read, and an answer that the limit is
exceeded is asked for again without being counted.

Against any sequence of answers each keeps to its cap exactly if one of so many answers ends the
run, or none of them is to be waited for (`CveManagement.requestsBounded_iff`).
-/

namespace CveManagement

open Salvage Asking

/-! ### NVD -/

section Nvd

/-- Where `_iter_pages` of NVD has come to. -/
structure NvdPosition where
  startIndex : ℕ
  pageNum : ℕ

/-- An answer of 429 that is waited for. -/
def NvdAnswer.again (py : PyText) : NvdAnswer → Bool
  | .rateLimited retryAfter => waits py retryAfter
  | _ => false

/-- The number of CVEs that an answer brings. -/
def NvdAnswer.returned : NvdAnswer → ℕ
  | .body (some json) =>
    match readPage json with
    | .ok (_, vulns) => vulns.length
    | .error _ => 0
  | _ => 0

/-- **A page that is followed by another one**, from its index on: it is read to its end, is not
empty, and is not the last. -/
def NvdAnswer.Followed (env : NvdEnv) (startIndex : ℕ) : NvdAnswer → Prop
  | .body (some json) => ∃ total vulns, readPage json = .ok (total, vulns) ∧
      (∀ v ∈ vulns, ∃ o, nvdVuln env v = .ok o) ∧
        atEnd (startIndex + vulns.length) total vulns = .ok false
  | _ => False

/-- What an answer makes of the position, if the run goes on. -/
def nvdTurn (env : NvdEnv) (py : PyText) (pos : NvdPosition) : NvdAnswer → Option NvdPosition
  | .requestError | .httpError | .notFound | .body none => none
  | .rateLimited retryAfter => if waits py retryAfter then some pos else none
  | .body (some body) =>
    match readPage body with
    | .error _ => none
    | .ok (total, vulns) =>
      match collect (nvdVuln env) vulns with
      | (_, some _) => none
      | (_, none) =>
        match atEnd (pos.startIndex + vulns.length) total vulns with
        | .ok false => some ⟨pos.startIndex + vulns.length, pos.pageNum + 1⟩
        | _ => none

/-- **The loop of `_iter_pages`** of NVD. -/
def nvdLoop (env : NvdEnv) (py : PyText) : Loop NvdPosition NvdAnswer where
  goesOn pos := decide (pos.pageNum < maxPages)
  turn := nvdTurn env py

variable {env : NvdEnv} {py : PyText} {answers : ℕ → NvdAnswer} {fuel k s p : ℕ}

/-- **The generator is still asking** after some requests exactly if its loop is not left. -/
theorem iterPages_unfinished_iff :
    (iterPages env py (fun k _ => answers k) fuel k s p).ending = .unfinished ↔
      ((nvdLoop env py).after answers fuel k ⟨s, p⟩).isSome = true := by
  induction fuel generalizing k s p with
  | zero => exact iff_of_true rfl rfl
  | succ fuel ih =>
    rw [iterPages, Loop.after]
    by_cases hp : p < maxPages
    · rw [if_pos hp, if_pos (by simpa [nvdLoop] using hp)]
      change _ ↔ ((nvdTurn env py ⟨s, p⟩ (answers k)).bind _).isSome = true
      cases answers k with
      | requestError | httpError | notFound => exact iff_of_false (by simp) (by simp [nvdTurn])
      | rateLimited retryAfter =>
        cases hwaits : waits py retryAfter with
        | true => simpa [nvdTurn, hwaits] using ih
        | false => simp [nvdTurn, hwaits]
      | body json =>
        cases json with
        | none => simp [nvdTurn]
        | some json =>
          cases hread : readPage json with
          | error e => simp [nvdTurn, hread]
          | ok page =>
            obtain ⟨total, vulns⟩ := page
            rcases hcollect : collect (nvdVuln env) vulns with ⟨records, _ | e⟩
            · cases hend : atEnd (s + vulns.length) total vulns with
              | error e => simp [nvdTurn, hread, hcollect, hend]
              | ok last =>
                cases last with
                | true => simp [nvdTurn, hread, hcollect, hend]
                | false => simpa [nvdTurn, hread, hcollect, hend] using ih
            · simp [nvdTurn, hread, hcollect]
    · rw [if_neg hp, if_neg (by simpa [nvdLoop] using hp)]
      exact iff_of_false (by simp) (by simp)

/-- An answer that does not end the run is waited for, or is a page that is followed. -/
theorem nvdTurn_eq_some_iff {pos pos' : NvdPosition} {a : NvdAnswer} :
    nvdTurn env py pos a = some pos' ↔
      a.again py = true ∧ pos' = pos ∨
        a.Followed env pos.startIndex ∧
          pos' = ⟨pos.startIndex + a.returned, pos.pageNum + 1⟩ := by
  cases a with
  | requestError | httpError | notFound => simp [nvdTurn, NvdAnswer.again, NvdAnswer.Followed]
  | rateLimited retryAfter =>
    simp only [nvdTurn, NvdAnswer.again, NvdAnswer.Followed, false_and, or_false]
    split_ifs with hwaits
    · simp [hwaits, eq_comm]
    · simp [hwaits]
  | body json =>
    cases json with
    | none => simp [nvdTurn, NvdAnswer.again, NvdAnswer.Followed]
    | some json =>
      simp only [nvdTurn, NvdAnswer.again, Bool.false_eq_true, false_and, false_or,
        NvdAnswer.Followed, NvdAnswer.returned]
      cases hread : readPage json with
      | error e => simp
      | ok page =>
        obtain ⟨total, vulns⟩ := page
        have hshaped := collect_snd_eq_none_iff (f := nvdVuln env) (l := vulns)
        rcases hcollect : collect (nvdVuln env) vulns with ⟨records, _ | e⟩
        · rw [hcollect] at hshaped
          have hall := hshaped.mp rfl
          cases hend : atEnd (pos.startIndex + vulns.length) total vulns with
          | error e => simp [hcollect, hend]
          | ok last =>
            cases last with
            | true => simp [hcollect, hend]
            | false => simp [hcollect, hend, and_iff_right hall, eq_comm]
        · rw [hcollect] at hshaped
          have hnot := mt hshaped.mpr (by simp)
          simp only [hcollect, reduceCtorEq, false_iff]
          rintro ⟨⟨total', vulns', heq, hall, -⟩, -⟩
          obtain ⟨rfl, rfl⟩ := Prod.mk.inj (Except.ok.inj heq)
          exact absurd hall hnot

/-- A page that is followed is not asked for again. -/
theorem NvdAnswer.Followed.again_eq_false {startIndex : ℕ} {a : NvdAnswer}
    (h : a.Followed env startIndex) : a.again py = false := by
  cases a with
  | body json => rfl
  | _ => exact h.elim

/-- And one that is brings nothing. -/
theorem NvdAnswer.returned_eq_zero {a : NvdAnswer} (h : a.again py = true) : a.returned = 0 := by
  cases a with
  | rateLimited retryAfter => rfl
  | _ => cases h

/-- The positions that the answers bring the loop to. -/
def nvdTrack (py : PyText) (answers : ℕ → NvdAnswer) (k : ℕ) : NvdPosition where
  startIndex := ∑ i ∈ Finset.range k, (answers i).returned
  pageNum := Nat.count (fun i => (answers i).again py = false) k

/-- **Its cap is one on the answers that are not asked for again.** -/
theorem nvdLoop_capped (env : NvdEnv) (py : PyText) (answers : ℕ → NvdAnswer) :
    Capped (nvdLoop env py) answers (nvdTrack py answers) (fun i => (answers i).again py = false)
      maxPages where
  turn k pos hturn := by
    have hgo := nvdTurn_eq_some_iff.mp hturn
    rw [nvdTrack, Finset.sum_range_succ, Nat.count_succ]
    rcases hgo with ⟨hagain, rfl⟩ | ⟨hfollowed, rfl⟩
    · rw [NvdAnswer.returned_eq_zero hagain, if_neg (by simp [hagain])]
      rfl
    · rw [if_pos hfollowed.again_eq_false]
      rfl
  goesOn_iff k := decide_eq_true_iff

end Nvd

/-! ### VulnCheck -/

section VulnCheck

/-- `_MAX_PAGES`. -/
def maxVulnCheckPages : ℕ := 500

/-- The elements of `body.get("data") or []`, if it is not empty. -/
def vulnCheckItems (body : Json) : Except NvdError (Option (List Json)) := do
  let data ← body.getElse "data" .null
  if data.truthy then return some (← raising data.iter) else return none

/-- `page >= total_pages`. -/
def isLastRead (page : ℕ) (body : Json) : Except NvdError Bool := do
  let info ← body.getElse "_meta" (.obj [])
  match ← info.getElse "total_pages" (.num 1) with
  | .num q => .ok (decide (q ≤ page))
  | .bool b => .ok (decide ((if b then 1 else 0) ≤ page))
  | _ => .error (.raised .typeError)

/-- **`_iter_pages`** of VulnCheck, of a window, for as many requests as the first number says. What
the server answers to a request depends on the number of the request and on its `page`. -/
def iterVulnCheckPages (env : NvdEnv) (py : PyText) (server : ℕ → ℕ → NvdAnswer) :
    ℕ → ℕ → ℕ → PageRun
  | 0, _, _ => ⟨[], .unfinished⟩
  | fuel + 1, request, page =>
    if page ≤ maxVulnCheckPages then
      match server request page with
      | .requestError | .notFound | .httpError | .body none => ⟨[], .raised⟩
      | .rateLimited retryAfter =>
        if waits py retryAfter then iterVulnCheckPages env py server fuel (request + 1) page
        else ⟨[], .raised⟩
      | .body (some body) =>
        match vulnCheckItems body with
        | .error _ => ⟨[], .raised⟩
        | .ok none => ⟨[], .finished⟩
        | .ok (some items) =>
          match collect (vulnCheckItem env) items with
          | (records, some _) => ⟨records, .raised⟩
          | (records, none) =>
            match isLastRead page body with
            | .error _ => ⟨records, .raised⟩
            | .ok true => ⟨records, .finished⟩
            | .ok false =>
              let rest := iterVulnCheckPages env py server fuel (request + 1) (page + 1)
              ⟨records ++ rest.records, rest.ending⟩
    else ⟨[], .finished⟩

/-- **A page that is followed by another one.** -/
def NvdAnswer.VulnCheckFollowed (env : NvdEnv) (page : ℕ) : NvdAnswer → Prop
  | .body (some json) => ∃ items, vulnCheckItems json = .ok (some items) ∧
      (∀ item ∈ items, ∃ o, vulnCheckItem env item = .ok o) ∧ isLastRead page json = .ok false
  | _ => False

/-- What an answer makes of the page, if the run goes on. -/
def vulnCheckTurn (env : NvdEnv) (py : PyText) (page : ℕ) : NvdAnswer → Option ℕ
  | .requestError | .httpError | .notFound | .body none => none
  | .rateLimited retryAfter => if waits py retryAfter then some page else none
  | .body (some body) =>
    match vulnCheckItems body with
    | .error _ | .ok none => none
    | .ok (some items) =>
      match collect (vulnCheckItem env) items with
      | (_, some _) => none
      | (_, none) =>
        match isLastRead page body with
        | .ok false => some (page + 1)
        | _ => none

/-- **The loop of `_iter_pages`** of VulnCheck. -/
def vulnCheckLoop (env : NvdEnv) (py : PyText) : Loop ℕ NvdAnswer where
  goesOn page := decide (page ≤ maxVulnCheckPages)
  turn := vulnCheckTurn env py

variable {env : NvdEnv} {py : PyText} {answers : ℕ → NvdAnswer} {fuel k page page' : ℕ}

/-- **The generator is still asking** after some requests exactly if its loop is not left. -/
theorem iterVulnCheckPages_unfinished_iff :
    (iterVulnCheckPages env py (fun k _ => answers k) fuel k page).ending = .unfinished ↔
      ((vulnCheckLoop env py).after answers fuel k page).isSome = true := by
  induction fuel generalizing k page with
  | zero => exact iff_of_true rfl rfl
  | succ fuel ih =>
    rw [iterVulnCheckPages, Loop.after]
    by_cases hp : page ≤ maxVulnCheckPages
    · rw [if_pos hp, if_pos (by simpa [vulnCheckLoop] using hp)]
      change _ ↔ ((vulnCheckTurn env py page (answers k)).bind _).isSome = true
      cases answers k with
      | requestError | httpError | notFound =>
        exact iff_of_false (by simp) (by simp [vulnCheckTurn])
      | rateLimited retryAfter =>
        cases hwaits : waits py retryAfter with
        | true => simpa [vulnCheckTurn, hwaits] using ih
        | false => simp [vulnCheckTurn, hwaits]
      | body json =>
        cases json with
        | none => simp [vulnCheckTurn]
        | some json =>
          rcases hitems : vulnCheckItems json with e | _ | items
          · simp [vulnCheckTurn, hitems]
          · simp [vulnCheckTurn, hitems]
          · rcases hcollect : collect (vulnCheckItem env) items with ⟨records, _ | e⟩
            · rcases hlast : isLastRead page json with e | _ | _
              · simp [vulnCheckTurn, hitems, hcollect, hlast]
              · simpa [vulnCheckTurn, hitems, hcollect, hlast] using ih
              · simp [vulnCheckTurn, hitems, hcollect, hlast]
            · simp [vulnCheckTurn, hitems, hcollect]
    · rw [if_neg hp, if_neg (by simpa [vulnCheckLoop] using hp)]
      exact iff_of_false (by simp) (by simp)

/-- An answer that does not end the run is waited for, or is a page that is followed. -/
theorem vulnCheckTurn_eq_some_iff {a : NvdAnswer} :
    vulnCheckTurn env py page a = some page' ↔
      a.again py = true ∧ page' = page ∨ a.VulnCheckFollowed env page ∧ page' = page + 1 := by
  cases a with
  | requestError | httpError | notFound =>
    simp [vulnCheckTurn, NvdAnswer.again, NvdAnswer.VulnCheckFollowed]
  | rateLimited retryAfter =>
    simp only [vulnCheckTurn, NvdAnswer.again, NvdAnswer.VulnCheckFollowed, false_and, or_false]
    split_ifs with hwaits
    · simp [hwaits, eq_comm]
    · simp [hwaits]
  | body json =>
    cases json with
    | none => simp [vulnCheckTurn, NvdAnswer.again, NvdAnswer.VulnCheckFollowed]
    | some json =>
      simp only [vulnCheckTurn, NvdAnswer.again, Bool.false_eq_true, false_and, false_or,
        NvdAnswer.VulnCheckFollowed]
      rcases hitems : vulnCheckItems json with e | _ | items
      · simp
      · simp
      · have hshaped := collect_snd_eq_none_iff (f := vulnCheckItem env) (l := items)
        rcases hcollect : collect (vulnCheckItem env) items with ⟨records, _ | e⟩
        · rw [hcollect] at hshaped
          have hall := hshaped.mp rfl
          rcases hlast : isLastRead page json with e | _ | _
          · simp [hcollect]
          · simpa [hcollect, eq_comm] using fun _ => hall
          · simp [hcollect]
        · rw [hcollect] at hshaped
          have hnot := mt hshaped.mpr (by simp)
          simp only [hcollect, reduceCtorEq, false_iff]
          rintro ⟨⟨items', heq, hall, -⟩, -⟩
          obtain rfl := Option.some.inj (Except.ok.inj heq)
          exact absurd hall hnot

theorem NvdAnswer.VulnCheckFollowed.again_eq_false {a : NvdAnswer}
    (h : a.VulnCheckFollowed env page) : a.again py = false := by
  cases a with
  | body json => rfl
  | _ => exact h.elim

/-- The pages that the answers bring the loop to. -/
def vulnCheckTrack (py : PyText) (answers : ℕ → NvdAnswer) (k : ℕ) : ℕ :=
  1 + Nat.count (fun i => (answers i).again py = false) k

theorem vulnCheckLoop_capped (env : NvdEnv) (py : PyText) (answers : ℕ → NvdAnswer) :
    Capped (vulnCheckLoop env py) answers (vulnCheckTrack py answers)
      (fun i => (answers i).again py = false) maxVulnCheckPages where
  turn k page hturn := by
    rw [vulnCheckTrack, Nat.count_succ]
    rcases vulnCheckTurn_eq_some_iff.mp hturn with ⟨hagain, rfl⟩ | ⟨hfollowed, rfl⟩
    · rw [if_neg (by simp [hagain])]
      rfl
    · rw [if_pos hfollowed.again_eq_false]
      rfl
  goesOn_iff k := by
    rw [vulnCheckLoop, decide_eq_true_iff, vulnCheckTrack]
    omega

end VulnCheck

/-! ### Both -/

section Both

variable {env : NvdEnv} {py : PyText}

/-- **The requests are bounded**: whatever the answers are, a run of either client makes no more of
them than its cap. -/
def RequestsBounded (env : NvdEnv) (py : PyText) (nvd vulnCheck : ℕ → NvdAnswer) : Prop :=
  (∀ k, (nvdLoop env py).Asks nvd ⟨0, 0⟩ k → k < maxPages) ∧
    ∀ k, (vulnCheckLoop env py).Asks vulnCheck 1 k → k < maxVulnCheckPages

/-- The answer of NVD ends the run, if it is about the page from an index on. -/
def NvdAnswer.Ends (env : NvdEnv) (py : PyText) (startIndex : ℕ) (a : NvdAnswer) : Prop :=
  a.again py = false ∧ ¬a.Followed env startIndex

/-- The answer of VulnCheck ends the run. -/
def NvdAnswer.VulnCheckEnds (env : NvdEnv) (py : PyText) (page : ℕ) (a : NvdAnswer) : Prop :=
  a.again py = false ∧ ¬a.VulnCheckFollowed env page

theorem nvdTurn_eq_none_iff {pos : NvdPosition} {a : NvdAnswer} :
    nvdTurn env py pos a = none ↔ a.Ends env py pos.startIndex := by
  rw [eq_none_iff_of_eq_some_iff fun _ => nvdTurn_eq_some_iff, Bool.not_eq_true, NvdAnswer.Ends]

theorem vulnCheckTurn_eq_none_iff {page : ℕ} {a : NvdAnswer} :
    vulnCheckTurn env py page a = none ↔ a.VulnCheckEnds env py page := by
  rw [eq_none_iff_of_eq_some_iff fun _ => vulnCheckTurn_eq_some_iff, Bool.not_eq_true,
    NvdAnswer.VulnCheckEnds]

/-- **They are bounded exactly if, of each client, one of the first answers ends the run, or none of
them is waited for**: the first ones are as many as the cap. -/
theorem requestsBounded_iff (env : NvdEnv) (py : PyText) (nvd vulnCheck : ℕ → NvdAnswer) :
    RequestsBounded env py nvd vulnCheck ↔
      ((∃ k < maxPages, (nvd k).Ends env py (∑ i ∈ Finset.range k, (nvd i).returned)) ∨
          ∀ k < maxPages, (nvd k).again py = false) ∧
        ((∃ k < maxVulnCheckPages, (vulnCheck k).VulnCheckEnds env py
            (1 + Nat.count (fun i => (vulnCheck i).again py = false) k)) ∨
          ∀ k < maxVulnCheckPages, (vulnCheck k).again py = false) := by
  have hnvd := (nvdLoop_capped env py nvd).asks_lt_iff
  have hvulnCheck := (vulnCheckLoop_capped env py vulnCheck).asks_lt_iff
  simp only [nvdLoop, nvdTurn_eq_none_iff] at hnvd
  simp only [vulnCheckLoop, vulnCheckTurn_eq_none_iff] at hvulnCheck
  exact and_congr hnvd hvulnCheck

/-- **A server that is always busy is asked for ever.** -/
theorem asks_of_forall_again {answers : ℕ → NvdAnswer} (h : ∀ i, (answers i).again py = true)
    (k : ℕ) : (nvdLoop env py).Asks answers ⟨0, 0⟩ k := by
  refine (nvdLoop_capped env py answers).asks_iff.mpr ⟨fun i _ => ?_, ?_⟩
  · exact Option.isSome_of_eq_some (nvdTurn_eq_some_iff.mpr (.inl ⟨h i, rfl⟩))
  · rw [Nat.count_of_forall_not fun i _ => by simp [h i]]
    decide

theorem not_requestsBounded_busy :
    ¬RequestsBounded .sample .ascii (fun _ => .rateLimited none) fun _ => .rateLimited none := by
  rintro ⟨hnvd, -⟩
  have hagain : (NvdAnswer.rateLimited none).again .ascii = true := by decide +kernel
  exact lt_irrefl maxPages (hnvd maxPages (asks_of_forall_again (fun _ => hagain) maxPages))

end Both

end CveManagement
