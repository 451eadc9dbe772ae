import CveManagement.Governance.Effects
import CveManagement.Library.Logbook
import Mathlib.Logic.Function.Basic

/-!
# Concurrent edits of one finding

`update_finding` reads the status of the finding and later, in a transaction, writes the new one
with a row of the history, in which the old status is the one it has read. Between the two any
other request on the finding can commit. Here any number of them run concurrently, in the manner
of `CveManagement.Race`: a turn is the reading or the writing half of a request, whichever is next.

The history is true of a commit (`CveManagement.CommitLogged`) if its row starts at the status that
the commit before it left, and if there is a row whenever the status changes. It is true of all
commits of a run exactly when every request that names a status finds, when it writes, the status
that it has read (`CveManagement.commitsLogged_iff`), which is what a `FOR UPDATE` would see to.
-/

namespace CveManagement

open Logbook Trajectory

/-! ### The race -/

/-- A request to edit the finding. -/
structure EditRequest where
  body : FindingUpdate
  user : AuthUser

/-- How far a request has come. -/
inductive EditProgress
  /-- It has not read yet. -/
  | waiting
  /-- It has read the finding. -/
  | reading (edit : FindingEdit)
  /-- It has failed, in its checks or in its transaction. -/
  | failed (e : ApiError)
  /-- Its transaction is committed. -/
  | committed

/-- The database and the requests on it. -/
structure EditRace (ι : Type) where
  db : Db
  progress : ι → EditProgress

variable {ι : Type}

/-- All requests are still to come. -/
def EditRace.start (db : Db) : EditRace ι := ⟨db, fun _ => .waiting⟩

variable [DecidableEq ι]

/-- **One turn**: request `i` takes its next step at a point in time. -/
def editTurn (productId : ℕ) (cveId : String) (requests : ι → EditRequest) (s : EditRace ι)
    (turn : ι × Instant) : EditRace ι :=
  let r := requests turn.1
  match s.progress turn.1 with
  | .waiting =>
    match updateFindingRead productId cveId r.body r.user s.db with
    | .error e => { s with progress := Function.update s.progress turn.1 (.failed e) }
    | .ok edit => { s with progress := Function.update s.progress turn.1 (.reading edit) }
  | .reading edit =>
    match updateFindingWrite turn.2 productId cveId r.body r.user edit s.db with
    -- the transaction is rolled back
    | .error e => { s with progress := Function.update s.progress turn.1 (.failed e) }
    | .ok (_, db) => ⟨db, Function.update s.progress turn.1 .committed⟩
  | .failed _ | .committed => s

/-- **A turn is logged truly**: a row that it adds to the history of the finding starts at the
status that was left by the commit before it, and ends at the one that it leaves; and if it changes
the status, it adds a row. -/
structure CommitLogged (productId : ℕ) (cveId : String) (requests : ι → EditRequest) (fid : ℕ)
    (s : EditRace ι) (turn : ι × Instant) : Prop where
  truthful : ∀ a b, (editTurn productId cveId requests s turn).db.changes fid =
    s.db.changes fid ++ [(a, b)] → s.db.statusOf fid = some a ∧
      (editTurn productId cveId requests s turn).db.statusOf fid = some b
  complete : (editTurn productId cveId requests s turn).db.statusOf fid ≠ s.db.statusOf fid →
    ∃ a b, (editTurn productId cveId requests s turn).db.changes fid =
      s.db.changes fid ++ [(a, b)]

omit [DecidableEq ι] in
/-- **A turn that writes a status finds the one that was read.** -/
def WritesCurrent (requests : ι → EditRequest) (fid : ℕ) (s : EditRace ι)
    (turn : ι × Instant) : Prop :=
  ∀ edit, s.progress turn.1 = .reading edit → (requests turn.1).body.newStatus.isSome = true →
    s.db.statusOf fid = some edit.oldStatus

omit [DecidableEq ι] in
/-- The rows added to a log chain from a status to the present one. -/
def ChainsSince (fid : ℕ) (st₀ : FindingStatus) (log : List (FindingStatus × FindingStatus))
    (s : EditRace ι) : Prop :=
  ∃ rows, s.db.changes fid = log ++ rows ∧
    ∀ st, s.db.statusOf fid = some st → Chained st₀ rows st

omit [DecidableEq ι] in
/-- **The invariant of every race**: the finding is there, and whoever has read, has read it. -/
structure EditInvariant (productId : ℕ) (cveId : String) (fid : ℕ) (s : EditRace ι) : Prop where
  finding : ∃ f, s.db.findingAt productId cveId = some f ∧ f.id = fid
  target : ∀ i edit, s.progress i = .reading edit → edit.findingId = fid

/-! ### What a turn does -/

section Turn

variable {productId : ℕ} {cveId : String} {requests : ι → EditRequest} {fid : ℕ}
  {s : EditRace ι} {turn : ι × Instant}

/-- **The turns**: a commit, and those that leave the database alone. -/
theorem editTurn_cases (productId : ℕ) (cveId : String) (requests : ι → EditRequest)
    (s : EditRace ι) (turn : ι × Instant) :
    (∃ edit row db, s.progress turn.1 = .reading edit ∧
        updateFindingWrite turn.2 productId cveId (requests turn.1).body (requests turn.1).user
          edit s.db = .ok (row, db) ∧
        editTurn productId cveId requests s turn =
          ⟨db, Function.update s.progress turn.1 .committed⟩) ∨
      (∃ edit, updateFindingRead productId cveId (requests turn.1).body (requests turn.1).user
          s.db = .ok edit ∧ s.progress turn.1 = .waiting ∧
        editTurn productId cveId requests s turn =
          { s with progress := Function.update s.progress turn.1 (.reading edit) }) ∨
      (∃ e, editTurn productId cveId requests s turn =
          { s with progress := Function.update s.progress turn.1 (.failed e) } ∧
        ∀ edit, s.progress turn.1 = .reading edit →
          (requests turn.1).body.newStatus = none) ∨
      editTurn productId cveId requests s turn = s ∧
        ∀ edit, s.progress turn.1 ≠ .reading edit := by
  rw [editTurn]
  cases hp : s.progress turn.1 with
  | waiting =>
    dsimp only
    cases hread : updateFindingRead productId cveId (requests turn.1).body (requests turn.1).user
        s.db with
    | error e => exact .inr (.inr (.inl ⟨e, rfl, fun edit h => by cases h⟩))
    | ok edit => exact .inr (.inl ⟨edit, rfl, rfl, rfl⟩)
  | reading edit =>
    dsimp only
    cases hwrite : updateFindingWrite turn.2 productId cveId (requests turn.1).body
        (requests turn.1).user edit s.db with
    | error e =>
      refine .inr (.inr (.inl ⟨e, rfl, fun _ _ => ?_⟩))
      -- only an empty status fails, and it names none
      rw [updateFindingWrite] at hwrite
      split at hwrite
      · rename_i hempty
        rw [FindingUpdate.newStatus, hempty.1]
        rfl
      · cases hwrite
    | ok r => exact .inl ⟨edit, r.1, r.2, rfl, hwrite, rfl⟩
  | failed e => exact .inr (.inr (.inr ⟨rfl, fun edit h => by cases h⟩))
  | committed => exact .inr (.inr (.inr ⟨rfl, fun edit h => by cases h⟩))

omit [DecidableEq ι] in
/-- The finding has a status. -/
theorem EditInvariant.statusOf (h : EditInvariant productId cveId fid s) :
    ∃ f, s.db.findingAt productId cveId = some f ∧ f.id = fid ∧
      s.db.statusOf fid = some f.status := by
  obtain ⟨f, hf, rfl⟩ := h.finding
  refine ⟨f, hf, rfl, ?_⟩
  rw [Db.statusOf, Table.get?_of_mem (Db.findingAt_mem hf).1, Option.map_some]

omit [DecidableEq ι] in
/-- **What a commit does to the finding**: its status, and its history. -/
theorem EditInvariant.commit (h : EditInvariant productId cveId fid s) {edit : FindingEdit}
    {row : Option Finding} {db : Db} (hp : s.progress turn.1 = .reading edit)
    (hwrite : updateFindingWrite turn.2 productId cveId (requests turn.1).body
      (requests turn.1).user edit s.db = .ok (row, db)) :
    ∃ st, s.db.statusOf fid = some st ∧
      db.statusOf fid = some ((requests turn.1).body.newStatus.getD st) ∧
      db.changes fid = s.db.changes fid ++
        ((requests turn.1).body.statusChange edit).toList.map fun b => (edit.oldStatus, b) := by
  obtain ⟨f, hf, rfl, hst⟩ := h.statusOf
  refine ⟨f.status, hst, ?_, ?_⟩
  · rw [statusOf_updateFindingWrite hwrite hf, if_pos rfl]
  · rw [changes_updateFindingWrite hwrite, if_pos (h.target _ _ hp)]

/-- A turn that is no commit keeps the invariant. -/
theorem EditInvariant.update (h : EditInvariant productId cveId fid s) {i : ι} {q : EditProgress}
    (hq : ∀ edit, q = .reading edit → edit.findingId = fid) :
    EditInvariant productId cveId fid { s with progress := Function.update s.progress i q } where
  finding := h.finding
  target j edit hj := by
    by_cases hji : j = i
    · subst hji
      exact hq edit ((Function.update_self _ _ _).symm.trans hj)
    · exact h.target j edit ((Function.update_of_ne hji _ _).symm.trans hj)

omit [DecidableEq ι] in
/-- A commit leaves the finding at its place. -/
theorem findingAt_updateFindingWrite {now : Instant} {body : FindingUpdate} {user : AuthUser}
    {edit : FindingEdit} {db db' : Db} {row : Option Finding} {f : Finding}
    (h : updateFindingWrite now productId cveId body user edit db = .ok (row, db'))
    (hf : db.findingAt productId cveId = some f) :
    ∃ g, db'.findingAt productId cveId = some g ∧ g.id = f.id := by
  obtain ⟨action, rfl⟩ := updateFindingWrite_ok h
  refine ⟨(body.assignment edit now).set f, ?_, Table.Assignment.key_set _ f⟩
  obtain ⟨-, hp, hc⟩ := Db.findingAt_mem hf
  have hupdate := Db.findingAt_updateFindings db
    (fun f => f.productId == productId && f.cveId == cveId) (body.assignment edit now)
    productId cveId
  rw [hf, Option.map_some, if_pos (by simp [hp, hc])] at hupdate
  rw [← hupdate, Db.findingAt, Db.findingAt, Db.findings_recordInTx, findings_logChange]

/-- **Every turn keeps the invariant.** -/
theorem EditInvariant.editTurn (h : EditInvariant productId cveId fid s) (turn : ι × Instant) :
    EditInvariant productId cveId fid (editTurn productId cveId requests s turn) := by
  rcases editTurn_cases productId cveId requests s turn with
    ⟨edit, row, db, hp, hwrite, heq⟩ | ⟨edit, hread, -, heq⟩ | ⟨e, heq, -⟩ | ⟨heq, -⟩
  · rw [heq]
    have hprogress := (h.update (i := turn.1) (q := .committed) fun _ hc => by cases hc).target
    refine ⟨?_, hprogress⟩
    obtain ⟨f, hf, rfl⟩ := h.finding
    exact findingAt_updateFindingWrite hwrite hf
  · rw [heq]
    refine h.update fun edit' hedit => ?_
    obtain ⟨-, -, f, hf, -, hid⟩ := updateFindingRead_eq_ok.mp hread
    obtain ⟨g, hg, rfl⟩ := h.finding
    obtain rfl := Option.some.inj (hf.symm.trans hg)
    obtain rfl := EditProgress.reading.inj hedit
    rw [hid]
  · rw [heq]
    exact h.update fun _ hc => by cases hc
  · rwa [heq]

/-- A turn that is no commit leaves the database alone, and does not write a status. -/
theorem editTurn_commit_or (productId : ℕ) (cveId : String) (requests : ι → EditRequest) (fid : ℕ)
    (s : EditRace ι) (turn : ι × Instant) :
    (∃ edit row db, s.progress turn.1 = .reading edit ∧
        updateFindingWrite turn.2 productId cveId (requests turn.1).body (requests turn.1).user
          edit s.db = .ok (row, db) ∧
        (editTurn productId cveId requests s turn).db = db) ∨
      (editTurn productId cveId requests s turn).db = s.db ∧
        WritesCurrent requests fid s turn := by
  rcases editTurn_cases productId cveId requests s turn with
    ⟨edit, row, db, hp, hwrite, heq⟩ | ⟨edit, -, hp, heq⟩ | ⟨e, heq, hnone⟩ | ⟨heq, hp⟩
  · exact .inl ⟨edit, row, db, hp, hwrite, by rw [heq]⟩
  · refine .inr ⟨by rw [heq], fun edit' hedit _ => ?_⟩
    rw [hp] at hedit
    cases hedit
  · refine .inr ⟨by rw [heq], fun edit hedit hsome => ?_⟩
    rw [hnone edit hedit] at hsome
    cases hsome
  · exact .inr ⟨by rw [heq], fun edit hedit _ => absurd hedit (hp edit)⟩

/-! ### When the log stays true -/

omit [DecidableEq ι] in
/-- The status found and the status read are one, in terms of the status found. -/
theorem writesCurrent_iff {edit : FindingEdit} {st : FindingStatus}
    (hp : s.progress turn.1 = .reading edit) (hst : s.db.statusOf fid = some st) :
    WritesCurrent requests fid s turn ↔
      ((requests turn.1).body.newStatus.isSome = true → edit.oldStatus = st) := by
  rw [WritesCurrent, hst]
  constructor
  · intro h hsome
    exact (Option.some.inj (h edit hp hsome)).symm
  · intro h edit' hedit hsome
    obtain rfl := EditProgress.reading.inj (hp.symm.trans hedit)
    rw [h hsome]

omit [DecidableEq ι] in
/-- The change of an edit, by the status it names. -/
theorem statusChange_cases (body : FindingUpdate) (edit : FindingEdit) :
    body.newStatus = none ∧ body.statusChange edit = none ∨
      body.newStatus = some edit.oldStatus ∧ body.statusChange edit = none ∨
      ∃ b, edit.oldStatus ≠ b ∧ body.newStatus = some b ∧ body.statusChange edit = some b := by
  rw [FindingUpdate.statusChange]
  cases body.newStatus with
  | none => exact .inl ⟨rfl, rfl⟩
  | some b =>
    by_cases hb : b = edit.oldStatus
    · exact .inr (.inl ⟨congrArg some hb, by simp [hb]⟩)
    · exact .inr (.inr ⟨b, Ne.symm hb, rfl, by simp [hb]⟩)

/-- A turn that adds no row is logged truly if it leaves the status. -/
theorem commitLogged_iff_of_unlogged
    (hlog : (editTurn productId cveId requests s turn).db.changes fid = s.db.changes fid) :
    CommitLogged productId cveId requests fid s turn ↔
      (editTurn productId cveId requests s turn).db.statusOf fid = s.db.statusOf fid := by
  have hnone : ∀ a b, (editTurn productId cveId requests s turn).db.changes fid ≠
      s.db.changes fid ++ [(a, b)] := by
    intro a b hrow
    rw [hlog, List.self_eq_append_right] at hrow
    cases hrow
  constructor
  · intro hlogged
    by_contra hdiff
    obtain ⟨a, b, hrow⟩ := hlogged.complete hdiff
    exact hnone a b hrow
  · intro hsame
    exact ⟨fun a b hrow => absurd hrow (hnone a b), fun hdiff => absurd hsame hdiff⟩

/-- A turn that adds a row for its status is logged truly if the row starts at the one before. -/
theorem commitLogged_iff_of_logged {a b : FindingStatus}
    (hlog : (editTurn productId cveId requests s turn).db.changes fid =
      s.db.changes fid ++ [(a, b)])
    (hafter : (editTurn productId cveId requests s turn).db.statusOf fid = some b) :
    CommitLogged productId cveId requests fid s turn ↔ s.db.statusOf fid = some a := by
  constructor
  · intro hlogged
    exact (hlogged.truthful a b hlog).1
  · intro hstart
    refine ⟨fun a' b' hrow => ?_, fun _ => ⟨a, b, hlog⟩⟩
    rw [hlog, List.append_cancel_left_eq] at hrow
    obtain ⟨rfl, rfl⟩ := Prod.mk.inj (List.singleton_inj.mp hrow)
    exact ⟨hstart, hafter⟩

/-- **A turn is logged truly exactly when it finds the status that was read.** -/
theorem commitLogged_iff (h : EditInvariant productId cveId fid s) :
    CommitLogged productId cveId requests fid s turn ↔ WritesCurrent requests fid s turn := by
  rcases editTurn_commit_or productId cveId requests fid s turn with
    ⟨edit, row, db, hp, hwrite, heq⟩ | ⟨heq, hcurrent⟩
  · obtain ⟨st, hst, hafter, hlog⟩ := h.commit hp hwrite
    rw [← heq] at hafter hlog
    rw [writesCurrent_iff hp hst]
    rcases statusChange_cases (requests turn.1).body edit with
      ⟨hnew, hchange⟩ | ⟨hnew, hchange⟩ | ⟨b, hne, hnew, hchange⟩
    · -- no status is named: none is changed
      rw [hnew, Option.getD_none] at hafter
      rw [hchange, Option.toList_none, List.map_nil, List.append_nil] at hlog
      rw [hnew, commitLogged_iff_of_unlogged hlog, hafter, hst]
      exact iff_of_true rfl fun hsome => by cases hsome
    · -- the status that was read is written, without a row
      rw [hnew, Option.getD_some] at hafter
      rw [hchange, Option.toList_none, List.map_nil, List.append_nil] at hlog
      rw [hnew, commitLogged_iff_of_unlogged hlog, hafter, hst]
      simp only [Option.some.injEq, Option.isSome_some, forall_const]
    · -- another status is written, with a row from the one that was read
      rw [hnew, Option.getD_some] at hafter
      rw [hchange, Option.toList_some, List.map_singleton] at hlog
      rw [hnew, commitLogged_iff_of_logged hlog hafter, hst]
      simp only [Option.some.injEq, Option.isSome_some, forall_const]
      exact eq_comm
  · refine iff_of_true ?_ hcurrent
    rw [commitLogged_iff_of_unlogged (congrArg (Db.changes · fid) heq), heq]

/-- **A turn keeps the rows chained exactly when it finds the status that was read.** -/
theorem ChainsSince.editTurn_iff {st₀ : FindingStatus} {log : List (FindingStatus × FindingStatus)}
    (h : EditInvariant productId cveId fid s) (hchains : ChainsSince fid st₀ log s) :
    ChainsSince fid st₀ log (editTurn productId cveId requests s turn) ↔
      WritesCurrent requests fid s turn := by
  rcases editTurn_commit_or productId cveId requests fid s turn with
    ⟨edit, row, db, hp, hwrite, heq⟩ | ⟨heq, hcurrent⟩
  · obtain ⟨st, hst, hafter, hlog⟩ := h.commit hp hwrite
    obtain ⟨rows, hrows, hchain⟩ := hchains
    have hst' := hchain st hst
    rw [writesCurrent_iff hp hst, ChainsSince, heq, hlog, hrows, hafter]
    simp only [List.append_assoc, List.append_cancel_left_eq, exists_eq_left', Option.some.injEq,
      forall_eq']
    rcases statusChange_cases (requests turn.1).body edit with
      ⟨hnew, hchange⟩ | ⟨hnew, hchange⟩ | ⟨b, hne, hnew, hchange⟩
    · rw [hnew, hchange]
      simpa using hst'
    · rw [hnew, hchange]
      simp only [Option.toList_none, List.map_nil, List.append_nil, Option.getD_some,
        Option.isSome_some, forall_const]
      exact ⟨fun hc => hc.last_eq hst', fun he => he ▸ hst'⟩
    · rw [hnew, hchange]
      simp only [Option.toList_some, List.map_singleton, Option.getD_some, Option.isSome_some,
        forall_const]
      exact (hst'.snoc_iff (e := (edit.oldStatus, b))).trans (and_iff_left hne)
  · refine iff_of_true ?_ hcurrent
    rw [ChainsSince, heq]
    exact hchains

end Turn

/-! ### The history of a race -/

omit [DecidableEq ι] in
theorem editInvariant_start {db : Db} {productId : ℕ} {cveId : String} {f : Finding}
    (hf : db.findingAt productId cveId = some f) :
    EditInvariant productId cveId f.id (EditRace.start db : EditRace ι) where
  finding := ⟨f, hf, rfl⟩
  target _ _ h := by cases h

/-- **The history is true of all commits of a race exactly when every write of a status finds the
one that was read**; and this is also when the rows of the race chain, at every point of it, from
the status that the finding had to the one that it has. -/
theorem commitsLogged_iff (db : Db) (productId : ℕ) (cveId : String) (requests : ι → EditRequest)
    {f : Finding} (hf : db.findingAt productId cveId = some f) (l : List (ι × Instant)) :
    (AllSteps (editTurn productId cveId requests) (CommitLogged productId cveId requests f.id)
        (EditRace.start db) l ↔
      AllSteps (editTurn productId cveId requests) (WritesCurrent requests f.id)
        (EditRace.start db) l) ∧
    (Throughout (editTurn productId cveId requests)
        (ChainsSince f.id f.status (db.changes f.id)) (EditRace.start db) l ↔
      AllSteps (editTurn productId cveId requests) (WritesCurrent requests f.id)
        (EditRace.start db) l) := by
  have hstart : EditInvariant productId cveId f.id (EditRace.start db : EditRace ι) :=
    editInvariant_start hf
  have hturn : ∀ (s : EditRace ι) turn, EditInvariant productId cveId f.id s →
      EditInvariant productId cveId f.id (editTurn productId cveId requests s turn) :=
    fun _ turn h => h.editTurn turn
  refine ⟨allSteps_congr hturn (fun _ _ h => commitLogged_iff h) hstart,
    throughout_iff_allSteps hturn (fun _ _ h hchains => hchains.editTurn_iff h) hstart
      ⟨[], ?_, ?_⟩⟩
  · exact (List.append_nil _).symm
  · intro st hst
    rw [EditRace.start, Db.statusOf, Table.get?_of_mem (Db.findingAt_mem hf).1] at hst
    exact Option.some.inj hst

/-- A product with an open finding. -/
def found : Db := step .sample ⟨0, .insertCirclFinding 1 "CVE-2024-0001"⟩

/-- Two analysts who take the finding up. -/
def twoEdits : Bool → EditRequest
  | true => ⟨.ofStatus "in_review", .alice⟩
  | false => ⟨.ofStatus "planned", .bob⟩

/-- One of them comes after the other. -/
theorem commitsLogged_oneByOne :
    found.findingAt 1 "CVE-2024-0001" =
        some (newFinding 0 1 "CVE-2024-0001" .uncertain "circl_fallback" none 1) ∧
      AllSteps (editTurn 1 "CVE-2024-0001" twoEdits) (CommitLogged 1 "CVE-2024-0001" twoEdits 1)
        (EditRace.start found) [(true, 1), (true, 2), (false, 3), (false, 4)] := by
  refine ⟨rfl, (commitsLogged_iff found 1 "CVE-2024-0001" twoEdits rfl _).1.mpr ?_⟩
  refine ⟨fun edit hread => (by cases hread), fun edit hread _ => ?_,
    fun edit hread => (by cases hread), fun edit hread _ => ?_, trivial⟩
  · obtain rfl := EditProgress.reading.inj hread
    rfl
  · -- the second one has read the status that the first one has set
    obtain rfl := EditProgress.reading.inj hread
    rfl

/-- **The log can lie**: both requests read, then both write. The second row starts at `open`,
which the first one has left. -/
theorem not_commitsLogged_stale :
    ∃ (db : Db) (productId : ℕ) (cveId : String) (requests : Bool → EditRequest) (f : Finding)
      (l : List (Bool × Instant)), db.findingAt productId cveId = some f ∧
      ¬AllSteps (editTurn productId cveId requests) (CommitLogged productId cveId requests f.id)
        (EditRace.start db) l := by
  refine ⟨found, 1, "CVE-2024-0001", twoEdits, _,
    [(true, 1), (false, 2), (true, 3), (false, 4)], rfl, fun h => ?_⟩
  obtain ⟨-, -, -, hplanned, -⟩ := h
  have hstart := (hplanned.truthful .opened .planned (by decide)).1
  have hreview : (run (editTurn 1 "CVE-2024-0001" twoEdits) (EditRace.start found)
      [(true, 1), (false, 2), (true, 3)]).db.statusOf 1 = some .inReview := by decide
  exact absurd (hreview.symm.trans hstart) (by decide)

end CveManagement
