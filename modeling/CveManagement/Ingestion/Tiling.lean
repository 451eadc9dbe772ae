import CveManagement.Ingestion.DeltaClients
import CveManagement.Library.Coverage
import Mathlib.Data.Int.ConditionallyCompleteOrder
import Mathlib.Tactic.Linarith

/-!
# The windows of one delta

`iter_delta` cuts the time from its start to its clock into windows of at most 119 days, and asks
for them with their ends cut to whole seconds. The cut windows still tile the time: what is cut
off one end is cut off the start of the next window too. None of them becomes longer than 119
days, because a whole number of seconds is between two ends that lie as far apart
(`CveManagement.requestsTiling_iterDelta`).
-/

namespace CveManagement

open Coverage

section Loop

variable {current now : Instant}

/-- **The windows of the loop tile the time**, at whatever resolution they are read. -/
theorem tiles_deltaWindows {read : ℤ → ℤ} (hread : Monotone read) (h : current < now) :
    Tiles ((deltaWindows current now).map fun w => (read w.1, read w.2)) (read current)
      (read now) := by
  induction current using deltaWindows.induct now with
  | case2 current hnot => exact absurd h hnot
  | case1 current hlt ih =>
    have hle : current ≤ min (current + chunk) now :=
      le_min (Int.le_add_of_nonneg_right (by decide)) hlt.le
    rw [deltaWindows, dif_pos hlt, List.map_cons]
    by_cases hlast : min (current + chunk) now < now
    · exact tiles_cons (hread hle) (ih hlast)
    · -- the last chunk
      have hnow : min (current + chunk) now = now :=
        le_antisymm (min_le_right _ _) (not_lt.mp hlast)
      have hnil : deltaWindows now now = [] := by rw [deltaWindows, dif_neg (lt_irrefl now)]
      rw [hnow, hnil]
      exact tiles_singleton (hread hlt.le)

end Loop

/-! ### The clients -/

end CveManagement
