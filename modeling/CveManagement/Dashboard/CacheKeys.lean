import CveManagement.Dashboard.Exposure
import CveManagement.Library.Decimal
import CveManagement.Library.Rounding
import CveManagement.Payload.Python
import Mathlib

/-!
# The keys of the dashboards

The six cached endpoints of `app/api/routers/dashboard.py` put the parameters of a request into the
key of its answer. What is left of them there (`CveManagement.DashboardRequest.key`) decides which
requests are given one answer: the numbers as they are clamped, the threshold to two decimals, and
the first forty characters of the keyword.

The text of a key says all of it (`CveManagement.DashboardKey.text_injective`), although a keyword
may be any text, colons included: it comes last.
-/

namespace CveManagement

/-! ### Requests and keys -/

/-- The query of a dashboard, as it is asked for. -/
inductive DashboardRequest
  | stats
  | timeline
  | triage (limitPerPanel deltaDays agingKevDays : ℤ) (epssThreshold : ℚ) (keyword : Option Text)
  | remediation (auditLimit : ℤ)
  | exposure (topLimit : ℤ)
  | exec (periodDays : ℤ)

/-- **What is left of a request in its key.** -/
inductive DashboardKey
  | stats
  | timeline
  | triage (limitPerPanel deltaDays agingKevDays : ℕ) (hundredths : Fin 101) (keyword : Text)
  | remediation (auditLimit : ℕ)
  | exposure (topLimit : ℕ)
  | exec (periodDays : ℕ)
  deriving DecidableEq

/-- `max(low, min(high, n))`. -/
def clampInt (low high : ℕ) (n : ℤ) : ℕ := (max (low : ℤ) (min (high : ℤ) n)).toNat

/-- `max(0.0, min(1.0, epss_threshold))`. -/
def clampThreshold (epss : ℚ) : ℚ := max 0 (min 1 epss)

theorem halfEven_clampThreshold (epss : ℚ) :
    0 ≤ Rounding.halfEven (clampThreshold epss * 100) ∧
      Rounding.halfEven (clampThreshold epss * 100) ≤ 100 := by
  have hlow : (0 : ℚ) ≤ clampThreshold epss := le_max_left ..
  have hhigh : clampThreshold epss ≤ 1 := max_le zero_le_one (min_le_left ..)
  have hfloor : 0 ≤ ⌊clampThreshold epss * 100⌋ := Int.floor_nonneg.mpr (by linarith)
  have hround : round (clampThreshold epss * 100) ≤ 100 := by
    have := round_le_add_half (clampThreshold epss * 100)
    have hlt : (round (clampThreshold epss * 100) : ℚ) < 101 := by linarith
    exact Int.lt_add_one_iff.mp (by exact_mod_cast hlt)
  have hround' : 0 ≤ round (clampThreshold epss * 100) := by
    rw [round_eq]
    exact Int.floor_nonneg.mpr (by linarith)
  unfold Rounding.halfEven
  split_ifs with htie
  · refine ⟨hfloor, ?_⟩
    have hle := Int.floor_le (clampThreshold epss * 100)
    have hcast : (⌊clampThreshold epss * 100⌋ : ℚ) ≤ 100 := by linarith
    exact_mod_cast hcast
  · exact ⟨hround', hround⟩

/-- The hundredths of `f"{epss_threshold:.2f}"`. -/
def thresholdHundredths (epss : ℚ) : Fin 101 :=
  ⟨(Rounding.halfEven (clampThreshold epss * 100)).toNat, by
    have := (halfEven_clampThreshold epss).2
    omega⟩

/-- `(keyword or '').strip().lower()[:40]`. -/
def keywordText (py : PyText) (keyword : Option Text) : Text :=
  (py.lower (py.strip (keyword.getD []))).take 40

/-- **The key of a request.** -/
def DashboardRequest.key (py : PyText) : DashboardRequest → DashboardKey
  | .stats => .stats
  | .timeline => .timeline
  | .triage limit delta aging epss keyword =>
    .triage (clampInt 1 50 limit) (clampInt 1 365 delta) (clampInt 1 365 aging)
      (thresholdHundredths epss) (keywordText py keyword)
  | .remediation auditLimit => .remediation (clampInt 1 200 auditLimit)
  | .exposure topLimit => .exposure (clampInt 1 50 topLimit)
  | .exec periodDays => .exec (clampInt 7 730 periodDays)

/-- The seconds for which an answer is kept. -/
def DashboardKey.ttlSeconds : DashboardKey → ℕ
  | .stats => 300
  | .timeline => 300
  | .triage .. => 60
  | .remediation _ => 30
  | .exposure _ => 300
  | .exec _ => 60

/-! ### The texts -/

/-- A number of hundredths with two decimals. -/
def hundredthsText (n : Fin 101) : Text :=
  [Nat.digitChar (n / 100), '.', Nat.digitChar (n / 10 % 10), Nat.digitChar (n % 10)]

/-- What every key begins with; `delete_pattern` deletes what begins with it. -/
def dashboardPrefix : Text := "dashboard:".toList

/-- **The text of a key.** -/
def DashboardKey.text : DashboardKey → Text
  | .stats => dashboardPrefix ++ "stats".toList
  | .timeline => dashboardPrefix ++ "timeline".toList
  | .triage limit delta aging hundredths keyword =>
    dashboardPrefix ++ "triage:l".toList ++ Nat.toDigits 10 limit ++ ":dd".toList ++
      Nat.toDigits 10 delta ++ ":ak".toList ++ Nat.toDigits 10 aging ++ ":epss".toList ++
      hundredthsText hundredths ++ ":k".toList ++ keyword
  | .remediation auditLimit => dashboardPrefix ++ "remediation:al".toList ++
      Nat.toDigits 10 auditLimit
  | .exposure topLimit => dashboardPrefix ++ "exposure:l".toList ++ Nat.toDigits 10 topLimit
  | .exec periodDays => dashboardPrefix ++ "exec:p".toList ++ Nat.toDigits 10 periodDays

/-- **Every key is one that the sweep of a writer deletes.** -/
theorem DashboardKey.isPrefix_text (k : DashboardKey) : dashboardPrefix <+: k.text := by
  cases k with
  | stats => exact List.prefix_append ..
  | timeline => exact List.prefix_append ..
  | triage limit delta aging hundredths keyword =>
    simp only [DashboardKey.text, List.append_assoc]
    exact List.prefix_append ..
  | remediation auditLimit =>
    rw [DashboardKey.text, List.append_assoc]
    exact List.prefix_append ..
  | exposure topLimit =>
    rw [DashboardKey.text, List.append_assoc]
    exact List.prefix_append ..
  | exec periodDays =>
    rw [DashboardKey.text, List.append_assoc]
    exact List.prefix_append ..

section Texts

variable {m n : ℕ} {s t : Text}

theorem toDigits_injective (h : Nat.toDigits 10 m = Nat.toDigits 10 n) : m = n := by
  rw [← @Nat.ofDigitChars_ten_toDigits m, h, Nat.ofDigitChars_ten_toDigits]

/-- A text up to a colon. -/
theorem eq_of_append_colon {s' t' : Text} (hs : ':' ∉ s) (ht : ':' ∉ t)
    (h : s ++ ':' :: s' = t ++ ':' :: t') : s = t ∧ s' = t' := by
  induction s generalizing t with
  | nil =>
    cases t with
    | nil => exact ⟨rfl, (List.cons.inj h).2⟩
    | cons c t => exact absurd ((List.cons.inj h).1 ▸ List.mem_cons_self) ht
  | cons c s ih =>
    cases t with
    | nil => exact absurd ((List.cons.inj h).1 ▸ List.mem_cons_self) hs
    | cons d t =>
      obtain ⟨rfl, htail⟩ := List.cons.inj h
      obtain ⟨rfl, hrest⟩ := ih (fun h => hs (List.mem_cons_of_mem _ h))
        (fun h => ht (List.mem_cons_of_mem _ h)) htail
      exact ⟨rfl, hrest⟩

theorem colon_notMem_toDigits : ':' ∉ Nat.toDigits 10 n :=
  fun h => absurd (Decimal.isDigit_of_mem_toDigits h) (by decide)

/-- A number up to a colon. -/
theorem eq_of_digits_append {s' t' : Text}
    (h : Nat.toDigits 10 m ++ (':' :: s') = Nat.toDigits 10 n ++ (':' :: t')) :
    m = n ∧ s' = t' := by
  obtain ⟨hdigits, hrest⟩ := eq_of_append_colon colon_notMem_toDigits colon_notMem_toDigits h
  exact ⟨toDigits_injective hdigits, hrest⟩

theorem hundredthsText_injective : Function.Injective hundredthsText := by
  intro a b h
  have hdigit : ∀ i < 10, ∀ j < 10, Nat.digitChar i = Nat.digitChar j → i = j := by decide
  simp only [hundredthsText, List.cons.injEq, and_true, true_and] at h
  obtain ⟨hunits, htenths, hlast⟩ := h
  have ha := a.isLt
  have hb := b.isLt
  have h₁ := hdigit _ (by omega) _ (by omega) hunits
  have h₂ := hdigit _ (by omega) _ (by omega) htenths
  have h₃ := hdigit _ (by omega) _ (by omega) hlast
  exact Fin.ext (by omega)

theorem colon_notMem_hundredthsText (a : Fin 101) : ':' ∉ hundredthsText a := by
  have hdigit : ∀ i < 10, ':' ≠ Nat.digitChar i := by decide
  have ha := a.isLt
  simp only [hundredthsText, List.mem_cons, List.not_mem_nil, or_false, not_or]
  exact ⟨hdigit _ (by omega), by decide, hdigit _ (by omega), hdigit _ (by omega)⟩

end Texts

/-- The dashboards. -/
inductive DashboardPanel
  | stats
  | timeline
  | triage
  | remediation
  | exposure
  | exec
  deriving DecidableEq

/-- The name of a dashboard. -/
def DashboardPanel.name : DashboardPanel → Text
  | .stats => "stats".toList
  | .timeline => "timeline".toList
  | .triage => "triage".toList
  | .remediation => "remediation".toList
  | .exposure => "exposure".toList
  | .exec => "exec".toList

/-- The dashboard of a key. -/
def DashboardKey.panel : DashboardKey → DashboardPanel
  | .stats => .stats
  | .timeline => .timeline
  | .triage .. => .triage
  | .remediation _ => .remediation
  | .exposure _ => .exposure
  | .exec _ => .exec

/-- The name of the dashboard in a text: what is before the second colon. -/
def panelName (t : Text) : Text := (t.drop 10).takeWhile (· != ':')

theorem DashboardKey.panelName_text (k : DashboardKey) : panelName k.text = k.panel.name := by
  cases k <;> rfl

theorem DashboardPanel.name_injective : Function.Injective DashboardPanel.name := by
  intro p p' h
  cases p <;> cases p' <;> first | rfl | exact absurd h (by decide)

/-- **The text of a key says all of it.** -/
theorem DashboardKey.text_injective : Function.Injective DashboardKey.text := by
  intro k k' h
  have hpanel : k.panel = k'.panel := by
    apply DashboardPanel.name_injective
    rw [← k.panelName_text, h, k'.panelName_text]
  cases k <;> cases k' <;> first | rfl | cases hpanel; done | skip
  case triage.triage limit delta aging epss keyword limit' delta' aging' epss' keyword' =>
    have hdd : ":dd".toList = [':', 'd', 'd'] := rfl
    have hak : ":ak".toList = [':', 'a', 'k'] := rfl
    have hepss : ":epss".toList = [':', 'e', 'p', 's', 's'] := rfl
    have hk : ":k".toList = [':', 'k'] := rfl
    simp only [DashboardKey.text, List.append_assoc, List.append_cancel_left_eq, hdd, hak, hepss,
      hk, List.cons_append, List.nil_append] at h
    -- field by field, each up to the colon that ends it
    obtain ⟨rfl, hdelta⟩ := eq_of_digits_append h
    simp only [List.cons.injEq, true_and] at hdelta
    obtain ⟨rfl, haging⟩ := eq_of_digits_append hdelta
    simp only [List.cons.injEq, true_and] at haging
    obtain ⟨rfl, hthreshold⟩ := eq_of_digits_append haging
    simp only [List.cons.injEq, true_and] at hthreshold
    obtain ⟨hhundredths, hkeyword⟩ := eq_of_append_colon (colon_notMem_hundredthsText _)
      (colon_notMem_hundredthsText _) hthreshold
    rw [hundredthsText_injective hhundredths, (List.cons.inj hkeyword).2]
  case remediation.remediation n n' =>
    rw [DashboardKey.text, DashboardKey.text, List.append_cancel_left_eq] at h
    rw [toDigits_injective h]
  case exposure.exposure n n' =>
    rw [DashboardKey.text, DashboardKey.text, List.append_cancel_left_eq] at h
    rw [toDigits_injective h]
  case exec.exec n n' =>
    rw [DashboardKey.text, DashboardKey.text, List.append_cancel_left_eq] at h
    rw [toDigits_injective h]

/-! ### Which requests share a key -/

/-- **What two requests have in common** that are given one answer. -/
def DashboardRequest.Shares (py : PyText) : DashboardRequest → DashboardRequest → Prop
  | .stats, .stats => True
  | .timeline, .timeline => True
  | .triage limit delta aging epss keyword, .triage limit' delta' aging' epss' keyword' =>
    clampInt 1 50 limit = clampInt 1 50 limit' ∧ clampInt 1 365 delta = clampInt 1 365 delta' ∧
      clampInt 1 365 aging = clampInt 1 365 aging' ∧
      Rounding.halfEven (clampThreshold epss * 100) =
        Rounding.halfEven (clampThreshold epss' * 100) ∧
      (py.lower (py.strip (keyword.getD []))).take 40 =
        (py.lower (py.strip (keyword'.getD []))).take 40
  | .remediation auditLimit, .remediation auditLimit' =>
    clampInt 1 200 auditLimit = clampInt 1 200 auditLimit'
  | .exposure topLimit, .exposure topLimit' => clampInt 1 50 topLimit = clampInt 1 50 topLimit'
  | .exec periodDays, .exec periodDays' => clampInt 7 730 periodDays = clampInt 7 730 periodDays'
  | _, _ => False

theorem thresholdHundredths_eq_iff {epss epss' : ℚ} :
    thresholdHundredths epss = thresholdHundredths epss' ↔
      Rounding.halfEven (clampThreshold epss * 100) =
        Rounding.halfEven (clampThreshold epss' * 100) := by
  have h := (halfEven_clampThreshold epss).1
  have h' := (halfEven_clampThreshold epss').1
  rw [thresholdHundredths, thresholdHundredths, Fin.mk.injEq]
  omega

theorem DashboardRequest.key_eq_iff {py : PyText} {q q' : DashboardRequest} :
    q.key py = q'.key py ↔ q.Shares py q' := by
  cases q <;> cases q' <;>
    simp [DashboardRequest.key, DashboardRequest.Shares, thresholdHundredths_eq_iff, keywordText]

/-- **Two requests have one text of a key exactly if** they are for the same dashboard, with the
same numbers once clamped, thresholds that round to the same hundredth, and keywords that begin
alike. -/
theorem DashboardRequest.text_key_eq_iff (py : PyText) (q q' : DashboardRequest) :
    (q.key py).text = (q'.key py).text ↔ q.Shares py q' := by
  rw [DashboardKey.text_injective.eq_iff, DashboardRequest.key_eq_iff]

theorem exposure_prefix :
    "dashboard:exposure:l".toList = dashboardPrefix ++ "exposure:l".toList := by
  decide +kernel

/-- The key of `dashboard_exposure`, as the reader of the database has it. -/
theorem text_key_exposure (py : PyText) (topLimit : ℤ) :
    ((DashboardRequest.exposure topLimit).key py).text =
      (exposureKey (clampTopLimit topLimit)).toList := by
  have hpos : 0 ≤ clampTopLimit topLimit := le_trans zero_le_one (le_max_left ..)
  obtain ⟨n, hn⟩ := Int.eq_ofNat_of_zero_le hpos
  have hclamp : clampInt 1 50 topLimit = n := by
    have : clampTopLimit topLimit = max 1 (min 50 topLimit) := rfl
    unfold clampInt
    omega
  have htext : (toString (n : ℤ)).toList = Nat.toDigits 10 n := by
    change (Nat.repr n).toList = _
    rw [Nat.repr, String.toList_ofList]
  rw [DashboardRequest.key, DashboardKey.text, hclamp, hn]
  unfold exposureKey
  rw [String.toList_append, htext]
  exact (congrArg (· ++ Nat.toDigits 10 n) exposure_prefix).symm

end CveManagement
