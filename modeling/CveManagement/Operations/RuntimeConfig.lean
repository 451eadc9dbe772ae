import CveManagement.Access.Tokens
import CveManagement.Egress.Opsec
import CveManagement.Library.LastWrite
import CveManagement.Webhooks.Secrets

/-!
# Values that are set at runtime

`PATCH /api/system/config` writes a value to Redis, where every process finds it and where it
survives a restart, and `GET /api/system/config` shows it, masked, before what the environment says.
But no client reads it there. The key of OpenCVE is the only one that is passed on, to the settings
of the one process that has handled the request; and of these the client has made its header, and
the scheduler its jobs, when the process was started.

So over any run of requests and restarts, what is shown is what was set last, by any process, and
what is sent is the key of the environment that the process was started with
(`CveManagement.ConfigWorld.shown_and_sent`). The masks show no more of a key than whether there is
one, whether it is longer than eight characters, and then its last four
(`CveManagement.ConfigWorld.keys_masked`).
-/

namespace CveManagement

open Trajectory

/-! ### The settings of a process -/

/-- **The settings** of `app/core/config.py` that the page is about, with `opsec_enforcement`. -/
structure Settings where
  nvdApiKey : Text
  vulncheckApiKey : Text
  opencveApiKey : Text
  opsecEnforcement : Bool

/-- The client that `__post_init__` of `OpenCveClient` makes: its header, and what it enforces. -/
structure OpenCveHttp where
  authorization : Option Text
  opsec : OpsecClient

/-- The header for a key. -/
def bearer (key : Text) : Text := "Bearer ".toList ++ key

/-- `__post_init__`. -/
def OpenCveHttp.init (settings : Settings) : OpenCveHttp where
  authorization :=
    if settings.opencveApiKey = [] then none else some (bearer settings.opencveApiKey)
  opsec := ⟨"opencve", decide (settings.opencveApiKey ≠ []) && settings.opsecEnforcement⟩

/-- `is_configured`. -/
def Settings.isConfigured (settings : Settings) : Bool := decide (settings.opencveApiKey ≠ [])

/-- **A process**, with the settings that the client of OpenCVE shares with it. -/
structure BackendProcess where
  settings : Settings
  opencve : OpenCveHttp
  /-- `create_scheduler` has added `opencve_poll`. -/
  polls : Bool

/-- The key of OpenCVE in the settings of a process is replaced. -/
def BackendProcess.withKey (process : BackendProcess) (key : Text) : BackendProcess :=
  { process with settings := { process.settings with opencveApiKey := key } }

/-- A process is started. -/
def BackendProcess.boot (env : Settings) : BackendProcess :=
  ⟨env, .init env, env.isConfigured⟩

/-! ### Polls -/

/-- A row of `subscriptions_opencve`, with the pages that `_poll_one` asks for. -/
structure OpenCveSubscription where
  vendor : String
  product : String
  pages : List ℕ

/-- A GET of `_poll_one`. -/
structure OpenCveRequest where
  http : OpenCveHttp
  vendor : String
  product : String
  page : ℕ

/-- The requests that a client makes for subscriptions. -/
def OpenCveHttp.requests (http : OpenCveHttp) (subs : List OpenCveSubscription) :
    List OpenCveRequest :=
  subs.flatMap fun sub => sub.pages.map fun page => ⟨http, sub.vendor, sub.product, page⟩

/-- **`opencve_poll`** on the leader, with `poll_subscriptions`. -/
def BackendProcess.poll (process : BackendProcess) (subs : List OpenCveSubscription) :
    List OpenCveRequest :=
  if process.polls && process.settings.isConfigured then process.opencve.requests subs else []

/-! ### What is shown -/

/-- An entry of `_CONFIG_ITEMS`. -/
structure ConfigEntry where
  key : String
  description : String

/-- `_CONFIG_ITEMS`. -/
def configEntries : List ConfigEntry :=
  [⟨"NVD_API_KEY", "NIST NVD API key — alza il rate limit da 5 a 50 req/30s. " ++
      "Gratuita su nvd.nist.gov/developers/request-an-api-key"⟩,
    ⟨"VULNCHECK_API_KEY", "VulnCheck NVD++ key — fonte primaria CVE (76.95% CPE coverage). " ++
      "Tier community gratuito su vulncheck.com"⟩,
    ⟨"OPENCVE_API_KEY", "OpenCVE API key — abilita query real-time per vendor/product. " ++
      "Gratuito su opencve.io"⟩,
    ⟨"EPSS_PROVIDER", "Provider score EPSS: 'first_org' (FIRST.org v3, default), " ++
      "'vulncheck' (da NVD++ enrichment), 'disabled'"⟩]

/-- The value, unless it is empty. -/
def orNone (v : Text) : Option Text := if v = [] then none else some v

/-- `_mask` of a value that is not empty. -/
def maskText (v : Text) : Text :=
  if v.length ≤ 8 then "••••".toList else "••••".toList ++ v.drop (v.length - 4)

/-- `_env_val`. -/
def Settings.envVal (settings : Settings) (key : String) : Option Text :=
  match key with
  | "NVD_API_KEY" => orNone settings.nvdApiKey
  | "VULNCHECK_API_KEY" => orNone settings.vulncheckApiKey
  | "OPENCVE_API_KEY" => orNone settings.opencveApiKey
  | "EPSS_PROVIDER" => some "first_org".toList
  | _ => none

/-- An item of the page. -/
structure ConfigItem where
  key : String
  isSet : Bool
  valueMasked : Option Text
  source : String
  description : String

/-- `is_secret`. -/
def isSecretKey (key : String) : Bool := "_KEY".toList.isSuffixOf key.toList

/-- **The item of an entry**, from what the settings and Redis have. -/
def ConfigEntry.item (entry : ConfigEntry) (settings : Settings) (redisVal : Option Text) :
    ConfigItem :=
  let stored := redisVal.bind orNone
  let effective := stored.or (settings.envVal entry.key)
  { key := entry.key
    isSet := effective.isSome
    valueMasked := if isSecretKey entry.key then effective.map maskText else effective
    source :=
      if stored.isSome then "db" else if (settings.envVal entry.key).isSome then "env" else "unset"
    description := entry.description }

/-! ### The processes and Redis -/

/-- **The processes**, the keys `cfg:…` of Redis, and the audit log. -/
structure ConfigWorld (π : Type) where
  redis : String → Option Text
  processes : π → BackendProcess
  audit : List WebhookAudit

/-- What comes of a PATCH. -/
inductive ConfigAnswer
  | refused (e : ApiError)
  | unknownKey (error : String)
  | ok (key : String)

/-- What happens next. -/
inductive ConfigEvent (π : Type)
  /-- A process is started, or started again. -/
  | boot (p : π) (env : Settings)
  | patch (p : π) (request : WebhookRequest) (key : String) (value : Text)

section Step

variable {π : Type} [DecidableEq π] (py : PyText) (mask : PyMask)

namespace ConfigWorld

/-- `get_config`, in a process. -/
def getConfig (s : ConfigWorld π) (p : π) : List ConfigItem :=
  configEntries.map fun entry => entry.item (s.processes p).settings (s.redis entry.key)

/-- The diff of a PATCH. -/
def patchDiff (key : String) (value : Text) : PyVal :=
  .dict [("key", .str key), ("value_set", .bool (decide (value ≠ [])))]

/-- The audit log after it. -/
def record (request : WebhookRequest) (key : String) (value : Text) (log : List WebhookAudit) :
    List WebhookAudit :=
  if request.audited then
    match mask.diffColumn (patchDiff key value) with
    | .ok column =>
      ⟨"system.config_update", "config", key, request.user.email, request.user.role, column,
        request.ipAddress, request.userAgent⟩ :: log
    | .error _ => log
  else log

/-- The key of OpenCVE is passed on to the settings of the process. -/
def passOn (key : String) (value : Text) (process : BackendProcess) : BackendProcess :=
  if key = "OPENCVE_API_KEY" then process.withKey value else process

/-- **`update_config`**, in a process. -/
def updateConfig (s : ConfigWorld π) (p : π) (request : WebhookRequest) (key : String)
    (value : Text) : ConfigWorld π × ConfigAnswer :=
  match requireRole ["admin"] request.user with
  | .error e => (s, .refused e)
  | .ok _ =>
    if key ∈ configEntries.map ConfigEntry.key then
      ({ redis := Function.update s.redis key (some (py.strip value))
         processes := Function.update s.processes p (passOn key (py.strip value) (s.processes p))
         audit := record mask request key value s.audit }, .ok key)
    else (s, .unknownKey ("Unknown config key: " ++ key))

end ConfigWorld

/-- **One event.** -/
def configStep (s : ConfigWorld π) : ConfigEvent π → ConfigWorld π
  | .boot p env => { s with processes := Function.update s.processes p (.boot env) }
  | .patch p request key value => (s.updateConfig py mask p request key value).1

end Step

/-- Every process is started, and nothing has been set. -/
def ConfigWorld.start {π : Type} (env : π → Settings) : ConfigWorld π :=
  ⟨fun _ => none, fun p => .boot (env p), []⟩

/-! ### What an event writes -/

section Writes

variable {π : Type} [DecidableEq π] (py : PyText)

namespace ConfigEvent

/-- A PATCH that is let through. -/
def Passes (request : WebhookRequest) (key : String) : Prop :=
  request.user.role = "admin" ∧ key ∈ configEntries.map ConfigEntry.key

instance (request : WebhookRequest) (key : String) : Decidable (Passes request key) :=
  inferInstanceAs (Decidable (_ ∧ _))

/-- The environment that a process is started with. -/
def bootOf (p : π) : ConfigEvent π → Option Settings
  | .boot q env => if q = p then some env else none
  | .patch .. => none

/-- What is set under a key, by any process. -/
def setUnder (key : String) : ConfigEvent π → Option Text
  | .boot .. => none
  | .patch _ request key' value =>
    if key' = key ∧ Passes request key' then some (py.strip value) else none

/-- The key of OpenCVE that a process gets, from the environment or from a request that it
handles itself. -/
def keyOf (p : π) : ConfigEvent π → Option Text
  | .boot q env => if q = p then some env.opencveApiKey else none
  | .patch q request key value =>
    if q = p ∧ key = "OPENCVE_API_KEY" ∧ Passes request key then some (py.strip value) else none

end ConfigEvent

namespace ConfigWorld

open ConfigEvent

/-- **The environment that a process runs with**, after a run. -/
def envAfter (env : π → Settings) (l : List (ConfigEvent π)) (p : π) : Settings :=
  (lastWrite (bootOf p) l).getD (env p)

/-- **The key of OpenCVE in the settings of a process**, after a run. -/
def keyAfter (env : π → Settings) (l : List (ConfigEvent π)) (p : π) : Text :=
  (lastWrite (keyOf py p) l).getD (env p).opencveApiKey

variable {py} {mask : PyMask} {env : π → Settings} {s : ConfigWorld π}

theorem requireRole_admin_iff (user : AuthUser) :
    (∃ u, requireRole ["admin"] user = .ok u) ↔ user.role = "admin" := by
  simp [requireRole_eq_ok_iff]

/-- **What a PATCH does**: all of it, or nothing. -/
theorem updateConfig_fst (s : ConfigWorld π) (p : π) (request : WebhookRequest) (key : String)
    (value : Text) : (s.updateConfig py mask p request key value).1 =
      if Passes request key then
        { redis := Function.update s.redis key (some (py.strip value))
          processes := Function.update s.processes p (passOn key (py.strip value) (s.processes p))
          audit := record mask request key value s.audit }
      else s := by
  rw [updateConfig]
  cases hrole : requireRole ["admin"] request.user with
  | error e =>
    have hnot : ¬Passes request key := by
      rintro ⟨hadmin, -⟩
      obtain ⟨u, hu⟩ := (requireRole_admin_iff request.user).mpr hadmin
      rw [hrole] at hu
      cases hu
    rw [if_neg hnot]
  | ok u =>
    have hadmin := (requireRole_admin_iff request.user).mp ⟨u, hrole⟩
    dsimp only
    by_cases hkey : key ∈ configEntries.map ConfigEntry.key
    · rw [if_pos hkey, if_pos ⟨hadmin, hkey⟩]
    · rw [if_neg hkey, if_neg fun h => hkey h.2]

variable (py mask) in
/-- What is in Redis is overwritten by any process. -/
theorem redis_step (key : String) (s : ConfigWorld π) (e : ConfigEvent π) :
    (configStep py mask s e).redis key =
      ((setUnder py key e).map some).getD (s.redis key) := by
  cases e with
  | boot p env => rfl
  | patch p request key' value =>
    rw [configStep, updateConfig_fst, setUnder]
    by_cases hpass : Passes request key'
    · rw [if_pos hpass]
      by_cases hkey : key' = key
      · rw [if_pos ⟨hkey, hpass⟩, ← hkey]
        exact Function.update_self _ _ _
      · rw [if_neg fun h => hkey h.1]
        exact Function.update_of_ne (Ne.symm hkey) _ _
    · rw [if_neg hpass, if_neg fun h => hpass h.2]
      rfl

/-- **A process after a start**: it is made anew, if it is the one. -/
theorem processes_boot (s : ConfigWorld π) (q : π) (env : Settings) (p : π) :
    (configStep py mask s (.boot q env)).processes p =
      if q = p then .boot env else s.processes p := by
  change Function.update s.processes q _ p = _
  by_cases hq : q = p
  · rw [if_pos hq, hq, Function.update_self]
  · rw [if_neg hq, Function.update_of_ne (Ne.symm hq)]

/-- **A process after a PATCH**: the value is passed on to it, if it has handled the request. -/
theorem processes_patch (s : ConfigWorld π) (q : π) (request : WebhookRequest) (key : String)
    (value : Text) (p : π) : (configStep py mask s (.patch q request key value)).processes p =
      if q = p ∧ Passes request key then passOn key (py.strip value) (s.processes p)
      else s.processes p := by
  rw [configStep, updateConfig_fst]
  by_cases hpass : Passes request key
  · rw [if_pos hpass]
    dsimp only
    by_cases hq : q = p
    · rw [if_pos ⟨hq, hpass⟩, hq, Function.update_self]
    · rw [if_neg fun h => hq h.1, Function.update_of_ne (Ne.symm hq)]
  · rw [if_neg hpass, if_neg fun h => hpass h.2]

variable (py mask) in
/-- **The key in the settings of a process** is overwritten by its start and its requests. -/
theorem key_step (p : π) (s : ConfigWorld π) (e : ConfigEvent π) :
    ((configStep py mask s e).processes p).settings.opencveApiKey =
      (keyOf py p e).getD (s.processes p).settings.opencveApiKey := by
  cases e with
  | boot q env =>
    rw [processes_boot, keyOf]
    split_ifs <;> rfl
  | patch q request key value =>
    rw [processes_patch, keyOf]
    by_cases hpass : q = p ∧ Passes request key
    · rw [if_pos hpass, passOn]
      by_cases hkey : key = "OPENCVE_API_KEY"
      · rw [if_pos hkey, if_pos ⟨hpass.1, hkey, hpass.2⟩]
        rfl
      · rw [if_neg hkey, if_neg fun h => hkey h.2.1]
        rfl
    · rw [if_neg hpass, if_neg fun h => hpass ⟨h.1, h.2.2⟩]
      rfl

variable (py mask) in
/-- **The rest of a process** is overwritten by its start only. -/
theorem rest_step (p : π) (s : ConfigWorld π) (e : ConfigEvent π) :
    ((configStep py mask s e).processes p).withKey [] =
      ((bootOf p e).map fun env => (BackendProcess.boot env).withKey []).getD
        ((s.processes p).withKey []) := by
  cases e with
  | boot q env =>
    rw [processes_boot, bootOf]
    split_ifs <;> rfl
  | patch q request key value =>
    rw [processes_patch]
    split_ifs with hpass
    · rw [passOn]
      split_ifs <;> rfl
    · rfl

variable (py mask) in
/-- **A process after a run**: as it was started last, but for the key in its settings. -/
theorem processes_run (env : π → Settings) (l : List (ConfigEvent π)) (p : π) :
    (run (configStep py mask) (start env) l).processes p =
      (BackendProcess.boot (envAfter env l p)).withKey (keyAfter py env l p) := by
  have hkey := run_eq_lastWrite (fun s : ConfigWorld π =>
    (s.processes p).settings.opencveApiKey) (key_step py mask p) (start env) l
  have hrest := run_eq_lastWrite (fun s : ConfigWorld π => (s.processes p).withKey [])
    (rest_step py mask p) (start env) l
  rw [lastWrite_map] at hrest
  have hboot : ((run (configStep py mask) (start env) l).processes p).withKey [] =
      (BackendProcess.boot (envAfter env l p)).withKey [] := by
    rw [hrest, envAfter]
    cases lastWrite (bootOf p) l <;> rfl
  calc (run (configStep py mask) (start env) l).processes p
      = (((run (configStep py mask) (start env) l).processes p).withKey []).withKey
          ((run (configStep py mask) (start env) l).processes p).settings.opencveApiKey := rfl
    _ = (BackendProcess.boot (envAfter env l p)).withKey (keyAfter py env l p) := by
        rw [hboot, hkey]
        rfl

/-- **What is shown, and what is sent**: over any run, the page of a process shows what any process
has set last under a key, or else what is in its settings; and its polls are sent with the key of
the environment that it was started with, under the enforcement that is set there, as long as that
key is there and the one in its settings is not empty. -/
theorem shown_and_sent (py : PyText) (mask : PyMask) (env : π → Settings)
    (l : List (ConfigEvent π)) (p : π) :
    (run (configStep py mask) (start env) l).getConfig p = configEntries.map (fun entry =>
        entry.item { envAfter env l p with opencveApiKey := keyAfter py env l p }
          (lastWrite (setUnder py entry.key) l)) ∧
      ∀ subs, ((run (configStep py mask) (start env) l).processes p).poll subs =
        if (envAfter env l p).opencveApiKey ≠ [] ∧ keyAfter py env l p ≠ [] then
          OpenCveHttp.requests ⟨some (bearer (envAfter env l p).opencveApiKey),
            ⟨"opencve", (envAfter env l p).opsecEnforcement⟩⟩ subs
        else [] := by
  have hprocess := processes_run py mask env l p
  constructor
  · rw [getConfig, hprocess]
    refine List.map_congr_left fun entry _ => congrArg _ ?_
    have hredis := run_eq_lastWrite (fun s : ConfigWorld π => s.redis entry.key)
      (redis_step py mask entry.key) (start env) l
    rw [lastWrite_map] at hredis
    rw [hredis]
    cases lastWrite (setUnder py entry.key) l <;> rfl
  · intro subs
    rw [hprocess, BackendProcess.poll]
    by_cases henv : (envAfter env l p).opencveApiKey = []
    · rw [if_neg (by simp [BackendProcess.withKey, BackendProcess.boot, Settings.isConfigured,
        henv]), if_neg fun h => h.1 henv]
    · by_cases hkey : keyAfter py env l p = []
      · rw [if_neg (by simp [BackendProcess.withKey, BackendProcess.boot, Settings.isConfigured,
          hkey]), if_neg fun h => h.2 hkey]
      · rw [if_pos (by simp [BackendProcess.withKey, BackendProcess.boot, Settings.isConfigured,
          henv, hkey]), if_pos ⟨henv, hkey⟩]
        simp [BackendProcess.withKey, BackendProcess.boot, OpenCveHttp.init, henv]

end ConfigWorld

end Writes

/-- An environment with a key for OpenCVE only. -/
def Settings.ofKey (key : String) : Settings := ⟨[], [], key.toList, true⟩

/-- A request of an administrator. -/
def adminRequest : WebhookRequest := ⟨⟨1, "admin@example.com", "admin"⟩, none, none, true⟩

example :
    let s := run (configStep .ascii .ascii) (.start fun _ : Unit => .ofKey "key-from-the-start")
      [.patch () adminRequest "OPENCVE_API_KEY" "key-set-later".toList]
    (s.getConfig ()).map ConfigItem.valueMasked =
        [none, none, some "••••ater".toList, some "first_org".toList] ∧
      ((s.processes ()).poll [⟨"apache", "log4j", [1]⟩]).map (fun r => r.http.authorization) =
        [some "Bearer key-from-the-start".toList] := by
  decide

/-! ### Keys of which the masks show the same -/

/-- **Two values with the same mask**: the same one, two short ones, or two long ones with the same
last four characters. -/
inductive MaskAlike (v w : Text) : Prop
  | same (h : v = w)
  | short (hv : v ≠ []) (hw : w ≠ []) (hv8 : v.length ≤ 8) (hw8 : w.length ≤ 8)
  | long (hv : 8 < v.length) (hw : 8 < w.length)
    (h : v.drop (v.length - 4) = w.drop (w.length - 4))

/-- Two values of a key: of one that is no API key they are the same. -/
def ValueAlike (key : String) (v w : Text) : Prop :=
  v = w ∨ isSecretKey key = true ∧ MaskAlike v w

/-- Two environments with other API keys. -/
structure Settings.Alike (settings settings' : Settings) : Prop where
  nvd : MaskAlike settings.nvdApiKey settings'.nvdApiKey
  vulncheck : MaskAlike settings.vulncheckApiKey settings'.vulncheckApiKey
  opencve : MaskAlike settings.opencveApiKey settings'.opencveApiKey

/-- **Two events with other API keys.** -/
inductive ConfigEvent.Alike {π : Type} (py : PyText) : ConfigEvent π → ConfigEvent π → Prop
  | boot (p : π) {env env' : Settings} (h : env.Alike env') : Alike py (.boot p env) (.boot p env')
  | patch (p : π) (request : WebhookRequest) (key : String) {value value' : Text}
      (h : ValueAlike key (py.strip value) (py.strip value')) (hempty : value = [] ↔ value' = []) :
    Alike py (.patch p request key value) (.patch p request key value')

/-- Two worlds with other API keys. -/
structure ConfigWorld.Alike {π : Type} (s s' : ConfigWorld π) : Prop where
  redis : ∀ key, Option.Rel (ValueAlike key) (s.redis key) (s'.redis key)
  settings : ∀ p, (s.processes p).settings.Alike (s'.processes p).settings
  audit : s.audit = s'.audit

section Masks

variable {v w : Text}

theorem MaskAlike.nil_iff (h : MaskAlike v w) : v = [] ↔ w = [] := by
  cases h with
  | same h => rw [h]
  | short hv hw => exact iff_of_false hv hw
  | long hv hw =>
    exact iff_of_false (List.ne_nil_of_length_pos (by omega))
      (List.ne_nil_of_length_pos (by omega))

theorem MaskAlike.maskText_eq (h : MaskAlike v w) : maskText v = maskText w := by
  cases h with
  | same h => rw [h]
  | short _ _ hv8 hw8 => rw [maskText, maskText, if_pos hv8, if_pos hw8]
  | long hv hw h => rw [maskText, maskText, if_neg (not_le.mpr hv), if_neg (not_le.mpr hw), h]

/-- **All that is shown of a value**, if there is one. -/
theorem MaskAlike.map_orNone (h : MaskAlike v w) :
    (orNone v).map maskText = (orNone w).map maskText := by
  by_cases hv : v = []
  · rw [orNone, orNone, if_pos hv, if_pos (h.nil_iff.mp hv)]
  · rw [orNone, orNone, if_neg hv, if_neg fun hw => hv (h.nil_iff.mpr hw), Option.map_some,
      Option.map_some, h.maskText_eq]

theorem Settings.Alike.map_envVal {settings settings' : Settings} (h : settings.Alike settings')
    (key : String) :
    (settings.envVal key).map maskText = (settings'.envVal key).map maskText := by
  unfold Settings.envVal
  split
  · exact h.nvd.map_orNone
  · exact h.vulncheck.map_orNone
  · exact h.opencve.map_orNone
  · rfl
  · rfl

/-- The item of an API key shows the masks of what is stored and of what is set. -/
theorem ConfigEntry.item_eq_of_mask {entry : ConfigEntry} (hkey : isSecretKey entry.key = true)
    {settings settings' : Settings} {stored stored' : Option Text}
    (hstored : (stored.bind orNone).map maskText = (stored'.bind orNone).map maskText)
    (henv : (settings.envVal entry.key).map maskText =
      (settings'.envVal entry.key).map maskText) :
    entry.item settings stored = entry.item settings' stored' := by
  have hsome : (stored.bind orNone).isSome = (stored'.bind orNone).isSome := by
    rw [← Option.isSome_map, hstored, Option.isSome_map]
  have henvSome : (settings.envVal entry.key).isSome = (settings'.envVal entry.key).isSome := by
    rw [← Option.isSome_map, henv, Option.isSome_map]
  have heffective : ((stored.bind orNone).or (settings.envVal entry.key)).map maskText =
      ((stored'.bind orNone).or (settings'.envVal entry.key)).map maskText := by
    rw [Option.map_or, Option.map_or, hstored, henv]
  simp only [item, if_pos hkey, Option.isSome_or, hsome, henvSome, heffective]

/-- The keys of the page are API keys, but for one. -/
theorem isSecretKey_or {entry : ConfigEntry} (h : entry ∈ configEntries) :
    isSecretKey entry.key = true ∨
      isSecretKey entry.key = false ∧ entry.key = "EPSS_PROVIDER" := by
  revert entry
  rw [configEntries]
  simp only [List.forall_mem_cons]
  exact ⟨.inl (by decide), .inl (by decide), .inl (by decide), .inr (by decide),
    List.forall_mem_nil _⟩

end Masks

namespace ConfigWorld

section AlikeRuns

variable {π : Type} {py : PyText} {mask : PyMask} {s s' : ConfigWorld π}

/-- **The page is the same in both worlds.** -/
theorem Alike.getConfig_eq (h : s.Alike s') (p : π) : s.getConfig p = s'.getConfig p := by
  refine List.map_congr_left fun entry hentry => ?_
  have hredis := h.redis entry.key
  rcases isSecretKey_or hentry with hkey | ⟨hkey, hname⟩
  · refine ConfigEntry.item_eq_of_mask hkey ?_ ((h.settings p).map_envVal _)
    generalize s.redis entry.key = stored at hredis
    generalize s'.redis entry.key = stored' at hredis
    cases hredis with
    | none => rfl
    | some hvalue =>
      rcases hvalue with rfl | ⟨-, hvalue⟩
      · rfl
      · exact hvalue.map_orNone
  · have hsame : s.redis entry.key = s'.redis entry.key := by
      generalize s.redis entry.key = stored at hredis
      generalize s'.redis entry.key = stored' at hredis
      cases hredis with
      | none => rfl
      | some hvalue =>
        rcases hvalue with rfl | ⟨hsecret, -⟩
        · rfl
        · rw [hkey] at hsecret
          cases hsecret
    have henv : ∀ settings : Settings, settings.envVal entry.key = some "first_org".toList := by
      intro settings
      rw [hname]
      rfl
    simp only [ConfigEntry.item, hsame, henv]

variable [DecidableEq π]

theorem passOn_settings (key : String) (value : Text) (process : BackendProcess) :
    (passOn key value process).settings =
      if key = "OPENCVE_API_KEY" then { process.settings with opencveApiKey := value }
      else process.settings := by
  rw [passOn]
  split_ifs <;> rfl

/-- **What one event does in both worlds.** -/
theorem Alike.step (h : s.Alike s') {e e' : ConfigEvent π} (he : e.Alike py e') :
    (configStep py mask s e).Alike (configStep py mask s' e') := by
  cases he with
  | @boot p env env' henv =>
    refine ⟨h.redis, fun q => ?_, h.audit⟩
    rw [configStep, configStep]
    dsimp only
    by_cases hq : q = p
    · rw [hq, Function.update_self, Function.update_self]
      exact henv
    · rw [Function.update_of_ne hq, Function.update_of_ne hq]
      exact h.settings q
  | @patch p request key value value' hvalue hempty =>
    rw [configStep, configStep, updateConfig_fst, updateConfig_fst]
    by_cases hpass : ConfigEvent.Passes request key
    · rw [if_pos hpass, if_pos hpass]
      refine ⟨fun key' => ?_, fun q => ?_, ?_⟩
      · dsimp only
        by_cases hkey : key' = key
        · rw [hkey, Function.update_self, Function.update_self]
          exact .some hvalue
        · rw [Function.update_of_ne hkey, Function.update_of_ne hkey]
          exact h.redis key'
      · dsimp only
        by_cases hq : q = p
        · rw [hq, Function.update_self, Function.update_self, passOn_settings, passOn_settings]
          have hsettings := h.settings p
          split_ifs with hkey
          · refine ⟨hsettings.nvd, hsettings.vulncheck, ?_⟩
            exact hvalue.elim .same And.right
          · exact hsettings
        · rw [Function.update_of_ne hq, Function.update_of_ne hq]
          exact h.settings q
      · -- whether a value was set is all that the diff has of it
        have hset : decide (value ≠ []) = decide (value' ≠ []) :=
          decide_eq_decide.mpr (not_congr hempty)
        dsimp only
        rw [record, record, patchDiff, patchDiff, hset, h.audit]
    · rw [if_neg hpass, if_neg hpass]
      exact h

theorem Alike.run {l l' : List (ConfigEvent π)} (hl : List.Forall₂ (ConfigEvent.Alike py) l l')
    (h : s.Alike s') :
    (run (configStep py mask) s l).Alike (run (configStep py mask) s' l') := by
  induction hl generalizing s s' with
  | nil => exact h
  | cons he _ ih => exact ih (h.step he)

/-- **No one reads the keys**: in two runs that differ in API keys only, of which each has the mask
of the other, the pages of all processes and the audit logs are the same. -/
theorem keys_masked (py : PyText) (mask : PyMask) {env env' : π → Settings}
    (henv : ∀ p, (env p).Alike (env' p)) {l l' : List (ConfigEvent π)}
    (hl : List.Forall₂ (ConfigEvent.Alike py) l l') :
    (∀ p, (Trajectory.run (configStep py mask) (start env) l).getConfig p =
        (Trajectory.run (configStep py mask) (start env') l').getConfig p) ∧
      (Trajectory.run (configStep py mask) (start env) l).audit =
        (Trajectory.run (configStep py mask) (start env') l').audit := by
  have hstart : (start env).Alike (start env') := ⟨fun _ => .none, henv, rfl⟩
  have h : (Trajectory.run (configStep py mask) (start env) l).Alike
      (Trajectory.run (configStep py mask) (start env') l') := hstart.run hl
  exact ⟨h.getConfig_eq, h.audit⟩

theorem keys_masked_one :
    ((Trajectory.run (configStep .ascii .ascii) (start fun _ : Unit => .ofKey "a-key-with-1234")
        [.patch () adminRequest "OPENCVE_API_KEY" "another-5678".toList]).getConfig ()) =
      (Trajectory.run (configStep .ascii .ascii) (start fun _ : Unit => .ofKey "other-1234")
        [.patch () adminRequest "OPENCVE_API_KEY" "unlike-5678".toList]).getConfig () := by
  have henv : ∀ _ : Unit, (Settings.ofKey "a-key-with-1234").Alike (.ofKey "other-1234") :=
    fun _ => ⟨.same rfl, .same rfl, .long (by decide) (by decide) (by decide)⟩
  have hpatch : (ConfigEvent.patch () adminRequest "OPENCVE_API_KEY" "another-5678".toList).Alike
      .ascii (.patch () adminRequest "OPENCVE_API_KEY" "unlike-5678".toList) :=
    .patch _ _ _ (.inr ⟨by decide, .long (by decide) (by decide) (by decide)⟩) (by decide)
  exact (keys_masked .ascii .ascii henv (.cons hpatch .nil)).1 ()

end AlikeRuns

end ConfigWorld

end CveManagement
