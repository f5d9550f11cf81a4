import Mujian.Billing.SessionTotals
import Mujian.Foundations.Text
import Mujian.Relay.ModelPrice

/-!
# The submission of a task

`relayTaskSubmit` prices the request per call, multiplies the price by the ratios that the adaptor
estimates, reserves the quota, and sends the request. For a remix, `resolveOriginTask` first puts
the ratios of the origin into the price data, if it does not fail on the missing channel of the
request (`resolveOriginTask_of_remix`). The order in which a map of ratios is ranged over is part of
the environment.
-/

namespace Mujian.Tasks

open Pricing Relay Billing
/-- A map from names to ratios. -/
abbrev Ratios := List (String × ℚ)

def Ratios.set (ratios : Ratios) (key : String) (ratio : ℚ) : Ratios :=
  if key ∈ ratios.map Prod.fst then ratios.map fun r => if r.1 = key then (key, ratio) else r
  else ratios ++ [(key, ratio)]

/-! ## Errors -/

/-- `dto.TaskError`. -/
structure TaskError where
  (code message : String)
  statusCode : ℤ
  localError : Bool := false
  deriving DecidableEq

/-- How a submission can end without a result. -/
inductive Failure
  | error (e : TaskError)
  | panicked
  deriving DecidableEq

section

variable (s : String) (mask : String → String) (text code : String) (statusCode : ℤ)

/-- The addresses in a text that may hold one are masked. -/
def shownText (text : String) : String :=
  let lowerText := text.toLower
  if textContains lowerText "post" || textContains lowerText "dial" || textContains lowerText "http"
  then mask text else text

def taskErrorWrapper : Failure := .error ⟨code, shownText mask text, statusCode, false⟩

def taskErrorWrapperLocal : Failure := .error ⟨code, shownText mask text, statusCode, true⟩

def errorCodeText : ErrorCode → String
  | .preConsumeTokenQuotaFailed => "pre_consume_token_quota_failed"
  | .insufficientUserQuota => "insufficient_user_quota"
  | .updateDataError => "update_data_error"
  | .queryDataError => "query_data_error"

/-- Errors of the database are internal, the others mean that there is too little quota. -/
def sessionStatusCode : SessionError → ℤ
  | .updateData _ | .queryData _ => 500
  | .tokenQuota _ _ | .fundingInsufficient _ | .subscriptionInsufficient _ | .walletEmpty _
  | .walletShort _ _ => 403

def taskErrorFromAPIError (formatQuota : ℤ → String) (e : SessionError) : Failure :=
  .error ⟨errorCodeText e.errorCode, e.message formatQuota, sessionStatusCode e, false⟩

structure TaskRelay where
  info : RelayInfo
  (action originTaskID publicTaskID upstreamModelName : String := "")
  lockedChannel : Option ℤ := none
  (channelBaseUrl apiKey : String := "")
  /-- The quota per call, a field of the price data that only tasks use. -/
  quota : ℤ := 0
  billing : Option BillingSession := none
  deriving DecidableEq

def addOtherRatio (data : PriceData) (key : String) (ratio : ℚ) : PriceData :=
  if ratio ≤ 0 then data else { data with otherRatios := Ratios.set data.otherRatios key ratio }

def TaskRelay.setPriceData (task : TaskRelay) (data : PriceData) (quota : ℤ) : TaskRelay :=
  { task with info := { task.info with priceData := data }, quota := quota }

/-! ## The origin of a remix -/

structure TaskBillingContext where
  (modelPrice groupRatio modelRatio : ℚ)
  otherRatios : Ratios
  originModelName : String
  perCallBilling : Bool

/-- The columns of the origin task that a remix reads. Of its data these are three fields, where
they are texts. -/
structure OriginTask where
  channelId : ℤ
  (originModelName upstreamModelName : String)
  billingContext : Option TaskBillingContext
  (dataModel dataSeconds dataSize : Option String := none)

structure OriginChannel where
  channelType : ℤ
  enabled : Bool
  baseURL : String
  nextKey : Except (String × ℤ) String

/-- What a remix finds outside. -/
structure OriginEnv where
  (path videoID : String)
  getByTaskId : ℤ → String → Except String (Option OriginTask)
  getChannelById : ℤ → Except String OriginChannel
  mask : String → String
  float : FloatFormat

def taskActionRemix : String := "remixGenerate"

/-- The value of a text of digits with an optional sign, of any size. -/
def decimal? : Option ℤ :=
  let (sign, digits) : ℤ × List Char :=
    match s.toList with
    | '-' :: rest => (-1, rest)
    | '+' :: rest => (1, rest)
    | rest => (1, rest)
  if digits = [] ∨ ¬digits.all Char.isDigit then none
  else some (sign * digits.foldl (fun n c => 10 * n + (c.toNat - '0'.toNat : ℤ)) 0)

/-- The number that `strconv.Atoi` returns beside its error: the nearest integer, or 0 for a text
that is no number. -/
def atoiValue : ℤ := ((decimal? s).map fun n => max minInt (min maxInt n)).getD 0

end

section

variable (env : OriginEnv)

section

variable (origin : OriginTask) (task : TaskRelay)

/-- A path that ends in `/remix` asks for a remix of the video in it. -/
def detectRemix : Except Failure TaskRelay :=
  let remix := textContains env.path "/v1/videos/" && "/remix".toList <:+ env.path.toList
  let task := if remix then { task with action := taskActionRemix } else task
  if task.action = taskActionRemix then
    if trimSpace env.videoID = "" then
      .error (taskErrorWrapperLocal env.mask "video_id is required" "invalid_request" 400)
    else .ok { task with originTaskID := env.videoID }
  else .ok task

def findOrigin : Except Failure OriginTask :=
  match env.getByTaskId task.info.userId task.originTaskID with
  | .error e => .error (taskErrorWrapper env.mask e "get_origin_task_failed" 500)
  | .ok none => .error (taskErrorWrapperLocal env.mask "task_origin_not_exist" "task_not_exist" 400)
  | .ok (some origin) => .ok origin

/-- The model of the origin is the model of the request, unless this names one. -/
def deriveModelName : TaskRelay :=
  if task.info.originModelName ≠ "" then task
  else
    let name :=
      if origin.originModelName ≠ "" then origin.originModelName
      else if origin.upstreamModelName ≠ "" then origin.upstreamModelName
      else origin.dataModel.getD ""
    { task with info := { task.info with originModelName := name } }

/-- The request is tied to the channel of its origin. Its own channel is read through a pointer that
may be nil. -/
def lockOriginChannel : Except Failure TaskRelay :=
  match env.getChannelById origin.channelId with
  | .error e => .error (taskErrorWrapperLocal env.mask e "channel_not_found" 400)
  | .ok ch =>
    if !ch.enabled then
      .error (taskErrorWrapperLocal env.mask "the channel of the origin task is disabled"
        "task_channel_disable" 400)
    else
      match task.info.channelMeta with
      | none => .error .panicked
      | some channelMeta =>
        let task := { task with lockedChannel := some origin.channelId }
        if origin.channelId = channelMeta.channelId then .ok task
        else
          match ch.nextKey with
          | .error (e, statusCode) =>
            .error (taskErrorWrapper env.mask e "channel_no_available_key" statusCode)
          | .ok key =>
            .ok { task with
              channelBaseUrl := ch.baseURL, apiKey := key
              info := { task.info with
                channelMeta := some { channelMeta with
                  channelId := origin.channelId, channelType := ch.channelType } } }

/-- The ratios of an origin that was submitted before billing contexts were stored. -/
def legacyOriginRatios (ratios : Ratios) : Ratios :=
  let parsed := atoiValue (origin.dataSeconds.getD "")
  let seconds := if parsed ≤ 0 then 4 else parsed
  let size := origin.dataSize.getD ""
  let ratios := (ratios.set "seconds" ((env.float.ofInt seconds).getD 0)).set "size" 1
  if size = "1792x1024" ∨ size = "1024x1792" then ratios.set "size" (1666667 / 1000000) else ratios

def originRatios (data : PriceData) : PriceData :=
  match origin.billingContext with
  | some context => context.otherRatios.foldl (fun data r => addOtherRatio data r.1 r.2) data
  | none => { data with otherRatios := legacyOriginRatios env origin data.otherRatios }

def resolveOriginTask : Except Failure TaskRelay := do
  let task ← detectRemix env task
  if task.originTaskID = "" then .ok task
  else do
    let origin ← findOrigin env task
    let task ← lockOriginChannel env origin (deriveModelName origin task)
    if task.action = taskActionRemix then
      .ok (task.setPriceData (originRatios env origin task.info.priceData) task.quota)
    else .ok task

end

end

/-! ## The price per call -/

structure TaskAdaptor where
  /-- The action of the request, which the adaptor may set. -/
  validateRequestAndSetAction : TaskRelay → Except TaskError String
  estimateBilling : TaskRelay → Ratios
  buildRequestBody : TaskRelay → Except String String
  doRequest : TaskRelay → String → Except String (ℤ × String)
  doResponse : TaskRelay → String → Except TaskError (String × String)
  adjustBillingOnSubmit : TaskRelay → String → Ratios

structure SubmitEnv where
  settings : Pricing.Settings
  context : RequestContext
  channelMeta : ChannelMeta
  platform : String
  adaptor : Option TaskAdaptor
  mapModel : String → Except String String
  generateTaskID : String
  taskPricePatches : List String
  getDefaultModelPrice : String → Option ℚ
  /-- The order in which a map of ratios is ranged over. -/
  rangeOrder : Ratios → Ratios
  perm_rangeOrder : ∀ ratios, (rangeOrder ratios).Perm ratios
  billing : OpenEnv
  formatQuota : ℤ → String
  mask : String → String

section

variable (env : SubmitEnv)

def fixedQuota (modelPrice groupRatio : ℚ) : ℤ := env.settings.toInt do
    env.settings.float.mul
      (← env.settings.float.mul modelPrice env.settings.quotaPerUnit) groupRatio

def halfRatioQuota (modelRatio groupRatio : ℚ) : ℤ := env.settings.toInt do
    let half ← env.settings.float.div modelRatio 2
    env.settings.float.mul (← env.settings.float.mul half env.settings.quotaPerUnit) groupRatio

/-- The price data of a fixed price or of a ratio, and the quota; a free model is charged
nothing. -/
def perCallPriceData (group : GroupRatioInfo) (usePrice : Bool) (modelPrice modelRatio : ℚ) :
    PriceData × ℤ :=
  let free := !env.settings.enableFreeModelPreConsume &&
    (group.groupRatio = 0 || (if usePrice then modelPrice = 0 else modelRatio = 0))
  let quota := if usePrice then fixedQuota env modelPrice group.groupRatio
    else halfRatioQuota env modelRatio group.groupRatio
  ({ freeModel := free
     modelPrice := if usePrice then modelPrice else -1
     modelRatio := modelRatio, usePrice := usePrice
     groupRatioInfo := group }, if free then 0 else quota)

def modelPriceHelperPerCall (info : RelayInfo) : Except PriceError (RelayInfo × PriceData × ℤ) :=
  let (info, group) := handleGroupRatio env.settings env.context info
  match (env.settings.getModelPrice info.originModelName).or
      (env.getDefaultModelPrice info.originModelName) with
  | some modelPrice => .ok (info, perCallPriceData env group true modelPrice 0)
  | none =>
    let (modelRatio, ratioSuccess, matchName) := env.settings.getModelRatio info.originModelName
    if !ratioSuccess && !info.userSetting.acceptUnsetRatioModel then
      .error (.modelPriceNotConfigured matchName (env.settings.isAdmin info.userId))
    else .ok (info, perCallPriceData env group false 0 modelRatio)

/-! ## The submission -/

def coverTaskActionToModelName (platform action : String) : String :=
  platform.toLower ++ "_" ++ action.toLower

section

variable (quota : ℤ) (adaptor : TaskAdaptor) (task : TaskRelay) (db : DB)

/-- `int(float64(quota) * ratio)`. -/
def timesRatio (ratio : ℚ) : ℤ :=
  env.settings.toInt do env.settings.float.mul (← env.settings.float.ofInt quota) ratio

def timesRatios (ratios : Ratios) : ℤ :=
  (env.rangeOrder ratios).foldl (fun q r => if r.2 ≠ 1 then timesRatio env q r.2 else q) quota

/-- Steps 1 to 3: the adaptor, the validation and the names. -/
def prepareSubmit : Except Failure (TaskAdaptor × TaskRelay) :=
  let task := { task with info := { task.info with channelMeta := some env.channelMeta } }
  match env.adaptor with
  | none =>
    .error (taskErrorWrapperLocal env.mask ("invalid api platform: " ++ env.platform)
      "invalid_api_platform" 400)
  | some adaptor =>
    match adaptor.validateRequestAndSetAction task with
    | .error e => .error (.error e)
    | .ok action =>
      let modelName := if task.info.originModelName = "" then
        coverTaskActionToModelName env.platform action else task.info.originModelName
      match env.mapModel modelName with
      | .error e => .error (taskErrorWrapperLocal env.mask e "model_mapping_failed" 400)
      | .ok upstreamModelName =>
        .ok (adaptor, { task with
          action := action, upstreamModelName := upstreamModelName
          publicTaskID := if task.publicTaskID = "" then env.generateTaskID else task.publicTaskID
          info := { task.info with originModelName := modelName } })

/-- Steps 4 to 6: the price per call, with the estimated ratios. The price data of the request are
replaced. -/
def priceSubmit : Except Failure TaskRelay :=
  match modelPriceHelperPerCall env task.info with
  | .error e => .error (taskErrorWrapper env.mask e.message "model_price_error" 400)
  | .ok (info, priceData, quota) =>
    let task := { task with info := info }.setPriceData priceData quota
    let estimated := env.rangeOrder (adaptor.estimateBilling task)
    let data := estimated.foldl (fun data r => addOtherRatio data r.1 r.2) priceData
    .ok (task.setPriceData data
      (if info.originModelName ∈ env.taskPricePatches then quota
        else timesRatios env quota data.otherRatios))

/-- Step 7: the reservation, made by the first attempt that is not free. -/
def reserveSubmit : Except Failure TaskRelay × TaskRelay × DB :=
  if task.billing.isSome || task.info.priceData.freeModel then (.ok task, task, db)
  else
    let task := { task with info := { task.info with forcePreConsume := true } }
    match newBillingSession env.billing task.info task.quota db with
    | (.error e, db) => (.error (taskErrorFromAPIError env.formatQuota e), task, db)
    | (.ok session, db) =>
      let task := { task with info := session.relayInfo, billing := some session }
      (.ok task, task, db)

/-- Steps 1 to 7, up to the request to the provider. -/
def chargeSubmit : Except Failure (TaskAdaptor × TaskRelay) × TaskRelay × DB :=
  match prepareSubmit env task with
  | .error e => (.error e, task, db)
  | .ok (adaptor, task) =>
    match priceSubmit env adaptor task with
    | .error e => (.error e, task, db)
    | .ok task =>
      match reserveSubmit env task db with
      | (.error e, task, db) => (.error e, task, db)
      | (.ok task, _, db) => (.ok (adaptor, task), task, db)

/-- The quota for other ratios: the old ones are divided out again. -/
def recalcQuotaFromRatios (ratios : Ratios) : ℤ :=
  let baseQuota := (env.rangeOrder task.info.priceData.otherRatios).foldl (fun q r =>
    if r.2 ≠ 1 ∧ 0 < r.2 then
      env.settings.toInt do env.settings.float.div (← env.settings.float.ofInt q) r.2
    else q) task.quota
  env.settings.toInt ((env.rangeOrder ratios).foldl (fun q r =>
    if r.2 ≠ 1 then do env.settings.float.mul (← q) r.2 else q)
      (env.settings.float.ofInt baseQuota))

structure TaskSubmitResult where
  (upstreamTaskID taskData platform : String)
  quota : ℤ
  deriving DecidableEq

/-- Steps 8 to 11: the request to the provider, and the correction of the ratios. -/
def sendSubmit : Except Failure (TaskSubmitResult × TaskRelay) :=
  match adaptor.buildRequestBody task with
  | .error e => .error (taskErrorWrapper env.mask e "build_request_failed" 500)
  | .ok requestBody =>
    match adaptor.doRequest task requestBody with
    | .error e => .error (taskErrorWrapper env.mask e "do_request_failed" 500)
    | .ok (statusCode, responseBody) =>
      if statusCode ≠ 200 then
        .error (taskErrorWrapper env.mask responseBody "fail_to_fetch_task" statusCode)
      else
        match adaptor.doResponse task responseBody with
        | .error e => .error (.error e)
        | .ok (upstreamTaskID, taskData) =>
          let adjusted := adaptor.adjustBillingOnSubmit task taskData
          let task := if adjusted = [] then task
            else task.setPriceData { task.info.priceData with otherRatios := adjusted }
              (recalcQuotaFromRatios env task adjusted)
          .ok (⟨upstreamTaskID, taskData, env.platform, task.quota⟩, task)

/-- The result beside the request as the submission leaves it. -/
def relayTaskSubmit : Except Failure TaskSubmitResult × TaskRelay × DB :=
  match chargeSubmit env task db with
  | (.error e, task, db) => (.error e, task, db)
  | (.ok (adaptor, task), _, db) =>
    match sendSubmit env adaptor task with
    | .error e => (.error e, task, db)
    | .ok (result, task) => (.ok result, task, db)

end

end

/-- The fields of a request for a video that determine its ratios. -/
structure TaskSubmitReq where
  seconds : String
  duration : ℤ
  size : String

/-- The ratios for duration and size. A remix gets none here; those of its origin are expected to
be set. -/
def soraEstimateBilling (float : FloatFormat) (request : Except String TaskSubmitReq)
    (task : TaskRelay) : Ratios :=
  if task.action = taskActionRemix then []
  else
    match request with
    | .error _ => []
    | .ok req =>
      let parsed := atoiValue req.seconds
      let wanted := if parsed = 0 then req.duration else parsed
      let seconds := if wanted ≤ 0 then 4 else wanted
      let size := if req.size = "" then "720x1280" else req.size
      [("seconds", (float.ofInt seconds).getD 0),
        ("size", if size = "1792x1024" ∨ size = "1024x1792" then 1666667 / 1000000 else 1)]

/-- The relay info that `GenRelayInfo` makes of a request for a task has no channel yet. -/
def genTaskRelayInfo (info : RelayInfo) : TaskRelay := { info := { info with channelMeta := none } }

/-- **The origin of a remix cannot be resolved without a channel**: where all else is found, the
comparison of the channels dereferences a nil pointer. -/
theorem resolveOriginTask_of_remix {env : OriginEnv} {info : RelayInfo} {origin : OriginTask}
    (hremix : textContains env.path "/v1/videos/" = true ∧ "/remix".toList <:+ env.path.toList)
    (horigin : env.getByTaskId info.userId env.videoID = .ok (some origin)) :
    ∃ e, resolveOriginTask env (genTaskRelayInfo info) = .error e ∧
      (trimSpace env.videoID ≠ "" → ∀ ch, env.getChannelById origin.channelId = .ok ch →
        ch.enabled = true → e = .panicked) := by
  by_cases hvideo : trimSpace env.videoID = ""
  · have hdetect : ∃ e, detectRemix env (genTaskRelayInfo info) = .error e := by
      simp only [detectRemix, hremix.1, hremix.2, hvideo, decide_true, Bool.and_self, if_true]
      exact ⟨_, rfl⟩
    obtain ⟨e, herror⟩ := hdetect
    exact ⟨e, by rw [resolveOriginTask, herror]; rfl, fun h => absurd hvideo h⟩
  have hid : env.videoID ≠ "" := fun h => hvideo (by rw [h]; rfl)
  have hlock : ∀ task : TaskRelay, task.info.channelMeta = none →
      ∃ e, lockOriginChannel env origin task = .error e ∧ ∀ ch,
        env.getChannelById origin.channelId = .ok ch → ch.enabled = true → e = .panicked := by
    intro task hmeta
    unfold lockOriginChannel
    cases hch : env.getChannelById origin.channelId with
    | error e => exact ⟨_, rfl, nofun⟩
    | ok ch =>
      cases henabled : ch.enabled with
      | false =>
        refine ⟨_, by simp only [henabled, Bool.not_false, if_true]; rfl, fun ch' h h' => ?_⟩
        cases h
        cases henabled.symm.trans h'
      | true =>
        refine ⟨.panicked, ?_, fun _ _ _ => rfl⟩
        simp [henabled, hmeta]
  set task : TaskRelay := { genTaskRelayInfo info with
    action := taskActionRemix, originTaskID := env.videoID } with htask
  have hdetect : detectRemix env (genTaskRelayInfo info) = .ok task := by
    simp only [detectRemix, hremix.1, hremix.2, hvideo, decide_true, Bool.and_self, if_true,
      if_false]
    rfl
  have hfind : findOrigin env task = .ok origin := by
    unfold findOrigin
    rw [show task.info.userId = info.userId from rfl, show task.originTaskID = env.videoID from rfl,
      horigin]
  obtain ⟨e, herror, hpanicked⟩ := hlock (deriveModelName origin task) (by
    unfold deriveModelName
    split <;> rfl)
  refine ⟨e, ?_, fun _ => hpanicked⟩
  rw [resolveOriginTask, hdetect]
  change (if task.originTaskID = "" then _ else _) = _
  rw [if_neg hid, hfind]
  change (lockOriginChannel env origin (deriveModelName origin task) >>= _) = _
  rw [herror]
  rfl

section

variable {env : SubmitEnv} {data : PriceData} {info info' : RelayInfo}

theorem modelPriceHelperPerCall_cases {quota : ℤ}
    (h : modelPriceHelperPerCall env info = .ok (info', data, quota)) :
    info' = (handleGroupRatio env.settings env.context info).1 ∧ ∃ usePrice price ratio,
      data = (perCallPriceData env (handleGroupRatio env.settings env.context info).2
        usePrice price ratio).1 := by
  unfold modelPriceHelperPerCall at h
  simp only at h
  split at h
  · cases h
    exact ⟨rfl, _, _, _, rfl⟩
  split at h
  · cases h
  · cases h
    exact ⟨rfl, _, _, _, rfl⟩

end

/-! ## Samples -/

/-- A video of eight seconds that was made on channel 3. -/
def sampleOrigin : OriginTask where
  channelId := 3
  originModelName := "sora-2"
  upstreamModelName := "sora-2"
  billingContext := some
    { modelPrice := 1 / 5000
      groupRatio := 1, modelRatio := 0
      otherRatios := [("seconds", 8), ("size", 1)], originModelName := "sora-2"
      perCallBilling := true }

def sampleOrigins : OriginEnv where
  path := "/v1/videos/task_1/remix"
  videoID := "task_1"
  getByTaskId _ _ := .ok (some sampleOrigin)
  getChannelById _ := .ok ⟨55, true, "", .ok "key"⟩
  mask text := text
  float := .exact

def sampleRemix : TaskRelay where
  info := { walletRequest with channelMeta := some ⟨55, 3, false⟩ }

def sampleAdaptor : TaskAdaptor where
  validateRequestAndSetAction task := .ok task.action
  estimateBilling := soraEstimateBilling .exact (.ok ⟨"", 0, ""⟩)
  buildRequestBody _ := .ok ""
  doRequest _ _ := .ok (200, "")
  doResponse _ _ := .ok ("video_2", "")
  adjustBillingOnSubmit _ _ := []

def sampleSubmitEnv : SubmitEnv where
  settings := { Pricing.sampleSettings with getModelPrice := fun _ => some (1 / 5000) }
  context := {}
  channelMeta := ⟨55, 3, false⟩
  platform := "55"
  adaptor := some sampleAdaptor
  mapModel := .ok
  generateTaskID := "task_2"
  taskPricePatches := []
  getDefaultModelPrice _ := none
  rangeOrder ratios := ratios
  perm_rangeOrder := List.Perm.refl
  billing := sampleOpenEnv
  formatQuota := toString
  mask text := text

def samplePrice : PriceData :=
  { modelPrice := 1 / 5000, usePrice := true, groupRatioInfo := ⟨1, -1, false⟩ }

end Mujian.Tasks
