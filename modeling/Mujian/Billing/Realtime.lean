import Mujian.Billing.SessionTotals
import Mujian.Pricing.Price

/-!
# Realtime sessions

A realtime session relays the messages of two websockets. Quota is reserved before it begins, and
every response is charged on its own while the session goes on: the usage that the provider reports,
or the tokens counted locally, is passed to `preWssConsumeQuota`. `RealtimeState.step` is one
message, or the end of the session; messages may still be read after the end.
-/

namespace Mujian.Billing

open Relay (RelayInfo BillingSource)
open Pricing (Settings)

structure TokenDetails where
  (textTokens audioTokens : ℤ)

structure QuotaInfo where
  (inputDetails outputDetails : TokenDetails)
  modelName : String
  usePrice : Bool
  modelPrice : ℚ := 0
  (modelRatio groupRatio : ℚ)

def weightedAudioTokens (S : Settings) (info : QuotaInfo) : ℚ := info.inputDetails.textTokens +
    info.outputDetails.textTokens * S.getCompletionRatio info.modelName +
    info.inputDetails.audioTokens * S.getAudioRatio info.modelName +
    info.outputDetails.audioTokens * S.getAudioRatio info.modelName *
      S.getAudioCompletionRatio info.modelName

def calculateAudioQuota (S : Settings) (info : QuotaInfo) : ℤ :=
  if info.usePrice then truncate (info.modelPrice * S.quotaPerUnit * info.groupRatio)
  else
    let ratio := info.groupRatio * info.modelRatio
    let quota := weightedAudioTokens S info * ratio
    -- A portion that has a price costs something.
    roundHalfAway (if ratio ≠ 0 ∧ quota ≤ 0 then 1 else quota)

theorem calculateAudioQuota_nonneg (S : Settings) {info : QuotaInfo} (h : info.usePrice = false) :
    0 ≤ calculateAudioQuota S info := by
  have hround {x : ℚ} (hx : 0 ≤ x) : 0 ≤ roundHalfAway x := by
    rw [roundHalfAway, if_pos hx]
    exact Int.floor_nonneg.2 (by linarith)
  simp only [calculateAudioQuota, h]
  apply hround
  split
  · exact zero_le_one
  next hpriced =>
    by_cases hratio : info.groupRatio * info.modelRatio = 0
    · rw [hratio, mul_zero]
    · exact le_of_lt (not_le.1 fun hle => hpriced ⟨hratio, hle⟩)

structure InputTokenDetails where
  (cachedTokens textTokens audioTokens : ℤ := 0)

structure OutputTokenDetails where
  (textTokens audioTokens : ℤ := 0)

structure RealtimeUsage where
  (totalTokens inputTokens outputTokens : ℤ := 0)
  inputTokenDetails : InputTokenDetails := {}
  outputTokenDetails : OutputTokenDetails := {}

namespace RealtimeUsage

def add (usage other : RealtimeUsage) : RealtimeUsage where
  totalTokens := usage.totalTokens + other.totalTokens
  inputTokens := usage.inputTokens + other.inputTokens
  outputTokens := usage.outputTokens + other.outputTokens
  inputTokenDetails :=
    ⟨usage.inputTokenDetails.cachedTokens + other.inputTokenDetails.cachedTokens,
      usage.inputTokenDetails.textTokens + other.inputTokenDetails.textTokens,
      usage.inputTokenDetails.audioTokens + other.inputTokenDetails.audioTokens⟩
  outputTokenDetails :=
    ⟨usage.outputTokenDetails.textTokens + other.outputTokenDetails.textTokens,
      usage.outputTokenDetails.audioTokens + other.outputTokenDetails.audioTokens⟩

/-- The tokens of a message to the provider, counted locally. -/
def ofInput (textToken audioToken : ℤ) : RealtimeUsage where
  totalTokens := textToken + audioToken
  inputTokens := textToken + audioToken
  inputTokenDetails := { textTokens := textToken, audioTokens := audioToken }

/-- The tokens of a message from the provider, counted locally. -/
def ofOutput (textToken audioToken : ℤ) : RealtimeUsage where
  totalTokens := textToken + audioToken
  outputTokens := textToken + audioToken
  outputTokenDetails := ⟨textToken, audioToken⟩

end RealtimeUsage

/-- What the charge of a portion finds outside. -/
structure WssEnv where
  settings : Settings
  query : Env
  cachedUserQuota : Option ℤ
  cachedToken : Option Token
  (funding token : Env)

/-- The group of the request is the one that automatic routing has chosen. -/
def wssUsingGroup (autoGroup : Option String) (info : RelayInfo) : String :=
  autoGroup.getD info.usingGroup

/-- What the quota of a portion is calculated from. -/
def wssQuotaInfo (S : Settings) (autoGroup : Option String) (usePrice : Bool) (info : RelayInfo)
    (usage : RealtimeUsage) : QuotaInfo where
  inputDetails := ⟨usage.inputTokenDetails.textTokens, usage.inputTokenDetails.audioTokens⟩
  outputDetails := ⟨usage.outputTokenDetails.textTokens, usage.outputTokenDetails.audioTokens⟩
  modelName := info.originModelName
  usePrice := usePrice
  modelRatio := (S.getModelRatio info.originModelName).1
  groupRatio := (S.getGroupGroupRatio info.userGroup (wssUsingGroup autoGroup info)).getD
    (S.getGroupRatio (wssUsingGroup autoGroup info))

inductive RealtimeError
  | billing (cause : BillingError)
  | subscriptionIdMissing
  | userQuotaNotEnough (userQuota quota : ℤ)
  | tokenQuotaNotEnough (remainQuota quota : ℤ)

section

variable (env : WssEnv) (info : RelayInfo) (quota : ℤ) (db : DB)

/-- The subscription or the wallet pays. -/
def consumeFunding : Except RealtimeError RelayInfo × DB :=
  if info.billingSource = some .subscription then
    if info.subscriptionId = 0 then (.error .subscriptionIdMissing, db)
    else if quota = 0 then (.ok info, db)
    else
      match env.funding.commit (postConsumeUserSubscriptionDelta info.subscriptionId quota) db with
      | (.error e, db) => (.error (.billing e), db)
      | (.ok _, db) =>
        (.ok { info with subscriptionPostDelta := info.subscriptionPostDelta + quota }, db)
  else
    match env.funding.commit (if quota > 0 then decreaseUserQuota info.userId quota
        else increaseUserQuota info.userId (-quota)) db with
    | (.error e, db) => (.error (.billing e), db)
    | (.ok _, db) => (.ok info, db)

def consumeToken : Except RealtimeError Unit × DB :=
  if info.isPlayground then (.ok (), db)
  else
    match env.token.commit (if quota > 0 then decreaseTokenQuota info.tokenId quota
        else increaseTokenQuota info.tokenId (-quota)) db with
    | (.error e, db) => (.error (.billing e), db)
    | (.ok _, db) => (.ok (), db)

def postConsumeQuota : Except RealtimeError Unit × RelayInfo × DB :=
  match consumeFunding env info quota db with
  | (.error e, db) => (.error e, info, db)
  | (.ok info, db) =>
    let (result, db) := consumeToken env info quota db
    (result, info, db)

def getTokenByKey (tokenId : ℤ) (db : DB) : Except BillingError Token :=
  match env.cachedToken with
  | some token => .ok token
  | none =>
    if env.query.refused then .error .database
    else
      match db.tokens.find? tokenId with
      | some token => .ok token
      | none => .error .recordNotFound

def preWssConsumeQuota (autoGroup : Option String) (usePrice : Bool)
    (info : RelayInfo) (usage : RealtimeUsage) (db : DB) :
    Except RealtimeError Unit × RelayInfo × DB :=
  if usePrice then (.ok (), info, db)
  else
    match getUserQuota env.query env.cachedUserQuota info.userId db,
        getTokenByKey env info.tokenId db with
    | .error e, _ => (.error (.billing e), info, db)
    | .ok _, .error e => (.error (.billing e), info, db)
    | .ok userQuota, .ok token =>
      let quota := calculateAudioQuota env.settings
        (wssQuotaInfo env.settings autoGroup usePrice info usage)
      let info := { info with usingGroup := wssUsingGroup autoGroup info }
      if userQuota < quota then (.error (.userQuotaNotEnough userQuota quota), info, db)
      else if !token.unlimitedQuota && token.remainQuota < quota then
        (.error (.tokenQuotaNotEnough token.remainQuota quota), info, db)
      else postConsumeQuota env info quota db

end

/-- A realtime session. `usePrice` is a field of the request that no code sets. -/
structure RealtimeState where
  info : RelayInfo
  autoGroup : Option String
  usePrice : Bool := false
  billing : Option BillingSession
  db : DB
  (usage localUsage sumUsage : RealtimeUsage := {})
  (clientReading targetReading : Bool := true)
  /-- The quotas of the portions passed so far. -/
  passed : List ℤ := []
  failed : Bool := false
  /-- The quota in the log, once the session has ended. -/
  logged : Option ℤ := none

inductive TargetMessage
  | malformed
  /-- A finished response. Without a response in it the reader panics; the usage may be missing. -/
  | responseDone (response : Option (Option RealtimeUsage)) (count : Option (ℤ × ℤ))
  | session
  | other (count : Option (ℤ × ℤ))

/-- What happens in a session. A count is `none` when counting fails, and `delivered` tells whether
the message could be passed on. -/
inductive RealtimeEvent
  | client (count : Option (ℤ × ℤ)) (delivered : Bool)
  | clientClosed
  | target (message : TargetMessage) (env : WssEnv) (delivered : Bool)
  | targetClosed
  /-- A connection was closed or an error was reported. -/
  | finish (usageEnv localEnv : WssEnv) (logSettings : Settings) (modelName : String)

namespace RealtimeState

section

variable (env : WssEnv) (delivered : Bool) (usage : RealtimeUsage) (st : RealtimeState)

def preConsumeUsage : Except RealtimeError Unit × RealtimeState :=
  let quota := calculateAudioQuota env.settings
    (wssQuotaInfo env.settings st.autoGroup st.usePrice st.info usage)
  let out := preWssConsumeQuota env st.autoGroup st.usePrice st.info usage st.db
  (out.1, { st with
    sumUsage := st.sumUsage.add usage, info := out.2.1
    db := out.2.2, passed := st.passed ++ [quota]
    failed := st.failed || !out.1.isOk })

def readClient (count : Option (ℤ × ℤ)) (delivered : Bool) (st : RealtimeState) : RealtimeState :=
  match count with
  | none => { st with clientReading := false }
  | some (textToken, audioToken) =>
    { st with
      localUsage := st.localUsage.add (.ofInput textToken audioToken), clientReading := delivered }

/-- The usage that the provider reports is passed; on success the local count is dropped. -/
def chargeReported (reported : RealtimeUsage) (delivered : Bool)
    (st : RealtimeState) : RealtimeState :=
  match { st with usage := st.usage.add reported }.preConsumeUsage env (st.usage.add reported) with
  | (.error _, st) => { st with targetReading := false }
  | (.ok _, st) => { st with usage := {}, localUsage := {}, targetReading := delivered }

/-- Without a report the local count is passed. -/
def chargeCounted (textToken audioToken : ℤ) (delivered : Bool)
    (st : RealtimeState) : RealtimeState :=
  let localUsage := st.localUsage.add (.ofInput textToken audioToken)
  match { st with localUsage := localUsage }.preConsumeUsage env localUsage with
  | (.error _, st) => { st with targetReading := false }
  | (.ok _, st) => { st with localUsage := {}, targetReading := delivered }

def readTarget : TargetMessage → RealtimeState
  | .malformed | .responseDone none _ => { st with targetReading := false }
  | .responseDone (some (some reported)) _ => st.chargeReported env reported delivered
  | .responseDone (some none) none => { st with targetReading := false }
  | .responseDone (some none) (some (textToken, audioToken)) =>
    st.chargeCounted env textToken audioToken delivered
  | .session => { st with targetReading := delivered }
  | .other none => { st with targetReading := false }
  | .other (some (textToken, audioToken)) =>
    { st with
      localUsage := st.localUsage.add (.ofOutput textToken audioToken), targetReading := delivered }

/-- The usage that is left at the end is passed; an error is dropped. -/
def flush : RealtimeState := if usage.totalTokens ≠ 0 then (st.preConsumeUsage env usage).2 else st

/-- The log of the session, with the quota of the sum of the portions; the counters of the user and
the channel are left out. -/
def postWssConsumeQuota (S : Settings) (modelName : String) (st : RealtimeState) : RealtimeState :=
  let quota := calculateAudioQuota S
    { inputDetails :=
        ⟨st.sumUsage.inputTokenDetails.textTokens, st.sumUsage.inputTokenDetails.audioTokens⟩
      outputDetails :=
        ⟨st.sumUsage.outputTokenDetails.textTokens, st.sumUsage.outputTokenDetails.audioTokens⟩
      modelName := modelName, usePrice := st.info.priceData.usePrice
      modelPrice := st.info.priceData.modelPrice, modelRatio := st.info.priceData.modelRatio
      groupRatio := st.info.priceData.groupRatioInfo.groupRatio }
  { st with logged := some (if st.sumUsage.totalTokens = 0 then 0 else quota) }

/-- The end of the session, which comes once. -/
def finish (usageEnv localEnv : WssEnv) (S : Settings) (modelName : String) (st : RealtimeState) :
    RealtimeState :=
  if st.logged.isSome then st
  else
    let st := st.flush usageEnv st.usage
    let st := st.flush localEnv st.localUsage
    st.postWssConsumeQuota S modelName

def step : RealtimeEvent → RealtimeState
  | .client count delivered => if st.clientReading then st.readClient count delivered else st
  | .clientClosed => { st with clientReading := false }
  | .target message env delivered =>
    if st.targetReading then st.readTarget env delivered message else st
  | .targetClosed => { st with targetReading := false }
  | .finish usageEnv localEnv S modelName => st.finish usageEnv localEnv S modelName

end

def run (st : RealtimeState) (events : List RealtimeEvent) : RealtimeState := events.foldl step st

/-- Who pays for the session. -/
def funding (st : RealtimeState) : FundingSource :=
  match st.billing with
  | some s => s.funding
  | none => .wallet { userId := st.info.userId }

/-- The reservation is not held any more. -/
def Released (st : RealtimeState) : Prop :=
  ∀ s, st.billing = some s → s.settled ∨ s.refunded ∨ s.funding.reserved = 0

end RealtimeState

/-- The session of a priced request, after its quota has been reserved. A free model reserves
nothing. -/
def openRealtime (env : OpenEnv) (autoGroup : Option String) (info : RelayInfo) (db : DB) :
    Except SessionError RealtimeState :=
  if info.priceData.freeModel then .ok { info, autoGroup, billing := none, db }
  else
    match newBillingSession env info info.priceData.quotaToPreConsume db with
    | (.error e, _) => .error e
    | (.ok s, db) => .ok { info := s.relayInfo, autoGroup, billing := some s, db }

end Mujian.Billing
