import Mujian.Foundations.Transaction
import Mujian.Relay.Info

/-!
# Prices of a request

The price data that a channel's snapshot gives (`priceDataFromSnapshot`), the amount to reserve for
it under bounds on the tokens (`preConsumePriceFromSnapshot`), and the same for the global model
prices of channels without a snapshot (`legacyModelPriceData`, `legacyCatalogPreConsumePriceData`).
`TokenPriced` collects what every token-billed snapshot guarantees of its price data.
-/

namespace Mujian.Pricing

open Relay

/-- The settings that pricing reads, with their default for a name that is not configured. -/
structure Settings where
  float : FloatFormat
  (quotaPerUnit usdExchangeRate : ℚ)
  preConsumedQuota : ℤ
  enableFreeModelPreConsume : Bool
  getGroupGroupRatio : String → String → Option ℚ
  getGroupRatio : String → ℚ
  getModelPrice : String → Option ℚ
  /-- The ratio, whether it is configured or accepted as unset, and the name it was found under. -/
  getModelRatio : String → ℚ × Bool × String
  getDefaultModelRatio : String → Option ℚ
  (getCompletionRatio getCacheRatio getCreateCacheRatio getImageRatio getAudioRatio : String → ℚ)
  getAudioCompletionRatio : String → ℚ
  isAdmin : ℤ → Bool

/-- Settings with exact arithmetic and neutral ratios. -/
def sampleSettings : Settings where
  float := .exact
  quotaPerUnit := 500000
  usdExchangeRate := 73 / 10
  preConsumedQuota := 500
  enableFreeModelPreConsume := false
  getGroupGroupRatio _ _ := none
  getGroupRatio _ := 1
  getModelPrice _ := none
  getModelRatio name := (3 / 2, true, name)
  getDefaultModelRatio _ := none
  getCompletionRatio _ := 5
  getCacheRatio _ := 1
  getCreateCacheRatio _ := 5 / 4
  getImageRatio _ := 1
  getAudioRatio _ := 1
  getAudioCompletionRatio _ := 1
  isAdmin _ := false

inductive PriceError
  | modelPriceNotConfigured (modelName : String) (admin : Bool)
  | groupRatioUnsafe
  | fixedPriceUnsafe (channelID : ℤ)
  | imageOutputPriceInvalid (channelID : ℤ)
  | tokenPriceUnsafe (channelID : ℤ)
  | quotaOutOfRange | boundsMissing | boundsInvalid | managedUnauthorized | routeUnauthorized
  | managedOutsideAuthorization | exceedsReservation | priceQueryFailed | priceMissing
  | referenceProtocolMissing | managedPriceMissing | managedSnapshotMissing | managedWebSearch
  | unboundedMedia | specificChannelFormat | specificChannelNotAllowed | noAuthorizableChannel
  | toolsUnreadable
  | imageQuote (error : ImageQuoteError)
  | database
  deriving DecidableEq

def PriceError.message : PriceError → String
  | modelPriceNotConfigured name true =>
    "模型 " ++ name ++ " 的价格未配置。请前往「系统设置 → 运营设置」开启自用模式，" ++ "或在「系统设置 → 分组与模型定价设置」中为该模型配置价格；" ++
      "Model " ++ name ++ " price not configured. Go to System Settings → Operation Settings " ++
      "to enable self-use mode, or configure the model price in System Settings → " ++
      "Group & Model Pricing."
  | modelPriceNotConfigured name false =>
    "模型 " ++ name ++ " 的价格尚未由管理员配置，暂时无法使用，请联系站点管理员开启该模型；" ++
      "Model " ++ name ++ " has not been priced by the administrator yet. Please contact the " ++
      "site administrator to enable this model."
  | groupRatioUnsafe => "渠道分组倍率无法安全计费"
  | fixedPriceUnsafe id => "渠道 " ++ toString id ++ " 的按次价格无法安全计费"
  | imageOutputPriceInvalid id => "渠道 " ++ toString id ++ " 的图片输出价格无效"
  | tokenPriceUnsafe id => "渠道 " ++ toString id ++ " 的 Token 价格无法安全计费"
  | quotaOutOfRange => "渠道价格计算超出可安全预授权范围"
  | boundsMissing => "请求缺少渠道价格预授权边界"
  | boundsInvalid => "请求的渠道价格预授权边界无效"
  | managedUnauthorized => "所选受管渠道缺少请求价格预授权"
  | routeUnauthorized => "所选渠道不在本次请求的价格预授权范围内"
  | managedOutsideAuthorization => "所选受管渠道未纳入本次请求的渠道价格预授权"
  | exceedsReservation => "所选渠道的当前价格超过本次请求已预授权额度"
  | priceQueryFailed => "查询所选渠道的模型价格失败"
  | priceMissing => "所选渠道缺少已验证的模型价格"
  | referenceProtocolMissing => "所选渠道未声明当前模型的多图参考协议"
  | managedPriceMissing => "受管渠道缺少已验证的模型价格"
  | managedSnapshotMissing => "所选托管渠道缺少有效的请求价格快照"
  | managedWebSearch => "托管 Claude 渠道暂不支持未接入按次价格的 web_search"
  | unboundedMedia =>
    "托管 Claude 渠道暂不支持远程 URL、file_id 或内联二进制媒体；" ++ "请改用文本内容或内联文本 document"
  | specificChannelFormat => "指定渠道 ID 格式无效"
  | specificChannelNotAllowed => "指定渠道不在当前请求的可用范围内"
  | noAuthorizableChannel => "请求未找到可预授权的渠道"
  | toolsUnreadable => "Claude tools 格式无法用于价格预授权"
  | imageQuote error => error.message
  | database => "database error"

def finitePositive (value : Option ℚ) : Bool := value.any (0 < ·)

def finiteNonNegative (value : Option ℚ) : Bool := value.any (0 ≤ ·)

variable {value : Option ℚ} {S : Settings} {price : ChannelModelPrice} {group : GroupRatioInfo}
  {multiplier : ℚ} {data : PriceData} {promptTokens : ℤ}

theorem finitePositive_iff : finitePositive value = true ↔ ∃ v, value = some v ∧ 0 < v := by
  cases value <;> simp [finitePositive]

theorem finiteNonNegative_iff : finiteNonNegative value = true ↔ ∃ v, value = some v ∧ 0 ≤ v := by
  cases value <;> simp [finiteNonNegative]

/-- Rounds a decimal quota up, within the range of an `int`. -/
def checkedPreConsumeDecimal (value : ℚ) : Except PriceError ℤ :=
  if ⌈value⌉ < 0 ∨ maxInt < ⌈value⌉ then .error .quotaOutOfRange else .ok ⌈value⌉

theorem checkedPreConsumeDecimal_eq_ok {value : ℚ} {quota : ℤ} :
    checkedPreConsumeDecimal value = .ok quota ↔
      (0 ≤ ⌈value⌉ ∧ ⌈value⌉ ≤ maxInt) ∧ ⌈value⌉ = quota := by simp [checkedPreConsumeDecimal]

/-- Rounds a floating-point quota up; `float64(maxInt)` is `2 ^ 63`. -/
def checkedPreConsumeQuota : Option ℚ → Except PriceError ℤ
  | none => .error .quotaOutOfRange
  | some value =>
    if value < 0 ∨ 2 ^ 63 < value then .error .quotaOutOfRange else checkedPreConsumeDecimal value

/-- The price of a cache entry that is written for an hour, relative to one for five minutes. -/
def claudeCacheCreation1hMultiplier : ℚ := 8 / 5

section

variable (S : Settings) (price : ChannelModelPrice) (group : GroupRatioInfo) (data : PriceData)

/-- A model is free when its group or its own price is; nothing is reserved for it then, unless
the settings say otherwise. -/
def applyFreeModelPreConsumePolicy : PriceData :=
  if S.enableFreeModelPreConsume then { data with freeModel := false }
  else if data.groupRatioInfo.groupRatio = 0 ∨ (data.usePrice ∧ data.modelPrice = 0) ∨
      (¬data.usePrice ∧ data.modelRatio = 0) then
    { data with quotaToPreConsume := 0, freeModel := true }
  else { data with freeModel := false }

/-- The ratios of image tokens: input images share the input rate, output images have a price of
their own when the channel states one. -/
def imageOutputRatios : Except PriceError PriceData :=
  if 0 < price.imageOutputPrice then
    let ratio := S.float.div price.imageOutputPrice price.inputPrice
    if !finitePositive ratio then .error (.imageOutputPriceInvalid price.channelID)
    else .ok { data with imageRatio := 1, imageCompletionRatio := ratio.getD 0 }
  else .ok data

def priceDataFromSnapshot (multiplier : ℚ) : Except PriceError PriceData :=
  let cacheCreation1hRatio := S.float.mul price.cacheCreationRatio claudeCacheCreation1hMultiplier
  let data : PriceData :=
    { groupRatioInfo := group, channelSpecific := true, unitPriceMultiplier := multiplier,
      priceProvider := price.provider, modelPrice := -1, cacheRatio := price.cacheRatio,
      cacheCreationRatio := price.cacheCreationRatio,
      cacheCreation5mRatio := price.cacheCreationRatio,
      cacheCreation1hRatio := cacheCreation1hRatio.getD 0 }
  if price.billingType = .fixed then
    let modelPrice := S.float.mul price.fixedPrice multiplier
    if !finitePositive modelPrice then .error (.fixedPriceUnsafe price.channelID)
    else .ok { data with usePrice := true, modelPrice := modelPrice.getD 0 }
  else if !finiteNonNegative (some price.imageOutputPrice) then
    .error (.imageOutputPriceInvalid price.channelID)
  else do
    let data ← imageOutputRatios S price data
    let modelRatio := S.float.div price.inputPrice 2
    let completionRatio := S.float.div price.outputPrice price.inputPrice
    if !finitePositive modelRatio || !finitePositive completionRatio ||
        !finiteNonNegative (some price.cacheRatio) ||
        !finiteNonNegative (some price.cacheCreationRatio) ||
        !finiteNonNegative cacheCreation1hRatio then
      .error (.tokenPriceUnsafe price.channelID)
    else
      .ok { data with modelRatio := modelRatio.getD 0, completionRatio := completionRatio.getD 0 }

/-- The dearest class of prompt tokens. -/
def worstPromptBillingRatio : ℚ :=
  max 1 (max data.cacheRatio (max data.cacheCreation5mRatio data.cacheCreation1hRatio))

/-- The tokens of a request at the bounds, each weighted by the dearest ratio of its class. -/
def worstWeightedTokens (promptTokens maxCompletionTokens : ℤ) : ℚ :=
  promptTokens * worstPromptBillingRatio data +
    maxCompletionTokens * max data.completionRatio data.imageCompletionRatio

def preConsumePriceFromSnapshot (multiplier : ℚ) (promptTokens maxCompletionTokens : ℤ) :
    Except PriceError PriceData :=
  if !finiteNonNegative (some group.groupRatio) then .error .groupRatioUnsafe
  else do
    let candidate ← priceDataFromSnapshot S price group multiplier
    let quota :=
      if candidate.usePrice then price.fixedPrice * multiplier * S.quotaPerUnit
      else worstWeightedTokens candidate promptTokens maxCompletionTokens * candidate.modelRatio
    let quota ← checkedPreConsumeDecimal (quota * group.groupRatio * candidate.salesRatio)
    .ok (applyFreeModelPreConsumePolicy S { candidate with quotaToPreConsume := quota })

end

structure TokenPriced (price : ChannelModelPrice) (group : GroupRatioInfo) (data : PriceData) :
    Prop where
  usePrice : data.usePrice = false
  modelRatio_pos : 0 < data.modelRatio
  completionRatio_pos : 0 < data.completionRatio
  cacheRatio_nonneg : 0 ≤ data.cacheRatio
  cacheCreationRatio_nonneg : 0 ≤ data.cacheCreationRatio
  cacheCreation5mRatio : data.cacheCreation5mRatio = data.cacheCreationRatio
  cacheCreation1hRatio_nonneg : 0 ≤ data.cacheCreation1hRatio
  imageRatio_nonneg : 0 ≤ data.imageRatio
  imageRatio_le : data.imageRatio ≤ 1
  otherRatios : data.otherRatios = []
  groupRatioInfo : data.groupRatioInfo = group
  channelSpecific : data.channelSpecific = true
  priceProvider : data.priceProvider = price.provider

theorem tokenPriced_of_priceDataFromSnapshot (hbilling : price.billingType ≠ .fixed)
    (h : priceDataFromSnapshot S price group multiplier = .ok data) :
    TokenPriced price group data := by
  simp only [priceDataFromSnapshot, if_neg hbilling, ite_error_eq_ok_iff,
    except_bind_eq_ok_iff, Bool.or_eq_true, not_or, Bool.not_eq_true', Bool.not_eq_false,
    finitePositive_iff, finiteNonNegative_iff] at h
  obtain ⟨-, base, hbase, ⟨⟨⟨⟨⟨m, hm, hm0⟩, c, hc, hc0⟩, r, hr, hr0⟩, w, hw, hw0⟩, v, hv, hv0⟩,
    hdata⟩ := h
  cases hdata
  -- The image ratios are the only part of the data that depends on a further branch.
  unfold imageOutputRatios at hbase
  split at hbase
  · obtain ⟨-, hbase⟩ := ite_error_eq_ok_iff.1 hbase
    cases hbase
    constructor <;> simp_all
  · cases hbase
    constructor <;> simp_all

section

variable (data : PriceData)

theorem one_le_worstPromptBillingRatio : 1 ≤ worstPromptBillingRatio data := le_max_left _ _

theorem cacheRatio_le_worst : data.cacheRatio ≤ worstPromptBillingRatio data :=
  le_max_of_le_right (le_max_left _ _)

theorem cacheCreation5mRatio_le_worst : data.cacheCreation5mRatio ≤ worstPromptBillingRatio data :=
  le_max_of_le_right (le_max_of_le_right (le_max_left _ _))

theorem cacheCreation1hRatio_le_worst : data.cacheCreation1hRatio ≤ worstPromptBillingRatio data :=
  le_max_of_le_right (le_max_of_le_right (le_max_right _ _))

end

theorem applyFreeModelPreConsumePolicy_cases (S : Settings) (data : PriceData) :
    (applyFreeModelPreConsumePolicy S data = { data with freeModel := false }) ∨
      (applyFreeModelPreConsumePolicy S data =
          { data with quotaToPreConsume := 0, freeModel := true } ∧
        (data.groupRatioInfo.groupRatio = 0 ∨ (data.usePrice ∧ data.modelPrice = 0) ∨
          (¬data.usePrice ∧ data.modelRatio = 0))) := by
  unfold applyFreeModelPreConsumePolicy
  split
  · exact .inl rfl
  · split
    next h => exact .inr ⟨rfl, h⟩
    next => exact .inl rfl

/-- The price data that a selected channel is bound to: its own price, with the amount that was
reserved before the selection. -/
def boundPriceData (S : Settings) (actual : PriceData) (preConsumed : ℤ) : PriceData :=
  { applyFreeModelPreConsumePolicy S actual with quotaToPreConsume := preConsumed }

theorem boundPriceData_eq (S : Settings) (actual : PriceData) (preConsumed : ℤ) :
    ∃ free, boundPriceData S actual preConsumed =
      { actual with quotaToPreConsume := preConsumed, freeModel := free } := by
  unfold boundPriceData
  obtain h | ⟨h, -⟩ := applyFreeModelPreConsumePolicy_cases S actual <;> rw [h]
  · exact ⟨false, rfl⟩
  · exact ⟨true, rfl⟩

/-- **What is reserved for a token-billed snapshot**: the weighted tokens at the bounds, priced and
rounded up, and in a group of ratio zero nothing. -/
theorem preConsumePriceFromSnapshot_token {maxCompletionTokens : ℤ}
    {required : PriceData} (hbilling : price.billingType ≠ .fixed)
    (h : preConsumePriceFromSnapshot S price group multiplier promptTokens maxCompletionTokens =
      .ok required)
    (hdata : priceDataFromSnapshot S price group multiplier = .ok data) :
    0 ≤ group.groupRatio ∧ 0 ≤ required.quotaToPreConsume ∧ required.quotaToPreConsume ≤ maxInt ∧
      (group.groupRatio ≠ 0 → required.quotaToPreConsume =
        ⌈worstWeightedTokens data promptTokens maxCompletionTokens * data.modelRatio *
          group.groupRatio * data.salesRatio⌉) := by
  have htoken := tokenPriced_of_priceDataFromSnapshot hbilling hdata
  simp only [preConsumePriceFromSnapshot, hdata, ite_error_eq_ok_iff, except_bind_eq_ok_iff,
    checkedPreConsumeDecimal_eq_ok, Bool.not_eq_true', Bool.not_eq_false,
    finiteNonNegative_iff] at h
  obtain ⟨⟨_, hratio, hratio0⟩, _, hcandidate, quota, ⟨⟨h0, hmax⟩, hquota⟩, hrequired⟩ := h
  cases hratio
  cases hcandidate
  cases hrequired
  simp only [htoken.usePrice, Bool.false_eq_true, if_false] at h0 hmax hquota
  subst hquota
  refine ⟨hratio0, ?_⟩
  obtain hpolicy | ⟨hpolicy, hfree⟩ := applyFreeModelPreConsumePolicy_cases S
    { data with quotaToPreConsume := ⌈worstWeightedTokens data promptTokens maxCompletionTokens *
      data.modelRatio * group.groupRatio * data.salesRatio⌉ }
  · rw [hpolicy]
    exact ⟨h0, hmax, fun _ => rfl⟩
  · rw [hpolicy]
    refine ⟨le_rfl, maxInt_nonneg, fun hne => absurd hfree ?_⟩
    simp [htoken.groupRatioInfo, hne, htoken.usePrice, htoken.modelRatio_pos.ne']

structure TokenCountMeta where
  maxTokens : ℤ
  imagePriceRatio : ℚ

section

variable (S : Settings) (info : RelayInfo) (promptTokens : ℤ) (tokenMeta : Option TokenCountMeta)

/-- The bounds on the tokens of a request: the prompt counts at least the configured minimum. -/
def preConsumeTokenBounds : ℤ × ℤ :=
  (max promptTokens S.preConsumedQuota, (tokenMeta.map (·.maxTokens)).getD 0)

def groupRatioInfo (userGroup usingGroup : String) : GroupRatioInfo :=
  match S.getGroupGroupRatio userGroup usingGroup with
  | some ratio => ⟨ratio, ratio, true⟩
  | none => ⟨S.getGroupRatio usingGroup, -1, false⟩

/-- The conversion of a float to an `int`. -/
def Settings.toInt (S : Settings) (value : Option ℚ) : ℤ := S.float.toInt minInt maxInt value

section

variable (group : GroupRatioInfo)

/-- Ratio billing by the global model settings. -/
def legacyRatioPriceData : Except PriceError PriceData :=
  let preConsumedTokens :=
    max promptTokens S.preConsumedQuota + (tokenMeta.map (·.maxTokens)).getD 0
  let (modelRatio, success, matchName) := S.getModelRatio info.originModelName
  if !success && !info.userSetting.acceptUnsetRatioModel then
    .error (.modelPriceNotConfigured matchName (S.isAdmin info.userId))
  else
    let cacheCreationRatio := S.getCreateCacheRatio info.originModelName
    let quota := do
      let ratio ← S.float.mul modelRatio group.groupRatio
      let tokens ← S.float.ofInt preConsumedTokens
      S.float.mul tokens ratio
    .ok
      { modelPrice := -1
        modelRatio := modelRatio, completionRatio := S.getCompletionRatio info.originModelName
        groupRatioInfo := group, cacheRatio := S.getCacheRatio info.originModelName
        imageRatio := S.getImageRatio info.originModelName
        audioRatio := S.getAudioRatio info.originModelName
        audioCompletionRatio := S.getAudioCompletionRatio info.originModelName
        cacheCreationRatio := cacheCreationRatio, cacheCreation5mRatio := cacheCreationRatio
        cacheCreation1hRatio :=
          (S.float.mul cacheCreationRatio claudeCacheCreation1hMultiplier).getD 0
        quotaToPreConsume := S.toInt quota, unitPriceMultiplier := 1 }

/-- Billing by the global price of a call. -/
def legacyFixedPriceData (modelPrice : ℚ) : PriceData :=
  let imagePriceRatio := (tokenMeta.map (·.imagePriceRatio)).getD 0
  let price := if imagePriceRatio = 0 then some modelPrice
    else S.float.mul modelPrice imagePriceRatio
  let quota := do
    let perUnit ← S.float.mul (← price) S.quotaPerUnit
    S.float.mul perUnit group.groupRatio
  { modelPrice := price.getD 0
    groupRatioInfo := group, usePrice := true
    quotaToPreConsume := S.toInt quota
    unitPriceMultiplier := if imagePriceRatio = 0 then 1 else imagePriceRatio }

/-- The price data of the global settings before the policy on free models. -/
def legacyConfiguredPriceData : Except PriceError PriceData :=
  match S.getModelPrice info.originModelName with
  | none => legacyRatioPriceData S info promptTokens tokenMeta group
  | some modelPrice => .ok (legacyFixedPriceData S tokenMeta group modelPrice)

def legacyModelPriceData : Except PriceError PriceData := do
  let data ← legacyConfiguredPriceData S info promptTokens tokenMeta group
  .ok (applyFreeModelPreConsumePolicy S data)

/-- The floating-point quota of the weighted tokens at the bounds. -/
def legacyCatalogQuota (data : PriceData) (promptBound completionBound : ℤ)
    (group : GroupRatioInfo) : Option ℚ := do
  let prompt ← S.float.mul (← S.float.ofInt promptBound) (worstPromptBillingRatio data)
  let completion ← S.float.mul (← S.float.ofInt completionBound) data.completionRatio
  let tokens ← S.float.add prompt completion
  let priced ← S.float.mul tokens data.modelRatio
  S.float.mul priced group.groupRatio

def legacyCatalogPreConsumePriceData : Except PriceError PriceData := do
  let data ← legacyModelPriceData S info promptTokens tokenMeta group
  if data.usePrice then .ok data
  else
    let (promptBound, completionBound) := preConsumeTokenBounds S promptTokens tokenMeta
    let quota ← checkedPreConsumeQuota (legacyCatalogQuota S data promptBound completionBound group)
    .ok (applyFreeModelPreConsumePolicy S { data with quotaToPreConsume := quota })

end

end

@[simp] theorem boundPriceData_channelSpecific (S : Settings) (actual : PriceData)
    (preConsumed : ℤ) :
    (boundPriceData S actual preConsumed).channelSpecific = actual.channelSpecific := by
  obtain ⟨free, h⟩ := boundPriceData_eq S actual preConsumed
  rw [h]

theorem channelSpecific_of_priceDataFromSnapshot
    (h : priceDataFromSnapshot S price group multiplier = .ok data) :
    data.channelSpecific = true := by
  by_cases hbilling : price.billingType = .fixed
  · simp only [priceDataFromSnapshot, if_pos hbilling, ite_error_eq_ok_iff] at h
    obtain ⟨-, heq⟩ := h
    cases heq
    rfl
  · exact (tokenPriced_of_priceDataFromSnapshot hbilling h).channelSpecific

theorem channelSpecific_of_legacyModelPriceData {info : RelayInfo}
    {tokenMeta : Option TokenCountMeta}
    (h : legacyModelPriceData S info promptTokens tokenMeta group = .ok data) :
    data.channelSpecific = false := by
  simp only [legacyModelPriceData, except_bind_eq_ok_iff] at h
  obtain ⟨base, hbase, heq⟩ := h
  cases heq
  have hbase' : base.channelSpecific = false := by
    unfold legacyConfiguredPriceData at hbase
    split at hbase
    · simp only [legacyRatioPriceData, ite_error_eq_ok_iff] at hbase
      obtain ⟨-, heq⟩ := hbase
      cases heq
      rfl
    · cases hbase
      rfl
  obtain h | ⟨h, -⟩ := applyFreeModelPreConsumePolicy_cases S base <;> rw [h] <;> exact hbase'

end Mujian.Pricing
