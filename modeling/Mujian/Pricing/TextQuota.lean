import Mujian.Pricing.Price

/-!
# The quota of a text request

`calculateTextQuotaSummary` computes the quota a request settles for from the usage the upstream
reported: every class of tokens at its ratio (`weightedTokens`), the surcharges of tools, audio and
other ratios (`quotaCalculateDecimal`), the sales ratio, the rounding of the result and the minimum
charge (`chargedQuota`).
-/

namespace Mujian.Pricing

open Relay

structure InputTokenDetails where
  (cachedTokens cachedCreationTokens audioTokens imageTokens : ℤ := 0)
  deriving DecidableEq

structure OutputTokenDetails where
  imageTokens : ℤ := 0
  deriving DecidableEq

/-- The cost that an upstream may report: a value of any type. -/
inductive UsageCost
  | absent
  | float (value : ℚ)
  | int (value : ℤ)
  | other
  deriving DecidableEq

/-- The fields of `dto.Usage` that the quota depends on. -/
structure Usage where
  (promptTokens completionTokens : ℤ := 0)
  (usageSemantic usageSource : String := "")
  promptTokensDetails : InputTokenDetails := {}
  completionTokenDetails : OutputTokenDetails := {}
  (claudeCacheCreation5mTokens claudeCacheCreation1hTokens : ℤ := 0)
  cost : UsageCost := .absent
  deriving DecidableEq

structure QuotaContext where
  (tokenName chatCompletionWebSearchContextSize : String := "")
  claudeWebSearchRequests : ℤ := 0
  imageGenerationCall : Bool := false
  (imageGenerationCallQuality imageGenerationCallSize : String := "")

structure TextQuotaSummary where
  (promptTokens completionTokens totalTokens cacheTokens cacheCreationTokens : ℤ := 0)
  (cacheCreationTokens5m cacheCreationTokens1h imageTokens imageOutputTokens audioTokens : ℤ := 0)
  (modelName tokenName : String := "")
  useTimeSeconds : ℤ := 0
  (completionRatio cacheRatio imageRatio modelRatio groupRatio modelPrice : ℚ := 0)
  (cacheCreationRatio cacheCreationRatio5m cacheCreationRatio1h : ℚ := 0)
  quota : ℤ := 0
  isClaudeUsageSemantic : Bool := false
  usageSemantic : String := ""
  webSearchPrice : ℚ := 0
  webSearchCallCount : ℤ := 0
  claudeWebSearchPrice : ℚ := 0
  claudeWebSearchCallCount : ℤ := 0
  claudeWebSearchBilled : Bool := false
  fileSearchPrice : ℚ := 0
  fileSearchCallCount : ℤ := 0
  (audioInputPrice imageGenerationCallPrice : ℚ := 0)

section

variable (S : Settings) (info : RelayInfo) (usage : Usage) (summary : TextQuotaSummary)

def usageSemanticFromUsage (usage : Option Usage) : String :=
  match usage with
  | some u => if u.usageSemantic ≠ "" then u.usageSemantic else fromFormat
  | none => fromFormat
where
  fromFormat : String := if info.getFinalRequestRelayFormat = .claude then "anthropic" else "openai"

def isLegacyClaudeDerivedOpenAIUsage : Bool :=
  info.getFinalRequestRelayFormat ≠ .claude && usage.usageSource = "" &&
    usage.usageSemantic = "" &&
    (0 < usage.claudeCacheCreation5mTokens || 0 < usage.claudeCacheCreation1hTokens)

/-- The price depends on the model only; the context size was dropped from it. -/
def getWebSearchPricePerThousand (modelName _contextSize : String) : ℚ :=
  if modelName.startsWith "o3" || modelName.startsWith "o4" || modelName.startsWith "gpt-5" then 10
  else 25

def getClaudeWebSearchPricePerThousand : ℚ := 10

def getFileSearchPricePerThousand : ℚ := 5 / 2

def getGeminiInputAudioPricePerMillionTokens (modelName : String) : ℚ :=
  if modelName.startsWith "gemini-2.5-flash-preview-native-audio" then 3
  else if modelName.startsWith "gemini-2.5-flash-preview-lite" then 1 / 2
  else if modelName.startsWith "gemini-2.5-flash-preview" then 1
  else if modelName.startsWith "gemini-2.5-flash" then 1
  else if modelName.startsWith "gemini-2.0-flash" then 7 / 10
  else if modelName.startsWith "gemini-robotics-er-1.5" then 1
  else 0

/-- The prices of one image by quality and size; any other pair costs the default. -/
def getGPTImage1PriceOnceCall (quality size : String) : ℚ :=
  let square := size = "1024x1024"
  let oblong := size = "1024x1536" ∨ size = "1536x1024"
  if quality = "low" ∧ square then 11 / 1000
  else if quality = "low" ∧ oblong then 16 / 1000
  else if quality = "medium" ∧ square then 42 / 1000
  else if quality = "medium" ∧ oblong then 63 / 1000
  else if quality = "high" ∧ oblong then 25 / 100
  else 167 / 1000

def cacheWriteTokensTotal : ℤ :=
  if 0 < summary.cacheCreationTokens5m ∨ 0 < summary.cacheCreationTokens1h then
    max summary.cacheCreationTokens (summary.cacheCreationTokens5m + summary.cacheCreationTokens1h)
  else summary.cacheCreationTokens

def quotaDecimalToInt (value : ℚ) : ℤ :=
  let rounded := roundHalfAway value
  if rounded < 0 then 0 else if maxInt < rounded then maxInt else rounded

def hasCustomModelRatio (modelName : String) (currentRatio : ℚ) : Bool :=
  match S.getDefaultModelRatio modelName with
  | none => true
  | some defaultRatio => currentRatio ≠ defaultRatio

/-- The cache writes that the reported cost of a request implies. -/
def calcOpenRouterCacheCreateTokens (priceData : PriceData) : ℤ :=
  if priceData.cacheCreationRatio = 1 then 0
  else S.toInt do
    let quotaPrice ← S.float.div priceData.modelRatio S.quotaPerUnit
    let promptCacheCreatePrice ← S.float.mul quotaPrice priceData.cacheCreationRatio
    let promptCacheReadPrice ← S.float.mul quotaPrice priceData.cacheRatio
    let completionPrice ← S.float.mul quotaPrice priceData.completionRatio
    let cost := match usage.cost with
      | .float value => value
      | _ => 0
    let prompt ← S.float.mul (← S.float.ofInt usage.promptTokens) quotaPrice
    let uncached ← S.float.sub cost prompt
    let saving ← S.float.sub quotaPrice promptCacheReadPrice
    let read ← S.float.mul (← S.float.ofInt usage.promptTokensDetails.cachedTokens) saving
    let withRead ← S.float.add uncached read
    let completion ← S.float.mul (← S.float.ofInt usage.completionTokens) completionPrice
    let excess ← S.float.sub withRead completion
    let markup ← S.float.sub promptCacheCreatePrice quotaPrice
    let tokens ← S.float.div excess markup
    some (roundHalfAway tokens)

def reportedSummary (ctx : QuotaContext) (now : ℤ) (info : RelayInfo) (semantic : String)
    (usage : Usage) : TextQuotaSummary where
  modelName := info.originModelName
  tokenName := ctx.tokenName
  useTimeSeconds := now - info.startTime
  completionRatio := info.priceData.completionRatio
  cacheRatio := info.priceData.cacheRatio
  imageRatio := info.priceData.imageRatio
  modelRatio := info.priceData.modelRatio
  groupRatio := info.priceData.groupRatioInfo.groupRatio
  modelPrice := info.priceData.modelPrice
  cacheCreationRatio := info.priceData.cacheCreationRatio
  cacheCreationRatio5m := info.priceData.cacheCreation5mRatio
  cacheCreationRatio1h := info.priceData.cacheCreation1hRatio
  usageSemantic := semantic
  isClaudeUsageSemantic := semantic = "anthropic"
  promptTokens := usage.promptTokens
  completionTokens := usage.completionTokens
  cacheTokens := usage.promptTokensDetails.cachedTokens
  cacheCreationTokens := usage.promptTokensDetails.cachedCreationTokens
  cacheCreationTokens5m := usage.claudeCacheCreation5mTokens
  cacheCreationTokens1h := usage.claudeCacheCreation1hTokens
  imageTokens := usage.promptTokensDetails.imageTokens
  imageOutputTokens := usage.completionTokenDetails.imageTokens
  audioTokens := usage.promptTokensDetails.audioTokens

/-- The cache writes of an OpenRouter request, inferred from its cost when they are not reported. -/
def openRouterCacheCreationTokens (promptTokens : ℤ) : ℤ :=
  let isUsingCustomSettings := info.priceData.usePrice ||
    hasCustomModelRatio S summary.modelName info.priceData.modelRatio
  if summary.cacheCreationTokens = 0 ∧ info.priceData.cacheCreationRatio ≠ 1 ∧
      usage.cost ≠ .int 0 ∧ isUsingCustomSettings = false then
    let maybeCacheCreationTokens := calcOpenRouterCacheCreateTokens S usage info.priceData
    if 0 ≤ maybeCacheCreationTokens ∧ maybeCacheCreationTokens ≤ promptTokens then
      maybeCacheCreationTokens
    else summary.cacheCreationTokens
  else summary.cacheCreationTokens

/-- OpenRouter counts cache reads and writes among the prompt tokens; they are taken out. -/
def openRouterSummary : TextQuotaSummary :=
  if info.channelMeta.any (·.channelType = channelTypeOpenRouter) ∧
      summary.isClaudeUsageSemantic then
    let promptTokens := summary.promptTokens - summary.cacheTokens
    let cacheCreationTokens := openRouterCacheCreationTokens S info usage summary promptTokens
    { summary with
      promptTokens := promptTokens - cacheCreationTokens
      cacheCreationTokens := cacheCreationTokens }
  else summary

def summaryTotalTokens : ℤ := summary.promptTokens + summary.completionTokens +
    if summary.isClaudeUsageSemantic then summary.cacheTokens + cacheWriteTokensTotal summary
    else 0

end

structure ToolCharge where
  callCount : ℤ := 0
  (price quota : ℚ := 0)

section

variable (S : Settings) (ctx : QuotaContext) (info : RelayInfo) (groupRatio : ℚ)

/-- The charge of a tool that a responses request names, at a price that may depend on the
context size. -/
def responsesToolCharge (usageInfo : ResponsesUsageInfo) (name : String)
    (price : String → ℚ) (groupRatio : ℚ) : ToolCharge :=
  match usageInfo.builtInTools.lookup name with
  | some tool =>
    if 0 < tool.callCount then
      let price := price tool.searchContextSize
      ⟨tool.callCount, price,
        decimalDiv (price * tool.callCount) 1000 * groupRatio * S.quotaPerUnit⟩
    else {}
  | none => {}

def buildInToolWebSearchPreview : String := "web_search_preview"

def buildInToolFileSearch : String := "file_search"

/-- Chat models whose name says so search once in every request. -/
def webSearchCharge : ToolCharge :=
  match info.responsesUsageInfo with
  | some usageInfo =>
    responsesToolCharge S usageInfo buildInToolWebSearchPreview
      (getWebSearchPricePerThousand info.originModelName) groupRatio
  | none =>
    if info.originModelName.endsWith "search-preview" then
      let searchContextSize := if ctx.chatCompletionWebSearchContextSize = "" then "medium"
        else ctx.chatCompletionWebSearchContextSize
      let price := getWebSearchPricePerThousand info.originModelName searchContextSize
      ⟨1, price, decimalDiv price 1000 * groupRatio * S.quotaPerUnit⟩
    else {}

def fileSearchCharge : ToolCharge :=
  match info.responsesUsageInfo with
  | some usageInfo =>
    responsesToolCharge S usageInfo buildInToolFileSearch
      (fun _ => getFileSearchPricePerThousand) groupRatio
  | none => {}

/-- ZenMux bills its web searches itself. -/
def priceProviderZenMux : String := "zenmux"

def claudeWebSearchCharge : ToolCharge :=
  if 0 < ctx.claudeWebSearchRequests ∧ info.priceData.priceProvider ≠ priceProviderZenMux then
    ⟨ctx.claudeWebSearchRequests, getClaudeWebSearchPricePerThousand,
      decimalDiv getClaudeWebSearchPricePerThousand 1000 * groupRatio * S.quotaPerUnit *
        ctx.claudeWebSearchRequests⟩
  else ⟨ctx.claudeWebSearchRequests, 0, 0⟩

def imageGenerationCallPrice : ℚ :=
  if ctx.imageGenerationCall then
    getGPTImage1PriceOnceCall ctx.imageGenerationCallQuality ctx.imageGenerationCallSize
  else 0

end

section

variable (S : Settings) (data : PriceData) (summary : TextQuotaSummary) (apart : Bool)

/-- The price of a million audio tokens, when the request has audio tokens. -/
def audioInputPrice : ℚ :=
  if summary.audioTokens = 0 then 0
  else getGeminiInputAudioPricePerMillionTokens summary.modelName

def audioTokensBilledApart : ℤ := if 0 < audioInputPrice summary then summary.audioTokens else 0

def audioInputQuota : ℚ :=
  if 0 < audioInputPrice summary then
    decimalDiv (audioInputPrice summary) 1000000 * summary.audioTokens * summary.groupRatio *
      S.quotaPerUnit
  else 0

/-- The cache writes at their ratios. Where they are reported apart from the prompt, those of five
minutes and of one hour have ratios of their own and the remainder the general one. -/
def cachedCreationTokensWithRatio : ℚ :=
  if summary.cacheCreationTokens ≠ 0 ∨ 0 < summary.cacheCreationTokens5m ∨
      0 < summary.cacheCreationTokens1h then
    if apart then
      let remaining := max 0 (summary.cacheCreationTokens - summary.cacheCreationTokens5m -
        summary.cacheCreationTokens1h)
      remaining * summary.cacheCreationRatio +
        summary.cacheCreationTokens5m * summary.cacheCreationRatio5m +
        summary.cacheCreationTokens1h * summary.cacheCreationRatio1h
    else summary.cacheCreationTokens * summary.cacheCreationRatio
  else 0

/-- The prompt tokens that are billed at the plain input rate. -/
def baseTokens : ℤ := summary.promptTokens - (if apart then 0 else summary.cacheTokens) -
    (if apart then 0 else summary.cacheCreationTokens) - summary.imageTokens -
    audioTokensBilledApart summary

def weightedTokens : ℚ :=
  let promptQuota := baseTokens summary apart + summary.cacheTokens * summary.cacheRatio +
    summary.imageTokens * summary.imageRatio + cachedCreationTokensWithRatio summary apart
  let completionQuota :=
    if 0 < data.imageCompletionRatio then
      (summary.completionTokens - summary.imageOutputTokens) * summary.completionRatio +
        summary.imageOutputTokens * data.imageCompletionRatio
    else summary.completionTokens * summary.completionRatio
  promptQuota + completionQuota

/-- The quota of a request before the sales ratio and rounding. -/
def quotaCalculateDecimal (surcharges : ℚ) : ℚ :=
  let ratio := summary.modelRatio * summary.groupRatio
  let otherRatios := (data.otherRatios.map Prod.snd).prod
  if data.usePrice then
    (summary.modelPrice * S.quotaPerUnit * summary.groupRatio + surcharges) * otherRatios
  else
    let quota := (weightedTokens data summary apart * ratio + surcharges +
      audioInputQuota S summary) * otherRatios
    if ratio ≠ 0 ∧ quota ≤ 0 then 1 else quota

/-- The quota that is charged: nothing without tokens, and otherwise at least one unit unless the
model is free. -/
def chargedQuota (quota : ℤ) : ℤ :=
  if summary.totalTokens = 0 then 0
  else if summary.modelRatio * summary.groupRatio ≠ 0 ∧ quota = 0 then 1
  else quota

def tokenSummary (ctx : QuotaContext) (now : ℤ) (info : RelayInfo)
    (usage : Option Usage) : TextQuotaSummary :=
  let reported := usage.getD { promptTokens := info.estimatePromptTokens }
  let summary := openRouterSummary S info reported
    (reportedSummary ctx now info (usageSemanticFromUsage info usage) reported)
  { summary with totalTokens := summaryTotalTokens summary }

def calculateTextQuotaSummary (ctx : QuotaContext) (now : ℤ) (info : RelayInfo)
    (usage : Option Usage) : TextQuotaSummary :=
  let summary := tokenSummary S ctx now info usage
  match info.imageRetail with
  | some quote =>
    { summary with
      quota := quote.quota quote.returnedCount, groupRatio := 1
      modelRatio := 0, modelPrice := (S.float.div quote.price.amount quote.exchangeRate).getD 0 }
  | none =>
    let legacyClaudeDerived := isLegacyClaudeDerivedOpenAIUsage info
      (usage.getD { promptTokens := info.estimatePromptTokens })
    let apart := summary.isClaudeUsageSemantic || legacyClaudeDerived
    let webSearch := webSearchCharge S ctx info summary.groupRatio
    let claudeWebSearch := claudeWebSearchCharge S ctx info summary.groupRatio
    let fileSearch := fileSearchCharge S info summary.groupRatio
    let imageCall := imageGenerationCallPrice ctx * summary.groupRatio * S.quotaPerUnit
    let surcharges := webSearch.quota + claudeWebSearch.quota + fileSearch.quota + imageCall
    let quota := quotaDecimalToInt
      (quotaCalculateDecimal S info.priceData summary apart surcharges * info.priceData.salesRatio)
    { summary with
      webSearchCallCount := webSearch.callCount, webSearchPrice := webSearch.price
      claudeWebSearchCallCount := claudeWebSearch.callCount
      claudeWebSearchPrice := claudeWebSearch.price
      claudeWebSearchBilled := 0 < claudeWebSearch.price
      fileSearchCallCount := fileSearch.callCount, fileSearchPrice := fileSearch.price
      imageGenerationCallPrice := imageGenerationCallPrice ctx
      audioInputPrice := if info.priceData.usePrice then 0 else audioInputPrice summary
      quota := chargedQuota summary quota }

end

end Mujian.Pricing
