import Mujian.Pricing.PriceData

/-!
# The request being relayed

`RelayInfo` is the state of a request that pricing, routing and billing share. It holds the
fields that these read or write; transport fields are left out. A nil pointer of the source is
`none`.
-/

namespace Mujian.Relay

open Pricing

inductive RelayFormat
  | openAI | claude | gemini | openAIResponses | openAIResponsesCompaction | openAIAudio
  | openAIImage | openAIRealtime | rerank | embedding | task | mjProxy
  deriving DecidableEq

/-- The relay modes; pricing singles out the editing of images. -/
inductive RelayMode
  | imagesEdits
  | other (mode : ℕ)
  deriving DecidableEq

def channelTypeOpenRouter : ℤ := 20

structure ChannelMeta where
  (channelType channelId : ℤ)
  managedProvider : Bool
  deriving DecidableEq

structure BuildInToolInfo where
  callCount : ℤ
  searchContextSize : String
  deriving DecidableEq

/-- The tools of a responses request that are billed per call, by name. -/
structure ResponsesUsageInfo where
  builtInTools : List (String × BuildInToolInfo)
  deriving DecidableEq

structure UserSetting where
  acceptUnsetRatioModel : Bool := false
  billingPreference : String := ""
  deriving DecidableEq

inductive BillingSource
  | wallet
  | subscription
  deriving DecidableEq

structure RelayInfo where
  userId : ℤ := 0
  (userGroup usingGroup : String := "")
  tokenId : ℤ := 0
  tokenGroup : String := ""
  tokenUnlimited : Bool := false
  userQuota : ℤ := 0
  userSetting : UserSetting := {}
  (requestId originModelName : String := "")
  (isPlayground forcePreConsume : Bool := false)
  relayMode : RelayMode := .other 0
  relayFormat : RelayFormat := .openAI
  finalRequestRelayFormat : Option RelayFormat := none
  requestConversionChain : List RelayFormat := []
  (startTime estimatePromptTokens : ℤ := 0)
  priceData : PriceData := {}
  legacyPriceData : Option PriceData := none
  imageRetail : Option ImageQuote := none
  (authorizedPromptTokens authorizedCompletionTokens : ℤ := 0)
  responsesUsageInfo : Option ResponsesUsageInfo := none
  channelMeta : Option ChannelMeta := none
  finalPreConsumedQuota : ℤ := 0
  billingSource : Option BillingSource := none
  (subscriptionId subscriptionPreConsumed subscriptionPostDelta subscriptionAmountTotal : ℤ := 0)
  subscriptionAmountUsedAfterPreConsume : ℤ := 0
  deriving DecidableEq

namespace RelayInfo

section

variable (info : RelayInfo)

/-- Requests whose channel estimate is reserved, and whose usage is settled, through the
persistent billing ledger. -/
def usesAtomicStrictBilling : Bool :=
  info.forcePreConsume && (info.priceData.channelSpecific || info.imageRetail.isSome)

def requiresClaudeUsageAuthorization : Bool :=
  info.channelMeta.any (·.managedProvider) || info.priceData.channelSpecific

def getFinalRequestRelayFormat : RelayFormat :=
  (info.finalRequestRelayFormat.or info.requestConversionChain.getLast?).getD info.relayFormat

end

end RelayInfo

end Mujian.Relay
