import Mujian.Foundations.Rounding

/-!
# Price data

The values that pricing passes around: the price snapshot of a channel, the price data of a
request and the fixed retail quote of an image request. Floating-point numbers are exact
rationals; the operations on them that round are those of a `FloatFormat`.
-/

namespace Mujian.Pricing

/-- The largest value of a 64-bit `int`. -/
def maxInt : ℤ := 2 ^ 63 - 1

theorem maxInt_nonneg : 0 ≤ maxInt := by decide

/-- The smallest value of a 64-bit `int`. -/
def minInt : ℤ := -2 ^ 63

inductive ChannelModelBilling
  | token
  | fixed
  deriving DecidableEq

inductive ReferenceProtocol
  | none | geminiInline | openAIEditMultipart
  deriving DecidableEq

/-- The columns of `channel_model_prices` that routing and billing read. -/
structure ChannelModelPrice where
  (id channelID : ℤ)
  catalogID : String
  upstreamModelID : String := ""
  provider : String
  billingType : ChannelModelBilling
  (inputPrice outputPrice imageOutputPrice fixedPrice cacheRatio cacheCreationRatio : ℚ := 0)
  referenceProtocol : ReferenceProtocol := .none
  maxReferenceImages : ℤ := 0
  currency : String := "USD"
  available : Bool := true
  (syncedAt testedAt : ℤ := 0)

/-- The price that was attested together with a managed channel for one request. -/
structure ChannelModelPriceSnapshot where
  (priceID channelID : ℤ)
  catalogID : String
  upstreamModelID : String := ""
  provider : String
  billingType : ChannelModelBilling
  currency : String := "USD"
  routingGroup : String
  referenceProtocol : ReferenceProtocol := .none
  maxReferenceImages : ℤ := 0
  (inputPrice outputPrice imageOutputPrice fixedPrice cacheRatio cacheCreationRatio : ℚ := 0)
  deriving DecidableEq

def ChannelModelPrice.supportsReferenceImages (price : ChannelModelPrice) : Bool :=
  0 < price.maxReferenceImages &&
    if price.catalogID ∈ ["nano-banana", "nano-banana-pro", "nano-banana-2"] then
      price.referenceProtocol = .geminiInline
    else if price.catalogID = "gpt-image-2" then price.referenceProtocol = .openAIEditMultipart
    else false

def channelModelPriceFromRequestSnapshot (snapshot : ChannelModelPriceSnapshot) :
    ChannelModelPrice where
  id := snapshot.priceID
  channelID := snapshot.channelID
  catalogID := snapshot.catalogID
  upstreamModelID := snapshot.upstreamModelID
  provider := snapshot.provider
  billingType := snapshot.billingType
  currency := snapshot.currency
  inputPrice := snapshot.inputPrice
  outputPrice := snapshot.outputPrice
  imageOutputPrice := snapshot.imageOutputPrice
  fixedPrice := snapshot.fixedPrice
  cacheRatio := snapshot.cacheRatio
  cacheCreationRatio := snapshot.cacheCreationRatio
  referenceProtocol := snapshot.referenceProtocol
  maxReferenceImages := snapshot.maxReferenceImages
  available := true

structure GroupRatioInfo where
  (groupRatio groupSpecialRatio : ℚ)
  hasSpecialRatio : Bool
  deriving DecidableEq

/-- `types.PriceData`; the defaults are the zero values of the fields. -/
structure PriceData where
  freeModel : Bool := false
  (modelPrice modelRatio completionRatio cacheRatio cacheCreationRatio : ℚ := 0)
  (cacheCreation5mRatio cacheCreation1hRatio imageRatio imageCompletionRatio audioRatio : ℚ := 0)
  audioCompletionRatio : ℚ := 0
  otherRatios : List (String × ℚ) := []
  usePrice : Bool := false
  quotaToPreConsume : ℤ := 0
  groupRatioInfo : GroupRatioInfo := ⟨0, 0, false⟩
  channelSpecific : Bool := false
  unitPriceMultiplier : ℚ := 0
  priceProvider : String := ""
  deriving DecidableEq

/-- The retail markup on upstream costs. -/
def salesRatio : ℚ := 5 / 4

namespace PriceData

/-- Settlement follows upstream usage only under a price snapshot of a managed provider. -/
def settlesUpstreamUsage (p : PriceData) : Bool := p.channelSpecific && p.priceProvider ≠ ""

def salesRatio (p : PriceData) : ℚ := if p.settlesUpstreamUsage then Pricing.salesRatio else 1

theorem salesRatio_pos (p : PriceData) : 0 < p.salesRatio := by
  unfold salesRatio Pricing.salesRatio
  split <;> norm_num

theorem salesRatio_lt (p : PriceData) : p.salesRatio < 3 / 2 := by
  unfold salesRatio Pricing.salesRatio
  split <;> norm_num

end PriceData

/-- The number of decimal places that a quotient of decimals is rounded to. -/
def divisionPrecision : ℕ := 16

/-- `Decimal.Div`. -/
def decimalDiv (x y : ℚ) : ℚ := divRound divisionPrecision x y

inductive ImageUnit
  | image
  | request
  deriving DecidableEq

structure ImagePrice where
  currency : String
  unit : ImageUnit
  amount : ℚ
  deriving DecidableEq

def fixedImagePriceFen : ℚ := 20

def fixedImagePrice (model : String) : Option ImagePrice :=
  if model = "gpt-image-2" then some ⟨"CNY", .image, fixedImagePriceFen / 100⟩
  else if model = "nano-banana-2" then some ⟨"CNY", .request, fixedImagePriceFen / 100⟩
  else none

/-- The quote of an image request; the exchange rate is frozen in it for all retries. -/
structure ImageQuote where
  price : ImagePrice
  (exchangeRate quotaPerUnit : ℚ)
  requestedCount : ℤ
  returnedCount : ℤ := 0
  deriving DecidableEq

namespace ImageQuote

def quotaDecimal (q : ImageQuote) (count : ℤ) : ℚ :=
  let count := if q.price.unit = .request ∧ 0 < count then 1 else count
  decimalDiv (decimalDiv fixedImagePriceFen 100 * count) q.exchangeRate * q.quotaPerUnit

def quota (q : ImageQuote) (count : ℤ) : ℤ := roundHalfAway (q.quotaDecimal count)

end ImageQuote

inductive ImageQuoteError
  | invalidCountOrRate
  | quotaOutOfRange
  deriving DecidableEq

def ImageQuoteError.message : ImageQuoteError → String
  | invalidCountOrRate => "图片数量或人民币计费换算配置无效"
  | quotaOutOfRange => "图片预扣额度超出有效范围"

def newImageQuote (model : String) (count : ℕ) (rate quotaPerUnit : ℚ) :
    Except ImageQuoteError (Option ImageQuote) :=
  match fixedImagePrice model with
  | none => .ok none
  | some price =>
    if count = 0 ∨ maxInt < count ∨ ¬0 < rate ∨ ¬0 < quotaPerUnit then .error .invalidCountOrRate
    else
      let q : ImageQuote := ⟨price, rate, quotaPerUnit, count, 0⟩
      let amount := roundHalfAway (q.quotaDecimal q.requestedCount)
      if amount < 1 ∨ maxInt < amount then .error .quotaOutOfRange else .ok (some q)

end Mujian.Pricing
