import Mujian.Pricing.TextQuota
import Mathlib.Tactic.Positivity

/-!
# The reservation covers the usage

`validateAccumulatedClaudeUsageAuthorization` checks the usage that an upstream reports against
the bounds of the price authorization. The reservation made for the bounds covers the quota of every
usage that passes the check (`quota_le_preConsume`): the weighted tokens of the usage are at most
those at the bounds, and rounding to nearest is at most rounding up.
-/

namespace Mujian.Pricing

open Relay

inductive ClaudeUsageError
  | overflow | inconsistentCacheCreation | inputExceeded | outputExceeded
  deriving DecidableEq

/-- The sum of non-negative counters within the range of an `int64`. -/
def checkedClaudeUsageSum (values : List ℤ) : Except ClaudeUsageError ℤ :=
  values.foldlM (fun total value =>
    if value < 0 ∨ maxInt - value < total then .error .overflow else .ok (total + value)) 0

def validateAccumulatedClaudeUsageAuthorization (info : RelayInfo) (usage : Option Usage) :
    Except ClaudeUsageError Unit :=
  match usage with
  | none => .ok ()
  | some usage =>
    if !info.requiresClaudeUsageAuthorization then .ok ()
    else do
      let created := usage.promptTokensDetails.cachedCreationTokens
      let splitTotal ← checkedClaudeUsageSum
        [usage.claudeCacheCreation5mTokens, usage.claudeCacheCreation1hTokens]
      if 0 < created ∧ 0 < splitTotal ∧ created ≠ splitTotal then .error .inconsistentCacheCreation
      else do
        let inputTokens ← checkedClaudeUsageSum
          [usage.promptTokens, usage.promptTokensDetails.cachedTokens, max created splitTotal]
        if info.authorizedPromptTokens < inputTokens then .error .inputExceeded
        else if info.authorizedCompletionTokens < usage.completionTokens then .error .outputExceeded
        else .ok ()

def Usage.inputTokens (usage : Usage) : ℤ :=
  usage.promptTokens + usage.promptTokensDetails.cachedTokens +
    max usage.promptTokensDetails.cachedCreationTokens
      (usage.claudeCacheCreation5mTokens + usage.claudeCacheCreation1hTokens)

variable {values : List ℤ} {sum now : ℤ} {info : RelayInfo} {usage : Usage} {S : Settings}
  {ctx : QuotaContext} {summary : TextQuotaSummary}

theorem foldlM_usageSum {total : ℤ}
    (h : values.foldlM (m := Except ClaudeUsageError) (fun total value =>
      if value < 0 ∨ maxInt - value < total then .error .overflow else .ok (total + value)) total =
        .ok sum) : sum = total + values.sum := by
  induction values generalizing total with
  | nil =>
    cases h
    simp
  | cons value values ih =>
    rw [List.foldlM_cons, except_bind_eq_ok_iff] at h
    obtain ⟨_, hstep, hrest⟩ := h
    obtain ⟨-, hstep⟩ := ite_error_eq_ok_iff.1 hstep
    cases hstep
    rw [ih hrest, List.sum_cons, add_assoc]

theorem checkedClaudeUsageSum_eq_sum
    (h : checkedClaudeUsageSum values = .ok sum) : sum = values.sum := by
  rw [foldlM_usageSum h, zero_add]

/-- A usage that passes the check is within the bounds. -/
theorem le_authorized_of_validate (hrequires : info.requiresClaudeUsageAuthorization = true)
    (h : validateAccumulatedClaudeUsageAuthorization info (some usage) = .ok ()) :
    usage.inputTokens ≤ info.authorizedPromptTokens ∧
      usage.completionTokens ≤ info.authorizedCompletionTokens := by
  simp only [validateAccumulatedClaudeUsageAuthorization, hrequires, Bool.not_true,
    Bool.false_eq_true, if_false, except_bind_eq_ok_iff, ite_error_eq_ok_iff] at h
  obtain ⟨splitTotal, hsplit, -, inputTokens, hinput, hin, hout, -⟩ := h
  have hsplit := checkedClaudeUsageSum_eq_sum hsplit
  have hinput := checkedClaudeUsageSum_eq_sum hinput
  simp only [List.sum_cons, List.sum_nil] at hsplit hinput
  rw [Usage.inputTokens]
  omega

structure Usage.NonNegative (usage : Usage) : Prop where
  promptTokens : 0 ≤ usage.promptTokens
  completionTokens : 0 ≤ usage.completionTokens
  cachedTokens : 0 ≤ usage.promptTokensDetails.cachedTokens
  cachedCreationTokens : 0 ≤ usage.promptTokensDetails.cachedCreationTokens
  imageTokens : 0 ≤ usage.promptTokensDetails.imageTokens
  audioTokens : 0 ≤ usage.promptTokensDetails.audioTokens
  claudeCacheCreation5mTokens : 0 ≤ usage.claudeCacheCreation5mTokens
  claudeCacheCreation1hTokens : 0 ≤ usage.claudeCacheCreation1hTokens

def NoCalls (info : RelayInfo) (name : String) : Prop :=
  ∀ usageInfo tool, info.responsesUsageInfo = some usageInfo →
    usageInfo.builtInTools.lookup name = some tool → tool.callCount ≤ 0

/-- A request without web or file searches, generated images or audio that is billed apart. -/
structure NoSurcharge (ctx : QuotaContext) (info : RelayInfo) (usage : Usage) : Prop where
  webSearch : NoCalls info buildInToolWebSearchPreview
  searchPreview : info.responsesUsageInfo = none →
    info.originModelName.endsWith "search-preview" = false
  claudeWebSearch :
    ctx.claudeWebSearchRequests ≤ 0 ∨ info.priceData.priceProvider = priceProviderZenMux
  fileSearch : NoCalls info buildInToolFileSearch
  imageGenerationCall : ctx.imageGenerationCall = false
  audio : usage.promptTokensDetails.audioTokens = 0 ∨
    getGeminiInputAudioPricePerMillionTokens info.originModelName = 0

theorem responsesToolCharge_of_noCalls
    {usageInfo : ResponsesUsageInfo} {name : String} {price : String → ℚ} {groupRatio : ℚ}
    (hinfo : info.responsesUsageInfo = some usageInfo) (h : NoCalls info name) :
    responsesToolCharge S usageInfo name price groupRatio = {} := by
  unfold responsesToolCharge
  split
  next tool htool => rw [if_neg (not_lt.2 (h usageInfo tool hinfo htool))]
  next => rfl

theorem webSearchCharge_of_noSurcharge (h : NoSurcharge ctx info usage) (groupRatio : ℚ) :
    webSearchCharge S ctx info groupRatio = {} := by
  unfold webSearchCharge
  split
  next hinfo => exact responsesToolCharge_of_noCalls hinfo h.webSearch
  next hinfo => rw [h.searchPreview hinfo, if_neg Bool.false_ne_true]

theorem fileSearchCharge_of_noSurcharge (h : NoSurcharge ctx info usage) (groupRatio : ℚ) :
    fileSearchCharge S info groupRatio = {} := by
  unfold fileSearchCharge
  split
  next hinfo => exact responsesToolCharge_of_noCalls hinfo h.fileSearch
  next => rfl

theorem cachedCreationTokensWithRatio_le {w : ℚ}
    (h0 : 0 ≤ w) (hgeneral : summary.cacheCreationRatio ≤ w)
    (h5m : summary.cacheCreationRatio5m ≤ w) (h1h : summary.cacheCreationRatio1h ≤ w)
    (hcreated : 0 ≤ summary.cacheCreationTokens) (hn5m : 0 ≤ summary.cacheCreationTokens5m)
    (hn1h : 0 ≤ summary.cacheCreationTokens1h) :
    cachedCreationTokensWithRatio summary true ≤
      (max summary.cacheCreationTokens
        (summary.cacheCreationTokens5m + summary.cacheCreationTokens1h) : ℤ) * w := by
  unfold cachedCreationTokensWithRatio
  rw [if_pos rfl]
  split
  · -- The remainder and the two split counters add up to the larger of the two totals.
    set remaining := max 0 (summary.cacheCreationTokens - summary.cacheCreationTokens5m -
      summary.cacheCreationTokens1h)
    have hsum : max summary.cacheCreationTokens
        (summary.cacheCreationTokens5m + summary.cacheCreationTokens1h) =
        remaining + summary.cacheCreationTokens5m + summary.cacheCreationTokens1h := by omega
    rw [hsum]
    push_cast
    rw [add_mul, add_mul]
    gcongr
  · positivity

theorem claudeWebSearchCharge_of_noSurcharge (h : NoSurcharge ctx info usage) (groupRatio : ℚ) :
    (claudeWebSearchCharge S ctx info groupRatio).quota = 0 := by
  have hnot : ¬(0 < ctx.claudeWebSearchRequests ∧
      info.priceData.priceProvider ≠ priceProviderZenMux) := by
    rintro ⟨hpos, hprovider⟩
    exact h.claudeWebSearch.elim (fun hle => absurd hpos (not_lt.2 hle)) hprovider
  rw [claudeWebSearchCharge, if_neg hnot]

/-- A summary that holds the counters of a usage and the ratios of a request unchanged. -/
structure TextQuotaSummary.Reports (summary : TextQuotaSummary) (info : RelayInfo)
    (usage : Usage) : Prop where
  modelName : summary.modelName = info.originModelName
  promptTokens : summary.promptTokens = usage.promptTokens
  completionTokens : summary.completionTokens = usage.completionTokens
  cacheTokens : summary.cacheTokens = usage.promptTokensDetails.cachedTokens
  cacheCreationTokens : summary.cacheCreationTokens = usage.promptTokensDetails.cachedCreationTokens
  cacheCreationTokens5m : summary.cacheCreationTokens5m = usage.claudeCacheCreation5mTokens
  cacheCreationTokens1h : summary.cacheCreationTokens1h = usage.claudeCacheCreation1hTokens
  imageTokens : summary.imageTokens = usage.promptTokensDetails.imageTokens
  imageOutputTokens : summary.imageOutputTokens = usage.completionTokenDetails.imageTokens
  audioTokens : summary.audioTokens = usage.promptTokensDetails.audioTokens
  completionRatio : summary.completionRatio = info.priceData.completionRatio
  cacheRatio : summary.cacheRatio = info.priceData.cacheRatio
  imageRatio : summary.imageRatio = info.priceData.imageRatio
  modelRatio : summary.modelRatio = info.priceData.modelRatio
  groupRatio : summary.groupRatio = info.priceData.groupRatioInfo.groupRatio
  cacheCreationRatio : summary.cacheCreationRatio = info.priceData.cacheCreationRatio
  cacheCreationRatio5m : summary.cacheCreationRatio5m = info.priceData.cacheCreation5mRatio
  cacheCreationRatio1h : summary.cacheCreationRatio1h = info.priceData.cacheCreation1hRatio

/-- Only OpenRouter requests have their counters adjusted. -/
theorem tokenSummary_reports
    (hchannel : ∀ m, info.channelMeta = some m → m.channelType ≠ channelTypeOpenRouter) :
    (tokenSummary S ctx now info (some usage)).Reports info usage := by
  have hnot : info.channelMeta.any (·.channelType = channelTypeOpenRouter) = false := by
    rcases hmeta : info.channelMeta with - | m
    · rfl
    · simpa using hchannel m hmeta
  constructor <;> simp [tokenSummary, openRouterSummary, hnot, reportedSummary]

section

variable {S : Settings} {ctx : QuotaContext} {now : ℤ} {info : RelayInfo} {usage : Usage}
  {summary : TextQuotaSummary} {price : ChannelModelPrice} {group : GroupRatioInfo}
  {promptBound completionBound : ℤ}

theorem audioInputPrice_of_noSurcharge (h : NoSurcharge ctx info usage)
    (hreports : summary.Reports info usage) : audioInputPrice summary = 0 := by
  unfold audioInputPrice
  rw [hreports.modelName, hreports.audioTokens]
  split
  · rfl
  · exact h.audio.resolve_left ‹_›

section

variable (htoken : TokenPriced price group info.priceData)
include htoken

/-- **The worst class of tokens dominates every mix**: the weighted tokens of a usage within the
bounds are at most those at the bounds. -/
theorem weightedTokens_le (hreports : summary.Reports info usage) (husage : usage.NonNegative)
    (himage : usage.completionTokenDetails.imageTokens = 0)
    (haudio : audioInputPrice summary = 0) (hprompt : usage.inputTokens ≤ promptBound)
    (hcompletion : usage.completionTokens ≤ completionBound) :
    weightedTokens info.priceData summary true ≤
      worstWeightedTokens info.priceData promptBound completionBound := by
  set data := info.priceData
  set w := worstPromptBillingRatio data with hw
  have hw1 : 1 ≤ w := one_le_worstPromptBillingRatio data
  have hw0 : 0 ≤ w := zero_le_one.trans hw1
  have h5m : summary.cacheCreationRatio5m ≤ w :=
    hreports.cacheCreationRatio5m.trans_le (cacheCreation5mRatio_le_worst data)
  have h1h : summary.cacheCreationRatio1h ≤ w :=
    hreports.cacheCreationRatio1h.trans_le (cacheCreation1hRatio_le_worst data)
  have hgeneral : summary.cacheCreationRatio ≤ w := by
    rw [hreports.cacheCreationRatio, ← htoken.cacheCreation5mRatio]
    exact cacheCreation5mRatio_le_worst data
  have hcreation := cachedCreationTokensWithRatio_le hw0 hgeneral h5m h1h
    (hreports.cacheCreationTokens ▸ husage.cachedCreationTokens)
    (hreports.cacheCreationTokens5m ▸ husage.claudeCacheCreation5mTokens)
    (hreports.cacheCreationTokens1h ▸ husage.claudeCacheCreation1hTokens)
  rw [hreports.cacheCreationTokens, hreports.cacheCreationTokens5m,
    hreports.cacheCreationTokens1h] at hcreation
  have hbase : (usage.promptTokens : ℚ) ≤ usage.promptTokens * w :=
    le_mul_of_one_le_right (by exact_mod_cast husage.promptTokens) hw1
  have hcached : (usage.promptTokensDetails.cachedTokens : ℚ) * data.cacheRatio ≤
      usage.promptTokensDetails.cachedTokens * w :=
    mul_le_mul_of_nonneg_left (cacheRatio_le_worst data) (by exact_mod_cast husage.cachedTokens)
  have hinput : (usage.promptTokensDetails.imageTokens : ℚ) * data.imageRatio ≤
      usage.promptTokensDetails.imageTokens :=
    mul_le_of_le_one_right (by exact_mod_cast husage.imageTokens) htoken.imageRatio_le
  have houtput : (usage.completionTokens : ℚ) * data.completionRatio ≤
      completionBound * max data.completionRatio data.imageCompletionRatio :=
    mul_le_mul (by exact_mod_cast hcompletion) (le_max_left _ _) htoken.completionRatio_pos.le
      (by exact_mod_cast husage.completionTokens.trans hcompletion)
  have hbound : (usage.inputTokens : ℚ) * w ≤ promptBound * w :=
    mul_le_mul_of_nonneg_right (by exact_mod_cast hprompt) hw0
  have htotal : weightedTokens data summary true =
      usage.promptTokens - usage.promptTokensDetails.imageTokens +
        usage.promptTokensDetails.cachedTokens * data.cacheRatio +
        usage.promptTokensDetails.imageTokens * data.imageRatio +
        cachedCreationTokensWithRatio summary true +
        usage.completionTokens * data.completionRatio := by
    simp [weightedTokens, baseTokens, audioTokensBilledApart, haudio, hreports.promptTokens,
      hreports.imageTokens, hreports.cacheTokens, hreports.cacheRatio, hreports.imageRatio,
      hreports.completionTokens, hreports.imageOutputTokens, hreports.completionRatio, himage, data]
  rw [worstWeightedTokens]
  simp only [Usage.inputTokens, Int.cast_add] at hbound
  linarith

/-- A usage within the bounds that has tokens at all leaves room for them in the bounds. -/
theorem worstWeightedTokens_pos (hreports : summary.Reports info usage) (husage : usage.NonNegative)
    (hprompt : usage.inputTokens ≤ promptBound)
    (hcompletion : usage.completionTokens ≤ completionBound)
    (htotal : summaryTotalTokens summary ≠ 0) :
    0 < worstWeightedTokens info.priceData promptBound completionBound := by
  have hw1 := one_le_worstPromptBillingRatio info.priceData
  have hc : 0 < max info.priceData.completionRatio info.priceData.imageCompletionRatio :=
    lt_max_of_lt_left htoken.completionRatio_pos
  have hsome : 0 < promptBound ∨ 0 < completionBound := by
    by_contra hnone
    have hin : usage.inputTokens ≤ 0 := hprompt.trans (by omega)
    have hcreated := husage.cachedCreationTokens
    have hcached := husage.cachedTokens
    have hp := husage.promptTokens
    have hout := husage.completionTokens
    simp only [Usage.inputTokens] at hin
    apply htotal
    simp only [summaryTotalTokens, cacheWriteTokensTotal, hreports.promptTokens,
      hreports.completionTokens, hreports.cacheTokens, hreports.cacheCreationTokens,
      hreports.cacheCreationTokens5m, hreports.cacheCreationTokens1h]
    split_ifs <;> omega
  have hp0 : 0 ≤ promptBound := by
    refine le_trans ?_ hprompt
    have := husage.promptTokens
    have := husage.cachedTokens
    have := husage.cachedCreationTokens
    simp only [Usage.inputTokens]
    omega
  have hc0 : 0 ≤ completionBound := husage.completionTokens.trans hcompletion
  unfold worstWeightedTokens
  rcases hsome with h | h
  · positivity
  · positivity

end

end

/-- The charge is covered by any amount that covers the rounded quota and the minimum charge. -/
theorem chargedQuota_le {value : ℚ} {n : ℤ}
    (h0 : 0 ≤ n) (hround : summary.totalTokens ≠ 0 → roundHalfAway value ≤ n)
    (hmin : summary.totalTokens ≠ 0 → summary.modelRatio * summary.groupRatio ≠ 0 → 1 ≤ n) :
    chargedQuota summary (quotaDecimalToInt value) ≤ n := by
  unfold chargedQuota
  split_ifs with htotal hmin'
  · exact h0
  · exact hmin htotal hmin'.1
  · simp only [quotaDecimalToInt]
    split_ifs <;> omega

theorem calculateTextQuotaSummary_quota (hretail : info.imageRetail = none)
    (hsemantic : usageSemanticFromUsage info (some usage) = "anthropic")
    (hsurcharge : NoSurcharge ctx info usage) :
    (calculateTextQuotaSummary S ctx now info (some usage)).quota =
      chargedQuota (tokenSummary S ctx now info (some usage)) (quotaDecimalToInt
        (quotaCalculateDecimal S info.priceData (tokenSummary S ctx now info (some usage)) true 0 *
          info.priceData.salesRatio)) := by
  have hclaude : (tokenSummary S ctx now info (some usage)).isClaudeUsageSemantic = true := by
    simp only [tokenSummary, openRouterSummary]
    split <;> simp [reportedSummary, hsemantic]
  simp [calculateTextQuotaSummary, hretail, hclaude, webSearchCharge_of_noSurcharge hsurcharge,
    fileSearchCharge_of_noSurcharge hsurcharge, claudeWebSearchCharge_of_noSurcharge hsurcharge,
    imageGenerationCallPrice, hsurcharge.imageGenerationCall]

/-- **The reservation covers the usage.** The quota of every usage that passes the check against the
bounds of a request is at most what the token-billed price of a channel requires for them, unless
image output, surcharges or OpenRouter's counting of tokens enter into it. -/
theorem quota_le_preConsume (S : Settings) (price : ChannelModelPrice) (group : GroupRatioInfo)
    (multiplier : ℚ) (promptBound completionBound : ℤ) (required actual : PriceData)
    (reserved now : ℤ) (ctx : QuotaContext) (info : RelayInfo) (usage : Usage)
    (hbilling : price.billingType = .token)
    (hrequired : preConsumePriceFromSnapshot S price group multiplier promptBound
      completionBound = .ok required)
    (hactual : priceDataFromSnapshot S price group multiplier = .ok actual)
    (hprice : info.priceData = boundPriceData S actual reserved)
    (hretail : info.imageRetail = none)
    (hpromptBound : info.authorizedPromptTokens = promptBound)
    (hcompletionBound : info.authorizedCompletionTokens = completionBound)
    (hchannel : ∀ m, info.channelMeta = some m → m.channelType ≠ channelTypeOpenRouter)
    (hsemantic : usageSemanticFromUsage info (some usage) = "anthropic")
    (husage : usage.NonNegative)
    (hvalid : validateAccumulatedClaudeUsageAuthorization info (some usage) = .ok ())
    (himage : usage.completionTokenDetails.imageTokens = 0)
    (hsurcharge : NoSurcharge ctx info usage) :
    (calculateTextQuotaSummary S ctx now info (some usage)).quota ≤ required.quotaToPreConsume := by
  have hfixed : price.billingType ≠ .fixed := by simp [hbilling]
  obtain ⟨free, hbound⟩ := boundPriceData_eq S actual reserved
  rw [hbound] at hprice
  have htoken : TokenPriced price group info.priceData := by
    have h := tokenPriced_of_priceDataFromSnapshot hfixed hactual
    rw [hprice]
    constructor <;> cases h <;> assumption
  have hreports : (tokenSummary S ctx now info (some usage)).Reports info usage :=
    tokenSummary_reports hchannel
  obtain ⟨hprompt, hcompletion⟩ := le_authorized_of_validate
    (by simp [RelayInfo.requiresClaudeUsageAuthorization, htoken.channelSpecific]) hvalid
  rw [hpromptBound] at hprompt
  rw [hcompletionBound] at hcompletion
  have haudio := audioInputPrice_of_noSurcharge hsurcharge hreports
  obtain ⟨hgroup, hnonneg, -, hceil⟩ := preConsumePriceFromSnapshot_token hfixed hrequired hactual
  have hworst : worstWeightedTokens actual promptBound completionBound =
      worstWeightedTokens info.priceData promptBound completionBound := by rw [hprice]; rfl
  have hsales : actual.salesRatio = info.priceData.salesRatio := by rw [hprice]; rfl
  have hmodel : actual.modelRatio = info.priceData.modelRatio := by rw [hprice]
  rw [hworst, hsales, hmodel] at hceil
  rw [calculateTextQuotaSummary_quota hretail hsemantic hsurcharge]
  set summary := tokenSummary S ctx now info (some usage)
  have hratio : summary.modelRatio * summary.groupRatio =
      info.priceData.modelRatio * group.groupRatio := by
    rw [hreports.modelRatio, hreports.groupRatio, htoken.groupRatioInfo]
  have hdecimal : quotaCalculateDecimal S info.priceData summary true 0 =
      if info.priceData.modelRatio * group.groupRatio ≠ 0 ∧
        weightedTokens info.priceData summary true *
          (info.priceData.modelRatio * group.groupRatio) ≤ 0 then 1
      else weightedTokens info.priceData summary true *
        (info.priceData.modelRatio * group.groupRatio) := by
    simp [quotaCalculateDecimal, htoken.usePrice, htoken.otherRatios, audioInputQuota, haudio,
      hratio]
  rcases hgroup.eq_or_lt with hzero | hpos
  · -- In a free group both amounts are zero.
    refine chargedQuota_le hnonneg (fun _ => ?_) fun _ hne => absurd ?_ hne
    · rw [hdecimal, ← hzero]
      simpa [roundHalfAway_zero] using hnonneg
    · rw [hratio, ← hzero, mul_zero]
  · have hratio0 : 0 < info.priceData.modelRatio * group.groupRatio :=
      mul_pos htoken.modelRatio_pos hpos
    have hsales0 := info.priceData.salesRatio_pos
    have hle := weightedTokens_le htoken hreports husage himage haudio hprompt hcompletion
    have hamount := hceil hpos.ne'
    have hmin (htotal : summary.totalTokens ≠ 0) : 1 ≤ required.quotaToPreConsume := by
      have hworst0 := worstWeightedTokens_pos htoken hreports husage hprompt hcompletion htotal
      rw [hamount, Int.one_le_ceil_iff]
      have := htoken.modelRatio_pos
      positivity
    refine chargedQuota_le hnonneg (fun htotal => ?_) fun htotal _ => hmin htotal
    rw [hdecimal]
    split_ifs with hsmall
    · rw [one_mul]
      exact (roundHalfAway_le_one info.priceData.salesRatio_lt).trans (hmin htotal)
    · refine (roundHalfAway_le_ceil _).trans ?_
      rw [hamount, mul_assoc _ info.priceData.modelRatio]
      apply Int.ceil_le_ceil
      gcongr

def samplePrice : ChannelModelPrice where
  id := 1
  channelID := 7
  catalogID := "claude-sonnet-4-6"
  provider := "zenmux"
  billingType := .token
  inputPrice := 3
  outputPrice := 15
  cacheRatio := 1 / 10
  cacheCreationRatio := 5 / 4

def samplePriceData : PriceData where
  channelSpecific := true
  modelPrice := -1
  modelRatio := 3 / 2
  completionRatio := 5
  cacheRatio := 1 / 10
  cacheCreationRatio := 5 / 4
  cacheCreation5mRatio := 5 / 4
  cacheCreation1hRatio := 2
  groupRatioInfo := ⟨1, -1, false⟩
  unitPriceMultiplier := 1
  priceProvider := "zenmux"

def sampleClaudeInfo : RelayInfo where
  originModelName := "claude-sonnet-4-6"
  priceData := { samplePriceData with quotaToPreConsume := 8438 }
  authorizedPromptTokens := 1000
  authorizedCompletionTokens := 500
  responsesUsageInfo := some ⟨[]⟩

def sampleUsage : Usage where
  promptTokens := 700
  completionTokens := 500
  usageSemantic := "anthropic"
  promptTokensDetails := { cachedTokens := 250, cachedCreationTokens := 50 }
  claudeCacheCreation5mTokens := 30
  claudeCacheCreation1hTokens := 20

/-- A usage at both bounds: 6192 of the 8438 reserved units are charged. -/
theorem quota_le_preConsume_sample :
    (calculateTextQuotaSummary sampleSettings {} 0 sampleClaudeInfo (some sampleUsage)).quota ≤
      8438 :=
  quota_le_preConsume sampleSettings samplePrice ⟨1, -1, false⟩ 1 1000 500
    { samplePriceData with quotaToPreConsume := 8438 } samplePriceData 8438 0 {} sampleClaudeInfo
    sampleUsage rfl (by decide +kernel) (by decide +kernel) (by decide +kernel) rfl rfl rfl
    (by simp [sampleClaudeInfo])
    rfl (by constructor <;> decide) (by decide) rfl
    { webSearch := by rintro _ _ ⟨⟩; simp
      searchPreview := nofun, claudeWebSearch := .inl le_rfl
      fileSearch := by rintro _ _ ⟨⟩; simp
      imageGenerationCall := rfl, audio := .inl rfl }

example : (calculateTextQuotaSummary sampleSettings {} 0 sampleClaudeInfo
    (some sampleUsage)).quota = 6192 := by decide +kernel

end Mujian.Pricing
