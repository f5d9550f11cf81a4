import Mujian.Foundations.Text
import Mujian.Streams.Wire

/-!
# The usage counters of a Claude stream

The counters an upstream reports are checked against the bounds that the price of the request was
authorized for, event by event (`validateClaudeUsageAuthorization`) and accumulated
(`validateAccumulatedClaudeUsageAuthorization`). The accumulated check is the one that says
something about the usage that is settled: `authorized_of_validateAccumulated`.
-/

namespace Mujian.Streams

open Pricing Relay

/-- What the stream handler knows of a request. The editing of JSON texts and the estimation of
tokens belong to other packages. -/
structure ClaudeRelay where
  info : RelayInfo
  (apiKey upstreamModelName : String := "")
  claudeInputEvidenceBytes : ℤ := 0
  (passThroughRequestEnabled passThroughBodyEnabled shouldIncludeUsage : Bool := false)
  responseId : String := ""
  timestamp : ℤ := 0
  estimateTokenByModel : String → String → ℤ := fun _ _ => 0
  gjsonInt : Wire → String → Option ℤ := fun _ _ => none
  sjsonSet : Wire → String → ℤ → Option Wire := fun _ _ _ => none

namespace ClaudeRelay

def isManagedClaudeRelay (relay : ClaudeRelay) : Bool :=
  relay.info.channelMeta.any (·.managedProvider)

def requiresClaudeUsageAuthorization (relay : ClaudeRelay) : Bool :=
  relay.info.requiresClaudeUsageAuthorization

def managedClaudeAPIKey (relay : ClaudeRelay) : String :=
  if relay.isManagedClaudeRelay then trimSpace relay.apiKey else ""

end ClaudeRelay

/-- What a write to the client came to. -/
inductive WriteOutcome
  /-- The request context was done, and nothing was written. -/
  | gone
  | failed
  /-- The data was written but could not be flushed. -/
  | unflushed
  | done
  deriving DecidableEq

/-- The reasons why an event is rejected. -/
inductive StreamError
  | credential
  | invalidEventType (cause : String)
  | unsupportedEventType
  | decode (cause : String)
  | upstream (text : String)
  | unpricedWebSearch | missingMessage | modelMismatch | missingBounds | invalidUsage
  | conflictingCacheCreation | usageOverflow | inconsistentCacheCreation | inconsistentAccumulated
  | inputExceeded | outputExceeded | webSearchUsage | inputEvidence | afterTerminal | duplicateStart
  | beforeStart | startUsage | terminalUsage | regressed | endedWithoutUsage | billableRange
  | unsupportedBlock | contentUnmeasured | evidenceCount | invalidOutputUsage | outputEvidence
  | write (outcome : WriteOutcome)

section

variable (usage : Option ClaudeUsage)

def claudeUsageHasNegativeValue : Bool := usage.any fun usage =>
    usage.inputTokens < 0 || usage.outputTokens < 0 || usage.cacheReadInputTokens < 0 ||
      usage.cacheCreationInputTokens < 0 || usage.claudeCacheCreation5mTokens < 0 ||
      usage.claudeCacheCreation1hTokens < 0 ||
      usage.cacheCreation.any (fun split =>
        split.ephemeral5mInputTokens < 0 || split.ephemeral1hInputTokens < 0) ||
      usage.serverToolUse.any (·.webSearchRequests < 0)

def hasPositiveInput (usage : ClaudeUsage) : Bool :=
  0 < usage.inputTokens || 0 < usage.cacheReadInputTokens || 0 < usage.cacheCreationInputTokens ||
    0 < usage.claudeCacheCreation5mTokens || 0 < usage.claudeCacheCreation1hTokens ||
    0 < usage.getCacheCreation5mTokens || 0 < usage.getCacheCreation1hTokens

def hasValidClaudeUsage : Bool := !claudeUsageHasNegativeValue usage &&
    usage.any fun usage => hasPositiveInput usage || 0 < usage.outputTokens

def hasValidClaudeInputUsage : Bool := hasValidClaudeUsage usage && usage.any hasPositiveInput

def hasValidClaudeTerminalUsage : Bool :=
  !claudeUsageHasNegativeValue usage && usage.any (0 < ·.outputTokens)

end

def validClaudeStopReason (reason : String) : Bool :=
  let reason := trimSpace reason
  reason ≠ "" && reason.toList.map Char.toLower ≠ "null".toList

def hasClaudeStopReason (response : ClaudeResponse) : Bool :=
  response.delta.any fun delta => delta.stopReason.any validClaudeStopReason

/-- The token counters, as an event reports them and as a stream records them. -/
inductive Counter
  | prompt | completion | cached | creation | creation5m | creation1h

def Counter.reported : Counter → ClaudeUsage → ℤ
  | .prompt, usage => usage.inputTokens
  | .completion, usage => usage.outputTokens
  | .cached, usage => usage.cacheReadInputTokens
  | .creation, usage => usage.cacheCreationInputTokens
  | .creation5m, usage => usage.getCacheCreation5mTokens
  | .creation1h, usage => usage.getCacheCreation1hTokens

def Counter.recorded : Counter → Usage → ℤ
  | .prompt, usage => usage.promptTokens
  | .completion, usage => usage.completionTokens
  | .cached, usage => usage.promptTokensDetails.cachedTokens
  | .creation, usage => usage.promptTokensDetails.cachedCreationTokens
  | .creation5m, usage => usage.claudeCacheCreation5mTokens
  | .creation1h, usage => usage.claudeCacheCreation1hTokens

def maxInt64 : ℤ := 2 ^ 63 - 1

def checkedClaudeUsageSum (values : List ℤ) : Except StreamError ℤ :=
  values.foldlM (fun total value =>
    if value < 0 ∨ maxInt64 - value < total then .error .usageOverflow else .ok (total + value)) 0

structure CanonicalClaudeUsage where
  (inputTokens cacheReadTokens cacheCreationTokens outputTokens : ℤ := 0)

def canonicalizeClaudeUsage : Option ClaudeUsage → Except StreamError CanonicalClaudeUsage
  | none => .ok {}
  | some usage =>
    let nested5m := (usage.cacheCreation.map (·.ephemeral5mInputTokens)).getD 0
    let nested1h := (usage.cacheCreation.map (·.ephemeral1hInputTokens)).getD 0
    let nestedSplit : Bool := 0 < nested5m || 0 < nested1h
    let legacySplit : Bool :=
      0 < usage.claudeCacheCreation5mTokens || 0 < usage.claudeCacheCreation1hTokens
    if claudeUsageHasNegativeValue (some usage) then .error .invalidUsage
    else if nestedSplit && legacySplit then .error .conflictingCacheCreation
    else do
      let cache5m := if nestedSplit then nested5m else usage.claudeCacheCreation5mTokens
      let cache1h := if nestedSplit then nested1h else usage.claudeCacheCreation1hTokens
      let splitTotal ← checkedClaudeUsageSum [cache5m, cache1h]
      let cacheCreationTotal := usage.cacheCreationInputTokens
      if 0 < cacheCreationTotal ∧ 0 < splitTotal ∧ cacheCreationTotal ≠ splitTotal then
        .error .inconsistentCacheCreation
      else
        .ok
          { inputTokens := usage.inputTokens
            cacheReadTokens := usage.cacheReadInputTokens
            cacheCreationTokens := max cacheCreationTotal splitTotal
            outputTokens := usage.outputTokens }

/-- `types.PriceProviderTabCode`. -/
def priceProviderTabCode : String := "tabcode"

def ClaudeRelay.lacksWebSearchPrice (relay : ClaudeRelay) : Bool :=
  relay.info.priceData.priceProvider = priceProviderZenMux ||
    relay.info.priceData.priceProvider = priceProviderTabCode

section

variable (evidenceBytes : ℤ) (relay : ClaudeRelay) (usage : Usage)

def validateClaudeUsageAuthorization (usage : Option ClaudeUsage) : Except StreamError Unit :=
  if relay.requiresClaudeUsageAuthorization = false then .ok ()
  else if relay.info.authorizedPromptTokens ≤ 0 ∨ relay.info.authorizedCompletionTokens ≤ 0 then
    .error .missingBounds
  else do
    let canonical ← canonicalizeClaudeUsage usage
    let inputTokens ← checkedClaudeUsageSum
      [canonical.inputTokens, canonical.cacheReadTokens, canonical.cacheCreationTokens]
    if relay.info.authorizedPromptTokens < inputTokens then .error .inputExceeded
    else if relay.info.authorizedCompletionTokens < canonical.outputTokens then
      .error .outputExceeded
    else if usage.any (·.serverToolUse.any (0 < ·.webSearchRequests)) ∧
        relay.lacksWebSearchPrice then
      .error .webSearchUsage
    else .ok ()

/-- One token for every 128 bytes, rounded up. -/
def evidenceTokens : ℤ := evidenceBytes / 128 + if evidenceBytes % 128 ≠ 0 then 1 else 0

def claudeEvidenceTokenFloor : Except StreamError ℤ :=
  if evidenceBytes < 0 then .error .evidenceCount else .ok (evidenceTokens evidenceBytes)

def validateClaudeInputEvidenceUsage (usage : Option ClaudeUsage) : Except StreamError Unit :=
  if relay.isManagedClaudeRelay = false ∨ relay.claudeInputEvidenceBytes ≤ 0 then .ok ()
  else do
    let canonical ← canonicalizeClaudeUsage usage
    let reportedTokens ← checkedClaudeUsageSum
      [canonical.inputTokens, canonical.cacheReadTokens, canonical.cacheCreationTokens]
    let requiredTokens ← claudeEvidenceTokenFloor relay.claudeInputEvidenceBytes
    if reportedTokens < requiredTokens then .error .inputEvidence else .ok ()

def validateClaudeOutputEvidenceUsage (evidenceBytes outputTokens : ℤ) : Except StreamError Unit :=
  if outputTokens < 0 then .error .invalidOutputUsage
  else do
    let requiredTokens ← claudeEvidenceTokenFloor evidenceBytes
    if outputTokens < requiredTokens then .error .outputEvidence else .ok ()

def claudeContentBlockUsesWebSearch (block : ClaudeMediaMessage) : Bool :=
  let blockType := (trimSpace block.type).toList.map Char.toLower
  "web_search_tool_result".toList <+: blockType ||
    (blockType = "server_tool_use".toList &&
      decide ("web_search".toList <+: (trimSpace block.name).toList.map Char.toLower))

/-- `ParseMediaContent`: content that is not made of blocks has none. -/
def MessageContent.parseMediaContent : MessageContent → List ClaudeMediaMessage
  | .blocks media => media
  | _ => []

def validateClaudeResponseToolPricing (response : ClaudeResponse) : Except StreamError Unit :=
  if relay.lacksWebSearchPrice = false then .ok ()
  else if response.contentBlock.any claudeContentBlockUsesWebSearch ||
      response.delta.any claudeContentBlockUsesWebSearch ||
      response.content.any claudeContentBlockUsesWebSearch ||
      response.message.any (·.content.parseMediaContent.any claudeContentBlockUsesWebSearch) then
    .error .unpricedWebSearch
  else .ok ()

def validateClaudeResponseModelAuthorization (modelName : String) : Except StreamError Unit :=
  if relay.requiresClaudeUsageAuthorization = false then .ok ()
  else if trimSpace modelName = "" ∨ modelName ≠ relay.upstreamModelName then .error .modelMismatch
  else .ok ()

/-- The cache creation of the usage: its total, or the sum of its split if that is larger. -/
def cacheCreationTokensForOpenAIUsage : ℤ :=
  let splitCacheCreationTokens :=
    usage.claudeCacheCreation5mTokens + usage.claudeCacheCreation1hTokens
  if splitCacheCreationTokens = 0 then usage.promptTokensDetails.cachedCreationTokens
  else max usage.promptTokensDetails.cachedCreationTokens splitCacheCreationTokens

def validateAccumulatedClaudeUsageAuthorization : Except StreamError Unit :=
  if relay.requiresClaudeUsageAuthorization = false then .ok ()
  else do
    let cacheCreationTotal := usage.promptTokensDetails.cachedCreationTokens
    let splitTotal ← checkedClaudeUsageSum
      [usage.claudeCacheCreation5mTokens, usage.claudeCacheCreation1hTokens]
    if 0 < cacheCreationTotal ∧ 0 < splitTotal ∧ cacheCreationTotal ≠ splitTotal then
      .error .inconsistentAccumulated
    else
      let inputTokens ← checkedClaudeUsageSum
        [usage.promptTokens, usage.promptTokensDetails.cachedTokens,
          max cacheCreationTotal splitTotal]
      if relay.info.authorizedPromptTokens < inputTokens then .error .inputExceeded
      else if relay.info.authorizedCompletionTokens < usage.completionTokens then
        .error .outputExceeded
      else .ok ()

def positiveCounterRegresses (current next : ℤ) : Bool := 0 < current && 0 < next && next < current

def claudeUsageRegresses (current : Usage) (next : Option ClaudeUsage) : Bool :=
  next.any fun next =>
    positiveCounterRegresses current.promptTokens next.inputTokens ||
      positiveCounterRegresses current.completionTokens next.outputTokens ||
      positiveCounterRegresses current.promptTokensDetails.cachedTokens
        next.cacheReadInputTokens ||
      positiveCounterRegresses current.promptTokensDetails.cachedCreationTokens
        next.cacheCreationInputTokens ||
      positiveCounterRegresses current.claudeCacheCreation5mTokens next.getCacheCreation5mTokens ||
      positiveCounterRegresses current.claudeCacheCreation1hTokens next.getCacheCreation1hTokens

def hasRecordedClaudeInputUsage : Bool :=
  0 < usage.promptTokens || 0 < usage.promptTokensDetails.cachedTokens ||
    0 < usage.promptTokensDetails.cachedCreationTokens || 0 < usage.claudeCacheCreation5mTokens ||
    0 < usage.claudeCacheCreation1hTokens

end

/-- A sum that was computed has no negative part. -/
theorem checkedClaudeUsageSum_ok {values : List ℤ} {total : ℤ}
    (h : checkedClaudeUsageSum values = .ok total) :
    (∀ value ∈ values, 0 ≤ value) ∧ total = values.sum := by
  -- the fold may start from any sum
  have hfold : ∀ start, values.foldlM (fun total value =>
        if value < 0 ∨ maxInt64 - value < total then Except.error StreamError.usageOverflow
        else .ok (total + value)) start = .ok total →
      (∀ value ∈ values, 0 ≤ value) ∧ total = start + values.sum := by
    clear h
    induction values with
    | nil =>
      intro start h
      cases h
      simp
    | cons value values ih =>
      intro start h
      rw [List.foldlM_cons, except_bind_eq_ok_iff] at h
      obtain ⟨sum, hsum, h⟩ := h
      rw [ite_error_eq_ok_iff] at hsum
      obtain ⟨hvalue, hsum⟩ := hsum
      cases hsum
      obtain ⟨hnonneg, htotal⟩ := ih _ h
      refine ⟨?_, by rw [htotal, List.sum_cons]; ring⟩
      intro other hother
      rcases List.mem_cons.mp hother with rfl | hmem
      · exact not_lt.mp fun hlt => hvalue (.inl hlt)
      · exact hnonneg other hmem
  simpa using hfold 0 h

theorem evidenceTokens_mono {bytes bytes' : ℤ} (h : bytes ≤ bytes') :
    evidenceTokens bytes ≤ evidenceTokens bytes' := by
  rw [evidenceTokens, evidenceTokens]
  split <;> split <;> omega

/-- Output that passed the check is covered by the tokens reported for it. -/
theorem evidenceTokens_le_of_validate {evidenceBytes outputTokens : ℤ}
    (h : validateClaudeOutputEvidenceUsage evidenceBytes outputTokens = .ok ()) :
    evidenceTokens evidenceBytes ≤ outputTokens := by
  rw [validateClaudeOutputEvidenceUsage] at h
  simp only [ite_error_eq_ok_iff, except_bind_eq_ok_iff, claudeEvidenceTokenFloor] at h
  obtain ⟨-, requiredTokens, ⟨-, hrequired⟩, hcovered, -⟩ := h
  cases hrequired
  exact not_lt.mp hcovered

/-- The input and the output of a usage stay within the bounds that the request was authorized
for. -/
structure Authorized (relay : ClaudeRelay) (usage : Usage) : Prop where
  prompt : usage.promptTokens + usage.promptTokensDetails.cachedTokens +
      max usage.promptTokensDetails.cachedCreationTokens
        (usage.claudeCacheCreation5mTokens + usage.claudeCacheCreation1hTokens) ≤
    relay.info.authorizedPromptTokens
  completion : usage.completionTokens ≤ relay.info.authorizedCompletionTokens

/-- A counter that is not lower for the check is not lower, unless it was not reported. -/
theorem le_of_claudeUsageRegresses {current : Usage} {next : ClaudeUsage}
    (h : claudeUsageRegresses current (some next) = false) (counter : Counter)
    (hrecorded : 0 < counter.recorded current) (hreported : 0 < counter.reported next) :
    counter.recorded current ≤ counter.reported next := by
  have hcounter : positiveCounterRegresses (counter.recorded current) (counter.reported next) =
      false := by
    rw [claudeUsageRegresses, Option.any_some] at h
    simp only [Bool.or_eq_false_iff] at h
    obtain ⟨⟨⟨⟨⟨hprompt, hcompletion⟩, hcached⟩, hcreation⟩, h5m⟩, h1h⟩ := h
    cases counter with
    | prompt => exact hprompt
    | completion => exact hcompletion
    | cached => exact hcached
    | creation => exact hcreation
    | creation5m => exact h5m
    | creation1h => exact h1h
  rw [positiveCounterRegresses, Bool.and_eq_false_iff, Bool.and_eq_false_iff] at hcounter
  simp only [decide_eq_false_iff_not] at hcounter
  omega

theorem authorized_of_validateAccumulated {relay : ClaudeRelay} {usage : Usage}
    (hrequires : relay.requiresClaudeUsageAuthorization = true)
    (h : validateAccumulatedClaudeUsageAuthorization relay usage = .ok ()) :
    Authorized relay usage := by
  rw [validateAccumulatedClaudeUsageAuthorization, if_neg (by simp [hrequires])] at h
  simp only [except_bind_eq_ok_iff, ite_error_eq_ok_iff] at h
  obtain ⟨splitTotal, hsplit, -, inputTokens, hinput, hprompt, hcompletion, -⟩ := h
  obtain ⟨-, rfl⟩ := checkedClaudeUsageSum_ok hsplit
  obtain ⟨-, rfl⟩ := checkedClaudeUsageSum_ok hinput
  constructor
  · simpa [add_assoc] using hprompt
  · exact not_lt.mp hcompletion

theorem cacheCreationTokensForOpenAIUsage_eq {usage : Usage}
    (h : 0 ≤ usage.promptTokensDetails.cachedCreationTokens) :
    cacheCreationTokensForOpenAIUsage usage = max usage.promptTokensDetails.cachedCreationTokens
        (usage.claudeCacheCreation5mTokens + usage.claudeCacheCreation1hTokens) := by
  rw [cacheCreationTokensForOpenAIUsage]
  split
  · next hzero => rw [hzero, max_eq_left h]
  · rfl

end Mujian.Streams
