import Mujian.Relay.Routes

/-!
# The price of a request

`modelPriceHelper` prices a request before its quota is reserved. For a catalogue model it scans
the groups that the request can be routed to and records the authorized routes in the context;
image requests with a fixed retail price reserve that price instead. `Authorized` states what the
recorded authorization guarantees (`authorized_of_modelPriceHelper`).
-/

namespace Mujian.Relay

open Pricing

/-- The public ids of the catalogue. -/
def catalog : List String :=
  ["deepseek-v4-flash", "gpt-5.6-sol", "gpt-5.6-terra", "gpt-5.6-luna", "claude-fable-5-nc",
    "claude-opus-5", "claude-sonnet-5", "claude-haiku-4-5", "claude-sonnet-4-6", "grok-4.5",
    "nano-banana", "nano-banana-pro", "nano-banana-2", "gpt-image-2"]

def isCatalogModel (modelID : String) : Bool := modelID ∈ catalog

/-- The group that automatic routing has chosen becomes the group of the request. -/
def handleGroupRatio (S : Settings) (c : RequestContext) (info : RelayInfo) :
    RelayInfo × GroupRatioInfo :=
  let info := { info with usingGroup := c.autoGroup.getD info.usingGroup }
  (info, groupRatioInfo S info.userGroup info.usingGroup)

section

variable (w : World) (retryTimes : ℤ) (c : RequestContext) (info : RelayInfo)

/-- What pricing reads of the body of a request. Reading the tools or the media of a Claude
request may fail. -/
structure RequestBody where
  promptTokens : ℤ
  tokenMeta : Option TokenCountMeta
  (usesClaudeWebSearch usesUnboundedMedia : Except PriceError Bool)
  /-- The number of images that an image request asks for. -/
  imageCount : Option ℕ

section

variable (userGroup : String) (body : RequestBody) (group : GroupRatioInfo)

/-- The automatic groups of a request, as they were at their first use. -/
def autoGroupsForRequest : List String := c.autoGroupRouteSnapshot.getD (w.userAutoGroup userGroup)

def freezeAutoGroups : RequestContext :=
  { c with autoGroupRouteSnapshot := some (autoGroupsForRequest w c userGroup) }

def pricingAllowedChannelIDs : Except PriceError (Option (List ℤ)) :=
  match c.tokenSpecificChannelId with
  | none => .ok c.allowedChannelIds
  | some none => .error .specificChannelFormat
  | some (some channelID) =>
    if channelID ≤ 0 then .error .specificChannelFormat
    else if c.allowedChannelIds.any (channelID ∉ ·) then .error .specificChannelNotAllowed
    else .ok (some [channelID])

def shouldSkipRetryAfterChannelAffinityFailure : Bool :=
  !c.managedProvider && c.channelAffinitySkipRetry

/-- A request that is tied to its channel is not retried. -/
def pricingRetryBudget : ℤ :=
  if c.tokenSpecificChannelId.isSome ∨ shouldSkipRetryAfterChannelAffinityFailure c then 0
  else retryTimes

/-- The automatic groups after the one in use; all of them when it is no longer among them. -/
def laterAutoGroups (autoGroups : List String) (usingGroup : String) : List String :=
  if usingGroup ∈ autoGroups then (autoGroups.dropWhile (· ≠ usingGroup)).tail else autoGroups

/-- The groups that the request can be routed to. Only a retry that may cross groups leaves the
group in use. -/
def pricingGroups (retryBudget : ℤ) : List String × RequestContext :=
  if 0 < retryBudget ∧ info.tokenGroup = "auto" ∧ c.tokenCrossGroupRetry then
    let autoGroups := autoGroupsForRequest w c info.userGroup
    (info.usingGroup :: laterAutoGroups autoGroups info.usingGroup,
      freezeAutoGroups w c info.userGroup)
  else ([info.usingGroup], c)

def validInitialSnapshot : Bool := c.managedChannelPrice.any fun snapshot =>
    0 < snapshot.priceID && snapshot.channelID = c.channelId &&
      snapshot.catalogID = info.originModelName && snapshot.routingGroup = info.usingGroup

def checkInitialMedia (media : Bool) : Except PriceError Unit :=
  if !media then .ok ()
  else if c.managedProvider then .error .unboundedMedia
  else
    match getAvailableChannelModelPrice w.db c.channelId info.originModelName with
    | .ok price =>
      if isStrictClaudePriceProvider price.provider then .error .unboundedMedia else .ok ()
    | .error .database => .error .database
    | .error .recordNotFound => .ok ()

def initialFeatures : Except PriceError ClaudeFeatures :=
  if c.managedProvider ∧ !validInitialSnapshot c info then .error .managedSnapshotMissing
  else do
    let webSearch ← body.usesClaudeWebSearch
    let media ← body.usesUnboundedMedia
    if webSearch ∧ c.managedProvider ∧
        c.managedChannelPrice.any (fun s => isStrictClaudePriceProvider s.provider) then
      .error .managedWebSearch
    else do
      checkInitialMedia w c info media
      .ok ⟨webSearch, media⟩

def legacyModelPrice : Except PriceError (RequestContext × RelayInfo) := do
  let data ← legacyModelPriceData w.settings info body.promptTokens body.tokenMeta group
  .ok (c, { info with legacyPriceData := none, priceData := data })

def authorizeScan (scan : PriceScan) : Except PriceError (RequestContext × RelayInfo) :=
  if scan.authorizedRoutes = [] then .error .noAuthorizableChannel
  else
    let (promptBound, completionBound) :=
      preConsumeTokenBounds w.settings body.promptTokens body.tokenMeta
    .ok (bindPriceAuthorizationBounds w.settings c body.promptTokens body.tokenMeta
        scan.authorizedRoutes,
      { info with
        authorizedPromptTokens := promptBound, authorizedCompletionTokens := completionBound
        legacyPriceData := scan.legacyFallback, priceData := scan.selected })

def catalogModelPrice : Except PriceError (RequestContext × RelayInfo) := do
  let allowedChannelIDs ← pricingAllowedChannelIDs c
  let retryBudget := pricingRetryBudget retryTimes c
  let groups := (pricingGroups w c info retryBudget).1
  let c := (pricingGroups w c info retryBudget).2
  let features ← initialFeatures w c info body
  let scan ← channelModelPreConsumePriceForGroups w
    { info, allowedChannelIDs, locallyExcludedChannelIDs := locallyExcludedChannelIDs c,
      promptTokens := body.promptTokens, tokenMeta := body.tokenMeta,
      initialChannelID := c.channelId, initialManaged := c.managedProvider,
      initialSnapshot := c.managedChannelPrice, retryBudget, features } groups
  if scan.foundAny then authorizeScan w c info body scan
  else legacyModelPrice w c info body group

def upstreamModelPriceHelper : Except PriceError (RequestContext × RelayInfo) :=
  let (info, group) := handleGroupRatio w.settings c info
  if !isCatalogModel info.originModelName then legacyModelPrice w c info body group
  else catalogModelPrice w retryTimes c info body group

/-- The retail quote of an image request; an earlier one is kept. -/
def imageRetailQuote (count : ℕ) : Except PriceError (Option ImageQuote) :=
  match info.imageRetail with
  | some quote => .ok (some quote)
  | none =>
    match newImageQuote info.originModelName count w.settings.usdExchangeRate
        w.settings.quotaPerUnit with
    | .ok quote => .ok quote
    | .error e => .error (.imageQuote e)

def withImageRetail (retail : Option ImageQuote) : RelayInfo :=
  match retail with
  | none => { info with imageRetail := none }
  | some quote =>
    { info with
      imageRetail := some quote
      priceData := { info.priceData with
        quotaToPreConsume := quote.quota quote.requestedCount, freeModel := false } }

def modelPriceHelper : Except PriceError (RequestContext × RelayInfo) := do
  let (c, info) ← upstreamModelPriceHelper w retryTimes c info body
  match body.imageCount with
  | none => .ok (c, info)
  | some count => do
    let retail ← imageRetailQuote w info count
    .ok (c, withImageRetail info retail)

end

end

structure Authorized (c : RequestContext) (info : RelayInfo)
    (bounds : PriceAuthorizationBounds) : Prop where
  priceAuthorizationBounds : c.priceAuthorizationBounds = some bounds
  catalogPriceAuthorized : c.catalogPriceAuthorized = true
  catalogPriceRoutes : c.catalogPriceRoutes = some bounds.routes
  channelID_pos : ∀ route ∈ bounds.routes, 0 < route.channelID
  /-- Without automatic routing all routes are in the group of the request. -/
  routingGroup : info.tokenGroup ≠ "auto" →
    ∀ route ∈ bounds.routes, route.routingGroup = info.usingGroup
  usingGroup : c.autoGroup.getD info.usingGroup = info.usingGroup

structure SameRoute (c c' : RequestContext) : Prop where
  channelId : c'.channelId = c.channelId
  autoGroup : c'.autoGroup = c.autoGroup
  managedProvider : c'.managedProvider = c.managedProvider
  managedChannelPrice : c'.managedChannelPrice = c.managedChannelPrice
  useChannel : c'.useChannel = c.useChannel
  priceAuthorizationBounds : c'.priceAuthorizationBounds = c.priceAuthorizationBounds

structure PricedFrom (c : RequestContext) (info : RelayInfo) (c' : RequestContext)
    (info' : RelayInfo) : Prop where
  channelId : c'.channelId = c.channelId
  useChannel : c'.useChannel = c.useChannel
  channelMeta : info'.channelMeta = info.channelMeta

section

variable {w : World} {retryTimes : ℤ} {c c' : RequestContext} {info info' : RelayInfo}
  {body : RequestBody} {bounds : PriceAuthorizationBounds}

theorem authorized_of_catalogModelPrice {group : GroupRatioInfo}
    (hgroup : c.autoGroup.getD info.usingGroup = info.usingGroup)
    (hfresh : c.priceAuthorizationBounds = none)
    (h : catalogModelPrice w retryTimes c info body group = .ok (c', info'))
    (hbounds : c'.priceAuthorizationBounds = some bounds) :
    Authorized c' info' bounds ∧ PricedFrom c info c' info' ∧
      (0 < c.channelId → ⟨c.channelId, info'.usingGroup⟩ ∈ bounds.routes) := by
  simp only [catalogModelPrice, except_bind_eq_ok_iff] at h
  obtain ⟨allowed, -, features, hfeatures, scan, hscan, h⟩ := h
  obtain ⟨groups, hgroups, hauto⟩ : ∃ groups,
      (pricingGroups w c info (pricingRetryBudget retryTimes c)).1 = info.usingGroup :: groups ∧
        (info.tokenGroup ≠ "auto" → groups = []) := by
    unfold pricingGroups
    split
    next h => exact ⟨_, rfl, fun hne => absurd h.2.1 hne⟩
    next => exact ⟨[], rfl, fun _ => rfl⟩
  have hsame : SameRoute c (pricingGroups w c info (pricingRetryBudget retryTimes c)).2 := by
    unfold pricingGroups
    split <;> constructor <;> rfl
  rw [hgroups] at hscan
  set c₁ := (pricingGroups w c info (pricingRetryBudget retryTimes c)).2
  split at h
  next =>
    obtain ⟨hne, h⟩ := ite_error_eq_ok_iff.1 h
    cases h
    obtain ⟨scan₀, hscan₀, hroutes⟩ := authorizedRoutes_of_preConsume hscan
    simp only [bindPriceAuthorizationBounds, if_neg hne, Option.some.injEq] at hbounds
    subst hbounds
    have hsound := scanGroups_sound hscan₀
    refine ⟨⟨?_, ?_, ?_, fun route hroute => ?_, fun htoken route hroute => ?_, ?_⟩, ?_, ?_⟩
    · simp [bindPriceAuthorizationBounds, hne]
    · simp [bindPriceAuthorizationBounds, hne]
    · simp [bindPriceAuthorizationBounds, hne]
    · obtain hmem | ⟨hpos, -⟩ := hsound route (hroutes ▸ hroute)
      · cases hmem
      · exact hpos
    · obtain hmem | ⟨-, hmem⟩ := hsound route (hroutes ▸ hroute)
      · cases hmem
      · simpa [hauto htoken] using hmem
    · simpa [bindPriceAuthorizationBounds, hne, hsame.autoGroup] using hgroup
    · exact ⟨by simp [bindPriceAuthorizationBounds, hne, hsame.channelId],
        by simp [bindPriceAuthorizationBounds, hne, hsame.useChannel], rfl⟩
    · intro hpos
      rw [← hsame.channelId] at hpos ⊢
      simp only [hroutes]
      refine initial_mem_scanGroups hscan₀ hpos fun hmanaged => ?_
      simp only [initialFeatures, ite_error_eq_ok_iff, not_and] at hfeatures
      have hvalid : validInitialSnapshot c₁ info = true := by simpa using hfeatures.1 hmanaged
      have hsome : c₁.managedChannelPrice ≠ none := by
        intro hnone
        simp [validInitialSnapshot, hnone] at hvalid
      obtain ⟨snapshot, hsnapshot⟩ := Option.ne_none_iff_exists'.1 hsome
      rw [validInitialSnapshot, hsnapshot, Option.any_some] at hvalid
      rw [PricingRequest.initialSnapshotIn, if_pos hmanaged, hsnapshot, Option.filter_some]
      exact (if_pos hvalid).symm ▸ rfl
  next =>
    obtain ⟨data, -, heq⟩ := except_bind_eq_ok_iff.1 h
    obtain ⟨hc, -⟩ := Prod.mk.inj (Except.ok.inj heq)
    rw [← hc, hsame.priceAuthorizationBounds, hfresh] at hbounds
    cases hbounds

/-- **Pricing authorizes the initial channel.** A request whose price was authorized for routes
has all of them recorded, and the channel it was first routed to is among them. -/
theorem authorized_of_modelPriceHelper (hfresh : c.priceAuthorizationBounds = none)
    (h : modelPriceHelper w retryTimes c info body = .ok (c', info'))
    (hbounds : c'.priceAuthorizationBounds = some bounds) :
    Authorized c' info' bounds ∧ PricedFrom c info c' info' ∧
      (0 < c.channelId → ⟨c.channelId, info'.usingGroup⟩ ∈ bounds.routes) := by
  simp only [modelPriceHelper, except_bind_eq_ok_iff, Prod.exists] at h
  obtain ⟨c₁, info₁, hupstream, h⟩ := h
  have hc : c' = c₁ ∧ info'.tokenGroup = info₁.tokenGroup ∧ info'.usingGroup = info₁.usingGroup ∧
      info'.channelMeta = info₁.channelMeta := by
    split at h
    · cases h
      exact ⟨rfl, rfl, rfl, rfl⟩
    · obtain ⟨retail, -, heq⟩ := except_bind_eq_ok_iff.1 h
      cases heq
      cases retail <;> exact ⟨rfl, rfl, rfl, rfl⟩
  obtain ⟨rfl, htoken, husing, hmeta⟩ := hc
  have hpriced : Authorized c' info₁ bounds ∧ PricedFrom c info c' info₁ ∧
      (0 < c.channelId → ⟨c.channelId, info₁.usingGroup⟩ ∈ bounds.routes) := by
    cases hcatalog : isCatalogModel info.originModelName with
    | false =>
      simp only [upstreamModelPriceHelper, handleGroupRatio, hcatalog] at hupstream
      obtain ⟨data, -, heq⟩ := except_bind_eq_ok_iff.1 hupstream
      obtain ⟨hc, -⟩ := Prod.mk.inj (Except.ok.inj heq)
      rw [← hc, hfresh] at hbounds
      cases hbounds
    | true =>
      simp only [upstreamModelPriceHelper, handleGroupRatio, hcatalog] at hupstream
      have hgroup : c.autoGroup.getD (c.autoGroup.getD info.usingGroup) =
          c.autoGroup.getD info.usingGroup := by cases c.autoGroup <;> rfl
      obtain ⟨hauth, hfrom, hinitial⟩ :=
        authorized_of_catalogModelPrice hgroup hfresh hupstream hbounds
      exact ⟨hauth, ⟨hfrom.channelId, hfrom.useChannel, hfrom.channelMeta⟩, hinitial⟩
  obtain ⟨hauth, hfrom, hinitial⟩ := hpriced
  refine ⟨⟨hauth.priceAuthorizationBounds, hauth.catalogPriceAuthorized,
    hauth.catalogPriceRoutes, hauth.channelID_pos, ?_, ?_⟩,
    ⟨hfrom.channelId, hfrom.useChannel, hmeta.trans hfrom.channelMeta⟩, ?_⟩
  · rw [htoken, husing]
    exact hauth.routingGroup
  · rw [husing]
    exact hauth.usingGroup
  · rw [husing]
    exact hinitial

end

end Mujian.Relay
