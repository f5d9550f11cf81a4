import Mujian.Relay.Channels

/-!
# Price authorization of a request

A request is authorized for a set of routes, pairs of a channel and a group, and for bounds on its
tokens. When a channel is selected, `applyChannelModelPrice` binds the request to that channel's
current price, provided the channel is authorized and its price requires no more than was reserved.
`Covered` is what a bound price guarantees.
-/

namespace Mujian.Relay

open Pricing

structure PriceAuthorizedRoute where
  channelID : ℤ
  routingGroup : String
  deriving DecidableEq

structure PriceAuthorizationBounds where
  (promptTokens completionTokens : ℤ)
  multiplier : ℚ
  routes : List PriceAuthorizedRoute
  deriving DecidableEq

structure ManagedChannelValidation where
  channelID : ℤ
  (catalogID routingGroup : String)
  deriving DecidableEq

/-- The keys of the request context that routing and pricing read and write; the routes by group are
kept as a list of routes. -/
structure RequestContext where
  (channelId channelType : ℤ := 0)
  (userGroup usingGroup : String := "")
  autoGroup : Option String := none
  autoGroupRouteSnapshot : Option (List String) := none
  autoGroupIndex : Option ℕ := none
  autoGroupRetryIndex : Option ℤ := none
  tokenCrossGroupRetry : Bool := false
  /-- The channel that a token is tied to, `some none` when its text is not an integer. -/
  tokenSpecificChannelId : Option (Option ℤ) := none
  allowedChannelIds : Option (List ℤ) := none
  (channelAffinitySkipRetry managedProvider : Bool := false)
  managedChannelPrice : Option ChannelModelPriceSnapshot := none
  managedChannelValidation : Option ManagedChannelValidation := none
  (useChannel locallyExcludedChannels : List ℤ := [])
  priceAuthorizationBounds : Option PriceAuthorizationBounds := none
  catalogPriceAuthorized : Bool := false
  catalogPriceRoutes : Option (List PriceAuthorizedRoute) := none
  deriving DecidableEq

/-- The ids of a list in the context that name a channel. -/
def parseChannelIDs (values : List ℤ) : List ℤ := values.filter (0 < ·)

def attemptedChannelIDs (c : RequestContext) : List ℤ := parseChannelIDs c.useChannel

def locallyExcludedChannelIDs (c : RequestContext) : List ℤ :=
  parseChannelIDs c.locallyExcludedChannels

/-- The fixed prices of a request's images come from outside the price snapshots: a positive ratio
multiplies them. -/
def priceMultiplier (tokenMeta : Option TokenCountMeta) : ℚ :=
  match tokenMeta with
  | some m => if 0 < m.imagePriceRatio then m.imagePriceRatio else 1
  | none => 1

def bindPriceAuthorizationBounds (S : Settings) (c : RequestContext) (promptTokens : ℤ)
    (tokenMeta : Option TokenCountMeta) (routes : List PriceAuthorizedRoute) : RequestContext :=
  let (promptBound, completionBound) := preConsumeTokenBounds S promptTokens tokenMeta
  let c := { c with
    priceAuthorizationBounds :=
      some ⟨promptBound, completionBound, priceMultiplier tokenMeta, routes⟩ }
  if routes = [] then c
  else { c with catalogPriceAuthorized := true, catalogPriceRoutes := some routes }

section

variable (w : World) (c : Option RequestContext) (info : RelayInfo)
  (bounds : PriceAuthorizationBounds)

/-- The bounds of a request; a nil context has none and is not checked. -/
def priceAuthorizationForRequest : Except PriceError PriceAuthorizationBounds :=
  match c with
  | none => .ok ⟨0, 0, 0, []⟩
  | some c =>
    match c.priceAuthorizationBounds with
    | none => .error .boundsMissing
    | some bounds =>
      if bounds.promptTokens < 0 ∨ bounds.completionTokens < 0 ∨
          !finitePositive (some bounds.multiplier) ∨ bounds.routes = [] ∨
          bounds.routes.any (fun route => route.channelID ≤ 0 || route.routingGroup = "" ||
            route.routingGroup = "auto") then
        .error .boundsInvalid
      else .ok bounds

def PriceAuthorizationBounds.authorizes (bounds : PriceAuthorizationBounds) (channelID : ℤ)
    (routingGroup : String) : Bool :=
  ⟨channelID, routingGroup⟩ ∈ bounds.routes

def managedChannelPriceForRequest (channelID : ℤ) : Except QueryError ChannelModelPrice :=
  match c.bind (·.managedChannelPrice) with
  | none => .error .recordNotFound
  | some snapshot =>
    if snapshot.priceID ≤ 0 ∨ snapshot.channelID ≠ channelID ∨
        snapshot.catalogID ≠ info.originModelName ∨ snapshot.routingGroup ≠ info.usingGroup then
      .error .recordNotFound
    else .ok (channelModelPriceFromRequestSnapshot snapshot)

def selectedChannelPrice
    (channelID : ℤ) (strictManaged : Bool) : Except QueryError ChannelModelPrice :=
  if strictManaged then managedChannelPriceForRequest c info channelID
  else getAvailableChannelModelPrice w.db channelID info.originModelName

/-- The bounds as the token counts of global model pricing. -/
def PriceAuthorizationBounds.tokenCountMeta (bounds : PriceAuthorizationBounds) : TokenCountMeta :=
  ⟨bounds.completionTokens, bounds.multiplier⟩

def legacyRequired : Except PriceError PriceData :=
  legacyCatalogPreConsumePriceData w.settings info bounds.promptTokens (some bounds.tokenCountMeta)
    info.priceData.groupRatioInfo

def legacyActual : Except PriceError PriceData :=
  legacyModelPriceData w.settings info bounds.promptTokens (some bounds.tokenCountMeta)
    info.priceData.groupRatioInfo

def snapshotRequired (price : ChannelModelPrice) : Except PriceError PriceData :=
  preConsumePriceFromSnapshot w.settings price info.priceData.groupRatioInfo bounds.multiplier
    bounds.promptTokens bounds.completionTokens

/-- The current price must not exceed the reservation; a fixed retail quote caps the liability of
the customer by itself. -/
def checkReservation (required : PriceData) : Except PriceError Unit :=
  if info.imageRetail = none ∧ info.priceData.quotaToPreConsume < required.quotaToPreConsume then
    .error .exceedsReservation
  else .ok ()

/-- Binds a request that is priced by the global model settings. -/
def applyLegacyPrice : Except PriceError RelayInfo := do
  let required ← legacyRequired w info bounds
  checkReservation info required
  let actual ← legacyActual w info bounds
  .ok { info with
    priceData := { actual with quotaToPreConsume := info.priceData.quotaToPreConsume } }

/-- The global model price for an ordinary channel; without a context the price that was kept. -/
def legacyFallbackPrice (kept : PriceData) : Except PriceError PriceData :=
  match c with
  | none => .ok kept
  | some _ => do
    let required ← legacyRequired w info bounds
    checkReservation info required
    legacyActual w info bounds

/-- Binds an ordinary channel without a snapshot. -/
def applyLegacyFallback (strictManaged : Bool) : Except PriceError RelayInfo :=
  match info.legacyPriceData with
  | none => .error .priceMissing
  | some kept =>
    if strictManaged then .error .priceMissing
    else do
      let actual ← legacyFallbackPrice w c info bounds kept
      let actual := { actual with
        groupRatioInfo := info.priceData.groupRatioInfo, channelSpecific := true,
        priceProvider := "" }
      .ok { info with
        priceData := boundPriceData w.settings actual info.priceData.quotaToPreConsume }

/-- The check of a snapshot against the reservation, which only a request with a context has. -/
def checkSnapshot (price : ChannelModelPrice) : Except PriceError Unit :=
  match c with
  | none => .ok ()
  | some _ => do
    let required ← snapshotRequired w info bounds price
    checkReservation info required

def applySnapshot (price : ChannelModelPrice) : Except PriceError RelayInfo :=
  if info.relayMode = .imagesEdits ∧ !price.supportsReferenceImages then
    .error .referenceProtocolMissing
  else do
    checkSnapshot w c info bounds price
    let multiplier := if c.isSome then bounds.multiplier else info.priceData.unitPriceMultiplier
    let actual ← priceDataFromSnapshot w.settings price info.priceData.groupRatioInfo multiplier
    .ok { info with
      priceData := boundPriceData w.settings actual info.priceData.quotaToPreConsume }

/-- Replaces the worst-case price by the price of the selected channel, and keeps the reserved
amount. -/
def applyChannelModelPrice (channelID : ℤ) (strictManaged : Bool) : Except PriceError RelayInfo :=
  if !info.priceData.channelSpecific ∧ (c.bind (·.priceAuthorizationBounds)).isNone then
    -- The request was not authorized against the catalogue.
    if strictManaged then .error .managedUnauthorized else .ok info
  else do
    let bounds ← priceAuthorizationForRequest c
    if !info.priceData.channelSpecific then
      if !bounds.authorizes channelID info.usingGroup then .error .routeUnauthorized
      else if strictManaged then .error .managedOutsideAuthorization
      else applyLegacyPrice w info bounds
    else
      match selectedChannelPrice w c info channelID strictManaged with
      | .error .database => .error .priceQueryFailed
      | .error .recordNotFound => applyLegacyFallback w c info bounds strictManaged
      | .ok price => applySnapshot w c info bounds price

/-- The price data that the selected channel requires for the bounds at this instant. -/
def requiredPriceData (c : RequestContext) (info : RelayInfo)
    (bounds : PriceAuthorizationBounds) (channelID : ℤ) (strictManaged : Bool) :
    Except PriceError PriceData :=
  if !info.priceData.channelSpecific then legacyRequired w info bounds
  else
    match selectedChannelPrice w (some c) info channelID strictManaged with
    | .error .database => .error .priceQueryFailed
    | .error .recordNotFound => legacyRequired w info bounds
    | .ok price => snapshotRequired w info bounds price

/-- The selected channel requires no more than was reserved, unless the retail price is fixed. -/
def Covered (c : RequestContext) (info : RelayInfo) (channelID : ℤ) (strictManaged : Bool) : Prop :=
  ∃ bounds required, c.priceAuthorizationBounds = some bounds ∧
    requiredPriceData w c info bounds channelID strictManaged = .ok required ∧
    (info.imageRetail = none → required.quotaToPreConsume ≤ info.priceData.quotaToPreConsume)

end

/-- A request with other price data of the same billing mode and the same reservation. -/
structure Rebound (info info' : RelayInfo) : Prop where
  eq : info' = { info with priceData := info'.priceData }
  channelSpecific : info'.priceData.channelSpecific = info.priceData.channelSpecific
  quotaToPreConsume : info'.priceData.quotaToPreConsume = info.priceData.quotaToPreConsume

theorem Rebound.refl (info : RelayInfo) : Rebound info info := ⟨rfl, rfl, rfl⟩

theorem checkReservation_eq_ok {info : RelayInfo} {required : PriceData} :
    checkReservation info required = .ok () ↔
      (info.imageRetail = none →
        required.quotaToPreConsume ≤ info.priceData.quotaToPreConsume) := by simp [checkReservation]

section

variable {w : World} {info info' : RelayInfo} {bounds : PriceAuthorizationBounds}
  {channelID : ℤ} {strictManaged : Bool}

theorem rebound_of_applyLegacyPrice (hmode : info.priceData.channelSpecific = false)
    (h : applyLegacyPrice w info bounds = .ok info') : Rebound info info' := by
  simp only [applyLegacyPrice, except_bind_eq_ok_iff] at h
  obtain ⟨_, _, _, _, actual, hactual, heq⟩ := h
  cases heq
  exact ⟨rfl, (channelSpecific_of_legacyModelPriceData hactual).trans hmode.symm, rfl⟩

variable {c : Option RequestContext}

theorem rebound_of_applyLegacyFallback (hmode : info.priceData.channelSpecific = true)
    (h : applyLegacyFallback w c info bounds strictManaged = .ok info') : Rebound info info' := by
  unfold applyLegacyFallback at h
  split at h
  · cases h
  split at h
  · cases h
  obtain ⟨actual, -, heq⟩ := except_bind_eq_ok_iff.1 h
  cases heq
  exact ⟨rfl, by simp [hmode], rfl⟩

theorem rebound_of_applySnapshot {price : ChannelModelPrice}
    (hmode : info.priceData.channelSpecific = true)
    (h : applySnapshot w c info bounds price = .ok info') : Rebound info info' := by
  simp only [applySnapshot, ite_error_eq_ok_iff, except_bind_eq_ok_iff] at h
  obtain ⟨-, _, _, actual, hactual, heq⟩ := h
  cases heq
  exact ⟨rfl, by simp [hmode, channelSpecific_of_priceDataFromSnapshot hactual], rfl⟩

/-- **Binding a price keeps the billing mode and the reservation**, on every path that succeeds. -/
theorem rebound_of_applyChannelModelPrice
    (h : applyChannelModelPrice w c info channelID strictManaged = .ok info') :
    Rebound info info' := by
  unfold applyChannelModelPrice at h
  split at h
  · obtain ⟨-, heq⟩ := ite_error_eq_ok_iff.1 h
    cases heq
    exact .refl info
  · obtain ⟨bounds, -, h⟩ := except_bind_eq_ok_iff.1 h
    split at h
    next hmode =>
      simp only [ite_error_eq_ok_iff] at h
      exact rebound_of_applyLegacyPrice (by simpa using hmode) h.2.2
    next hmode =>
      have hmode : info.priceData.channelSpecific = true := by simpa using hmode
      split at h
      · cases h
      · exact rebound_of_applyLegacyFallback hmode h
      · exact rebound_of_applySnapshot hmode h

/-- **A bound price is covered by the reservation**, and a price that does not belong to a channel
snapshot is bound on authorized routes only. -/
theorem covered_of_applyChannelModelPrice {c : RequestContext}
    (hbounds : c.priceAuthorizationBounds = some bounds)
    (h : applyChannelModelPrice w (some c) info channelID strictManaged = .ok info') :
    Covered w c info channelID strictManaged ∧
      (info.priceData.channelSpecific = false → ⟨channelID, info.usingGroup⟩ ∈ bounds.routes) := by
  unfold applyChannelModelPrice at h
  rw [if_neg (by simp [hbounds])] at h
  obtain ⟨bounds', hvalid, h⟩ := except_bind_eq_ok_iff.1 h
  have hsame : bounds' = bounds := by
    simp only [priceAuthorizationForRequest, hbounds, ite_error_eq_ok_iff] at hvalid
    cases hvalid.2
    rfl
  subst hsame
  split at h
  next hmode =>
    simp only [ite_error_eq_ok_iff, applyLegacyPrice, except_bind_eq_ok_iff] at h
    obtain ⟨hauth, -, required, hrequired, _, hcheck, -⟩ := h
    refine ⟨⟨_, required, hbounds, ?_, checkReservation_eq_ok.1 hcheck⟩, fun _ => ?_⟩
    · rw [requiredPriceData, if_pos hmode]
      exact hrequired
    · simpa [PriceAuthorizationBounds.authorizes] using hauth
  next hmode =>
    refine ⟨?_, fun hfalse => absurd hmode (by simp [hfalse])⟩
    split at h
    next => cases h
    next hprice =>
      unfold applyLegacyFallback at h
      split at h
      · cases h
      split at h
      · cases h
      simp only [legacyFallbackPrice, except_bind_eq_ok_iff] at h
      obtain ⟨_, ⟨required, hrequired, _, hcheck, -⟩, -⟩ := h
      refine ⟨_, required, hbounds, ?_, checkReservation_eq_ok.1 hcheck⟩
      simp only [requiredPriceData, hmode, hprice]
      exact hrequired
    next price hprice =>
      simp only [applySnapshot, checkSnapshot, ite_error_eq_ok_iff, except_bind_eq_ok_iff] at h
      obtain ⟨-, _, ⟨required, hrequired, hcheck⟩, -⟩ := h
      refine ⟨_, required, hbounds, ?_, checkReservation_eq_ok.1 hcheck⟩
      simp only [requiredPriceData, hmode, hprice]
      exact hrequired

end

end Mujian.Relay
