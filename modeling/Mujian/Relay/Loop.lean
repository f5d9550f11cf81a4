import Mujian.Relay.Selection

/-!
# The retry loop of the relay

Three loops are nested in the relay: the attempts, the search for a channel whose price the
reservation covers, and the search for a managed channel that the database still attests. They are
one machine here: `step` is one iteration of the innermost loop that is running. `Sound` and
`Budgeted` are its invariants, and `attempts_authorized` draws the conclusion for a request.
-/

namespace Mujian.Relay

open Pricing

/-! ## Outcomes of an attempt -/

structure NewAPIError where
  statusCode : ℤ
  (isChannelError skipRetry : Bool := false)
  /-- The error code is one of those that are never retried. -/
  alwaysSkipRetry : Bool := false
  deriving DecidableEq

/-- What the handler of an attempt leaves: its error, and what it wrote to the request. -/
structure Outcome where
  error : Option NewAPIError := none
  terminated : Bool := false
  written : Bool := false
  otherRatios : List (String × ℚ) := []
  finalRequestRelayFormat : Option RelayFormat := none
  requestConversionChain : List RelayFormat := []

def shouldRetry (c : RequestContext) (outcome : Outcome) (e : NewAPIError) (retryTimes : ℤ)
    (shouldRetryByStatusCode : ℤ → Bool) : Bool :=
  if outcome.terminated || outcome.written || shouldSkipRetryAfterChannelAffinityFailure c then
    false
  else if e.isChannelError then true
  else if e.skipRetry || retryTimes ≤ 0 || c.tokenSpecificChannelId.isSome then false
  else if 200 ≤ e.statusCode && e.statusCode < 300 then false
  else if e.statusCode < 100 || 599 < e.statusCode then true
  else if e.alwaysSkipRetry then false
  else shouldRetryByStatusCode e.statusCode

inductive RelayError
  | price (e : PriceError)
  | selectFailed (group model : String) (e : SelectError)
  | noChannel (group model : String)
  | setup (e : SetupError)
  | body
  | upstream (e : NewAPIError)
  deriving DecidableEq

/-! ## The state of the loop -/

/-- What the outside contributes to a step. The tables may change between the parts of a step. -/
structure Moment where
  groupsWorld : World
  /-- When a channel is selected in the groups. -/
  glances : ℕ → Glance
  loadWorld : World
  setupWorld : World
  setupRefused : Bool := false
  priceWorld : World
  bodyFails : Bool := false
  outcome : Outcome := {}
  shouldRetryByStatusCode : ℤ → Bool

inductive Phase
  /-- At the condition of the outer loop, with the error of the last attempt. -/
  | next (last : Option NewAPIError)
  | selecting
  | done (error : Option RelayError)
  deriving DecidableEq

/-- An upstream attempt, with the instant at which the price of its channel was bound. -/
structure Attempt where
  world : World
  context : RequestContext
  info : RelayInfo
  channelID : ℤ
  managed : Bool

def Attempt.route (a : Attempt) : PriceAuthorizedRoute := ⟨a.channelID, a.info.usingGroup⟩

structure State where
  context : RequestContext
  info : RelayInfo
  param : RetryParam
  phase : Phase := .next none
  attempts : List Attempt := []
  /-- How many channels were given up because of their price. -/
  rejections : ℕ := 0

def addUsedChannel (c : RequestContext) (channelID : ℤ) : RequestContext :=
  { c with useChannel := c.useChannel ++ [channelID] }

def resetAttemptResponseState (info : RelayInfo) : RelayInfo :=
  { info with
    finalRequestRelayFormat := none
    requestConversionChain := [info.requestConversionChain.headD info.relayFormat] }

def initChannelMeta (c : RequestContext) (info : RelayInfo) : RelayInfo :=
  { info with channelMeta := some ⟨c.channelType, c.channelId, c.managedProvider⟩ }

/-- The group of the request and its ratio, after automatic routing may have moved it. -/
def refreshGroupRatio (w : World) (c : RequestContext) (info : RelayInfo) : RelayInfo :=
  let (info, group) := handleGroupRatio w.settings c info
  { info with priceData := { info.priceData with groupRatioInfo := group } }

def Outcome.handle (outcome : Outcome) (c : RequestContext) (info : RelayInfo) : RelayInfo :=
  { initChannelMeta c info with
    priceData := { info.priceData with otherRatios := outcome.otherRatios }
    finalRequestRelayFormat := outcome.finalRequestRelayFormat
    requestConversionChain := outcome.requestConversionChain }

/-! ## The steps of the loop -/

namespace State

variable (retryTimes : ℤ) (m : Moment)

section

variable (c : RequestContext) (channelID : ℤ) (e : PriceError) (s : State)

def increaseRetry : State := { s with param := { s.param with retry := s.param.retry + 1 } }

def afterAttempt : State :=
  match m.outcome.error with
  | none => { s with phase := .done none }
  | some e =>
    if m.outcome.terminated || !shouldRetry s.context m.outcome e (retryTimes - s.param.retry)
        m.shouldRetryByStatusCode then
      { s with phase := .done (some (.upstream e)) }
    else { s.increaseRetry with phase := .next (some e) }

/-- Attempts the request on the channel of the context, whose price is bound in `bound`. -/
def attempt (bound : RelayInfo) (s : State) : State :=
  let c := addUsedChannel s.context channelID
  if m.bodyFails then { s with context := c, info := bound, phase := .done (some .body) }
  else
    afterAttempt retryTimes m
      { s with
        context := c, info := m.outcome.handle c bound
        attempts := s.attempts ++
          [⟨m.priceWorld, s.context, s.info, s.context.channelId, s.context.managedProvider⟩] }

def rejectInitial : State :=
  if s.context.tokenSpecificChannelId.isSome ||
      shouldSkipRetryAfterChannelAffinityFailure s.context || retryTimes ≤ s.param.retry then
    { s with rejections := s.rejections + 1, phase := .done (some (.price e)) }
  else
    { s.increaseRetry with
      context := addUsedChannel s.context s.context.channelId, rejections := s.rejections + 1
      phase := .selecting }

def rejectSelected : State :=
  let s := { s with
    context := addUsedChannel s.context channelID, rejections := s.rejections + 1 }
  if retryTimes ≤ s.param.retry then { s with phase := .done (some (.price e)) }
  else { s.increaseRetry with phase := .selecting }

/-- Binds the price of a channel: the request is attempted on it or the channel is given up. -/
def tryChannel (reject : PriceError → State → State) (s : State) : State :=
  match applyChannelModelPrice m.priceWorld (some s.context) s.info channelID
      s.context.managedProvider with
  | .ok bound => s.attempt retryTimes m channelID bound
  | .error e => reject e s

/-- The beginning of an attempt. The first one is on the channel of the distributor. -/
def begin (last : Option NewAPIError) (s : State) : State :=
  if retryTimes < s.param.retry then { s with phase := .done (last.map .upstream) }
  else
    let info := refreshGroupRatio m.priceWorld s.context (resetAttemptResponseState s.info)
    let s := { s with info }
    if info.channelMeta = none then
      s.tryChannel retryTimes m s.context.channelId (rejectInitial retryTimes)
    else { s with phase := .selecting }

def trySelected (channel : Channel) (s : State) : State :=
  match setupContextForSelectedChannel m.setupWorld c channel s.param.modelName
      m.setupRefused with
  | .error e => { s with context := c, phase := .done (some (.setup e)) }
  | .ok (c, channel) =>
    let s := { s with context := c, info := refreshGroupRatio m.priceWorld c s.info }
    s.tryChannel retryTimes m channel.id (rejectSelected retryTimes channel.id)

/-- The selected channel, once the database attests it; a stale one is excluded. -/
def load (group : String) (channel : Channel) (s : State) : State :=
  match loadManagedRelayChannelForRequest m.loadWorld channel s.param.modelName group with
  | .unmanaged => s.trySelected retryTimes m c channel
  | .loaded current price =>
    s.trySelected retryTimes m (markManagedChannelDBValidated c s.param.modelName price) current
  | .unavailable =>
    { s with context := { c with
        locallyExcludedChannels := c.locallyExcludedChannels ++ [channel.id]
        managedProvider := true } }

def select : State :=
  match selectCachedChannel m.groupsWorld s.context s.param m.glances with
  | .error e =>
    { s with phase := .done (some (.selectFailed s.param.tokenGroup s.param.modelName e)) }
  | .ok ⟨c, none, group⟩ =>
    { s with context := c, phase := .done (some (.noChannel group s.param.modelName)) }
  | .ok ⟨c, some channel, group⟩ => s.load retryTimes m c group channel

def step : State :=
  match s.phase with
  | .next last => s.begin retryTimes m last
  | .selecting => s.select retryTimes m
  | .done _ => s

end

end State

def run (retryTimes : ℤ) (s : State) (moments : List Moment) : State :=
  moments.foldl (fun s m => s.step retryTimes m) s

/-- The loop of a priced request, when its quota has been reserved. -/
def start (c : RequestContext) (info : RelayInfo) : State where
  context := c
  info := { info with
    forcePreConsume := info.priceData.channelSpecific || info.imageRetail.isSome }
  param := ⟨info.tokenGroup, info.originModelName, c.allowedChannelIds, 0⟩

/-! ## The loop keeps the billing of the request -/

/-- The request without what routing writes to it. -/
def RelayInfo.apartFromRoute (info : RelayInfo) : RelayInfo :=
  { info with
    usingGroup := "", priceData := {}, channelMeta := none, finalRequestRelayFormat := none,
    requestConversionChain := [] }

structure SameBilling (info info' : RelayInfo) : Prop where
  apartFromRoute : info'.apartFromRoute = info.apartFromRoute
  channelSpecific : info'.priceData.channelSpecific = info.priceData.channelSpecific
  quotaToPreConsume : info'.priceData.quotaToPreConsume = info.priceData.quotaToPreConsume

namespace SameBilling

variable {info info' info'' : RelayInfo}

theorem refl (info : RelayInfo) : SameBilling info info := ⟨rfl, rfl, rfl⟩

theorem trans (h : SameBilling info info') (h' : SameBilling info' info'') :
    SameBilling info info'' :=
  ⟨h'.1.trans h.1, h'.2.trans h.2, h'.3.trans h.3⟩

theorem of_rebound (h : Rebound info info') : SameBilling info info' :=
  ⟨by rw [h.eq]; rfl, h.channelSpecific, h.quotaToPreConsume⟩

theorem refreshGroupRatio (w : World) (c : RequestContext) (info : RelayInfo) :
    SameBilling info (refreshGroupRatio w c info) :=
  ⟨rfl, rfl, rfl⟩

theorem resetAttemptResponseState (info : RelayInfo) :
    SameBilling info (resetAttemptResponseState info) :=
  ⟨rfl, rfl, rfl⟩

theorem handle (outcome : Outcome) (c : RequestContext) (info : RelayInfo) :
    SameBilling info (outcome.handle c info) :=
  ⟨rfl, rfl, rfl⟩

theorem imageRetail (h : SameBilling info info') : info'.imageRetail = info.imageRetail :=
  (congrArg RelayInfo.imageRetail h.apartFromRoute :)

theorem usesAtomicStrictBilling (h : SameBilling info info') :
    info'.usesAtomicStrictBilling = info.usesAtomicStrictBilling := by
  have hforce : info'.forcePreConsume = info.forcePreConsume :=
    (congrArg RelayInfo.forcePreConsume h.apartFromRoute :)
  simp only [RelayInfo.usesAtomicStrictBilling, hforce, h.channelSpecific, h.imageRetail]

end SameBilling

section

variable {retryTimes : ℤ} {m : Moment} {s : State}

@[simp] theorem State.info_afterAttempt : (s.afterAttempt retryTimes m).info = s.info := by
  unfold State.afterAttempt
  split
  · rfl
  · split <;> rfl

theorem sameBilling_tryChannel {info : RelayInfo} {channelID : ℤ}
    {reject : PriceError → State → State} (hinfo : SameBilling info s.info)
    (hreject : ∀ e, (reject e s).info = s.info) :
    SameBilling info (s.tryChannel retryTimes m channelID reject).info := by
  unfold State.tryChannel
  split
  next bound hbound =>
    have hrebound := hinfo.trans (.of_rebound (rebound_of_applyChannelModelPrice hbound))
    unfold State.attempt
    split
    · exact hrebound
    · rw [State.info_afterAttempt]
      exact hrebound.trans (.handle _ _ _)
  next e _ =>
    rw [hreject e]
    exact hinfo

theorem info_rejectInitial (e : PriceError) : (s.rejectInitial retryTimes e).info = s.info := by
  unfold State.rejectInitial
  split <;> rfl

theorem info_rejectSelected (channelID : ℤ) (e : PriceError) :
    (s.rejectSelected retryTimes channelID e).info = s.info := by
  unfold State.rejectSelected
  simp only
  split <;> rfl

theorem sameBilling_begin (last : Option NewAPIError) :
    SameBilling s.info (s.begin retryTimes m last).info := by
  have hinfo := (SameBilling.resetAttemptResponseState s.info).trans
    (.refreshGroupRatio m.priceWorld s.context _)
  unfold State.begin
  split
  · exact .refl _
  · simp only
    split
    · exact sameBilling_tryChannel hinfo info_rejectInitial
    · exact hinfo

theorem sameBilling_trySelected (c : RequestContext) (channel : Channel) :
    SameBilling s.info (s.trySelected retryTimes m c channel).info := by
  unfold State.trySelected
  split
  · exact .refl _
  · exact sameBilling_tryChannel (.refreshGroupRatio m.priceWorld _ s.info)
      (info_rejectSelected _)

/-- **Every step keeps the billing mode and the reservation**, whatever happens outside. -/
theorem sameBilling_step : SameBilling s.info (s.step retryTimes m).info := by
  unfold State.step
  split
  · exact sameBilling_begin _
  · unfold State.select
    split
    · exact .refl _
    · exact .refl _
    · unfold State.load
      split
      · exact sameBilling_trySelected _ _
      · exact sameBilling_trySelected _ _
      · exact .refl _
  · exact .refl _

end

/-! ## The invariant of an authorized request -/

/-- An attempt on an authorized route whose channel required, when its price was bound, no more than
was reserved, unless the retail price is fixed. -/
structure Attempt.Authorized (reserved : RelayInfo) (bounds : PriceAuthorizationBounds)
    (a : Attempt) : Prop where
  route : a.route ∈ bounds.routes
  covered : ∃ required,
    requiredPriceData a.world a.context a.info bounds a.channelID a.managed = .ok required ∧
      (reserved.imageRetail = none →
        required.quotaToPreConsume ≤ reserved.priceData.quotaToPreConsume)

/-- What the loop keeps about the authorization and about the attempts. -/
structure Sound (reserved : RelayInfo) (bounds : PriceAuthorizationBounds) (tokenGroup : String)
    (c : RequestContext) (info : RelayInfo) (attempts : List Attempt) : Prop where
  priceAuthorizationBounds : c.priceAuthorizationBounds = some bounds
  catalogPriceAuthorized : c.catalogPriceAuthorized = true
  catalogPriceRoutes : c.catalogPriceRoutes = some bounds.routes
  routingGroup : tokenGroup ≠ "auto" →
    ∀ route ∈ bounds.routes, route.routingGroup = c.autoGroup.getD info.usingGroup
  sameBilling : SameBilling reserved info
  authorized : ∀ a ∈ attempts, a.Authorized reserved bounds
  used : ∀ a ∈ attempts, a.channelID ∈ c.useChannel
  nodup : (attempts.map Attempt.channelID).Nodup

/-- What the loop keeps about the retries: `spent` counts the attempts and the channels that were
given up. -/
def Budgeted (retryTimes : ℤ) : Phase → ℤ → ℕ → Prop
  | .next _, retry, spent => spent ≤ retry ∧ spent ≤ max 0 (retryTimes + 1)
  | .selecting, retry, spent => spent ≤ retry ∧ retry ≤ retryTimes
  | .done _, _, spent => spent ≤ max 0 (retryTimes + 1)

structure Invariant (retryTimes : ℤ) (reserved : RelayInfo) (bounds : PriceAuthorizationBounds)
    (s : State) : Prop where
  sound : Sound reserved bounds s.param.tokenGroup s.context s.info s.attempts
  /-- Before the first attempt, the channel of the distributor is authorized. -/
  initial : ∀ last, s.phase = .next last → s.info.channelMeta = none →
    ⟨s.context.channelId, s.context.autoGroup.getD s.info.usingGroup⟩ ∈ bounds.routes
  unattempted : s.info.channelMeta = none → s.attempts = []
  budgeted : Budgeted retryTimes s.phase s.param.retry (s.attempts.length + s.rejections)

section

variable {retryTimes : ℤ} {reserved : RelayInfo} {bounds : PriceAuthorizationBounds}
  {m : Moment} {s : State}

namespace Sound

variable {tokenGroup : String} {c : RequestContext} {info : RelayInfo} {attempts : List Attempt}

section

variable (h : Sound reserved bounds tokenGroup c info attempts)
include h

theorem addUsedChannel (channelID : ℤ) :
    Sound reserved bounds tokenGroup (addUsedChannel c channelID) info attempts :=
  { h with used := fun a ha => List.mem_append_left _ (h.used a ha) }

theorem rebind {info' : RelayInfo}
    (hbilling : SameBilling info info') (hgroup : info'.usingGroup = info.usingGroup) :
    Sound reserved bounds tokenGroup c info' attempts :=
  { h with
    routingGroup := by rw [hgroup]; exact h.routingGroup
    sameBilling := h.sameBilling.trans hbilling }

/-- The refreshed group of a request is the one that automatic routing has chosen. -/
theorem refreshGroupRatio (w : World) :
    Sound reserved bounds tokenGroup c (refreshGroupRatio w c info) attempts :=
  { h with
    routingGroup := fun htoken route hroute => by
      rw [h.routingGroup htoken route hroute]
      simp only [Relay.refreshGroupRatio, handleGroupRatio]
      cases c.autoGroup <;> rfl
    sameBilling := h.sameBilling.trans (.refreshGroupRatio w c info) }

theorem attempt {a : Attempt}
    (hauth : a.Authorized reserved bounds) (hnew : ∀ b ∈ attempts, b.channelID ≠ a.channelID) :
    Sound reserved bounds tokenGroup (Relay.addUsedChannel c a.channelID) info
      (attempts ++ [a]) :=
  { h with
    authorized := by
      simp only [List.mem_append, List.mem_singleton]
      rintro b (hb | rfl)
      · exact h.authorized b hb
      · exact hauth
    used := by
      simp only [List.mem_append, List.mem_singleton]
      rintro b (hb | rfl)
      · exact (h.addUsedChannel a.channelID).used b hb
      · simp [Relay.addUsedChannel]
    nodup := by
      rw [List.map_append, List.nodup_append]
      refine ⟨h.nodup, by simp, ?_⟩
      intro id hid id' hid'
      obtain ⟨b, hb, rfl⟩ := List.mem_map.1 hid
      simp only [List.map_cons, List.map_nil, List.mem_singleton] at hid'
      rw [hid']
      exact hnew b hb }

end

end Sound

section

variable (hsound : Sound reserved bounds s.param.tokenGroup s.context s.info s.attempts)
include hsound

/-- After an attempt, the loop has ended or one more retry is counted. -/
theorem invariant_afterAttempt (hmeta : s.info.channelMeta ≠ none)
    (hspent : ((s.attempts.length + s.rejections : ℕ) : ℤ) ≤ s.param.retry + 1)
    (hretry : s.param.retry ≤ retryTimes) :
    Invariant retryTimes reserved bounds (s.afterAttempt retryTimes m) := by
  have hdone : ∀ e, Invariant retryTimes reserved bounds { s with phase := .done e } := fun e =>
    { sound := hsound
      initial := nofun
      unattempted := fun h => absurd h hmeta
      budgeted := by
        simp only [Budgeted]
        omega }
  unfold State.afterAttempt
  split
  · exact hdone none
  · split
    · exact hdone _
    · exact
        { sound := hsound
          initial := fun _ _ h => absurd h hmeta
          unattempted := fun h => absurd h hmeta
          budgeted := by
            simp only [Budgeted, State.increaseRetry]
            omega }

/-- Binding the price of an authorized channel keeps the invariant when it succeeds. -/
theorem invariant_attempt {channelID : ℤ} {bound : RelayInfo}
    (hid : s.context.channelId = channelID)
    (hroute : ⟨channelID, s.info.usingGroup⟩ ∈ bounds.routes)
    (hnew : ∀ a ∈ s.attempts, a.channelID ≠ channelID)
    (hunattempted : s.info.channelMeta = none → s.attempts = [])
    (hspent : ((s.attempts.length + s.rejections : ℕ) : ℤ) ≤ s.param.retry)
    (hretry : s.param.retry ≤ retryTimes)
    (hbound : applyChannelModelPrice m.priceWorld (some s.context) s.info channelID
      s.context.managedProvider = .ok bound) :
    Invariant retryTimes reserved bounds (s.attempt retryTimes m channelID bound) := by
  subst hid
  have hrebound := rebound_of_applyChannelModelPrice hbound
  have hgroup : bound.usingGroup = s.info.usingGroup := by rw [hrebound.eq]
  have hchannelMeta : bound.channelMeta = s.info.channelMeta := by rw [hrebound.eq]
  have hrebind := hsound.rebind (.of_rebound hrebound) hgroup
  obtain ⟨⟨bounds', required, hbounds', hrequired, hcovered⟩, -⟩ :=
    covered_of_applyChannelModelPrice hsound.priceAuthorizationBounds hbound
  obtain rfl : bounds = bounds' := Option.mem_unique hsound.priceAuthorizationBounds hbounds'
  rw [hsound.sameBilling.imageRetail, hsound.sameBilling.quotaToPreConsume] at hcovered
  have hauth : Attempt.Authorized reserved bounds
      ⟨m.priceWorld, s.context, s.info, s.context.channelId, s.context.managedProvider⟩ :=
    ⟨hroute, required, hrequired, hcovered⟩
  unfold State.attempt
  split
  · exact
      { sound := hrebind.addUsedChannel _
        initial := nofun
        unattempted := fun h => hunattempted (hchannelMeta ▸ h)
        budgeted := by
          simp only [Budgeted]
          omega }
  · refine invariant_afterAttempt ?_ nofun ?_ hretry
    · exact (hrebind.rebind (.handle m.outcome _ bound) rfl).attempt hauth hnew
    · simp only [List.length_append, List.length_singleton]
      omega

end

/-- The first iteration, on the channel of the distributor, and every later one. -/
theorem invariant_begin {last : Option NewAPIError}
    (h : Invariant retryTimes reserved bounds s) (hphase : s.phase = .next last) :
    Invariant retryTimes reserved bounds (s.begin retryTimes m last) := by
  obtain ⟨hsound, hinitial, hunattempted, hbudget⟩ := h
  simp only [hphase, Budgeted] at hbudget
  have hrefresh := (hsound.rebind (.resetAttemptResponseState s.info) rfl).refreshGroupRatio
    m.priceWorld
  unfold State.begin
  split
  · exact ⟨hsound, nofun, hunattempted, hbudget.2⟩
  next hretry =>
    simp only
    split
    next hmeta =>
      have hnone : s.attempts = [] := hunattempted hmeta
      unfold State.tryChannel
      split
      next bound hbound =>
        exact invariant_attempt hrefresh rfl (hinitial last hphase hmeta)
          (by simp [hnone]) hunattempted hbudget.1 (Int.not_lt.1 hretry) hbound
      next e _ =>
        unfold State.rejectInitial
        split
        · refine ⟨hrefresh, nofun, hunattempted, ?_⟩
          simp only [Budgeted]
          omega
        next hcontinue =>
          simp only [Bool.or_eq_true, decide_eq_true_eq] at hcontinue
          refine ⟨hrefresh.addUsedChannel _, nofun, hunattempted, ?_⟩
          simp only [Budgeted, State.increaseRetry]
          omega
    next => exact ⟨hrefresh, nofun, hunattempted, hbudget.1, Int.not_lt.1 hretry⟩

variable {channel : Channel}

/-- A selected channel is on an authorized route, in the group that the request is moved to, and was
not attempted before. -/
theorem route_of_selected (hpos : ∀ route ∈ bounds.routes, 0 < route.channelID)
    (hsound : Sound reserved bounds s.param.tokenGroup s.context s.info s.attempts)
    {selected : Selected}
    (hcontext : s.param.tokenGroup ≠ "auto" → selected.context = s.context)
    (h : SelectedFrom s.context s.param channel selected) :
    ⟨channel.id, selected.context.autoGroup.getD s.info.usingGroup⟩ ∈ bounds.routes ∧
      ∀ a ∈ s.attempts, a.channelID ≠ channel.id := by
  have hallowed : ⟨channel.id, selected.group⟩ ∈ bounds.routes := by
    have hfilter := h.withFilters.isAllowed
    simp only [catalogPriceAllowedChannelIDs, hsound.catalogPriceAuthorized,
      hsound.catalogPriceRoutes, Bool.not_true, Bool.false_eq_true, if_false,
      Option.getD_some] at hfilter
    have hmem : channel.id ∈ (bounds.routes.filter (·.routingGroup = selected.group)).map
        (·.channelID) := by
      split at hfilter
      · simpa only [isAllowed, decide_eq_true_eq] using hfilter
      · simp only [isAllowed, decide_eq_true_eq] at hfilter
        exact (List.mem_filter.1 hfilter).1
    obtain ⟨route, hroute, hid⟩ := List.mem_map.1 hmem
    obtain ⟨hroute, hgroup⟩ := List.mem_filter.1 hroute
    rw [← hid, ← of_decide_eq_true hgroup]
    exact hroute
  refine ⟨?_, fun a ha heq => h.withFilters.not_excluded ?_⟩
  · by_cases hauto : s.param.tokenGroup = "auto"
    · rw [h.auto hauto]
      exact hallowed
    · rw [hcontext hauto, ← hsound.routingGroup hauto _ hallowed]
      exact hallowed
  · have hused : channel.id ∈ attemptedChannelIDs s.context :=
      List.mem_filter.2 ⟨heq ▸ hsound.used a ha, decide_eq_true (hpos _ hallowed)⟩
    simp only [excludedChannelIDs, hsound.catalogPriceAuthorized, Bool.or_true]
    exact List.mem_append_right _ hused

/-- The choice of a channel keeps the authorization and the channels that were used. -/
theorem Sound.of_context {tokenGroup : String} {c c' : RequestContext} {info : RelayInfo}
    {attempts : List Attempt} (h : Sound reserved bounds tokenGroup c info attempts)
    (hsame : c'.apartFromRoute = c.apartFromRoute)
    (hgroup : tokenGroup ≠ "auto" → c'.autoGroup = c.autoGroup) :
    Sound reserved bounds tokenGroup c' info attempts where
  priceAuthorizationBounds :=
    (congrArg RequestContext.priceAuthorizationBounds hsame :).trans h.priceAuthorizationBounds
  catalogPriceAuthorized :=
    (congrArg RequestContext.catalogPriceAuthorized hsame :).trans h.catalogPriceAuthorized
  catalogPriceRoutes :=
    (congrArg RequestContext.catalogPriceRoutes hsame :).trans h.catalogPriceRoutes
  routingGroup := by
    intro htoken
    rw [hgroup htoken]
    exact h.routingGroup htoken
  sameBilling := h.sameBilling
  authorized := h.authorized
  used := by
    have hused : c'.useChannel = c.useChannel := (congrArg RequestContext.useChannel hsame :)
    rw [hused]
    exact h.used
  nodup := h.nodup

theorem invariant_trySelected {c : RequestContext}
    (h : Invariant retryTimes reserved bounds s) (hphase : s.phase = .selecting)
    (hsound : Sound reserved bounds s.param.tokenGroup c s.info s.attempts)
    (hroute : ⟨channel.id, c.autoGroup.getD s.info.usingGroup⟩ ∈ bounds.routes)
    (hnew : ∀ a ∈ s.attempts, a.channelID ≠ channel.id) :
    Invariant retryTimes reserved bounds (s.trySelected retryTimes m c channel) := by
  obtain ⟨-, -, hunattempted, hbudget⟩ := h
  simp only [hphase, Budgeted] at hbudget
  unfold State.trySelected
  split
  · refine ⟨hsound, nofun, hunattempted, ?_⟩
    simp only [Budgeted]
    omega
  next c' channel' hsetup =>
    obtain ⟨hsame, hauto, hid, hchannel⟩ := setupContextForSelectedChannel_cases hsetup
    have hrefresh := (hsound.of_context hsame fun _ => hauto).refreshGroupRatio m.priceWorld
    simp only
    unfold State.tryChannel
    split
    next bound hbound =>
      refine invariant_attempt hrefresh hid ?_ ?_ hunattempted hbudget.1 hbudget.2 hbound
      · rw [← hauto, ← hchannel] at hroute
        exact hroute
      · rw [hchannel]
        exact hnew
    next e _ =>
      unfold State.rejectSelected
      simp only
      split
      · refine ⟨hrefresh.addUsedChannel _, nofun, hunattempted, ?_⟩
        simp only [Budgeted]
        omega
      · refine ⟨hrefresh.addUsedChannel _, nofun, hunattempted, ?_⟩
        simp only [Budgeted, State.increaseRetry]
        omega

section

variable (hpos : ∀ route ∈ bounds.routes, 0 < route.channelID)
include hpos

section

variable (h : Invariant retryTimes reserved bounds s)
include h

theorem invariant_select (hphase : s.phase = .selecting) :
    Invariant retryTimes reserved bounds (s.select retryTimes m) := by
  have hbudget := h.budgeted
  simp only [hphase, Budgeted] at hbudget
  have hdone : ((s.attempts.length + s.rejections : ℕ) : ℤ) ≤ max 0 (retryTimes + 1) := by omega
  unfold State.select
  split
  · exact ⟨h.sound, nofun, h.unattempted, hdone⟩
  next c group hselect =>
    obtain ⟨hsame, hcontext, -⟩ := selectCachedChannel_cases hselect
    exact ⟨h.sound.of_context hsame fun hne => congrArg _ (hcontext hne), nofun, h.unattempted,
      hdone⟩
  next c channel group hselect =>
    obtain ⟨hsame, hcontext, hselected⟩ := selectCachedChannel_cases hselect
    have hsound := h.sound.of_context hsame fun hne => congrArg _ (hcontext hne)
    obtain ⟨hroute, hnew⟩ := route_of_selected hpos h.sound hcontext (hselected channel rfl)
    unfold State.load
    split
    · exact invariant_trySelected h hphase hsound hroute hnew
    next current price hloaded =>
      rw [← loaded_id hloaded] at hroute hnew
      exact invariant_trySelected h hphase (hsound.of_context rfl fun _ => rfl) hroute hnew
    · refine ⟨hsound.of_context rfl fun _ => rfl, ?_, h.unattempted, ?_⟩
      · intro last hlast
        rw [hphase] at hlast
        cases hlast
      · simp only [hphase, Budgeted]
        exact hbudget

/-- **Every step keeps the invariant.** -/
theorem invariant_step : Invariant retryTimes reserved bounds (s.step retryTimes m) := by
  unfold State.step
  split
  next hphase => exact invariant_begin h hphase
  next hphase => exact invariant_select hpos h hphase
  next => exact h

/-- **Every run keeps the invariant.** -/
theorem invariant_run (moments : List Moment) :
    Invariant retryTimes reserved bounds (run retryTimes s moments) := by
  induction moments generalizing s with
  | nil => exact h
  | cons m moments ih => exact ih (invariant_step hpos h)

end

end

end

/-! ## Authorized routing -/

theorem invariant_start {retryTimes : ℤ} {c : RequestContext} {info : RelayInfo}
    {bounds : PriceAuthorizationBounds} (h : Authorized c info bounds)
    (hinitial : ⟨c.channelId, info.usingGroup⟩ ∈ bounds.routes) :
    Invariant retryTimes (start c info).info bounds (start c info) where
  sound :=
    { priceAuthorizationBounds := h.priceAuthorizationBounds
      catalogPriceAuthorized := h.catalogPriceAuthorized, catalogPriceRoutes := h.catalogPriceRoutes
      routingGroup := fun htoken route hroute =>
        (h.routingGroup htoken route hroute).trans h.usingGroup.symm
      sameBilling := .refl _
      authorized := fun _ => List.not_mem_nil.elim
      used := fun _ => List.not_mem_nil.elim
      nodup := List.nodup_nil }
  initial := by
    intro _ _ _
    show ⟨c.channelId, c.autoGroup.getD info.usingGroup⟩ ∈ bounds.routes
    rw [h.usingGroup]
    exact hinitial
  unattempted := fun _ => rfl
  budgeted := by simp [Budgeted, start]

/-- **Authorized routing.** Every upstream attempt is on a route that the price was authorized for,
and when its price was bound the channel required no more than was reserved, unless the retail price
is fixed. No channel is attempted twice, and the attempts and the channels given up for their price
are at most `retryTimes + 1` together. -/
theorem attempts_authorized (w : World) (retryTimes : ℤ) (c c' : RequestContext)
    (info info' : RelayInfo) (body : RequestBody) (bounds : PriceAuthorizationBounds)
    (hchannel : 0 < c.channelId) (hfresh : c.priceAuthorizationBounds = none)
    (hpriced : modelPriceHelper w retryTimes c info body = .ok (c', info'))
    (hbounds : c'.priceAuthorizationBounds = some bounds) (moments : List Moment) :
    let final := run retryTimes (start c' info') moments
    (∀ a ∈ final.attempts, a.route ∈ bounds.routes ∧ ∃ required,
        requiredPriceData a.world a.context a.info bounds a.channelID a.managed = .ok required ∧
          (info'.imageRetail = none →
            required.quotaToPreConsume ≤ info'.priceData.quotaToPreConsume)) ∧
      (final.attempts.map Attempt.channelID).Nodup ∧
      final.attempts.length + final.rejections ≤ (retryTimes + 1).toNat := by
  intro final
  obtain ⟨hauth, hfrom, hinitial⟩ := authorized_of_modelPriceHelper hfresh hpriced hbounds
  have hroute : ⟨c'.channelId, info'.usingGroup⟩ ∈ bounds.routes := by
    rw [hfrom.channelId]
    exact hinitial hchannel
  have hfinal : Invariant retryTimes (start c' info').info bounds final :=
    invariant_run hauth.channelID_pos (invariant_start hauth hroute) moments
  refine ⟨fun a ha => ?_, hfinal.sound.nodup, ?_⟩
  · obtain ⟨hmem, hcovered⟩ := hfinal.sound.authorized a ha
    exact ⟨hmem, hcovered⟩
  · have hbudget := hfinal.budgeted
    cases hphase : final.phase <;> simp only [hphase, Budgeted] at hbudget <;> omega

def sampleContext : RequestContext where
  channelId := 7
  usingGroup := "default"

def sampleInfo : RelayInfo where
  usingGroup := "default"
  tokenGroup := "default"
  originModelName := "deepseek-v4-flash"

def sampleBody : RequestBody where
  promptTokens := 1000
  tokenMeta := some ⟨500, 1⟩
  usesClaudeWebSearch := .ok false
  usesUnboundedMedia := .ok false
  imageCount := none

def sampleBounds : PriceAuthorizationBounds := ⟨1000, 500, 1, [⟨7, "default"⟩, ⟨8, "default"⟩]⟩

/-- The upstream fails with a status that is retried. -/
def sampleMoment : Moment where
  groupsWorld := sampleWorld
  glances _ := ⟨sampleWorld, 0⟩
  loadWorld := sampleWorld
  setupWorld := sampleWorld
  priceWorld := sampleWorld
  outcome := { error := some { statusCode := 500 } }
  shouldRetryByStatusCode _ := true

def samplePriced : RequestContext × RelayInfo :=
  ({ sampleContext with
      priceAuthorizationBounds := some sampleBounds, catalogPriceAuthorized := true
      catalogPriceRoutes := some sampleBounds.routes },
    { sampleInfo with
      authorizedPromptTokens := 1000, authorizedCompletionTokens := 500
      priceData :=
        { modelPrice := -1, modelRatio := 1 / 2, completionRatio := 3, quotaToPreConsume := 1563,
          groupRatioInfo := ⟨1, -1, false⟩, channelSpecific := true, unitPriceMultiplier := 1,
          priceProvider := "yuyu" } })

theorem attempts_authorized_sample :
    let final := run 1 (start samplePriced.1 samplePriced.2) [sampleMoment, sampleMoment,
      sampleMoment]
    final.attempts.map Attempt.route = [⟨7, "default"⟩, ⟨8, "default"⟩] ∧
      (final.attempts.map Attempt.channelID).Nodup ∧
      final.attempts.length + final.rejections ≤ 2 := by
  have hpriced : modelPriceHelper sampleWorld 1 sampleContext sampleInfo sampleBody =
      .ok (samplePriced.1, samplePriced.2) := by decide +kernel
  exact ⟨by decide +kernel, (attempts_authorized sampleWorld 1 sampleContext samplePriced.1
    sampleInfo samplePriced.2 sampleBody sampleBounds (by decide) rfl hpriced rfl
    [sampleMoment, sampleMoment, sampleMoment]).2⟩

end Mujian.Relay
