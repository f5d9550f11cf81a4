import Mujian.Relay.ModelPrice

/-!
# The selection of a channel for a retry

`selectCachedChannel` selects the next channel of a request: in the group of its token, or through
the automatic groups from where the last selection stopped. A request whose price was authorized
is confined to its authorized routes and does not return to a channel that it has tried.
`selectCachedChannel_cases` says what a selection returns and writes to the context.
-/

namespace Mujian.Relay

open Pricing

structure RetryParam where
  (tokenGroup modelName : String)
  allowedChannelIDs : Option (List ℤ)
  retry : ℤ

/-- What the selection in one group meets: the tables at that instant, and a random number. -/
structure Glance where
  world : World
  draw : ℕ

section

variable (w : World) (c : RequestContext) (param : RetryParam) (autoGroups : List String)

def catalogPriceAllowedChannelIDs (group : String)
    (requested : Option (List ℤ)) : Option (List ℤ) :=
  if !c.catalogPriceAuthorized then requested
  else
    let authorized :=
      ((c.catalogPriceRoutes.getD []).filter (·.routingGroup = group)).map (·.channelID)
    match requested with
    | none => some authorized
    | some ids => some (authorized.filter (· ∈ ids))

/-- The stale channels and, in a managed or an authorized request, those that were tried. -/
def excludedChannelIDs : List ℤ := locallyExcludedChannelIDs c ++
    if c.managedProvider || c.catalogPriceAuthorized then attemptedChannelIDs c else []

def selectInGroup (excluded : List ℤ) (glance : Glance)
    (group : String) (priorityIndex : ℤ) : Selection :=
  getRandomSatisfiedChannelWithFilters glance.world group param.modelName priorityIndex
    (catalogPriceAllowedChannelIDs c group param.allowedChannelIDs) excluded glance.draw

def startGroupIndex : ℕ :=
  match c.autoGroupIndex, c.autoGroup with
  | some index, _ => index
  | none, some group => if group = "" then 0 else (autoGroups.findIdx? (· = group)).getD 0
  | none, none => 0

/-- The cursor through the priorities of the group in use. -/
def startPriorityIndex : ℤ :=
  match c.autoGroupRetryIndex with
  | some index => if 0 ≤ index then index else param.retry
  | none => param.retry

/-- Once an upstream has been attempted, leaving its group requires the consent of the token. -/
def lastGroupIndex (start : ℕ) : ℕ :=
  if (0 < param.retry ∨ attemptedChannelIDs c ≠ []) ∧ !c.tokenCrossGroupRetry then start
  else autoGroups.length - 1

structure Selected where
  context : RequestContext
  channel : Option Channel
  group : String

/-- The walk through the groups from the index `i` to the index `last`. Errors of a group count as
no channel. -/
def walkAutoGroups (param : RetryParam) (excluded : List ℤ) (glances : ℕ → Glance)
    (start last : ℕ) : List String → ℕ → ℤ → RequestContext → Selected
  | [], _, _, c => ⟨c, none, param.tokenGroup⟩
  | autoGroup :: autoGroups, i, priorityIndex, c =>
    let priorityIndex := if start < i then 0 else priorityIndex
    match (selectInGroup c param excluded (glances i) autoGroup priorityIndex).channel with
    | none =>
      let c := if i < last then
          { c with autoGroupIndex := some (i + 1), autoGroupRetryIndex := some 0 }
        else c
      walkAutoGroups param excluded glances start last autoGroups (i + 1) priorityIndex c
    | some channel =>
      ⟨{ c with
        autoGroup := some autoGroup, autoGroupIndex := some i
        autoGroupRetryIndex := some (priorityIndex + 1) }, some channel, autoGroup⟩

def selectAutoChannel (glances : ℕ → Glance) : Except SelectError Selected :=
  let autoGroups := autoGroupsForRequest w c c.userGroup
  let c := freezeAutoGroups w c c.userGroup
  if autoGroups = [] then .error .noAutoGroup
  else
    let start := startGroupIndex c autoGroups
    if autoGroups.length ≤ start then .ok ⟨c, none, param.tokenGroup⟩
    else
      let last := lastGroupIndex c param autoGroups start
      .ok (walkAutoGroups param (excludedChannelIDs c) glances start last
        ((autoGroups.take (last + 1)).drop start) start (startPriorityIndex c param) c)

def selectCachedChannel (glances : ℕ → Glance) : Except SelectError Selected :=
  if param.tokenGroup = "auto" then selectAutoChannel w c param glances
  else
    let selection :=
      selectInGroup c param (excludedChannelIDs c) (glances 0) param.tokenGroup param.retry
    match selection.error with
    | some e => .error e
    | none => .ok ⟨c, selection.channel, param.tokenGroup⟩

def markManagedChannelDBValidated (catalogID : String)
    (price : ChannelModelPriceSnapshot) : RequestContext :=
  { c with
    managedChannelValidation := some ⟨price.channelID, catalogID, price.routingGroup⟩
    managedChannelPrice := some price }

def isManagedChannelDBValidated (channelID : ℤ) (catalogID routingGroup : String) : Bool :=
  c.managedChannelValidation = some ⟨channelID, catalogID, routingGroup⟩

def currentRoutingGroup : String :=
  match c.autoGroup with
  | some group => if group = "" then c.usingGroup else group
  | none => c.usingGroup

end

inductive SetupError
  /-- The managed channel is not available for the request. -/
  | unavailable
  | tagMismatch
  /-- The channel has an invalid configuration, or no key. -/
  | refused
  deriving DecidableEq

/-- A managed channel that was not validated yet is replaced by what the database attests. -/
def validateSelected (w : World) (c : RequestContext) (channel : Channel) (modelName : String) :
    Except SetupError (RequestContext × Channel) :=
  if c.managedProvider &&
      !isManagedChannelDBValidated c channel.id modelName (currentRoutingGroup c) then
    match loadManagedRelayChannelForRequest w channel modelName (currentRoutingGroup c) with
    | .unmanaged => .error .tagMismatch
    | .unavailable => .error .unavailable
    | .loaded current price => .ok (markManagedChannelDBValidated c modelName price, current)
  else .ok (c, channel)

/-- Makes a channel the one of the context. `refused` says that a later check of its configuration
or its keys fails. -/
def setupContextForSelectedChannel (w : World) (c : RequestContext) (channel : Channel)
    (modelName : String) (refused : Bool) : Except SetupError (RequestContext × Channel) := do
  let c := { c with managedProvider := (strictProviderIDForTag channel.tag).isSome }
  let (c, channel) ← validateSelected w c channel modelName
  if refused then .error .refused
  else .ok ({ c with channelId := channel.id, channelType := channel.type }, channel)

/-- The context without the keys that the choice of a channel writes. -/
def RequestContext.apartFromRoute (c : RequestContext) : RequestContext :=
  { c with
    channelId := 0, channelType := 0, autoGroup := none, autoGroupRouteSnapshot := none,
    autoGroupIndex := none, autoGroupRetryIndex := none, managedProvider := false,
    managedChannelPrice := none, managedChannelValidation := none,
    locallyExcludedChannels := [] }

structure SelectedFrom (c : RequestContext) (param : RetryParam) (channel : Channel)
    (selected : Selected) : Prop where
  withFilters : WithFilters (catalogPriceAllowedChannelIDs c selected.group
    param.allowedChannelIDs) (excludedChannelIDs c) channel.id
  auto : param.tokenGroup = "auto" → selected.context.autoGroup = some selected.group
  fixed : param.tokenGroup ≠ "auto" → selected.group = param.tokenGroup

variable {param : RetryParam} {excluded : List ℤ} {glances : ℕ → Glance} {start last i : ℕ}
  {autoGroups : List String} {priorityIndex : ℤ} {c c' : RequestContext} {channel : Channel}
  {w : World}

theorem apartFromRoute_walkAutoGroups :
    (walkAutoGroups param excluded glances start last autoGroups i priorityIndex
      c).context.apartFromRoute = c.apartFromRoute := by
  induction autoGroups generalizing i priorityIndex c with
  | nil => rfl
  | cons autoGroup autoGroups ih =>
    simp only [walkAutoGroups]
    split
    · rw [ih]
      split <;> rfl
    · rfl

/-- The filter by authorized channels does not depend on the choice of a channel. -/
theorem catalogPriceAllowedChannelIDs_congr (h : c'.apartFromRoute = c.apartFromRoute) :
    catalogPriceAllowedChannelIDs c' = catalogPriceAllowedChannelIDs c := by
  have hauth : c'.catalogPriceAuthorized = c.catalogPriceAuthorized :=
    (congrArg RequestContext.catalogPriceAuthorized h :)
  have hroutes : c'.catalogPriceRoutes = c.catalogPriceRoutes :=
    (congrArg RequestContext.catalogPriceRoutes h :)
  funext group requested
  simp only [catalogPriceAllowedChannelIDs, hauth, hroutes]

theorem channel_walkAutoGroups
    (h : (walkAutoGroups param excluded glances start last autoGroups i priorityIndex
      c).channel = some channel) :
    WithFilters (catalogPriceAllowedChannelIDs c (walkAutoGroups param excluded glances start last
        autoGroups i priorityIndex c).group param.allowedChannelIDs) excluded channel.id ∧
      (walkAutoGroups param excluded glances start last autoGroups i priorityIndex
        c).context.autoGroup = some (walkAutoGroups param excluded glances start last autoGroups i
          priorityIndex c).group := by
  induction autoGroups generalizing i priorityIndex c with
  | nil => cases h
  | cons autoGroup autoGroups ih =>
    simp only [walkAutoGroups] at h ⊢
    split at h
    next =>
      obtain ⟨hfilters, hauto⟩ := ih h
      refine ⟨?_, hauto⟩
      rwa [catalogPriceAllowedChannelIDs_congr] at hfilters
      split <;> rfl
    next found hfound =>
      cases h
      exact ⟨selected_withFilters hfound, rfl⟩

/-- **What a selection can do**: it returns a channel of a group that passes the filters, and it
writes no key of the context but those of automatic routing. -/
theorem selectCachedChannel_cases {selected : Selected}
    (h : selectCachedChannel w c param glances = .ok selected) :
    selected.context.apartFromRoute = c.apartFromRoute ∧
      (param.tokenGroup ≠ "auto" → selected.context = c) ∧
      ∀ channel, selected.channel = some channel → SelectedFrom c param channel selected := by
  unfold selectCachedChannel at h
  split at h
  next hauto =>
    simp only [selectAutoChannel, ite_error_eq_ok_iff] at h
    obtain ⟨-, h⟩ := h
    split at h
    · cases h
      refine ⟨rfl, fun hne => absurd hauto hne, fun channel hchannel => ?_⟩
      cases hchannel
    · cases h
      refine ⟨apartFromRoute_walkAutoGroups, fun hne => absurd hauto hne,
        fun channel hchannel => ?_⟩
      obtain ⟨hfilters, hgroup⟩ := channel_walkAutoGroups hchannel
      exact ⟨hfilters, fun _ => hgroup, fun hne => absurd hauto hne⟩
  next hauto =>
    simp only at h
    split at h
    · cases h
    · cases h
      exact ⟨rfl, fun _ => rfl, fun channel hchannel =>
        ⟨selected_withFilters hchannel, fun heq => absurd heq hauto, fun _ => rfl⟩⟩

/-- Setting up a channel writes the keys of the channel. -/
theorem setupContextForSelectedChannel_cases
    {channel' : Channel} {modelName : String} {refused : Bool}
    (h : setupContextForSelectedChannel w c channel modelName refused = .ok (c', channel')) :
    c'.apartFromRoute = c.apartFromRoute ∧ c'.autoGroup = c.autoGroup ∧
      c'.channelId = channel'.id ∧ channel'.id = channel.id := by
  simp only [setupContextForSelectedChannel, except_bind_eq_ok_iff, Prod.exists,
    ite_error_eq_ok_iff] at h
  obtain ⟨c₁, channel₁, hvalid, -, heq⟩ := h
  cases heq
  refine ⟨?_, ?_, rfl, ?_⟩
  all_goals
    unfold validateSelected at hvalid
    split at hvalid
    · split at hvalid
      · cases hvalid
      · cases hvalid
      next hloaded =>
        cases hvalid
        first
          | rfl
          | exact loaded_id hloaded
    · cases hvalid
      rfl

end Mujian.Relay
