import Mujian.Foundations.Text
import Mujian.Foundations.Tiers
import Mujian.Pricing.Price

/-!
# Channels and their selection

The tables of channels, abilities and channel prices, the in-memory cache of them, and the two
selectors of a channel for a group and a model: `getChannelWithFilters` queries the database and
`cachedChannelWithFilters` reads the cache. Both choose by weight in one tier of priority.
`selected_withFilters` says where a selected channel comes from.
-/

namespace Mujian.Relay

open Pricing

inductive ChannelStatus
  | unknown | enabled | manuallyDisabled | autoDisabled
  deriving DecidableEq

/-- The columns of `channels` that routing reads. The defaults are those of a row that is known by
its id only. -/
structure Channel where
  id : ℤ
  type : ℤ := 0
  status : ChannelStatus := .unknown
  (tag group : String := "")
  priority : ℤ := 0
  weight : ℕ := 0
  testTime : ℤ := 0
  deriving DecidableEq

instance : Keyed Channel ℤ := ⟨Channel.id⟩

structure Ability where
  (group model : String)
  channelId : ℤ
  enabled : Bool
  priority : ℤ := 0
  weight : ℕ := 0
  deriving DecidableEq

/-- The routing tables; `refused` when the database answers no query. -/
structure RoutingDB where
  channels : Table Channel
  abilities : List Ability
  prices : List ChannelModelPrice
  refused : Bool := false

/-- The cache of a process: the channels by group and model, and all channels by id. -/
structure ChannelCache where
  group2model2channels : String → String → List ℤ
  channelsIDM : Table Channel

/-- What one instant shows of the tables, the cache and the settings. -/
structure World where
  settings : Settings
  memoryCacheEnabled : Bool
  db : RoutingDB
  cache : ChannelCache
  formatMatchingModelName : String → String
  /-- The groups that a user of a group may be routed to automatically. -/
  userAutoGroup : String → List String
  /-- Whether the configuration, the model mapping and the price of a managed channel agree with
  the definition of its provider. -/
  managedConfigurationValid : String → Channel → ChannelModelPrice → Bool

inductive SelectError
  | database
  | recordNotFound
  | cacheInconsistent (channelID : ℤ)
  | channelNotFound
  | noAutoGroup
  deriving DecidableEq

/-- What a selector returns: a channel, an error, neither or, from the database, both. -/
structure Selection where
  channel : Option Channel := none
  error : Option SelectError := none

inductive QueryError
  | database
  | recordNotFound
  deriving DecidableEq

def getAvailableChannelModelPrice (db : RoutingDB) (channelID : ℤ) (catalogID : String) :
    Except QueryError ChannelModelPrice :=
  if db.refused then .error .database
  else
    match db.prices.find? fun p =>
        p.channelID = channelID && p.catalogID = catalogID && p.available with
    | some price => .ok price
    | none => .error .recordNotFound

/-- The profiles under which a provider's channels are tagged. -/
def profiles : List String := ["chat", "nano", "gpt-image"]

/-- The providers whose channels are owned by the strict lifecycle, with their profiles. -/
def strictProviders : List (String × List String) :=
  [("yuyu", profiles), ("zenmux", ["chat"]), ("tabcode", ["chat"])]

def providerTag (providerID profileID : String) : String :=
  "mujian-provider:" ++ providerID ++ ":" ++ profileID

def strictProviderIDForTag (tag : String) : Option String :=
  (strictProviders.find? fun (providerID, profileIDs) =>
    profileIDs.any fun profileID => trimSpace tag = providerTag providerID profileID).map Prod.fst

inductive ManagedLoad
  | unmanaged
  /-- The route is not available, for one reason or another. -/
  | unavailable
  | loaded (channel : Channel) (price : ChannelModelPriceSnapshot)

/-- The row of channel, ability and price that attests a managed route. -/
def attestedRoute (db : RoutingDB) (channelID : ℤ) (catalogID group : String) :
    Option (Channel × ChannelModelPrice) := do
  let channel ← db.channels.find? channelID
  if channel.status ≠ .enabled ∨ channel.group ≠ group then none
  else do
    let _ ← db.abilities.find? fun a =>
      a.channelId = channelID && a.model = catalogID && a.enabled && a.group = group &&
        a.priority = channel.priority
    let price ← db.prices.find? fun p =>
      p.channelID = channelID && p.catalogID = catalogID && p.available && 0 < p.syncedAt &&
        p.syncedAt ≤ p.testedAt && p.syncedAt ≤ channel.testTime
    some (channel, price)

def snapshotOf (channel : Channel) (price : ChannelModelPrice) (catalogID group : String) :
    ChannelModelPriceSnapshot where
  priceID := price.id
  channelID := channel.id
  catalogID := catalogID
  upstreamModelID := price.upstreamModelID
  provider := price.provider
  billingType := price.billingType
  currency := price.currency
  routingGroup := group
  referenceProtocol := price.referenceProtocol
  maxReferenceImages := price.maxReferenceImages
  inputPrice := price.inputPrice
  outputPrice := price.outputPrice
  imageOutputPrice := price.imageOutputPrice
  fixedPrice := price.fixedPrice
  cacheRatio := price.cacheRatio
  cacheCreationRatio := price.cacheCreationRatio

/-- Replaces a cached managed channel by what the database attests of it for the request. -/
def loadManagedRelayChannelForRequest (w : World) (cached : Channel)
    (catalogID expectedGroup : String) : ManagedLoad :=
  match strictProviderIDForTag cached.tag with
  | none => .unmanaged
  | some providerID =>
    let group := trimSpace expectedGroup
    if group = "" ∨ group = "auto" ∨ w.db.refused then .unavailable
    else
      match attestedRoute w.db cached.id catalogID group with
      | none => .unavailable
      | some (channel, price) =>
        if strictProviderIDForTag channel.tag = some providerID ∧
            w.managedConfigurationValid providerID channel price then
          .loaded channel (snapshotOf channel price catalogID group)
        else .unavailable

theorem loaded_id {w : World} {cached channel : Channel} {catalogID group : String}
    {price : ChannelModelPriceSnapshot}
    (h : loadManagedRelayChannelForRequest w cached catalogID group = .loaded channel price) :
    channel.id = cached.id := by
  unfold loadManagedRelayChannelForRequest at h
  split at h
  · cases h
  simp only at h
  split at h
  · cases h
  split at h
  · cases h
  next found attested hattested =>
    split at h
    · cases h
      simp only [attestedRoute, Option.bind_eq_bind, Option.bind_eq_some_iff] at hattested
      obtain ⟨row, hrow, hattested⟩ := hattested
      split at hattested
      · cases hattested
      · simp only [Option.bind_eq_some_iff] at hattested
        obtain ⟨_, _, _, _, heq⟩ := hattested
        cases heq
        exact Table.key_of_find? hrow
    · cases h

/-- Two channels of one group with prices of their own. -/
def sampleWorld : World where
  settings := sampleSettings
  memoryCacheEnabled := false
  db :=
    { channels := ⟨[{ id := 7, status := .enabled }, { id := 8, status := .enabled }], by decide⟩
      abilities :=
        [⟨"default", "deepseek-v4-flash", 7, true, 10, 0⟩,
          ⟨"default", "deepseek-v4-flash", 8, true, 5, 0⟩]
      prices :=
        [{ id := 1, channelID := 7, catalogID := "deepseek-v4-flash", provider := "yuyu",
            billingType := .token, inputPrice := 1, outputPrice := 2 },
          { id := 2, channelID := 8, catalogID := "deepseek-v4-flash", provider := "yuyu",
            billingType := .token, inputPrice := 1, outputPrice := 3 }] }
  cache := ⟨fun _ _ => [], .empty⟩
  formatMatchingModelName name := name
  userAutoGroup _ := []
  managedConfigurationValid _ _ _ := true

/-- The filter by allowed channels; `none` allows every channel. -/
def isAllowed (allowed : Option (List ℤ)) (id : ℤ) : Bool :=
  match allowed with
  | none => true
  | some ids => id ∈ ids

/-- The priority tier that an attempt aims at: the exclusion of channels restarts the walk through
the tiers, and attempts beyond the last tier stay in it. -/
def tierIndex (excluded : List ℤ) (retry : ℤ) (tiers : ℕ) : Option ℕ :=
  let retry := if excluded = [] then retry else 0
  if retry < 0 then none else some (min retry.toNat (tiers - 1))

section

variable (db : RoutingDB) (w : World) (group model : String) (channels : List Channel)

section

variable (retry : ℤ) (allowed : Option (List ℤ)) (excluded : List ℤ) (draw : ℕ)

/-- The rows that the query of a selector matches. -/
def matchingAbilities : List Ability := db.abilities.filter fun a =>
    a.group = group && a.model = model && a.enabled && isAllowed allowed a.channelId &&
      a.channelId ∉ excluded

/-- The choice among the rows of a tier: each counts its weight plus ten. -/
def pickAbility (abilities : List Ability) (draw : ℕ) : Option Ability :=
  let abilities := abilities.insertionSort fun a b => b.weight ≤ a.weight
  let weightSum := (abilities.map fun a => a.weight + 10).sum
  pickWeighted (fun a => (a.weight : ℤ) + 10) 1 abilities (draw % weightSum : ℕ)

def getChannelWithFilters : Selection :=
  if allowed = some [] then {}
  else if db.refused then { error := some .database }
  else
    let abilities := matchingAbilities db group model allowed excluded
    let tiers := priorities Ability.priority abilities
    match (tierIndex excluded retry tiers.length).bind (tiers[·]?) with
    | none => {}
    | some priority =>
      match pickAbility (tier Ability.priority priority abilities) draw with
      | none => {}
      | some ability =>
        match db.channels.find? ability.channelId with
        | some channel => { channel := some channel }
        -- The caller receives the row that was to be filled along with the error.
        | none => { channel := some { id := ability.channelId }, error := some .recordNotFound }

/-- The channels of a group and a model, under the normalized name when the exact one has none. -/
def cachedChannelIDs : List ℤ :=
  match w.cache.group2model2channels group model with
  | [] => w.cache.group2model2channels group (w.formatMatchingModelName model)
  | ids => ids

/-- Small weights are scaled up, and where no channel has a weight all count the same. -/
def smoothedWeight : Channel → ℕ :=
  let sumWeight := (channels.map Channel.weight).sum
  if sumWeight = 0 then fun channel => channel.weight + 100
  else if sumWeight / channels.length < 10 then fun channel => channel.weight * 100
  else fun channel => channel.weight

def pickChannel : Option Channel :=
  let totalWeight := (channels.map (smoothedWeight channels)).sum
  pickWeighted (fun channel => (smoothedWeight channels channel : ℤ)) 0 channels
    (draw % totalWeight : ℕ)

/-- The cached rows of some channels, or the first id that has none. -/
def cachedChannels (cache : ChannelCache) : List ℤ → Except SelectError (List Channel)
  | [] => .ok []
  | id :: ids =>
    match cache.channelsIDM.find? id with
    | none => .error (.cacheInconsistent id)
    | some channel => do
      let channels ← cachedChannels cache ids
      .ok (channel :: channels)

def pickCached (retry : ℤ) (draw : ℕ) : Selection :=
  let tiers := priorities Channel.priority channels
  match (tierIndex excluded retry tiers.length).bind (tiers[·]?) with
  | none => {}
  | some priority =>
    match pickChannel (tier Channel.priority priority channels) draw with
    | some channel => { channel := some channel }
    | none => { error := some .channelNotFound }

def cachedCandidates : List ℤ :=
  (cachedChannelIDs w group model).filter fun id => isAllowed allowed id && id ∉ excluded

def cachedChannelWithFilters : Selection :=
  if cachedCandidates w group model allowed excluded = [] then {}
  else match cachedChannels w.cache (cachedCandidates w group model allowed excluded) with
    | .error e => { error := some e }
    -- A single channel is taken whatever tier the attempt aims at.
    | .ok [channel] => { channel := some channel }
    | .ok channels => pickCached channels excluded retry draw

def getRandomSatisfiedChannelWithFilters : Selection :=
  if w.memoryCacheEnabled then cachedChannelWithFilters w group model retry allowed excluded draw
  else getChannelWithFilters w.db group model retry allowed excluded draw

end

end

structure WithFilters (allowed : Option (List ℤ)) (excluded : List ℤ) (id : ℤ) : Prop where
  isAllowed : isAllowed allowed id = true
  not_excluded : id ∉ excluded

theorem cachedChannels_mem {cache : ChannelCache} {ids : List ℤ} {channels : List Channel}
    (h : cachedChannels cache ids = .ok channels) :
    channels.map Channel.id = ids ∧
      ∀ channel ∈ channels, cache.channelsIDM.find? channel.id = some channel := by
  induction ids generalizing channels with
  | nil =>
    cases h
    simp
  | cons id ids ih =>
    unfold cachedChannels at h
    split at h
    next => cases h
    next channel hfind =>
      obtain ⟨rest, hrest, heq⟩ := except_bind_eq_ok_iff.1 h
      cases heq
      have hid : channel.id = id := Table.key_of_find? hfind
      obtain ⟨hmap, hall⟩ := ih hrest
      refine ⟨by rw [List.map_cons, hmap, hid], fun c hc => ?_⟩
      rcases List.mem_cons.1 hc with rfl | hc
      · rw [hid]
        exact hfind
      · exact hall c hc

section

variable {w : World} {db : RoutingDB} {group model : String} {retry : ℤ}
  {allowed : Option (List ℤ)} {excluded : List ℤ} {draw : ℕ} {channel : Channel}

/-- A channel selected from the database has a matching row in the tier of the attempt. -/
theorem getChannelWithFilters_cases
    (h : (getChannelWithFilters db group model retry allowed excluded draw).channel =
      some channel) :
    ∃ ability ∈ matchingAbilities db group model allowed excluded, ability.channelId = channel.id ∧
      (tierIndex excluded retry (priorities Ability.priority
        (matchingAbilities db group model allowed excluded)).length).bind
          ((priorities Ability.priority
            (matchingAbilities db group model allowed excluded))[·]?) = some ability.priority := by
  unfold getChannelWithFilters at h
  split at h
  · cases h
  split at h
  · cases h
  simp only at h
  split at h
  next => cases h
  next priority hpriority =>
    split at h
    next => cases h
    next ability hpick =>
      obtain ⟨hmem, htier⟩ := mem_tier.1 ((List.mem_insertionSort _).1 (mem_of_pickWeighted hpick))
      refine ⟨ability, hmem, ?_, htier ▸ hpriority⟩
      split at h
      next found hfind =>
        cases h
        exact (Table.key_of_find? hfind).symm
      next =>
        cases h
        rfl

/-- A channel selected from the cache is a cached candidate, alone or chosen by weight in the tier
of the attempt. -/
theorem cachedChannelWithFilters_cases
    (h : (cachedChannelWithFilters w group model retry allowed excluded draw).channel =
      some channel) :
    ∃ channels, cachedChannels w.cache (cachedCandidates w group model allowed excluded) =
        .ok channels ∧ channel ∈ channels ∧
      (channels = [channel] ∨ ∃ priority,
        (tierIndex excluded retry (priorities Channel.priority channels).length).bind
          ((priorities Channel.priority channels)[·]?) = some priority ∧
        pickChannel (tier Channel.priority priority channels) draw = some channel) := by
  unfold cachedChannelWithFilters at h
  split at h
  · cases h
  split at h
  next => cases h
  next single hsingle =>
    cases h
    exact ⟨_, hsingle, List.mem_singleton_self _, .inl rfl⟩
  next channels hne hchannels =>
    refine ⟨channels, hchannels, ?_⟩
    unfold pickCached at h
    simp only at h
    split at h
    next => cases h
    next priority hpriority =>
      split at h
      next picked hpick =>
        cases h
        obtain ⟨hmem, -⟩ := mem_tier.1 (mem_of_pickWeighted hpick)
        exact ⟨hmem, .inr ⟨priority, hpriority, hpick⟩⟩
      next => cases h

/-- **Every selection passes its filters**, whatever the tables and the random number. -/
theorem selected_withFilters
    (h : (getRandomSatisfiedChannelWithFilters w group model retry allowed excluded draw).channel =
      some channel) : WithFilters allowed excluded channel.id := by
  unfold getRandomSatisfiedChannelWithFilters at h
  split at h
  · obtain ⟨channels, hchannels, hmem, -⟩ := cachedChannelWithFilters_cases h
    have hid : channel.id ∈ cachedCandidates w group model allowed excluded :=
      (cachedChannels_mem hchannels).1 ▸ List.mem_map_of_mem hmem
    have hfilter := (List.mem_filter.1 hid).2
    simp only [Bool.and_eq_true, decide_eq_true_eq] at hfilter
    exact ⟨hfilter.1, hfilter.2⟩
  · obtain ⟨ability, hability, hid, -⟩ := getChannelWithFilters_cases h
    have hfilter := (List.mem_filter.1 hability).2
    simp only [Bool.and_eq_true, decide_eq_true_eq] at hfilter
    rw [← hid]
    exact ⟨hfilter.1.2, hfilter.2⟩

end

end Mujian.Relay
