import Mujian.Relay.Loop

/-!
# The distributor and the automatic groups

A request is first routed by the distributor: to the channel that its token is tied to, to one that
affinity prefers, or to one that the selector finds. For a request of the group `auto` each of these
chooses one of the automatic groups and leaves it in the context. `Placed` says that the context
names a group and that the cursor stands on it (`placed_of_distribute`).
-/

namespace Mujian.Relay

open Pricing

/-! ## The distributor -/

def isChannelEnabledForGroupModelDB (w : World) (group modelName : String) (channelID : ℤ) :
    Except QueryError Bool :=
  let enabled (name : String) : Bool := w.db.abilities.any fun a =>
    a.group = group && a.model = name && a.channelId = channelID && a.enabled
  let normalized := w.formatMatchingModelName modelName
  if group = "" ∨ modelName = "" ∨ channelID ≤ 0 then .ok false
  else if w.db.refused then .error .database
  else .ok (enabled modelName ||
    (normalized ≠ "" && normalized ≠ modelName && enabled normalized))

/-- Whether a channel serves a model in a group; an error of the database counts as no. -/
def isChannelEnabledForGroupModel (w : World) (group modelName : String) (channelID : ℤ) : Bool :=
  let listed (name : String) : Bool := channelID ∈ w.cache.group2model2channels group name
  let normalized := w.formatMatchingModelName modelName
  if group = "" ∨ modelName = "" ∨ channelID ≤ 0 then false
  else if !w.memoryCacheEnabled then
    (isChannelEnabledForGroupModelDB w group modelName channelID).toOption.getD false
  else listed modelName || (normalized ≠ "" && normalized ≠ modelName && listed normalized)

inductive DistributeError
  | invalidChannelId | channelDisabled | referenceProtocol | managedOutsideAutoGroups
  | autoGroupCheck (e : QueryError)
  | outsideAutoGroups
  | select (e : SelectError)
  | noAvailableChannel
  | setup (e : SetupError)
  deriving DecidableEq

/-- What the distributor meets. The tables may change from one group to the next. -/
structure Arrival where
  modelName : String
  world : World
  worlds : ℕ → World
  preferred : Option Channel := none
  /-- The rule of the affinity forbids a retry after a failure. -/
  skipRetry : Bool := false
  /-- What the selector meets, iteration by iteration. -/
  moments : List Moment := []
  setupWorld : World
  setupRefused : Bool := false

def attestedAutoGroup (worlds : ℕ → World) (channel : Channel) (modelID : String) :
    List String → ℕ → Option (String × Channel × ChannelModelPriceSnapshot)
  | [], _ => none
  | group :: groups, i =>
    match loadManagedRelayChannelForRequest (worlds i) channel modelID group with
    | .loaded current price => some (group, current, price)
    | .unmanaged | .unavailable => attestedAutoGroup worlds channel modelID groups (i + 1)

def enabledAutoGroup (worlds : ℕ → World) (channel : Channel) (modelID : String) :
    List String → ℕ → Except DistributeError String
  | [], _ => .error .outsideAutoGroups
  | group :: groups, i =>
    match isChannelEnabledForGroupModelDB (worlds i) group modelID channel.id with
    | .error e => .error (.autoGroupCheck e)
    | .ok true => .ok group
    | .ok false => enabledAutoGroup worlds channel modelID groups (i + 1)

section

variable (a : Arrival) (c : RequestContext)

def resolveDirectAutoGroup (channel : Channel) :
    Except DistributeError (RequestContext × Channel) :=
  if currentRoutingGroup c ≠ "auto" then .ok (c, channel)
  else
    let autoGroups := autoGroupsForRequest a.world c c.userGroup
    let c := freezeAutoGroups a.world c c.userGroup
    if (strictProviderIDForTag channel.tag).isSome then
      match attestedAutoGroup a.worlds channel a.modelName autoGroups 0 with
      | none => .error .managedOutsideAutoGroups
      | some (group, current, price) =>
        .ok (markManagedChannelDBValidated { c with autoGroup := some group } a.modelName price,
          current)
    else do
      let group ← enabledAutoGroup a.worlds channel a.modelName autoGroups 0
      .ok ({ c with autoGroup := some group }, channel)

/-- The channel that a token is tied to. -/
def directChannel (id : Option ℤ) : Except DistributeError (RequestContext × Channel) :=
  match id.bind a.world.db.channels.find? with
  | none => .error .invalidChannelId
  | some channel =>
    if channel.status ≠ .enabled then .error .channelDisabled
    else if !isAllowed c.allowedChannelIds channel.id then .error .referenceProtocol
    else resolveDirectAutoGroup a c channel

/-- The first automatic group in which affinity finds its channel. -/
def preferredAutoGroup (worlds : ℕ → World) (channel : Channel) (modelName : String) :
    List String → ℕ → Option String
  | [], _ => none
  | group :: groups, i =>
    if isChannelEnabledForGroupModel (worlds i) group modelName channel.id then some group
    else preferredAutoGroup worlds channel modelName groups (i + 1)

def markChannelAffinityUsed (channelID : ℤ) (skipRetry : Bool) : RequestContext :=
  if channelID ≤ 0 then c else { c with channelAffinitySkipRetry := skipRetry }

/-- The channel of affinity, if it may serve the request, with the context it leaves. -/
def preferredChannel : Except DistributeError (RequestContext × Option Channel) :=
  match a.preferred with
  | none => .ok (c, none)
  | some preferred =>
    if (strictProviderIDForTag preferred.tag).isSome ∨
        !isAllowed c.allowedChannelIds preferred.id then .ok (c, none)
    else if preferred.status ≠ .enabled then
      if !c.managedProvider && a.skipRetry then .error .channelDisabled else .ok (c, none)
    else if c.usingGroup = "auto" then
      let autoGroups := autoGroupsForRequest a.world c c.userGroup
      let c := freezeAutoGroups a.world c c.userGroup
      match preferredAutoGroup a.worlds preferred a.modelName autoGroups 0 with
      | none => .ok (c, none)
      | some group =>
        .ok (markChannelAffinityUsed { c with autoGroup := some group } preferred.id a.skipRetry,
          some preferred)
    else if isChannelEnabledForGroupModel a.world c.usingGroup a.modelName preferred.id then
      .ok (markChannelAffinityUsed c preferred.id a.skipRetry, some preferred)
    else .ok (c, none)

/-- The selector with its search for a managed channel that the database still attests. It is
`none` while the search goes on. -/
def cacheGetRandomSatisfiedChannel (param : RetryParam) :
    List Moment → RequestContext → Option (Except SelectError Selected)
  | [], _ => none
  | m :: moments, c =>
    match selectCachedChannel m.groupsWorld c param m.glances with
    | .error e => some (.error e)
    | .ok ⟨c, none, group⟩ => some (.ok ⟨c, none, group⟩)
    | .ok ⟨c, some channel, group⟩ =>
      match loadManagedRelayChannelForRequest m.loadWorld channel param.modelName group with
      | .unmanaged => some (.ok ⟨c, some channel, group⟩)
      | .loaded current price =>
        some (.ok ⟨markManagedChannelDBValidated c param.modelName price, some current, group⟩)
      | .unavailable =>
        cacheGetRandomSatisfiedChannel param moments { c with
          locallyExcludedChannels := c.locallyExcludedChannels ++ [channel.id]
          managedProvider := true }

/-- The channel that the distributor routes a request to; `none` while the selector searches. -/
def distributedChannel : Option (Except DistributeError (RequestContext × Channel)) :=
  match c.tokenSpecificChannelId with
  | some id => some (directChannel a c id)
  | none =>
    match preferredChannel a c with
    | .error e => some (.error e)
    | .ok (c, some channel) => some (.ok (c, channel))
    | .ok (c, none) =>
      (cacheGetRandomSatisfiedChannel ⟨c.usingGroup, a.modelName, c.allowedChannelIds, 0⟩
        a.moments c).map fun
      | .error e => .error (.select e)
      | .ok ⟨_, none, _⟩ => .error .noAvailableChannel
      | .ok ⟨c, some channel, _⟩ => .ok (c, channel)

def distribute : Option (Except DistributeError RequestContext) :=
  (distributedChannel a c).map fun routed => do
    let (c, channel) ← routed
    match setupContextForSelectedChannel a.setupWorld c channel a.modelName a.setupRefused with
    | .error e => .error (.setup e)
    | .ok (c, _) => .ok c

end

/-! ## The keys of automatic routing -/

/-- The keys of the context that automatic routing reads and writes, apart from the priorities. -/
structure AutoKeys where
  snapshot : Option (List String)
  group : Option String
  index : Option ℕ
  crossGroupRetry : Bool

def RequestContext.autoKeys (c : RequestContext) : AutoKeys :=
  ⟨c.autoGroupRouteSnapshot, c.autoGroup, c.autoGroupIndex, c.tokenCrossGroupRetry⟩

/-- The context names one of the groups `gs` of the request, and its cursor stands on it. -/
structure Placed (gs : List String) (c : RequestContext) (group : String) : Prop where
  snapshot : c.autoGroupRouteSnapshot = some gs
  autoGroup : c.autoGroup = some group
  getElem : gs[startGroupIndex c gs]? = some group

variable {c c' : RequestContext} {gs groups : List String} {group modelID modelName : String}
  {i : ℕ} {param : RetryParam} {glances : ℕ → Glance} {selected : Selected} {w : World}
  {worlds : ℕ → World} {channel : Channel} {a : Arrival}

theorem startGroupIndex_congr (h : c'.autoKeys = c.autoKeys)
    (gs : List String) : startGroupIndex c' gs = startGroupIndex c gs := by
  have hgroup : c'.autoGroup = c.autoGroup := (congrArg AutoKeys.group h :)
  have hindex : c'.autoGroupIndex = c.autoGroupIndex := (congrArg AutoKeys.index h :)
  simp only [startGroupIndex, hgroup, hindex]

theorem Placed.congr
    (h : Placed gs c group) (hkeys : c'.autoKeys = c.autoKeys) : Placed gs c' group where
  snapshot := (congrArg AutoKeys.snapshot hkeys :).trans h.snapshot
  autoGroup := (congrArg AutoKeys.group hkeys :).trans h.autoGroup
  getElem := by rw [startGroupIndex_congr hkeys]; exact h.getElem

/-- A group that was found in the list without an index is found again. -/
theorem placed_of_mem
    (hsnapshot : c.autoGroupRouteSnapshot = some gs) (hgroup : c.autoGroup = some group)
    (hindex : c.autoGroupIndex = none) (hmem : group ∈ gs) (hne : group ≠ "") :
    Placed gs c group := by
  refine ⟨hsnapshot, hgroup, ?_⟩
  have hsome : ((gs.findIdx? (· = group))).isSome := by
    rw [List.findIdx?_isSome, List.any_eq_true]
    exact ⟨group, hmem, by simp⟩
  obtain ⟨i, hi⟩ := Option.isSome_iff_exists.1 hsome
  obtain ⟨hlt, heq, -⟩ := List.findIdx?_eq_some_iff_getElem.1 hi
  simp only [startGroupIndex, hindex, hgroup, hne, if_false, hi, Option.getD_some]
  rw [List.getElem?_eq_getElem hlt]
  simpa using heq

theorem placed_of_index
    (hsnapshot : c.autoGroupRouteSnapshot = some gs) (hgroup : c.autoGroup = some group)
    (hindex : c.autoGroupIndex = some i) (hget : gs[i]? = some group) : Placed gs c group :=
  ⟨hsnapshot, hgroup, by simpa only [startGroupIndex, hindex] using hget⟩

/-! ## What a selection does to the keys -/

/-- A walk through `autoGroups`, the first of which has the index `i`, stops at a group in which it
found a channel, or its cursor moves on. -/
theorem keys_walkAutoGroups {excluded : List ℤ}
    {start last : ℕ} {autoGroups : List String} {priorityIndex : ℤ}
    (h : walkAutoGroups param excluded glances start last autoGroups i priorityIndex c = selected) :
    selected.context.autoGroupRouteSnapshot = c.autoGroupRouteSnapshot ∧
      selected.context.tokenCrossGroupRetry = c.tokenCrossGroupRetry ∧
      ((selected.channel = none ∧ selected.context.autoGroup = c.autoGroup ∧
          (selected.context.autoGroupIndex = c.autoGroupIndex ∨
            ∃ j, i ≤ j ∧ selected.context.autoGroupIndex = some j)) ∨
        ∃ k, autoGroups[k]? = some selected.group ∧
          selected.context.autoGroup = some selected.group ∧
          selected.context.autoGroupIndex = some (i + k)) := by
  induction autoGroups generalizing i priorityIndex c with
  | nil =>
    subst h
    exact ⟨rfl, rfl, .inl ⟨rfl, rfl, .inl rfl⟩⟩
  | cons autoGroup autoGroups ih =>
    simp only [walkAutoGroups] at h
    split at h
    next =>
      -- No channel in this group: the cursor may move to the next one.
      obtain ⟨hsnapshot, hcross, hcases⟩ := ih h
      refine ⟨?_, ?_, ?_⟩
      · rw [hsnapshot]
        split <;> rfl
      · rw [hcross]
        split <;> rfl
      · obtain ⟨hnone, hgroup, hindex⟩ | ⟨k, hk, hgroup, hindex⟩ := hcases
        · refine .inl ⟨hnone, ?_, ?_⟩
          · rw [hgroup]
            split <;> rfl
          · obtain hindex | ⟨j, hj, hindex⟩ := hindex
            · split at hindex
              · exact .inr ⟨i + 1, by omega, hindex⟩
              · exact .inl hindex
            · exact .inr ⟨j, by omega, hindex⟩
        · refine .inr ⟨k + 1, by simpa using hk, hgroup, ?_⟩
          rw [hindex, Option.some.injEq]
          omega
    next =>
      subst h
      exact ⟨rfl, rfl, .inr ⟨0, rfl, rfl, rfl⟩⟩

/-- A selection for a request of the group `auto` that was retried may not leave its group. -/
def Confined (c : RequestContext) (param : RetryParam) : Prop :=
  (0 < param.retry ∨ attemptedChannelIDs c ≠ []) ∧ c.tokenCrossGroupRetry = false

/-- **What a selection does to the keys.** It freezes the groups, and it stops at a group from the
cursor on, or its cursor moves on. -/
theorem keys_selectCachedChannel
    (h : selectCachedChannel w c param glances = .ok selected) (hauto : param.tokenGroup = "auto")
    (hgs : autoGroupsForRequest w c c.userGroup = gs) :
    selected.context.autoGroupRouteSnapshot = some gs ∧
      selected.context.tokenCrossGroupRetry = c.tokenCrossGroupRetry ∧
      ((selected.channel = none ∧ selected.context.autoGroup = c.autoGroup ∧
          (selected.context.autoGroupIndex = c.autoGroupIndex ∨
            ∃ j, startGroupIndex c gs ≤ j ∧ selected.context.autoGroupIndex = some j)) ∨
        ∃ i, startGroupIndex c gs ≤ i ∧ gs[i]? = some selected.group ∧
          selected.context.autoGroup = some selected.group ∧
          selected.context.autoGroupIndex = some i ∧
          (Confined c param → i = startGroupIndex c gs)) := by
  simp only [selectCachedChannel, if_pos hauto, selectAutoChannel, ite_error_eq_ok_iff, hgs] at h
  obtain ⟨-, h⟩ := h
  have hfrozen : (freezeAutoGroups w c c.userGroup).autoGroupRouteSnapshot = some gs :=
    congrArg some hgs
  split at h
  · cases h
    exact ⟨hfrozen, rfl, .inl ⟨rfl, rfl, .inl rfl⟩⟩
  · obtain ⟨hsnapshot, hcross, hcases⟩ := keys_walkAutoGroups (Except.ok.inj h)
    refine ⟨hsnapshot.trans hfrozen, hcross, ?_⟩
    obtain hnone | ⟨k, hk, hgroup, hindex⟩ := hcases
    · exact .inl hnone
    · rw [List.getElem?_drop, List.getElem?_take] at hk
      split at hk
      next hlt =>
        refine .inr ⟨_, Nat.le_add_right _ k, hk, hgroup, hindex, fun hconfined => ?_⟩
        -- A confined selection ends where it begins.
        rw [lastGroupIndex, if_pos ⟨hconfined.1, by simp [freezeAutoGroups, hconfined.2]⟩] at hlt
        omega
      next => cases hk

/-- What the steps of a request of the groups `gs` do to its context: its cursor never moves
back. -/
structure Moved (gs : List String) (c c' : RequestContext) : Prop where
  crossGroupRetry : c'.tokenCrossGroupRetry = c.tokenCrossGroupRetry
  start_le : startGroupIndex c gs ≤ startGroupIndex c' gs
  index_le : ∀ i, c.autoGroupIndex = some i → ∃ j, i ≤ j ∧ c'.autoGroupIndex = some j

namespace Moved

variable {gs : List String} {c c' c'' : RequestContext}

theorem of_autoKeys (h : c'.autoKeys = c.autoKeys) : Moved gs c c' where
  crossGroupRetry := (congrArg AutoKeys.crossGroupRetry h :)
  start_le := (startGroupIndex_congr h gs).ge
  index_le i hi := ⟨i, le_rfl, (congrArg AutoKeys.index h :).trans hi⟩

theorem trans (h : Moved gs c c') (h' : Moved gs c' c'') : Moved gs c c'' where
  crossGroupRetry := h'.crossGroupRetry.trans h.crossGroupRetry
  start_le := h.start_le.trans h'.start_le
  index_le i hi := by
    obtain ⟨j, hij, hj⟩ := h.index_le i hi
    obtain ⟨k, hjk, hk⟩ := h'.index_le j hj
    exact ⟨k, hij.trans hjk, hk⟩

/-- A cursor that was set from its own start on. -/
theorem of_index {j : ℕ} (hcross : c'.tokenCrossGroupRetry = c.tokenCrossGroupRetry)
    (hj : startGroupIndex c gs ≤ j) (hindex : c'.autoGroupIndex = some j) : Moved gs c c' where
  crossGroupRetry := hcross
  start_le := by simpa only [startGroupIndex, hindex] using hj
  index_le i hi := ⟨j, by simpa only [startGroupIndex, hi] using hj, hindex⟩

end Moved

/-- A selection moves a placed context on; where it finds a channel, the context is placed again,
and a confined one stays in its group. -/
theorem moved_selectCachedChannel
    (h : selectCachedChannel w c param glances = .ok selected) (hauto : param.tokenGroup = "auto")
    (hplaced : Placed gs c group) :
    Moved gs c selected.context ∧
      ((selected.channel = none ∧ selected.context.autoGroup = c.autoGroup) ∨
        (Placed gs selected.context selected.group ∧
          (Confined c param → selected.group = group))) := by
  have hgs : autoGroupsForRequest w c c.userGroup = gs := by
    simp [autoGroupsForRequest, hplaced.snapshot]
  obtain ⟨hsnapshot, hcross, ⟨hnone, hgroup, hindex⟩ | ⟨i, hle, hget, hgroup, hindex, hstay⟩⟩ :=
    keys_selectCachedChannel h hauto hgs
  · refine ⟨?_, .inl ⟨hnone, hgroup⟩⟩
    obtain hindex | ⟨j, hj, hindex⟩ := hindex
    · apply Moved.of_autoKeys
      rw [RequestContext.autoKeys, hsnapshot, hgroup, hindex, hcross, ← hplaced.snapshot]
      rfl
    · exact .of_index hcross hj hindex
  · refine ⟨.of_index hcross hle hindex,
      .inr ⟨placed_of_index hsnapshot hgroup hindex hget, fun hconfined => ?_⟩⟩
    rw [hstay hconfined, hplaced.getElem] at hget
    exact (Option.some.inj hget).symm

/-! ## The distributor places the request -/

theorem mem_of_attestedAutoGroup {current : Channel} {price : ChannelModelPriceSnapshot}
    (h : attestedAutoGroup worlds channel modelID groups i = some (group, current, price)) :
    group ∈ groups ∧ group ≠ "" := by
  induction groups generalizing i with
  | nil => cases h
  | cons first groups ih =>
    unfold attestedAutoGroup at h
    split at h
    next hloaded =>
      cases h
      refine ⟨List.mem_cons_self, ?_⟩
      rintro rfl
      -- The empty group is refused before the tables are read.
      have htrim : trimSpace "" = "" := by decide +kernel
      unfold loadManagedRelayChannelForRequest at hloaded
      split at hloaded
      · cases hloaded
      · simp [htrim] at hloaded
    all_goals
      obtain ⟨hmem, hne⟩ := ih h
      exact ⟨List.mem_cons_of_mem _ hmem, hne⟩

theorem mem_of_enabledAutoGroup (h : enabledAutoGroup worlds channel modelID groups i = .ok group) :
    group ∈ groups ∧ group ≠ "" := by
  induction groups generalizing i with
  | nil => cases h
  | cons first groups ih =>
    unfold enabledAutoGroup at h
    split at h
    · cases h
    next henabled =>
      cases h
      refine ⟨List.mem_cons_self, ?_⟩
      rintro rfl
      simp [isChannelEnabledForGroupModelDB] at henabled
    next =>
      obtain ⟨hmem, hne⟩ := ih h
      exact ⟨List.mem_cons_of_mem _ hmem, hne⟩

theorem mem_of_preferredAutoGroup
    (h : preferredAutoGroup worlds channel modelName groups i = some group) :
    group ∈ groups ∧ group ≠ "" := by
  induction groups generalizing i with
  | nil => cases h
  | cons first groups ih =>
    unfold preferredAutoGroup at h
    split at h
    next henabled =>
      cases h
      refine ⟨List.mem_cons_self, ?_⟩
      rintro rfl
      simp [isChannelEnabledForGroupModel] at henabled
    next =>
      obtain ⟨hmem, hne⟩ := ih h
      exact ⟨List.mem_cons_of_mem _ hmem, hne⟩

theorem autoKeys_setupContextForSelectedChannel {channel' : Channel} {refused : Bool}
    (h : setupContextForSelectedChannel w c channel modelName refused = .ok (c', channel')) :
    c'.autoKeys = c.autoKeys := by
  simp only [setupContextForSelectedChannel, except_bind_eq_ok_iff, Prod.exists,
    ite_error_eq_ok_iff] at h
  obtain ⟨c₁, channel₁, hvalid, -, heq⟩ := h
  cases heq
  unfold validateSelected at hvalid
  split at hvalid
  · split at hvalid
    · cases hvalid
    · cases hvalid
    · cases hvalid
      rfl
  · cases hvalid
    rfl

/-- A context that no automatic group was chosen for yet. -/
structure Unrouted (c : RequestContext) : Prop where
  autoGroup : c.autoGroup = none
  autoGroupIndex : c.autoGroupIndex = none
  usingGroup : c.usingGroup = "auto"

theorem placed_of_directChannel {id : Option ℤ}
    (hc : Unrouted c) (h : directChannel a c id = .ok (c', channel)) :
    ∃ gs group, Placed gs c' group := by
  unfold directChannel at h
  split at h
  · cases h
  simp only [ite_error_eq_ok_iff] at h
  obtain ⟨-, -, h⟩ := h
  have hgroup : ¬ currentRoutingGroup c ≠ "auto" := by
    simp [currentRoutingGroup, hc.autoGroup, hc.usingGroup]
  simp only [resolveDirectAutoGroup, if_neg hgroup] at h
  split at h
  · split at h
    · cases h
    next hattested =>
      cases h
      obtain ⟨hmem, hne⟩ := mem_of_attestedAutoGroup hattested
      exact ⟨_, _, placed_of_mem rfl rfl hc.autoGroupIndex hmem hne⟩
  · obtain ⟨group, henabled, heq⟩ := except_bind_eq_ok_iff.1 h
    cases heq
    obtain ⟨hmem, hne⟩ := mem_of_enabledAutoGroup henabled
    exact ⟨_, _, placed_of_mem rfl rfl hc.autoGroupIndex hmem hne⟩

/-- Affinity places the request, or it leaves it to the selector. -/
theorem placed_of_preferredChannel
    {channel : Option Channel} (hc : Unrouted c) (h : preferredChannel a c = .ok (c', channel)) :
    c'.usingGroup = "auto" ∧ (channel = none ∨ ∃ gs group, Placed gs c' group) := by
  unfold preferredChannel at h
  split at h
  · cases h
    exact ⟨hc.usingGroup, .inl rfl⟩
  · simp only [if_pos hc.usingGroup] at h
    split at h
    · cases h
      exact ⟨hc.usingGroup, .inl rfl⟩
    · split at h
      · split at h
        · cases h
        · cases h
          exact ⟨hc.usingGroup, .inl rfl⟩
      · split at h
        · cases h
          exact ⟨hc.usingGroup, .inl rfl⟩
        next hpreferred =>
          cases h
          obtain ⟨hmem, hne⟩ := mem_of_preferredAutoGroup hpreferred
          unfold markChannelAffinityUsed
          split <;>
            exact ⟨hc.usingGroup, .inr ⟨_, _, placed_of_mem rfl rfl hc.autoGroupIndex hmem hne⟩⟩

theorem placed_of_cacheGetRandomSatisfiedChannel {moments : List Moment}
    (hauto : param.tokenGroup = "auto")
    (h : cacheGetRandomSatisfiedChannel param moments c = some (.ok selected))
    (hchannel : selected.channel ≠ none) : ∃ gs group, Placed gs selected.context group := by
  induction moments generalizing c with
  | nil => cases h
  | cons m moments ih =>
    unfold cacheGetRandomSatisfiedChannel at h
    split at h
    · cases h
    · cases h
      exact absurd rfl hchannel
    next found group hselect =>
      obtain ⟨hsnapshot, -, ⟨hnone, -⟩ | ⟨i, -, hget, hgroup, hindex, -⟩⟩ :=
        keys_selectCachedChannel hselect hauto rfl
      · cases hnone
      have hplaced := placed_of_index hsnapshot hgroup hindex hget
      split at h
      · cases h
        exact ⟨_, _, hplaced⟩
      · cases h
        exact ⟨_, _, hplaced.congr rfl⟩
      · exact ih h

/-- **The distributor places a request of the group `auto`.** -/
theorem placed_of_distribute (hc : Unrouted c)
    (h : distribute a c = some (.ok c')) : ∃ gs group, Placed gs c' group := by
  obtain ⟨routed, hrouted, h⟩ := Option.map_eq_some_iff.1 h
  simp only [except_bind_eq_ok_iff, Prod.exists] at h
  obtain ⟨c₁, channel, rfl, h⟩ := h
  have hplaced : ∃ gs group, Placed gs c₁ group := by
    unfold distributedChannel at hrouted
    split at hrouted
    · exact placed_of_directChannel hc (Option.some.inj hrouted)
    · split at hrouted
      · cases hrouted
      next hpreferred =>
        cases hrouted
        exact (placed_of_preferredChannel hc hpreferred).2.resolve_left (Option.some_ne_none _)
      next hpreferred =>
        have husing := (placed_of_preferredChannel hc hpreferred).1
        obtain ⟨selection, hselection, heq⟩ := Option.map_eq_some_iff.1 hrouted
        split at heq
        · cases heq
        · cases heq
        · cases heq
          exact placed_of_cacheGetRandomSatisfiedChannel husing hselection (Option.some_ne_none _)
  obtain ⟨gs, group, hplaced⟩ := hplaced
  split at h
  · cases h
  next hsetup =>
    cases h
    exact ⟨gs, group, hplaced.congr (autoKeys_setupContextForSelectedChannel hsetup)⟩

end Mujian.Relay
