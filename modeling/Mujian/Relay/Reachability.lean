import Mujian.Relay.Routes

/-!
# The priced routes against the selector

The pricing scan computes by itself which routes a request can take with at most one retry
(`reachablePriceRoutes`), and where the retry can end up (`stopsAtRetryFrontier`). What the retry
selects is in the tier that pricing considers reachable (`exists_next_of_selected`), and in a group
with another route it does select (`exists_selected_of_remaining`). `selectable_authorized` puts
them together.
-/

namespace Mujian.Relay

open Pricing

/-! ## The retry among the listed routes -/

namespace PricingRequest

variable (w : World) (request : PricingRequest) (group : String)

def listedIDs : List ℤ :=
  match request.authorizableRoutes w group with
  | .ok routes => routes.map (·.channelID)
  | .error _ => []

def retryExclusions : List ℤ := request.locallyExcludedChannelIDs ++ [request.initialChannelID]

/-- The selection of the retry in a group, among the routes that pricing lists there. -/
def retrySelection (retry : ℤ) (draw : ℕ) : Selection :=
  getRandomSatisfiedChannelWithFilters w group request.info.originModelName retry
    (some (request.listedIDs w group)) request.retryExclusions draw

def remaining (routes : List RoutableChannelPriceView) : List RoutableChannelPriceView :=
  routes.filter (·.channelID ≠ request.initialChannelID)

end PricingRequest

section

variable {α : Type*} {p : α → ℤ} {l : List α} {excluded : List ℤ} {retry : ℤ}

/-- An exclusion restarts the walk through the tiers: the retry is in the highest one. -/
theorem tierIndex_of_excluded (hne : excluded ≠ []) (n : ℕ) :
    tierIndex excluded retry n = some 0 := by simp [tierIndex, hne]

theorem isTop_of_tierIndex {k : ℤ} (hne : excluded ≠ [])
    (h : (tierIndex excluded retry (priorities p l).length).bind ((priorities p l)[·]?) = some k) :
    IsTop p l k := by
  rw [tierIndex_of_excluded hne] at h
  cases hks : priorities p l with
  | nil => simp [hks] at h
  | cons k' ks =>
    obtain rfl : k' = k := by simpa [hks] using h
    exact isTop_of_head_priorities hks

theorem exists_tierIndex (p : α → ℤ) (retry : ℤ) (hne : excluded ≠ []) (hl : l ≠ []) :
    ∃ k, (tierIndex excluded retry (priorities p l).length).bind ((priorities p l)[·]?) = some k ∧
      tier p k l ≠ [] := by
  obtain ⟨x, hx⟩ := List.exists_mem_of_ne_nil l hl
  have hmem : p x ∈ priorities p l := mem_priorities.2 ⟨x, hx, rfl⟩
  have hk : (tierIndex excluded retry (priorities p l).length).bind ((priorities p l)[·]?) =
      some ((priorities p l).get ⟨0, List.length_pos_of_mem hmem⟩) := by
    rw [tierIndex_of_excluded hne]
    exact List.getElem?_eq_getElem _
  obtain ⟨⟨y, hy, heq⟩, -⟩ := isTop_of_tierIndex hne hk
  exact ⟨_, hk, List.ne_nil_of_mem (mem_tier.2 ⟨hy, heq⟩)⟩

end

/-! ## The choice in a tier -/

theorem exists_pickAbility {abilities : List Ability} (hne : abilities ≠ []) (draw : ℕ) :
    ∃ ability, pickAbility abilities draw = some ability := by
  obtain ⟨a, ha⟩ := List.exists_mem_of_ne_nil abilities hne
  have hmem : a.weight + 10 ∈ (abilities.insertionSort fun a b => b.weight ≤ a.weight).map
      fun a => a.weight + 10 := List.mem_map_of_mem ((List.mem_insertionSort _).2 ha)
  have hle := List.single_le_sum (fun _ _ => Nat.zero_le _) _ hmem
  exact exists_pickWeighted_mod (fun a : Ability => a.weight + 10) (Int.zero_le_ofNat 1)
    (by omega) draw

variable {channels : List Channel} {channel : Channel} {db : RoutingDB}
  {modelID catalogID routingGroup group : String} {ability : Ability}
  {view route : RoutableChannelPriceView} {w : World} {excluded : List ℤ}
  {features : ClaudeFeatures}

theorem sum_smoothedWeight_pos (hne : channels ≠ []) :
    0 < (channels.map (smoothedWeight channels)).sum := by
  rw [Nat.pos_iff_ne_zero, ne_eq, List.sum_eq_zero_iff]
  intro hzero
  obtain ⟨channel, hchannel⟩ := List.exists_mem_of_ne_nil channels hne
  by_cases hsum : (channels.map Channel.weight).sum = 0
  · have h := hzero _ (List.mem_map_of_mem hchannel)
    simp [smoothedWeight, hsum] at h
  · apply hsum
    rw [List.sum_eq_zero_iff]
    intro weight hweight
    obtain ⟨channel', hchannel', rfl⟩ := List.mem_map.1 hweight
    have h := hzero _ (List.mem_map_of_mem hchannel')
    simp only [smoothedWeight, hsum, if_false] at h
    split at h
    · simpa using h
    · exact h

theorem exists_pickChannel (hne : channels ≠ []) (draw : ℕ) :
    ∃ channel, pickChannel channels draw = some channel :=
  exists_pickWeighted_mod (smoothedWeight channels) le_rfl (sum_smoothedWeight_pos hne) draw

/-- A channel without a weight is not chosen beside one with a weight. -/
theorem weight_pos_of_pickChannel {draw : ℕ} {channel' : Channel}
    (h : pickChannel channels draw = some channel) (hmem : channel' ∈ channels)
    (hpos : 0 < channel'.weight) : 0 < channel.weight := by
  have hsmoothed := pos_of_pickWeighted (Int.natCast_nonneg _) h
  have hsum : (channels.map Channel.weight).sum ≠ 0 := by
    intro hzero
    have h := List.sum_eq_zero_iff.1 hzero _ (List.mem_map_of_mem hmem)
    omega
  simp only [smoothedWeight, hsum, if_false] at hsmoothed
  split at hsmoothed
  · simpa using hsmoothed
  · exact Int.natCast_pos.1 hsmoothed

/-! ## Where the listed routes come from -/

section

variable (h : routableView db modelID ability = some view)
include h

theorem routableView_cases :
    view.channelID = ability.channelId ∧ view.priority = ability.priority := by
  unfold routableView at h
  split at h
  · cases h
  next channel hfind =>
    split at h
    · cases h
      exact ⟨Table.key_of_find? hfind, rfl⟩
    · cases h

theorem routableView_congr {ability' : Ability} (hid : ability'.channelId = ability.channelId) :
    routableView db modelID ability' =
      some { view with priority := ability'.priority, weight := ability'.weight } := by
  unfold routableView at h ⊢
  rw [hid]
  split at h
  · cases h
  next channel hfind =>
    split at h
    next henabled =>
      cases h
      simp only [henabled, if_true]
    next => cases h

end

section

variable (h : authorizableRoute w catalogID routingGroup excluded features view = some route)
include h

theorem authorizableRoute_cases :
    view.channelID ∉ excluded ∧ route = { view with price := route.price } := by
  unfold authorizableRoute at h
  split at h
  · cases h
  next hexcluded =>
    refine ⟨hexcluded, ?_⟩
    split at h
    · cases h
    split at h
    · cases h
      rfl
    · cases h
    · split at h
      · split at h
        · cases h
          rfl
        · cases h
      · cases h

/-- Whether a route can be authorized does not depend on its priority and weight. -/
theorem authorizableRoute_congr (priority : ℤ) (weight : ℕ) :
    authorizableRoute w catalogID routingGroup excluded features
        { view with priority := priority, weight := weight } =
      some { route with priority := priority, weight := weight } := by
  unfold authorizableRoute at h ⊢
  simp only at h ⊢
  split at h
  · cases h
  next hexcluded =>
    rw [if_neg hexcluded]
    split at h
    · cases h
    next hfeatures =>
      rw [if_neg hfeatures]
      split at h
      · cases h
        rfl
      · cases h
      · split at h
        · split at h
          next hid =>
            cases h
            simp only [hid, if_true]
          next => cases h
        · cases h

end

/-- The listing has the views of the matching abilities, unless it is empty from the start. -/
theorem mem_listRoutable {allowed : Option (List ℤ)} {views : List RoutableChannelPriceView}
    (h : listRoutableChannelPriceViewsForGroup db modelID group allowed = .ok views)
    (hne : views ≠ []) :
    db.refused = false ∧ ∀ view, view ∈ views ↔
      ∃ ability ∈ matchingAbilities db (trimSpace group) modelID allowed [],
        routableView db modelID ability = some view := by
  unfold listRoutableChannelPriceViewsForGroup at h
  simp only at h
  split at h
  · cases h
    exact absurd rfl hne
  · obtain ⟨hrefused, heq⟩ := ite_error_eq_ok_iff.1 h
    cases heq
    refine ⟨by simpa using hrefused, fun view => ?_⟩
    rw [List.mem_insertionSort, List.mem_filterMap]

namespace PricingRequest

variable {w : World} {request : PricingRequest} {group : String}
  {routes : List RoutableChannelPriceView}

variable {route : RoutableChannelPriceView} {id retry : ℤ} {draw : ℕ} {channel : Channel}
  {model : String} {allowed : Option (List ℤ)} {excluded : List ℤ} {channels : List Channel}

theorem mem_remaining : route ∈ request.remaining routes ↔
      route ∈ routes ∧ route.channelID ≠ request.initialChannelID := by simp [remaining]

theorem mem_retryExclusions : id ∈ request.retryExclusions ↔
      id ∈ request.locallyExcludedChannelIDs ∨ id = request.initialChannelID := by
  simp [retryExclusions]

theorem retryExclusions_ne_nil : request.retryExclusions ≠ [] := by simp [retryExclusions]

theorem mem_authorizableRoutes (hroutes : request.authorizableRoutes w group = .ok routes) :
    ∃ views, routableChannelPriceViews w request.info.originModelName group
        request.allowedChannelIDs = .ok views ∧
      ∀ route, route ∈ routes ↔ ∃ view ∈ views, authorizableRoute w request.info.originModelName
        group request.locallyExcludedChannelIDs request.features view = some route := by
  obtain ⟨views, hviews, heq⟩ := except_bind_eq_ok_iff.1 hroutes
  cases heq
  exact ⟨views, hviews, fun route => List.mem_filterMap⟩

/-! ## The candidates of the database -/

def retryAbilities (w : World) (request : PricingRequest) (group : String)
    (routes : List RoutableChannelPriceView) : List Ability :=
  matchingAbilities w.db group request.info.originModelName (some (routes.map (·.channelID)))
    request.retryExclusions

theorem retryAbilities_iff_remaining (hcache : w.memoryCacheEnabled = false)
    (htrim : trimSpace group = group) (hroutes : request.authorizableRoutes w group = .ok routes) :
    (∀ ability ∈ retryAbilities w request group routes, ∃ route ∈ request.remaining routes,
        route.channelID = ability.channelId ∧ route.priority = ability.priority) ∧
      ∀ route ∈ request.remaining routes, ∃ ability ∈ retryAbilities w request group routes,
        ability.channelId = route.channelID ∧ ability.priority = route.priority := by
  obtain ⟨views, hviews, hmem⟩ := mem_authorizableRoutes hroutes
  rw [routableChannelPriceViews, if_pos (by simp [hcache])] at hviews
  refine ⟨fun ability hability => ?_, fun route hroute => ?_⟩
  · simp only [retryAbilities, matchingAbilities, isAllowed, List.mem_filter, Bool.and_eq_true,
      decide_eq_true_eq] at hability
    obtain ⟨hrow, ⟨⟨⟨hgroup, hmodel⟩, henabled⟩, hlisted⟩, hexcluded⟩ := hability
    obtain ⟨route₀, hroute₀, hid₀⟩ := List.mem_map.1 hlisted
    obtain ⟨view₀, hview₀, hauth₀⟩ := (hmem route₀).1 hroute₀
    obtain ⟨-, hlist⟩ := mem_listRoutable hviews (List.ne_nil_of_mem hview₀)
    obtain ⟨ability₀, hability₀, hrouted₀⟩ := (hlist view₀).1 hview₀
    have hid : ability.channelId = ability₀.channelId := by
      rw [← hid₀, (authorizableRoute_cases hauth₀).2, ← (routableView_cases hrouted₀).1]
    -- The row of the candidate gives a listed view of the same channel with its own priority.
    have hview : { view₀ with priority := ability.priority, weight := ability.weight } ∈ views := by
      refine (hlist _).2 ⟨ability, ?_, routableView_congr hrouted₀ hid⟩
      simp only [matchingAbilities, List.mem_filter, Bool.and_eq_true,
        decide_eq_true_eq] at hability₀ ⊢
      refine ⟨hrow, ⟨⟨⟨⟨?_, hmodel⟩, henabled⟩, ?_⟩, by simp⟩⟩
      · rw [htrim, hgroup]
      · rw [hid]
        exact hability₀.2.1.2
    refine ⟨_, mem_remaining.2 ⟨(hmem _).2 ⟨_, hview, authorizableRoute_congr hauth₀ _ _⟩, ?_⟩,
      hid₀, rfl⟩
    intro heq
    rw [← hid₀] at hexcluded
    exact hexcluded (mem_retryExclusions.2 (.inr heq))
  · obtain ⟨hroute, hne⟩ := mem_remaining.1 hroute
    obtain ⟨view, hview, hauth⟩ := (hmem route).1 hroute
    obtain ⟨hexcluded, heq⟩ := authorizableRoute_cases hauth
    obtain ⟨-, hlist⟩ := mem_listRoutable hviews (List.ne_nil_of_mem hview)
    obtain ⟨ability, hability, hrouted⟩ := (hlist view).1 hview
    obtain ⟨hid, hpriority⟩ := routableView_cases hrouted
    have hid' : ability.channelId = route.channelID := by rw [heq, ← hid]
    refine ⟨ability, ?_, hid', by rw [heq, ← hpriority]⟩
    simp only [retryAbilities, matchingAbilities, isAllowed, List.mem_filter, Bool.and_eq_true,
      decide_eq_true_eq, htrim] at hability ⊢
    refine ⟨hability.1, ⟨⟨hability.2.1.1, ?_⟩, ?_⟩⟩
    · rw [hid']
      exact List.mem_map_of_mem hroute
    · rw [hid', mem_retryExclusions]
      rintro (hmem' | hinitial)
      · exact hexcluded (by rw [hid, hid']; exact hmem')
      · exact hne hinitial

/-! ## The candidates of the cache -/

/-- With the cache on, a listed route has the priority and the weight of its cached channel. -/
theorem cached_of_mem_routes (hcache : w.memoryCacheEnabled = true)
    (hroutes : request.authorizableRoutes w group = .ok routes) (hroute : route ∈ routes) :
    route.channelID ∈ cachedChannelIDs w group request.info.originModelName ∧
      route.channelID ∉ request.locallyExcludedChannelIDs ∧
      ∃ channel, w.cache.channelsIDM.find? route.channelID = some channel ∧
        route.priority = channel.priority ∧ route.weight = channel.weight := by
  obtain ⟨views, hviews, hmem⟩ := mem_authorizableRoutes hroutes
  obtain ⟨view, hview, hauth⟩ := (hmem route).1 hroute
  obtain ⟨hexcluded, heq⟩ := authorizableRoute_cases hauth
  rw [heq]
  suffices hcached : view.channelID ∈ cachedChannelIDs w group request.info.originModelName ∧
      ∃ channel, w.cache.channelsIDM.find? view.channelID = some channel ∧
        view.priority = channel.priority ∧ view.weight = channel.weight from
    ⟨hcached.1, hexcluded, hcached.2⟩
  rw [routableChannelPriceViews, if_neg (by simp [hcache])] at hviews
  simp only at hviews
  split at hviews
  · cases hviews
    cases hview
  obtain ⟨listed, -, hmerged⟩ := except_bind_eq_ok_iff.1 hviews
  cases hmerged
  obtain ⟨cached, hcached, hmerge⟩ := List.mem_filterMap.1 hview
  obtain ⟨id, hid, hsnapshot⟩ := List.mem_filterMap.1 hcached
  split at hsnapshot
  · cases hsnapshot
  next channel hfind =>
    split at hsnapshot
    · cases hsnapshot
      unfold mergeCachedRoute at hmerge
      split at hmerge
      · cases hmerge
      next found hfound =>
        split at hmerge
        · cases hmerge
          have hfoundID : found.channelID = id := by simpa using List.find?_some hfound
          rw [hfoundID]
          exact ⟨(List.mem_filter.1 hid).1, channel, hfind, rfl, rfl⟩
        · cases hmerge
    · cases hsnapshot

theorem exists_cachedChannels {cache : ChannelCache} {ids : List ℤ}
    (h : ∀ id ∈ ids, ∃ channel, cache.channelsIDM.find? id = some channel) :
    ∃ channels, cachedChannels cache ids = .ok channels := by
  induction ids with
  | nil => exact ⟨[], rfl⟩
  | cons id ids ih =>
    obtain ⟨channel, hfind⟩ := h id List.mem_cons_self
    obtain ⟨channels, hchannels⟩ := ih fun i hi => h i (List.mem_cons_of_mem _ hi)
    exact ⟨channel :: channels, by simp only [cachedChannels, hfind, hchannels]; rfl⟩

def retryCandidates (w : World) (request : PricingRequest) (group : String)
    (routes : List RoutableChannelPriceView) : List ℤ :=
  cachedCandidates w group request.info.originModelName (some (routes.map (·.channelID)))
    request.retryExclusions

theorem mem_retryCandidates : id ∈ retryCandidates w request group routes ↔
      id ∈ cachedChannelIDs w group request.info.originModelName ∧
        (∃ route ∈ routes, route.channelID = id) ∧ id ∉ request.retryExclusions := by
  simp only [retryCandidates, cachedCandidates, isAllowed, List.mem_filter, Bool.and_eq_true,
    decide_eq_true_eq, List.mem_map]

/-- With the cache on, the candidates of the retry are the remaining routes, with their priorities
and weights. -/
theorem retryCandidates_iff_remaining (hcache : w.memoryCacheEnabled = true)
    (hroutes : request.authorizableRoutes w group = .ok routes) :
    ∃ channels, cachedChannels w.cache (retryCandidates w request group routes) = .ok channels ∧
      (∀ channel ∈ channels, ∃ route ∈ request.remaining routes,
        route.channelID = channel.id ∧ route.priority = channel.priority ∧
          route.weight = channel.weight) ∧
      ∀ route ∈ request.remaining routes, ∃ channel ∈ channels, channel.id = route.channelID ∧
        channel.priority = route.priority ∧ channel.weight = route.weight := by
  have hfound : ∀ id ∈ retryCandidates w request group routes,
      ∃ channel, w.cache.channelsIDM.find? id = some channel := by
    intro id hid
    obtain ⟨-, ⟨route, hroute, rfl⟩, -⟩ := mem_retryCandidates.1 hid
    obtain ⟨-, -, channel, hfind, -⟩ := cached_of_mem_routes hcache hroutes hroute
    exact ⟨channel, hfind⟩
  obtain ⟨channels, hchannels⟩ := exists_cachedChannels hfound
  obtain ⟨hids, hrows⟩ := cachedChannels_mem hchannels
  refine ⟨channels, hchannels, fun channel hchannel => ?_, fun route hroute => ?_⟩
  · have hid : channel.id ∈ retryCandidates w request group routes :=
      hids ▸ List.mem_map_of_mem hchannel
    obtain ⟨-, ⟨route, hroute, heq⟩, hexcluded⟩ := mem_retryCandidates.1 hid
    obtain ⟨-, -, channel', hfind, hpriority, hweight⟩ := cached_of_mem_routes hcache hroutes hroute
    obtain rfl : channel = channel' := by
      rw [heq, hrows channel hchannel] at hfind
      exact Option.some.inj hfind
    refine ⟨route, mem_remaining.2 ⟨hroute, fun hinitial => hexcluded ?_⟩, heq, hpriority, hweight⟩
    rw [← heq]
    exact mem_retryExclusions.2 (.inr hinitial)
  · obtain ⟨hroute, hne⟩ := mem_remaining.1 hroute
    obtain ⟨hcached, hlocal, channel, hfind, hpriority, hweight⟩ :=
      cached_of_mem_routes hcache hroutes hroute
    have hid : route.channelID ∈ channels.map Channel.id := by
      rw [hids, mem_retryCandidates]
      refine ⟨hcached, ⟨route, hroute, rfl⟩, fun hmem => ?_⟩
      exact (mem_retryExclusions.1 hmem).elim hlocal hne
    obtain ⟨channel', hchannel', heq⟩ := List.mem_map.1 hid
    obtain rfl : channel' = channel := by
      have hrow := hrows channel' hchannel'
      rw [heq, hfind] at hrow
      exact (Option.some.inj hrow).symm
    exact ⟨channel', hchannel', heq, hpriority.symm, hweight.symm⟩

/-! ## The selection of the retry -/

theorem listedIDs_eq (hroutes : request.authorizableRoutes w group = .ok routes) :
    request.listedIDs w group = routes.map (·.channelID) := by rw [listedIDs, hroutes]

def next (w : World) (request : PricingRequest) (routes : List RoutableChannelPriceView) :
    List RoutableChannelPriceView :=
  routesAtPriority w.memoryCacheEnabled (request.remaining routes)
    (highest RoutableChannelPriceView.priority (request.remaining routes))

theorem exists_next_of_database (hcache : w.memoryCacheEnabled = false)
    (htrim : trimSpace group = group) (hroutes : request.authorizableRoutes w group = .ok routes)
    (h : (request.retrySelection w group retry draw).channel = some channel) :
    ∃ route ∈ next w request routes, route.channelID = channel.id := by
  rw [retrySelection, listedIDs_eq hroutes, getRandomSatisfiedChannelWithFilters,
    if_neg (by simp [hcache])] at h
  obtain ⟨ability, hability, hid, htier⟩ := getChannelWithFilters_cases h
  obtain ⟨hto, hfrom⟩ := retryAbilities_iff_remaining hcache htrim hroutes
  have htop : IsTop RoutableChannelPriceView.priority (request.remaining routes)
      ability.priority :=
    (isTop_of_tierIndex retryExclusions_ne_nil htier).transfer
      (fun a ha => (hto a ha).imp fun _ hr => ⟨hr.1, hr.2.2⟩)
      (fun r hr => (hfrom r hr).imp fun _ ha => ⟨ha.1, ha.2.2⟩)
  obtain ⟨route, hroute, hrouteID, hpriority⟩ := hto ability hability
  have hhighest := htop.unique (isTop_highest (List.ne_nil_of_mem hroute))
  refine ⟨route, ?_, hrouteID.trans hid⟩
  simp only [next, hcache]
  exact mem_tier.2 ⟨hroute, hpriority.trans hhighest⟩

/-- What the cached selector guarantees of its choice among several candidates or the only one. -/
theorem top_of_cachedChannelWithFilters (hne : excluded ≠ [])
    (hchannels : cachedChannels w.cache (cachedCandidates w group model allowed excluded) =
      .ok channels)
    (h : (cachedChannelWithFilters w group model retry allowed excluded draw).channel =
      some channel) :
    channel ∈ channels ∧ IsTop Channel.priority channels channel.priority ∧
      ∀ other ∈ channels, other.priority = channel.priority → 0 < other.weight →
        0 < channel.weight := by
  obtain ⟨channels', hchannels', hmem, hcase⟩ := cachedChannelWithFilters_cases h
  obtain rfl : channels = channels' := Except.ok.inj (hchannels.symm.trans hchannels')
  refine ⟨hmem, ?_⟩
  obtain rfl | ⟨k, hk, hpick⟩ := hcase
  · refine ⟨⟨⟨channel, hmem, rfl⟩, by simp⟩, fun other hother _ hpos => ?_⟩
    rwa [List.mem_singleton.1 hother] at hpos
  · obtain ⟨-, rfl⟩ := mem_tier.1 (mem_of_pickWeighted hpick)
    exact ⟨isTop_of_tierIndex hne hk, fun other hother hpriority hpos =>
      weight_pos_of_pickChannel hpick (mem_tier.2 ⟨hother, hpriority⟩) hpos⟩

theorem exists_next_of_cache (hcache : w.memoryCacheEnabled = true)
    (hroutes : request.authorizableRoutes w group = .ok routes)
    (h : (request.retrySelection w group retry draw).channel = some channel) :
    ∃ route ∈ next w request routes, route.channelID = channel.id := by
  rw [retrySelection, listedIDs_eq hroutes, getRandomSatisfiedChannelWithFilters,
    if_pos hcache] at h
  obtain ⟨channels, hchannels, hto, hfrom⟩ := retryCandidates_iff_remaining hcache hroutes
  obtain ⟨hmem, htop, hweight⟩ := top_of_cachedChannelWithFilters retryExclusions_ne_nil hchannels h
  obtain ⟨route, hroute, hid, hpriority, hrouteWeight⟩ := hto channel hmem
  have hhighest : channel.priority =
      highest RoutableChannelPriceView.priority (request.remaining routes) :=
    (htop.transfer (fun c hc => (hto c hc).imp fun _ hr => ⟨hr.1, hr.2.2.1⟩)
      (fun r hr => (hfrom r hr).imp fun _ hc => ⟨hc.1, hc.2.2.1⟩)).unique
      (isTop_highest (List.ne_nil_of_mem hroute))
  have htier := mem_tier.2 ⟨hroute, hpriority.trans hhighest⟩
  refine ⟨route, ?_, hid⟩
  simp only [next, routesAtPriority, hcache]
  split
  next hany =>
    -- Some route of the tier has a weight, so the chosen channel has one.
    obtain ⟨other, hother, hpos⟩ := List.any_eq_true.1 hany
    obtain ⟨hother, hotherPriority⟩ := mem_tier.1 hother
    obtain ⟨channel', hchannel', -, hpriority', hweight'⟩ := hfrom other hother
    refine List.mem_filter.2 ⟨htier, ?_⟩
    rw [decide_eq_true_eq, hrouteWeight]
    refine hweight channel' hchannel' ?_ ?_
    · rw [hpriority', hotherPriority, hhighest]
    · rw [hweight']
      simpa using hpos
  next => exact htier

/-- **What the retry selects, pricing has considered**: with the cache on or off and for every
random number, the channel is in the tier that pricing computes. -/
theorem exists_next_of_selected (htrim : trimSpace group = group)
    (hroutes : request.authorizableRoutes w group = .ok routes)
    (h : (request.retrySelection w group retry draw).channel = some channel) :
    ∃ route ∈ next w request routes, route.channelID = channel.id := by
  cases hcache : w.memoryCacheEnabled with
  | false => exact exists_next_of_database hcache htrim hroutes h
  | true => exact exists_next_of_cache hcache hroutes h

/-- The database selector returns a channel whenever a row matches. -/
theorem exists_getChannelWithFilters (hallowed : allowed ≠ some [])
    (hrefused : db.refused = false) (hne : excluded ≠ [])
    (hrows : matchingAbilities db group model allowed excluded ≠ []) (retry : ℤ) (draw : ℕ) :
    ∃ channel, (getChannelWithFilters db group model retry allowed excluded draw).channel =
      some channel := by
  obtain ⟨k, hk, htier⟩ := exists_tierIndex Ability.priority retry hne hrows
  obtain ⟨picked, hpicked⟩ := exists_pickAbility htier draw
  unfold getChannelWithFilters
  rw [if_neg hallowed, if_neg (by simp [hrefused])]
  simp only
  split
  next hnone =>
    rw [hk] at hnone
    cases hnone
  next k' hk' =>
    obtain rfl : k = k' := Option.mem_unique hk hk'
    simp only [hpicked]
    split <;> exact ⟨_, rfl⟩

/-- The cached selector returns a channel whenever its candidates are cached. -/
theorem exists_cachedChannelWithFilters (hne : excluded ≠ [])
    (hchannels : cachedChannels w.cache (cachedCandidates w group model allowed excluded) =
      .ok channels) (hrows : channels ≠ []) (retry : ℤ) (draw : ℕ) :
    ∃ channel, (cachedChannelWithFilters w group model retry allowed excluded draw).channel =
      some channel := by
  have hcandidates : cachedCandidates w group model allowed excluded ≠ [] := by
    rw [← (cachedChannels_mem hchannels).1]
    simpa using hrows
  unfold cachedChannelWithFilters
  rw [if_neg hcandidates, hchannels]
  split
  next heq => cases heq
  next single _ => exact ⟨single, rfl⟩
  next several _ heq =>
    cases heq
    obtain ⟨k, hk, htier⟩ := exists_tierIndex Channel.priority retry hne hrows
    obtain ⟨picked, hpicked⟩ := exists_pickChannel htier draw
    simp only [pickCached, hk, hpicked]
    exact ⟨picked, rfl⟩

/-- **Where a route remains, the retry selects**: the scan may stop at such a group. -/
theorem exists_selected_of_remaining (htrim : trimSpace group = group)
    (hroutes : request.authorizableRoutes w group = .ok routes)
    (hroute : route ∈ request.remaining routes) (retry : ℤ) (draw : ℕ) :
    ∃ channel, (request.retrySelection w group retry draw).channel = some channel := by
  obtain ⟨hlisted, -⟩ := mem_remaining.1 hroute
  rw [retrySelection, listedIDs_eq hroutes, getRandomSatisfiedChannelWithFilters]
  cases hcache : w.memoryCacheEnabled with
  | false =>
    obtain ⟨ability, hability, -⟩ :=
      (retryAbilities_iff_remaining hcache htrim hroutes).2 route hroute
    obtain ⟨views, hviews, hmem⟩ := mem_authorizableRoutes hroutes
    obtain ⟨view, hview, -⟩ := (hmem route).1 hlisted
    rw [routableChannelPriceViews, if_pos (by simp [hcache])] at hviews
    exact exists_getChannelWithFilters (by simpa using List.ne_nil_of_mem hlisted)
      (mem_listRoutable hviews (List.ne_nil_of_mem hview)).1 retryExclusions_ne_nil
      (List.ne_nil_of_mem hability) retry draw
  | true =>
    obtain ⟨channels, hchannels, -, hfrom⟩ := retryCandidates_iff_remaining hcache hroutes
    obtain ⟨channel, hchannel, -⟩ := hfrom route hroute
    exact exists_cachedChannelWithFilters retryExclusions_ne_nil hchannels
      (List.ne_nil_of_mem hchannel) retry draw

/-! ## The reachable routes -/

theorem exists_distinctRoutes (h : route ∈ routes) :
    ∃ route' ∈ distinctRoutes routes, route'.channelID = route.channelID := by
  induction routes with
  | nil => cases h
  | cons first routes ih =>
    rcases List.mem_cons.1 h with rfl | h
    · exact ⟨route, List.mem_cons_self, rfl⟩
    · obtain ⟨route', hroute', hid⟩ := ih h
      by_cases hfirst : first.channelID = route.channelID
      · exact ⟨first, List.mem_cons_self, hfirst⟩
      · refine ⟨route', List.mem_cons_of_mem _ (List.mem_filter.2 ⟨hroute', ?_⟩), hid⟩
        rw [decide_eq_true_eq, hid]
        exact fun heq => hfirst heq.symm

theorem reachableRoutes_of_one (hpos : 0 < request.initialChannelID)
    (hbudget : request.retryBudget = 1) (hne : routes ≠ []) :
    request.reachableRoutes w group routes =
      distinctRoutes (if group = request.info.usingGroup then
        routes.filter (·.channelID = request.initialChannelID) ++ next w request routes
        else next w request routes) := by
  rw [reachableRoutes, reachablePriceRoutes, if_neg (by simp [hne]; omega)]
  by_cases hgroup : group = request.info.usingGroup <;> simp [hbudget, hgroup, next, remaining]

theorem mem_of_mem_next (h : route ∈ next w request routes) : route ∈ request.remaining routes :=
  mem_of_mem_routesAtPriority h

theorem exists_reachable_of_next (hpos : 0 < request.initialChannelID)
    (hbudget : request.retryBudget = 1) (h : route ∈ next w request routes) :
    ∃ route' ∈ request.reachableRoutes w group routes, route'.channelID = route.channelID := by
  have hne : routes ≠ [] := List.ne_nil_of_mem (mem_remaining.1 (mem_of_mem_next h)).1
  rw [reachableRoutes_of_one hpos hbudget hne]
  refine exists_distinctRoutes ?_
  split
  · exact List.mem_append_right _ h
  · exact h

theorem exists_remaining_of_stops (hpos : 0 < request.initialChannelID)
    (hbudget : request.retryBudget = 1)
    (h : request.stopsAtRetryFrontier group (request.reachableRoutes w group routes) = true) :
    ∃ route, route ∈ request.remaining routes := by
  simp only [stopsAtRetryFrontier, Bool.and_eq_true, List.any_eq_true, Bool.or_eq_true,
    decide_eq_true_eq] at h
  obtain ⟨-, route, hroute, hother⟩ := h
  have hne : routes ≠ [] := List.ne_nil_of_mem (mem_of_mem_reachablePriceRoutes hroute)
  rw [reachableRoutes_of_one hpos hbudget hne] at hroute
  have hmem := mem_of_mem_distinctRoutes hroute
  by_cases hgroup : group = request.info.usingGroup
  · rw [if_pos hgroup] at hmem
    refine ⟨route, mem_remaining.2 ⟨?_, hother.resolve_left (absurd hgroup)⟩⟩
    rcases List.mem_append.1 hmem with hmem | hmem
    · exact (List.mem_filter.1 hmem).1
    · exact (mem_remaining.1 (mem_of_mem_next hmem)).1
  · rw [if_neg hgroup] at hmem
    exact ⟨route, mem_of_mem_next hmem⟩

/-- A listed initial channel is among the reachable routes of its group, whatever the budget. -/
theorem exists_reachable_initial (hroute : route ∈ routes)
    (hid : route.channelID = request.initialChannelID) :
    ∃ route' ∈ request.reachableRoutes w request.info.usingGroup routes,
      route'.channelID = request.initialChannelID := by
  have hinitial : route ∈ routes.filter (·.channelID = request.initialChannelID) :=
    List.mem_filter.2 ⟨hroute, decide_eq_true hid⟩
  unfold reachableRoutes reachablePriceRoutes
  split
  · exact ⟨route, hroute, hid⟩
  · simp only [decide_true]
    split
    next heq _ => cases heq
    next heq _ => cases heq
    · exact (exists_distinctRoutes hinitial).imp fun _ h => ⟨h.1, h.2.trans hid⟩
    · exact (exists_distinctRoutes (List.mem_append_left _ hinitial)).imp
        fun _ h => ⟨h.1, h.2.trans hid⟩

end PricingRequest

/-! ## Selection along the scan -/

/-- What the retry selects in a group, after nothing in the groups before it, was authorized: the
scan did not stop before it. -/
theorem selected_mem_scanGroups {request : PricingRequest} {groups seen : List String}
    {scan scan' : PriceScan} (h : scanGroups w request groups seen scan = .ok scan')
    (hpos : 0 < request.initialChannelID) (hbudget : request.retryBudget = 1)
    (htrim : ∀ group ∈ groups, trimSpace group = group) {retry : ℤ} {draw : String → ℕ}
    {before after : List String} (hgroups : groups = before ++ group :: after)
    (hseen : group ∉ seen)
    (hbefore : ∀ g ∈ before, (request.retrySelection w g retry (draw g)).channel = none)
    (hselected : (request.retrySelection w group retry (draw group)).channel = some channel) :
    ∃ routes, request.authorizableRoutes w group = .ok routes ∧
      (∃ route ∈ request.reachableRoutes w group routes, route.channelID = channel.id) ∧
      (0 < channel.id → ⟨channel.id, group⟩ ∈ scan'.authorizedRoutes) := by
  induction groups generalizing seen scan before with
  | nil => cases before <;> cases hgroups
  | cons first groups ih =>
    cases before with
    | nil =>
      obtain ⟨rfl, rfl⟩ := List.cons.inj hgroups
      obtain ⟨hmem, -⟩ | ⟨-, routes, scan₁, hroutes, hscan, hrest⟩ := scanGroups_cons_cases h
      · exact absurd hmem hseen
      obtain ⟨next, hnext, hid⟩ := PricingRequest.exists_next_of_selected
        (htrim first List.mem_cons_self) hroutes hselected
      obtain ⟨route, hroute, hrouteID⟩ := PricingRequest.exists_reachable_of_next hpos hbudget hnext
      rw [hid] at hrouteID
      refine ⟨routes, hroutes, ⟨route, hroute, hrouteID⟩, fun hchannel => ?_⟩
      have hauth := (PricingRequest.mem_scanGroup hscan).2.2.1 route hroute
        (PricingRequest.priceable_of_mem_reachableRoutes hroutes hroute) (hrouteID ▸ hchannel)
      rw [hrouteID] at hauth
      obtain ⟨-, rfl⟩ | ⟨-, h⟩ := hrest
      · exact hauth
      · exact scanGroups_mono h _ hauth
    | cons first' before =>
      obtain ⟨rfl, rfl⟩ := List.cons.inj hgroups
      have hnone := hbefore first List.mem_cons_self
      have hne : group ≠ first := by
        rintro rfl
        rw [hselected] at hnone
        cases hnone
      have htrim' := fun g hg => htrim g (List.mem_cons_of_mem _ hg)
      have hbefore' := fun g hg => hbefore g (List.mem_cons_of_mem _ hg)
      obtain ⟨-, h⟩ | ⟨-, routes, scan₁, hroutes, -, ⟨hstop, -⟩ | ⟨-, h⟩⟩ := scanGroups_cons_cases h
      · exact ih h htrim' rfl hseen hbefore'
      · -- The scan cannot stop here: a route remains, so the retry would have selected.
        obtain ⟨route, hroute⟩ := PricingRequest.exists_remaining_of_stops hpos hbudget hstop
        obtain ⟨other, hother⟩ := PricingRequest.exists_selected_of_remaining
          (htrim first List.mem_cons_self) hroutes hroute retry (draw first)
        rw [hother] at hnone
        cases hnone
      · exact ih h htrim' rfl (by simp [hne, hseen]) hbefore'

/-- **Reachability for pricing agrees with selection among the listed routes.** The initial channel
is authorized, and reachable for pricing if it is listed. Among the routes that pricing lists, the
one retry selects a channel that is reachable for pricing in a group before the scan stops, and so
an authorized one. -/
theorem selectable_authorized (w : World) (request : PricingRequest) (groups : List String)
    (scan : PriceScan)
    (hscan : channelModelPreConsumePriceForGroups w request (request.info.usingGroup :: groups) =
      .ok scan)
    (hbudget : request.retryBudget ≤ 1) (hpos : 0 < request.initialChannelID)
    (hmanaged : request.initialManaged = true →
      (request.initialSnapshotIn request.info.usingGroup).isSome)
    (htrim : ∀ group ∈ request.info.usingGroup :: groups, trimSpace group = group) :
    ⟨request.initialChannelID, request.info.usingGroup⟩ ∈ scan.authorizedRoutes ∧
      (∀ routes, request.authorizableRoutes w request.info.usingGroup = .ok routes →
        ∀ route ∈ routes, route.channelID = request.initialChannelID →
          ∃ route' ∈ request.reachableRoutes w request.info.usingGroup routes,
            route'.channelID = request.initialChannelID) ∧
      (0 < request.retryBudget → ∀ (retry : ℤ) (draw : String → ℕ) (before after : List String)
        (group : String) (channel : Channel),
        request.info.usingGroup :: groups = before ++ group :: after →
        (∀ g ∈ before, (request.retrySelection w g retry (draw g)).channel = none) →
        (request.retrySelection w group retry (draw group)).channel = some channel →
        ∃ routes, request.authorizableRoutes w group = .ok routes ∧
          (∃ route ∈ request.reachableRoutes w group routes, route.channelID = channel.id) ∧
          (0 < channel.id → ⟨channel.id, group⟩ ∈ scan.authorizedRoutes)) := by
  obtain ⟨scan₀, hscan₀, hroutes⟩ := authorizedRoutes_of_preConsume hscan
  rw [hroutes]
  refine ⟨initial_mem_scanGroups hscan₀ hpos hmanaged, fun routes _ route hroute hid =>
    PricingRequest.exists_reachable_initial hroute hid, ?_⟩
  intro hretry retry draw before after group channel hgroups hbefore hselected
  exact selected_mem_scanGroups hscan₀ hpos (by omega) htrim hgroups List.not_mem_nil hbefore
    hselected

def sampleRequest : PricingRequest where
  info := { usingGroup := "default", originModelName := "deepseek-v4-flash" }
  allowedChannelIDs := none
  locallyExcludedChannelIDs := []
  promptTokens := 1000
  tokenMeta := some ⟨500, 1⟩
  initialChannelID := 7
  initialManaged := false
  initialSnapshot := none
  retryBudget := 1
  features := {}

/-- The retry of the sample request is on the channel 8, which is authorized. -/
theorem selectable_authorized_sample :
    ∃ scan, channelModelPreConsumePriceForGroups sampleWorld sampleRequest ["default"] = .ok scan ∧
      (sampleRequest.retrySelection sampleWorld "default" 1 0).channel =
        some { id := 8, status := .enabled } ∧
      ⟨8, "default"⟩ ∈ scan.authorizedRoutes := by
  cases hscan : channelModelPreConsumePriceForGroups sampleWorld sampleRequest ["default"] with
  | error e =>
    have hok : (channelModelPreConsumePriceForGroups sampleWorld sampleRequest
        ["default"]).toBool = true := by decide +kernel
    rw [hscan] at hok
    cases hok
  | ok scan =>
    have hselected : (sampleRequest.retrySelection sampleWorld "default" 1 0).channel =
        some { id := 8, status := .enabled } := by decide +kernel
    have htrim : ∀ group ∈ ["default"], trimSpace group = group := by decide
    obtain ⟨-, -, hretry⟩ := selectable_authorized sampleWorld sampleRequest [] scan hscan le_rfl
      (by decide) nofun htrim
    obtain ⟨_, -, -, hauth⟩ := hretry (by decide) 1 (fun _ => 0) [] [] "default" _ rfl nofun
      hselected
    exact ⟨scan, rfl, hselected, hauth (by decide)⟩

/-- The sample tables, with an ability that is still enabled of a channel that is not. -/
def disabledChannelWorld : World :=
  { sampleWorld with
    db := { sampleWorld.db with
      channels :=
        ⟨[{ id := 7, status := .enabled }, { id := 8, status := .manuallyDisabled }], by decide⟩ } }

/-- The database selector returns on the retry a channel that is not enabled, not reachable for
pricing and not authorized. -/
theorem disabled_channel_selectable :
    (getRandomSatisfiedChannelWithFilters disabledChannelWorld "default" "deepseek-v4-flash" 1
        sampleRequest.allowedChannelIDs sampleRequest.retryExclusions 0).channel.map Channel.id =
      some 8 ∧
    (sampleRequest.authorizableRoutes disabledChannelWorld "default").map (fun routes =>
      (sampleRequest.reachableRoutes disabledChannelWorld "default" routes).map (·.channelID)) =
      .ok [7] ∧
    (channelModelPreConsumePriceForGroups disabledChannelWorld sampleRequest ["default"]).map
      PriceScan.authorizedRoutes = .ok [⟨7, "default"⟩] := by decide +kernel

end Mujian.Relay
