import Mujian.Relay.Authorization

/-!
# The routes that a price is authorized for

In every group that a request may be routed to, pricing lists the routes with their prices
(`routableChannelPriceViews`), drops those that cannot be used (`priceAuthorizableRoutes`), and
keeps those that the selector can reach within the retry budget (`reachablePriceRoutes`). Their
worst price is reserved, and they become the authorized routes.
-/

namespace Mujian.Relay

open Pricing

/-! ## Listing routes -/

structure RoutableChannelPriceView where
  channelID : ℤ
  channelTag : String
  priority : ℤ
  weight : ℕ
  price : Option ChannelModelPrice

/-- The view of an ability: its channel must be enabled, its price is that of an available
snapshot. -/
def routableView (db : RoutingDB) (modelID : String) (ability : Ability) :
    Option RoutableChannelPriceView :=
  match db.channels.find? ability.channelId with
  | none => none
  | some channel =>
    if channel.status = .enabled then
      some
        { channelID := channel.id
          channelTag := channel.tag, priority := ability.priority
          weight := ability.weight
          price := db.prices.find? fun p =>
            p.channelID = channel.id && p.catalogID = modelID && p.available && p.id ≠ 0 }
    else none

/-- The order of the listing: by priority, then by id. -/
def viewBefore (a b : RoutableChannelPriceView) : Bool :=
  b.priority < a.priority || (a.priority = b.priority && a.channelID ≤ b.channelID)

def listRoutableChannelPriceViewsForGroup (db : RoutingDB) (modelID group : String)
    (allowed : Option (List ℤ)) : Except PriceError (List RoutableChannelPriceView) :=
  let group := trimSpace group
  if group = "" ∨ allowed = some [] then .ok []
  else if db.refused then .error .database
  else
    .ok (((matchingAbilities db group modelID allowed []).filterMap
      (routableView db modelID)).insertionSort fun a b => viewBefore a b)

structure CachedChannelRoute where
  channelID : ℤ
  tag : String
  priority : ℤ
  weight : ℕ

section

variable (memoryCacheEnabled : Bool) (w : World) (routes : List RoutableChannelPriceView)
  (catalogID routingGroup : String)

def snapshotCachedChannelRoutes (group model : String) (allowed : Option (List ℤ)) :
    List CachedChannelRoute :=
  ((cachedChannelIDs w group model).filter (isAllowed allowed)).filterMap fun id =>
    match w.cache.channelsIDM.find? id with
    | none => none
    | some channel =>
      if channel.status = .enabled then some ⟨id, channel.tag, channel.priority, channel.weight⟩
      else none

/-- The database's view of a cached route, with the routing attributes of the cache; a route whose
tag has changed belongs to another generation and is dropped. -/
def mergeCachedRoute (views : List RoutableChannelPriceView) (cached : CachedChannelRoute) :
    Option RoutableChannelPriceView :=
  match views.find? fun view => view.channelID = cached.channelID with
  | none => none
  | some view =>
    if view.channelTag = cached.tag then
      some { view with priority := cached.priority, weight := cached.weight }
    else none

def routableChannelPriceViews (modelID group : String) (allowed : Option (List ℤ)) :
    Except PriceError (List RoutableChannelPriceView) :=
  if !w.memoryCacheEnabled then listRoutableChannelPriceViewsForGroup w.db modelID group allowed
  else
    let cachedRoutes := snapshotCachedChannelRoutes w group modelID allowed
    if cachedRoutes = [] then .ok []
    else do
      let views ← listRoutableChannelPriceViewsForGroup w.db modelID group
        (some (cachedRoutes.map (·.channelID)))
      .ok (cachedRoutes.filterMap (mergeCachedRoute views))

def isStrictClaudePriceProvider (provider : String) : Bool :=
  provider = "zenmux" || provider = "tabcode"

/-- The features of a request that strict Claude prices do not cover. -/
structure ClaudeFeatures where
  (webSearch unboundedMedia : Bool := false)

/-- A route that a price can be authorized for: a managed one has its price attested now. -/
def authorizableRoute (excluded : List ℤ)
    (features : ClaudeFeatures) (route : RoutableChannelPriceView) :
    Option RoutableChannelPriceView :=
  if route.channelID ∈ excluded then none
  else if route.price.any (fun p => isStrictClaudePriceProvider p.provider) ∧
      (features.webSearch ∨ features.unboundedMedia) then none
  else
    match strictProviderIDForTag route.channelTag, route.price with
    | none, _ => some route
    | some _, none => none
    | some _, some price =>
      match loadManagedRelayChannelForRequest w { id := route.channelID, tag := route.channelTag }
          catalogID routingGroup with
      | .loaded _ snapshot =>
        if snapshot.priceID = price.id then
          some { route with price := some (channelModelPriceFromRequestSnapshot snapshot) }
        else none
      | _ => none

def priceAuthorizableRoutes (excluded : List ℤ) (features : ClaudeFeatures) :
    List RoutableChannelPriceView :=
  routes.filterMap (authorizableRoute w catalogID routingGroup excluded features)

/-- The routes of a tier that can be chosen: where the cache selects, a channel without weight is
never chosen beside one with a weight. -/
def routesAtPriority (priority : ℤ) : List RoutableChannelPriceView :=
  let selected := tier RoutableChannelPriceView.priority priority routes
  if memoryCacheEnabled && selected.any (0 < ·.weight) then selected.filter (0 < ·.weight)
  else selected

def distinctRoutes : List RoutableChannelPriceView → List RoutableChannelPriceView
  | [] => []
  | route :: routes => route :: (distinctRoutes routes).filter (·.channelID ≠ route.channelID)

/-- The routes that the selector can reach from the initial channel with at most one retry; larger
budgets keep all routes. -/
def reachablePriceRoutes (initialChannelID : ℤ) (initialGroup : Bool) (retryBudget : ℤ) :
    List RoutableChannelPriceView :=
  if routes = [] ∨ initialChannelID ≤ 0 ∨ 1 < retryBudget then routes
  else
    let initial := routes.filter (·.channelID = initialChannelID)
    let remaining := routes.filter (·.channelID ≠ initialChannelID)
    let next := routesAtPriority memoryCacheEnabled remaining
      (highest RoutableChannelPriceView.priority remaining)
    match initialGroup, decide (retryBudget = 0) with
    | false, true => []
    | false, false => distinctRoutes next
    | true, true => distinctRoutes initial
    | true, false => distinctRoutes (initial ++ next)

end

/-! ## The scan of the groups -/

structure PricingRequest where
  info : RelayInfo
  allowedChannelIDs : Option (List ℤ)
  locallyExcludedChannelIDs : List ℤ
  promptTokens : ℤ
  tokenMeta : Option TokenCountMeta
  initialChannelID : ℤ
  initialManaged : Bool
  initialSnapshot : Option ChannelModelPriceSnapshot
  retryBudget : ℤ
  features : ClaudeFeatures

structure PriceScan where
  selected : PriceData := {}
  foundAny : Bool := false
  legacyFallback : Option PriceData := none
  requiresChannelBinding : Bool := false
  authorizedRoutes : List PriceAuthorizedRoute := []

/-- A dearer candidate is preferred, and among equals one that is not free. -/
def preferPreConsumeCandidate (candidate selected : PriceData) (selectedSet : Bool) : Bool :=
  !selectedSet || selected.quotaToPreConsume < candidate.quotaToPreConsume ||
    (candidate.quotaToPreConsume = selected.quotaToPreConsume && selected.freeModel &&
      !candidate.freeModel)

namespace PriceScan

section

variable (scan : PriceScan) (channelID : ℤ) (routingGroup : String) (candidate : PriceData)

def prefer : PriceScan :=
  if preferPreConsumeCandidate candidate scan.selected scan.foundAny then
    { scan with selected := candidate, foundAny := true }
  else scan

def authorize : PriceScan :=
  if channelID ≤ 0 ∨ ⟨channelID, routingGroup⟩ ∈ scan.authorizedRoutes then scan
  else { scan with authorizedRoutes := scan.authorizedRoutes ++ [⟨channelID, routingGroup⟩] }

/-- A route with a price of its own: it is authorized, and its price competes. -/
def priced : PriceScan :=
  ({ scan with requiresChannelBinding := true }.authorize channelID routingGroup).prefer candidate

end

end PriceScan

namespace PricingRequest

variable (w : World) (request : PricingRequest) (routingGroup : String)

def group : GroupRatioInfo := groupRatioInfo w.settings request.info.userGroup routingGroup

def candidate (price : ChannelModelPrice) : Except PriceError PriceData :=
  let (promptBound, completionBound) :=
    preConsumeTokenBounds w.settings request.promptTokens request.tokenMeta
  preConsumePriceFromSnapshot w.settings price (request.group w routingGroup)
    (priceMultiplier request.tokenMeta) promptBound completionBound

/-- The snapshot that the initial managed channel was attested with, if it is for this group. -/
def initialSnapshotIn : Option ChannelModelPriceSnapshot :=
  if request.initialManaged then
    request.initialSnapshot.filter fun snapshot =>
      0 < snapshot.priceID && snapshot.channelID = request.initialChannelID &&
        snapshot.catalogID = request.info.originModelName && snapshot.routingGroup = routingGroup
  else none

section

variable (scan : PriceScan) (route : RoutableChannelPriceView)
  (reachable : List RoutableChannelPriceView)

def priceInitialSnapshot : Except PriceError PriceScan :=
  match request.initialSnapshotIn routingGroup with
  | none => .ok scan
  | some snapshot => do
    let candidate ← request.candidate w routingGroup (channelModelPriceFromRequestSnapshot snapshot)
    .ok (scan.priced request.initialChannelID routingGroup candidate)

/-- An unpriced route of a managed channel is not authorized; any other one is priced by the
global model settings. -/
def priceRoute : Except PriceError PriceScan :=
  match route.price with
  | some price => do
    let candidate ← request.candidate w routingGroup price
    .ok (scan.priced route.channelID routingGroup candidate)
  | none =>
    if (strictProviderIDForTag route.channelTag).isSome then
      .ok { scan with requiresChannelBinding := true }
    else .ok (scan.authorize route.channelID routingGroup)

/-- Whether a route is priced by the global model settings. -/
def isLegacyRoute : Bool := route.price.isNone && (strictProviderIDForTag route.channelTag).isNone

/-- The initial channel when the routes of its group do not cover it. The flag says that it is
priced by the global model settings. -/
def priceInitialChannel (covered : Bool) (scan : PriceScan) :
    Except PriceError (PriceScan × Bool) :=
  if routingGroup ≠ request.info.usingGroup ∨ request.initialChannelID ≤ 0 ∨ covered then
    .ok (scan, false)
  else
    match getAvailableChannelModelPrice w.db request.initialChannelID
        request.info.originModelName with
    | .ok price => do
      let direct ← request.candidate w routingGroup price
      .ok (scan.priced request.initialChannelID routingGroup direct, false)
    | .error .database => .error .database
    | .error .recordNotFound =>
      if request.initialManaged then .ok ({ scan with requiresChannelBinding := true }, false)
      else .ok (scan.authorize request.initialChannelID routingGroup, true)

def priceLegacy (needsLegacy : Bool) (scan : PriceScan) : Except PriceError PriceScan :=
  if !needsLegacy then .ok scan
  else do
    let legacy ← legacyCatalogPreConsumePriceData w.settings request.info request.promptTokens
      request.tokenMeta (request.group w routingGroup)
    .ok ({ scan with legacyFallback := scan.legacyFallback.or (some legacy) }.prefer legacy)

def authorizableRoutes : Except PriceError (List RoutableChannelPriceView) := do
  let routes ← routableChannelPriceViews w request.info.originModelName routingGroup
    request.allowedChannelIDs
  .ok (priceAuthorizableRoutes w routes request.info.originModelName routingGroup
    request.locallyExcludedChannelIDs request.features)

/-- The routes among them that the selector can reach. -/
def reachableRoutes (routes : List RoutableChannelPriceView) : List RoutableChannelPriceView :=
  reachablePriceRoutes w.memoryCacheEnabled routes request.initialChannelID
    (routingGroup = request.info.usingGroup) request.retryBudget

/-- With one retry left, the scan stops at the first group that the retry can go to. -/
def stopsAtRetryFrontier : Bool := request.retryBudget = 1 && reachable.any fun route =>
    routingGroup ≠ request.info.usingGroup || route.channelID ≠ request.initialChannelID

def scanGroup : Except PriceError PriceScan := do
  let scan ← request.priceInitialSnapshot w routingGroup scan
  let scan ← reachable.foldlM (request.priceRoute w routingGroup) scan
  let covered := (request.initialSnapshotIn routingGroup).isSome ||
    reachable.any (·.channelID = request.initialChannelID)
  let (scan, directLegacy) ← request.priceInitialChannel w routingGroup covered scan
  request.priceLegacy w routingGroup (reachable.any isLegacyRoute || directLegacy) scan

end

end PricingRequest

def scanGroups (w : World) (request : PricingRequest) :
    List String → List String → PriceScan → Except PriceError PriceScan
  | [], _, scan => .ok scan
  | routingGroup :: groups, seen, scan =>
    if routingGroup ∈ seen then scanGroups w request groups seen scan
    else do
      let routes ← request.authorizableRoutes w routingGroup
      let reachable := request.reachableRoutes w routingGroup routes
      let scan ← request.scanGroup w routingGroup scan reachable
      if request.stopsAtRetryFrontier routingGroup reachable then .ok scan
      else scanGroups w request groups (routingGroup :: seen) scan

/-- The worst price of the reachable routes, bound to channels when one of them has a price of its
own or is managed. -/
def channelModelPreConsumePriceForGroups (w : World) (request : PricingRequest)
    (groups : List String) : Except PriceError PriceScan := do
  let scan ← scanGroups w request groups [] {}
  if scan.requiresChannelBinding ∧ !scan.foundAny then .error .managedPriceMissing
  else if scan.requiresChannelBinding then
    .ok { scan with selected := { scan.selected with channelSpecific := true } }
  else .ok { scan with legacyFallback := none }

/-! ## Which routes the scan authorizes -/

namespace PriceScan

@[simp] theorem authorizedRoutes_prefer (scan : PriceScan) (candidate : PriceData) :
    (scan.prefer candidate).authorizedRoutes = scan.authorizedRoutes := by
  unfold prefer
  split <;> rfl

variable {scan : PriceScan} {channelID : ℤ} {routingGroup : String} {route : PriceAuthorizedRoute}

theorem mem_authorize : route ∈ (scan.authorize channelID routingGroup).authorizedRoutes ↔
      route ∈ scan.authorizedRoutes ∨ 0 < channelID ∧ route = ⟨channelID, routingGroup⟩ := by
  unfold authorize
  split
  next h =>
    refine ⟨.inl, fun hmem => hmem.elim id ?_⟩
    rintro ⟨hpos, rfl⟩
    exact h.resolve_left (by omega)
  next h =>
    rw [not_or] at h
    simp [Int.not_le.1 h.1]

@[simp] theorem mem_priced {candidate : PriceData} :
    route ∈ (scan.priced channelID routingGroup candidate).authorizedRoutes ↔
      route ∈ scan.authorizedRoutes ∨ 0 < channelID ∧ route = ⟨channelID, routingGroup⟩ := by
  rw [priced, authorizedRoutes_prefer, mem_authorize]

end PriceScan

/-- A route that can be authorized: it has a price, or it is not managed. -/
def RoutableChannelPriceView.Priceable (route : RoutableChannelPriceView) : Prop :=
  route.price.isSome ∨ strictProviderIDForTag route.channelTag = none

variable {route : RoutableChannelPriceView} {routes : List RoutableChannelPriceView} {cached : Bool}

theorem priceable_of_authorizableRoute {w : World} {catalogID routingGroup : String}
    {excluded : List ℤ} {features : ClaudeFeatures} {route' : RoutableChannelPriceView}
    (h : authorizableRoute w catalogID routingGroup excluded features route = some route') :
    route'.Priceable := by
  unfold authorizableRoute at h
  split at h
  · cases h
  split at h
  · cases h
  split at h
  next htag =>
    cases h
    exact .inr htag
  next => cases h
  next =>
    split at h
    · split at h
      · cases h
        exact .inl rfl
      · cases h
    · cases h

theorem mem_of_mem_distinctRoutes (h : route ∈ distinctRoutes routes) : route ∈ routes := by
  induction routes with
  | nil => exact h
  | cons first routes ih =>
    rcases List.mem_cons.1 h with rfl | h
    · exact List.mem_cons_self
    · exact List.mem_cons_of_mem _ (ih (List.mem_filter.1 h).1)

theorem mem_of_mem_routesAtPriority {priority : ℤ}
    (h : route ∈ routesAtPriority cached routes priority) : route ∈ routes := by
  unfold routesAtPriority at h
  simp only at h
  split at h
  · exact (mem_tier.1 (List.mem_filter.1 h).1).1
  · exact (mem_tier.1 h).1

theorem mem_of_mem_reachablePriceRoutes {initialGroup : Bool} {initialChannelID retryBudget : ℤ}
    (h : route ∈ reachablePriceRoutes cached routes initialChannelID initialGroup retryBudget) :
    route ∈ routes := by
  unfold reachablePriceRoutes at h
  split at h
  · exact h
  split at h
  · cases h
  · exact (List.mem_filter.1 (mem_of_mem_routesAtPriority (mem_of_mem_distinctRoutes h))).1
  · exact (List.mem_filter.1 (mem_of_mem_distinctRoutes h)).1
  · rcases List.mem_append.1 (mem_of_mem_distinctRoutes h) with h | h
    · exact (List.mem_filter.1 h).1
    · exact (List.mem_filter.1 (mem_of_mem_routesAtPriority h)).1

namespace PricingRequest

variable {w : World} {request : PricingRequest} {routingGroup : String}
  {scan scan' : PriceScan} {reachable : List RoutableChannelPriceView}

theorem priceable_of_mem_reachableRoutes
    (hroutes : request.authorizableRoutes w routingGroup = .ok routes)
    (h : route ∈ request.reachableRoutes w routingGroup routes) : route.Priceable := by
  obtain ⟨views, -, heq⟩ := except_bind_eq_ok_iff.1 hroutes
  cases heq
  obtain ⟨view, -, hview⟩ := List.mem_filterMap.1 (mem_of_mem_reachablePriceRoutes h)
  exact priceable_of_authorizableRoute hview

variable {route : PriceAuthorizedRoute}

theorem mem_priceInitialSnapshot
    (h : request.priceInitialSnapshot w routingGroup scan = .ok scan') :
    route ∈ scan'.authorizedRoutes ↔ route ∈ scan.authorizedRoutes ∨
      (request.initialSnapshotIn routingGroup).isSome ∧ 0 < request.initialChannelID ∧
        route = ⟨request.initialChannelID, routingGroup⟩ := by
  unfold priceInitialSnapshot at h
  split at h
  next hnone =>
    cases h
    simp [hnone]
  next snapshot hsome =>
    obtain ⟨candidate, -, heq⟩ := except_bind_eq_ok_iff.1 h
    cases heq
    simp [hsome]

theorem mem_priceRoute {view : RoutableChannelPriceView}
    (h : request.priceRoute w routingGroup scan view = .ok scan') :
    route ∈ scan'.authorizedRoutes ↔ route ∈ scan.authorizedRoutes ∨
      view.Priceable ∧ 0 < view.channelID ∧ route = ⟨view.channelID, routingGroup⟩ := by
  unfold priceRoute at h
  split at h
  next price hprice =>
    obtain ⟨candidate, -, heq⟩ := except_bind_eq_ok_iff.1 h
    cases heq
    simp [RoutableChannelPriceView.Priceable, hprice]
  next hprice =>
    split at h
    next hstrict =>
      cases h
      simp [RoutableChannelPriceView.Priceable, hprice, Option.isSome_iff_ne_none.1 hstrict]
    next hstrict =>
      cases h
      simp only [Option.not_isSome_iff_eq_none] at hstrict
      simp [PriceScan.mem_authorize, RoutableChannelPriceView.Priceable, hstrict]

theorem mem_foldlM_priceRoute
    (h : reachable.foldlM (request.priceRoute w routingGroup) scan = .ok scan') :
    route ∈ scan'.authorizedRoutes ↔ route ∈ scan.authorizedRoutes ∨
      ∃ view ∈ reachable, view.Priceable ∧ 0 < view.channelID ∧
        route = ⟨view.channelID, routingGroup⟩ := by
  induction reachable generalizing scan with
  | nil =>
    cases h
    simp
  | cons view reachable ih =>
    rw [List.foldlM_cons, except_bind_eq_ok_iff] at h
    obtain ⟨scan₁, hview, hrest⟩ := h
    rw [ih hrest, mem_priceRoute hview]
    simp only [List.mem_cons, exists_eq_or_imp, or_assoc]

/-- The initial channel is authorized in its group when nothing covers it yet, unless it is managed
and has no price. -/
theorem mem_priceInitialChannel {covered legacy : Bool}
    (h : request.priceInitialChannel w routingGroup covered scan = .ok (scan', legacy)) :
    (∀ route ∈ scan.authorizedRoutes, route ∈ scan'.authorizedRoutes) ∧
      (∀ route ∈ scan'.authorizedRoutes, route ∈ scan.authorizedRoutes ∨
        0 < request.initialChannelID ∧ route = ⟨request.initialChannelID, routingGroup⟩) ∧
      (routingGroup = request.info.usingGroup → 0 < request.initialChannelID → covered = false →
        request.initialManaged = false →
          ⟨request.initialChannelID, routingGroup⟩ ∈ scan'.authorizedRoutes) := by
  unfold priceInitialChannel at h
  split at h
  next hskip =>
    cases h
    refine ⟨fun _ => id, fun _ => .inl, fun hgroup hpos hcovered => ?_⟩
    simp [hgroup, hcovered] at hskip
    omega
  next =>
    split at h
    next price _ =>
      obtain ⟨direct, -, heq⟩ := except_bind_eq_ok_iff.1 h
      cases heq
      exact ⟨fun _ h => PriceScan.mem_priced.2 (.inl h), fun _ => PriceScan.mem_priced.1,
        fun _ hpos _ _ => PriceScan.mem_priced.2 (.inr ⟨hpos, rfl⟩)⟩
    next => cases h
    next =>
      split at h
      next hmanaged =>
        cases h
        exact ⟨fun _ => id, fun _ => .inl,
          fun _ _ _ hnot => absurd hmanaged (by simp [hnot])⟩
      next =>
        cases h
        exact ⟨fun _ h => PriceScan.mem_authorize.2 (.inl h),
          fun _ => PriceScan.mem_authorize.1,
          fun _ hpos _ _ => PriceScan.mem_authorize.2 (.inr ⟨hpos, rfl⟩)⟩

theorem authorizedRoutes_priceLegacy {needsLegacy : Bool}
    (h : request.priceLegacy w routingGroup needsLegacy scan = .ok scan') :
    scan'.authorizedRoutes = scan.authorizedRoutes := by
  unfold priceLegacy at h
  split at h
  · cases h
    rfl
  · obtain ⟨legacy, -, heq⟩ := except_bind_eq_ok_iff.1 h
    cases heq
    simp

/-- **What the scan of a group authorizes**: its reachable routes, and in the group of the request
the initial channel; every new route is one of the group with a valid id. -/
theorem mem_scanGroup (h : request.scanGroup w routingGroup scan reachable = .ok scan') :
    (∀ route ∈ scan.authorizedRoutes, route ∈ scan'.authorizedRoutes) ∧
      (∀ route ∈ scan'.authorizedRoutes, route ∈ scan.authorizedRoutes ∨
        0 < route.channelID ∧ route.routingGroup = routingGroup) ∧
      (∀ view ∈ reachable, view.Priceable → 0 < view.channelID →
        ⟨view.channelID, routingGroup⟩ ∈ scan'.authorizedRoutes) ∧
      (routingGroup = request.info.usingGroup → 0 < request.initialChannelID →
        (∀ view ∈ reachable, view.Priceable) →
        (request.initialManaged = true → (request.initialSnapshotIn routingGroup).isSome) →
          ⟨request.initialChannelID, routingGroup⟩ ∈ scan'.authorizedRoutes) := by
  simp only [scanGroup, except_bind_eq_ok_iff, Prod.exists] at h
  obtain ⟨scan₁, h₁, scan₂, h₂, scan₃, legacy, h₃, h₄⟩ := h
  have hlegacy := authorizedRoutes_priceLegacy h₄
  obtain ⟨hmono, hnew, hinitial⟩ := mem_priceInitialChannel h₃
  refine ⟨fun route hmem => ?_, fun route hmem => ?_, fun view hview hpriceable hpos => ?_,
    fun hgroup hpos hall hmanaged => ?_⟩
  · rw [hlegacy]
    exact hmono _ ((mem_foldlM_priceRoute h₂).2
      (.inl ((mem_priceInitialSnapshot h₁).2 (.inl hmem))))
  · rw [hlegacy] at hmem
    rcases hnew _ hmem with hmem | ⟨hpos, rfl⟩
    · rcases (mem_foldlM_priceRoute h₂).1 hmem with hmem | ⟨view, _, _, hpos, rfl⟩
      · rcases (mem_priceInitialSnapshot h₁).1 hmem with hmem | ⟨_, hpos, rfl⟩
        · exact .inl hmem
        · exact .inr ⟨hpos, rfl⟩
      · exact .inr ⟨hpos, rfl⟩
    · exact .inr ⟨hpos, rfl⟩
  · rw [hlegacy]
    exact hmono _ ((mem_foldlM_priceRoute h₂).2
      (.inr ⟨view, hview, hpriceable, hpos, rfl⟩))
  · rw [hlegacy]
    by_cases hsnapshot : (request.initialSnapshotIn routingGroup).isSome
    · exact hmono _ ((mem_foldlM_priceRoute h₂).2
        (.inl ((mem_priceInitialSnapshot h₁).2 (.inr ⟨hsnapshot, hpos, rfl⟩))))
    by_cases hview : ∃ view ∈ reachable, view.channelID = request.initialChannelID
    · obtain ⟨view, hmem, hid⟩ := hview
      exact hmono _ ((mem_foldlM_priceRoute h₂).2
        (.inr ⟨view, hmem, hall view hmem, hid ▸ hpos, by rw [hid]⟩))
    · refine hinitial hgroup hpos ?_ ?_
      · simpa [hsnapshot] using hview
      · simpa using fun h => hsnapshot (hmanaged h)

end PricingRequest

section

variable {w : World} {request : PricingRequest}

variable {groups seen : List String} {scan scan' : PriceScan}

theorem scanGroups_cons_cases {routingGroup : String}
    (h : scanGroups w request (routingGroup :: groups) seen scan = .ok scan') :
    (routingGroup ∈ seen ∧ scanGroups w request groups seen scan = .ok scan') ∨
      (routingGroup ∉ seen ∧ ∃ routes scan₁,
        request.authorizableRoutes w routingGroup = .ok routes ∧
        request.scanGroup w routingGroup scan (request.reachableRoutes w routingGroup routes) =
          .ok scan₁ ∧
        (request.stopsAtRetryFrontier routingGroup
              (request.reachableRoutes w routingGroup routes) = true ∧ scan' = scan₁ ∨
          request.stopsAtRetryFrontier routingGroup
              (request.reachableRoutes w routingGroup routes) = false ∧
            scanGroups w request groups (routingGroup :: seen) scan₁ = .ok scan')) := by
  unfold scanGroups at h
  split at h
  next hseen => exact .inl ⟨hseen, h⟩
  next hseen =>
    simp only [except_bind_eq_ok_iff] at h
    obtain ⟨routes, hroutes, scan₁, hscan, h⟩ := h
    refine .inr ⟨hseen, routes, scan₁, hroutes, hscan, ?_⟩
    split at h
    next hstop =>
      cases h
      exact .inl ⟨hstop, rfl⟩
    next hstop => exact .inr ⟨by simpa using hstop, h⟩

section

variable (h : scanGroups w request groups seen scan = .ok scan')
include h

theorem scanGroups_mono : ∀ route ∈ scan.authorizedRoutes, route ∈ scan'.authorizedRoutes := by
  induction groups generalizing seen scan with
  | nil =>
    cases h
    exact fun _ => id
  | cons routingGroup groups ih =>
    intro route hmem
    obtain ⟨-, h⟩ | ⟨-, routes, scan₁, -, hscan, ⟨-, rfl⟩ | ⟨-, h⟩⟩ := scanGroups_cons_cases h
    · exact ih h route hmem
    · exact (PricingRequest.mem_scanGroup hscan).1 route hmem
    · exact ih h route ((PricingRequest.mem_scanGroup hscan).1 route hmem)

theorem scanGroups_sound : ∀ route ∈ scan'.authorizedRoutes, route ∈ scan.authorizedRoutes ∨
      0 < route.channelID ∧ route.routingGroup ∈ groups := by
  induction groups generalizing seen scan with
  | nil =>
    cases h
    exact fun _ => .inl
  | cons routingGroup groups ih =>
    intro route hmem
    obtain ⟨-, h⟩ | ⟨-, routes, scan₁, -, hscan, hrest⟩ := scanGroups_cons_cases h
    · exact (ih h route hmem).imp_right fun ⟨hpos, hg⟩ => ⟨hpos, List.mem_cons_of_mem _ hg⟩
    have hnew (hmem : route ∈ scan₁.authorizedRoutes) : route ∈ scan.authorizedRoutes ∨
        0 < route.channelID ∧ route.routingGroup ∈ routingGroup :: groups :=
      ((PricingRequest.mem_scanGroup hscan).2.1 route hmem).imp_right
        fun ⟨hpos, hg⟩ => ⟨hpos, hg ▸ List.mem_cons_self⟩
    obtain ⟨-, rfl⟩ | ⟨-, h⟩ := hrest
    · exact hnew hmem
    · rcases ih h route hmem with hmem | ⟨hpos, hg⟩
      · exact hnew hmem
      · exact .inr ⟨hpos, List.mem_cons_of_mem _ hg⟩

end

/-- The initial channel is authorized in its group, which is scanned first. -/
theorem initial_mem_scanGroups
    (h : scanGroups w request (request.info.usingGroup :: groups) [] {} = .ok scan)
    (hpos : 0 < request.initialChannelID) (hmanaged : request.initialManaged = true →
      (request.initialSnapshotIn request.info.usingGroup).isSome) :
    ⟨request.initialChannelID, request.info.usingGroup⟩ ∈ scan.authorizedRoutes := by
  obtain ⟨hseen, -⟩ | ⟨-, routes, scan₁, hroutes, hscan, hrest⟩ := scanGroups_cons_cases h
  · cases hseen
  have hinitial := (PricingRequest.mem_scanGroup hscan).2.2.2 rfl hpos
    (fun view hview => PricingRequest.priceable_of_mem_reachableRoutes hroutes hview) hmanaged
  obtain ⟨-, rfl⟩ | ⟨-, h⟩ := hrest
  · exact hinitial
  · exact scanGroups_mono h _ hinitial

theorem authorizedRoutes_of_preConsume
    (h : channelModelPreConsumePriceForGroups w request groups = .ok scan) :
    ∃ scan₀, scanGroups w request groups [] {} = .ok scan₀ ∧
      scan.authorizedRoutes = scan₀.authorizedRoutes := by
  simp only [channelModelPreConsumePriceForGroups, except_bind_eq_ok_iff,
    ite_error_eq_ok_iff] at h
  obtain ⟨scan₀, hscan, -, heq⟩ := h
  refine ⟨scan₀, hscan, ?_⟩
  split at heq <;> cases heq <;> rfl

end

end Mujian.Relay
