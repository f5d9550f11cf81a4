import Mujian.Relay.Distributor

/-!
# Automatic groups through the retries

The price of a request of the group `auto` is taken in the group that the distributor has chosen,
and the retries walk on through the automatic groups from there. `Routed` is what the loop keeps,
and `autoGroup_retries_priced` draws the conclusion for a request from its distribution on.
-/

namespace Mujian.Relay

open Pricing

structure KeepsRoute (c : RequestContext) (info : RelayInfo) (c' : RequestContext)
    (info' : RelayInfo) : Prop where
  autoKeys : c'.autoKeys = c.autoKeys
  skipRetry : shouldSkipRetryAfterChannelAffinityFailure c' =
    shouldSkipRetryAfterChannelAffinityFailure c
  usingGroup : info'.usingGroup = info.usingGroup
  tokenGroup : info'.tokenGroup = info.tokenGroup
  userGroup : info'.userGroup = info.userGroup
  channelMeta : info'.channelMeta = info.channelMeta

section

variable {w : World} {retryTimes : ℤ} {c c' : RequestContext} {info info' : RelayInfo}
  {body : RequestBody} {gs : List String} {group : String} {ratio : GroupRatioInfo}

theorem keepsRoute_legacyModelPrice
    (h : legacyModelPrice w c info body ratio = .ok (c', info')) : KeepsRoute c info c' info' := by
  obtain ⟨data, -, heq⟩ := except_bind_eq_ok_iff.1 h
  cases heq
  exact ⟨rfl, rfl, rfl, rfl, rfl, rfl⟩

section

variable (hplaced : Placed gs c group)
include hplaced

theorem pricingGroups_of_placed (budget : ℤ) : (pricingGroups w c info budget).2 = c := by
  unfold pricingGroups
  split
  · -- freezing the groups of a placed context changes nothing
    cases c
    cases hplaced.snapshot
    rfl
  · rfl

theorem keepsRoute_catalogModelPrice
    (h : catalogModelPrice w retryTimes c info body ratio = .ok (c', info')) :
    KeepsRoute c info c' info' := by
  simp only [catalogModelPrice, except_bind_eq_ok_iff, pricingGroups_of_placed hplaced] at h
  obtain ⟨allowed, -, features, -, scan, -, h⟩ := h
  split at h
  · obtain ⟨hne, h⟩ := ite_error_eq_ok_iff.1 h
    cases h
    simp only [bindPriceAuthorizationBounds, if_neg hne]
    exact ⟨rfl, rfl, rfl, rfl, rfl, rfl⟩
  · exact keepsRoute_legacyModelPrice h

/-- **Pricing takes the price of a placed request in the group it was routed to.** -/
theorem keepsRoute_modelPriceHelper
    (h : modelPriceHelper w retryTimes c info body = .ok (c', info')) :
    KeepsRoute c { info with usingGroup := group } c' info' := by
  simp only [modelPriceHelper, except_bind_eq_ok_iff, Prod.exists] at h
  obtain ⟨c₁, info₁, hupstream, h⟩ := h
  have hkeeps : KeepsRoute c { info with usingGroup := group } c₁ info₁ := by
    simp only [upstreamModelPriceHelper, handleGroupRatio, hplaced.autoGroup] at hupstream
    split at hupstream
    · exact keepsRoute_legacyModelPrice hupstream
    · exact keepsRoute_catalogModelPrice hplaced hupstream
  split at h
  · cases h
    exact hkeeps
  · obtain ⟨retail, -, heq⟩ := except_bind_eq_ok_iff.1 h
    cases heq
    obtain ⟨hkeys, hskip, husing, htoken, huser, hmeta⟩ := hkeeps
    cases retail <;> exact ⟨hkeys, hskip, husing, htoken, huser, hmeta⟩

end

end

/-- Before the first attempt the request is on the channel of the distributor, and a selection is a
retry that the settings allow. `skip` says that affinity forbade retries when the price was
taken. -/
def Scheduled (retryTimes : ℤ) (skip : Bool) (s : State) : Prop :=
  match s.phase with
  | .next _ => s.attempts.length ≤ s.param.retry ∧
      (s.info.channelMeta = none ∧
          (skip = true → shouldSkipRetryAfterChannelAffinityFailure s.context = true) ∨
        0 < s.param.retry ∧ skip = false)
  | .selecting => s.attempts.length ≤ s.param.retry ∧ 0 < s.param.retry ∧
      s.param.retry ≤ retryTimes ∧ skip = false
  | .done _ => True

variable {retryTimes : ℤ}

theorem Scheduled.selecting {skip : Bool} {s : State}
    (h : Scheduled retryTimes skip s) (hphase : s.phase = .selecting) :
    s.attempts.length ≤ s.param.retry ∧ 0 < s.param.retry ∧ s.param.retry ≤ retryTimes ∧
      skip = false := by simpa only [Scheduled, hphase] using h

/-- What a step does apart from selecting: it keeps the keys of the context `c`. -/
structure Forward (retryTimes : ℤ) (skip : Bool) (c : RequestContext) (s s' : State) : Prop where
  autoKeys : s'.context.autoKeys = c.autoKeys
  tokenGroup : s'.param.tokenGroup = s.param.tokenGroup
  scheduled : Scheduled retryTimes skip s'

section

variable {retryTimes : ℤ} {skip : Bool} {m : Moment} {s : State} {gs : List String}
  {group : String}

variable {c : RequestContext} {s₀ : State}

theorem forward_afterAttempt (hkeys : s.context.autoKeys = c.autoKeys) (hparam : s.param = s₀.param)
    (hcount : s.attempts.length ≤ s.param.retry + 1) (hretry : 0 ≤ s.param.retry)
    (hskip : skip = true → shouldSkipRetryAfterChannelAffinityFailure s.context = true) :
    Forward retryTimes skip c s₀ (s.afterAttempt retryTimes m) := by
  unfold State.afterAttempt
  split
  · exact ⟨hkeys, by simp only [hparam], trivial⟩
  · split
    · exact ⟨hkeys, by simp only [hparam], trivial⟩
    next hagain =>
      refine ⟨hkeys, ?_, hcount, .inr ⟨?_, ?_⟩⟩
      · simp only [State.increaseRetry, hparam]
      · simp only [State.increaseRetry]
        omega
      · -- Affinity that forbids retries has ended the loop.
        by_contra hon
        simp [shouldRetry, hskip (by simpa using hon)] at hagain

theorem forward_tryChannel {channelID : ℤ}
    {reject : PriceError → State → State} (hkeys : s.context.autoKeys = c.autoKeys)
    (hparam : s.param = s₀.param) (hcount : s.attempts.length ≤ s.param.retry)
    (hskip : skip = true → shouldSkipRetryAfterChannelAffinityFailure s.context = true)
    (hreject : ∀ e, Forward retryTimes skip c s₀ (reject e s)) :
    Forward retryTimes skip c s₀ (s.tryChannel retryTimes m channelID reject) := by
  unfold State.tryChannel
  split
  · unfold State.attempt
    split
    · exact ⟨hkeys, by simp only [hparam], trivial⟩
    · refine forward_afterAttempt hkeys hparam ?_ ?_ hskip
      · simpa using hcount
      · simp only
        omega
  · exact hreject _

theorem forward_rejectInitial (e : PriceError)
    (hkeys : s.context.autoKeys = c.autoKeys) (hparam : s.param = s₀.param)
    (hcount : s.attempts.length ≤ s.param.retry)
    (hskip : skip = true → shouldSkipRetryAfterChannelAffinityFailure s.context = true) :
    Forward retryTimes skip c s₀ (s.rejectInitial retryTimes e) := by
  unfold State.rejectInitial
  split
  · exact ⟨hkeys, by simp only [hparam], trivial⟩
  next hgo =>
    simp only [Bool.or_eq_true, decide_eq_true_eq, not_or] at hgo
    refine ⟨hkeys, ?_, ?_, ?_, ?_, ?_⟩
    · simp only [State.increaseRetry, hparam]
    · simp only [State.increaseRetry]
      omega
    · simp only [State.increaseRetry]
      omega
    · simp only [State.increaseRetry]
      omega
    · by_contra hon
      exact hgo.1.2 (hskip (by simpa using hon))

theorem forward_rejectSelected (channelID : ℤ) (e : PriceError)
    (hkeys : s.context.autoKeys = c.autoKeys) (hparam : s.param = s₀.param)
    (hcount : s.attempts.length ≤ s.param.retry) (hoff : skip = false) :
    Forward retryTimes skip c s₀ (s.rejectSelected retryTimes channelID e) := by
  unfold State.rejectSelected
  simp only
  split
  · exact ⟨hkeys, by simp only [hparam], trivial⟩
  next hgo =>
    refine ⟨hkeys, ?_, ?_, ?_, ?_, hoff⟩
    · simp only [State.increaseRetry, hparam]
    · simp only [State.increaseRetry]
      omega
    · simp only [State.increaseRetry]
      omega
    · simp only [State.increaseRetry]
      omega

theorem forward_begin {last : Option NewAPIError} (hphase : s.phase = .next last)
    (h : Scheduled retryTimes skip s) :
    Forward retryTimes skip s.context s (s.begin retryTimes m last) := by
  simp only [Scheduled, hphase] at h
  obtain ⟨hcount, hcases⟩ := h
  unfold State.begin
  split
  · exact ⟨rfl, rfl, trivial⟩
  next hbudget =>
    simp only
    split
    next hmeta =>
      have hskip : skip = true → shouldSkipRetryAfterChannelAffinityFailure s.context = true := by
        intro hon
        obtain ⟨-, hskip⟩ | ⟨-, hoff⟩ := hcases
        · exact hskip hon
        · rw [hon] at hoff
          cases hoff
      exact forward_tryChannel rfl rfl hcount hskip fun e =>
        forward_rejectInitial e rfl rfl hcount hskip
    next hmeta =>
      obtain ⟨hnone, -⟩ | ⟨hpos, hoff⟩ := hcases
      · exact absurd hnone hmeta
      · refine ⟨rfl, rfl, hcount, hpos, ?_, hoff⟩
        simp only
        omega

theorem forward_trySelected (c : RequestContext) (channel : Channel)
    (hcount : s.attempts.length ≤ s.param.retry) (hoff : skip = false) :
    Forward retryTimes skip c s (s.trySelected retryTimes m c channel) := by
  unfold State.trySelected
  split
  · exact ⟨rfl, rfl, trivial⟩
  next hsetup =>
    have hkeys := autoKeys_setupContextForSelectedChannel hsetup
    refine forward_tryChannel hkeys rfl hcount (fun hon => ?_) fun e => ?_
    · rw [hon] at hoff
      cases hoff
    · exact forward_rejectSelected _ e hkeys rfl hcount hoff

theorem forward_load (c : RequestContext) (routingGroup : String) (channel : Channel)
    (hphase : s.phase = .selecting) (h : Scheduled retryTimes skip s) :
    Forward retryTimes skip c s (s.load retryTimes m c routingGroup channel) := by
  obtain ⟨hcount, -, -, hoff⟩ := h.selecting hphase
  unfold State.load
  split
  · exact forward_trySelected c channel hcount hoff
  · obtain ⟨hkeys, htoken, hscheduled⟩ :=
      (forward_trySelected _ _ hcount hoff : Forward retryTimes skip _ s _)
    exact ⟨hkeys, htoken, hscheduled⟩
  · refine ⟨rfl, rfl, ?_⟩
    simpa only [Scheduled, hphase] using h

/-- What the loop keeps of a request of the group `auto`. -/
structure Routed (retryTimes : ℤ) (skip : Bool) (gs : List String) (s : State) : Prop where
  tokenGroup : s.param.tokenGroup = "auto"
  placed : (∃ e, s.phase = .done e) ∨ ∃ group, Placed gs s.context group
  scheduled : Scheduled retryTimes skip s

/-- Without consent the group does not change. -/
def Stays (c c' : RequestContext) : Prop :=
  c.tokenCrossGroupRetry = false → c'.autoGroup = c.autoGroup

/-- **Every step moves the cursor of a request forward.** -/
theorem routed_step (h : Routed retryTimes skip gs s) :
    Routed retryTimes skip gs (s.step retryTimes m) ∧
      Moved gs s.context (s.step retryTimes m).context ∧
      Stays s.context (s.step retryTimes m).context := by
  unfold State.step
  split
  next last hphase =>
    obtain ⟨hkeys, htoken, hscheduled⟩ :=
      (forward_begin hphase h.scheduled : Forward retryTimes skip _ _ (s.begin retryTimes m last))
    obtain ⟨e, hdone⟩ | ⟨group, hplaced⟩ := h.placed
    · rw [hphase] at hdone
      cases hdone
    · exact ⟨⟨htoken.trans h.tokenGroup, .inr ⟨group, hplaced.congr hkeys⟩, hscheduled⟩,
        .of_autoKeys hkeys, fun _ => (congrArg AutoKeys.group hkeys :)⟩
  next hphase =>
    obtain ⟨e, hdone⟩ | ⟨group, hplaced⟩ := h.placed
    · rw [hphase] at hdone
      cases hdone
    obtain ⟨-, hpos, -⟩ := h.scheduled.selecting hphase
    unfold State.select
    split
    · exact ⟨⟨h.tokenGroup, .inl ⟨_, rfl⟩, trivial⟩, .of_autoKeys rfl, fun _ => rfl⟩
    next hselect =>
      obtain ⟨hmoved, ⟨-, hgroup⟩ | ⟨hplaced', hstay⟩⟩ :=
        moved_selectCachedChannel hselect h.tokenGroup hplaced
      · exact ⟨⟨h.tokenGroup, .inl ⟨_, rfl⟩, trivial⟩, hmoved, fun _ => hgroup⟩
      · refine ⟨⟨h.tokenGroup, .inl ⟨_, rfl⟩, trivial⟩, hmoved, fun hcross => ?_⟩
        refine hplaced'.autoGroup.trans ?_
        rw [hstay ⟨.inl hpos, hcross⟩, hplaced.autoGroup]
    next c channel routingGroup hselect =>
      obtain ⟨hmoved, ⟨hnone, -⟩ | ⟨hplaced', hstay⟩⟩ :=
        moved_selectCachedChannel hselect h.tokenGroup hplaced
      · cases hnone
      obtain ⟨hkeys, htoken, hscheduled⟩ :=
        (forward_load c routingGroup channel hphase h.scheduled :
          Forward retryTimes skip _ _ (s.load retryTimes m c routingGroup channel))
      refine ⟨⟨htoken.trans h.tokenGroup, .inr ⟨_, hplaced'.congr hkeys⟩, hscheduled⟩,
        hmoved.trans (.of_autoKeys hkeys), fun hcross => ?_⟩
      refine ((congrArg AutoKeys.group hkeys :).trans hplaced'.autoGroup).trans ?_
      rw [hstay ⟨.inl hpos, hcross⟩, hplaced.autoGroup]
  next => exact ⟨h, .of_autoKeys rfl, fun _ => rfl⟩

/-- **Every run moves the cursor of a request forward.** -/
theorem routed_run (h : Routed retryTimes skip gs s) (moments : List Moment) :
    Routed retryTimes skip gs (run retryTimes s moments) ∧
      Moved gs s.context (run retryTimes s moments).context ∧
      Stays s.context (run retryTimes s moments).context := by
  induction moments generalizing s with
  | nil => exact ⟨h, .of_autoKeys rfl, fun _ => rfl⟩
  | cons m moments ih =>
    obtain ⟨hnext, hmoved, hstays⟩ := routed_step (m := m) h
    obtain ⟨hfinal, hmoved', hstays'⟩ := ih hnext
    refine ⟨hfinal, hmoved.trans hmoved', fun hcross => ?_⟩
    exact (hstays' (hmoved.crossGroupRetry.trans hcross)).trans (hstays hcross)

end

variable {gs : List String}

/-- The groups from an index on are the group at that index and the later ones. -/
theorem mem_laterAutoGroups {usingGroup group : String} {i j : ℕ}
    (hij : i ≤ j) (hi : gs[i]? = some usingGroup) (hj : gs[j]? = some group) :
    group ∈ usingGroup :: laterAutoGroups gs usingGroup := by
  rw [laterAutoGroups, if_pos (List.mem_of_getElem? hi)]
  induction gs generalizing i j with
  | nil => cases hi
  | cons first gs ih =>
    by_cases hfirst : first = usingGroup
    · subst hfirst
      cases j with
      | zero =>
        cases hj
        exact List.mem_cons_self
      | succ j => simpa using .inr (List.mem_of_getElem? hj)
    · obtain _ | i := i
      · cases hi
        exact absurd rfl hfirst
      obtain _ | j := j
      · omega
      simpa [hfirst] using ih (by omega) hi hj

/-- **Automatic retries stay in the priced groups.** The cursor of a request of the group `auto`
never moves back; after an attempt its group does not change without the consent of its token; and a
retry selects a channel only in the priced group and those after it. Unless the token is tied to a
channel pricing has scanned these groups. -/
theorem autoGroup_retries_priced (a : Arrival) (w : World) (retryTimes : ℤ)
    (c₀ c c' : RequestContext) (info info' : RelayInfo) (body : RequestBody)
    (hc₀ : Unrouted c₀) (hdistribute : distribute a c₀ = some (.ok c))
    (htoken : info.tokenGroup = "auto") (hmeta : info.channelMeta = none)
    (hpriced : modelPriceHelper w retryTimes c info body = .ok (c', info'))
    (moments later : List Moment) :
    let s := run retryTimes (start c' info') moments
    let final := run retryTimes s later
    (∀ i, s.context.autoGroupIndex = some i →
        ∃ j, i ≤ j ∧ final.context.autoGroupIndex = some j) ∧
      (s.attempts ≠ [] → c.tokenCrossGroupRetry = false →
        final.context.autoGroup = s.context.autoGroup) ∧
      ∀ (m : Moment) (selected : Selected) (channel : Channel), s.phase = .selecting →
        selectCachedChannel m.groupsWorld s.context s.param m.glances = .ok selected →
        selected.channel = some channel →
        selected.group ∈ info'.usingGroup ::
            laterAutoGroups (autoGroupsForRequest w c info.userGroup) info'.usingGroup ∧
          (c.tokenSpecificChannelId = none →
            selected.group ∈ (pricingGroups w c info' (pricingRetryBudget retryTimes c)).1) := by
  intro s final
  obtain ⟨gs, group, hplaced⟩ := placed_of_distribute hc₀ hdistribute
  have hkeeps := keepsRoute_modelPriceHelper hplaced hpriced
  have hkeys := hkeeps.autoKeys
  have husing : info'.usingGroup = group := hkeeps.usingGroup
  have htoken' : info'.tokenGroup = "auto" := hkeeps.tokenGroup.trans htoken
  have hplaced' : Placed gs c' group := hplaced.congr hkeys
  have hgroups (userGroup : String) : autoGroupsForRequest w c userGroup = gs := by
    simp only [autoGroupsForRequest, hplaced.snapshot, Option.getD_some]
  have hstart : Routed retryTimes _ gs (start c' info') := ⟨htoken', .inr ⟨group, hplaced'⟩,
    le_rfl, .inl ⟨hkeeps.channelMeta.trans hmeta, hkeeps.skipRetry.trans⟩⟩
  obtain ⟨hrouted, hmoved, hstays⟩ := routed_run hstart moments
  obtain ⟨-, hmoved', hstays'⟩ := routed_run hrouted later
  have hcross : s.context.tokenCrossGroupRetry = c.tokenCrossGroupRetry :=
    hmoved.crossGroupRetry.trans (congrArg AutoKeys.crossGroupRetry hkeys :)
  refine ⟨hmoved'.index_le, fun _ hconsent => hstays' (hcross.trans hconsent),
    fun m selected channel hphase hselect hchannel => ?_⟩
  obtain ⟨e, hdone⟩ | ⟨current, hcurrent⟩ := hrouted.placed
  · rw [hphase] at hdone
    cases hdone
  have hgroups' : autoGroupsForRequest m.groupsWorld s.context s.context.userGroup = gs := by
    simp only [autoGroupsForRequest, s, hcurrent.snapshot, Option.getD_some]
  obtain ⟨-, -, ⟨hnone, -⟩ | ⟨i, hle, hget, -, -, hstay⟩⟩ :=
    keys_selectCachedChannel hselect hrouted.tokenGroup hgroups'
  · rw [hchannel] at hnone
    cases hnone
  have hmem : selected.group ∈ info'.usingGroup :: laterAutoGroups gs info'.usingGroup := by
    rw [husing]
    exact mem_laterAutoGroups (hmoved.start_le.trans hle) hplaced'.getElem hget
  rw [hgroups]
  refine ⟨hmem, fun huntied => ?_⟩
  obtain ⟨-, hpos, hbudget, hoff⟩ := hrouted.scheduled.selecting hphase
  have hretries : pricingRetryBudget retryTimes c = retryTimes := by
    simp [pricingRetryBudget, huntied, hoff]
  unfold pricingGroups
  split
  · simpa only [hgroups] using hmem
  next hconfined =>
    -- Without consent the selection stays in the group that was priced.
    have hconsent : c.tokenCrossGroupRetry = false := by
      by_contra hne
      refine hconfined ⟨?_, htoken', by simpa using hne⟩
      omega
    rw [hstay ⟨.inl hpos, hcross.trans hconsent⟩, hcurrent.getElem, Option.some.injEq] at hget
    have hgroup : s.context.autoGroup = c'.autoGroup :=
      hstays ((congrArg AutoKeys.crossGroupRetry hkeys :).trans hconsent)
    rw [hcurrent.autoGroup, hplaced'.autoGroup, Option.some.injEq] at hgroup
    rw [List.mem_singleton, ← hget, hgroup, husing]

/-- A channel of each of two automatic groups. -/
def sampleAutoWorld : World :=
  { sampleWorld with
    db := { sampleWorld.db with
      abilities :=
        [⟨"vip", "deepseek-v4-flash", 7, true, 10, 0⟩,
          ⟨"default", "deepseek-v4-flash", 8, true, 5, 0⟩] }
    userAutoGroup := fun _ => ["vip", "default"] }

def sampleAutoMoment : Moment :=
  { sampleMoment with
    groupsWorld := sampleAutoWorld
    glances := fun _ => ⟨sampleAutoWorld, 0⟩
    loadWorld := sampleAutoWorld, setupWorld := sampleAutoWorld
    priceWorld := sampleAutoWorld }

def sampleArrival : Arrival where
  modelName := "deepseek-v4-flash"
  world := sampleAutoWorld
  worlds _ := sampleAutoWorld
  moments := [sampleAutoMoment]
  setupWorld := sampleAutoWorld

def sampleUnrouted : RequestContext where
  usingGroup := "auto"
  tokenCrossGroupRetry := true

def sampleRouted : RequestContext :=
  { sampleUnrouted with
    channelId := 7, autoGroup := some "vip"
    autoGroupRouteSnapshot := some ["vip", "default"], autoGroupIndex := some 0
    autoGroupRetryIndex := some 1 }

def sampleAutoInfo : RelayInfo := { sampleInfo with usingGroup := "auto", tokenGroup := "auto" }

def sampleAutoPriced : RequestContext × RelayInfo :=
  ({ sampleRouted with
      priceAuthorizationBounds := some ⟨1000, 500, 1, [⟨7, "vip"⟩, ⟨8, "default"⟩]⟩
      catalogPriceAuthorized := true, catalogPriceRoutes := some [⟨7, "vip"⟩, ⟨8, "default"⟩] },
    { samplePriced.2 with usingGroup := "vip", tokenGroup := "auto" })

/-- The loop of the sample, when its first attempt has failed. -/
def sampleRetry : State :=
  run 1 (start sampleAutoPriced.1 sampleAutoPriced.2) [sampleAutoMoment, sampleAutoMoment]

theorem autoGroup_retries_priced_sample : sampleRetry.attempts.map Attempt.route = [⟨7, "vip"⟩] ∧
      (selectCachedChannel sampleAutoWorld sampleRetry.context sampleRetry.param
        sampleAutoMoment.glances).toOption.map Selected.group = some "default" ∧
      "default" ∈ (pricingGroups sampleAutoWorld sampleRouted sampleAutoPriced.2
        (pricingRetryBudget 1 sampleRouted)).1 := by
  have hdistribute : distribute sampleArrival sampleUnrouted = some (.ok sampleRouted) := by
    decide +kernel
  have hpriced : modelPriceHelper sampleAutoWorld 1 sampleRouted sampleAutoInfo sampleBody =
      .ok (sampleAutoPriced.1, sampleAutoPriced.2) := by decide +kernel
  have hselect : ((selectCachedChannel sampleAutoWorld sampleRetry.context sampleRetry.param
      sampleAutoMoment.glances).toOption.map fun selected =>
        (selected.group, selected.channel.map Channel.id)) = some ("default", some 8) := by
    decide +kernel
  obtain ⟨-, -, hgroups⟩ := autoGroup_retries_priced sampleArrival sampleAutoWorld 1
    sampleUnrouted sampleRouted sampleAutoPriced.1 sampleAutoInfo sampleAutoPriced.2 sampleBody
    ⟨rfl, rfl, rfl⟩ hdistribute rfl rfl hpriced [sampleAutoMoment, sampleAutoMoment] []
  refine ⟨by decide +kernel, by decide +kernel, ?_⟩
  cases hresult : selectCachedChannel sampleAutoWorld sampleRetry.context sampleRetry.param
      sampleAutoMoment.glances with
  | error e =>
    rw [hresult] at hselect
    cases hselect
  | ok selected =>
    simp only [hresult, Except.toOption, Option.map_some, Option.some.injEq, Prod.mk.injEq,
      Option.map_eq_some_iff] at hselect
    obtain ⟨hgroup, channel, hchannel, -⟩ := hselect
    rw [← hgroup]
    exact (hgroups sampleAutoMoment selected channel (by decide +kernel) hresult hchannel).2 rfl

end Mujian.Relay
