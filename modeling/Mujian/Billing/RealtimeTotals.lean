import Mujian.Billing.Realtime

/-!
# What a realtime session is charged

The quotas of the portions come on top of the reservation, which nobody settles or returns. So a
session is charged its usage exactly when nothing was reserved for it (`realtime_charged_iff`).
`Sound` is what a session keeps: the funding source stands at the reservation plus the quotas of the
portions passed so far.
-/

namespace Mujian.Billing

open Relay (RelayInfo BillingSource)
open Pricing (Settings)

section

variable {info : RelayInfo} {quota : ℤ} {s : BillingSession} {db db' : DB}

/-- A session as it was opened, in either mode: its reservation stands on top of the usage `base`
of the funding source. -/
def Reserved (s : BillingSession) (base : ℤ) (db : DB) : Prop :=
  s.funding.Holds true (base + s.funding.reserved) db

theorem TokenMoved.apartFromTokens {tokenID delta : ℤ} {skipToken overdraft : Bool}
    (h : TokenMoved tokenID skipToken overdraft delta db db') : db.ApartFromTokens db' := by
  cases h with
  | skipped => exact .refl db
  | moved => exact .addTokenQuota db _ _

variable {env : AttemptEnv}

theorem reserved_strict_wallet {userQuota : ℤ} {db₁ : DB}
    (hstrict : info.usesAtomicStrictBilling = true) (hapart : db.ApartFromTokens db₁)
    (hfresh : db.ledger.find? info.requestId = none) (h : BillingSession.preConsume env quota
      { relayInfo := { info with userQuota := userQuota }
        funding := .wallet { userId := info.userId } } db₁ = (.ok s, db')) :
    Reserved s (s.funding.used db) db' := by
  obtain ⟨info', result, -, hrun, rfl⟩ := BillingSession.preConsume_strict_cases h hstrict
  obtain ⟨hpos, ⟨-, record, hfind, -⟩ | ⟨-, db₂, htoken, hcases⟩⟩ :=
    preConsumeStrictBilling_cases hrun
  · rw [hapart.ledger, hfresh] at hfind
    cases hfind
  obtain ⟨hsub, -⟩ | ⟨-, -, -, db₃, ledger, hmoved, -, rfl⟩ := hcases
  · cases hsub
  have hdb := hapart.trans htoken.apartFromTokens
  cases hmoved with
  | charge hid => exact absurd rfl hid
  | refund hid => exact absurd rfl hid
  | @wallet user _ hfind _ =>
    rw [hdb.users] at hfind
    have hholds := ((FundingSource.Holds.of_user (w := { userId := info.userId, consumed := quota })
      hfind).of_apartFromTokens hdb).addUserQuota (-quota)
    rw [sub_neg_eq_add] at hholds
    cases hholds with
    | wallet hfind' hquota => exact .wallet hfind' hquota

theorem reserved_strict_subscription {userQuota amount : ℤ} {db₁ : DB}
    (hstrict : info.usesAtomicStrictBilling = true) (hapart : db.ApartFromTokens db₁)
    (hfresh : db.ledger.find? info.requestId = none) (h : BillingSession.preConsume env amount
      { relayInfo := { info with userQuota := userQuota }
        funding := .subscription
          { requestId := info.requestId, userId := info.userId, amount := amount } } db₁ =
        (.ok s, db')) :
    ∃ base, db.AfterResets base ∧ Reserved s (s.funding.used base) db' := by
  obtain ⟨info', result, -, hrun, rfl⟩ := BillingSession.preConsume_strict_cases h hstrict
  obtain ⟨hpos, ⟨-, record, hfind, -⟩ | ⟨-, db₂, htoken, hcases⟩⟩ :=
    preConsumeStrictBilling_cases hrun
  · rw [hapart.ledger, hfresh] at hfind
    cases hfind
  obtain ⟨-, r, hfrom, hid, hpre⟩ | ⟨hsub, -⟩ := hcases
  swap
  · cases hsub
  have hdb := hapart.trans htoken.apartFromTokens
  have hamount : r.preConsumed = amount := by
    obtain ⟨_, _, _, -, -, -, -, -, -, -, -, rfl⟩ := hfrom
    rfl
  obtain ⟨base, hresets, hholds⟩ := FundingSource.Holds.of_reservedFrom hfrom
    (s := { requestId := info.requestId, userId := info.userId, amount := amount,
            subscriptionId := result.subscriptionID, preConsumed := result.preConsumed,
            amountTotal := result.amountTotal, amountUsedAfter := result.amountUsedAfter })
    rfl hid (hpre.trans hamount)
  exact ⟨_, hresets.of_apartFromTokens hdb, hholds⟩

/-- **A session, as it was opened in either mode**: its reservation stands on top of what the
funding source had used before. -/
theorem reserved_of_newBillingSession {env : OpenEnv}
    (hopen : newBillingSession env info quota db = (.ok s, db'))
    (huser : ∃ user, db.users.find? info.userId = some user)
    (hfresh : db.ledger.find? info.requestId = none)
    (hused : ∀ sub ∈ db.subscriptions.rows, 0 ≤ sub.amountUsed) :
    ∃ base, db.AfterResets base ∧ Reserved s (s.funding.used base) db' := by
  cases hmode : info.usesAtomicStrictBilling with
  | false =>
    obtain ⟨base, hresets, hopened⟩ :=
      openedLegacy_of_newBillingSession hopen hmode huser hfresh hused
    exact ⟨base, hresets, hopened.holds⟩
  | true =>
    cases newBillingSession_cases hopen with
    | wallet hapart h => exact ⟨db, .refl db, reserved_strict_wallet hmode hapart hfresh h⟩
    | subscription hapart h => exact reserved_strict_subscription hmode hapart hfresh h

def Names (info : RelayInfo) : FundingSource → Prop
  | .wallet w => info.billingSource ≠ some .subscription ∧ info.userId = w.userId
  | .subscription sub =>
    info.billingSource = some .subscription ∧ info.subscriptionId = sub.subscriptionId

section

variable (hwallet : ∀ w, s.funding = .wallet w → s.relayInfo.userId = w.userId)
include hwallet

theorem names_syncRelayInfo : Names s.syncRelayInfo.relayInfo s.syncRelayInfo.funding := by
  unfold BillingSession.syncRelayInfo
  cases hfunding : s.funding with
  | wallet w => exact ⟨nofun, hwallet w hfunding⟩
  | subscription sub => exact ⟨rfl, rfl⟩

theorem names_of_preConsume {s' : BillingSession}
    (h : s.preConsume env quota db = (.ok s', db')) : Names s'.relayInfo s'.funding := by
  unfold BillingSession.preConsume at h
  split at h
  · unfold BillingSession.preConsumeStrict at h
    split at h
    · cases h
    · obtain ⟨hs, -⟩ := Prod.mk.inj h
      cases hs
      apply names_syncRelayInfo
      intro w hw
      cases hfunding : s.funding with
      | wallet w₀ =>
        simp only [hfunding] at hw
        cases hw
        exact hwallet w₀ hfunding
      | subscription sub => simp [hfunding, BillingSession.strictFunding] at hw
  · unfold BillingSession.preConsumeLegacy at h
    generalize (if s.shouldTrust env then 0 else quota) = p at h
    simp only at h
    split at h
    · cases h
    next s₁ db₁ hpre =>
      have htoken := (BillingSession.preConsumeToken_cases s env p db).2 s₁ (by rw [hpre])
      subst htoken
      unfold BillingSession.preConsumeFunding at h
      split at h
      · cases h
      next funding db₂ hcommit =>
        obtain ⟨hs, -⟩ := Prod.mk.inj h
        cases hs
        apply names_syncRelayInfo
        rintro w rfl
        have hrun := Env.commit_eq_ok hcommit
        cases hfunding : s.funding with
        | wallet w₀ =>
          simp only [hfunding, FundingSource.preConsume, FundingSource.preConsumeWallet] at hrun
          split at hrun
          · obtain ⟨heq, -⟩ := Tx.run_pure_eq_ok.1 hrun
            cases heq
            exact hwallet w hfunding
          · simp only [Tx.run_bind_eq_ok, Tx.run_pure_eq_ok] at hrun
            obtain ⟨_, _, -, heq, -⟩ := hrun
            cases heq
            exact hwallet w₀ hfunding
        | subscription sub =>
          simp only [hfunding, FundingSource.preConsume, FundingSource.preConsumeSubscription,
            Tx.run_bind_eq_ok, Tx.run_pure_eq_ok] at hrun
          obtain ⟨_, _, -, heq, -⟩ := hrun
          cases heq

end

end

section

variable {env : WssEnv} {info info' : RelayInfo} {quota x : ℤ} {db db' : DB} {f : FundingSource}

theorem apartFromTokens_consumeToken (env : WssEnv) (info : RelayInfo) (quota : ℤ) (db : DB) :
    db.ApartFromTokens (consumeToken env info quota db).2 := by
  unfold consumeToken
  split
  · exact .refl db
  · have hapart : db.ApartFromTokens (env.token.commit (if quota > 0
        then decreaseTokenQuota info.tokenId quota
        else increaseTokenQuota info.tokenId (-quota)) db).2 := by
      refine Env.apartFromTokens_commit fun _ _ hrun => ?_
      split at hrun
      · exact apartFromTokens_of_decreaseTokenQuota hrun
      · exact apartFromTokens_of_increaseTokenQuota hrun
    split <;> (rename_i hcommit; rw [hcommit] at hapart; exact hapart)

section

variable (hnames : Names info f)
include hnames

theorem holds_consumeFunding (hholds : f.Holds true x db)
    (hquota : 0 ≤ quota) (h : consumeFunding env info quota db = (.ok info', db')) :
    f.Holds true (x + quota) db' ∧ Names info' f := by
  unfold consumeFunding at h
  cases f with
  | wallet w =>
    obtain ⟨hsource, huser⟩ := hnames
    rw [if_neg hsource] at h
    split at h
    · cases h
    next u db₁ hcommit =>
      cases h
      have hrun := Env.commit_eq_ok hcommit
      have hmoved := hholds.addUserQuota (-quota)
      rw [sub_neg_eq_add] at hmoved
      split at hrun
      · obtain ⟨-, rfl⟩ := run_decreaseUserQuota_eq_ok hrun
        rw [huser]
        exact ⟨hmoved, hsource, huser⟩
      · obtain ⟨-, rfl⟩ := run_increaseUserQuota_eq_ok hrun
        rw [huser]
        exact ⟨hmoved, hsource, huser⟩
  | subscription sub =>
    obtain ⟨hsource, hid⟩ := hnames
    rw [if_pos hsource] at h
    split at h
    · cases h
    split at h
    next hzero =>
      cases h
      rw [hzero, add_zero]
      exact ⟨hholds, hsource, hid⟩
    next hne =>
      split at h
      · cases h
      next u db₁ hcommit =>
        cases h
        refine ⟨?_, hsource, hid⟩
        obtain ⟨hzero, -⟩ | ⟨row, -, ⟨-, -, rfl⟩ | ⟨hneg, -⟩⟩ :=
          postConsumeUserSubscriptionDelta_cases (Env.commit_eq_ok hcommit)
        · exact absurd hzero hne
        · rw [hid]
          exact hholds.mapSubscription fun row hused => by simp only [hused]
        · omega

/-- A portion whose charge succeeds is paid by the funding source. -/
theorem holds_postConsumeQuota (hholds : f.Holds true x db)
    (hquota : 0 ≤ quota) (h : postConsumeQuota env info quota db = (.ok (), info', db')) :
    f.Holds true (x + quota) db' ∧ Names info' f := by
  unfold postConsumeQuota at h
  split at h
  · cases h
  next info₁ db₁ hfunding =>
    obtain ⟨hholds', hnames'⟩ := holds_consumeFunding hnames hholds hquota hfunding
    have hapart := apartFromTokens_consumeToken env info₁ quota db₁
    obtain ⟨-, hinfo, hdb⟩ : _ ∧ _ ∧ _ := by simpa only [Prod.mk.injEq] using h
    rw [hdb] at hapart
    rw [← hinfo]
    exact ⟨hholds'.of_apartFromTokens hapart, hnames'⟩

/-- Whatever becomes of a charge, the request names the same funding source. -/
theorem names_consumeFunding
    (h : consumeFunding env info quota db = (.ok info', db')) : Names info' f := by
  unfold consumeFunding at h
  split at h
  · split at h
    · cases h
    split at h
    · cases h
      exact hnames
    split at h
    · cases h
    · cases h
      cases f with
      | wallet | subscription => exact hnames
  · split at h
    · cases h
    · cases h
      exact hnames

variable {autoGroup : Option String} {usage : RealtimeUsage}

theorem names_preWssConsumeQuota {usePrice : Bool} :
    Names (preWssConsumeQuota env autoGroup usePrice info usage db).2.1 f := by
  have hgroup : Names { info with usingGroup := wssUsingGroup autoGroup info } f := by
    cases f <;> exact hnames
  unfold preWssConsumeQuota
  split
  · exact hnames
  split
  · exact hnames
  · exact hnames
  · simp only
    split
    · exact hgroup
    split
    · exact hgroup
    · unfold postConsumeQuota
      split
      · exact hgroup
      next hfunding => exact names_consumeFunding hgroup hfunding

/-- **A portion that is charged costs its quota.** -/
theorem holds_preWssConsumeQuota (hholds : f.Holds true x db)
    (h : (preWssConsumeQuota env autoGroup false info usage db).1.isOk = true) :
    f.Holds true (x + calculateAudioQuota env.settings
        (wssQuotaInfo env.settings autoGroup false info usage))
      (preWssConsumeQuota env autoGroup false info usage db).2.2 := by
  have hgroup : Names { info with usingGroup := wssUsingGroup autoGroup info } f := by
    cases f <;> exact hnames
  have hquota : 0 ≤ calculateAudioQuota env.settings
      (wssQuotaInfo env.settings autoGroup false info usage) :=
    calculateAudioQuota_nonneg env.settings rfl
  simp only [preWssConsumeQuota, Bool.false_eq_true, if_false] at h ⊢
  split at h
  · cases h
  · cases h
  · split at h
    · cases h
    split at h
    · cases h
    next henough hremain =>
      simp only [if_neg henough, if_neg hremain]
      generalize hresult : postConsumeQuota _ _ _ _ = result at h ⊢
      obtain ⟨_ | u, info', db'⟩ := result
      · cases h
      · exact (holds_postConsumeQuota hgroup hholds hquota hresult).1

end

end

/-- Unless a charge has failed, the funding source stands at the usage `x` before the session plus
the quotas of the portions passed. -/
structure Sound (f : FundingSource) (x : ℤ) (billing : Option BillingSession)
    (st : RealtimeState) : Prop where
  usePrice : st.usePrice = false
  billing : st.billing = billing
  names : Names st.info f
  holds : st.failed = false → f.Holds true (x + st.passed.sum) st.db

section

variable {f : FundingSource} {x : ℤ} {billing : Option BillingSession} {st st' : RealtimeState}

/-- The session without what is only counted. -/
def RealtimeState.account (st : RealtimeState) : RealtimeState :=
  { st with
    usage := {}, localUsage := {}, sumUsage := {}, clientReading := true, targetReading := true,
    logged := none }

section

variable (h : Sound f x billing st)
include h

theorem Sound.congr (hsame : st'.account = st.account) : Sound f x billing st' := by
  have hinfo : st'.info = st.info := (congrArg RealtimeState.info hsame :)
  have hdb : st'.db = st.db := (congrArg RealtimeState.db hsame :)
  have hpassed : st'.passed = st.passed := (congrArg RealtimeState.passed hsame :)
  have hfailed : st'.failed = st.failed := (congrArg RealtimeState.failed hsame :)
  refine ⟨(congrArg RealtimeState.usePrice hsame :).trans h.usePrice,
    (congrArg RealtimeState.billing hsame :).trans h.billing, ?_, ?_⟩
  · rw [hinfo]
    exact h.names
  · rw [hdb, hpassed, hfailed]
    exact h.holds

section

variable (env : WssEnv)

theorem sound_preConsumeUsage (usage : RealtimeUsage) :
    Sound f x billing (st.preConsumeUsage env usage).2 where
  usePrice := h.usePrice
  billing := h.billing
  names := names_preWssConsumeQuota h.names
  holds := by
    intro hok
    simp only [RealtimeState.preConsumeUsage, Bool.or_eq_false_iff, Bool.not_eq_false'] at hok
    have hholds := h.holds hok.1
    simp only [RealtimeState.preConsumeUsage, h.usePrice, List.sum_append, List.sum_singleton,
      ← add_assoc] at hok ⊢
    exact holds_preWssConsumeQuota h.names hholds hok.2

theorem sound_chargeReported (reported : RealtimeUsage)
    (delivered : Bool) : Sound f x billing (st.chargeReported env reported delivered) := by
  have hadded : Sound f x billing { st with usage := st.usage.add reported } := h.congr rfl
  have hcharged := sound_preConsumeUsage hadded env (st.usage.add reported)
  unfold RealtimeState.chargeReported
  split <;> (rename_i hresult; rw [hresult] at hcharged; exact hcharged.congr rfl)

theorem sound_chargeCounted (textToken audioToken : ℤ) (delivered : Bool) :
    Sound f x billing (st.chargeCounted env textToken audioToken delivered) := by
  have hadded : Sound f x billing { st with
      localUsage := st.localUsage.add (.ofInput textToken audioToken) } := h.congr rfl
  have hcharged := sound_preConsumeUsage hadded env
    (st.localUsage.add (.ofInput textToken audioToken))
  unfold RealtimeState.chargeCounted
  simp only
  split <;> (rename_i hresult; rw [hresult] at hcharged; exact hcharged.congr rfl)

theorem sound_readTarget (delivered : Bool)
    (message : TargetMessage) : Sound f x billing (st.readTarget env delivered message) := by
  cases message with
  | malformed => exact h.congr rfl
  | responseDone response count =>
    match response, count with
    | none, _ => exact h.congr rfl
    | some (some reported), _ => exact sound_chargeReported h env reported delivered
    | some none, none => exact h.congr rfl
    | some none, some (textToken, audioToken) =>
      exact sound_chargeCounted h env textToken audioToken delivered
  | session => exact h.congr rfl
  | other count =>
    match count with
    | none | some (textToken, audioToken) => exact h.congr rfl

theorem sound_flush (usage : RealtimeUsage) : Sound f x billing (st.flush env usage) := by
  unfold RealtimeState.flush
  split
  · exact sound_preConsumeUsage h env usage
  · exact h

end

/-- **Every message keeps the account**, and so does the end of the session. -/
theorem sound_step (event : RealtimeEvent) : Sound f x billing (st.step event) := by
  cases event with
  | client count delivered =>
    unfold RealtimeState.step
    simp only
    split
    · unfold RealtimeState.readClient
      split <;> exact h.congr rfl
    · exact h
  | clientClosed => exact h.congr rfl
  | target message env delivered =>
    unfold RealtimeState.step
    simp only
    split
    · exact sound_readTarget h env delivered message
    · exact h
  | targetClosed => exact h.congr rfl
  | finish usageEnv localEnv S modelName =>
    unfold RealtimeState.step RealtimeState.finish
    simp only
    split
    · exact h
    · exact (sound_flush (sound_flush h usageEnv _) localEnv _).congr rfl

/-- **Every run of a session keeps the account.** -/
theorem sound_run (events : List RealtimeEvent) : Sound f x billing (st.run events) := by
  induction events generalizing st with
  | nil => exact h
  | cons event events ih => exact ih (sound_step h event)

end

end

/-- A session begins with its reservation on top of the usage of the funding source. -/
theorem sound_openRealtime {env : OpenEnv} {autoGroup : Option String} {info : RelayInfo}
    {db : DB} {st : RealtimeState} (hopen : openRealtime env autoGroup info db = .ok st)
    (hsource : info.billingSource = none) (huser : ∃ user, db.users.find? info.userId = some user)
    (hfresh : db.ledger.find? info.requestId = none)
    (hused : ∀ sub ∈ db.subscriptions.rows, 0 ≤ sub.amountUsed) :
    ∃ base, db.AfterResets base ∧
      Sound st.funding (st.funding.used base + st.funding.reserved) st.billing st := by
  unfold openRealtime at hopen
  split at hopen
  next =>
    obtain rfl := Except.ok.inj hopen
    obtain ⟨user, huser⟩ := huser
    have hholds := FundingSource.Holds.of_user (w := { userId := info.userId }) huser
    refine ⟨db, .refl db, rfl, rfl, ⟨?_, rfl⟩, fun _ => ?_⟩
    · rw [hsource]
      exact nofun
    · simpa only [RealtimeState.funding, FundingSource.reserved, List.sum_nil, add_zero] using
        hholds
  next =>
    split at hopen
    · cases hopen
    next s db' hsession =>
      obtain rfl := Except.ok.inj hopen
      obtain ⟨base, hresets, hreserved⟩ := reserved_of_newBillingSession hsession huser hfresh hused
      have hnames : Names s.relayInfo s.funding := by
        cases newBillingSession_cases hsession with
        | wallet hapart h => exact names_of_preConsume (fun w hw => by cases hw; rfl) h
        | subscription hapart h => exact names_of_preConsume (fun w hw => by cases hw) h
      refine ⟨base, hresets, rfl, rfl, hnames, fun _ => ?_⟩
      simpa only [Reserved, RealtimeState.funding, List.sum_nil, add_zero] using hreserved

/-- **Realtime sessions pay their reservation on top.** After every sequence of messages that ends
the session and in which no charge fails, the net amount taken is the sum of the quotas of the
portions passed, with the reservation settled or returned, exactly when nothing was reserved. -/
theorem realtime_charged_iff {env : OpenEnv} {autoGroup : Option String} {info : RelayInfo}
    {db : DB} {st₀ : RealtimeState} (hopen : openRealtime env autoGroup info db = .ok st₀)
    (hsource : info.billingSource = none)
    (huser : ∃ user, db.users.find? info.userId = some user)
    (hfresh : db.ledger.find? info.requestId = none)
    (hused : ∀ sub ∈ db.subscriptions.rows, 0 ≤ sub.amountUsed) :
    ∃ base, db.AfterResets base ∧ ∀ events,
      let st := st₀.run events
      st.logged.isSome → st.failed = false →
        ((st₀.funding.netTaken base st.db = st.passed.sum ∧ st.Released) ↔
          st₀.funding.reserved = 0) := by
  obtain ⟨base, hresets, hsound⟩ := sound_openRealtime hopen hsource huser hfresh hused
  refine ⟨base, hresets, fun events _ hok => ?_⟩
  have hfinal := sound_run hsound events
  have hused := (hfinal.holds hok).used_eq
  rw [FundingSource.netTaken]
  constructor
  · omega
  · intro hzero
    refine ⟨by omega, fun s hs => .inr (.inr ?_)⟩
    rw [hfinal.billing] at hs
    simpa only [RealtimeState.funding, hs] using hzero

def sampleWssEnv : WssEnv where
  settings := Pricing.sampleSettings
  query := sampleEnv
  cachedUserQuota := none
  cachedToken := none
  funding := sampleEnv
  token := sampleEnv

def realtimeRequest : RelayInfo :=
  { walletRequest with
    originModelName := "gpt-realtime"
    priceData :=
      { quotaToPreConsume := 100, modelRatio := 3 / 2, groupRatioInfo := ⟨1, -1, false⟩ } }

def trustingOpenEnv : OpenEnv :=
  ⟨{ sampleAttemptEnv with trustQuota := 200 }, { sampleAttemptEnv with trustQuota := 200 },
    sampleEnv, none⟩

def sampleEvents : List RealtimeEvent :=
  [.target (.responseDone (some (some
      { totalTokens := 20, inputTokens := 20, inputTokenDetails := { textTokens := 20 } })) none)
      sampleWssEnv true,
    .clientClosed, .finish sampleWssEnv sampleWssEnv Pricing.sampleSettings "gpt-realtime"]

def realtimeOpened (info : RelayInfo) (consumed : ℤ) (db : DB) : RealtimeState :=
  let relayInfo := { info with
    userQuota := 1000, finalPreConsumedQuota := consumed, billingSource := some .wallet }
  { info := relayInfo
    autoGroup := none
    billing := some
      { relayInfo := relayInfo
        funding := .wallet { userId := 7, consumed := consumed }
        preConsumedQuota := consumed, tokenConsumed := consumed }
    db := db }

theorem realtime_charged_iff_trusted : ∃ base, sampleDB.AfterResets base ∧
      let st := (realtimeOpened realtimeRequest 0 sampleDB).run sampleEvents
      st.passed = [30] ∧
        (FundingSource.wallet { userId := 7 }).netTaken base st.db = 30 ∧ st.Released := by
  have hopen : openRealtime trustingOpenEnv none realtimeRequest sampleDB =
      .ok (realtimeOpened realtimeRequest 0 sampleDB) := by rfl
  obtain ⟨base, hresets, hcharged⟩ := realtime_charged_iff hopen rfl ⟨_, rfl⟩ rfl fun _ hmem => by
    simp [sampleDB, Table.empty] at hmem
  have hpassed : ((realtimeOpened realtimeRequest 0 sampleDB).run sampleEvents).passed = [30] := by
    decide +kernel
  have hiff := hcharged sampleEvents (by decide +kernel) (by decide +kernel)
  rw [hpassed] at hiff
  exact ⟨base, hresets, hpassed, hiff.2 rfl⟩

/-- The estimate of 100 is reserved, the response is charged 30, and the session ends with 130
taken. -/
theorem realtime_charged_twice : openRealtime sampleOpenEnv none realtimeRequest sampleDB =
        .ok (realtimeOpened realtimeRequest 100 walletReserved) ∧
      let st := (realtimeOpened realtimeRequest 100 walletReserved).run sampleEvents
      st.logged = some 30 ∧ st.failed = false ∧ st.passed.sum = 30 ∧
        st.funding.netTaken sampleDB st.db = 130 ∧
        (st.billing.map fun s => (s.settled, s.refunded)) = some (false, false) := by
  refine ⟨by rfl, ?_⟩
  decide +kernel

end Mujian.Billing
