import Mujian.Billing.Opening
import Mujian.Billing.StrictLedger

/-!
# What a legacy session takes

A session of the legacy mode should in the end have taken nothing, when it was refunded, or the
actual amount of the settlement that took effect (`SessionOutcome`). The session settles even when
it was refunded before, and then corrects a reservation that is no longer there. `legacy_totals`
states for which outcomes the net amount is right.
-/

namespace Mujian.Billing

open Relay (RelayInfo)

/-! ## The session as it was opened -/

/-- The reservation `max 0 p` of the session stands on top of the usage `base` of the funding
source, for the pre-consumed quota `p`. -/
structure OpenedLegacy (s : BillingSession) (base : ℤ) (db : DB) : Prop where
  legacy : s.usesAtomicStrictBilling = false
  settled : s.settled = false
  fundingSettled : s.fundingSettled = false
  settlementStarted : s.settlementStarted = false
  refunded : s.refunded = false
  tokenConsumed : s.tokenConsumed = max 0 s.preConsumedQuota
  reserved : s.funding.reserved = max 0 s.preConsumedQuota
  /-- A subscription always has something reserved. -/
  wallet_or_pos : (∃ w, s.funding = .wallet w) ∨ 0 < s.preConsumedQuota
  clamp_base : s.funding.clamp base = base
  holds : s.funding.Holds true (base + s.funding.reserved) db

/-- A wallet stands where the row of its user says. -/
theorem FundingSource.Holds.of_user {db : DB} {w : WalletFunding} {user : User}
    (hfind : db.users.find? w.userId = some user) :
    FundingSource.Holds true ((FundingSource.wallet w).used db) db (.wallet w) :=
  .wallet hfind (by simp [FundingSource.used, hfind])

/-- A new reservation from a subscription stands on top of its usage. -/
theorem FundingSource.Holds.of_reservedFrom {env : Env} {requestId : String} {userId amount : ℤ}
    {db db' : DB} {result : SubscriptionPreConsumeResult}
    (h : ReservedFrom env requestId userId amount db db' result) {s : SubscriptionFunding}
    (hrequest : s.requestId = requestId) (hid : s.subscriptionId = result.userSubscriptionId)
    (hpre : s.preConsumed = amount) :
    ∃ base, db.AfterResets base ∧
      FundingSource.Holds true ((FundingSource.subscription s).used base + s.preConsumed) db'
        (.subscription s) := by
  obtain ⟨base, sub, ledger, hresets, hsub, -, -, -, -, hinsert, rfl, rfl⟩ := h
  replace hid : s.subscriptionId = sub.id := hid
  have hfind : (base.chargeSubscription sub.id amount).subscriptions.find? s.subscriptionId =
      some { sub with amountUsed := sub.amountUsed + amount } := by
    rw [hid, DB.chargeSubscription, DB.find?_mapSubscription, if_pos rfl, hsub, Option.map_some]
  have hrecord : ledger.find? s.requestId =
      some (subscriptionRecord env requestId userId amount sub) := by
    rw [hrequest]
    exact (Table.find?_insert hinsert requestId).trans (if_pos rfl)
  refine ⟨base, hresets, .subscription hfind ?_ hrecord rfl hid.symm hpre.symm⟩
  simp [FundingSource.used, hid, hsub, hpre]

theorem clamp_used_of_nonneg {base : DB}
    (hused : ∀ id sub, base.subscriptions.find? id = some sub → 0 ≤ sub.amountUsed)
    (f : FundingSource) : f.clamp (f.used base) = f.used base := by
  cases f with
  | wallet w => rfl
  | subscription s =>
    refine max_eq_right ?_
    cases hfind : base.subscriptions.find? s.subscriptionId with
    | none => simp [FundingSource.used, hfind]
    | some sub => simpa [FundingSource.used, hfind] using hused _ _ hfind

section

variable {info : RelayInfo} {quota : ℤ} {s : BillingSession} {db db' : DB}

theorem openedLegacy_wallet {env : AttemptEnv} {userQuota : ℤ} {db₁ : DB}
    (hlegacy : info.usesAtomicStrictBilling = false) (hapart : db.ApartFromTokens db₁)
    (huser : ∃ user, db.users.find? info.userId = some user)
    (h : BillingSession.preConsume env quota
      { relayInfo := { info with userQuota := userQuota }
        funding := .wallet { userId := info.userId } } db₁ = (.ok s, db')) :
    OpenedLegacy s (s.funding.used db) db' := by
  obtain ⟨user, huser⟩ := huser
  obtain ⟨p, info', funding, db₂, -, hsame, hapart', hpre, rfl⟩ :=
    BillingSession.preConsume_legacy_cases h hlegacy
  have hmode : info'.usesAtomicStrictBilling = false := hsame.usesAtomicStrictBilling.trans hlegacy
  simp only [FundingSource.preConsume, FundingSource.preConsumeWallet] at hpre
  split at hpre
  · -- nothing is taken
    obtain ⟨rfl, rfl⟩ := Tx.run_pure_eq_ok.1 hpre
    have hholds := (FundingSource.Holds.of_user (w := { userId := info.userId })
      huser).of_apartFromTokens (hapart.trans hapart')
    refine ⟨hmode, rfl, rfl, rfl, rfl, ?_, ?_, .inl ⟨_, rfl⟩, rfl, ?_⟩
    · dsimp only
      split <;> omega
    · exact (max_eq_left ‹_›).symm
    · simpa [FundingSource.reserved] using hholds
  · rename_i hpos
    simp only [Tx.run_bind_eq_ok] at hpre
    obtain ⟨_, db₃, hdecrease, rfl, rfl⟩ := hpre
    obtain ⟨rfl, -⟩ | ⟨-, -, -, -, rfl⟩ := run_decreaseUserQuotaIfEnough_eq_ok.1 hdecrease
    · exact absurd le_rfl hpos
    have hholds := ((FundingSource.Holds.of_user (w := { userId := info.userId, consumed := p })
      huser).of_apartFromTokens (hapart.trans hapart')).addUserQuota (-p)
    refine ⟨hmode, rfl, rfl, rfl, rfl, ?_, ?_, .inl ⟨_, rfl⟩, rfl, ?_⟩
    · dsimp only
      split <;> omega
    · exact (max_eq_right (le_of_lt (not_le.1 hpos))).symm
    · rwa [sub_neg_eq_add] at hholds

theorem openedLegacy_subscription {env : AttemptEnv} {userQuota amount : ℤ} {db₁ : DB}
    (hlegacy : info.usesAtomicStrictBilling = false) (hapart : db.ApartFromTokens db₁)
    (hfresh : db.ledger.find? info.requestId = none)
    (hused : ∀ sub ∈ db.subscriptions.rows, 0 ≤ sub.amountUsed)
    (h : BillingSession.preConsume env amount
      { relayInfo := { info with userQuota := userQuota }
        funding := .subscription
          { requestId := info.requestId, userId := info.userId, amount := amount } } db₁ =
        (.ok s, db')) :
    ∃ base, db.AfterResets base ∧ OpenedLegacy s (s.funding.used base) db' := by
  obtain ⟨p, info', funding, db₂, hp, hsame, hapart', hpre, rfl⟩ :=
    BillingSession.preConsume_legacy_cases h hlegacy
  -- subscriptions are never trusted
  rw [BillingSession.shouldTrust, Bool.and_false] at hp
  subst hp
  have hmode : info'.usesAtomicStrictBilling = false := hsame.usesAtomicStrictBilling.trans hlegacy
  have hdb := hapart.trans hapart'
  simp only [FundingSource.preConsume, FundingSource.preConsumeSubscription, Tx.run_bind_eq_ok,
    Tx.run_pure_eq_ok] at hpre
  obtain ⟨result, db₃, hreserve, rfl, rfl⟩ := hpre
  obtain ⟨hpos, ⟨-, existing, hfind, -⟩ | ⟨-, hfrom⟩⟩ := preConsumeUserSubscription_cases hreserve
  · rw [hdb.ledger, hfresh] at hfind
    cases hfind
  have hresult : result.preConsumed = p := by
    obtain ⟨_, _, _, -, -, -, -, -, -, -, -, rfl⟩ := hfrom
    rfl
  obtain ⟨base, hresets, hholds⟩ := FundingSource.Holds.of_reservedFrom hfrom
    (s := { requestId := info.requestId, userId := info.userId, amount := p,
            subscriptionId := result.userSubscriptionId, preConsumed := result.preConsumed,
            amountTotal := result.amountTotal, amountUsedAfter := result.amountUsedAfter })
    rfl rfl hresult
  have hresets' := hresets.of_apartFromTokens hdb
  refine ⟨_, hresets', hmode, rfl, rfl, rfl, rfl, ?_, ?_, .inr hpos, ?_, ?_⟩
  · dsimp only
    split <;> omega
  · exact hresult.trans (max_eq_right hpos.le).symm
  · exact clamp_used_of_nonneg (fun id sub => hresets'.amountUsed_nonneg hused) _
  · exact hholds

/-- **A session of the legacy mode, as it was opened**: there is a database `base`, the one the
session found but for resets of subscriptions, on whose usage the reservation stands. -/
theorem openedLegacy_of_newBillingSession {env : OpenEnv}
    (hopen : newBillingSession env info quota db = (.ok s, db'))
    (hlegacy : info.usesAtomicStrictBilling = false)
    (huser : ∃ user, db.users.find? info.userId = some user)
    (hfresh : db.ledger.find? info.requestId = none)
    (hused : ∀ sub ∈ db.subscriptions.rows, 0 ≤ sub.amountUsed) :
    ∃ base, db.AfterResets base ∧ OpenedLegacy s (s.funding.used base) db' := by
  cases newBillingSession_cases hopen with
  | wallet hapart h => exact ⟨db, .refl db, openedLegacy_wallet hlegacy hapart huser h⟩
  | subscription hapart h => exact openedLegacy_subscription hlegacy hapart hfresh hused h

end

/-! ## What a sequence of calls amounts to -/

/-- The amount of the first settlement, and whether a refund was asked for before it. -/
structure SessionOutcome where
  refundFirst : Bool := false
  actual : Option ℤ := none

namespace SessionOutcome

def step (o : SessionOutcome) : SessionCall → SessionOutcome
  | .settle _ actualQuota => if o.actual.isNone then { o with actual := some actualQuota } else o
  | .refund => if o.actual.isNone then { o with refundFirst := true } else o
  | .finish _ _ => o

def run (calls : List SessionCall) : SessionOutcome := calls.foldl step {}

end SessionOutcome

/-- The reservation has not been given back. -/
def SessionState.live (st : SessionState) : Bool := !(st.session.refunded && st.pending.isEmpty)

/-- The usage of the funding source on top of `base`, with or without the reservation and after
the correction to the actual amount. -/
def BillingSession.usage (s : BillingSession) (base : ℤ) (live : Bool) (actual : Option ℤ) : ℤ :=
  s.funding.clamp (base + (if live then s.funding.reserved else 0) +
    (actual.getD s.preConsumedQuota - s.preConsumedQuota))

/-- The flags of the session tell what has been asked for, and the funding source stands where the
outcome says. -/
structure Agrees (s : BillingSession) (base : ℤ) (o : SessionOutcome) (st : SessionState) :
    Prop where
  session : ∃ info fundingSettled, SameRequest s.relayInfo info ∧
    (o.actual = none → fundingSettled = false) ∧
    st.session = { s with
      relayInfo := info, fundingSettled := fundingSettled
      settled := o.actual.isSome, refunded := o.refundFirst && decide (0 < s.preConsumedQuota) }
  effective : st.effective = o.actual
  pending : st.pending = [] ∨ st.session.refunded = true ∧ ∃ tokenId tokenConsumed isPlayground,
      st.pending = [.legacy s.funding tokenId tokenConsumed isPlayground]
  holds : s.funding.Holds st.live (s.usage base st.live o.actual) st.db

namespace FundingSource

theorem clamp_add {f : FundingSource} {x r : ℤ} (hx : f.clamp x = x) (hr : 0 ≤ r) :
    f.clamp (x + r) = x + r := by
  cases f with
  | wallet w => rfl
  | subscription s =>
    simp only [clamp] at hx ⊢
    omega

theorem clamp_clamp (f : FundingSource) (x : ℤ) : f.clamp (f.clamp x) = f.clamp x := by
  cases f with
  | wallet w => rfl
  | subscription s => exact max_eq_right (le_max_left 0 x)

theorem clamp_clamp_sub (f : FundingSource) (x : ℤ) {r : ℤ} (hr : 0 ≤ r) :
    f.clamp (f.clamp x - r) = f.clamp (x - r) := by
  cases f with
  | wallet w => rfl
  | subscription s =>
    simp only [clamp]
    omega

end FundingSource

section

variable {s : BillingSession} {base : ℤ} {db : DB} {o : SessionOutcome} {st : SessionState}

section

variable (h : OpenedLegacy s base db)
include h

theorem OpenedLegacy.reserved_nonneg : 0 ≤ s.funding.reserved := by
  rw [h.reserved]
  exact le_max_left _ _

/-- Before a settlement nothing is clamped. -/
theorem OpenedLegacy.usage_none (live : Bool) :
    s.usage base live none = base + if live then s.funding.reserved else 0 := by
  have hnonneg : 0 ≤ if live then s.funding.reserved else 0 := by
    cases live with
    | false => exact le_rfl
    | true => exact h.reserved_nonneg
  rw [BillingSession.usage, Option.getD_none, sub_self, add_zero,
    FundingSource.clamp_add h.clamp_base hnonneg]

theorem agrees_start : Agrees s base {} (s.start db) where
  session := ⟨s.relayInfo, s.fundingSettled, .refl _, fun _ => h.fundingSettled, by
    have hsettled := h.settled
    have hrefunded := h.refunded
    cases s
    subst hsettled hrefunded
    rfl⟩
  effective := rfl
  pending := .inl rfl
  holds := by
    have hlive : (s.start db).live = true := by
      simp [SessionState.live, BillingSession.start, h.refunded]
    rw [hlive, h.usage_none]
    exact h.holds

end

namespace Agrees

section

variable (h : Agrees s base o st)
include h

theorem settled : st.session.settled = o.actual.isSome := by
  obtain ⟨info, b, -, -, hsession⟩ := h.session
  rw [hsession]

theorem refunded : st.session.refunded = (o.refundFirst && decide (0 < s.preConsumedQuota)) := by
  obtain ⟨info, b, -, -, hsession⟩ := h.session
  rw [hsession]

/-- Only the session, the pending refunds, the database and the effective amount matter. -/
theorem congr {st' : SessionState}
    (hsession : st'.session = st.session) (hpending : st'.pending = st.pending)
    (hdb : st'.db = st.db) (heffective : st'.effective = st.effective) : Agrees s base o st' := by
  obtain ⟨session, pending, db, _, effective, _⟩ := st
  subst hsession hpending hdb heffective
  exact ⟨h.session, h.effective, h.pending, h.holds⟩

end

/-! ### One call -/

theorem settle_first (hopen : OpenedLegacy s base db) (h : Agrees s base o st)
    (hnone : o.actual = none) (env : CallEnv) (a : ℤ) :
    (st.step (.settle env a)).fundingFailed = true ∨
      Agrees s base { o with actual := some a } (st.step (.settle env a)) := by
  obtain ⟨info, b, hinfo, hb, hsession⟩ := h.session
  have hsettled : st.session.settled = false := by rw [h.settled, hnone]; rfl
  have hlegacy : st.session.usesAtomicStrictBilling = false := by
    rw [hsession]
    exact hinfo.usesAtomicStrictBilling.trans hopen.legacy
  have hcall : st.session.settle env a st.db = st.session.settleLegacy env a st.db := by
    rw [BillingSession.settle, if_neg (by simp [hsettled]), if_neg (by simp [hlegacy])]
  obtain ⟨e, hout⟩ | ⟨db₁, info', b', hrun, hapart, hinfo', hout⟩ :=
    BillingSession.settleLegacy_cases (by rw [hsession]; exact hb hnone) hcall.symm
  · left
    simp [SessionState.step, hout, hsettled]
  · right
    rw [hsession] at hinfo' hrun
    have hsession' : (st.step (.settle env a)).session = { s with
        relayInfo := info', fundingSettled := b'
        settled := true
        refunded := o.refundFirst && decide (0 < s.preConsumedQuota) } := by
      rw [show (st.step (.settle env a)).session = _ from hout, hsession]
    have hlive : (st.step (.settle env a)).live = st.live := by
      rw [SessionState.live, SessionState.live, hsession', h.refunded]
      rfl
    have hsome : some a = none → b' = false := fun hcontra => absurd hcontra (by simp)
    refine ⟨⟨info', b', hinfo.trans hinfo', hsome, hsession'⟩, ?_, ?_, ?_⟩
    · simp [SessionState.step, hout, hsettled]
    · rw [hsession', ← h.refunded]
      exact h.pending
    · -- the correction moves the usage from where it stood before any settlement
      have hstart := h.holds
      rw [hnone, hopen.usage_none] at hstart
      have hmoved := hstart.settle (by
        rw [← hopen.usage_none, BillingSession.usage, s.funding.clamp_clamp]) hrun
      rw [hlive]
      exact hmoved.of_apartFromTokens hapart

theorem settle_later (h : Agrees s base o st) {a₀ : ℤ} (hsome : o.actual = some a₀)
    (env : CallEnv) (a : ℤ) : Agrees s base o (st.step (.settle env a)) := by
  have hsettled : st.session.settled = true := by rw [h.settled, hsome]; rfl
  have hcall : st.session.settle env a st.db = (.ok (), st.session, st.db) := by
    rw [BillingSession.settle, if_pos hsettled]
  refine h.congr ?_ rfl ?_ ?_
  · simp only [SessionState.step, hcall]
  · simp only [SessionState.step, hcall]
  · simp [SessionState.step, hcall]

/-- Before a settlement and a refund, a session needs a refund exactly when it has reserved
something. -/
theorem needsRefundLocked (hopen : OpenedLegacy s base db) (h : Agrees s base o st)
    (hnone : o.actual = none) (hrefunded : st.session.refunded = false) :
    st.session.needsRefundLocked = decide (0 < s.preConsumedQuota) := by
  obtain ⟨info, b, -, hb, hsession⟩ := h.session
  have hflags := h.refunded.symm.trans hrefunded
  simp only [hsession, BillingSession.needsRefundLocked, hnone, hflags, hb hnone,
    hopen.settlementStarted, hopen.tokenConsumed, Option.isSome_none, Bool.or_self,
    Bool.false_eq_true, if_false]
  by_cases hpos : 0 < s.preConsumedQuota
  · rw [if_pos (lt_max_of_lt_right hpos), decide_eq_true hpos]
  · obtain ⟨w, hw⟩ := hopen.wallet_or_pos.resolve_right hpos
    rw [if_neg (by simpa using not_lt.1 hpos), hw, decide_eq_false hpos]

theorem refund_none (h : Agrees s base o st) (hcall : st.session.refund = (st.session, none)) :
    Agrees s base o (st.step .refund) := by
  refine h.congr ?_ ?_ rfl rfl <;> simp [SessionState.step, hcall]

/-- A refund that is decided on and left to the background. -/
theorem refund_some (h : Agrees s base o st)
    (hrefunded : st.session.refunded = false) (hpos : 0 < s.preConsumedQuota)
    (tokenId tokenConsumed : ℤ) (isPlayground : Bool)
    (hcall : st.session.refund = ({ st.session with refunded := true },
      some (.legacy st.session.funding tokenId tokenConsumed isPlayground))) :
    Agrees s base { o with refundFirst := true } (st.step .refund) := by
  obtain ⟨info, b, hinfo, hb, hsession⟩ := h.session
  have hempty : st.pending = [] := h.pending.resolve_right fun hjob => by simp [hrefunded] at hjob
  have hsession' : (st.step .refund).session = { st.session with refunded := true } :=
    congrArg Prod.fst hcall
  have hpending' : (st.step .refund).pending =
      [.legacy s.funding tokenId tokenConsumed isPlayground] := by
    have hfunding : st.session.funding = s.funding := by rw [hsession]
    simp [SessionState.step, hcall, hempty, hfunding]
  have hlive : st.live = true := by simp [SessionState.live, hrefunded]
  have hlive' : (st.step .refund).live = true := by simp [SessionState.live, hpending']
  refine ⟨⟨info, b, hinfo, hb, ?_⟩, h.effective, .inr ⟨?_, _, _, _, hpending'⟩, ?_⟩
  · rw [hsession', hsession, decide_eq_true hpos, Bool.and_true]
    rfl
  · rw [hsession']
  · rw [hlive', ← hlive]
    exact h.holds

theorem refund (hopen : OpenedLegacy s base db) (h : Agrees s base o st) :
    Agrees s base (o.step .refund) (st.step .refund) := by
  cases hactual : o.actual with
  | some a =>
    have hsettled : st.session.settled = true := by rw [h.settled, hactual]; rfl
    rw [show o.step .refund = o by simp [SessionOutcome.step, hactual]]
    exact h.refund_none (by simp [BillingSession.refund, hsettled])
  | none =>
    rw [show o.step .refund = { o with refundFirst := true } by
      simp [SessionOutcome.step, hactual]]
    cases hrefunded : st.session.refunded with
    | true =>
      have hfirst : o.refundFirst = true :=
        (Bool.and_eq_true_iff.1 (h.refunded.symm.trans hrefunded)).1
      rw [show { o with refundFirst := true } = o by rw [← hfirst]]
      exact h.refund_none (by simp [BillingSession.refund, hrefunded])
    | false =>
      have hneeds := h.needsRefundLocked hopen hactual hrefunded
      obtain ⟨info, b, hinfo, hb, hsession⟩ := h.session
      have hsettled : st.session.settled = false := by rw [h.settled, hactual]; rfl
      by_cases hpos : 0 < s.preConsumedQuota
      · have hlegacy : st.session.usesAtomicStrictBilling = false := by
          rw [hsession]
          exact hinfo.usesAtomicStrictBilling.trans hopen.legacy
        exact h.refund_some hrefunded hpos st.session.relayInfo.tokenId st.session.tokenConsumed
          st.session.relayInfo.isPlayground
          (by simp [BillingSession.refund, hsettled, hrefunded, hneeds, hpos, hlegacy])
      · -- nothing is reserved
        have hsame : Agrees s base { o with refundFirst := true } st :=
          ⟨⟨info, b, hinfo, hb, by simpa [hpos] using hsession⟩, h.effective, h.pending, h.holds⟩
        exact hsame.refund_none (by simp [BillingSession.refund, hneeds, hpos])

theorem finish (hopen : OpenedLegacy s base db) (h : Agrees s base o st) (env : CallEnv) (job : ℕ) :
    (st.step (.finish env job)).fundingFailed = true ∨
      Agrees s base o (st.step (.finish env job)) := by
  obtain hempty | ⟨hrefunded, tokenId, tokenConsumed, isPlayground, hjob⟩ := h.pending
  · exact .inr (by simpa [SessionState.step, hempty] using h)
  cases job with
  | succ job => exact .inr (by simpa [SessionState.step, hjob] using h)
  | zero =>
    cases hrefund : s.funding.refund env st.db with
    | mk result db₁ =>
    have hstep : st.step (.finish env 0) = { st with
        pending := [], db := refundToken env tokenId tokenConsumed isPlayground db₁
        fundingFailed := st.fundingFailed || !result.isOk } := by
      simp [SessionState.step, hjob, RefundJob.run, hrefund]
    rw [hstep]
    cases result with
    | error e => exact .inl (by simp [Except.toBool])
    | ok u =>
      right
      have hpos : 0 < s.funding.reserved := by
        have := (Bool.and_eq_true_iff.1 (h.refunded.symm.trans hrefunded)).2
        rw [hopen.reserved]
        exact lt_max_of_lt_right (of_decide_eq_true this)
      have hlive : st.live = true := by simp [SessionState.live, hjob]
      have hholds := h.holds
      rw [hlive] at hholds
      have hmoved := (hholds.refund hpos hrefund).of_apartFromTokens
        (apartFromTokens_refundToken env tokenId tokenConsumed isPlayground db₁)
      have husage : s.funding.clamp (s.usage base true o.actual - s.funding.reserved) =
          s.usage base false o.actual := by
        rw [BillingSession.usage, s.funding.clamp_clamp_sub _ hpos.le, BillingSession.usage]
        congr 1
        simp only [if_true, Bool.false_eq_true, if_false]
        omega
      rw [husage] at hmoved
      refine ⟨h.session, h.effective, .inl rfl, ?_⟩
      simpa [SessionState.live, hrefunded] using hmoved

end Agrees

/-! ### Whole runs -/

theorem fundingFailed_step (call : SessionCall) (h : st.fundingFailed = true) :
    (st.step call).fundingFailed = true := by
  cases call with
  | settle env a => simp [SessionState.step, h]
  | refund => exact h
  | finish env job =>
    simp only [SessionState.step]
    split
    · exact h
    · simp [h]

theorem agrees_step (hopen : OpenedLegacy s base db) (h : Agrees s base o st) (call : SessionCall) :
    (st.step call).fundingFailed = true ∨ Agrees s base (o.step call) (st.step call) := by
  cases call with
  | settle env a =>
    cases hactual : o.actual with
    | none =>
      rw [show o.step (.settle env a) = { o with actual := some a } by
        simp [SessionOutcome.step, hactual]]
      exact h.settle_first hopen hactual env a
    | some a₀ =>
      rw [show o.step (.settle env a) = o by simp [SessionOutcome.step, hactual]]
      exact .inr (h.settle_later hactual env a)
  | refund => exact .inr (h.refund hopen)
  | finish env job => exact h.finish hopen env job

theorem agrees_run (hopen : OpenedLegacy s base db) (calls : List SessionCall)
    (hok : ((s.start db).run calls).fundingFailed = false) :
    Agrees s base (SessionOutcome.run calls) ((s.start db).run calls) := by
  have hrun : ∀ o st, st.fundingFailed = true ∨ Agrees s base o st →
      (st.run calls).fundingFailed = true ∨
        Agrees s base (calls.foldl SessionOutcome.step o) (st.run calls) := by
    clear hok
    induction calls with
    | nil => exact fun o st h => h
    | cons call calls ih =>
      intro o st h
      refine ih (o.step call) (st.step call) ?_
      rcases h with hfailed | hagrees
      · exact .inl (fundingFailed_step call hfailed)
      · exact agrees_step hopen hagrees call
  exact (hrun {} _ (.inr (agrees_start hopen))).resolve_left (by simp [hok])

end

/-! ## The net amount taken -/

/-- What the funding source has lost since the database `base`. -/
def FundingSource.netTaken (f : FundingSource) (base db : DB) : ℤ := f.used db - f.used base

/-- Without a settlement there must be a refund, or nothing to give back. A settlement other than of
the reservation must not follow a refund, what is reserved must not be negative, and on a
subscription, with the usage `base` before, the clamping at 0 must not matter. -/
def SessionOutcome.Balanced (o : SessionOutcome) (s : BillingSession) (base : ℤ) : Prop :=
  match o.actual, s.funding with
  | none, _ => o.refundFirst = true ∨ s.preConsumedQuota ≤ 0
  | some actual, .wallet _ =>
    actual = s.preConsumedQuota ∨ s.preConsumedQuota = 0 ∨
      (0 < s.preConsumedQuota ∧ o.refundFirst = false)
  | some actual, .subscription _ =>
    if o.refundFirst then
      actual = s.preConsumedQuota ∨ (base = 0 ∧ actual < s.preConsumedQuota) ∨ base = -actual
    else 0 ≤ base + actual ∨ base = 0

/-- The closed form of the net amount is right exactly for the balanced outcomes. -/
theorem OpenedLegacy.balanced_iff {s : BillingSession} {base : ℤ} {db : DB}
    (h : OpenedLegacy s base db) (o : SessionOutcome) :
    (s.usage base (!(o.refundFirst && decide (0 < s.preConsumedQuota))) o.actual - base = 0 ∨
      o.actual = some
        (s.usage base (!(o.refundFirst && decide (0 < s.preConsumedQuota))) o.actual - base)) ↔
      o.Balanced s base := by
  obtain ⟨refundFirst, actual⟩ := o
  have hclamp := h.clamp_base
  have hreserved := h.reserved
  have hpos := h.wallet_or_pos
  simp only [BillingSession.usage, SessionOutcome.Balanced]
  generalize s.preConsumedQuota = p at *
  cases hfunding : s.funding with
  | wallet w =>
    rw [hfunding] at hreserved
    simp only [FundingSource.clamp]
    by_cases hp : 0 < p
    · cases actual <;> cases refundFirst <;> simp [hp] <;> omega
    · cases actual <;> cases refundFirst <;> simp [hp] <;> omega
  | subscription sub =>
    rw [hfunding] at hreserved hclamp hpos
    have hp : 0 < p := by
      rcases hpos with ⟨w, hw⟩ | hp
      · cases hw
      · exact hp
    simp only [FundingSource.clamp] at hclamp
    simp only [FundingSource.clamp]
    cases actual with
    | none | some => cases refundFirst <;> simp <;> omega

/-- **Legacy billing session totals.** After every sequence of settlements and refunds in which no
operation on the funding source fails and whose refunds have been carried out, the net amount taken,
counted from `base`, is 0 or the amount of the settlement that took effect exactly when the outcome
is balanced. -/
theorem legacy_totals {env : OpenEnv} {info : RelayInfo} {quota : ℤ} {s : BillingSession}
    {db db' : DB} (hopen : newBillingSession env info quota db = (.ok s, db'))
    (hlegacy : info.usesAtomicStrictBilling = false)
    (huser : ∃ user, db.users.find? info.userId = some user)
    (hfresh : db.ledger.find? info.requestId = none)
    (hused : ∀ sub ∈ db.subscriptions.rows, 0 ≤ sub.amountUsed) :
    ∃ base, db.AfterResets base ∧ ∀ calls,
      let st := (s.start db').run calls
      st.fundingFailed = false → st.pending = [] →
        ((s.funding.netTaken base st.db = 0 ∨
            st.effective = some (s.funding.netTaken base st.db)) ↔
          (SessionOutcome.run calls).Balanced s (s.funding.used base)) := by
  obtain ⟨base, hresets, hopened⟩ :=
    openedLegacy_of_newBillingSession hopen hlegacy huser hfresh hused
  refine ⟨base, hresets, fun calls hok hpending => ?_⟩
  have hagrees := agrees_run hopened calls hok
  have hlive : ((s.start db').run calls).live =
      !((SessionOutcome.run calls).refundFirst && decide (0 < s.preConsumedQuota)) := by
    rw [SessionState.live, hpending, hagrees.refunded, List.isEmpty_nil, Bool.and_true]
  have hused := hagrees.holds.used_eq
  rw [hlive] at hused
  rw [FundingSource.netTaken, hused, hagrees.effective]
  exact hopened.balanced_iff _

def sampleCallEnv : CallEnv := ⟨sampleEnv, sampleEnv, sampleEnv, sampleEnv, sampleEnv⟩

def sampleAttemptEnv : AttemptEnv := ⟨sampleEnv, sampleEnv, sampleEnv, 5000000, 500⟩

def sampleOpenEnv : OpenEnv := ⟨sampleAttemptEnv, sampleAttemptEnv, sampleEnv, none⟩

/-- A request of the legacy mode that is paid from the wallet. -/
def walletRequest : RelayInfo where
  userId := 7
  tokenId := 1
  requestId := "r"
  userSetting := { billingPreference := "wallet_only" }

def walletSession : BillingSession where
  relayInfo := { walletRequest with
    userQuota := 1000, finalPreConsumedQuota := 100, billingSource := some .wallet }
  funding := .wallet { userId := 7, consumed := 100 }
  preConsumedQuota := 100
  tokenConsumed := 100

def walletReserved : DB := (sampleDB.addUserQuota 7 (-100)).addTokenQuota 1 (-100)

theorem legacy_totals_sample : newBillingSession sampleOpenEnv walletRequest 100 sampleDB =
        (.ok walletSession, walletReserved) ∧
      ∃ base, sampleDB.AfterResets base ∧ ∀ calls,
        let st := (walletSession.start walletReserved).run calls
        st.fundingFailed = false → st.pending = [] →
          ((walletSession.funding.netTaken base st.db = 0 ∨
              st.effective = some (walletSession.funding.netTaken base st.db)) ↔
            (SessionOutcome.run calls).Balanced walletSession
              (walletSession.funding.used base)) := by
  have hopen : newBillingSession sampleOpenEnv walletRequest 100 sampleDB =
      (.ok walletSession, walletReserved) := by decide +kernel
  exact ⟨hopen, legacy_totals hopen (by decide) ⟨_, rfl⟩ rfl fun _ hmem => by
    simp [sampleDB, Table.empty] at hmem⟩

/-- The request was refunded in full; its settlement at 30 then returns another 70, so that the user
ends up with 1070. -/
theorem settled_after_refund : newBillingSession sampleOpenEnv walletRequest 100 sampleDB =
        (.ok walletSession, walletReserved) ∧
      walletRequest.usesAtomicStrictBilling = false ∧
      let st := (walletSession.start walletReserved).run
        [.refund, .finish sampleCallEnv 0, .settle sampleCallEnv 30]
      st.fundingFailed = false ∧ st.pending = [] ∧ st.effective = some 30 ∧
        walletSession.funding.netTaken sampleDB st.db = -70 ∧
        (st.db.users.find? 7).map User.quota = some 1070 := by decide +kernel

end Mujian.Billing
