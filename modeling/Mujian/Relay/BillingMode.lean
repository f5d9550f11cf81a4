import Mujian.Relay.Loop
import Mujian.Billing.SessionTotals

/-!
# The billing mode of a request

Whether a request is billed strictly is computed from the pricing data of the request each time
quota is reserved, settled or refunded, while every retry rewrites these data. The steps of the
retry loop and of the billing session may come in any order; a `Request` is the two together.
`billing_mode_stable` says that the mode stays the one at the reservation.
-/

namespace Mujian.Relay

open Billing

inductive BillingMode
  | strict
  | legacy

def RelayInfo.billingMode (info : RelayInfo) : BillingMode :=
  if info.usesAtomicStrictBilling then .strict else .legacy

def BillingMode.preConsume (env : AttemptEnv) (quota : ℤ) (s : BillingSession) (db : DB) :
    BillingMode → Except SessionError BillingSession × DB
  | strict => s.preConsumeStrict env quota db
  | legacy => s.preConsumeLegacy env quota db

def BillingMode.settle (env : CallEnv) (actualQuota : ℤ) (s : BillingSession) (db : DB) :
    BillingMode → Except BillingError Unit × BillingSession × DB
  | strict => s.settleStrict env actualQuota db
  | legacy => s.settleLegacy env actualQuota db

/-- The path of a refund that was decided on. -/
def refundMode : RefundJob → BillingMode
  | .strict _ => .strict
  | .legacy _ _ _ _ => .legacy

theorem refundMode_of_refund {s : BillingSession} {job : RefundJob} (h : s.refund.2 = some job) :
    refundMode job = s.relayInfo.billingMode := by
  unfold BillingSession.refund at h
  split at h
  · cases h
  · rw [RelayInfo.billingMode]
    split at h
    · obtain rfl := Option.some.inj h
      rw [if_pos ‹_›]
      rfl
    · obtain rfl := Option.some.inj h
      rw [if_neg ‹_›]
      rfl

/-- The pricing data that decide how much is reserved and how it is billed. -/
structure SameMode (info info' : RelayInfo) : Prop where
  channelSpecific : info'.priceData.channelSpecific = info.priceData.channelSpecific
  quotaToPreConsume : info'.priceData.quotaToPreConsume = info.priceData.quotaToPreConsume
  usesAtomicStrictBilling : info'.usesAtomicStrictBilling = info.usesAtomicStrictBilling

namespace SameMode

variable {info info₁ info₂ : RelayInfo}

theorem trans (h : SameMode info info₁) (h' : SameMode info₁ info₂) : SameMode info info₂ :=
  ⟨h'.1.trans h.1, h'.2.trans h.2, h'.3.trans h.3⟩

theorem of_sameRequest (h : SameRequest info info₁) : SameMode info info₁ :=
  ⟨by rw [h.priceData], by rw [h.priceData], h.usesAtomicStrictBilling⟩

theorem of_sameBilling (h : SameBilling info info₁) : SameMode info info₁ :=
  ⟨h.channelSpecific, h.quotaToPreConsume, h.usesAtomicStrictBilling⟩

theorem billingMode (h : SameMode info info₁) : info₁.billingMode = info.billingMode := by
  rw [RelayInfo.billingMode, h.usesAtomicStrictBilling, RelayInfo.billingMode]

end SameMode

structure Request where
  loop : State
  billing : SessionState

inductive RequestEvent
  | relay (moment : Moment)
  | billing (call : SessionCall)

namespace Request

/-- One step of the loop or one call on the session. What the one writes into the `RelayInfo`, the
other reads. -/
def step (retryTimes : ℤ) (r : Request) : RequestEvent → Request
  | .relay moment =>
    let loop := r.loop.step retryTimes moment
    { loop := loop
      billing := { r.billing with session := { r.billing.session with relayInfo := loop.info } } }
  | .billing call =>
    let billing := r.billing.step call
    { loop := { r.loop with info := billing.session.relayInfo }, billing := billing }

def run (retryTimes : ℤ) (r : Request) (events : List RequestEvent) : Request :=
  events.foldl (step retryTimes) r

def start (c : RequestContext) (info : RelayInfo) (s : BillingSession) (db : DB) : Request where
  loop := { Relay.start c info with info := s.relayInfo }
  billing := s.start db

/-- The loop and the session see the same pricing data, billed like those of `info`, and every
refund is of this mode. -/
structure Stable (info : RelayInfo) (r : Request) : Prop where
  shared : r.billing.session.relayInfo = r.loop.info
  sameMode : SameMode info r.loop.info
  pending : ∀ job ∈ r.billing.pending, refundMode job = info.billingMode

variable {info : RelayInfo} {r : Request}

theorem pending_step {st : SessionState} (h : ∀ job ∈ st.pending, refundMode job = info.billingMode)
    (hmode : st.session.relayInfo.billingMode = info.billingMode) (call : SessionCall) :
    ∀ job ∈ (st.step call).pending, refundMode job = info.billingMode := by
  cases call with
  | settle env actualQuota => exact h
  | refund =>
    intro job hjob
    rcases List.mem_append.1 hjob with hjob | hjob
    · exact h job hjob
    · rw [refundMode_of_refund (Option.mem_toList.1 hjob), hmode]
  | finish env index =>
    unfold SessionState.step
    simp only
    split
    · exact h
    · exact fun job hjob => h job (List.mem_of_mem_eraseIdx hjob)

theorem stable_step (h : Stable info r) (retryTimes : ℤ) (event : RequestEvent) :
    Stable info (r.step retryTimes event) := by
  cases event with
  | relay moment => exact ⟨rfl, h.sameMode.trans (.of_sameBilling sameBilling_step), h.pending⟩
  | billing call =>
    have hmode : r.billing.session.relayInfo.billingMode = info.billingMode := by
      rw [h.shared]
      exact h.sameMode.billingMode
    refine ⟨rfl, ?_, pending_step h.pending hmode call⟩
    have hsame := r.billing.sameRequest_step call
    rw [h.shared] at hsame
    exact h.sameMode.trans (.of_sameRequest hsame)

theorem stable_run (h : Stable info r) (retryTimes : ℤ) (events : List RequestEvent) :
    Stable info (r.run retryTimes events) := by
  induction events generalizing r with
  | nil => exact h
  | cons event events ih => exact ih (stable_step h retryTimes event)

end Request

/-- **The billing mode is stable.** Along every interleaving of the loop and of settlements and
refunds, with any outcome of the repricing at every retry, the mode of the request is the one of the
reservation, and settlements and refunds go through its path. -/
theorem billing_mode_stable (retryTimes : ℤ) (c : RequestContext) (info : RelayInfo)
    (env : OpenEnv) {s : BillingSession} {db db' : DB}
    (hopen : newBillingSession env (start c info).info info.priceData.quotaToPreConsume db =
      (.ok s, db')) :
    let reserved := (start c info).info
    (∃ attempt amount s₀ db₁,
      reserved.billingMode.preConsume attempt amount s₀ db₁ = (.ok s, db')) ∧
    ∀ events,
      let r := (Request.start c info s db').run retryTimes events
      r.loop.info.priceData.channelSpecific = info.priceData.channelSpecific ∧
      r.loop.info.priceData.quotaToPreConsume = info.priceData.quotaToPreConsume ∧
      r.billing.session.usesAtomicStrictBilling = reserved.usesAtomicStrictBilling ∧
      (∀ callEnv actualQuota, r.billing.session.settled = false →
        r.billing.session.settle callEnv actualQuota r.billing.db =
          reserved.billingMode.settle callEnv actualQuota r.billing.session r.billing.db) ∧
      ∀ job ∈ r.billing.pending, refundMode job = reserved.billingMode := by
  intro reserved
  obtain ⟨attempt, amount, s₀, db₁, hsame, -, hpre⟩ :=
    (newBillingSession_cases hopen).exists_preConsume
  have hmode : s₀.relayInfo.billingMode = reserved.billingMode :=
    (SameMode.of_sameRequest hsame).billingMode
  have hstart : Request.Stable reserved (Request.start c info s db') :=
    ⟨rfl, .of_sameRequest (hsame.trans (BillingSession.sameRequest_of_preConsume hpre)),
      fun _ => List.not_mem_nil.elim⟩
  refine ⟨⟨attempt, amount, s₀, db₁, ?_⟩, fun events => ?_⟩
  · rw [← hmode, ← hpre, BillingSession.preConsume, BillingSession.usesAtomicStrictBilling,
      RelayInfo.billingMode]
    split <;> rfl
  · have hstable := Request.stable_run hstart retryTimes events
    refine ⟨hstable.sameMode.channelSpecific, hstable.sameMode.quotaToPreConsume, ?_, ?_,
      hstable.pending⟩
    · rw [BillingSession.usesAtomicStrictBilling, hstable.shared]
      exact hstable.sameMode.usesAtomicStrictBilling
    · intro callEnv actualQuota hsettled
      rw [← hstable.sameMode.billingMode, ← hstable.shared, BillingSession.settle,
        if_neg (by simp [hsettled]), BillingSession.usesAtomicStrictBilling, RelayInfo.billingMode]
      split <;> rfl

def strictRequest : RelayInfo :=
  { walletRequest with priceData := { channelSpecific := true, quotaToPreConsume := 100 } }

def strictSession : BillingSession where
  relayInfo := { strictRequest with
    forcePreConsume := true, userQuota := 1000
    finalPreConsumedQuota := 100, billingSource := some .wallet }
  funding := .wallet { userId := 7, consumed := 100 }
  preConsumedQuota := 100
  tokenConsumed := 100

def strictReserved : DB :=
  (newBillingSession sampleOpenEnv (start sampleContext strictRequest).info 100 sampleDB).2

theorem billing_mode_stable_sample :
    newBillingSession sampleOpenEnv (start sampleContext strictRequest).info
        strictRequest.priceData.quotaToPreConsume sampleDB = (.ok strictSession, strictReserved) ∧
      ∀ events,
        let r := (Request.start sampleContext strictRequest strictSession strictReserved).run 1
          events
        r.billing.session.usesAtomicStrictBilling = true ∧
          ∀ job ∈ r.billing.pending, refundMode job = .strict := by
  have hopen : newBillingSession sampleOpenEnv (start sampleContext strictRequest).info
      strictRequest.priceData.quotaToPreConsume sampleDB =
        (.ok strictSession, strictReserved) := by decide +kernel
  have hstable := billing_mode_stable 1 sampleContext strictRequest sampleOpenEnv hopen
  exact ⟨hopen, fun events => ⟨(hstable.2 events).2.2.1, (hstable.2 events).2.2.2.2⟩⟩

end Mujian.Relay
