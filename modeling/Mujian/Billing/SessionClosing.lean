import Mujian.Billing.SessionTotals
import Mujian.Billing.Period

/-!
# Settled subscription reservations

Once a session on a subscription has been settled, its ledger record should be in a terminal
state, so that no later refund gives quota back (`finalized_of_closed`). A strict settlement closes
the record in the transaction that moves the balances; a legacy settlement does not look at the
ledger (`finalized_iff_strict`, `refunded_after_settlement`).
-/

namespace Mujian.Billing

open Relay (RelayInfo)

namespace DB

def Closed (db : DB) (requestId : String) : Prop :=
  ∃ record, db.ledger.find? requestId = some record ∧
    (record.status = .settled ∨ record.status = .refunded)

/-- The record is in a terminal state, a refund of the request changes nothing, and a cleanup
removes the record when it is old enough. -/
structure Finalized (db : DB) (requestId : String) : Prop where
  closed : db.Closed requestId
  refund_eq : ∀ env : Env, (env.commit (refundSubscriptionPreConsume env requestId) db).2 = db
  cleanup_removes : ∀ (env : Env) (olderThanSeconds : ℤ) (n : ℕ) (db' : DB),
    (cleanupSubscriptionPreConsumeRecords env olderThanSeconds).run db = .ok (n, db') →
    (∀ record, db.ledger.find? requestId = some record → record.updatedAt <
      env.now - if olderThanSeconds ≤ 0 then 7 * 24 * 3600 else olderThanSeconds) →
    db'.ledger.find? requestId = none

variable {db db' : DB} {requestId : String}

section

variable (h : db.Closed requestId)
include h

theorem Closed.refund_eq (env : Env) :
    (env.commit (refundSubscriptionPreConsume env requestId) db).2 = db := by
  obtain ⟨record, hfind, hterminal⟩ := h
  obtain hsame | ⟨u, hrun⟩ := env.commit_cases (refundSubscriptionPreConsume env requestId) db
  · exact hsame
  · obtain ⟨record', hfind', ⟨-, hsame⟩ | ⟨hstatus, -⟩⟩ := refundSubscriptionPreConsume_cases hrun
    · exact hsame
    · obtain rfl := Option.mem_unique hfind hfind'
      rcases hterminal with hterminal | hterminal <;> rw [hterminal] at hstatus <;> cases hstatus

theorem finalized_of_closed : db.Finalized requestId := by
  refine ⟨h, h.refund_eq, fun env olderThanSeconds n db' hrun hold => ?_⟩
  obtain ⟨record, hfind, hterminal⟩ := h
  have hdb := (Prod.mk.inj (Tx.run_modifyGet_eq_ok.1 hrun)).2
  rw [← hdb]
  simp only [Table.find?_deleteWhere, hfind, Option.filter, decide_eq_true (hold record hfind)]
  rcases hterminal with hterminal | hterminal <;> simp [hterminal]

end

theorem closed_mapRecord {record : SubscriptionPreConsumeRecord}
    {f : SubscriptionPreConsumeRecord → SubscriptionPreConsumeRecord}
    {hf : ∀ r, r.requestId = requestId → (f r).requestId = requestId}
    (hfind : db.ledger.find? requestId = some record)
    (hterminal : (f record).status = .settled ∨ (f record).status = .refunded) :
    (db.mapRecord requestId f hf).Closed requestId :=
  ⟨f record, by rw [find?_mapRecord, if_pos rfl, hfind, Option.map_some], hterminal⟩

end DB

section

variable {env : Env} {params : StrictBillingParams} {db db' : DB} {u : Unit}

theorem closed_of_settleStrictBilling
    (h : (settleStrictBilling env params).run db = .ok (u, db')) : db'.Closed params.requestID := by
  obtain ⟨record, hfind, -, -, -, ⟨hstatus, -, rfl⟩ | ⟨-, -, db₁, hmoved, rfl⟩⟩ :=
    settleStrictBilling_cases h
  · exact ⟨record, hfind, .inl hstatus⟩
  · rw [← hmoved.ledger] at hfind
    exact DB.closed_mapRecord hfind (.inl rfl)

theorem closed_of_refundStrictBilling
    (h : (refundStrictBilling env params).run db = .ok (u, db')) : db'.Closed params.requestID := by
  obtain ⟨record, hfind, -, -, ⟨hstatus, rfl⟩ | ⟨-, -, db₁, hmoved, rfl⟩⟩ :=
    refundStrictBilling_cases h
  · exact ⟨record, hfind, .inr hstatus⟩
  · rw [← hmoved.ledger] at hfind
    exact DB.closed_mapRecord hfind (.inr rfl)

end

/-- A settlement of the strict mode fails and changes nothing in the database, or closes the
record of its request. -/
theorem BillingSession.settleStrict_cases {env : CallEnv} {actualQuota : ℤ} {s : BillingSession}
    {db : DB} {out : Except BillingError Unit × BillingSession × DB}
    (h : s.settleStrict env actualQuota db = out) :
    (∃ e, out = (.error e, { s with settlementStarted := true }, db)) ∨
      ∃ info, SameRequest s.relayInfo info ∧ out.1 = .ok () ∧
        out.2.1 = { s with
          relayInfo := info, settlementStarted := true, fundingSettled := true, settled := true } ∧
        out.2.2.Closed s.relayInfo.requestId := by
  subst h
  unfold settleStrict
  simp only
  split
  · rename_i e db₁ hretry
    obtain ⟨hok, -⟩ | ⟨-, rfl⟩ := withRetry_cases hretry
    · cases hok
    · exact .inl ⟨e, rfl⟩
  · rename_i u db₁ hretry
    obtain ⟨-, env', hrun⟩ | ⟨⟨e, he⟩, -⟩ := withRetry_cases hretry
    · obtain ⟨info, hadd, hsame⟩ := exists_addPostDelta (actualQuota - s.preConsumedQuota)
        { s with settlementStarted := true }
      exact .inr ⟨info, hsame, rfl, by rw [hadd], closed_of_settleStrictBilling hrun⟩
    · cases he

/-- The refunds of a strict session are strict refunds of its request, and after a settlement the
record is closed. -/
structure StrictSound (requestId : String) (st : SessionState) : Prop where
  strict : st.session.usesAtomicStrictBilling = true
  request : st.session.relayInfo.requestId = requestId
  pending : ∀ job ∈ st.pending, ∃ params, job = .strict params ∧ params.requestID = requestId
  closed : st.session.settled = true ∨ st.succeeded = true → st.db.Closed requestId

namespace StrictSound

variable {requestId : String} {st : SessionState}

section

variable (h : StrictSound requestId st)
include h

theorem settle (env : CallEnv) (a : ℤ) : StrictSound requestId (st.step (.settle env a)) := by
  cases hsettled : st.session.settled with
  | true =>
    have hcall : st.session.settle env a st.db = (.ok (), st.session, st.db) := by
      rw [BillingSession.settle, if_pos hsettled]
    simp only [SessionState.step, hcall]
    exact ⟨h.strict, h.request, h.pending, fun _ => h.closed (.inl hsettled)⟩
  | false =>
    have hcall : st.session.settle env a st.db = st.session.settleStrict env a st.db := by
      rw [BillingSession.settle, if_neg (by simp [hsettled]), if_pos h.strict]
    obtain ⟨e, hout⟩ | ⟨info, hsame, -, hsession, hclosed⟩ :=
      BillingSession.settleStrict_cases hcall.symm
    · simp only [SessionState.step, hout]
      refine ⟨h.strict, h.request, h.pending, fun hdone => h.closed (.inr ?_)⟩
      simpa [hsettled, Except.toBool] using hdone
    · rw [h.request] at hclosed
      refine ⟨?_, ?_, h.pending, fun _ => hclosed⟩
      · simp only [SessionState.step, hsession]
        exact hsame.usesAtomicStrictBilling.trans h.strict
      · simp only [SessionState.step, hsession]
        exact hsame.requestId.trans h.request

theorem refund : StrictSound requestId (st.step .refund) := by
  by_cases hdone : (st.session.settled || st.session.refunded ||
      !st.session.needsRefundLocked) = true
  · have hcall : st.session.refund = (st.session, none) := by
      rw [BillingSession.refund, if_pos hdone]
    simp only [SessionState.step, hcall, Option.toList_none, List.append_nil]
    exact ⟨h.strict, h.request, h.pending, h.closed⟩
  · simp only [SessionState.step, BillingSession.refund, if_neg hdone, if_pos h.strict]
    refine ⟨h.strict, h.request, fun job hjob => ?_, h.closed⟩
    rcases List.mem_append.1 hjob with hjob | hjob
    · exact h.pending job hjob
    · exact ⟨_, List.mem_singleton.1 hjob, h.request⟩

theorem finish (env : CallEnv) (job : ℕ) : StrictSound requestId (st.step (.finish env job)) := by
  simp only [SessionState.step]
  split
  · exact h
  · rename_i refundJob hjob
    obtain ⟨params, rfl, hparams⟩ := h.pending refundJob (List.mem_of_getElem? hjob)
    have hpending : ∀ job' ∈ st.pending.eraseIdx job,
        ∃ params, job' = .strict params ∧ params.requestID = requestId :=
      fun job' hmem => h.pending job' (List.mem_of_mem_eraseIdx hmem)
    simp only [RefundJob.run]
    split
    · rename_i e db₁ hcommit
      rw [Env.commit_eq_error hcommit]
      exact ⟨h.strict, h.request, hpending, h.closed⟩
    · rename_i u db₁ hcommit
      have hclosed := closed_of_refundStrictBilling (Env.commit_eq_ok hcommit)
      rw [hparams] at hclosed
      exact ⟨h.strict, h.request, hpending, fun _ => hclosed⟩

theorem step (call : SessionCall) : StrictSound requestId (st.step call) := by
  cases call with
  | settle env a => exact h.settle env a
  | refund => exact h.refund
  | finish env job => exact h.finish env job

theorem run (calls : List SessionCall) : StrictSound requestId (st.run calls) := by
  induction calls generalizing st with
  | nil => exact h
  | cons call calls ih => exact ih (h.step call)

end

end StrictSound

section

variable {env : OpenEnv} {info : RelayInfo} {quota : ℤ} {s : BillingSession} {db db' : DB}

section

variable (hopen : newBillingSession env info quota db = (.ok s, db'))
include hopen

theorem strictSound_start (hstrict : info.usesAtomicStrictBilling = true) :
    StrictSound info.requestId (s.start db') := by
  obtain ⟨attempt, amount, s₀, db₁, hsame, hsettled, hpre⟩ :=
    (newBillingSession_cases hopen).exists_preConsume
  obtain ⟨info', result, hsame', -, rfl⟩ := BillingSession.preConsume_strict_cases hpre
    (hsame.usesAtomicStrictBilling.trans hstrict)
  have hinfo := hsame.trans hsame'
  refine ⟨hinfo.usesAtomicStrictBilling.trans hstrict, hinfo.requestId,
    fun _ => List.not_mem_nil.elim, fun hdone => ?_⟩
  simp [BillingSession.start, hsettled] at hdone

theorem consumed_of_legacy
    (hlegacy : info.usesAtomicStrictBilling = false) (hsub : s.funding.source = .subscription) :
    s.settled = false ∧ s.usesAtomicStrictBilling = false ∧
      ∃ record, db'.ledger.find? info.requestId = some record ∧ record.status = .consumed := by
  cases newBillingSession_cases hopen with
  | wallet hapart h =>
    obtain ⟨p, info', funding, db₁, -, -, -, hpre, rfl⟩ :=
      BillingSession.preConsume_legacy_cases h hlegacy
    simp only [FundingSource.preConsume, FundingSource.preConsumeWallet] at hpre
    split at hpre
    · obtain ⟨rfl, -⟩ := Tx.run_pure_eq_ok.1 hpre
      cases hsub
    · simp only [Tx.run_bind_eq_ok, Tx.run_pure_eq_ok] at hpre
      obtain ⟨_, _, -, rfl, -⟩ := hpre
      cases hsub
  | subscription hapart h =>
    obtain ⟨p, info', funding, db₁, -, hsame, -, hpre, rfl⟩ :=
      BillingSession.preConsume_legacy_cases h hlegacy
    refine ⟨rfl, hsame.usesAtomicStrictBilling.trans hlegacy, ?_⟩
    simp only [FundingSource.preConsume, FundingSource.preConsumeSubscription, Tx.run_bind_eq_ok,
      Tx.run_pure_eq_ok] at hpre
    obtain ⟨result, _, hreserve, rfl, rfl⟩ := hpre
    obtain ⟨-, ⟨rfl, existing, hfind, -, hstatus, -⟩ |
      ⟨-, db₂, sub, ledger, -, -, -, -, -, -, hinsert, rfl, -⟩⟩ :=
      preConsumeUserSubscription_cases hreserve
    · exact ⟨existing, hfind, hstatus⟩
    · exact ⟨_, (Table.find?_insert hinsert info.requestId).trans (if_pos rfl), rfl⟩

end

/-- **Settled subscription reservations are closed** exactly in the strict mode: then the
reservation is over in every state that is reached after a settlement has returned success. -/
theorem finalized_iff_strict (hopen : newBillingSession env info quota db = (.ok s, db'))
    (hsub : s.funding.source = .subscription) :
    (∀ calls, ((s.start db').run calls).succeeded = true →
      ((s.start db').run calls).db.Finalized info.requestId) ↔
      info.usesAtomicStrictBilling = true := by
  constructor
  · intro hclosed
    by_contra hlegacy
    rw [Bool.not_eq_true] at hlegacy
    obtain ⟨hsettled, hmode, record, hfind, hstatus⟩ := consumed_of_legacy hopen hlegacy hsub
    -- in any environment, a settlement at the reserved amount succeeds and touches nothing
    have hcall : ∀ env, s.settle env s.preConsumedQuota db' =
        (.ok (), { s with settled := true }, db') := by
      simp [BillingSession.settle, hsettled, hmode, BillingSession.settleLegacy]
    have hdone := hclosed [.settle sampleCallEnv s.preConsumedQuota] (by
      simp [SessionState.run, SessionState.step, BillingSession.start, hcall, Except.toBool])
    obtain ⟨record', hfind', hterminal⟩ := hdone.closed
    simp only [SessionState.run, SessionState.step, BillingSession.start, hcall,
      List.foldl_cons, List.foldl_nil] at hfind'
    obtain rfl := Option.mem_unique hfind hfind'
    rw [hstatus] at hterminal
    simp at hterminal
  · intro hstrict calls hsucceeded
    exact DB.finalized_of_closed
      (((strictSound_start hopen hstrict).run calls).closed (.inr hsucceeded))

end

/-- A request of the legacy mode that is paid from a subscription. -/
def subscriptionRequest : RelayInfo where
  userId := 7
  requestId := "r"
  isPlayground := true
  userSetting := { billingPreference := "subscription_only" }

def subscriptionSession : BillingSession where
  relayInfo := { subscriptionRequest with
    finalPreConsumedQuota := 100, billingSource := some .subscription
    subscriptionId := 3, subscriptionPreConsumed := 100
    subscriptionAmountTotal := 1000, subscriptionAmountUsedAfterPreConsume := 100 }
  funding := .subscription
    { requestId := "r", userId := 7, amount := 100, subscriptionId := 3, preConsumed := 100,
      amountTotal := 1000, amountUsedAfter := 100 }
  preConsumedQuota := 100
  tokenConsumed := 100

/-- An environment at a time when the sample subscription is active. -/
def earlyOpenEnv : OpenEnv :=
  let attempt := { sampleAttemptEnv with funding := { sampleEnv with now := 5 } }
  ⟨attempt, attempt, sampleEnv, none⟩

def subscriptionReserved : DB :=
  (newBillingSession earlyOpenEnv subscriptionRequest 100 subscriptionDB).2

theorem finalized_iff_strict_sample :
    newBillingSession earlyOpenEnv subscriptionRequest 100 subscriptionDB =
        (.ok subscriptionSession, subscriptionReserved) ∧
      subscriptionSession.funding.source = .subscription ∧
      ((∀ calls, ((subscriptionSession.start subscriptionReserved).run calls).succeeded = true →
          ((subscriptionSession.start subscriptionReserved).run calls).db.Finalized "r") ↔
        subscriptionRequest.usesAtomicStrictBilling = true) := by
  have hopen : newBillingSession earlyOpenEnv subscriptionRequest 100 subscriptionDB =
      (.ok subscriptionSession, subscriptionReserved) := by decide +kernel
  exact ⟨hopen, rfl, finalized_iff_strict hopen rfl⟩

/-- The request was settled at 80; its record is still consumed, and a refund takes the 80 off the
usage again. -/
theorem refunded_after_settlement :
    newBillingSession earlyOpenEnv subscriptionRequest 100 subscriptionDB =
        (.ok subscriptionSession, subscriptionReserved) ∧
      let st := (subscriptionSession.start subscriptionReserved).run [.settle sampleCallEnv 80]
      st.succeeded = true ∧
        (st.db.ledger.find? "r").map SubscriptionPreConsumeRecord.status = some .consumed ∧
        (st.db.subscriptions.find? 3).map UserSubscription.amountUsed = some 80 ∧
        ((sampleEnv.commit (refundSubscriptionPreConsume sampleEnv "r")
          st.db).2.subscriptions.find? 3).map UserSubscription.amountUsed = some 0 := by
  decide +kernel

end Mujian.Billing
