import Mujian.Billing.Funding

/-!
# Billing sessions

A billing session reserves quota before a request is relayed, and afterwards settles the reservation
to the actual amount or gives it back. Requests of the strict mode go through the transactions of
strict billing; the others move the funding source and the token one after the other. What a refund
has decided under the lock of the session is a `RefundJob`.
-/

namespace Mujian.Billing

open Relay (RelayInfo BillingSource)

structure BillingSession where
  relayInfo : RelayInfo
  funding : FundingSource
  (preConsumedQuota tokenConsumed : ℤ := 0)
  (fundingSettled settled settlementStarted refunded : Bool := false)
  deriving DecidableEq

namespace BillingSession

def usesAtomicStrictBilling (s : BillingSession) : Bool := s.relayInfo.usesAtomicStrictBilling

section

variable (env : CallEnv) (delta : ℤ) (actualQuota : ℤ) (s : BillingSession)

/-- The log of the request shows by how much a subscription was corrected. -/
def addPostDelta : BillingSession :=
  match s.funding with
  | .wallet _ => s
  | .subscription _ =>
    { s with relayInfo := { s.relayInfo with
      subscriptionPostDelta := s.relayInfo.subscriptionPostDelta + delta } }

section

variable (db : DB)

def settleStrict : Except BillingError Unit × BillingSession × DB :=
  let s := { s with settlementStarted := true }
  let params : StrictBillingParams :=
    { requestID := s.relayInfo.requestId
      userID := s.relayInfo.userId, subscriptionID := s.relayInfo.subscriptionId
      tokenID := s.relayInfo.tokenId, skipToken := s.relayInfo.isPlayground
      actualQuota := actualQuota
      allowOverdraft :=
        s.relayInfo.imageRetail.isNone && s.relayInfo.priceData.settlesUpstreamUsage }
  match withRetry (settleStrictBilling · params) env.first [env.second, env.third] db with
  | (.error e, db) => (.error e, s, db)
  | (.ok _, db) =>
    (.ok (), { s.addPostDelta (actualQuota - s.preConsumedQuota) with
      fundingSettled := true, settled := true }, db)

def settleFunding : Except BillingError Unit × DB :=
  if s.fundingSettled then (.ok (), db) else env.funding.commit (s.funding.settle delta) db

def settleToken : Except BillingError Unit × DB :=
  if s.relayInfo.isPlayground then (.ok (), db)
  else if delta > 0 then env.token.commit (decreaseTokenQuota s.relayInfo.tokenId delta) db
  else env.token.commit (increaseTokenQuota s.relayInfo.tokenId (-delta)) db

/-- Once the funding source is settled, the session is settled whatever happens to the token. -/
def settleLegacy : Except BillingError Unit × BillingSession × DB :=
  let delta := actualQuota - s.preConsumedQuota
  if delta = 0 then (.ok (), { s with settled := true }, db)
  else
    match s.settleFunding env delta db with
    | (.error e, db) => (.error e, s, db)
    | (.ok _, db) =>
      let (tokenResult, db) := s.settleToken env delta db
      (tokenResult, { s.addPostDelta delta with fundingSettled := true, settled := true }, db)

def settle : Except BillingError Unit × BillingSession × DB :=
  if s.settled then (.ok (), s, db)
  else if s.usesAtomicStrictBilling then s.settleStrict env actualQuota db
  else s.settleLegacy env actualQuota db

end

end

end BillingSession

/-- What a refund does after it has let go of the session: in the background in the legacy mode,
while the caller waits in the strict mode; other calls may come in between. -/
inductive RefundJob
  | legacy (funding : FundingSource) (tokenId tokenConsumed : ℤ) (isPlayground : Bool)
  | strict (params : StrictBillingParams)

namespace BillingSession

def needsRefundLocked (s : BillingSession) : Bool :=
  if s.settled || s.refunded || s.fundingSettled || s.settlementStarted then false
  else if s.tokenConsumed > 0 then true
  else
    match s.funding with
    | .wallet _ => false
    | .subscription sub => sub.preConsumed > 0

def refund (s : BillingSession) : BillingSession × Option RefundJob :=
  if s.settled || s.refunded || !s.needsRefundLocked then (s, none)
  else if s.usesAtomicStrictBilling then
    (s, some (.strict
      { requestID := s.relayInfo.requestId
        userID := s.relayInfo.userId, subscriptionID := s.relayInfo.subscriptionId
        tokenID := s.relayInfo.tokenId, skipToken := s.relayInfo.isPlayground
        actualQuota := 0, allowOverdraft := false }))
  else
    ({ s with refunded := true }, some
      (.legacy s.funding s.relayInfo.tokenId s.tokenConsumed s.relayInfo.isPlayground))

end BillingSession

/-- The token is refunded whether or not the funding source was. -/
def refundToken (env : CallEnv) (tokenId tokenConsumed : ℤ) (isPlayground : Bool) (db : DB) : DB :=
  if tokenConsumed > 0 && !isPlayground then
    (env.token.commit (increaseTokenQuota tokenId tokenConsumed) db).2
  else db

/-- Finishes a refund. The result is that of the funding source or of the strict refund. -/
def RefundJob.run (env : CallEnv) (s : BillingSession) (db : DB) :
    RefundJob → Except BillingError Unit × BillingSession × DB
  | legacy funding tokenId tokenConsumed isPlayground =>
    let (result, db) := funding.refund env db
    (result, s, refundToken env tokenId tokenConsumed isPlayground db)
  | strict params =>
    match env.funding.commit (refundStrictBilling env.funding params) db with
    | (.error e, db) => (.error e, s, db)
    | (.ok _, db) => (.ok (), { s with refunded := true }, db)

/-- A session with the refunds it has decided on but not finished, and the database. -/
structure SessionState where
  session : BillingSession
  pending : List RefundJob := []
  db : DB
  /-- Whether an operation on the funding source has failed so far. -/
  fundingFailed : Bool := false
  /-- The amount of the settlement that took effect. -/
  effective : Option ℤ := none
  succeeded : Bool := false

inductive SessionCall
  | settle (env : CallEnv) (actualQuota : ℤ)
  | refund
  | finish (env : CallEnv) (job : ℕ)

namespace SessionState

/-- One call. After a settlement the session is settled unless the funding source failed. -/
def step (st : SessionState) : SessionCall → SessionState
  | .settle env actualQuota =>
    let out := st.session.settle env actualQuota st.db
    { st with
      session := out.2.1, db := out.2.2
      fundingFailed := st.fundingFailed || !out.2.1.settled
      effective := if !st.session.settled && out.2.1.settled then some actualQuota
        else st.effective
      succeeded := st.succeeded || out.1.isOk }
  | .refund =>
    { st with session := st.session.refund.1, pending := st.pending ++ st.session.refund.2.toList }
  | .finish env job =>
    match st.pending[job]? with
    | none => st
    | some refundJob =>
      let out := refundJob.run env st.session st.db
      { st with
        session := out.2.1, pending := st.pending.eraseIdx job
        db := out.2.2, fundingFailed := st.fundingFailed || !out.1.isOk }

def run (st : SessionState) (calls : List SessionCall) : SessionState := calls.foldl step st

end SessionState

def BillingSession.start (s : BillingSession) (db : DB) : SessionState := { session := s, db := db }

structure SameRequest (info info' : RelayInfo) : Prop where
  requestId : info'.requestId = info.requestId
  forcePreConsume : info'.forcePreConsume = info.forcePreConsume
  priceData : info'.priceData = info.priceData
  imageRetail : info'.imageRetail = info.imageRetail

theorem SameRequest.usesAtomicStrictBilling {info info' : RelayInfo} (h : SameRequest info info') :
    info'.usesAtomicStrictBilling = info.usesAtomicStrictBilling := by
  simp only [RelayInfo.usesAtomicStrictBilling, h.forcePreConsume, h.priceData, h.imageRetail]

theorem SameRequest.refl (info : RelayInfo) : SameRequest info info := ⟨rfl, rfl, rfl, rfl⟩

theorem SameRequest.trans {info₁ info₂ info₃ : RelayInfo} (h : SameRequest info₁ info₂)
    (h' : SameRequest info₂ info₃) : SameRequest info₁ info₃ :=
  ⟨h'.requestId.trans h.requestId, h'.forcePreConsume.trans h.forcePreConsume,
    h'.priceData.trans h.priceData, h'.imageRetail.trans h.imageRetail⟩

namespace BillingSession

theorem exists_addPostDelta (delta : ℤ) (s : BillingSession) :
    ∃ info, s.addPostDelta delta = { s with relayInfo := info } ∧ SameRequest s.relayInfo info := by
  unfold addPostDelta
  split
  · exact ⟨s.relayInfo, rfl, .refl _⟩
  · exact ⟨_, rfl, rfl, rfl, rfl, rfl⟩

theorem sameRequest_addPostDelta (delta : ℤ) (s : BillingSession) :
    SameRequest s.relayInfo (s.addPostDelta delta).relayInfo := by
  obtain ⟨info, hadd, hsame⟩ := exists_addPostDelta delta s
  rw [hadd]
  exact hsame

/-- A settlement of either mode writes no other field of the request than the log of the
correction. -/
theorem sameRequest_settle (env : CallEnv) (actualQuota : ℤ) (s : BillingSession) (db : DB) :
    SameRequest s.relayInfo (s.settle env actualQuota db).2.1.relayInfo := by
  unfold settle
  split
  · exact .refl _
  split
  · unfold settleStrict
    simp only
    split
    · exact .refl _
    · exact sameRequest_addPostDelta _ { s with settlementStarted := true }
  · unfold settleLegacy
    simp only
    split
    · exact .refl _
    split
    · exact .refl _
    · exact sameRequest_addPostDelta _ s

theorem relayInfo_refund (s : BillingSession) : s.refund.1.relayInfo = s.relayInfo := by
  unfold refund
  split
  · rfl
  split <;> rfl

theorem apartFromTokens_settleToken (env : CallEnv) (delta : ℤ) (s : BillingSession) (db : DB) :
    db.ApartFromTokens (s.settleToken env delta db).2 := by
  unfold settleToken
  split
  · exact .refl db
  split
  · exact Env.apartFromTokens_commit fun _ _ => apartFromTokens_of_decreaseTokenQuota
  · exact Env.apartFromTokens_commit fun _ _ => apartFromTokens_of_increaseTokenQuota

/-- A settlement of the legacy mode is refused by the funding source, or moves the funding source
by the delta and settles the session. -/
theorem settleLegacy_cases {env : CallEnv} {actualQuota : ℤ} {s : BillingSession} {db : DB}
    (hs : s.fundingSettled = false) {out : Except BillingError Unit × BillingSession × DB}
    (h : s.settleLegacy env actualQuota db = out) :
    (∃ e, out = (.error e, s, db)) ∨ ∃ db₁ info fundingSettled,
        (s.funding.settle (actualQuota - s.preConsumedQuota)).run db = .ok ((), db₁) ∧
        db₁.ApartFromTokens out.2.2 ∧ SameRequest s.relayInfo info ∧
        out.2.1 = { s with
          relayInfo := info, fundingSettled := fundingSettled, settled := true } := by
  subst h
  unfold settleLegacy
  simp only
  split
  · rename_i hdelta
    refine .inr ⟨db, s.relayInfo, s.fundingSettled, ?_, .refl db, .refl _, rfl⟩
    rw [hdelta]
    exact s.funding.run_settle_zero db
  · simp only [settleFunding, hs, Bool.false_eq_true, if_false]
    split
    · rename_i e db₁ hcommit
      rw [Env.commit_eq_error hcommit]
      exact .inl ⟨e, rfl⟩
    · rename_i u db₁ hcommit
      obtain ⟨info, hadd, hsame⟩ := exists_addPostDelta (actualQuota - s.preConsumedQuota) s
      refine .inr ⟨db₁, info, true, Env.commit_eq_ok hcommit, ?_, hsame, ?_⟩
      · exact apartFromTokens_settleToken env _ s db₁
      · rw [hadd]

end BillingSession

theorem apartFromTokens_refundToken (env : CallEnv) (tokenId tokenConsumed : ℤ)
    (isPlayground : Bool) (db : DB) :
    db.ApartFromTokens (refundToken env tokenId tokenConsumed isPlayground db) := by
  unfold refundToken
  split
  · exact Env.apartFromTokens_commit fun _ _ => apartFromTokens_of_increaseTokenQuota
  · exact .refl db

theorem RefundJob.relayInfo_run (env : CallEnv) (s : BillingSession) (db : DB) (job : RefundJob) :
    (job.run env s db).2.1.relayInfo = s.relayInfo := by
  cases job with
  | legacy funding tokenId tokenConsumed isPlayground => rfl
  | strict params =>
    unfold RefundJob.run
    simp only
    split <;> rfl

theorem SessionState.sameRequest_step (st : SessionState) (call : SessionCall) :
    SameRequest st.session.relayInfo (st.step call).session.relayInfo := by
  cases call with
  | settle env actualQuota => exact st.session.sameRequest_settle env actualQuota st.db
  | refund =>
    rw [step, st.session.relayInfo_refund]
    exact .refl _
  | finish env job =>
    unfold step
    simp only
    split
    · exact .refl _
    · rw [RefundJob.relayInfo_run]
      exact .refl _

end Mujian.Billing
