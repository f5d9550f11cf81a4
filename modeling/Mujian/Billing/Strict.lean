import Mujian.Billing.Quota
import Mujian.Billing.Subscription

/-!
# Strict billing

`preConsumeStrictBilling` reserves token and funding quota and creates the ledger record of the
request, `settleStrictBilling` corrects the reservation to the actual amount, and
`refundStrictBilling` gives it back. Each is one transaction. The rules `…_cases` list what a
successful call can have done: a replay, which changes nothing, or a change to the record together
with the matching changes of the balances.
-/

namespace Mujian.Billing

structure StrictBillingPreConsumeParams where
  requestID : String
  userID : ℤ
  useSubscription : Bool
  tokenID : ℤ
  skipToken : Bool
  quota : ℤ

/-- The funding source of a strict reservation; `subscriptionID = 0` is the wallet. -/
structure StrictBillingPreConsumeResult where
  (subscriptionID preConsumed amountTotal amountUsedAfter : ℤ)
  deriving DecidableEq

/-- One strict reservation at settlement or refund; `subscriptionID = 0` is the wallet. -/
structure StrictBillingParams where
  requestID : String
  (userID subscriptionID tokenID : ℤ)
  skipToken : Bool
  actualQuota : ℤ
  allowOverdraft : Bool

section

variable (env : Env) (params : StrictBillingPreConsumeParams)
  (record : SubscriptionPreConsumeRecord)

def validateStrictBillingPreConsumeParams : DBTx Unit := do
  Tx.failIf (trimSpace params.requestID = "") .requestIdEmpty
  Tx.failIf (params.userID ≤ 0) .invalidUserId
  Tx.failIf (params.quota ≤ 0) .quotaNotPositive
  Tx.failIf (¬params.skipToken ∧ params.tokenID ≤ 0) .invalidTokenId

def validateStrictBillingParams (params : StrictBillingParams) : DBTx Unit := do
  Tx.failIf (trimSpace params.requestID = "") .requestIdEmpty
  Tx.failIf (params.userID ≤ 0) .invalidUserId
  Tx.failIf (params.subscriptionID < 0) .invalidSubscriptionId
  Tx.failIf (params.actualQuota < 0) .actualQuotaNegative
  Tx.failIf (¬params.skipToken ∧ params.tokenID ≤ 0) .invalidTokenId

def validateStrictBillingRecord (userID subscriptionID : ℤ) : DBTx Unit := do
  Tx.failIf (record.userId ≠ userID) .strictAnotherUser
  Tx.failIf (record.userSubscriptionId ≠ subscriptionID) .strictFundingMismatch

def strictBillingQuotaFromRecord : DBTx ℤ := do
  Tx.failIf (record.preConsumed ≤ 0) .strictInvalidPreConsumed
  pure record.preConsumed

/-- Report the live reservation of a request again. -/
def loadExistingStrictReservation : DBTx StrictBillingPreConsumeResult := do
  Tx.failIf (record.userId ≠ params.userID) .strictAnotherUser
  Tx.failIf (params.useSubscription ≠ decide (record.userSubscriptionId > 0))
    .strictFundingMismatch
  Tx.failIf (record.status ≠ .consumed ∨ record.preConsumed ≠ params.quota)
    (.strictAlready record.status)
  if record.userSubscriptionId = 0 then
    pure
      { subscriptionID := record.userSubscriptionId
        preConsumed := record.preConsumed, amountTotal := 0
        amountUsedAfter := 0 }
  else
    let subscription ← firstSubscription record.userSubscriptionId
    pure
      { subscriptionID := record.userSubscriptionId
        preConsumed := record.preConsumed, amountTotal := subscription.amountTotal
        amountUsedAfter := subscription.amountUsed }

def walletRecord (requestId : String) (userId amount : ℤ) : SubscriptionPreConsumeRecord where
  requestId := requestId
  userId := userId
  userSubscriptionId := 0
  preConsumed := amount
  status := .consumed
  createdAt := env.timestamp
  updatedAt := env.timestamp
  period := 0

def reserveStrictFunding : DBTx StrictBillingPreConsumeResult :=
  if params.useSubscription then do
    let subscription ←
      preConsumeNewUserSubscriptionTx env params.requestID params.userID params.quota
    pure
      { subscriptionID := subscription.userSubscriptionId
        preConsumed := subscription.preConsumed, amountTotal := subscription.amountTotal
        amountUsedAfter := subscription.amountUsedAfter }
  else do
    decreaseUserQuotaIfEnoughTx params.userID params.quota
    createRecord (walletRecord env params.requestID params.userID params.quota)
    pure
      { subscriptionID := 0
        preConsumed := params.quota, amountTotal := 0
        amountUsedAfter := 0 }

def reserveStrictToken : DBTx Unit :=
  if params.skipToken then pure ()
  else decreaseTokenQuotaIfEnoughTx params.tokenID params.quota

def preConsumeStrictBilling : DBTx StrictBillingPreConsumeResult := do
  validateStrictBillingPreConsumeParams params
  lockUser params.userID
  match ← Tx.gets fun db => db.ledger.find? params.requestID with
  | some existing => loadExistingStrictReservation params existing
  | none =>
    reserveStrictToken params
    reserveStrictFunding env params

end

theorem id_addUsage (delta : ℤ) (s : UserSubscription) :
    { s with amountUsed := s.amountUsed + delta }.id = s.id := rfl

theorem requestId_refunded (env : Env) (r : SubscriptionPreConsumeRecord) :
    { r with status := .refunded, updatedAt := env.timestamp }.requestId = r.requestId := rfl

section

variable (env : Env) (params : StrictBillingParams) (delta : ℤ) (preConsumed : ℤ)

def adjustStrictFundingTx : DBTx Unit :=
  if params.allowOverdraft ∧ delta > 0 then
    if params.subscriptionID = 0 then increaseUserQuotaTx params.userID (-delta)
    else
      DB.subscriptionsTable.updateOne params.subscriptionID (fun _ => true)
        (fun s => { s with amountUsed := s.amountUsed + delta }) (id_addUsage delta)
        .strictSubscriptionRow
  else if params.subscriptionID ≠ 0 then
    postConsumeUserSubscriptionDeltaTx params.subscriptionID delta
  else if delta > 0 then decreaseUserQuotaIfEnoughTx params.userID delta
  else increaseUserQuotaTx params.userID (-delta)

def adjustStrictTokenTx (tokenID delta : ℤ) (allowOverdraft : Bool) : DBTx Unit :=
  if allowOverdraft ∧ delta > 0 then increaseTokenQuotaTx tokenID (-delta)
  else if delta > 0 then decreaseTokenQuotaIfEnoughTx tokenID delta
  else increaseTokenQuotaTx tokenID (-delta)

/-- Move the balances from the reserved to the actual amount. -/
def applyStrictDelta : DBTx Unit :=
  if delta ≠ 0 then do
    adjustStrictFundingTx params delta
    if params.skipToken then pure ()
    else adjustStrictTokenTx params.tokenID delta params.allowOverdraft
  else pure ()

def settleStrictBilling : DBTx Unit := do
  validateStrictBillingParams params
  lockUser params.userID
  let record ← firstRecord params.requestID
  validateStrictBillingRecord record params.userID params.subscriptionID
  if record.status = .settled then
    Tx.failIf (record.preConsumed ≠ params.actualQuota) .strictSettledDifferently
  else
    Tx.failIf (record.status ≠ .consumed) (.strictSettleState record.status)
    let preConsumed ← strictBillingQuotaFromRecord record
    applyStrictDelta params (params.actualQuota - preConsumed)
    DB.ledgerTable.updateOne record.requestId (fun r => r.status == .consumed)
      (fun r => { r with
        preConsumed := params.actualQuota, status := .settled, updatedAt := env.timestamp })
      (fun _ => rfl) .strictSettleStateChanged

/-- Give a reservation back to its funding source. -/
def refundStrictFunding : DBTx Unit :=
  if params.subscriptionID = 0 then increaseUserQuotaTx params.userID preConsumed
  else postConsumeUserSubscriptionDeltaTx params.subscriptionID (-preConsumed)

/-- Give a reservation back to the token. -/
def refundStrictToken : DBTx Unit :=
  if params.skipToken then pure () else increaseTokenQuotaTx params.tokenID preConsumed

def refundStrictBilling : DBTx Unit := do
  validateStrictBillingParams params
  lockUser params.userID
  let record ← firstRecord params.requestID
  validateStrictBillingRecord record params.userID params.subscriptionID
  if record.status = .refunded then pure ()
  else
    Tx.failIf (record.status ≠ .consumed) (.strictRefundState record.status)
    let preConsumed ← strictBillingQuotaFromRecord record
    refundStrictFunding params preConsumed
    refundStrictToken params preConsumed
    DB.ledgerTable.updateOne record.requestId (fun r => r.status == .consumed)
      (fun r => { r with status := .refunded, updatedAt := env.timestamp })
      (requestId_refunded env) .strictRefundStateChanged

end

/-- The funding source of a request was charged `delta`, or given back `-delta`. Without
`overdraft` a charge is covered by the balance. -/
inductive FundingMoved (userID subscriptionID : ℤ) (overdraft : Bool) (delta : ℤ) (db : DB) :
    DB → Prop
  | wallet {user : User} (hid : subscriptionID = 0) (hfind : db.users.find? userID = some user)
      (hcover : overdraft = false → 0 < delta → delta ≤ user.quota) :
      FundingMoved userID subscriptionID overdraft delta db (db.addUserQuota userID (-delta))
  | charge {sub : UserSubscription} (hid : subscriptionID ≠ 0)
      (hfind : db.subscriptions.find? subscriptionID = some sub) (hpos : 0 < delta)
      (hcover : overdraft = false → sub.HasRoom delta) :
      FundingMoved userID subscriptionID overdraft delta db
        (db.chargeSubscription subscriptionID delta)
  | refund {sub : UserSubscription} (hid : subscriptionID ≠ 0)
      (hfind : db.subscriptions.find? subscriptionID = some sub) (hneg : delta ≤ 0) :
      FundingMoved userID subscriptionID overdraft delta db
        (db.refundSubscription subscriptionID (-delta))

/-- The token of a request was charged `delta`, or given back `-delta`, unless it is skipped.
Without `overdraft` a charge is covered by the remaining quota of a limited token. -/
inductive TokenMoved (tokenID : ℤ) (skipToken overdraft : Bool) (delta : ℤ) (db : DB) : DB → Prop
  | skipped (hskip : skipToken = true) : TokenMoved tokenID skipToken overdraft delta db db
  | moved {token : Token} (hskip : skipToken = false)
      (hfind : db.tokens.find? tokenID = some token)
      (hcover : overdraft = false → 0 < delta →
        token.unlimitedQuota = true ∨ delta ≤ token.remainQuota) :
      TokenMoved tokenID skipToken overdraft delta db (db.addTokenQuota tokenID (-delta))

/-- The funding source and the token of a request were charged `delta`; nothing moves when it
is 0. -/
def BalancesMoved (params : StrictBillingParams) (overdraft : Bool) (delta : ℤ) (db db' : DB) :
    Prop :=
  (delta = 0 ∧ db' = db) ∨
    ∃ db₁, FundingMoved params.userID params.subscriptionID overdraft delta db db₁ ∧
      TokenMoved params.tokenID params.skipToken overdraft delta db₁ db'

section

variable {db db' : DB} {params : StrictBillingParams} {u : Unit}

variable {delta tokenID preConsumed : ℤ} {overdraft : Bool}

theorem adjustStrictFundingTx_cases
    (h : (adjustStrictFundingTx params delta).run db = .ok (u, db')) :
    FundingMoved params.userID params.subscriptionID params.allowOverdraft delta db db' := by
  unfold adjustStrictFundingTx at h
  split at h
  · rename_i hover
    have hno : ¬params.allowOverdraft = false := by simp [hover.1]
    split at h
    · obtain ⟨user, hfind, rfl⟩ := run_increaseUserQuotaTx_eq_ok.1 h
      exact .wallet ‹_› hfind fun hfalse => absurd hfalse hno
    · obtain ⟨sub, hfind, -, rfl⟩ := TableOf.run_updateOne_eq_ok.1 h
      exact .charge ‹_› hfind hover.2 fun hfalse => absurd hfalse hno
  split at h
  · obtain ⟨sub, hfind, ⟨hpos, hroom, rfl⟩ | ⟨hneg, rfl⟩⟩ :=
      postConsumeUserSubscriptionDeltaTx_cases h
    · exact .charge ‹_› hfind hpos fun _ => hroom
    · exact .refund ‹_› hfind hneg
  rename_i hid
  rw [not_not] at hid
  split at h
  · obtain ⟨user, hfind, hcover, rfl⟩ := run_decreaseUserQuotaIfEnoughTx_eq_ok.1 h
    exact .wallet hid hfind fun _ _ => hcover
  · obtain ⟨user, hfind, rfl⟩ := run_increaseUserQuotaTx_eq_ok.1 h
    exact .wallet hid hfind fun _ hpos => by omega

theorem adjustStrictTokenTx_cases
    (h : (adjustStrictTokenTx tokenID delta overdraft).run db = .ok (u, db')) :
    TokenMoved tokenID false overdraft delta db db' := by
  unfold adjustStrictTokenTx at h
  split at h
  · rename_i hover
    obtain ⟨token, hfind, rfl⟩ := run_increaseTokenQuotaTx_eq_ok.1 h
    exact .moved rfl hfind fun hfalse => absurd hfalse (by simp [hover.1])
  split at h
  · obtain ⟨token, hfind, hcover, rfl⟩ := run_decreaseTokenQuotaIfEnoughTx_eq_ok.1 h
    exact .moved rfl hfind fun _ _ => hcover
  · obtain ⟨token, hfind, rfl⟩ := run_increaseTokenQuotaTx_eq_ok.1 h
    exact .moved rfl hfind fun _ hpos => by omega

theorem applyStrictDelta_cases (h : (applyStrictDelta params delta).run db = .ok (u, db')) :
    BalancesMoved params params.allowOverdraft delta db db' := by
  unfold applyStrictDelta at h
  split at h
  · rw [Tx.run_bind_eq_ok] at h
    obtain ⟨_, db₁, hfunding, h⟩ := h
    refine .inr ⟨db₁, adjustStrictFundingTx_cases hfunding, ?_⟩
    split at h
    · obtain ⟨-, rfl⟩ := Tx.run_pure_eq_ok.1 h
      exact .skipped ‹_›
    · rename_i hskip
      rw [Bool.not_eq_true] at hskip
      rw [hskip]
      exact adjustStrictTokenTx_cases h
  · rename_i hdelta
    exact .inl ⟨not_not.1 hdelta, (Tx.run_pure_eq_ok.1 h).2.symm⟩

theorem refundStrictFunding_cases (hpre : 0 < preConsumed)
    (h : (refundStrictFunding params preConsumed).run db = .ok (u, db')) :
    FundingMoved params.userID params.subscriptionID false (-preConsumed) db db' := by
  unfold refundStrictFunding at h
  split at h
  · obtain ⟨user, hfind, rfl⟩ := run_increaseUserQuotaTx_eq_ok.1 h
    have hmoved : FundingMoved params.userID params.subscriptionID false (-preConsumed) db
        (db.addUserQuota params.userID (- -preConsumed)) :=
      .wallet ‹_› hfind fun _ hpos => by omega
    rwa [neg_neg] at hmoved
  · obtain ⟨sub, hfind, ⟨hpos, -⟩ | ⟨hneg, rfl⟩⟩ := postConsumeUserSubscriptionDeltaTx_cases h
    · omega
    · exact .refund ‹_› hfind hneg

theorem refundStrictToken_cases (hpre : 0 < preConsumed)
    (h : (refundStrictToken params preConsumed).run db = .ok (u, db')) :
    TokenMoved params.tokenID params.skipToken false (-preConsumed) db db' := by
  unfold refundStrictToken at h
  split at h
  · obtain ⟨-, rfl⟩ := Tx.run_pure_eq_ok.1 h
    exact .skipped ‹_›
  · rename_i hskip
    rw [Bool.not_eq_true] at hskip
    obtain ⟨token, hfind, rfl⟩ := run_increaseTokenQuotaTx_eq_ok.1 h
    have hmoved : TokenMoved params.tokenID params.skipToken false (-preConsumed) db
        (db.addTokenQuota params.tokenID (- -preConsumed)) :=
      .moved hskip hfind fun _ hpos => by omega
    rwa [neg_neg] at hmoved

theorem reserveStrictToken_cases {params : StrictBillingPreConsumeParams}
    (h : (reserveStrictToken params).run db = .ok (u, db')) :
    TokenMoved params.tokenID params.skipToken false params.quota db db' := by
  unfold reserveStrictToken at h
  split at h
  · obtain ⟨-, rfl⟩ := Tx.run_pure_eq_ok.1 h
    exact .skipped ‹_›
  · rename_i hskip
    rw [Bool.not_eq_true] at hskip
    obtain ⟨token, hfind, hcover, rfl⟩ := run_decreaseTokenQuotaIfEnoughTx_eq_ok.1 h
    exact .moved hskip hfind fun _ _ => hcover

theorem FundingMoved.ledger {userID subscriptionID : ℤ}
    (h : FundingMoved userID subscriptionID overdraft delta db db') : db'.ledger = db.ledger := by
  cases h <;> rfl

theorem TokenMoved.ledger {skipToken : Bool}
    (h : TokenMoved tokenID skipToken overdraft delta db db') : db'.ledger = db.ledger := by
  cases h <;> rfl

end

variable {env : Env} {params : StrictBillingParams} {db db' : DB} {u : Unit}

/-- A successful settlement found the request settled with the same amount, or moved the balances
from the reserved to the actual amount and closed the record. -/
theorem settleStrictBilling_cases (h : (settleStrictBilling env params).run db = .ok (u, db')) :
    ∃ record, db.ledger.find? params.requestID = some record ∧ record.userId = params.userID ∧
      record.userSubscriptionId = params.subscriptionID ∧ 0 ≤ params.actualQuota ∧
      ((record.status = .settled ∧ record.preConsumed = params.actualQuota ∧ db' = db) ∨
        (record.status = .consumed ∧ 0 < record.preConsumed ∧
          ∃ db₁, BalancesMoved params params.allowOverdraft
              (params.actualQuota - record.preConsumed) db db₁ ∧
            db' = db₁.mapRecord params.requestID (fun r => { r with
              preConsumed := params.actualQuota, status := .settled,
              updatedAt := env.timestamp }) fun _ h => h)) := by
  simp only [settleStrictBilling, validateStrictBillingParams, validateStrictBillingRecord,
    Tx.run_bind_eq_ok, Tx.run_failIf_eq_ok, run_lockUser_eq_ok, run_firstRecord_eq_ok,
    not_not] at h
  obtain ⟨_, _, ⟨_, _, ⟨-, rfl⟩, _, _, ⟨-, rfl⟩, _, _, ⟨-, rfl⟩, _, _, ⟨hactual, rfl⟩, -, rfl⟩,
    _, _, ⟨-, rfl⟩, record, _, ⟨hfind, rfl⟩, _, _, ⟨_, _, ⟨huser, rfl⟩, hsub, rfl⟩, h⟩ := h
  refine ⟨record, hfind, huser, hsub, by omega, ?_⟩
  have hid : record.requestId = params.requestID := Table.key_of_find? hfind
  split at h
  · obtain ⟨hsame, rfl⟩ := Tx.run_failIf_eq_ok.1 h
    exact .inl ⟨‹_›, not_not.1 hsame, rfl⟩
  · simp only [strictBillingQuotaFromRecord, Tx.run_bind_eq_ok, Tx.run_failIf_eq_ok,
      Tx.run_pure_eq_ok, not_not, hid] at h
    obtain ⟨_, _, ⟨hstatus, rfl⟩, _, _, ⟨_, _, ⟨hpre, rfl⟩, rfl, rfl⟩, _, db₂, hdelta, h⟩ := h
    obtain ⟨_, -, -, rfl⟩ := TableOf.run_updateOne_eq_ok.1 h
    exact .inr ⟨hstatus, by omega, db₂, applyStrictDelta_cases hdelta, rfl⟩

/-- A successful refund found the request refunded, or gave the reservation back and closed the
record. -/
theorem refundStrictBilling_cases (h : (refundStrictBilling env params).run db = .ok (u, db')) :
    ∃ record, db.ledger.find? params.requestID = some record ∧ record.userId = params.userID ∧
      record.userSubscriptionId = params.subscriptionID ∧
      ((record.status = .refunded ∧ db' = db) ∨
        (record.status = .consumed ∧ 0 < record.preConsumed ∧
          ∃ db₁, BalancesMoved params false (-record.preConsumed) db db₁ ∧
            db' = db₁.setStatus params.requestID .refunded env.timestamp)) := by
  simp only [refundStrictBilling, validateStrictBillingParams, validateStrictBillingRecord,
    Tx.run_bind_eq_ok, Tx.run_failIf_eq_ok, run_lockUser_eq_ok, run_firstRecord_eq_ok,
    not_not] at h
  obtain ⟨_, _, ⟨_, _, ⟨-, rfl⟩, _, _, ⟨-, rfl⟩, _, _, ⟨-, rfl⟩, _, _, ⟨-, rfl⟩, -, rfl⟩,
    _, _, ⟨-, rfl⟩, record, _, ⟨hfind, rfl⟩, _, _, ⟨_, _, ⟨huser, rfl⟩, hsub, rfl⟩, h⟩ := h
  refine ⟨record, hfind, huser, hsub, ?_⟩
  have hid : record.requestId = params.requestID := Table.key_of_find? hfind
  split at h
  · exact .inl ⟨‹_›, (Tx.run_pure_eq_ok.1 h).2.symm⟩
  · simp only [strictBillingQuotaFromRecord, Tx.run_bind_eq_ok, Tx.run_failIf_eq_ok,
      Tx.run_pure_eq_ok, not_not, hid] at h
    obtain ⟨_, _, ⟨hstatus, rfl⟩, _, _, ⟨_, _, ⟨hpre, rfl⟩, rfl, rfl⟩, _, db₁, hfunding,
      _, db₂, htoken, h⟩ := h
    obtain ⟨_, -, -, rfl⟩ := TableOf.run_updateOne_eq_ok.1 h
    have hpos : 0 < record.preConsumed := by omega
    exact .inr ⟨hstatus, hpos, db₂, .inr ⟨db₁, refundStrictFunding_cases hpos hfunding,
      refundStrictToken_cases hpos htoken⟩, rfl⟩

/-- A successful pre-consume found the same live reservation, or took the quota from the token
and the funding source and recorded it. -/
theorem preConsumeStrictBilling_cases {params : StrictBillingPreConsumeParams}
    {result : StrictBillingPreConsumeResult}
    (h : (preConsumeStrictBilling env params).run db = .ok (result, db')) :
    0 < params.quota ∧
      ((db' = db ∧ ∃ record, db.ledger.find? params.requestID = some record ∧
          record.userId = params.userID ∧
          params.useSubscription = decide (record.userSubscriptionId > 0) ∧
          record.status = .consumed ∧ record.preConsumed = params.quota ∧
          result.subscriptionID = record.userSubscriptionId ∧
          result.preConsumed = params.quota) ∨
        (db.ledger.find? params.requestID = none ∧
          ∃ db₁, TokenMoved params.tokenID params.skipToken false params.quota db db₁ ∧
            ((params.useSubscription = true ∧
                ∃ r, ReservedFrom env params.requestID params.userID params.quota db₁ db' r ∧
                  result.subscriptionID = r.userSubscriptionId ∧
                  result.preConsumed = r.preConsumed) ∨
              (params.useSubscription = false ∧ result.subscriptionID = 0 ∧
                result.preConsumed = params.quota ∧
                ∃ db₂ ledger, FundingMoved params.userID 0 false params.quota db₁ db₂ ∧
                  db₂.ledger.insert? (walletRecord env params.requestID params.userID
                    params.quota) = some ledger ∧
                  db' = { db₂ with ledger := ledger })))) := by
  simp only [preConsumeStrictBilling, validateStrictBillingPreConsumeParams, Tx.run_bind_eq_ok,
    Tx.run_failIf_eq_ok, run_lockUser_eq_ok, Tx.run_gets_eq_ok] at h
  obtain ⟨_, _, ⟨_, _, ⟨-, rfl⟩, _, _, ⟨-, rfl⟩, _, _, ⟨hquota, rfl⟩, -, rfl⟩, _, _, ⟨-, rfl⟩,
    existing?, _, ⟨hfind, rfl⟩, h⟩ := h
  refine ⟨by omega, ?_⟩
  cases existing? with
  | some record =>
    simp only [loadExistingStrictReservation, Tx.run_bind_eq_ok, Tx.run_failIf_eq_ok,
      not_or, not_not] at h
    obtain ⟨_, _, ⟨huser, rfl⟩, _, _, ⟨hfunding, rfl⟩, _, _, ⟨⟨hstatus, hquota'⟩, rfl⟩, h⟩ := h
    have hresult : result.subscriptionID = record.userSubscriptionId ∧
        result.preConsumed = record.preConsumed ∧ db' = db := by
      split at h
      · obtain ⟨rfl, rfl⟩ := Tx.run_pure_eq_ok.1 h
        exact ⟨rfl, rfl, rfl⟩
      · simp only [Tx.run_bind_eq_ok, run_firstSubscription_eq_ok, Tx.run_pure_eq_ok] at h
        obtain ⟨_, _, ⟨-, rfl⟩, rfl, rfl⟩ := h
        exact ⟨rfl, rfl, rfl⟩
    obtain ⟨hid, hpre, rfl⟩ := hresult
    exact .inl ⟨rfl, record, hfind, huser, hfunding, hstatus, hquota', hid, hpre.trans hquota'⟩
  | none =>
    rw [Tx.run_bind_eq_ok] at h
    obtain ⟨_, db₁, htoken, h⟩ := h
    refine .inr ⟨hfind, db₁, reserveStrictToken_cases htoken, ?_⟩
    unfold reserveStrictFunding at h
    split at h
    · simp only [Tx.run_bind_eq_ok, Tx.run_pure_eq_ok] at h
      obtain ⟨r, _, hreserve, rfl, rfl⟩ := h
      exact .inl ⟨‹_›, r, preConsumeNewUserSubscriptionTx_cases hreserve, rfl, rfl⟩
    · rename_i hsub
      simp only [Tx.run_bind_eq_ok, run_decreaseUserQuotaIfEnoughTx_eq_ok,
        run_createRecord_eq_ok] at h
      obtain ⟨_, db₂, ⟨user, huser, hcover, rfl⟩, _, _, ⟨ledger, hinsert, rfl⟩, rfl, rfl⟩ := h
      exact .inr ⟨by simpa using hsub, rfl, rfl, _, ledger, .wallet rfl huser fun _ _ => hcover,
        hinsert, rfl⟩

end Mujian.Billing
