import Mujian.Foundations.Transaction

/-!
# The billing tables

The rows that the billing transactions of the `model` package read and write. Two columns are not in
the source: `UserSubscription.resets` counts the quota resets of a subscription, and
`SubscriptionPreConsumeRecord.period` is that count at the moment of the reservation. No function
branches on them.
-/

namespace Mujian.Billing

/-- The columns of `users` that billing touches. -/
structure User where
  (id quota : ℤ)
  deriving DecidableEq

/-- The columns of `tokens` that billing touches. -/
structure Token where
  (id remainQuota usedQuota : ℤ)
  unlimitedQuota : Bool
  deriving DecidableEq

inductive SubscriptionStatus
  | active | expired | cancelled
  deriving DecidableEq

/-- A user's subscription. Row ids are allocated from 1 on, so that the id 0 can stand for the
wallet in the ledger. -/
structure UserSubscription where
  (id userId planId amountTotal amountUsed startTime endTime : ℤ)
  status : SubscriptionStatus
  (lastResetTime nextResetTime : ℤ)
  /-- The number of quota resets so far. -/
  resets : ℕ
  id_pos : 0 < id
  deriving DecidableEq

structure SubscriptionPlan where
  quotaResetPeriod : String
  quotaResetCustomSeconds : ℤ
  deriving DecidableEq

/-- The states of a ledger record. -/
inductive RecordStatus
  | consumed | settled | refunding | refunded
  deriving DecidableEq

def RecordStatus.text : RecordStatus → String
  | consumed => "consumed"
  | settled => "settled"
  | refunding => "refunding"
  | refunded => "refunded"

/-- A ledger record, unique for its request id. `userSubscriptionId = 0` denotes wallet
funding. -/
structure SubscriptionPreConsumeRecord where
  requestId : String
  (userId userSubscriptionId preConsumed : ℤ)
  status : RecordStatus
  (createdAt updatedAt : ℤ)
  /-- The number of resets of the subscription at the reservation. -/
  period : ℕ
  deriving DecidableEq

instance : Keyed User ℤ := ⟨User.id⟩
instance : Keyed Token ℤ := ⟨Token.id⟩
instance : Keyed UserSubscription ℤ := ⟨UserSubscription.id⟩
instance : Keyed SubscriptionPreConsumeRecord String := ⟨SubscriptionPreConsumeRecord.requestId⟩

/-- The database. The tables hold the visible rows: a soft-deleted user or token is not in its
table. -/
structure DB where
  users : Table User
  tokens : Table Token
  subscriptions : Table UserSubscription
  ledger : Table SubscriptionPreConsumeRecord
  deriving DecidableEq

inductive BillingError
  | database | recordNotFound | duplicatedKey | requestIdEmpty | invalidUserId | invalidTokenId
  | invalidSubscriptionId | invalidUserSubscriptionId | invalidPlanId | quotaNotPositive
  | amountNotPositive | quotaNegative | actualQuotaNegative | insufficientUserQuota
  | insufficientTokenQuota | strictAnotherUser | strictFundingMismatch
  | strictAlready (status : RecordStatus)
  | strictSettledDifferently
  | strictSettleState (status : RecordStatus)
  | strictRefundState (status : RecordStatus)
  | strictInvalidPreConsumed | strictSettleStateChanged | strictRefundStateChanged | strictUserRow
  | strictTokenRow | strictSubscriptionRow | subscriptionAnotherUser | subscriptionWalletFunding
  | subscriptionAlready (status : RecordStatus)
  | subscriptionRefundState (status : RecordStatus)
  | subscriptionRefundStateChanged
  | noActiveSubscription
  | subscriptionInsufficient (need : ℤ)
  | subscriptionExceedsTotal (used total : ℤ)
  deriving DecidableEq

def BillingError.message : BillingError → String
  | database => "database error"
  | recordNotFound => "record not found"
  | duplicatedKey => "duplicated key not allowed"
  | requestIdEmpty => "requestId is empty"
  | invalidUserId => "invalid userId"
  | invalidTokenId => "invalid tokenId"
  | invalidSubscriptionId => "invalid subscriptionId"
  | invalidUserSubscriptionId => "invalid userSubscriptionId"
  | invalidPlanId => "invalid plan id"
  | quotaNotPositive => "quota must be > 0"
  | amountNotPositive => "amount must be > 0"
  | quotaNegative => "quota 不能为负数！"
  | actualQuotaNegative => "actual quota cannot be negative"
  | insufficientUserQuota => "user quota is not enough"
  | insufficientTokenQuota => "token quota is not enough"
  | strictAnotherUser => "strict billing request belongs to another user"
  | strictFundingMismatch => "strict billing funding source does not match reservation"
  | strictAlready status => "strict billing pre-consume request is already " ++ status.text
  | strictSettledDifferently => "strict billing request was settled with a different quota"
  | strictSettleState status => "strict billing settlement state is invalid: " ++ status.text
  | strictRefundState status => "strict billing refund state is invalid: " ++ status.text
  | strictInvalidPreConsumed => "strict billing record has invalid pre-consumed quota"
  | strictSettleStateChanged => "strict billing settlement state changed unexpectedly"
  | strictRefundStateChanged => "strict billing refund state changed unexpectedly"
  | strictUserRow => "strict billing user quota row was not updated"
  | strictTokenRow => "strict billing token quota row was not updated"
  | strictSubscriptionRow => "strict billing subscription row was not updated"
  | subscriptionAnotherUser => "subscription pre-consume request belongs to another user"
  | subscriptionWalletFunding => "subscription pre-consume request belongs to wallet funding"
  | subscriptionAlready status => "subscription pre-consume request is already " ++ status.text
  | subscriptionRefundState status =>
    "subscription pre-consume refund state is invalid: " ++ status.text
  | subscriptionRefundStateChanged => "subscription pre-consume refund state changed unexpectedly"
  | noActiveSubscription => "no active subscription"
  | subscriptionInsufficient need => "subscription quota insufficient, need=" ++ toString need
  | subscriptionExceedsTotal used total =>
    "subscription used exceeds total, used=" ++ toString used ++ " total=" ++ toString total

/-- Transaction bodies over the billing database. -/
abbrev DBTx := Tx DB BillingError

namespace DB

def usersTable : TableOf DB User := ⟨users, fun t db => { db with users := t }, fun _ => rfl⟩
def tokensTable : TableOf DB Token := ⟨tokens, fun t db => { db with tokens := t }, fun _ => rfl⟩
def subscriptionsTable : TableOf DB UserSubscription :=
  ⟨subscriptions, fun t db => { db with subscriptions := t }, fun _ => rfl⟩
def ledgerTable : TableOf DB SubscriptionPreConsumeRecord :=
  ⟨ledger, fun t db => { db with ledger := t }, fun _ => rfl⟩

end DB

def createRecord (record : SubscriptionPreConsumeRecord) : DBTx Unit := do
  let ledger ← Tx.gets fun db => db.ledger.insert? record
  let ledger ← Tx.orElse ledger .duplicatedKey
  Tx.modifyGet fun db => ((), { db with ledger := ledger })

theorem run_createRecord_eq_ok {record : SubscriptionPreConsumeRecord} {db db' : DB} {u : Unit} :
    (createRecord record).run db = .ok (u, db') ↔
      ∃ ledger, db.ledger.insert? record = some ledger ∧ db' = { db with ledger := ledger } := by
  simp only [createRecord, Tx.run_bind_eq_ok, Tx.run_gets_eq_ok, Tx.run_orElse_eq_ok,
    Tx.run_modifyGet_eq_ok]
  constructor
  · rintro ⟨_, _, ⟨rfl, rfl⟩, ledger, _, ⟨hins, rfl⟩, h⟩
    exact ⟨ledger, hins, (Prod.mk.inj h).2.symm⟩
  · rintro ⟨ledger, hins, rfl⟩
    exact ⟨_, _, ⟨rfl, rfl⟩, ledger, _, ⟨hins, rfl⟩, rfl⟩

end Mujian.Billing
