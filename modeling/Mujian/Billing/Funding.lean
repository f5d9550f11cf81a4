import Mujian.Billing.Strict
import Mujian.Relay.Info

/-!
# Funding sources

The quota of a request comes from the wallet of its user or from a subscription. A
`FundingSource` takes the reservation, corrects it at the settlement and gives it back.
`Holds f live x db` says that the funding source `f` stands at the usage `x` in the database `db`,
and for a subscription whether its ledger record is still live.
-/

namespace Mujian.Billing

open Relay (RelayInfo BillingSource)

structure WalletFunding where
  userId : ℤ
  consumed : ℤ := 0
  deriving DecidableEq

structure SubscriptionFunding where
  requestId : String
  (userId amount : ℤ)
  (subscriptionId preConsumed amountTotal amountUsedAfter : ℤ := 0)
  deriving DecidableEq

inductive FundingSource
  | wallet (funding : WalletFunding)
  | subscription (funding : SubscriptionFunding)
  deriving DecidableEq

/-- The environment of each statement of a session. Strict settlements and the refunds of
subscriptions have three attempts. -/
structure CallEnv where
  (first second third funding token : Env)

/-- Tries a transaction in each of the environments until it succeeds. -/
def withRetry (call : Env → DBTx Unit) : Env → List Env → DB → Except BillingError Unit × DB
  | env, [], db => env.commit (call env) db
  | env, next :: envs, db =>
    match env.commit (call env) db with
    | (.ok u, db) => (.ok u, db)
    | (.error _, db) => withRetry call next envs db

namespace FundingSource

def source : FundingSource → BillingSource
  | wallet _ => .wallet
  | subscription _ => .subscription

def preConsumeWallet (w : WalletFunding) (amount : ℤ) : DBTx FundingSource :=
  if amount ≤ 0 then pure (.wallet w)
  else do
    decreaseUserQuotaIfEnough w.userId amount
    pure (.wallet { w with consumed := amount })

/-- The amount is the one of the funding source, not that of the caller. -/
def preConsumeSubscription (env : Env) (s : SubscriptionFunding) : DBTx FundingSource := do
  let res ← preConsumeUserSubscription env s.requestId s.userId s.amount
  pure (.subscription { s with
    subscriptionId := res.userSubscriptionId, preConsumed := res.preConsumed
    amountTotal := res.amountTotal, amountUsedAfter := res.amountUsedAfter })

def preConsume (env : Env) (amount : ℤ) : FundingSource → DBTx FundingSource
  | wallet w => preConsumeWallet w amount
  | subscription s => preConsumeSubscription env s

/-- Corrects the reservation by a delta: a positive one is charged, a negative one given back. -/
def settle (delta : ℤ) : FundingSource → DBTx Unit
  | wallet w =>
    if delta = 0 then pure ()
    else if delta > 0 then decreaseUserQuota w.userId delta
    else increaseUserQuota w.userId (-delta)
  | subscription s =>
    if delta = 0 then pure () else postConsumeUserSubscriptionDelta s.subscriptionId delta

/-- An addition to the wallet is tried once; the refund of a subscription, which the ledger
protects, three times. -/
def refund (env : CallEnv) (db : DB) : FundingSource → Except BillingError Unit × DB
  | wallet w =>
    if w.consumed ≤ 0 then (.ok (), db)
    else env.funding.commit (increaseUserQuota w.userId w.consumed) db
  | subscription s =>
    if s.preConsumed ≤ 0 then (.ok (), db)
    else withRetry (refundSubscriptionPreConsume · s.requestId) env.first [env.second, env.third]
      db

end FundingSource

variable {env : Env} {db db' : DB} {α : Type} {m : DBTx α}

theorem Env.commit_eq_ok {a : α}
    (h : env.commit m db = (.ok a, db')) : m.run db = .ok (a, db') := by
  have hrun := Tx.run_of_commit_ok (congrArg Prod.fst h)
  rwa [show (Tx.commit _ m db).2 = db' from congrArg Prod.snd h] at hrun

theorem Env.commit_eq_error {e : BillingError} (h : env.commit m db = (.error e, db')) : db' = db :=
  (congrArg Prod.snd h).symm.trans (Tx.commit_error (congrArg Prod.fst h))

theorem Env.commit_cases (env : Env) (m : DBTx α) (db : DB) :
    (env.commit m db).2 = db ∨ ∃ a, m.run db = .ok (a, (env.commit m db).2) :=
  Tx.commit_cases _ m db

/-- A call whose successful runs move tokens only. -/
theorem Env.apartFromTokens_commit (h : ∀ a db', m.run db = .ok (a, db') → db.ApartFromTokens db') :
    db.ApartFromTokens (env.commit m db).2 := by
  obtain hsame | ⟨a, hrun⟩ := env.commit_cases m db
  · rw [hsame]
    exact .refl db
  · exact h a _ hrun

theorem DB.AfterResets.of_apartFromTokens {db₁ db₂ : DB} (h : db₁.AfterResets db₂)
    (hapart : db.ApartFromTokens db₁) : db.AfterResets { db₂ with tokens := db.tokens } where
  users := h.users.trans hapart.users
  tokens := rfl
  ledger := h.ledger.trans hapart.ledger
  subscriptions := hapart.subscriptions ▸ h.subscriptions

/-- A retried transaction succeeds as one of its attempts, or changes nothing. -/
theorem withRetry_cases {call : Env → DBTx Unit} {envs : List Env}
    {result : Except BillingError Unit} (h : withRetry call env envs db = (result, db')) :
    (result = .ok () ∧ ∃ env', (call env').run db = .ok ((), db')) ∨
      (∃ e, result = .error e) ∧ db' = db := by
  induction envs generalizing env with
  | nil =>
    cases result with
    | ok u => exact .inl ⟨rfl, env, Env.commit_eq_ok h⟩
    | error e => exact .inr ⟨⟨e, rfl⟩, Env.commit_eq_error h⟩
  | cons next envs ih =>
    rw [withRetry] at h
    split at h
    · rename_i u db₁ hcommit
      obtain ⟨rfl, rfl⟩ := Prod.mk.inj h
      exact .inl ⟨rfl, env, Env.commit_eq_ok hcommit⟩
    · rename_i e db₁ hcommit
      rw [Env.commit_eq_error hcommit] at h
      exact ih h

namespace FundingSource

theorem run_settle_zero (f : FundingSource) (db : DB) : (f.settle 0).run db = .ok ((), db) := by
  cases f <;> rfl

def reserved : FundingSource → ℤ
  | wallet w => w.consumed
  | subscription s => s.preConsumed

/-- The usage of a subscription does not fall below 0; a wallet has no bound. -/
def clamp : FundingSource → ℤ → ℤ
  | wallet _, x => x
  | subscription _, x => max 0 x

/-- The usage as the funding source shows it. Of a wallet only the quota left is stored, so its
usage is counted from 0 downwards. -/
def used (db : DB) : FundingSource → ℤ
  | wallet w => ((db.users.find? w.userId).map fun u => -u.quota).getD 0
  | subscription s => ((db.subscriptions.find? s.subscriptionId).map (·.amountUsed)).getD 0

/-- The funding source stands at the usage `x`; `live` tells whether the record of a subscription
is still consumed, or refunded. -/
inductive Holds (live : Bool) (x : ℤ) (db : DB) : FundingSource → Prop
  | wallet {w : WalletFunding} {user : User} (hfind : db.users.find? w.userId = some user)
      (hquota : user.quota = -x) : Holds live x db (.wallet w)
  | subscription {s : SubscriptionFunding} {sub : UserSubscription}
      {record : SubscriptionPreConsumeRecord}
      (hfind : db.subscriptions.find? s.subscriptionId = some sub) (hused : sub.amountUsed = x)
      (hrecord : db.ledger.find? s.requestId = some record)
      (hstatus : record.status = if live then .consumed else .refunded)
      (hid : record.userSubscriptionId = s.subscriptionId)
      (hpre : record.preConsumed = s.preConsumed) : Holds live x db (.subscription s)

namespace Holds

variable {live : Bool} {x : ℤ} {db db' : DB} {f : FundingSource}

theorem used_eq (h : f.Holds live x db) : f.used db = x := by
  cases h with
  | wallet hfind hquota => simp [used, hfind, hquota]
  | subscription hfind hused => simp [used, hfind, hused]

theorem of_apartFromTokens (h : f.Holds live x db) (hapart : db.ApartFromTokens db') :
    f.Holds live x db' := by
  cases h with
  | wallet hfind hquota => exact .wallet (hapart.users ▸ hfind) hquota
  | subscription hfind hused hrecord hstatus hid hpre =>
    exact .subscription (hapart.subscriptions ▸ hfind) hused (hapart.ledger ▸ hrecord) hstatus
      hid hpre

theorem addUserQuota {w : WalletFunding} (h : Holds live x db (.wallet w)) (q : ℤ) :
    Holds live (x - q) (db.addUserQuota w.userId q) (.wallet w) := by
  cases h with
  | @wallet _ user hfind hquota =>
    have hfind' := DB.find?_users_addUserQuota db w.userId q w.userId
    rw [if_pos rfl, hfind] at hfind'
    refine .wallet hfind' ?_
    simp only [hquota]
    omega

variable {s : SubscriptionFunding}

/-- A change of the subscription of the funding source that leaves the ledger alone. -/
theorem mapSubscription (h : Holds live x db (.subscription s))
    {g : UserSubscription → UserSubscription}
    {hg : ∀ sub, sub.id = s.subscriptionId → (g sub).id = s.subscriptionId} {y : ℤ}
    (hy : ∀ sub, sub.amountUsed = x → (g sub).amountUsed = y) :
    Holds live y (db.mapSubscription s.subscriptionId g hg) (.subscription s) := by
  cases h with
  | subscription hfind hused hrecord hstatus hid hpre =>
    have hfind' := DB.find?_mapSubscription db s.subscriptionId g hg s.subscriptionId
    rw [if_pos rfl, hfind] at hfind'
    exact .subscription hfind' (hy _ hused) hrecord hstatus hid hpre

theorem refundSubscription (h : Holds live x db (.subscription s)) (refund : ℤ) :
    Holds live (max 0 (x - refund)) (db.refundSubscription s.subscriptionId refund)
      (.subscription s) := by
  refine h.mapSubscription fun sub hused => ?_
  simp only [hused]
  split <;> omega

theorem setStatus (h : Holds live x db (.subscription s)) (timestamp : ℤ) :
    Holds false x (db.setStatus s.requestId .refunded timestamp) (.subscription s) := by
  cases h with
  | @subscription _ _ record hfind hused hrecord hstatus hid hpre =>
    have hrecord' : (db.setStatus s.requestId .refunded timestamp).ledger.find? s.requestId =
        some { record with status := .refunded, updatedAt := timestamp } := by
      rw [DB.setStatus, DB.find?_mapRecord, if_pos rfl, hrecord, Option.map_some]
    exact .subscription hfind hused hrecord' rfl hid hpre

theorem settle (h : f.Holds live x db) (hx : f.clamp x = x) {delta : ℤ} {u : Unit}
    (hrun : (f.settle delta).run db = .ok (u, db')) : f.Holds live (f.clamp (x + delta)) db' := by
  cases f with
  | wallet w =>
    simp only [FundingSource.settle] at hrun
    split at hrun
    · rename_i hdelta
      obtain ⟨-, rfl⟩ := Tx.run_pure_eq_ok.1 hrun
      simpa only [clamp, hdelta, add_zero] using h
    split at hrun
    · obtain ⟨-, rfl⟩ := run_decreaseUserQuota_eq_ok hrun
      have hmoved := h.addUserQuota (-delta)
      rwa [sub_neg_eq_add] at hmoved
    · obtain ⟨-, rfl⟩ := run_increaseUserQuota_eq_ok hrun
      have hmoved := h.addUserQuota (-delta)
      rwa [sub_neg_eq_add] at hmoved
  | subscription s =>
    have hnonneg : 0 ≤ x := by
      rw [← hx]
      exact le_max_left 0 x
    simp only [FundingSource.settle] at hrun
    split at hrun
    · rename_i hdelta
      obtain ⟨-, rfl⟩ := Tx.run_pure_eq_ok.1 hrun
      rwa [hdelta, add_zero, hx]
    rename_i hdelta
    obtain ⟨hzero, -⟩ | ⟨sub, -, ⟨hpos, -, rfl⟩ | ⟨hneg, rfl⟩⟩ :=
      postConsumeUserSubscriptionDelta_cases hrun
    · exact absurd hzero hdelta
    · refine h.mapSubscription fun sub hused => ?_
      simp only [clamp]
      omega
    · have hmoved := h.refundSubscription (-delta)
      rwa [sub_neg_eq_add] at hmoved

/-- A refund takes the reservation off the usage and closes the record of a subscription. -/
theorem refund (h : f.Holds true x db) (hpos : 0 < f.reserved) {env : CallEnv}
    (hrun : f.refund env db = (.ok (), db')) :
    f.Holds false (f.clamp (x - f.reserved)) db' := by
  cases f with
  | wallet w =>
    replace hpos : 0 < w.consumed := hpos
    rw [FundingSource.refund, if_neg (not_le.2 hpos)] at hrun
    obtain ⟨-, rfl⟩ := run_increaseUserQuota_eq_ok (Env.commit_eq_ok hrun)
    cases h with
    | wallet hfind hquota => exact (Holds.wallet hfind hquota).addUserQuota w.consumed
  | subscription s =>
    replace hpos : 0 < s.preConsumed := hpos
    rw [FundingSource.refund, if_neg (not_le.2 hpos)] at hrun
    obtain ⟨-, env', hcall⟩ | ⟨⟨e, he⟩, -⟩ := withRetry_cases hrun
    swap
    · cases he
    obtain ⟨record, hfind, hcases⟩ := refundSubscriptionPreConsume_cases hcall
    cases h with
    | subscription hsub hused hrecord hlive hid hpre =>
      obtain rfl := Option.mem_unique hrecord hfind
      obtain ⟨hstatus, -⟩ | ⟨-, ⟨hnone, -⟩ | ⟨-, -, rfl⟩⟩ := hcases
      · simp [hstatus] at hlive
      · exact absurd hpos (not_lt.2 (hpre ▸ hnone))
      · have hmoved := (Holds.subscription hsub hused hrecord hlive hid hpre).refundSubscription
          s.preConsumed
        rw [hid, hpre]
        exact hmoved.setStatus _

end Holds

end FundingSource

end Mujian.Billing
