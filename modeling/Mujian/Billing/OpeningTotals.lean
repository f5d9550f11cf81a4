import Mujian.Billing.SessionTotals

/-!
# What opening a session takes

An attempt to open a session takes the reservation from the token and from one funding source, or
fails and leaves no trace (`outcome_preConsume`). Two kinds of sessions open without taking anything
from a funding source: a request whose reservation is in the ledger already, and a wallet that is
asked for a negative amount. A repeated reservation leaves the token alone in strict mode, and takes
from it again in legacy mode.
-/

namespace Mujian.Billing

open Relay (RelayInfo BillingSource)

namespace DB

theorem addUserQuota_zero (db : DB) (id : ℤ) : db.addUserQuota id 0 = db := by
  rw [addUserQuota, Table.update_eq_self fun u => by rw [add_zero]]

theorem addTokenQuota_zero (db : DB) (id : ℤ) : db.addTokenQuota id 0 = db := by
  rw [addTokenQuota, Table.update_eq_self fun t => by rw [add_zero, sub_zero]]

/-- Giving back to a token what was taken from it. -/
theorem addTokenQuota_neg_add (db : DB) (id q : ℤ) :
    (db.addTokenQuota id (-q)).addTokenQuota id q = db := by
  simp only [addTokenQuota, Table.update_update]
  rw [Table.update_eq_self fun t => ?_]
  simp

end DB

variable {id q p : ℤ} {db db₁ db' : DB}

theorem run_increaseTokenQuota (hq : 0 ≤ q) (db : DB) :
    (increaseTokenQuota id q).run db = .ok ((), db.addTokenQuota id q) := by
  simp only [increaseTokenQuota, Tx.run_bind_eq_ok, Tx.run_failIf_eq_ok, Tx.run_pure_eq_ok]
  cases hfind : db.tokens.find? id with
  | none =>
    refine ⟨(), db, ⟨by omega, rfl⟩, 0, db, ?_, trivial, ?_⟩
    · exact TableOf.run_update_eq_ok.2 (.inr ⟨rfl, fun r hr => absurd (hfind ▸ hr) (by simp), rfl⟩)
    · rw [DB.addTokenQuota, Table.update_of_find?_eq_none hfind]
  | some token =>
    refine ⟨(), db, ⟨by omega, rfl⟩, 1, db.addTokenQuota id q, ?_, trivial, rfl⟩
    exact TableOf.run_update_eq_ok.2 (.inl ⟨rfl, token, hfind, rfl, rfl⟩)

variable {env : Env}

structure Payer where
  requestId : String
  (userId tokenId : ℤ)
  (isPlayground strict : Bool)

def payer (info : RelayInfo) : Payer :=
  ⟨info.requestId, info.userId, info.tokenId, info.isPlayground, info.usesAtomicStrictBilling⟩

/-- The amount `p` was taken from the token, unless the request is one of the playground. -/
structure TakenFromToken (payer : Payer) (p : ℤ) (db db' : DB) : Prop where
  found : p ≠ 0 → payer.isPlayground = false → ∃ token, db.tokens.find? payer.tokenId = some token
  tokens : db'.tokens =
    if payer.isPlayground then db.tokens else (db.addTokenQuota payer.tokenId (-p)).tokens

/-- The amount `p` was taken from the wallet of the user, or from one subscription of theirs after
the periods that were due have begun, and nothing from any other source. -/
inductive TakenFrom (userId p : ℤ) (db db' : DB) : FundingSource → Prop
  | wallet {w : WalletFunding} (hid : w.userId = userId)
      (found : p ≠ 0 → ∃ user, db.users.find? userId = some user)
      (users : db'.users = (db.addUserQuota userId (-p)).users)
      (subscriptions : db'.subscriptions = db.subscriptions) : TakenFrom userId p db db' (.wallet w)
  | subscription {s : SubscriptionFunding} {base : DB} {sub : UserSubscription}
      (resets : db.AfterResets base)
      (found : base.subscriptions.find? s.subscriptionId = some sub) (owner : sub.userId = userId)
      (users : db'.users = db.users)
      (subscriptions :
        db'.subscriptions = (base.chargeSubscription s.subscriptionId p).subscriptions) :
      TakenFrom userId p db db' (.subscription s)

variable {f : FundingSource}

theorem TakenFrom.of_apartFromTokens {userId : ℤ}
    (h : TakenFrom userId p db₁ db' f) (hapart : db.ApartFromTokens db₁) :
    TakenFrom userId p db db' f := by
  cases h with
  | wallet hid found users subscriptions =>
    refine .wallet hid (hapart.users ▸ found) ?_ (subscriptions.trans hapart.subscriptions)
    rw [users, DB.addUserQuota, DB.addUserQuota, hapart.users]
  | @subscription s base sub resets found owner users subscriptions =>
    exact .subscription (resets.of_apartFromTokens hapart) found owner
      (users.trans hapart.users) subscriptions

theorem TakenFromToken.trans_eq {payer : Payer}
    (h : TakenFromToken payer p db db₁) (heq : db'.tokens = db₁.tokens) :
    TakenFromToken payer p db db' :=
  ⟨h.found, heq.trans h.tokens⟩

structure Taken (payer : Payer) (s : BillingSession) (db db' : DB) : Prop where
  token : TakenFromToken payer s.preConsumedQuota db db'
  funding : TakenFrom payer.userId s.preConsumedQuota db db' s.funding

/-- The live reservation of the request in the ledger. -/
structure DB.Reserved (db : DB) (payer : Payer) (record : SubscriptionPreConsumeRecord) : Prop where
  find? : db.ledger.find? payer.requestId = some record
  userId : record.userId = payer.userId
  status : record.status = .consumed

/-- The session reports the subscription and the amount of the record. -/
def Repeats (record : SubscriptionPreConsumeRecord) : FundingSource → Prop
  | .wallet w => record.userSubscriptionId ≤ 0 ∧ w.consumed = record.preConsumed
  | .subscription f =>
    f.subscriptionId = record.userSubscriptionId ∧ f.preConsumed = record.preConsumed

/-- How a session can come about. A strict session that repeats its reservation changes nothing; a
legacy one, which only a subscription can repeat, takes its amount from the token once more. -/
inductive Opened (payer : Payer) (quota : ℤ) (s : BillingSession) (db db' : DB) : Prop
  | taken (h : Taken payer s db db')
  | replayed {record : SubscriptionPreConsumeRecord} (hreserved : db.Reserved payer record)
      (hstrict : payer.strict = true) (hfunding : Repeats record s.funding)
      (hquota : s.preConsumedQuota = record.preConsumed) (hdb : db' = db)
  | replayedLegacy {record : SubscriptionPreConsumeRecord} (hreserved : db.Reserved payer record)
      (hstrict : payer.strict = false) (hsource : s.funding.source = .subscription)
      (hfunding : Repeats record s.funding) (hapart : db.ApartFromTokens db')
      (htoken : TakenFromToken payer s.preConsumedQuota db db')
  | negative (hquota : quota < 0) (hsource : s.funding.source = .wallet) (hdb : db' = db)

def Outcome (payer : Payer) (quota : ℤ) (db : DB) : Except SessionError BillingSession × DB → Prop
  | (.error _, db') => db' = db
  | (.ok s, db') => Opened payer quota s db db'

namespace FundingSource

variable {p : ℤ} {f : FundingSource} {db db' : DB}

theorem takenFrom_of_preConsumeWallet {w : WalletFunding}
    (h : (preConsumeWallet w p).run db = .ok (f, db')) :
    f.source = .wallet ∧ (p < 0 ∧ db' = db ∨
      0 ≤ p ∧ db'.tokens = db.tokens ∧ TakenFrom w.userId p db db' f) := by
  unfold preConsumeWallet at h
  split at h
  · rename_i hp
    obtain ⟨rfl, rfl⟩ := Tx.run_pure_eq_ok.1 h
    refine ⟨rfl, ?_⟩
    rcases hp.lt_or_eq with hneg | rfl
    · exact .inl ⟨hneg, rfl⟩
    · refine .inr ⟨le_rfl, rfl, .wallet rfl (fun hne => absurd rfl hne) ?_ rfl⟩
      rw [neg_zero, DB.addUserQuota_zero]
  · simp only [Tx.run_bind_eq_ok, Tx.run_pure_eq_ok] at h
    obtain ⟨_, _, hdecrease, rfl, rfl⟩ := h
    obtain ⟨rfl, -⟩ | ⟨hp, user, hfind, -, rfl⟩ := run_decreaseUserQuotaIfEnough_eq_ok.1 hdecrease
    · omega
    · exact ⟨rfl, .inr ⟨hp.le, rfl, .wallet rfl (fun _ => ⟨user, hfind⟩) rfl rfl⟩⟩

variable {s : SubscriptionFunding}

theorem takenFrom_of_reservedFrom {requestId : String}
    {userId amount : ℤ} {result : SubscriptionPreConsumeResult}
    (h : ReservedFrom env requestId userId amount db db' result)
    (hid : s.subscriptionId = result.userSubscriptionId) :
    db'.tokens = db.tokens ∧ TakenFrom userId amount db db' (.subscription s) := by
  obtain ⟨base, sub, ledger, hresets, hfind, howner, -, -, -, -, rfl, rfl⟩ := h
  replace hid : s.subscriptionId = sub.id := hid
  rw [← hid] at hfind ⊢
  exact ⟨hresets.tokens, .subscription hresets hfind howner hresets.users rfl⟩

theorem takenFrom_of_preConsumeSubscription
    (h : (preConsumeSubscription env s).run db = .ok (f, db')) :
    0 < s.amount ∧ f.source = .subscription ∧
      (db' = db ∧ (∃ record, db.ledger.find? s.requestId = some record ∧
        record.userId = s.userId ∧ record.status = .consumed ∧ Repeats record f) ∨
      db'.tokens = db.tokens ∧ TakenFrom s.userId s.amount db db' f) := by
  simp only [preConsumeSubscription, Tx.run_bind_eq_ok] at h
  obtain ⟨result, _, hreserve, rfl, rfl⟩ := h
  obtain ⟨hpos, ⟨rfl, record, hfind, huser, hstatus, hid, hamount⟩ | ⟨-, hreserved⟩⟩ :=
    preConsumeUserSubscription_cases hreserve
  · exact ⟨hpos, rfl, .inl ⟨rfl, record, hfind, huser, hstatus, hid, hamount⟩⟩
  · exact ⟨hpos, rfl, .inr (takenFrom_of_reservedFrom hreserved rfl)⟩

end FundingSource

theorem takenFromToken_of_tokenMoved (payer : Payer)
    (h : TokenMoved payer.tokenId payer.isPlayground false p db db') :
    db.ApartFromTokens db' ∧ TakenFromToken payer p db db' := by
  cases h with
  | skipped hskip =>
    exact ⟨.refl db, fun _ hnot => absurd (hskip.symm.trans hnot) (by decide), (if_pos hskip).symm⟩
  | moved hskip hfind =>
    exact ⟨.addTokenQuota db _ _, fun _ _ => ⟨_, hfind⟩, (if_neg (by simp [hskip])).symm⟩

/-- The database after a token was charged. -/
theorem TakenFromToken.eq {payer : Payer}
    (h : TakenFromToken payer p db db') (hapart : db.ApartFromTokens db') :
    db' = if payer.isPlayground then db else db.addTokenQuota payer.tokenId (-p) := by
  obtain ⟨users, tokens, subscriptions, ledger⟩ := db'
  obtain ⟨rfl, rfl, rfl⟩ := hapart
  have htokens := h.tokens
  simp only at htokens
  rw [htokens]
  split <;> rfl

namespace BillingSession

variable {env : AttemptEnv} {quota p : ℤ} {s s' : BillingSession} {db db' : DB} {e : SessionError}

theorem takenFromToken_of_preConsumeTokenQuota {info : RelayInfo} {u : Unit}
    (h : (preConsumeTokenQuota info p).run db = .ok (u, db')) :
    TakenFromToken (payer info) p db db' := by
  simp only [preConsumeTokenQuota, Tx.run_bind_eq_ok, Tx.run_failIf_eq_ok] at h
  obtain ⟨_, _, ⟨-, rfl⟩, h⟩ := h
  split at h
  · rename_i hplayground
    obtain ⟨-, rfl⟩ := Tx.run_pure_eq_ok.1 h
    exact ⟨fun _ hnot => absurd (hplayground.symm.trans hnot) (by decide),
      (if_pos hplayground).symm⟩
  · rename_i hplayground
    obtain ⟨rfl, rfl⟩ | ⟨-, token, hfind, -, rfl⟩ := run_decreaseTokenQuotaIfEnough_eq_ok.1 h
    · refine ⟨fun hne => absurd rfl hne, ?_⟩
      rw [neg_zero, DB.addTokenQuota_zero, ite_self]
    · exact ⟨fun _ _ => ⟨token, hfind⟩, (if_neg hplayground).symm⟩

/-- The token is asked for positive amounts only, and giving them back restores the database. -/
theorem preConsumeToken_ok (hfresh : s.tokenConsumed = 0)
    (h : s.preConsumeToken env p db = (.ok s', db')) :
    db.ApartFromTokens db' ∧ s' = { s with tokenConsumed := if p > 0 then p else 0 } ∧
      (0 ≤ p → TakenFromToken (payer s.relayInfo) p db db') ∧ (p < 0 → db' = db) ∧
      (env.rollback.refused = false → s'.rollbackToken env db' = db) := by
  have hs' := (preConsumeToken_cases s env p db).2 s' (congrArg Prod.fst h)
  rw [hfresh] at hs'
  unfold preConsumeToken at h
  split at h
  · rename_i hp
    split at h
    · cases h
    · rename_i u db₁ hcommit
      obtain ⟨-, rfl⟩ := Prod.mk.inj h
      have hrun := Env.commit_eq_ok hcommit
      have hapart := apartFromTokens_of_preConsumeTokenQuota hrun
      have htaken := takenFromToken_of_preConsumeTokenQuota hrun
      refine ⟨hapart, hs', fun _ => htaken, fun hneg => by omega, fun henv => ?_⟩
      have hdb₁ : db₁ = if s.relayInfo.isPlayground then db
          else db.addTokenQuota s.relayInfo.tokenId (-p) := htaken.eq hapart
      rw [rollbackToken, hs', hdb₁, if_pos hp]
      by_cases hplayground : s.relayInfo.isPlayground = true
      · simp [hplayground]
      · rw [if_pos (by simp [hp, hplayground]), if_neg hplayground,
          Env.commit, if_neg (by simp [henv]), Tx.commit, run_increaseTokenQuota hp.le,
          DB.addTokenQuota_neg_add]
  · rename_i hp
    obtain ⟨-, rfl⟩ := Prod.mk.inj h
    refine ⟨.refl db, hs', fun hnonneg => ⟨fun hne => by omega, ?_⟩, fun _ => rfl, fun _ => ?_⟩
    · rw [show p = 0 by omega, neg_zero, DB.addTokenQuota_zero, ite_self]
    · simp [rollbackToken, hs', hp]

/-- The session is about to make its first attempt, for the user of the request. -/
structure Fresh (quota : ℤ) (s : BillingSession) : Prop where
  tokenConsumed : s.tokenConsumed = 0
  wallet : ∀ w, s.funding = .wallet w → w.userId = s.relayInfo.userId
  subscription : ∀ f, s.funding = .subscription f → f.requestId = s.relayInfo.requestId ∧
    f.userId = s.relayInfo.userId ∧ f.amount = quota

section

variable (hfresh : s.Fresh quota)
include hfresh

theorem opened_of_preConsumeFunding (hlegacy : s.relayInfo.usesAtomicStrictBilling = false)
    (hp : p = if s.shouldTrust env then 0 else quota) (hapart : db.ApartFromTokens db₁)
    (htoken : 0 ≤ p → TakenFromToken (payer s.relayInfo) p db db₁) (hnone : p < 0 → db₁ = db)
    (hrun : (s.funding.preConsume env.funding p).run db₁ = .ok (f, db')) (hs' : s'.funding = f)
    (hquota : s'.preConsumedQuota = p) : Opened (payer s.relayInfo) quota s' db db' := by
  subst hs' hquota
  cases hfunding : s.funding with
  | wallet w =>
    rw [hfunding] at hrun
    obtain ⟨hsource, ⟨hneg, rfl⟩ | ⟨hnonneg, htokens, htaken⟩⟩ :=
      FundingSource.takenFrom_of_preConsumeWallet hrun
    · -- a trusted request is not asked for anything, and 0 is not negative
      have hquota : quota < 0 := by
        rw [hp] at hneg
        split at hneg
        · omega
        · exact hneg
      exact .negative hquota hsource (hnone hneg)
    · refine .taken ⟨(htoken hnonneg).trans_eq htokens, ?_⟩
      rw [hfresh.wallet w hfunding] at htaken
      exact htaken.of_apartFromTokens hapart
  | subscription f =>
    rw [hfunding] at hrun
    obtain ⟨hrequest, huser, hamount⟩ := hfresh.subscription f hfunding
    have hall : s'.preConsumedQuota = quota := by
      rw [hp]
      simp [shouldTrust, hfunding]
    obtain ⟨hpos, hsource, ⟨rfl, record, hfind, hrecord, hstatus, hrepeats⟩ | ⟨htokens, htaken⟩⟩ :=
      FundingSource.takenFrom_of_preConsumeSubscription hrun
    · rw [hrequest, hapart.ledger] at hfind
      rw [huser] at hrecord
      exact .replayedLegacy ⟨hfind, hrecord, hstatus⟩ hlegacy hsource hrepeats hapart
        (htoken (by omega))
    · rw [huser, hamount, ← hall] at htaken
      exact .taken ⟨(htoken (by omega)).trans_eq htokens, htaken.of_apartFromTokens hapart⟩

theorem outcome_preConsumeLegacy (hlegacy : s.relayInfo.usesAtomicStrictBilling = false)
    (henv : env.rollback.refused = false) :
    Outcome (payer s.relayInfo) quota db (s.preConsumeLegacy env quota db) := by
  unfold preConsumeLegacy
  generalize hp : (if s.shouldTrust env then 0 else quota) = p
  simp only
  split
  · rename_i e db₁ htoken
    unfold preConsumeToken at htoken
    split at htoken
    · split at htoken
      · rename_i hcommit
        obtain ⟨-, rfl⟩ := Prod.mk.inj htoken
        exact Env.commit_eq_error hcommit
      · cases htoken
    · cases htoken
  · rename_i s₁ db₁ htoken
    obtain ⟨hapart, hs₁, htaken, hnone, hback⟩ := preConsumeToken_ok hfresh.tokenConsumed htoken
    unfold preConsumeFunding
    split
    · rename_i hcommit
      rw [Env.commit_eq_error hcommit]
      exact hback henv
    · rename_i f db₂ hcommit
      have hrun := Env.commit_eq_ok hcommit
      rw [hs₁] at hrun
      obtain ⟨info, hsync, -⟩ :=
        exists_syncRelayInfo { s₁ with funding := f, preConsumedQuota := p }
      rw [hsync]
      exact opened_of_preConsumeFunding hfresh hlegacy hp.symm hapart htaken hnone hrun rfl rfl

theorem outcome_preConsumeStrict (hstrict : s.relayInfo.usesAtomicStrictBilling = true) :
    Outcome (payer s.relayInfo) quota db (s.preConsumeStrict env quota db) := by
  unfold preConsumeStrict
  split
  · rename_i hcommit
    exact Env.commit_eq_error hcommit
  · rename_i result db₁ hcommit
    obtain ⟨hpos, ⟨rfl, record, hfind, huser, huse, hstatus, hamount, hid, hpre⟩ |
      ⟨-, db₂, htoken, hfunding⟩⟩ := preConsumeStrictBilling_cases (Env.commit_eq_ok hcommit)
    · obtain ⟨info, hsync, -⟩ := exists_syncRelayInfo { s with
        preConsumedQuota := quota, tokenConsumed := quota
        funding := strictFunding quota result s.funding }
      rw [hsync]
      refine .replayed ⟨hfind, huser, hstatus⟩ hstrict ?_ hamount.symm rfl
      cases hsource : s.funding with
      | wallet w =>
        rw [hsource] at huse
        exact ⟨not_lt.1 (of_decide_eq_false huse.symm), hamount.symm⟩
      | subscription f => exact ⟨hid, hpre.trans hamount.symm⟩
    obtain ⟨hapart, htaken⟩ := takenFromToken_of_tokenMoved (payer s.relayInfo) htoken
    refine .taken ?_
    cases hsource : s.funding with
    | wallet w =>
      rw [hsource] at hfunding
      obtain ⟨hsub, -⟩ | ⟨-, -, -, db₃, ledger, hmoved, -, rfl⟩ := hfunding
      · cases hsub
      cases hmoved with
      | charge hid => exact absurd rfl hid
      | refund hid => exact absurd rfl hid
      | wallet _ hfind =>
        refine ⟨htaken.trans_eq rfl, ?_⟩
        have hwallet : TakenFrom s.relayInfo.userId quota db₂
            { db₂.addUserQuota s.relayInfo.userId (-quota) with ledger := ledger }
            (.wallet { w with consumed := quota }) :=
          .wallet (hfresh.wallet w hsource) (fun _ => ⟨_, hfind⟩) rfl rfl
        exact hwallet.of_apartFromTokens hapart
    | subscription f =>
      rw [hsource] at hfunding
      obtain ⟨-, r, hreserved, hid, -⟩ | ⟨hwallet, -⟩ := hfunding
      · obtain ⟨htokens, hfrom⟩ := FundingSource.takenFrom_of_reservedFrom
          (s := { f with
            subscriptionId := result.subscriptionID, preConsumed := result.preConsumed
            amountTotal := result.amountTotal
            amountUsedAfter := result.amountUsedAfter }) hreserved hid
        exact ⟨htaken.trans_eq htokens, hfrom.of_apartFromTokens hapart⟩
      · cases hwallet

/-- **An attempt takes what it reserves, or leaves no trace.** -/
theorem outcome_preConsume (henv : env.rollback.refused = false) :
    Outcome (payer s.relayInfo) quota db (s.preConsume env quota db) := by
  unfold preConsume
  split
  · rename_i hstrict
    exact outcome_preConsumeStrict hfresh hstrict
  · rename_i hlegacy
    exact outcome_preConsumeLegacy hfresh (Bool.eq_false_iff.2 hlegacy) henv

end

end BillingSession

section

variable {env : OpenEnv} (info : RelayInfo) (quota : ℤ) (db : DB)

theorem outcome_tryWallet (henv : env.wallet.rollback.refused = false) :
    Outcome (payer info) quota db
      ((tryWallet env info quota db).1, (tryWallet env info quota db).2.2) ∧
      payer (tryWallet env info quota db).2.1 = payer info := by
  unfold tryWallet
  simp only
  split
  · exact ⟨rfl, rfl⟩
  split
  · exact ⟨rfl, rfl⟩
  split
  · exact ⟨rfl, rfl⟩
  · refine ⟨BillingSession.outcome_preConsume ⟨rfl, ?_, ?_⟩ henv, rfl⟩
    · rintro w ⟨⟩
      rfl
    · rintro f ⟨⟩

/-- A subscription is asked for 1 at least. -/
theorem outcome_trySubscription (henv : env.subscription.rollback.refused = false) :
    Outcome (payer info) quota db (trySubscription env info quota db) := by
  unfold trySubscription
  generalize hamount : (if quota ≤ 0 then 1 else quota) = amount
  have houtcome : Outcome (payer info) amount db (BillingSession.preConsume env.subscription amount
      { relayInfo := info
        funding := .subscription
          { requestId := info.requestId, userId := info.userId, amount := amount } } db) := by
    refine BillingSession.outcome_preConsume ⟨rfl, ?_, ?_⟩ henv
    · rintro w ⟨⟩
    · rintro f ⟨⟩
      exact ⟨rfl, rfl, rfl⟩
  generalize BillingSession.preConsume env.subscription amount _ db = out at houtcome ⊢
  obtain ⟨result, db'⟩ := out
  cases result with
  | error e => exact houtcome
  | ok s =>
    cases houtcome with
    | taken h => exact .taken h
    | replayed hreserved hstrict hfunding hquota hdb =>
      exact .replayed hreserved hstrict hfunding hquota hdb
    | replayedLegacy hreserved hstrict hsource hfunding hapart htoken =>
      exact .replayedLegacy hreserved hstrict hsource hfunding hapart htoken
    | negative hquota => omega

end

def strictRequest : RelayInfo :=
  { walletRequest with forcePreConsume := true, priceData := { channelSpecific := true } }

def strictReserved : DB := (newBillingSession sampleOpenEnv strictRequest 100 sampleDB).2

def repeatedSession : BillingSession where
  relayInfo := { strictRequest with
    userQuota := 900, finalPreConsumedQuota := 100, billingSource := some .wallet }
  funding := .wallet { userId := 7, consumed := 100 }
  preConsumedQuota := 100
  tokenConsumed := 100

end Mujian.Billing
