import Mujian.Billing.Session

/-!
# Opening a billing session

`newBillingSession` tries the wallet, a subscription, or one after the other when the first has too
little. An attempt of the legacy mode takes the quota from the token and then from the funding
source, and gives it back to the token when the funding source refuses. `newBillingSession_cases`
says that an opened session is the result of one of the two attempts.
-/

namespace Mujian.Billing

open Relay (RelayInfo BillingSource)

inductive ErrorCode
  | preConsumeTokenQuotaFailed | insufficientUserQuota | updateDataError | queryDataError
  deriving DecidableEq

inductive SessionError
  | tokenQuota (need : ℤ) (cause : BillingError)
  | fundingInsufficient (cause : BillingError)
  | subscriptionInsufficient (cause : BillingError)
  | updateData (cause : BillingError)
  | queryData (cause : BillingError)
  | walletEmpty (quota : ℤ)
  | walletShort (quota need : ℤ)
  deriving DecidableEq

namespace SessionError

def errorCode : SessionError → ErrorCode
  | tokenQuota _ _ => .preConsumeTokenQuotaFailed
  | fundingInsufficient _ | subscriptionInsufficient _ => .insufficientUserQuota
  | updateData _ => .updateDataError
  | queryData _ => .queryDataError
  | walletEmpty _ | walletShort _ _ => .insufficientUserQuota

/-- The error texts, for a display of quota amounts. -/
def message (formatQuota : ℤ → String) : SessionError → String
  | tokenQuota need .insufficientTokenQuota =>
    "token quota is not enough, need quota: " ++ formatQuota need ++ ": " ++
      BillingError.insufficientTokenQuota.message
  | tokenQuota _ cause => cause.message
  | fundingInsufficient cause => "预扣费额度失败: " ++ cause.message
  | subscriptionInsufficient cause => "订阅额度不足或未配置订阅: " ++ cause.message
  | updateData cause => cause.message
  | queryData cause => cause.message
  | walletEmpty quota => "用户额度不足, 剩余额度: " ++ formatQuota quota
  | walletShort quota need =>
    "预扣费额度失败, 用户剩余额度: " ++ formatQuota quota ++ ", 需要预扣费额度: " ++ formatQuota need

/-- The error for a refused reservation. The source recognises the two subscription errors by their
texts. -/
def ofFunding : BillingError → SessionError
  | .insufficientUserQuota => fundingInsufficient .insufficientUserQuota
  | .noActiveSubscription => subscriptionInsufficient .noActiveSubscription
  | .subscriptionInsufficient need => subscriptionInsufficient (.subscriptionInsufficient need)
  | cause => updateData cause

end SessionError

def strictPreConsumeAPIError (cause : BillingError) (quota : ℤ) : SessionError :=
  if cause = .insufficientTokenQuota then .tokenQuota quota cause else .ofFunding cause

structure AttemptEnv where
  (funding token rollback : Env)
  /-- `common.GetTrustQuota()`. -/
  trustQuota : ℤ
  tokenQuota : ℤ

def preConsumeTokenQuota (info : RelayInfo) (quota : ℤ) : DBTx Unit := do
  Tx.failIf (quota < 0) .quotaNegative
  if info.isPlayground then pure () else decreaseTokenQuotaIfEnough info.tokenId quota

namespace BillingSession

section

variable (env : AttemptEnv) (effectiveQuota : ℤ) (quota : ℤ) (s : BillingSession)

/-- Requests of users with plenty of quota reserve nothing; those on subscriptions are never
trusted. -/
def shouldTrust : Bool := !s.relayInfo.forcePreConsume && env.trustQuota > 0 &&
    (s.relayInfo.tokenUnlimited || env.tokenQuota > env.trustQuota) &&
    match s.funding with
    | .wallet _ => s.relayInfo.userQuota > env.trustQuota
    | .subscription _ => false

def syncRelayInfo : BillingSession :=
  let info := { s.relayInfo with
    finalPreConsumedQuota := s.preConsumedQuota, billingSource := some s.funding.source }
  match s.funding with
  | .wallet _ =>
    { s with relayInfo := { info with subscriptionId := 0, subscriptionPreConsumed := 0 } }
  | .subscription sub =>
    { s with relayInfo := { info with
      subscriptionId := sub.subscriptionId, subscriptionPreConsumed := sub.preConsumed
      subscriptionPostDelta := 0, subscriptionAmountTotal := sub.amountTotal
      subscriptionAmountUsedAfterPreConsume := sub.amountUsedAfter } }

def strictFunding (result : StrictBillingPreConsumeResult) : FundingSource → FundingSource
  | .wallet w => .wallet { w with consumed := quota }
  | .subscription sub => .subscription { sub with
      subscriptionId := result.subscriptionID, preConsumed := result.preConsumed
      amountTotal := result.amountTotal, amountUsedAfter := result.amountUsedAfter }

section

variable (db : DB)

def preConsumeStrict : Except SessionError BillingSession × DB :=
  match env.funding.commit (preConsumeStrictBilling env.funding
    { requestID := s.relayInfo.requestId
      userID := s.relayInfo.userId, useSubscription := s.funding.source == .subscription
      tokenID := s.relayInfo.tokenId, skipToken := s.relayInfo.isPlayground
      quota := quota }) db with
  | (.error e, db) => (.error (strictPreConsumeAPIError e quota), db)
  | (.ok result, db) =>
    (.ok (syncRelayInfo { s with
      preConsumedQuota := quota, tokenConsumed := quota
      funding := strictFunding quota result s.funding }), db)

def preConsumeToken : Except SessionError BillingSession × DB :=
  if effectiveQuota > 0 then
    match env.token.commit (preConsumeTokenQuota s.relayInfo effectiveQuota) db with
    | (.error e, db) => (.error (.tokenQuota effectiveQuota e), db)
    | (.ok _, db) => (.ok { s with tokenConsumed := effectiveQuota }, db)
  else (.ok s, db)

/-- Gives the quota back to the token; a failure is only logged. -/
def rollbackToken : DB :=
  if s.tokenConsumed > 0 && !s.relayInfo.isPlayground then
    (env.rollback.commit (increaseTokenQuota s.relayInfo.tokenId s.tokenConsumed) db).2
  else db

def preConsumeFunding : Except SessionError BillingSession × DB :=
  match env.funding.commit (s.funding.preConsume env.funding effectiveQuota) db with
  | (.error e, db) => (.error (.ofFunding e), s.rollbackToken env db)
  | (.ok funding, db) =>
    (.ok (syncRelayInfo { s with funding := funding, preConsumedQuota := effectiveQuota }), db)

def preConsumeLegacy : Except SessionError BillingSession × DB :=
  let effectiveQuota := if s.shouldTrust env then 0 else quota
  match s.preConsumeToken env effectiveQuota db with
  | (.error e, db) => (.error e, db)
  | (.ok s, db) => s.preConsumeFunding env effectiveQuota db

def preConsume : Except SessionError BillingSession × DB :=
  if s.usesAtomicStrictBilling then s.preConsumeStrict env quota db
  else s.preConsumeLegacy env quota db

end

end

end BillingSession

inductive BillingPreference
  | subscriptionFirst | walletFirst | subscriptionOnly | walletOnly

def normalizeBillingPreference (pref : String) : BillingPreference :=
  let pref := trimSpace pref
  if pref = "wallet_first" then .walletFirst
  else if pref = "subscription_only" then .subscriptionOnly
  else if pref = "wallet_only" then .walletOnly
  else .subscriptionFirst

/-- The environment of the opening of a session. -/
structure OpenEnv where
  (wallet subscription : AttemptEnv)
  query : Env
  /-- The quota of the user in the cache, which is not read in the strict mode. -/
  cachedUserQuota : Option ℤ

def getUserQuotaDirect (env : Env) (id : ℤ) (db : DB) : Except BillingError ℤ :=
  if env.refused then .error .database else .ok (((db.users.find? id).map User.quota).getD 0)

def getUserQuota (env : Env) (cached : Option ℤ) (id : ℤ) (db : DB) : Except BillingError ℤ :=
  match cached with
  | some quota => .ok quota
  | none => getUserQuotaDirect env id db

def hasActiveUserSubscription (env : Env) (userId : ℤ) (db : DB) : Except BillingError Bool :=
  if userId ≤ 0 then .error .invalidUserId
  else if env.refused then .error .database
  else .ok (0 < db.subscriptions.countWhere fun s =>
    s.userId == userId && s.status == .active && s.endTime > env.timestamp)

section

variable (env : OpenEnv) (info : RelayInfo) (preConsumedQuota : ℤ) (db : DB)

/-- The attempt on the wallet. It leaves the quota it has read in the request. -/
def tryWallet : Except SessionError BillingSession × RelayInfo × DB :=
  let read := if info.forcePreConsume then getUserQuotaDirect env.query info.userId db
    else getUserQuota env.query env.cachedUserQuota info.userId db
  match read with
  | .error e => (.error (.queryData e), info, db)
  | .ok userQuota =>
    if !info.forcePreConsume && userQuota ≤ 0 then (.error (.walletEmpty userQuota), info, db)
    else if !info.forcePreConsume && userQuota - preConsumedQuota < 0 then
      (.error (.walletShort userQuota preConsumedQuota), info, db)
    else
      let info := { info with userQuota := userQuota }
      let session : BillingSession :=
        { relayInfo := info, funding := .wallet { userId := info.userId } }
      let (result, db) := session.preConsume env.wallet preConsumedQuota db
      (result, info, db)

/-- The attempt on a subscription, of at least 1. -/
def trySubscription : Except SessionError BillingSession × DB :=
  let subConsume := if preConsumedQuota ≤ 0 then 1 else preConsumedQuota
  let session : BillingSession :=
    { relayInfo := info
      funding := .subscription
        { requestId := info.requestId, userId := info.userId, amount := subConsume } }
  session.preConsume env.subscription subConsume db

def newBillingSession : Except SessionError BillingSession × DB :=
  match normalizeBillingPreference info.userSetting.billingPreference with
  | .subscriptionOnly => trySubscription env info preConsumedQuota db
  | .walletOnly =>
    let (result, _, db) := tryWallet env info preConsumedQuota db
    (result, db)
  | .walletFirst =>
    match tryWallet env info preConsumedQuota db with
    | (.ok session, _, db) => (.ok session, db)
    | (.error e, info, db) =>
      if e.errorCode = .insufficientUserQuota then trySubscription env info preConsumedQuota db
      else (.error e, db)
  | .subscriptionFirst =>
    match hasActiveUserSubscription env.query info.userId db with
    | .error e => (.error (.queryData e), db)
    | .ok false =>
      let (result, _, db) := tryWallet env info preConsumedQuota db
      (result, db)
    | .ok true =>
      match trySubscription env info preConsumedQuota db with
      | (.ok session, db) => (.ok session, db)
      | (.error e, db) =>
        if e.errorCode = .insufficientUserQuota then
          let (result, _, db) := tryWallet env info preConsumedQuota db
          (result, db)
        else (.error e, db)

end

namespace BillingSession

variable {env : AttemptEnv} {quota : ℤ} {s s' : BillingSession} {db db' : DB}

/-- Synchronising writes fields of the request only. -/
theorem exists_syncRelayInfo (s : BillingSession) :
    ∃ info, s.syncRelayInfo = { s with relayInfo := info } ∧ SameRequest s.relayInfo info := by
  unfold syncRelayInfo
  cases s.funding with
  | wallet | subscription => exact ⟨_, rfl, rfl, rfl, rfl, rfl⟩

/-- A reservation of the strict mode that succeeds. -/
theorem preConsume_strict_cases (h : s.preConsume env quota db = (.ok s', db'))
    (hstrict : s.usesAtomicStrictBilling = true) :
    ∃ info result, SameRequest s.relayInfo info ∧
      (preConsumeStrictBilling env.funding
        { requestID := s.relayInfo.requestId
          userID := s.relayInfo.userId, useSubscription := s.funding.source == .subscription
          tokenID := s.relayInfo.tokenId, skipToken := s.relayInfo.isPlayground
          quota := quota }).run db = .ok (result, db') ∧
      s' = { s with
        relayInfo := info, preConsumedQuota := quota
        tokenConsumed := quota
        funding := strictFunding quota result s.funding } := by
  rw [preConsume, if_pos hstrict, preConsumeStrict] at h
  split at h
  · cases h
  · rename_i result db₁ hcommit
    obtain ⟨hs, rfl⟩ := Prod.mk.inj h
    obtain ⟨info, hsync, hsame⟩ := exists_syncRelayInfo { s with
      preConsumedQuota := quota, tokenConsumed := quota
      funding := strictFunding quota result s.funding }
    exact ⟨info, result, hsame, Env.commit_eq_ok hcommit, (Except.ok.inj hs).symm.trans hsync⟩

theorem apartFromTokens_of_preConsumeTokenQuota {info : RelayInfo} {u : Unit}
    (h : (preConsumeTokenQuota info quota).run db = .ok (u, db')) : db.ApartFromTokens db' := by
  simp only [preConsumeTokenQuota, Tx.run_bind_eq_ok, Tx.run_failIf_eq_ok] at h
  obtain ⟨_, _, ⟨-, rfl⟩, h⟩ := h
  split at h
  · obtain ⟨-, rfl⟩ := Tx.run_pure_eq_ok.1 h
    exact .refl db
  · obtain ⟨-, rfl⟩ | ⟨-, _, -, -, rfl⟩ := run_decreaseTokenQuotaIfEnough_eq_ok.1 h
    · exact .refl _
    · exact .addTokenQuota db _ _

/-- Taking quota from the token does not touch the funding sources. -/
theorem preConsumeToken_cases (s : BillingSession) (env : AttemptEnv) (p : ℤ) (db : DB) :
    db.ApartFromTokens (s.preConsumeToken env p db).2 ∧
      ∀ s', (s.preConsumeToken env p db).1 = .ok s' →
        s' = { s with tokenConsumed := if p > 0 then p else s.tokenConsumed } := by
  unfold preConsumeToken
  split
  · have hapart : db.ApartFromTokens
        (env.token.commit (preConsumeTokenQuota s.relayInfo p) db).2 :=
      Env.apartFromTokens_commit fun _ _ => apartFromTokens_of_preConsumeTokenQuota
    split
    · rename_i e db₁ hcommit
      rw [hcommit] at hapart
      exact ⟨hapart, fun s' hs => by cases hs⟩
    · rename_i u db₁ hcommit
      rw [hcommit] at hapart
      exact ⟨hapart, fun s' hs => (Except.ok.inj hs).symm⟩
  · exact ⟨.refl db, fun s' hs => (Except.ok.inj hs).symm⟩

theorem apartFromTokens_rollbackToken (s : BillingSession) (env : AttemptEnv) (db : DB) :
    db.ApartFromTokens (s.rollbackToken env db) := by
  unfold rollbackToken
  split
  · exact Env.apartFromTokens_commit fun _ _ => apartFromTokens_of_increaseTokenQuota
  · exact .refl db

/-- A reservation of the legacy mode that succeeds. -/
theorem preConsume_legacy_cases (h : s.preConsume env quota db = (.ok s', db'))
    (hlegacy : s.usesAtomicStrictBilling = false) :
    ∃ p info funding db₁, p = (if s.shouldTrust env then 0 else quota) ∧
      SameRequest s.relayInfo info ∧ db.ApartFromTokens db₁ ∧
      (s.funding.preConsume env.funding p).run db₁ = .ok (funding, db') ∧
      s' = { s with
        relayInfo := info
        tokenConsumed := if p > 0 then p else s.tokenConsumed
        funding := funding
        preConsumedQuota := p } := by
  rw [preConsume, if_neg (by simp [hlegacy]), preConsumeLegacy] at h
  generalize (if s.shouldTrust env then 0 else quota) = p at h
  obtain ⟨hapart, htoken⟩ := preConsumeToken_cases s env p db
  split at h
  · cases h
  · rename_i s₁ db₁ hpre
    rw [hpre] at hapart htoken
    obtain rfl := htoken s₁ rfl
    unfold preConsumeFunding at h
    split at h
    · cases h
    · rename_i funding db₂ hcommit
      obtain ⟨hs, rfl⟩ := Prod.mk.inj h
      obtain ⟨info, hsync, hsame⟩ := exists_syncRelayInfo { s with
        tokenConsumed := if p > 0 then p else s.tokenConsumed
        funding := funding, preConsumedQuota := p }
      exact ⟨p, info, funding, db₁, rfl, hsame, hapart, Env.commit_eq_ok hcommit,
        (Except.ok.inj hs).symm.trans hsync⟩

theorem sameRequest_of_preConsume (h : s.preConsume env quota db = (.ok s', db')) :
    SameRequest s.relayInfo s'.relayInfo := by
  cases hmode : s.usesAtomicStrictBilling with
  | true =>
    obtain ⟨info, result, hsame, -, rfl⟩ := preConsume_strict_cases h hmode
    exact hsame
  | false =>
    obtain ⟨p, info, funding, db₁, -, hsame, -, -, rfl⟩ := preConsume_legacy_cases h hmode
    exact hsame

/-- A reservation that fails moves tokens at most. -/
theorem apartFromTokens_of_preConsume_error {e : SessionError}
    (h : s.preConsume env quota db = (.error e, db')) : db.ApartFromTokens db' := by
  unfold preConsume at h
  split at h
  · unfold preConsumeStrict at h
    split at h
    · rename_i hcommit
      obtain ⟨-, rfl⟩ := Prod.mk.inj h
      rw [Env.commit_eq_error hcommit]
      exact .refl db
    · cases h
  · unfold preConsumeLegacy at h
    generalize (if s.shouldTrust env then 0 else quota) = p at h
    obtain ⟨hapart, -⟩ := preConsumeToken_cases s env p db
    simp only at h
    split at h
    · rename_i hpre
      obtain ⟨-, rfl⟩ := Prod.mk.inj h
      rwa [hpre] at hapart
    · rename_i s₁ db₁ hpre
      rw [hpre] at hapart
      unfold preConsumeFunding at h
      split at h
      · rename_i hcommit
        obtain ⟨-, rfl⟩ := Prod.mk.inj h
        rw [Env.commit_eq_error hcommit]
        exact hapart.trans (apartFromTokens_rollbackToken s₁ env db₁)
      · cases h

end BillingSession

/-- The session is the result of an attempt on the wallet or on a subscription, made in a database
whose funding sources are those of `db`. -/
inductive OpenedBy (info : RelayInfo) (quota : ℤ) (db : DB) (s : BillingSession) (db' : DB) : Prop
  | wallet {env : AttemptEnv} {userQuota : ℤ} {db₁ : DB} (hapart : db.ApartFromTokens db₁)
      (h : BillingSession.preConsume env quota
        { relayInfo := { info with userQuota := userQuota }
          funding := .wallet { userId := info.userId } } db₁ = (.ok s, db'))
  | subscription {env : AttemptEnv} {userQuota : ℤ} {db₁ : DB} (hapart : db.ApartFromTokens db₁)
      (h : BillingSession.preConsume env (if quota ≤ 0 then 1 else quota)
        { relayInfo := { info with userQuota := userQuota }
          funding := .subscription
            { requestId := info.requestId
              userId := info.userId
              amount := if quota ≤ 0 then 1 else quota } } db₁ = (.ok s, db'))

section

variable {env : OpenEnv} {info info' : RelayInfo} {quota : ℤ} {s : BillingSession} {db db' : DB}

theorem OpenedBy.after_failure {db₁ : DB} (userQuota : ℤ) (hapart : db.ApartFromTokens db₁)
    (h : OpenedBy { info with userQuota := userQuota } quota db₁ s db') :
    OpenedBy info quota db s db' := by
  cases h with
  | wallet hapart' h => exact .wallet (hapart.trans hapart') h
  | subscription hapart' h => exact .subscription (hapart.trans hapart') h

theorem OpenedBy.exists_preConsume (h : OpenedBy info quota db s db') :
    ∃ attempt amount s₀ db₁, SameRequest info s₀.relayInfo ∧ s₀.settled = false ∧
      BillingSession.preConsume attempt amount s₀ db₁ = (.ok s, db') := by
  cases h with
  | wallet hapart h => exact ⟨_, _, _, _, ⟨rfl, rfl, rfl, rfl⟩, rfl, h⟩
  | subscription hapart h => exact ⟨_, _, _, _, ⟨rfl, rfl, rfl, rfl⟩, rfl, h⟩

theorem openedBy_of_tryWallet (h : tryWallet env info quota db = (.ok s, info', db')) :
    OpenedBy info quota db s db' := by
  unfold tryWallet at h
  simp only at h
  split at h
  · cases h
  split at h
  · cases h
  split at h
  · cases h
  · obtain ⟨hresult, -, hdb⟩ : _ ∧ _ ∧ _ := by simpa only [Prod.mk.injEq] using h
    exact .wallet (.refl db) (Prod.ext hresult hdb)

theorem apartFromTokens_of_tryWallet {e : SessionError}
    (h : tryWallet env info quota db = (.error e, info', db')) :
    db.ApartFromTokens db' ∧ ∃ userQuota, info' = { info with userQuota := userQuota } := by
  unfold tryWallet at h
  simp only at h
  split at h
  · cases h
    exact ⟨.refl db, info.userQuota, rfl⟩
  split at h
  · cases h
    exact ⟨.refl db, info.userQuota, rfl⟩
  split at h
  · cases h
    exact ⟨.refl db, info.userQuota, rfl⟩
  · obtain ⟨hresult, rfl, hdb⟩ : _ ∧ _ ∧ _ := by simpa only [Prod.mk.injEq] using h
    exact ⟨BillingSession.apartFromTokens_of_preConsume_error (Prod.ext hresult hdb), _, rfl⟩

theorem openedBy_of_trySubscription (h : trySubscription env info quota db = (.ok s, db')) :
    OpenedBy info quota db s db' :=
  .subscription (.refl db) h

theorem newBillingSession_cases (h : newBillingSession env info quota db = (.ok s, db')) :
    OpenedBy info quota db s db' := by
  -- the wallet alone, its result read off a triple
  have hwallet : ∀ {info : RelayInfo} {db : DB},
      ((tryWallet env info quota db).1, (tryWallet env info quota db).2.2) = (.ok s, db') →
      OpenedBy info quota db s db' := fun h =>
    openedBy_of_tryWallet (Prod.ext (Prod.mk.inj h).1 (Prod.ext rfl (Prod.mk.inj h).2))
  unfold newBillingSession at h
  split at h
  · exact openedBy_of_trySubscription h
  · exact hwallet h
  · split at h
    · rename_i htry
      obtain ⟨hs, rfl⟩ := Prod.mk.inj h
      obtain rfl := Except.ok.inj hs
      exact openedBy_of_tryWallet htry
    · rename_i e info' db₁ htry
      obtain ⟨hapart, userQuota, rfl⟩ := apartFromTokens_of_tryWallet htry
      split at h
      · exact (openedBy_of_trySubscription h).after_failure userQuota hapart
      · cases h
  · split at h
    · cases h
    · exact hwallet h
    · split at h
      · rename_i htry
        obtain ⟨hs, rfl⟩ := Prod.mk.inj h
        obtain rfl := Except.ok.inj hs
        exact openedBy_of_trySubscription htry
      · rename_i e db₁ htry
        split at h
        · have hapart := BillingSession.apartFromTokens_of_preConsume_error htry
          exact OpenedBy.after_failure info.userQuota hapart (hwallet h)
        · cases h

end

end Mujian.Billing
