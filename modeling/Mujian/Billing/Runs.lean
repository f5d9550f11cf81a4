import Mujian.Billing.StrictLedger

/-!
# Runs of all billing transactions

The transactions of strict billing interleaved with those of the legacy path. **No overdraft**: the
only guard of a balance is the `WHERE` clause of the statement that lowers it. `bounded_run` shows
that this suffices: without the overdraft flag, no run leaves a negative wallet, a negative limited
token, or a subscription used beyond its total.
-/

namespace Mujian.Billing

/-- A billing transaction with its environment. -/
inductive BillingCall
  | strict (call : StrictCall)
  | decreaseUserQuotaIfEnough (env : Env) (id quota : ℤ)
  | decreaseTokenQuotaIfEnough (env : Env) (id quota : ℤ)
  | preConsumeUserSubscription (env : Env) (requestId : String) (userId amount : ℤ)
  | refundSubscriptionPreConsume (env : Env) (requestId : String)
  | postConsumeUserSubscriptionDelta (env : Env) (userSubscriptionId delta : ℤ)
  | resetDueSubscription (env : Env) (id : ℤ) (plan : SubscriptionPlan)

namespace BillingCall

def allowOverdraft : BillingCall → Bool
  | strict (.settle _ params) => params.allowOverdraft
  | _ => false

/-- Make a call, as one atomic transaction. -/
def step (db : DB) : BillingCall → DB
  | strict call => call.step db
  | decreaseUserQuotaIfEnough env id quota =>
    (env.commit (Billing.decreaseUserQuotaIfEnough id quota) db).2
  | decreaseTokenQuotaIfEnough env id quota =>
    (env.commit (Billing.decreaseTokenQuotaIfEnough id quota) db).2
  | preConsumeUserSubscription env requestId userId amount =>
    (env.commit (Billing.preConsumeUserSubscription env requestId userId amount) db).2
  | refundSubscriptionPreConsume env requestId =>
    (env.commit (Billing.refundSubscriptionPreConsume env requestId) db).2
  | postConsumeUserSubscriptionDelta env userSubscriptionId delta =>
    (env.commit (Billing.postConsumeUserSubscriptionDelta userSubscriptionId delta) db).2
  | resetDueSubscription env id plan => (env.commit (Billing.resetDueSubscription env id plan) db).2

def Completes (db db' : DB) : BillingCall → Prop
  | strict call => call.Completes db db'
  | decreaseUserQuotaIfEnough _ id quota =>
    ∃ r, (Billing.decreaseUserQuotaIfEnough id quota).run db = .ok (r, db')
  | decreaseTokenQuotaIfEnough _ id quota =>
    ∃ r, (Billing.decreaseTokenQuotaIfEnough id quota).run db = .ok (r, db')
  | preConsumeUserSubscription env requestId userId amount =>
    ∃ r, (Billing.preConsumeUserSubscription env requestId userId amount).run db = .ok (r, db')
  | refundSubscriptionPreConsume env requestId =>
    ∃ r, (Billing.refundSubscriptionPreConsume env requestId).run db = .ok (r, db')
  | postConsumeUserSubscriptionDelta _ userSubscriptionId delta =>
    ∃ r, (Billing.postConsumeUserSubscriptionDelta userSubscriptionId delta).run db = .ok (r, db')
  | resetDueSubscription env id plan =>
    ∃ r, (Billing.resetDueSubscription env id plan).run db = .ok (r, db')

theorem step_cases (db : DB) (call : BillingCall) :
    call.step db = db ∨ call.Completes db (call.step db) := by
  cases call with
  | strict call => exact call.step_cases db
  | _ => exact Tx.commit_cases _ _ db

end BillingCall

/-- One statement of a billing transaction. Without `overdraft` a charge is covered. -/
inductive Moved (overdraft : Bool) (db : DB) : DB → Prop
  | wallet {id delta : ℤ} {user : User} (hfind : db.users.find? id = some user)
      (hcover : overdraft = false → 0 < delta → delta ≤ user.quota) :
      Moved overdraft db (db.addUserQuota id (-delta))
  | token {id delta : ℤ} {token : Token} (hfind : db.tokens.find? id = some token)
      (hcover : overdraft = false → 0 < delta →
        token.unlimitedQuota = true ∨ delta ≤ token.remainQuota) :
      Moved overdraft db (db.addTokenQuota id (-delta))
  | charge {id amount : ℤ} {sub : UserSubscription}
      (hfind : db.subscriptions.find? id = some sub) (hpos : 0 < amount)
      (hcover : overdraft = false → sub.HasRoom amount) :
      Moved overdraft db (db.chargeSubscription id amount)
  | refund {id refund : ℤ} (hrefund : 0 ≤ refund) :
      Moved overdraft db (db.refundSubscription id refund)
  | resets {db' : DB} (hafter : db.AfterResets db') : Moved overdraft db db'
  | ledger (ledger : Table SubscriptionPreConsumeRecord) : Moved overdraft db { db with ledger }

/-- A sequence of statements. -/
abbrev Moves (overdraft : Bool) : DB → DB → Prop := Relation.ReflTransGen (Moved overdraft)

section

variable {db db' : DB} {overdraft : Bool} {delta : ℤ}

theorem FundingMoved.moves {userID subscriptionID : ℤ}
    (h : FundingMoved userID subscriptionID overdraft delta db db') : Moves overdraft db db' := by
  cases h with
  | wallet _ hfind hcover => exact .single (.wallet hfind hcover)
  | charge _ hfind hpos hcover => exact .single (.charge hfind hpos hcover)
  | refund _ _ hneg => exact .single (.refund (by omega))

theorem TokenMoved.moves {tokenID : ℤ} {skipToken : Bool}
    (h : TokenMoved tokenID skipToken overdraft delta db db') : Moves overdraft db db' := by
  cases h with
  | skipped => exact .refl
  | moved _ hfind hcover => exact .single (.token hfind hcover)

theorem BalancesMoved.moves {params : StrictBillingParams}
    (h : BalancesMoved params overdraft delta db db') : Moves overdraft db db' := by
  rcases h with ⟨-, rfl⟩ | ⟨db₁, hfunding, htoken⟩
  · exact .refl
  · exact hfunding.moves.trans htoken.moves

theorem ReservedFrom.moves {env : Env} {requestId : String} {userId amount : ℤ}
    {result : SubscriptionPreConsumeResult} (hamount : 0 < amount)
    (h : ReservedFrom env requestId userId amount db db' result) : Moves overdraft db db' := by
  obtain ⟨db₁, sub, ledger, hafter, hfind, -, -, -, hroom, -, rfl, -⟩ := h
  exact ((Relation.ReflTransGen.single (.resets hafter)).tail
    (.charge hfind hamount fun _ => hroom)).tail (.ledger ledger)

theorem StrictCall.Completes.moves {call : StrictCall} (h : call.Completes db db') :
    Moves (BillingCall.strict call).allowOverdraft db db' := by
  cases call with
  | preConsume env params =>
    obtain ⟨result, hrun⟩ := h
    obtain ⟨hquota, ⟨rfl, -⟩ | ⟨-, db₁, htoken, ⟨-, r, hreserved, -⟩ |
      ⟨-, -, -, db₂, ledger, hfunding, -, rfl⟩⟩⟩ := preConsumeStrictBilling_cases hrun
    · exact .refl
    · exact htoken.moves.trans (hreserved.moves hquota)
    · exact (htoken.moves.trans hfunding.moves).tail (.ledger ledger)
  | settle env params =>
    obtain ⟨record, -, -, -, -, ⟨-, -, rfl⟩ | ⟨-, -, db₁, hmoved, rfl⟩⟩ :=
      settleStrictBilling_cases h
    · exact .refl
    · exact hmoved.moves.tail (.ledger _)
  | refund env params =>
    obtain ⟨record, -, -, -, ⟨-, rfl⟩ | ⟨-, -, db₁, hmoved, rfl⟩⟩ := refundStrictBilling_cases h
    · exact .refl
    · exact hmoved.moves.tail (.ledger _)

theorem BillingCall.Completes.moves {call : BillingCall} (h : call.Completes db db') :
    Moves call.allowOverdraft db db' := by
  cases call with
  | strict call => exact StrictCall.Completes.moves h
  | decreaseUserQuotaIfEnough env id quota =>
    obtain ⟨_, hrun⟩ := h
    obtain ⟨-, rfl⟩ | ⟨-, user, hfind, hcover, rfl⟩ := run_decreaseUserQuotaIfEnough_eq_ok.1 hrun
    · exact .refl
    · exact .single (.wallet hfind fun _ _ => hcover)
  | decreaseTokenQuotaIfEnough env id quota =>
    obtain ⟨_, hrun⟩ := h
    obtain ⟨-, rfl⟩ | ⟨-, token, hfind, hcover, rfl⟩ := run_decreaseTokenQuotaIfEnough_eq_ok.1 hrun
    · exact .refl
    · exact .single (.token hfind fun _ _ => hcover)
  | preConsumeUserSubscription env requestId userId amount =>
    obtain ⟨_, hrun⟩ := h
    obtain ⟨hamount, ⟨rfl, -⟩ | ⟨-, hreserved⟩⟩ := preConsumeUserSubscription_cases hrun
    · exact .refl
    · exact hreserved.moves hamount
  | refundSubscriptionPreConsume env requestId =>
    obtain ⟨_, hrun⟩ := h
    obtain ⟨record, -, ⟨-, rfl⟩ | ⟨-, ⟨-, rfl⟩ | ⟨hpos, -, rfl⟩⟩⟩ :=
      refundSubscriptionPreConsume_cases hrun
    · exact .refl
    · exact .single (.ledger _)
    · exact (Relation.ReflTransGen.single (.refund hpos.le)).tail (.ledger _)
  | postConsumeUserSubscriptionDelta env id delta =>
    obtain ⟨_, hrun⟩ := h
    obtain ⟨-, rfl⟩ | ⟨sub, hfind, ⟨hpos, hroom, rfl⟩ | ⟨hneg, rfl⟩⟩ :=
      postConsumeUserSubscriptionDelta_cases hrun
    · exact .refl
    · exact .single (.charge hfind hpos fun _ => hroom)
    · exact .single (.refund (by omega))
  | resetDueSubscription env id plan =>
    obtain ⟨_, hrun⟩ := h
    exact .single (.resets (resetDueSubscription_cases hrun))

theorem BillingCall.step_keeps {P : DB → Prop} {call : BillingCall} (h : P db)
    (hmoved : ∀ {db db'}, P db → Moved call.allowOverdraft db db' → P db') : P (call.step db) := by
  rcases call.step_cases db with hsame | hcompletes
  · rwa [hsame]
  · exact hcompletes.moves.rec h fun _ hlast ih => hmoved ih hlast

end

/-- No wallet and no limited token is below 0, and no subscription with a total is used beyond
it. -/
structure Bounded (db : DB) : Prop where
  users : ∀ id user, db.users.find? id = some user → 0 ≤ user.quota
  tokens : ∀ id token, db.tokens.find? id = some token → token.unlimitedQuota = false →
    0 ≤ token.remainQuota
  subscriptions : ∀ id sub, db.subscriptions.find? id = some sub → 0 < sub.amountTotal →
    sub.amountUsed ≤ sub.amountTotal

namespace Bounded

variable {db db' : DB}

variable {id q amount : ℤ}

section

variable (h : Bounded db)
include h

/-- Adding to a wallet that covers a withdrawal. -/
theorem addUserQuota (hcover : ∀ user, db.users.find? id = some user → 0 ≤ user.quota + q) :
    Bounded (db.addUserQuota id q) where
  users id' user' hfind := by
    rw [DB.find?_users_addUserQuota] at hfind
    split at hfind
    · obtain ⟨user, huser, rfl⟩ := Option.map_eq_some_iff.1 hfind
      exact hcover user huser
    · exact h.users id' user' hfind
  tokens := h.tokens
  subscriptions := h.subscriptions

theorem addTokenQuota
    (hcover : ∀ token, db.tokens.find? id = some token → token.unlimitedQuota = false →
      0 ≤ token.remainQuota + q) :
    Bounded (db.addTokenQuota id q) where
  users := h.users
  tokens id' token' hfind hlimited := by
    rw [DB.find?_tokens_addTokenQuota] at hfind
    split at hfind
    · obtain ⟨token, htoken, rfl⟩ := Option.map_eq_some_iff.1 hfind
      exact hcover token htoken hlimited
    · exact h.tokens id' token' hfind hlimited
  subscriptions := h.subscriptions

theorem mapSubscription {f : UserSubscription → UserSubscription}
    {hf : ∀ s, s.id = id → (f s).id = id}
    (hbound : ∀ sub, db.subscriptions.find? id = some sub → 0 < (f sub).amountTotal →
      (f sub).amountUsed ≤ (f sub).amountTotal) :
    Bounded (db.mapSubscription id f hf) where
  users := h.users
  tokens := h.tokens
  subscriptions id' sub' hfind hpos := by
    rw [DB.find?_mapSubscription] at hfind
    split at hfind
    · obtain ⟨sub, hsub, rfl⟩ := Option.map_eq_some_iff.1 hfind
      exact hbound sub hsub hpos
    · exact h.subscriptions id' sub' hfind hpos

theorem chargeSubscription {sub : UserSubscription}
    (hfind : db.subscriptions.find? id = some sub) (hroom : sub.HasRoom amount) :
    Bounded (db.chargeSubscription id amount) := by
  refine h.mapSubscription fun sub' hfind' hpos => ?_
  obtain rfl := Option.mem_unique hfind' hfind
  rcases hroom with hunlimited | hroom
  · exact absurd hpos (not_lt.2 hunlimited)
  · simp only
    omega

theorem refundSubscription {refund : ℤ} (hrefund : 0 ≤ refund) :
    Bounded (db.refundSubscription id refund) := by
  refine h.mapSubscription fun sub hfind hpos => ?_
  have hused := h.subscriptions id sub hfind hpos
  simp only at hpos ⊢
  split <;> omega

theorem afterResets (hafter : db.AfterResets db') : Bounded db' where
  users := by rw [hafter.users]; exact h.users
  tokens := by rw [hafter.tokens]; exact h.tokens
  subscriptions id sub' hfind hpos := by
    obtain ⟨sub, hsub, hfrom⟩ := hafter.exists_before hfind
    rw [hfrom.amountTotal] at hpos ⊢
    rcases hfrom.resets.lt_or_eq with hlt | heq
    · rw [hfrom.amountUsed_zero hlt]
      exact hpos.le
    · rw [hfrom.amountUsed heq.symm]
      exact h.subscriptions id sub hsub hpos

/-- Every statement without overdraft keeps the bounds. -/
theorem moved (hmoved : Moved false db db') : Bounded db' := by
  cases hmoved with
  | wallet hfind hcover =>
    refine h.addUserQuota fun user' hfind' => ?_
    obtain rfl := Option.mem_unique hfind' hfind
    have hquota := h.users _ _ hfind'
    have := hcover rfl
    omega
  | token hfind hcover =>
    refine h.addTokenQuota fun token' hfind' hlimited => ?_
    obtain rfl := Option.mem_unique hfind' hfind
    have hquota := h.tokens _ _ hfind' hlimited
    have := hcover rfl
    simp only [hlimited, Bool.false_eq_true, false_or] at this
    omega
  | charge hfind _ hcover => exact h.chargeSubscription hfind (hcover rfl)
  | refund hrefund => exact h.refundSubscription hrefund
  | resets hafter => exact h.afterResets hafter
  | ledger => exact ⟨h.users, h.tokens, h.subscriptions⟩

theorem step {call : BillingCall} (hover : call.allowOverdraft = false) : Bounded (call.step db) :=
  BillingCall.step_keeps h fun h hmoved => h.moved (hover ▸ hmoved)

end

end Bounded

/-- **No overdraft.** From a database within its bounds, every run of billing transactions without
the overdraft flag stays within them. -/
theorem bounded_run (db : DB) (h : Bounded db) (calls : List BillingCall)
    (hover : ∀ call ∈ calls, call.allowOverdraft = false) :
    Bounded (calls.foldl (fun db call => call.step db) db) :=
  List.foldlRecOn calls _ h fun _ ih call hcall => ih.step (hover call hcall)

theorem bounded_sampleDB : Bounded sampleDB where
  users id user hfind := by
    obtain ⟨hmem, -⟩ := Table.find?_eq_some_iff.1 hfind
    obtain rfl : user = { id := 7, quota := 1000 } := by simpa [sampleDB] using hmem
    decide
  tokens id token hfind _ := by
    obtain ⟨hmem, -⟩ := Table.find?_eq_some_iff.1 hfind
    obtain rfl : token = ⟨1, 500, 0, false⟩ := by simpa [sampleDB] using hmem
    decide
  subscriptions id sub hfind := by
    obtain ⟨hmem, -⟩ := Table.find?_eq_some_iff.1 hfind
    simp [sampleDB, Table.empty] at hmem

theorem bounded_run_sample : Bounded sampleDB ∧
      (∀ call ∈ sampleCalls.map BillingCall.strict, call.allowOverdraft = false) ∧
      Bounded ((sampleCalls.map BillingCall.strict).foldl (fun db call => call.step db) sampleDB) :=
  have hover : ∀ call ∈ sampleCalls.map BillingCall.strict, call.allowOverdraft = false := by decide
  ⟨bounded_sampleDB, hover, bounded_run sampleDB bounded_sampleDB _ hover⟩

end Mujian.Billing
