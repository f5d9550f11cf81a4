import Mujian.Billing.Strict

/-!
# Runs of strict billing

A run is a list of strict billing calls. Every successful call changes what the ledger holds of one
request by some amount and moves the wallet or the subscription, and the token, by the opposite
amount (`StrictEffect`). A request goes from no record over a live reservation to a terminal record
(`phase`), and every call that changes anything moves its own request forward.
-/

namespace Mujian.Billing

inductive StrictCall
  | preConsume (env : Env) (params : StrictBillingPreConsumeParams)
  | settle (env : Env) (params : StrictBillingParams)
  | refund (env : Env) (params : StrictBillingParams)

namespace StrictCall

def requestID : StrictCall → String
  | preConsume _ params => params.requestID
  | settle _ params => params.requestID
  | refund _ params => params.requestID

def userID : StrictCall → ℤ
  | preConsume _ params => params.userID
  | settle _ params => params.userID
  | refund _ params => params.userID

def token : StrictCall → Option ℤ
  | preConsume _ params => if params.skipToken then none else some params.tokenID
  | settle _ params => if params.skipToken then none else some params.tokenID
  | refund _ params => if params.skipToken then none else some params.tokenID

def MatchesFunding (record : SubscriptionPreConsumeRecord) : StrictCall → Prop
  | preConsume _ params => params.useSubscription = decide (record.userSubscriptionId > 0)
  | settle _ params => params.subscriptionID = record.userSubscriptionId
  | refund _ params => params.subscriptionID = record.userSubscriptionId

/-- Make a call: whether it succeeds, and the database it leaves. -/
def exec (db : DB) : StrictCall → Except BillingError Unit × DB
  | preConsume env params =>
    let r := env.commit (preConsumeStrictBilling env params) db
    (r.1.map fun _ => (), r.2)
  | settle env params => env.commit (settleStrictBilling env params) db
  | refund env params => env.commit (refundStrictBilling env params) db

def step (db : DB) (call : StrictCall) : DB := (call.exec db).2

variable {call : StrictCall}

/-- A call that fails leaves the database as it was. -/
theorem exec_error {db : DB} {e : BillingError}
    (h : (call.exec db).1 = .error e) : (call.exec db).2 = db := by
  cases call with
  | preConsume env params =>
    simp only [exec] at h ⊢
    cases hr : (env.commit (preConsumeStrictBilling env params) db).1 with
    | error e' => exact Tx.commit_error hr
    | ok r => rw [hr] at h; cases h
  | settle | refund => exact Tx.commit_error h

def Completes (db db' : DB) : StrictCall → Prop
  | preConsume env params => ∃ r, (preConsumeStrictBilling env params).run db = .ok (r, db')
  | settle env params => (settleStrictBilling env params).run db = .ok ((), db')
  | refund env params => (refundStrictBilling env params).run db = .ok ((), db')

theorem completes_of_exec_ok {db : DB} (h : (call.exec db).1 = .ok ()) :
    call.Completes db (call.exec db).2 := by
  cases call with
  | preConsume env params =>
    simp only [exec] at h
    cases hr : (env.commit (preConsumeStrictBilling env params) db).1 with
    | error e => rw [hr] at h; cases h
    | ok r => exact ⟨r, Tx.run_of_commit_ok hr⟩
  | settle | refund => exact Tx.run_of_commit_ok h

theorem step_cases (db : DB) (call : StrictCall) :
    call.step db = db ∨ call.Completes db (call.step db) := by
  cases h : (call.exec db).1 with
  | error e => exact .inl (exec_error h)
  | ok _ => exact .inr (completes_of_exec_ok h)

end StrictCall

/-! ## What the ledger holds -/

/-- What a record holds of the balances: its amount while reserved or once settled. -/
def SubscriptionPreConsumeRecord.held (r : SubscriptionPreConsumeRecord) : ℤ :=
  if r.status = .consumed ∨ r.status = .settled then r.preConsumed else 0

namespace DB

/-- What the records satisfying `w` hold. The condition is on the columns that never change:
request, user and subscription. -/
def held (db : DB) (w : String → ℤ → ℤ → Bool) : ℤ :=
  db.ledger.sumBy fun r => if w r.requestId r.userId r.userSubscriptionId then r.held else 0

/-- What the wallet-funded records of a user hold. -/
def walletHeld (db : DB) (userId : ℤ) : ℤ := db.held fun _ u s => u == userId && s == 0

/-- What the records hold of a token, where `tokenOf` gives the token of each request that does
not skip it. -/
def tokenHeld (db : DB) (tokenOf : String → Option ℤ) (tokenId : ℤ) : ℤ :=
  db.held fun r _ _ => tokenOf r == some tokenId

end DB

/-- What the ledger holds of a request changed by `delta`, and the balances of its sources by the
opposite. -/
structure StrictEffect (requestID : String) (userID subscriptionID : ℤ) (token : Option ℤ)
    (delta : ℤ) (db db' : DB) : Prop where
  users : ∀ id, db'.users.find? id = (db.users.find? id).map fun u =>
    { u with quota := u.quota - if subscriptionID = 0 ∧ id = userID then delta else 0 }
  tokens : ∀ id, db'.tokens.find? id = (db.tokens.find? id).map fun t =>
    { t with
      remainQuota := t.remainQuota - if token = some id then delta else 0
      usedQuota := t.usedQuota + if token = some id then delta else 0 }
  held : ∀ w, db'.held w = db.held w + if w requestID userID subscriptionID then delta else 0

/-! ### The parts of an effect -/

section

variable {db db' : DB}

variable {subscriptionID delta tokenID : ℤ} {overdraft skipToken : Bool}
  {record : SubscriptionPreConsumeRecord}

theorem FundingMoved.find?_users {userID : ℤ}
    (h : FundingMoved userID subscriptionID overdraft delta db db') (id : ℤ) :
    db'.users.find? id = (db.users.find? id).map fun u =>
      { u with quota := u.quota - if subscriptionID = 0 ∧ id = userID then delta else 0 } := by
  cases h with
  | wallet hid hfind _ =>
    rw [DB.find?_users_addUserQuota]
    by_cases h : id = userID
    · simp [h, hid, sub_eq_add_neg]
    · simp [h]
  | charge hid => simp [hid]
  | refund hid => simp [hid]

theorem FundingMoved.tokens {userID : ℤ}
    (h : FundingMoved userID subscriptionID overdraft delta db db') : db'.tokens = db.tokens := by
  cases h <;> rfl

theorem TokenMoved.find?_tokens (h : TokenMoved tokenID skipToken overdraft delta db db') (id : ℤ) :
    db'.tokens.find? id = (db.tokens.find? id).map fun t =>
      { t with
        remainQuota := t.remainQuota -
          if (if skipToken then none else some tokenID) = some id then delta else 0
        usedQuota := t.usedQuota +
          if (if skipToken then none else some tokenID) = some id then delta else 0 } := by
  cases h with
  | skipped hskip => simp [hskip]
  | moved hskip hfind _ =>
    rw [DB.find?_tokens_addTokenQuota]
    by_cases h : id = tokenID
    · simp [h, hskip, sub_eq_add_neg]
    · simp [h, Ne.symm h]

theorem TokenMoved.users
    (h : TokenMoved tokenID skipToken overdraft delta db db') : db'.users = db.users := by
  cases h <;> rfl

theorem DB.held_congr (h : db'.ledger = db.ledger) (w : String → ℤ → ℤ → Bool) :
    db'.held w = db.held w := by rw [held, held, h]

/-- A new record adds what it holds. -/
theorem DB.held_insert
    {ledger : Table SubscriptionPreConsumeRecord} (h : db.ledger.insert? record = some ledger)
    (w : String → ℤ → ℤ → Bool) :
    ({ db' with ledger := ledger } : DB).held w = db.held w +
      if w record.requestId record.userId record.userSubscriptionId then record.held else 0 := by
  rw [held, held, Table.sumBy_insert h]

end

/-! ### Effects of the calls -/

theorem StrictEffect.refl (requestID : String) (userID subscriptionID : ℤ) (token : Option ℤ)
    (db : DB) : StrictEffect requestID userID subscriptionID token 0 db db where
  users id := by simp
  tokens id := by simp
  held w := by simp

variable {params : StrictBillingParams} {overdraft : Bool} {delta : ℤ} {db db₁ db' : DB}
  {record : SubscriptionPreConsumeRecord}
  {f : SubscriptionPreConsumeRecord → SubscriptionPreConsumeRecord} {env : Env} {call : StrictCall}

/-- Balances moved by `delta` together with a record whose held amount changed by `delta`. -/
theorem BalancesMoved.strictEffect (h : BalancesMoved params overdraft delta db db₁)
    {hf : ∀ r, r.requestId = params.requestID → (f r).requestId = params.requestID}
    (hfind : db.ledger.find? params.requestID = some record) (huser : record.userId = params.userID)
    (hsub : record.userSubscriptionId = params.subscriptionID)
    (huser' : (f record).userId = record.userId)
    (hsub' : (f record).userSubscriptionId = record.userSubscriptionId)
    (hheld : (f record).held - record.held = delta) :
    StrictEffect params.requestID params.userID params.subscriptionID
      (if params.skipToken then none else some params.tokenID) delta db
      (db₁.mapRecord params.requestID f hf) := by
  have hheldw : ∀ {db₁ : DB}, db₁.ledger = db.ledger → ∀ w,
      (db₁.mapRecord params.requestID f hf).held w = db.held w +
        if w params.requestID params.userID params.subscriptionID then delta else 0 := by
    intro db₁ hledger w
    rw [← hledger] at hfind
    have hid : record.requestId = params.requestID := Table.key_of_find? hfind
    rw [DB.held, DB.mapRecord, Table.sumBy_update hfind, hf record hid, huser', hsub', hid, huser,
      hsub, ← DB.held, DB.held_congr hledger, ← hheld]
    split <;> simp
  rcases h with ⟨rfl, rfl⟩ | ⟨db₂, hfunding, htoken⟩
  · exact ⟨fun id => by simp, fun id => by simp, hheldw rfl⟩
  · refine ⟨fun id => ?_, fun id => ?_, hheldw (htoken.ledger.trans hfunding.ledger)⟩
    · rw [DB.mapRecord_users, htoken.users, hfunding.find?_users]
    · rw [DB.mapRecord_tokens, htoken.find?_tokens, hfunding.tokens]

theorem StrictCall.strictEffect (h : call.Completes db db') : ∃ subscriptionID delta,
      StrictEffect call.requestID call.userID subscriptionID call.token delta db db' := by
  cases call with
  | preConsume env params =>
    obtain ⟨result, h⟩ := h
    obtain ⟨-, ⟨rfl, -⟩ | ⟨-, db₁, htoken, ⟨-, r, hreserved, -⟩ |
      ⟨-, -, -, db₂, ledger, hfunding, hinsert, rfl⟩⟩⟩ := preConsumeStrictBilling_cases h
    · exact ⟨0, 0, .refl ..⟩
    · -- a reservation from a subscription charges no wallet and adds its record
      obtain ⟨db₂, sub, ledger, hafter, -, -, -, -, -, hinsert, rfl, -⟩ := hreserved
      have hne : sub.id ≠ 0 := sub.id_pos.ne'
      refine ⟨sub.id, params.quota, fun id => ?_, fun id => ?_, fun w => ?_⟩
      · simp [hne, hafter.users, htoken.users]
      · rw [DB.chargeSubscription_tokens, hafter.tokens, htoken.find?_tokens]
        rfl
      · rw [DB.held_insert hinsert, DB.held_congr hafter.ledger, DB.held_congr htoken.ledger]
        rfl
    · -- a reservation from the wallet charges it and adds its record
      refine ⟨0, params.quota, fun id => ?_, fun id => ?_, fun w => ?_⟩
      · rw [hfunding.find?_users, htoken.users]
        rfl
      · rw [hfunding.tokens, htoken.find?_tokens]
        rfl
      · rw [DB.held_insert hinsert, DB.held_congr hfunding.ledger, DB.held_congr htoken.ledger]
        rfl
  | settle env params =>
    obtain ⟨record, hfind, huser, hsub, -, ⟨-, -, rfl⟩ | ⟨hstatus, -, db₁, hmoved, rfl⟩⟩ :=
      settleStrictBilling_cases h
    · exact ⟨0, 0, .refl ..⟩
    · refine ⟨_, _, hmoved.strictEffect hfind huser hsub rfl rfl ?_⟩
      simp [SubscriptionPreConsumeRecord.held, hstatus]
  | refund env params =>
    obtain ⟨record, hfind, huser, hsub, ⟨-, rfl⟩ | ⟨hstatus, -, db₁, hmoved, rfl⟩⟩ :=
      refundStrictBilling_cases h
    · exact ⟨0, 0, .refl ..⟩
    · refine ⟨_, _, hmoved.strictEffect hfind huser hsub rfl rfl ?_⟩
      simp [SubscriptionPreConsumeRecord.held, hstatus]

/-! ## Conservation -/

/-- What the balances of `db` lack against `db₀` is what the ledger of `db` holds. -/
structure Conserved (tokenOf : String → Option ℤ) (db₀ db : DB) : Prop where
  users : ∀ id, db.users.find? id = (db₀.users.find? id).map fun u =>
    { u with quota := u.quota - db.walletHeld id }
  tokens : ∀ id, db.tokens.find? id = (db₀.tokens.find? id).map fun t =>
    { t with
      remainQuota := t.remainQuota - db.tokenHeld tokenOf id
      usedQuota := t.usedQuota + db.tokenHeld tokenOf id }

namespace Conserved

variable {tokenOf : String → Option ℤ} {db₀ db db' : DB}

theorem of_empty_ledger (h : db₀.ledger.rows = []) : Conserved tokenOf db₀ db₀ := by
  have hheld : ∀ w, db₀.held w = 0 := by simp [DB.held, Table.sumBy, h]
  exact ⟨fun id => by simp [DB.walletHeld, hheld], fun id => by simp [DB.tokenHeld, hheld]⟩

/-- An effect that moves the balances against the ledger keeps the sum. -/
theorem of_strictEffect (h : Conserved tokenOf db₀ db) {requestID : String}
    {userID subscriptionID : ℤ}
    (heffect : StrictEffect requestID userID subscriptionID (tokenOf requestID) delta db db') :
    Conserved tokenOf db₀ db' where
  users id := by
    have hheld : db'.walletHeld id = db.walletHeld id +
        if subscriptionID = 0 ∧ id = userID then delta else 0 := by
      rw [DB.walletHeld, heffect.held]
      by_cases hu : id = userID
      · simp [hu, DB.walletHeld]
      · simp [hu, Ne.symm hu, DB.walletHeld]
    rw [heffect.users, h.users, Option.map_map, hheld]
    congr 1
    funext u
    simp only [Function.comp, sub_sub]
  tokens id := by
    have hheld : db'.tokenHeld tokenOf id = db.tokenHeld tokenOf id +
        if tokenOf requestID = some id then delta else 0 := by
      rw [DB.tokenHeld, heffect.held]
      congr 1
      simp
    rw [heffect.tokens, h.tokens, Option.map_map, hheld]
    congr 1
    funext t
    simp only [Function.comp, sub_sub, add_assoc]

theorem step (h : Conserved tokenOf db₀ db)
    (htoken : call.token = tokenOf call.requestID) : Conserved tokenOf db₀ (call.step db) := by
  rcases call.step_cases db with hsame | hcompletes
  · rwa [hsame]
  · obtain ⟨subscriptionID, delta, heffect⟩ := StrictCall.strictEffect hcompletes
    rw [htoken] at heffect
    exact h.of_strictEffect heffect

end Conserved

/-- **Conservation of the strict ledger.** From an empty ledger, if each request keeps to one token,
what a wallet has lost is what the user's wallet-funded records hold; and a token keeps the sum of
its remaining and its used quota, the latter having grown by what the records hold of it. -/
theorem strictBilling_conserves (db₀ : DB) (hledger : db₀.ledger.rows = [])
    (tokenOf : String → Option ℤ) (calls : List StrictCall)
    (htoken : ∀ call ∈ calls, call.token = tokenOf call.requestID) :
    let db := calls.foldl (fun db call => call.step db) db₀
    (∀ userId, (db.users.find? userId).map (fun u => u.quota + db.walletHeld userId) =
      (db₀.users.find? userId).map User.quota) ∧
    ∀ tokenId, (db.tokens.find? tokenId).map (fun t => t.remainQuota + t.usedQuota) =
        (db₀.tokens.find? tokenId).map (fun t => t.remainQuota + t.usedQuota) ∧
      (db.tokens.find? tokenId).map Token.usedQuota =
        (db₀.tokens.find? tokenId).map fun t => t.usedQuota + db.tokenHeld tokenOf tokenId := by
  intro db
  have h : Conserved tokenOf db₀ db := List.foldlRecOn calls _ (Conserved.of_empty_ledger hledger)
      fun _ ih call hcall => ih.step (htoken call hcall)
  refine ⟨fun userId => ?_, fun tokenId => ⟨?_, ?_⟩⟩
  · rw [h.users, Option.map_map]
    congr 1
    funext u
    simp
  · rw [h.tokens, Option.map_map]
    congr 1
    funext t
    simp only [Function.comp]
    omega
  · rw [h.tokens, Option.map_map]
    rfl

def sampleEnv : Env where
  now := 1000
  timestamp := 1000
  plans := fun _ => some { quotaResetPeriod := "custom", quotaResetCustomSeconds := 10 }
  calendar := .utc
  refused := false

def sampleDB : DB where
  users := ⟨[{ id := 7, quota := 1000 }], by decide⟩
  tokens := ⟨[{ id := 1, remainQuota := 500, usedQuota := 0, unlimitedQuota := false }], by decide⟩
  subscriptions := .empty
  ledger := .empty

/-- A reservation of 100 that is settled at 30. -/
def sampleCalls : List StrictCall :=
  [.preConsume sampleEnv
      { requestID := "r", userID := 7, useSubscription := false, tokenID := 1, skipToken := false,
        quota := 100 },
    .settle sampleEnv
      { requestID := "r", userID := 7, subscriptionID := 0, tokenID := 1, skipToken := false,
        actualQuota := 30, allowOverdraft := false }]

theorem strictBilling_conserves_sample :
    let db := sampleCalls.foldl (fun db call => call.step db) sampleDB
    sampleDB.ledger.rows = [] ∧ (∀ call ∈ sampleCalls, call.token = some 1) ∧
      (db.users.find? 7).map User.quota = some 970 ∧
      (db.users.find? 7).map (fun u => u.quota + db.walletHeld 7) = some 1000 ∧
      (db.tokens.find? 1).map Token.usedQuota = some (0 + db.tokenHeld (fun _ => some 1) 1) :=
  have htoken : ∀ call ∈ sampleCalls, call.token = some 1 := by decide
  have h := strictBilling_conserves sampleDB rfl (fun _ => some 1) sampleCalls htoken
  ⟨rfl, htoken, by decide, h.1 7, (h.2 1).2⟩

/-! ## One outcome per request -/

namespace DB

/-- How far a request has come: no record, a live reservation, a closed record. -/
def phase (db : DB) (requestID : String) : ℕ :=
  match db.ledger.find? requestID with
  | none => 0
  | some record => if record.status = .consumed then 1 else 2

variable {requestID : String}

theorem phase_of_none (h : db.ledger.find? requestID = none) :
    db.phase requestID = 0 := by rw [phase, h]

theorem phase_of_consumed
    (h : db.ledger.find? requestID = some record) (hstatus : record.status = .consumed) :
    db.phase requestID = 1 := by
  rw [phase, h]
  exact if_pos hstatus

theorem phase_of_closed
    (h : db.ledger.find? requestID = some record) (hstatus : record.status ≠ .consumed) :
    db.phase requestID = 2 := by
  rw [phase, h]
  exact if_neg hstatus

theorem phase_le_two (db : DB) (requestID : String) : db.phase requestID ≤ 2 := by
  unfold phase
  split
  · omega
  · split <;> omega

end DB

def StrictCall.isPreConsume : StrictCall → Bool
  | preConsume .. => true
  | settle .. | refund .. => false

/-- A call moves its own request one phase forward, a reservation from the first and a settlement or
a refund from the second, and no other record. -/
structure Advances (call : StrictCall) (db db' : DB) : Prop where
  before : db.phase call.requestID = if call.isPreConsume then 0 else 1
  after : db'.phase call.requestID = if call.isPreConsume then 1 else 2
  others : ∀ requestID, requestID ≠ call.requestID →
    db'.ledger.find? requestID = db.ledger.find? requestID

theorem BalancesMoved.ledger (h : BalancesMoved params overdraft delta db db') :
    db'.ledger = db.ledger := by
  rcases h with ⟨-, rfl⟩ | ⟨db₁, hfunding, htoken⟩
  · rfl
  · exact htoken.ledger.trans hfunding.ledger

/-- Closing a live record moves its request from the second to the third phase. -/
theorem advances_of_mapRecord (hcall : call.isPreConsume = false) (hledger : db₁.ledger = db.ledger)
    {hf : ∀ r, r.requestId = call.requestID → (f r).requestId = call.requestID}
    (hfind : db.ledger.find? call.requestID = some record) (hstatus : record.status = .consumed)
    (hclosed : (f record).status ≠ .consumed) :
    Advances call db (db₁.mapRecord call.requestID f hf) := by
  have hfind' : (db₁.mapRecord call.requestID f hf).ledger.find? call.requestID =
      some (f record) := by rw [DB.find?_mapRecord, if_pos rfl, hledger, hfind, Option.map_some]
  refine ⟨?_, ?_, fun requestID hne => ?_⟩
  · rw [DB.phase_of_consumed hfind hstatus, hcall]
    rfl
  · rw [DB.phase_of_closed hfind' hclosed, hcall]
    rfl
  · rw [DB.find?_mapRecord, if_neg hne, hledger]

/-- A new live record moves its request from the first to the second phase. -/
theorem advances_of_insert (hcall : call.isPreConsume = true) (hledger : db₁.ledger = db.ledger)
    {ledger : Table SubscriptionPreConsumeRecord}
    (hinsert : db₁.ledger.insert? record = some ledger)
    (hid : record.requestId = call.requestID) (hstatus : record.status = .consumed) :
    Advances call db { db₁ with ledger := ledger } := by
  have hnone : db.ledger.find? call.requestID = none := by
    rw [← hledger, ← hid]
    exact (Table.insert?_eq_some_iff.1 hinsert).1
  have hfind : ∀ requestID, ledger.find? requestID =
      if requestID = call.requestID then some record else db.ledger.find? requestID := by
    intro requestID
    rw [Table.find?_insert hinsert, hledger, ← hid]
    rfl
  have hnew : ({ db₁ with ledger := ledger } : DB).ledger.find? call.requestID = some record := by
    rw [hfind, if_pos rfl]
  refine ⟨?_, ?_, fun requestID hne => ?_⟩
  · rw [DB.phase_of_none hnone, hcall]
    rfl
  · rw [DB.phase_of_consumed hnew hstatus, hcall]
    rfl
  · rw [hfind, if_neg hne]

/-- A completed call changes nothing, or moves its request forward. -/
theorem StrictCall.advances (h : call.Completes db db') : db' = db ∨ Advances call db db' := by
  cases call with
  | preConsume env params =>
    obtain ⟨result, h⟩ := h
    obtain ⟨-, ⟨rfl, -⟩ | ⟨-, db₁, htoken, ⟨-, r, hreserved, -⟩ |
      ⟨-, -, -, db₂, ledger, hfunding, hinsert, rfl⟩⟩⟩ := preConsumeStrictBilling_cases h
    · exact .inl rfl
    · obtain ⟨db₂, sub, ledger, hafter, -, -, -, -, -, hinsert, rfl, -⟩ := hreserved
      have hledger : (db₂.chargeSubscription sub.id params.quota).ledger = db.ledger :=
        hafter.ledger.trans htoken.ledger
      exact .inr (advances_of_insert rfl hledger hinsert rfl rfl)
    · exact .inr (advances_of_insert rfl (hfunding.ledger.trans htoken.ledger) hinsert rfl rfl)
  | settle env params =>
    obtain ⟨record, hfind, -, -, -, ⟨-, -, rfl⟩ | ⟨hstatus, -, db₁, hmoved, rfl⟩⟩ :=
      settleStrictBilling_cases h
    · exact .inl rfl
    · exact .inr (advances_of_mapRecord rfl hmoved.ledger hfind hstatus (by simp))
  | refund env params =>
    obtain ⟨record, hfind, -, -, ⟨-, rfl⟩ | ⟨hstatus, -, db₁, hmoved, rfl⟩⟩ :=
      refundStrictBilling_cases h
    · exact .inl rfl
    · exact .inr (advances_of_mapRecord rfl hmoved.ledger hfind hstatus (by simp))

theorem StrictCall.step_advances (db : DB) (call : StrictCall) :
    call.step db = db ∨ Advances call db (call.step db) := by
  rcases call.step_cases db with hsame | hcompletes
  · exact .inl hsame
  · exact advances hcompletes

theorem StrictCall.phase_le_step (requestID : String) (db : DB) (call : StrictCall) :
    db.phase requestID ≤ (call.step db).phase requestID := by
  rcases call.step_advances db with hsame | hadv
  · rw [hsame]
  · by_cases hid : requestID = call.requestID
    · rw [hid, hadv.before, hadv.after]
      split <;> omega
    · rw [DB.phase, DB.phase, hadv.others requestID hid]

theorem StrictCall.find?_step_of_closed {requestID : String}
    (hfind : db.ledger.find? requestID = some record)
    (hclosed : record.status ≠ .consumed) (call : StrictCall) :
    (call.step db).ledger.find? requestID = some record := by
  rcases call.step_advances db with hsame | hadv
  · rwa [hsame]
  · by_cases hid : requestID = call.requestID
    · have hphase := DB.phase_of_closed hfind hclosed
      rw [hid, hadv.before] at hphase
      split at hphase <;> omega
    · rw [hadv.others requestID hid, hfind]

/-- A call that the record of its request rules out: it names another user or another funding
source, settles a settled request differently, refunds a settled one or settles a refunded one. -/
def StrictCall.Mismatches (record : SubscriptionPreConsumeRecord) (call : StrictCall) : Prop :=
  call.userID ≠ record.userId ∨ ¬call.MatchesFunding record ∨
    match call with
    | preConsume .. => False
    | settle _ params =>
      (record.status = .settled ∧ params.actualQuota ≠ record.preConsumed) ∨
        record.status = .refunded
    | refund .. => record.status = .settled

theorem StrictCall.not_mismatches
    (hfind : db.ledger.find? call.requestID = some record) (h : call.Completes db db') :
    ¬call.Mismatches record := by
  cases call with
  | preConsume env params =>
    obtain ⟨result, h⟩ := h
    obtain ⟨-, ⟨-, record', hfind', huser, hfunding, -⟩ | ⟨hnone, -⟩⟩ :=
      preConsumeStrictBilling_cases h
    · obtain rfl := Option.mem_unique hfind' hfind
      rintro (hne | hne | hfalse)
      · exact hne huser.symm
      · exact hne hfunding
      · exact hfalse
    · exact absurd (hnone.symm.trans hfind) (by simp)
  | settle env params =>
    obtain ⟨record', hfind', huser, hsub, -, hcases⟩ := settleStrictBilling_cases h
    obtain rfl := Option.mem_unique hfind' hfind
    rintro (hne | hne | ⟨hsettled, hne⟩ | hrefunded)
    · exact hne huser.symm
    · exact hne hsub.symm
    · rcases hcases with ⟨-, hsame, -⟩ | ⟨hconsumed, -⟩
      · exact hne hsame.symm
      · simp [hsettled] at hconsumed
    · rcases hcases with ⟨hsettled, -⟩ | ⟨hconsumed, -⟩
      · simp [hrefunded] at hsettled
      · simp [hrefunded] at hconsumed
  | refund env params =>
    obtain ⟨record', hfind', huser, hsub, hcases⟩ := refundStrictBilling_cases h
    obtain rfl := Option.mem_unique hfind' hfind
    rintro (hne | hne | hsettled)
    · exact hne huser.symm
    · exact hne hsub.symm
    · rcases hcases with ⟨hrefunded, -⟩ | ⟨hconsumed, -⟩
      · simp [show record'.status = .settled from hsettled] at hrefunded
      · simp [show record'.status = .settled from hsettled] at hconsumed

/-- **One outcome per strict request.** A settled or refunded record stays as it is; the calls for
one request change the database at most twice, by its reservation and by the first settlement or
refund; a call that fails changes nothing; and a call that the record of its request rules out
fails. -/
theorem strictBilling_single_outcome (requestID : String) (db : DB) (calls : List StrictCall) :
    (∀ record, db.ledger.find? requestID = some record →
      (record.status = .settled ∨ record.status = .refunded) →
      (calls.foldl (fun db call => call.step db) db).ledger.find? requestID = some record) ∧
    changes (fun db call => call.step db) (fun call => call.requestID == requestID) db calls ≤ 2 ∧
    (∀ call : StrictCall, call.requestID = requestID → call.step db ≠ db →
      (call.isPreConsume = true ∧ db.phase requestID = 0 ∧ (call.step db).phase requestID = 1) ∨
      (call.isPreConsume = false ∧ db.phase requestID = 1 ∧ (call.step db).phase requestID = 2)) ∧
    (∀ (call : StrictCall) (e : BillingError), (call.exec db).1 = .error e →
      (call.exec db).2 = db) ∧
    (∀ record (call : StrictCall), db.ledger.find? requestID = some record →
      call.requestID = requestID → call.Mismatches record →
      ∃ e, (call.exec db).1 = .error e) := by
  refine ⟨fun record hfind hstatus => ?_, ?_, fun call hid hne => ?_,
    fun call e => StrictCall.exec_error, fun record call hfind hid hmis => ?_⟩
  · have hclosed : record.status ≠ .consumed := by
      rcases hstatus with h | h <;> simp [h]
    exact List.foldlRecOn (motive := fun db' : DB => db'.ledger.find? requestID = some record)
      calls _ hfind fun db' hfind' call _ => call.find?_step_of_closed hfind' hclosed
  · have hrank := changes_le (fun db call => StrictCall.step db call)
      (fun call => call.requestID == requestID) (fun db => db.phase requestID)
      (StrictCall.phase_le_step requestID) ?_ db calls
    · exact (Nat.le_add_left _ _).trans (hrank.trans (DB.phase_le_two _ _))
    · intro db call hcall hne
      obtain rfl : call.requestID = requestID := by simpa using hcall
      have hadv := (call.step_advances db).resolve_left hne
      rw [hadv.before, hadv.after]
      split <;> omega
  · subst hid
    have hadv := (call.step_advances db).resolve_left hne
    have hbefore := hadv.before
    have hafter := hadv.after
    cases hpre : call.isPreConsume with
    | true => exact .inl ⟨rfl, by simpa [hpre] using hbefore, by simpa [hpre] using hafter⟩
    | false => exact .inr ⟨rfl, by simpa [hpre] using hbefore, by simpa [hpre] using hafter⟩
  · subst hid
    cases hexec : (call.exec db).1 with
    | error e => exact ⟨e, rfl⟩
    | ok _ => exact absurd hmis (StrictCall.not_mismatches hfind
        (StrictCall.completes_of_exec_ok hexec))

theorem strictBilling_single_outcome_sample :
    let db := sampleCalls.foldl (fun db call => call.step db) sampleDB
    let call := StrictCall.refund sampleEnv
      { requestID := "r", userID := 7, subscriptionID := 0, tokenID := 1, skipToken := false,
        actualQuota := 0, allowOverdraft := false }
    (db.ledger.find? "r").map (·.status) = some .settled ∧ ∃ e, (call.exec db).1 = .error e := by
  intro db call
  refine ⟨by decide, ?_⟩
  obtain ⟨-, -, -, -, hmis⟩ := strictBilling_single_outcome "r" db []
  exact hmis
    { requestId := "r", userId := 7, userSubscriptionId := 0, preConsumed := 30,
      status := .settled, createdAt := 1000, updatedAt := 1000, period := 0 }
    call (by decide) rfl (.inr (.inr rfl))

/-- **Redelivery is harmless.** Once a reservation, or a settlement or refund, of a request has
changed anything, no later one of that request does, however many calls come in between. -/
theorem strictBilling_redelivery (db : DB) (call : StrictCall) :
    call.step db = db ∨ ∀ (calls : List StrictCall) (again : StrictCall),
      again.requestID = call.requestID → again.isPreConsume = call.isPreConsume →
      let db' := calls.foldl (fun db call => call.step db) (call.step db)
      again.step db' = db' := by
  refine (call.step_advances db).imp id fun hfirst calls again hid hkind => ?_
  intro db'
  have hphase : (call.step db).phase call.requestID ≤ db'.phase call.requestID := by
    refine List.foldlRecOn (motive := fun db' : DB =>
      (call.step db).phase call.requestID ≤ db'.phase call.requestID) calls _ le_rfl ?_
    exact fun before hle other _ => hle.trans (other.phase_le_step call.requestID before)
  rcases again.step_advances db' with hsame | hagain
  · exact hsame
  · rw [hfirst.after, ← hid, hagain.before, hkind] at hphase
    split at hphase <;> omega

end Mujian.Billing
