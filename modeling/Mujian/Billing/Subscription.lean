import Mujian.Billing.Reset

/-!
# Subscription quota

The transactions on subscriptions and their ledger: reserving an amount from any active
subscription, refunding a reservation, changing the usage by a delta, the quota reset of one due
subscription and the cleanup of the ledger. Each has one rule, `…_cases`, that lists everything a
successful run can have done, in terms of a few changes to the database.
-/

namespace Mujian.Billing

/-- What a billing call takes from outside the database. -/
structure Env where
  /-- The database clock, `GetDBTimestamp()`. -/
  now : ℤ
  /-- The process clock, `common.GetTimestamp()`. -/
  timestamp : ℤ
  /-- The plan lookup, which may be served from a cache. -/
  plans : ℤ → Option SubscriptionPlan
  calendar : Calendar
  refused : Bool

/-- A call as one atomic transaction. -/
def Env.commit {α : Type} (env : Env) (m : DBTx α) (db : DB) : Except BillingError α × DB :=
  Tx.commit (if env.refused then some .database else none) m db

namespace DB

/-! ## Changes to the database -/

section

variable (db : DB) (requestId : String)

def mapSubscription (id : ℤ) (f : UserSubscription → UserSubscription)
    (hf : ∀ s, s.id = id → (f s).id = id) : DB :=
  { db with subscriptions := db.subscriptions.update id f hf }

def chargeSubscription (id amount : ℤ) : DB :=
  db.mapSubscription id (fun s => { s with amountUsed := s.amountUsed + amount }) fun _ h => h

/-- Take `refund` off the usage of subscription `id`, down to 0 at most. -/
def refundSubscription (id refund : ℤ) : DB :=
  db.mapSubscription id (fun s =>
    { s with amountUsed := if s.amountUsed < refund then 0 else s.amountUsed - refund })
    fun _ h => h

def mapRecord (f : SubscriptionPreConsumeRecord → SubscriptionPreConsumeRecord)
    (hf : ∀ r, r.requestId = requestId → (f r).requestId = requestId) : DB :=
  { db with ledger := db.ledger.update requestId f hf }

def setStatus (status : RecordStatus) (timestamp : ℤ) : DB :=
  db.mapRecord requestId (fun r => { r with status := status, updatedAt := timestamp })
    fun _ h => h

end

section

variable (db : DB) (id : ℤ) (f : UserSubscription → UserSubscription)
  (hf : ∀ s, s.id = id → (f s).id = id) (amount : ℤ)

@[simp] theorem mapSubscription_users : (db.mapSubscription id f hf).users = db.users := rfl
@[simp] theorem mapSubscription_tokens : (db.mapSubscription id f hf).tokens = db.tokens := rfl
@[simp] theorem mapSubscription_ledger : (db.mapSubscription id f hf).ledger = db.ledger := rfl
@[simp] theorem chargeSubscription_users : (db.chargeSubscription id amount).users = db.users := rfl
@[simp] theorem chargeSubscription_tokens :
    (db.chargeSubscription id amount).tokens = db.tokens := rfl
@[simp] theorem chargeSubscription_ledger :
    (db.chargeSubscription id amount).ledger = db.ledger := rfl
@[simp] theorem refundSubscription_users : (db.refundSubscription id amount).users = db.users := rfl
@[simp] theorem refundSubscription_tokens :
    (db.refundSubscription id amount).tokens = db.tokens := rfl
@[simp] theorem refundSubscription_ledger :
    (db.refundSubscription id amount).ledger = db.ledger := rfl

theorem find?_mapSubscription (id' : ℤ) : (db.mapSubscription id f hf).subscriptions.find? id' =
      if id' = id then (db.subscriptions.find? id).map f else db.subscriptions.find? id' := by
  rw [mapSubscription, Table.find?_update]

variable (requestId : String)
  (g : SubscriptionPreConsumeRecord → SubscriptionPreConsumeRecord)
  (hg : ∀ r, r.requestId = requestId → (g r).requestId = requestId)

@[simp] theorem mapRecord_users : (db.mapRecord requestId g hg).users = db.users := rfl
@[simp] theorem mapRecord_tokens : (db.mapRecord requestId g hg).tokens = db.tokens := rfl
@[simp] theorem mapRecord_subscriptions :
    (db.mapRecord requestId g hg).subscriptions = db.subscriptions := rfl

theorem find?_mapRecord (requestId' : String) :
    (db.mapRecord requestId g hg).ledger.find? requestId' =
      if requestId' = requestId then (db.ledger.find? requestId).map g
      else db.ledger.find? requestId' := by rw [mapRecord, Table.find?_update]

end

/-- The database `db'` is `db` after resets of some subscriptions. -/
structure AfterResets (db db' : DB) : Prop where
  users : db'.users = db.users
  tokens : db'.tokens = db.tokens
  ledger : db'.ledger = db.ledger
  subscriptions : ∀ id,
    Option.Rel ResetFrom (db.subscriptions.find? id) (db'.subscriptions.find? id)

namespace AfterResets

variable {db db₁ db₂ : DB}

theorem refl (db : DB) : db.AfterResets db where
  users := rfl
  tokens := rfl
  ledger := rfl
  subscriptions id := by
    cases db.subscriptions.find? id with
    | none => exact .none
    | some s => exact .some (ResetFrom.refl s)

section

variable (h : db.AfterResets db₁)
include h

theorem trans (h' : db₁.AfterResets db₂) : db.AfterResets db₂ where
  users := h'.users.trans h.users
  tokens := h'.tokens.trans h.tokens
  ledger := h'.ledger.trans h.ledger
  subscriptions id := by
    have h₁ := h.subscriptions id
    have h₂ := h'.subscriptions id
    revert h₁ h₂
    generalize db.subscriptions.find? id = o
    generalize db₁.subscriptions.find? id = o₁
    generalize db₂.subscriptions.find? id = o₂
    rintro (h₁ | _) h₂
    · cases h₂ with
      | some h₂ => exact .some (h₁.trans h₂)
    · cases h₂
      exact .none

theorem exists_before {id : ℤ} {s₁ : UserSubscription} (h₁ : db₁.subscriptions.find? id = some s₁) :
    ∃ s, db.subscriptions.find? id = some s ∧ ResetFrom s s₁ := by
  have hrel := h.subscriptions id
  rw [h₁] at hrel
  cases hs : db.subscriptions.find? id with
  | none => rw [hs] at hrel; cases hrel
  | some s =>
    rw [hs] at hrel
    cases hrel with
    | some hreset => exact ⟨s, rfl, hreset⟩

/-- Resets keep the usage of a subscription from being negative. -/
theorem amountUsed_nonneg
    (hused : ∀ s ∈ db.subscriptions.rows, 0 ≤ s.amountUsed) {id : ℤ} {s₁ : UserSubscription}
    (h₁ : db₁.subscriptions.find? id = some s₁) : 0 ≤ s₁.amountUsed := by
  obtain ⟨s, hs, hreset⟩ := h.exists_before h₁
  rcases hreset.resets.lt_or_eq with hlt | heq
  · rw [hreset.amountUsed_zero hlt]
  · rw [hreset.amountUsed heq.symm]
    exact hused s (Table.mem_of_find? hs)

end

end AfterResets

end DB

/-! ## Reading rows -/

def firstRecord (requestId : String) : DBTx SubscriptionPreConsumeRecord := do
  Tx.orElse (← Tx.gets fun db => db.ledger.find? requestId) .recordNotFound

def firstSubscription (id : ℤ) : DBTx UserSubscription := do
  Tx.orElse (← Tx.gets fun db => db.subscriptions.find? id) .recordNotFound

def lockUser (userId : ℤ) : DBTx Unit := do
  let _ ← Tx.orElse (← Tx.gets fun db => db.users.find? userId) .recordNotFound

section

variable {db db' : DB}

@[simp] theorem run_firstRecord_eq_ok {requestId : String} {r : SubscriptionPreConsumeRecord} :
    (firstRecord requestId).run db = .ok (r, db') ↔
      db.ledger.find? requestId = some r ∧ db = db' := by
  simp only [firstRecord, Tx.run_bind_eq_ok, Tx.run_gets_eq_ok, Tx.run_orElse_eq_ok]
  constructor
  · rintro ⟨_, _, ⟨rfl, rfl⟩, h⟩
    exact h
  · intro h
    exact ⟨_, db, ⟨rfl, rfl⟩, h⟩

@[simp] theorem run_firstSubscription_eq_ok {id : ℤ} {sub : UserSubscription} :
    (firstSubscription id).run db = .ok (sub, db') ↔
      db.subscriptions.find? id = some sub ∧ db = db' := by
  simp only [firstSubscription, Tx.run_bind_eq_ok, Tx.run_gets_eq_ok, Tx.run_orElse_eq_ok]
  constructor
  · rintro ⟨_, _, ⟨rfl, rfl⟩, h⟩
    exact h
  · intro h
    exact ⟨_, db, ⟨rfl, rfl⟩, h⟩

@[simp] theorem run_lockUser_eq_ok {userId : ℤ} {u : Unit} :
    (lockUser userId).run db = .ok (u, db') ↔
      (∃ user, db.users.find? userId = some user) ∧ db = db' := by
  simp only [lockUser, Tx.run_bind_eq_ok, Tx.run_gets_eq_ok, Tx.run_orElse_eq_ok,
    Tx.run_pure_eq_ok]
  constructor
  · rintro ⟨_, _, ⟨rfl, rfl⟩, user, _, ⟨h, rfl⟩, -, rfl⟩
    exact ⟨⟨user, h⟩, rfl⟩
  · rintro ⟨⟨user, h⟩, rfl⟩
    exact ⟨_, db, ⟨rfl, rfl⟩, user, db, ⟨h, rfl⟩, trivial, rfl⟩

end

/-! ## Changing the usage -/

section

variable (userSubscriptionId delta : ℤ)

/-- The `UPDATE` of the usage by `delta`: an increase must stay within the total, a decrease stops
at 0. -/
def updateUsage : DBTx ℕ :=
  if delta > 0 then
    DB.subscriptionsTable.update userSubscriptionId
      (fun s => s.amountTotal ≤ 0 || s.amountUsed ≤ s.amountTotal - delta)
      (fun s => { s with amountUsed := s.amountUsed + delta }) fun _ => rfl
  else
    let refund := -delta
    DB.subscriptionsTable.update userSubscriptionId (fun _ => true)
      (fun s => { s with
        amountUsed := if s.amountUsed < refund then 0 else s.amountUsed - refund }) fun _ => rfl

def postConsumeUserSubscriptionDeltaTx : DBTx Unit := do
  let rowsAffected ← updateUsage userSubscriptionId delta
  if rowsAffected > 0 then pure ()
  else
    let sub ← firstSubscription userSubscriptionId
    Tx.throw (.subscriptionExceedsTotal (sub.amountUsed + delta) sub.amountTotal)

def postConsumeUserSubscriptionDelta : DBTx Unit := do
  Tx.failIf (userSubscriptionId ≤ 0) .invalidUserSubscriptionId
  if delta = 0 then pure () else postConsumeUserSubscriptionDeltaTx userSubscriptionId delta

end

/-- `(total ≤ 0 OR used ≤ total - amount)`: the subscription has room for `amount`. -/
def UserSubscription.HasRoom (sub : UserSubscription) (amount : ℤ) : Prop :=
  sub.amountTotal ≤ 0 ∨ sub.amountUsed ≤ sub.amountTotal - amount

variable {db db' : DB} {id delta userId amount : ℤ} {u : Unit} {sub : UserSubscription} {env : Env}
  {plan : SubscriptionPlan} {requestId : String}

theorem postConsumeUserSubscriptionDeltaTx_cases
    (h : (postConsumeUserSubscriptionDeltaTx id delta).run db = .ok (u, db')) :
    ∃ sub, db.subscriptions.find? id = some sub ∧
      ((0 < delta ∧ sub.HasRoom delta ∧ db' = db.chargeSubscription id delta) ∨
        (delta ≤ 0 ∧ db' = db.refundSubscription id (-delta))) := by
  rw [postConsumeUserSubscriptionDeltaTx, Tx.run_bind_eq_ok] at h
  obtain ⟨n, db₁, hupdate, h⟩ := h
  -- after an update that affected no row the transaction fails either way
  have hn : 0 < n ∧ db₁ = db' := by
    split at h
    · exact ⟨‹_›, (Tx.run_pure_eq_ok.1 h).2⟩
    · simp at h
  obtain ⟨hn, rfl⟩ := hn
  unfold updateUsage at hupdate
  split at hupdate
  · obtain ⟨-, sub, hsub, hroom, rfl⟩ | ⟨rfl, -⟩ := TableOf.run_update_eq_ok.1 hupdate
    · refine ⟨sub, hsub, .inl ⟨‹_›, ?_, rfl⟩⟩
      simpa [UserSubscription.HasRoom] using hroom
    · exact absurd hn (lt_irrefl _)
  · obtain ⟨-, sub, hsub, -, rfl⟩ | ⟨rfl, -⟩ := TableOf.run_update_eq_ok.1 hupdate
    · exact ⟨sub, hsub, .inr ⟨by omega, rfl⟩⟩
    · exact absurd hn (lt_irrefl _)

theorem postConsumeUserSubscriptionDelta_cases
    (h : (postConsumeUserSubscriptionDelta id delta).run db = .ok (u, db')) :
    (delta = 0 ∧ db' = db) ∨ ∃ sub, db.subscriptions.find? id = some sub ∧
      ((0 < delta ∧ sub.HasRoom delta ∧ db' = db.chargeSubscription id delta) ∨
        (delta < 0 ∧ db' = db.refundSubscription id (-delta))) := by
  rw [postConsumeUserSubscriptionDelta, Tx.run_bind_eq_ok] at h
  obtain ⟨_, _, hid, h⟩ := h
  obtain ⟨-, rfl⟩ := Tx.run_failIf_eq_ok.1 hid
  split at h
  · exact .inl ⟨‹_›, (Tx.run_pure_eq_ok.1 h).2.symm⟩
  · obtain ⟨sub, hsub, hcharge | ⟨hdelta, hdb⟩⟩ := postConsumeUserSubscriptionDeltaTx_cases h
    · exact .inr ⟨sub, hsub, .inl hcharge⟩
    · exact .inr ⟨sub, hsub, .inr ⟨by omega, hdb⟩⟩

/-! ## Resetting -/

def getSubscriptionPlanByIdTx (env : Env) (id : ℤ) : DBTx SubscriptionPlan := do
  Tx.failIf (id ≤ 0) .invalidPlanId
  Tx.orElse (env.plans id) .recordNotFound

/-- `tx.Save(sub)` on a row that exists: every column but the id is written. -/
def saveSubscription (sub : UserSubscription) : DBTx Unit := do
  let _ ← DB.subscriptionsTable.update sub.id (fun _ => true)
    (fun s => { sub with id := s.id, id_pos := s.id_pos }) fun _ => rfl

def maybeResetUserSubscriptionWithPlanTx (env : Env) (sub : UserSubscription)
    (plan : SubscriptionPlan) : DBTx Unit :=
  match resetRow env.calendar sub plan env.now with
  | none => pure ()
  | some sub' => saveSubscription sub'

/-- Saving over a row that exists replaces this row. -/
theorem find?_of_saveSubscription {old : UserSubscription}
    (hold : db.subscriptions.find? sub.id = some old)
    (h : (saveSubscription sub).run db = .ok (u, db')) :
    db'.users = db.users ∧ db'.tokens = db.tokens ∧ db'.ledger = db.ledger ∧
      ∀ id, db'.subscriptions.find? id =
        if id = sub.id then some sub else db.subscriptions.find? id := by
  simp only [saveSubscription, Tx.run_bind_eq_ok] at h
  obtain ⟨n, _, hupdate, -, rfl⟩ := h
  obtain ⟨-, _, -, -, rfl⟩ | ⟨-, hnone, -⟩ := TableOf.run_update_eq_ok.1 hupdate
  · refine ⟨rfl, rfl, rfl, fun id => ?_⟩
    have hid : old.id = sub.id := Table.key_of_find? hold
    simp only [DB.subscriptionsTable, Table.find?_update]
    cases sub with
    | mk => simp_all
  · exact absurd (hnone old hold) (by simp)

/-- A reset of a row just read is a reset of the current row and touches no other. -/
theorem maybeResetUserSubscriptionWithPlanTx_cases (hsub : db.subscriptions.find? sub.id = some sub)
    (h : (maybeResetUserSubscriptionWithPlanTx env sub plan).run db = .ok (u, db')) :
    db.AfterResets db' ∧
      ∀ id, id ≠ sub.id → db'.subscriptions.find? id = db.subscriptions.find? id := by
  unfold maybeResetUserSubscriptionWithPlanTx at h
  split at h
  · obtain ⟨-, rfl⟩ := Tx.run_pure_eq_ok.1 h
    exact ⟨.refl db, fun _ _ => rfl⟩
  · rename_i sub' hreset
    have hfrom := resetFrom_resetRow hreset
    rw [← hfrom.id] at hsub
    obtain ⟨husers, htokens, hledger, hfind⟩ := find?_of_saveSubscription hsub h
    refine ⟨⟨husers, htokens, hledger, fun id => ?_⟩, fun id hid => ?_⟩
    · rw [hfind]
      by_cases hid : id = sub'.id
      · rw [if_pos hid, hid, hsub]
        exact .some hfrom
      · rw [if_neg hid]
        exact (DB.AfterResets.refl db).subscriptions id
    · rw [hfind, if_neg (hfrom.id ▸ hid)]

/-- The transaction that `ResetDueSubscriptions` runs for one subscription it has listed. -/
def resetDueSubscription (env : Env) (id : ℤ) (plan : SubscriptionPlan) : DBTx Unit := do
  let locked ← Tx.gets fun db => (db.subscriptions.find? id).filter fun s =>
    s.nextResetTime > 0 && s.nextResetTime ≤ env.now
  match locked with
  | none => pure ()
  | some locked => maybeResetUserSubscriptionWithPlanTx env locked plan

theorem resetDueSubscription_cases (h : (resetDueSubscription env id plan).run db = .ok (u, db')) :
    db.AfterResets db' := by
  simp only [resetDueSubscription, Tx.run_bind_eq_ok] at h
  obtain ⟨locked, _, ⟨rfl, rfl⟩, h⟩ := h
  split at h
  · obtain ⟨-, rfl⟩ := Tx.run_pure_eq_ok.1 h
    exact .refl db
  · rename_i sub hfind
    obtain ⟨hsub, -⟩ := Option.filter_eq_some_iff.1 hfind
    have hid : sub.id = id := Table.key_of_find? hsub
    exact (maybeResetUserSubscriptionWithPlanTx_cases (by rwa [hid]) h).1

/-! ## Reserving -/

/-- What a reservation reports. -/
structure SubscriptionPreConsumeResult where
  (userSubscriptionId preConsumed amountTotal amountUsedBefore amountUsedAfter : ℤ)

variable {result : SubscriptionPreConsumeResult}

def activeSubscriptions (db : DB) (userId now : ℤ) : List UserSubscription :=
  (db.subscriptions.rows.filter fun s =>
    s.userId == userId && s.status == .active && s.endTime > now).insertionSort
    fun s t => s.endTime < t.endTime ∨ (s.endTime = t.endTime ∧ s.id ≤ t.id)

def subscriptionRecord (env : Env) (requestId : String) (userId amount : ℤ)
    (sub : UserSubscription) : SubscriptionPreConsumeRecord where
  requestId := requestId
  userId := userId
  userSubscriptionId := sub.id
  preConsumed := amount
  status := .consumed
  createdAt := env.timestamp
  updatedAt := env.timestamp
  period := sub.resets

/-- The loop over the candidates: reset, try to reserve, go on when there is no room. -/
def reserveFrom (env : Env) (requestId : String) (userId amount : ℤ) :
    List UserSubscription → DBTx SubscriptionPreConsumeResult
  | [] => Tx.throw (.subscriptionInsufficient amount)
  | sub :: subs => do
    let plan ← getSubscriptionPlanByIdTx env sub.planId
    maybeResetUserSubscriptionWithPlanTx env sub plan
    let rowsAffected ← DB.subscriptionsTable.update sub.id
      (fun s => s.userId == userId && s.status == .active && s.endTime > env.now &&
        (s.amountTotal ≤ 0 || s.amountUsed ≤ s.amountTotal - amount))
      (fun s => { s with amountUsed := s.amountUsed + amount }) fun _ => rfl
    if rowsAffected = 0 then reserveFrom env requestId userId amount subs
    else
      let sub ← firstSubscription sub.id
      createRecord (subscriptionRecord env requestId userId amount sub)
      pure
        { userSubscriptionId := sub.id
          preConsumed := amount, amountTotal := sub.amountTotal
          amountUsedBefore := sub.amountUsed - amount, amountUsedAfter := sub.amountUsed }

def preConsumeNewUserSubscriptionTx (env : Env) (requestId : String) (userId amount : ℤ) :
    DBTx SubscriptionPreConsumeResult := do
  let subs ← Tx.gets fun db => activeSubscriptions db userId env.now
  Tx.failIf (subs.length = 0) .noActiveSubscription
  reserveFrom env requestId userId amount subs

/-- What a new reservation of `amount` does: resets of some subscriptions, then a charge to one
with room and the record of it. -/
def ReservedFrom (env : Env) (requestId : String) (userId amount : ℤ) (db db' : DB)
    (result : SubscriptionPreConsumeResult) : Prop :=
  ∃ db₁ sub ledger, db.AfterResets db₁ ∧ db₁.subscriptions.find? sub.id = some sub ∧
    sub.userId = userId ∧ sub.status = .active ∧ sub.endTime > env.now ∧ sub.HasRoom amount ∧
    db₁.ledger.insert? (subscriptionRecord env requestId userId amount sub) = some ledger ∧
    db' = { db₁.chargeSubscription sub.id amount with ledger := ledger } ∧
    result =
      { userSubscriptionId := sub.id
        preConsumed := amount, amountTotal := sub.amountTotal
        amountUsedBefore := sub.amountUsed, amountUsedAfter := sub.amountUsed + amount }

theorem reserveFrom_cases {subs : List UserSubscription}
    (hnodup : (subs.map UserSubscription.id).Nodup)
    (hcurrent : ∀ sub ∈ subs, db.subscriptions.find? sub.id = some sub)
    (h : (reserveFrom env requestId userId amount subs).run db = .ok (result, db')) :
    ReservedFrom env requestId userId amount db db' result := by
  induction subs generalizing db with
  | nil => simp [reserveFrom] at h
  | cons sub subs ih =>
    rw [List.map_cons, List.nodup_cons] at hnodup
    simp only [reserveFrom, Tx.run_bind_eq_ok] at h
    obtain ⟨plan, _, hplan, _, db₁, hreset, n, db₂, hupdate, h⟩ := h
    simp only [getSubscriptionPlanByIdTx, Tx.run_bind_eq_ok, Tx.run_failIf_eq_ok,
      Tx.run_orElse_eq_ok] at hplan
    obtain ⟨_, _, ⟨-, rfl⟩, -, rfl⟩ := hplan
    obtain ⟨hafter, hother⟩ :=
      maybeResetUserSubscriptionWithPlanTx_cases (hcurrent sub (by simp)) hreset
    obtain ⟨rfl, sub₁, hsub₁, hcond, rfl⟩ | ⟨rfl, -, rfl⟩ := TableOf.run_update_eq_ok.1 hupdate
    · -- the reservation took effect on this candidate
      have hid : sub₁.id = sub.id := Table.key_of_find? hsub₁
      simp only [Nat.one_ne_zero, if_false, Tx.run_bind_eq_ok, run_firstSubscription_eq_ok,
        run_createRecord_eq_ok] at h
      obtain ⟨sub₂, _, ⟨hsub₂, rfl⟩, _, _, ⟨ledger, hinsert, rfl⟩, rfl, rfl⟩ := h
      obtain rfl : sub₂ = { sub₁ with amountUsed := sub₁.amountUsed + amount } := by
        simp only [DB.subscriptionsTable] at hsub₂ hsub₁
        rw [Table.find?_update_self hsub₁] at hsub₂
        exact (Option.some.inj hsub₂).symm
      simp only [Bool.and_eq_true, beq_iff_eq, decide_eq_true_eq, Bool.or_eq_true] at hcond
      obtain ⟨⟨⟨huser, hactive⟩, hend⟩, hroom⟩ := hcond
      refine ⟨db₁, sub₁, ledger, hafter, by rw [hid]; exact hsub₁, huser, hactive, hend, hroom,
        hinsert, by rw [hid]; rfl, by simp⟩
    · -- no room here: the next candidates are still as they were listed
      have hcurrent' : ∀ sub' ∈ subs, db₂.subscriptions.find? sub'.id = some sub' := by
        intro sub' hsub'
        rw [hother sub'.id fun heq => hnodup.1 (heq ▸ List.mem_map_of_mem hsub')]
        exact hcurrent sub' (by simp [hsub'])
      obtain ⟨db₃, sub', ledger, hafter', hrest⟩ := ih hnodup.2 hcurrent' (by simpa using h)
      exact ⟨db₃, sub', ledger, hafter.trans hafter', hrest⟩

theorem preConsumeNewUserSubscriptionTx_cases
    (h : (preConsumeNewUserSubscriptionTx env requestId userId amount).run db = .ok (result, db')) :
    ReservedFrom env requestId userId amount db db' result := by
  simp only [preConsumeNewUserSubscriptionTx, Tx.run_bind_eq_ok, Tx.run_failIf_eq_ok] at h
  obtain ⟨_, _, ⟨rfl, rfl⟩, _, _, ⟨-, rfl⟩, h⟩ := h
  have hnodup : ((activeSubscriptions db userId env.now).map UserSubscription.id).Nodup := by
    rw [activeSubscriptions, ((List.perm_insertionSort _ _).map _).nodup_iff]
    exact db.subscriptions.nodup_keys.sublist (List.filter_sublist.map _)
  refine reserveFrom_cases hnodup (fun sub hsub => ?_) h
  rw [activeSubscriptions, List.mem_insertionSort] at hsub
  exact Table.find?_key_of_mem (List.mem_filter.1 hsub).1

/-- Reserve `amount` from any active subscription; a request that has a live reservation gets it
reported again. -/
def preConsumeUserSubscription (env : Env) (requestId : String) (userId amount : ℤ) :
    DBTx SubscriptionPreConsumeResult := do
  Tx.failIf (userId ≤ 0) .invalidUserId
  Tx.failIf (trimSpace requestId = "") .requestIdEmpty
  Tx.failIf (amount ≤ 0) .amountNotPositive
  lockUser userId
  match ← Tx.gets fun db => db.ledger.find? requestId with
  | some existing =>
    Tx.failIf (existing.userId ≠ userId) .subscriptionAnotherUser
    Tx.failIf (existing.userSubscriptionId ≤ 0) .subscriptionWalletFunding
    Tx.failIf (existing.status ≠ .consumed) (.subscriptionAlready existing.status)
    let sub ← firstSubscription existing.userSubscriptionId
    pure
      { userSubscriptionId := sub.id
        preConsumed := existing.preConsumed, amountTotal := sub.amountTotal
        amountUsedBefore := sub.amountUsed, amountUsedAfter := sub.amountUsed }
  | none => preConsumeNewUserSubscriptionTx env requestId userId amount

theorem preConsumeUserSubscription_cases
    (h : (preConsumeUserSubscription env requestId userId amount).run db = .ok (result, db')) :
    0 < amount ∧
      ((db' = db ∧ ∃ existing, db.ledger.find? requestId = some existing ∧
          existing.userId = userId ∧ existing.status = .consumed ∧
          result.userSubscriptionId = existing.userSubscriptionId ∧
          result.preConsumed = existing.preConsumed) ∨
        (db.ledger.find? requestId = none ∧
          ReservedFrom env requestId userId amount db db' result)) := by
  simp only [preConsumeUserSubscription, Tx.run_bind_eq_ok, Tx.run_failIf_eq_ok,
    run_lockUser_eq_ok, Tx.run_gets_eq_ok] at h
  obtain ⟨_, _, ⟨-, rfl⟩, _, _, ⟨-, rfl⟩, _, _, ⟨hamount, rfl⟩, _, _, ⟨-, rfl⟩,
    existing?, _, ⟨hfind, rfl⟩, h⟩ := h
  refine ⟨by omega, ?_⟩
  cases existing? with
  | none => exact .inr ⟨hfind, preConsumeNewUserSubscriptionTx_cases h⟩
  | some existing =>
    simp only [Tx.run_bind_eq_ok, Tx.run_failIf_eq_ok, run_firstSubscription_eq_ok, not_not] at h
    obtain ⟨_, _, ⟨huser, rfl⟩, _, _, ⟨-, rfl⟩, _, _, ⟨hstatus, rfl⟩, sub, _, ⟨hsub, rfl⟩,
      rfl, rfl⟩ := h
    exact .inl ⟨rfl, existing, hfind, huser, hstatus, Table.key_of_find? hsub, rfl⟩

/-! ## Refunding and cleaning up -/

def refundSubscriptionPreConsume (env : Env) (requestId : String) : DBTx Unit := do
  Tx.failIf (trimSpace requestId = "") .requestIdEmpty
  let record ← firstRecord requestId
  if record.status = .refunded then pure ()
  else
    Tx.failIf (record.status ≠ .consumed) (.subscriptionRefundState record.status)
    let claimed ← DB.ledgerTable.update record.requestId (fun r => r.status == .consumed)
      (fun r => { r with status := .refunding, updatedAt := env.timestamp }) fun _ => rfl
    if claimed = 0 then
      let current ← firstRecord record.requestId
      if current.status = .refunded then pure ()
      else Tx.throw (.subscriptionRefundState current.status)
    else if record.preConsumed ≤ 0 then
      let _ ← DB.ledgerTable.update record.requestId (fun r => r.status == .refunding)
        (fun r => { r with status := .refunded, updatedAt := env.timestamp }) fun _ => rfl
    else
      postConsumeUserSubscriptionDeltaTx record.userSubscriptionId (-record.preConsumed)
      DB.ledgerTable.updateOne record.requestId (fun r => r.status == .refunding)
        (fun r => { r with status := .refunded, updatedAt := env.timestamp }) (fun _ => rfl)
        .subscriptionRefundStateChanged

theorem run_refunded_of_claimed {record : SubscriptionPreConsumeRecord} {n : ℕ}
    (hfind : db.ledger.find? requestId = some record)
    (h : (DB.ledgerTable.update requestId (fun r => r.status == .refunding)
      (fun r => { r with status := .refunded, updatedAt := env.timestamp })
      (fun _ => rfl) : DBTx ℕ).run (db.setStatus requestId .refunding env.timestamp) =
        .ok (n, db')) :
    n = 1 ∧ db' = db.setStatus requestId .refunded env.timestamp := by
  have hclaimed : (db.setStatus requestId .refunding env.timestamp).ledger.find? requestId =
      some { record with status := .refunding, updatedAt := env.timestamp } := by
    rw [DB.setStatus, DB.find?_mapRecord, if_pos rfl, hfind, Option.map_some]
  obtain ⟨rfl, _, -, -, rfl⟩ | ⟨-, hnone, -⟩ := TableOf.run_update_eq_ok.1 h
  · refine ⟨rfl, ?_⟩
    simp only [DB.ledgerTable, DB.setStatus, DB.mapRecord, Table.update_update]
    rfl
  · exact absurd (hnone _ hclaimed) (by simp)

/-- A successful refund found the request refunded already, or closed its reservation and gave
back what it held. -/
theorem refundSubscriptionPreConsume_cases
    (h : (refundSubscriptionPreConsume env requestId).run db = .ok (u, db')) :
    ∃ record, db.ledger.find? requestId = some record ∧
      ((record.status = .refunded ∧ db' = db) ∨
        (record.status = .consumed ∧
          ((record.preConsumed ≤ 0 ∧ db' = db.setStatus requestId .refunded env.timestamp) ∨
            (0 < record.preConsumed ∧
              (∃ sub, db.subscriptions.find? record.userSubscriptionId = some sub) ∧
              db' = (db.refundSubscription record.userSubscriptionId
                record.preConsumed).setStatus requestId .refunded env.timestamp)))) := by
  simp only [refundSubscriptionPreConsume, Tx.run_bind_eq_ok, Tx.run_failIf_eq_ok,
    run_firstRecord_eq_ok] at h
  obtain ⟨_, _, ⟨-, rfl⟩, record, _, ⟨hfind, rfl⟩, h⟩ := h
  refine ⟨record, hfind, ?_⟩
  have hid : record.requestId = requestId := Table.key_of_find? hfind
  split at h
  · exact .inl ⟨‹_›, (Tx.run_pure_eq_ok.1 h).2.symm⟩
  simp only [Tx.run_bind_eq_ok, Tx.run_failIf_eq_ok, not_not, hid] at h
  obtain ⟨_, _, ⟨hstatus, rfl⟩, n, db₁, hclaim, h⟩ := h
  refine .inr ⟨hstatus, ?_⟩
  -- the update takes effect, since the record was just read as consumed
  obtain ⟨rfl, _, -, -, rfl⟩ | ⟨-, hnone, -⟩ := TableOf.run_update_eq_ok.1 hclaim
  swap
  · exact absurd (hnone record hfind) (by simp [hstatus])
  rw [if_neg (by decide)] at h
  split at h
  · rename_i hpre
    simp only [Tx.run_bind_eq_ok] at h
    obtain ⟨n, _, hclose, -, rfl⟩ := h
    exact .inl ⟨hpre, (run_refunded_of_claimed hfind hclose).2⟩
  · simp only [Tx.run_bind_eq_ok, TableOf.updateOne, Tx.run_failIf_eq_ok] at h
    obtain ⟨_, db₂, hpost, n, _, hclose, -, rfl⟩ := h
    obtain ⟨sub, hsub, ⟨hpos, -⟩ | ⟨-, rfl⟩⟩ := postConsumeUserSubscriptionDeltaTx_cases hpost
    · omega
    · rw [neg_neg] at hclose
      have hfind' : (db.refundSubscription record.userSubscriptionId
          record.preConsumed).ledger.find? requestId = some record := hfind
      exact .inr ⟨by omega, ⟨sub, hsub⟩, (run_refunded_of_claimed hfind' hclose).2⟩

/-- Delete the terminal records that were last written before the cutoff. -/
def cleanupSubscriptionPreConsumeRecords (env : Env) (olderThanSeconds : ℤ) : DBTx ℕ :=
  let olderThanSeconds := if olderThanSeconds ≤ 0 then 7 * 24 * 3600 else olderThanSeconds
  let cutoff := env.now - olderThanSeconds
  let old : SubscriptionPreConsumeRecord → Bool := fun r =>
    r.updatedAt < cutoff && (r.status == .settled || r.status == .refunded)
  Tx.modifyGet fun db => (db.ledger.countWhere old, { db with ledger := db.ledger.deleteWhere old })

end Mujian.Billing
