import Mujian.Subscriptions.Schema

/-!
# Buying a subscription

`createUserSubscriptionFromPlanTx` creates a subscription from a plan, inside the transaction of
its caller. A plan can limit how often a user buys it. The limit is checked by counting before the
new row is inserted, and nothing keeps two transactions of one user from counting at the same time
(`bought_twice`). `purchases_le_limit` says when the limit is kept.
-/

namespace Mujian.Subscriptions

open Payment (TopUp TopUpStatus)
open Billing (calcNextResetTime durationSeconds)

/-- The calendar of the server's time zone, with the addition of years and months. -/
structure PlanCalendar extends Billing.Calendar where
  /-- `start.AddDate(years, months, 0).Unix()`. -/
  addDate : ℤ → ℤ → ℤ → ℤ

/-- The seconds of the new date are computed in 64 bits. -/
def PlanCalendar.ofZone (zone : Calendars.Zone) : PlanCalendar :=
  { Billing.Calendar.ofZone zone with
    addDate := fun start years months =>
      zone.unix (Int.bmod (zone.readingAfter start (12 * years + months)) (2 ^ 64)) }

/-- What the functions on subscriptions take from outside the tables. -/
structure Env where
  /-- The plans, which may be served from a cache. -/
  plans : Table SubscriptionPlan
  calendar : PlanCalendar

/-- The clocks that a call reads. -/
structure Clock where
  /-- The database clock, `GetDBTimestamp()`. -/
  now : ℤ
  /-- The process clock, `common.GetTimestamp()`. -/
  timestamp : ℤ

section

variable (env : Env) (cal : PlanCalendar) (userId : ℤ)

def calcPlanEndTime (start : ℤ) (plan : SubscriptionPlan) : Except SubscriptionError ℤ :=
  if plan.durationValue ≤ 0 ∧ plan.durationUnit ≠ .custom then .error .durationValueNotPositive
  else
    match plan.durationUnit with
    | .year => .ok (cal.addDate start plan.durationValue 0)
    | .month => .ok (cal.addDate start 0 plan.durationValue)
    | .day => .ok (start + durationSeconds (plan.durationValue * 86400))
    | .hour => .ok (start + durationSeconds (plan.durationValue * 3600))
    | .custom =>
      if plan.customSeconds ≤ 0 then .error .customSecondsNotPositive
      else .ok (start + durationSeconds plan.customSeconds)
    | .other unit => .error (.invalidDurationUnit unit)

def getSubscriptionPlanById (id : ℤ) : SubCode SubscriptionPlan := do
  Code.failIf (id ≤ 0) .invalidPlanId
  Code.orElse (env.plans.find? id) .recordNotFound

def getUserGroupByIdTx : SubCode String := do
  Code.failIf (userId ≤ 0) .groupUserId
  Code.select fun s => s.groupOf userId

def checkPurchaseLimit (plan : SubscriptionPlan) : SubCode Unit :=
  if plan.maxPurchasePerUser > 0 then do
    let count ← Code.select fun s => s.purchases userId plan.id
    Code.failIf (plan.maxPurchasePerUser ≤ count) .purchaseLimit
  else Code.ret ()

/-- Move the user to the upgrade group; returns the group to go back to. -/
def upgradeUserGroup (upgradeGroup : String) : SubCode String :=
  if upgradeGroup = "" then Code.ret ""
  else do
    let currentGroup ← getUserGroupByIdTx userId
    if currentGroup = upgradeGroup then Code.ret ""
    else Code.update [.user userId] (fun s => s.setGroup userId upgradeGroup) fun _ => currentGroup

def newSubscription (now userId : ℤ) (plan : SubscriptionPlan)
    (source : String) (endUnix : ℤ) (prevGroup : String) : NewSubscription :=
  let nextReset := calcNextResetTime cal.toCalendar now plan.toSubscriptionPlan endUnix
  { userId := userId
    planId := plan.id, amountTotal := plan.totalAmount
    startTime := now, endTime := endUnix
    source := source
    lastResetTime := if nextReset > 0 then now else 0
    nextResetTime := nextReset, upgradeGroup := trimSpace plan.upgradeGroup
    prevUserGroup := prevGroup }

def createUserSubscriptionFromPlanTx (now userId : ℤ) (plan : SubscriptionPlan)
    (source : String) : SubCode Unit := do
  Code.failIf (plan.id = 0) .invalidPlan
  Code.failIf (userId ≤ 0) .invalidUserId
  checkPurchaseLimit userId plan
  let endUnix ← Code.ofExcept (calcPlanEndTime env.calendar now plan)
  let prevGroup ← upgradeUserGroup userId (trimSpace plan.upgradeGroup)
  Code.update []
    (fun s => s.createSubscription
      (newSubscription env.calendar now userId plan source endUnix prevGroup)) fun _ => ()

end

theorem checkPurchaseLimit_bind {β : Type} {userId : ℤ} {plan : SubscriptionPlan}
    (hlimit : 0 < plan.maxPurchasePerUser) (g : Unit → SubCode β) :
    (checkPurchaseLimit userId plan).bind g = .query fun s =>
      if plan.maxPurchasePerUser ≤ s.purchases userId plan.id then .fail .purchaseLimit
      else g () := by
  rw [checkPurchaseLimit, if_pos hlimit, Code.bind_eq, Code.bind_assoc, Code.select_bind]
  exact congrArg _ (funext fun s => Code.failIf_bind _ _)

/-- A saved top-up keeps the trade number of the row it replaces. -/
theorem key_topUp (topUp r : TopUp) (_ : Keyed.key r = topUp.tradeNo) :
    Keyed.key topUp = topUp.tradeNo := rfl

namespace Store

/-- `tx.Create(&topup)`, which the unique trade number refuses when the row exists. -/
def insertTopUp (s : Store) (topUp : TopUp) : Store :=
  match s.topUps.insert? topUp with
  | none => s
  | some topUps => { s with topUps := topUps }

/-- `tx.Save(&topup)` on a row that exists. -/
def saveTopUp (s : Store) (topUp : TopUp) : Store :=
  { s with topUps := s.topUps.update topUp.tradeNo (fun _ => topUp) (key_topUp topUp) }

/-- `tx.Save(&order)` on a row that exists. -/
def saveOrder (s : Store) (order : SubscriptionOrder) : Store :=
  { s with orders := s.orders.update order.tradeNo (fun _ => order) fun _ _ => rfl }

theorem saveOrder_subs (s : Store) (order : SubscriptionOrder) :
    (s.saveOrder order).subs = s.subs := rfl

end Store

section

variable (env : Env) (clock : Clock) (order : SubscriptionOrder) (now : ℤ)

def SubscriptionOrder.topUp : TopUp where
  tradeNo := order.tradeNo
  userId := order.userId
  amount := 0
  money := order.money
  providerTradeNo := ""
  paymentMethod := order.paymentMethod
  source := ""
  creditedQuota := 0
  createTime := order.createTime
  completeTime := now
  status := .success

def upsertSubscriptionTopUpTx : SubCode Unit := do
  let found ← Code.select fun s => s.topUps.find? order.tradeNo
  match found with
  | none => do
    let existing ← Code.update [.topUp order.tradeNo] (fun s => s.insertTopUp (order.topUp now))
      fun s => s.topUps.find? order.tradeNo
    Code.failIf (existing.isSome = true) .database
  | some topUp =>
    Code.update [.topUp order.tradeNo]
      (fun s => s.saveTopUp
        { topUp with
          money := order.money
          paymentMethod :=
            if topUp.paymentMethod = "" then order.paymentMethod else topUp.paymentMethod
          createTime := if topUp.createTime = 0 then order.createTime else topUp.createTime
          completeTime := now
          status := .success }) fun _ => ()

def completeSubscriptionOrder (tradeNo providerPayload : String) : SubCode Unit := do
  Code.failIf (tradeNo = "") .tradeNoEmpty
  let found ← Code.selectForUpdate (.order tradeNo) fun s => s.orders.find? tradeNo
  let order ← Code.orElse found .orderNotFound
  if order.status = .success then Code.done ()
  else
    Code.failIf (order.status ≠ .pending) .orderStatusInvalid
    let plan ← getSubscriptionPlanById env order.planId
    createUserSubscriptionFromPlanTx env clock.now order.userId plan "order"
    upsertSubscriptionTopUpTx order clock.timestamp
    Code.update [.order tradeNo]
      (fun s => s.saveOrder
        { order with
          status := .success, completeTime := clock.timestamp
          providerPayload :=
            if providerPayload = "" then order.providerPayload else providerPayload })
      fun _ => ()
    Code.done ()

def adminBindSubscription (userId planId : ℤ) : SubCode String := do
  Code.failIf (userId ≤ 0 ∨ planId ≤ 0) .invalidUserIdOrPlanId
  let plan ← getSubscriptionPlanById env planId
  createUserSubscriptionFromPlanTx env clock.now userId plan "admin"
  Code.done (if trimSpace plan.upgradeGroup = "" then "" else "用户分组将升级到 " ++ plan.upgradeGroup)

end

def BelowLimit (env : Env) (db : Store) (target : ℤ × ℤ) : Prop :=
  ∀ plan ∈ env.plans.find? target.2, 0 < plan.maxPurchasePerUser →
    (db.purchases target.1 target.2 : ℤ) < plan.maxPurchasePerUser

instance (env : Env) (db : Store) (target : ℤ × ℤ) : Decidable (BelowLimit env db target) :=
  inferInstanceAs (Decidable (∀ plan ∈ env.plans.find? target.2, _))

/-! ## The code of a purchase

Up to the insertion of the subscription, and again from there to the commit, a purchase leaves the
subscriptions alone. -/

section

variable {τ : Type} {R : Store → τ}

theorem keeps_upgradeUserGroup (hR : ∀ s userId group, R (Store.setGroup s userId group) = R s)
    (userId : ℤ) (upgradeGroup : String) : (upgradeUserGroup userId upgradeGroup).Keeps R := by
  unfold upgradeUserGroup
  split
  · exact .ret _
  · refine ((Code.Keeps.failIf _ _).bind fun _ => .select _).bind fun currentGroup => ?_
    split
    · exact .ret _
    · exact .update _ (fun s => hR s _ _) _

theorem keeps_upsertSubscriptionTopUpTx (hR : ∀ s topUps, R { s with topUps := topUps } = R s)
    (order : SubscriptionOrder) (now : ℤ) : (upsertSubscriptionTopUpTx order now).Keeps R := by
  refine (Code.Keeps.select _).bind fun found => ?_
  cases found with
  | none =>
    refine (Code.Keeps.update _ (fun s => ?_) _).bind fun _ => .failIf _ _
    unfold Store.insertTopUp
    split
    · rfl
    · exact hR s _
  | some topUp => exact Code.Keeps.update _ (fun s => hR s _) _

end

/-- The code of a purchase of a plan by a user, before or after the insertion of the
subscription. -/
inductive Purchasing {α : Type} (userId planId : ℤ) : Bool → SubCode α → Prop
  | fail (b) (e : SubscriptionError) : Purchasing userId planId b (.fail e)
  | query (b) (k : Store → SubCode α) (hk : ∀ v, Purchasing userId planId b (k v)) :
      Purchasing userId planId b (.query k)
  | lock (b row) (k : Store → SubCode α) (hk : ∀ v, Purchasing userId planId b (k v)) :
      Purchasing userId planId b (.lock row k)
  | write (b rows f) (k : Store → SubCode α) (hf : ∀ s : Store, (f s).subs = s.subs)
      (hk : ∀ v, Purchasing userId planId b (k v)) :
      Purchasing userId planId b (.write rows f k)
  | insert (new : NewSubscription) (k : Store → SubCode α) (huser : new.userId = userId)
      (hplan : new.planId = planId) (hk : ∀ v, Purchasing userId planId true (k v)) :
      Purchasing userId planId false (.write [] (fun s => s.createSubscription new) k)
  | commit (a : α) : Purchasing userId planId true (.commit (.ret a))

namespace Purchasing

variable {α β : Type} {userId planId : ℤ}

theorem bind {b : Bool} {c : SubCode α} {g : α → SubCode β} (h : c.Keeps Store.subs)
    (hg : ∀ a, Purchasing userId planId b (g a)) : Purchasing userId planId b (c.bind g) := by
  induction h with
  | ret a => exact hg a
  | fail e => exact .fail b e
  | query k _ ih => exact .query b _ ih
  | lock row k _ ih => exact .lock b row _ ih
  | write rows f k hf _ ih => exact .write b rows f _ hf ih

/-- What follows the check of the limit. -/
theorem create (env : Env) (now : ℤ) {plan : SubscriptionPlan} (hplan : plan.id = planId)
    (source : String) {g : Unit → SubCode β} (hg : Purchasing userId planId true (g ())) :
    ∃ k : SubCode β, Purchasing userId planId false k ∧
      (createUserSubscriptionFromPlanTx env now userId plan source).bind g =
        (Code.failIf (plan.id = 0) .invalidPlan).bind fun _ =>
          (Code.failIf (userId ≤ 0) .invalidUserId).bind fun _ =>
            (checkPurchaseLimit userId plan).bind fun _ => k := by
  unfold createUserSubscriptionFromPlanTx
  simp only [Code.bind_eq, Code.bind_assoc]
  refine ⟨_, .bind (.ofExcept _) fun endUnix => ?_, rfl⟩
  refine .bind (keeps_upgradeUserGroup (fun s _ _ => s.setGroup_subs _ _) _ _) fun prevGroup => ?_
  exact .insert _ _ rfl hplan fun _ => hg

end Purchasing

inductive PurchaseCall
  | completeOrder (clock : Clock) (tradeNo providerPayload : String)
  | adminBind (clock : Clock) (userId planId : ℤ)

namespace PurchaseCall

def code (env : Env) : PurchaseCall → SubCode String
  | completeOrder clock tradeNo providerPayload => do
    completeSubscriptionOrder env clock tradeNo providerPayload
    return ""
  | adminBind clock userId planId => adminBindSubscription env clock userId planId

/-- The user and the plan of the purchase: for an order, those of the pending order that the call
has read first. -/
def target (first : Option Store) : PurchaseCall → Option (ℤ × ℤ)
  | completeOrder _ tradeNo _ =>
    ((first.bind fun v => v.orders.find? tradeNo).filter fun order => order.status = .pending).map
      fun order => (order.userId, order.planId)
  | adminBind _ userId planId => some (userId, planId)

/-- How many statements come before the one that counts. -/
def uncounted : PurchaseCall → ℕ
  | completeOrder .. => 1
  | adminBind .. => 0

/-- What the call has counted in, from what it has seen, the last first. -/
def counted (call : PurchaseCall) (seen : List Store) : Option Store :=
  seen.reverse[call.uncounted]?

end PurchaseCall

/-! ## The stages of a call -/

/-- What a transaction has pending: nothing on subscriptions, or a new one. -/
def Pending (userId planId : ℤ) (b : Bool) (pending : Store → Store) : Prop :=
  ∀ s, ∀ u p, (pending s).purchases u p =
    s.purchases u p + if b = true ∧ userId = u ∧ planId = p then 1 else 0

theorem Pending.start (userId planId : ℤ) : Pending userId planId false id := by
  intro s u p
  simp

variable {userId planId : ℤ} {pending : Store → Store}

theorem Pending.write {b : Bool} (h : Pending userId planId b pending) {f : Store → Store}
    (hf : ∀ s : Store, (f s).subs = s.subs) : Pending userId planId b (f ∘ pending) := by
  intro s u p
  rw [← h s u p, Function.comp, Store.purchases, hf, Store.purchases]

theorem Pending.insert (h : Pending userId planId false pending) {new : NewSubscription}
    (huser : new.userId = userId) (hplan : new.planId = planId) :
    Pending userId planId true ((fun s => s.createSubscription new) ∘ pending) := by
  intro s u p
  rw [Function.comp, Store.purchases_createSubscription, h s u p, huser, hplan]
  simp

/-- Whatever the call goes on to see, its target is the given user and plan. -/
def PurchaseCall.Targets (call : PurchaseCall) (userId planId : ℤ) (seen : List Store) : Prop :=
  ∀ later : List Store, call.target (later ++ seen).getLast? = some (userId, planId)

theorem PurchaseCall.Targets.cons {call : PurchaseCall} {seen : List Store}
    (h : call.Targets userId planId seen) (v : Store) :
    call.Targets userId planId (v :: seen) := by
  intro later
  have := h (later ++ [v])
  rwa [List.append_assoc, List.singleton_append] at this

/-- The call has found its user below the limit, or the plan has none. -/
def PurchaseCall.Checked (env : Env) (call : PurchaseCall) (target : ℤ × ℤ) (seen : List Store) :
    Prop :=
  (∀ db, BelowLimit env db target) ∨ ∃ v, call.counted seen = some v ∧ BelowLimit env v target

theorem PurchaseCall.Checked.cons {env : Env} {call : PurchaseCall} {target : ℤ × ℤ}
    {seen : List Store} (h : call.Checked env target seen) (v : Store) :
    call.Checked env target (v :: seen) := by
  refine h.imp id ?_
  rintro ⟨v₀, hcounted, hbelow⟩
  refine ⟨v₀, ?_, hbelow⟩
  have hlen := (List.getElem?_eq_some_iff.1 hcounted).1
  rw [PurchaseCall.counted, List.reverse_cons, List.getElem?_append_left hlen]
  exact hcounted

/-- The stages of a call: before an order is read, before the limit is checked, during the rest of
a purchase, and at the end. -/
inductive PurchaseStage (env : Env) : PurchaseCall → Proc Store Row SubscriptionError String → Prop
  | reading (clock tradeNo providerPayload) (htradeNo : tradeNo ≠ "") :
      PurchaseStage env (.completeOrder clock tradeNo providerPayload)
        ⟨(PurchaseCall.completeOrder clock tradeNo providerPayload).code env, id, []⟩
  | counting (call userId planId seen) (plan : SubscriptionPlan) (k : SubCode String)
      (hplan : env.plans.find? planId = some plan) (hlimit : 0 < plan.maxPurchasePerUser)
      (hcode : Purchasing userId planId false k) (hseen : seen.length = call.uncounted)
      (htarget : call.Targets userId planId seen) :
      PurchaseStage env call ⟨(checkPurchaseLimit userId plan).bind fun _ => k, id, seen⟩
  | purchasing (call userId planId b code pending seen)
      (hcode : Purchasing userId planId b code) (hpending : Pending userId planId b pending)
      (htarget : call.Targets userId planId seen)
      (hchecked : call.Checked env (userId, planId) seen) :
      PurchaseStage env call ⟨code, pending, seen⟩
  | skipped (call seen) : PurchaseStage env call ⟨.commit (.ret ""), id, seen⟩
  | returned (call a seen) : PurchaseStage env call ⟨.ret a, id, seen⟩
  | failed (call e seen) (pending : Store → Store) : PurchaseStage env call ⟨.fail e, pending, seen⟩

namespace PurchaseStage

variable {env : Env} {call : PurchaseCall} {p : Proc Store Row SubscriptionError String}

/-- A call that knows its user and its plan has yet to check the limit. -/
theorem entered (now : ℤ) (source : String) {g : SubscriptionPlan → Unit → SubCode String}
    (hg : ∀ plan, Purchasing userId planId true (g plan ())) {seen : List Store}
    (hseen : seen.length = call.uncounted) (htarget : call.Targets userId planId seen) :
    PurchaseStage env call ⟨(getSubscriptionPlanById env planId).bind fun plan =>
      (createUserSubscriptionFromPlanTx env now userId plan source).bind (g plan), id, seen⟩ := by
  unfold getSubscriptionPlanById
  rw [Code.bind_eq, Code.bind_assoc, Code.failIf_bind]
  split
  · exact .failed _ _ _ _
  cases hfind : env.plans.find? planId with
  | none => exact .failed _ _ _ _
  | some plan =>
    have hkey : plan.id = planId := Table.key_of_find? hfind
    obtain ⟨k, hk, heq⟩ := Purchasing.create env now hkey source (hg plan)
    rw [Code.orElse_some_bind, heq, Code.failIf_bind]
    split
    · exact .failed _ _ _ _
    rw [Code.failIf_bind]
    split
    · exact .failed _ _ _ _
    by_cases hlimit : 0 < plan.maxPurchasePerUser
    · exact .counting _ _ _ _ plan k hfind hlimit hk hseen htarget
    · rw [checkPurchaseLimit, if_neg hlimit]
      refine .purchasing _ _ _ false _ _ _ hk (.start _ _) htarget (.inl fun db plan' hplan' => ?_)
      obtain rfl := Option.some.inj (hfind.symm.trans hplan')
      exact fun h => absurd h hlimit

theorem initial (env : Env) (call : PurchaseCall) :
    PurchaseStage env call (.start (call.code env)) := by
  cases call with
  | completeOrder clock tradeNo providerPayload =>
    by_cases htradeNo : tradeNo = ""
    · simp only [PurchaseCall.code, completeSubscriptionOrder, Code.bind_eq, Code.failIf_bind,
        if_pos htradeNo]
      exact .failed _ _ _ _
    · exact .reading clock tradeNo providerPayload htradeNo
  | adminBind clock userId planId =>
    simp only [PurchaseCall.code, adminBindSubscription, Code.bind_eq, Code.failIf_bind]
    split
    · exact .failed _ _ _ _
    · exact .entered clock.now "admin" (fun _ => .commit _) rfl fun _ => rfl

/-- The completion of an order, in terms of what it finds. -/
theorem completeOrder_eq {clock : Clock} {tradeNo providerPayload : String}
    (htradeNo : tradeNo ≠ "") :
    ∃ g : SubscriptionOrder → SubscriptionPlan → Unit → SubCode String,
      (PurchaseCall.completeOrder clock tradeNo providerPayload).code env =
        .lock (.order tradeNo) (fun s => (Code.orElse (s.orders.find? tradeNo) .orderNotFound).bind
          fun order => if order.status = .success then .commit (.ret "")
            else if order.status ≠ .pending then .fail .orderStatusInvalid
            else (getSubscriptionPlanById env order.planId).bind fun plan =>
              (createUserSubscriptionFromPlanTx env clock.now order.userId plan "order").bind
                (g order plan)) ∧
        ∀ order plan, Purchasing order.userId order.planId true (g order plan ()) := by
  refine ⟨fun order _ _ =>
    (upsertSubscriptionTopUpTx order clock.timestamp).bind fun _ =>
    (Code.update [.order tradeNo]
      (fun s => s.saveOrder
        { order with
          status := .success, completeTime := clock.timestamp
          providerPayload :=
            if providerPayload = "" then order.providerPayload else providerPayload })
      fun _ => ()).bind fun _ => .commit (.ret ""), ?_, fun order plan => ?_⟩
  · simp only [PurchaseCall.code, completeSubscriptionOrder, Code.bind_eq, Code.bind_assoc,
      Code.failIf_bind, Code.selectForUpdate_bind, Code.lock_bind, if_neg htradeNo]
    refine congrArg _ (funext fun s => congrArg _ (funext fun order => ?_))
    split
    · rfl
    split
    · rfl
    · simp only [Code.bind_assoc]
      rfl
  · refine .bind (keeps_upsertSubscriptionTopUpTx (fun _ _ => rfl) order _) fun _ => ?_
    exact .bind (.update _ (fun s => s.saveOrder_subs _) _) fun _ => .commit _

theorem next (h : PurchaseStage env call p) (db : Store) (hcloses : p.closes = false) :
    PurchaseStage env call (p.next db) := by
  cases h with
  | reading clock tradeNo providerPayload htradeNo =>
    obtain ⟨g, hcode, hk⟩ := @completeOrder_eq env clock tradeNo providerPayload htradeNo
    simp only [hcode, Proc.next, id_eq]
    cases hfind : db.orders.find? tradeNo with
    | none => exact .failed _ _ _ _
    | some order =>
      simp only [Code.orElse_some_bind]
      split
      · exact .skipped _ _
      split
      · exact .failed _ _ _ _
      · rename_i hstatus
        refine .entered clock.now "order" (hk order) rfl fun later => ?_
        simp only [PurchaseCall.target, List.getLast?_append, List.getLast?_singleton,
          Option.some_or, Option.bind_some, hfind, Option.filter, not_not.1 hstatus, decide_true,
          if_true, Option.map_some]
  | counting call userId planId seen plan k hplan hlimit hcode hseen htarget =>
    simp only [checkPurchaseLimit_bind hlimit, Proc.next, id_eq]
    split
    · exact .failed _ _ _ _
    · rename_i hbelow
      refine .purchasing _ _ _ false _ _ _ hcode (.start _ _) (htarget.cons _) (.inr ⟨db, ?_, ?_⟩)
      · simp [PurchaseCall.counted, ← hseen]
      · intro plan' hplan' _
        obtain rfl := Option.some.inj (hplan.symm.trans hplan')
        have hkey : plan.id = planId := Table.key_of_find? hplan
        rw [hkey] at hbelow
        exact not_le.1 hbelow
  | purchasing call userId planId b code pending seen hcode hpending htarget hchecked =>
    have hchecked := hchecked.cons (pending db)
    have htarget := htarget.cons (pending db)
    cases hcode with
    | fail => cases hcloses
    | query b k hk => exact .purchasing _ _ _ b _ _ _ (hk _) hpending htarget hchecked
    | lock b row k hk => exact .purchasing _ _ _ b _ _ _ (hk _) hpending htarget hchecked
    | write b rows f k hf hk =>
      exact .purchasing _ _ _ b _ _ _ (hk _) (hpending.write hf) htarget hchecked
    | insert new k huser hplan hk =>
      have hpending := hpending.insert huser hplan
      exact .purchasing _ _ _ true _ _ _ (hk _) hpending htarget hchecked
    | commit => cases hcloses
  | returned call a seen => exact .returned _ a seen
  | skipped | failed => cases hcloses

end PurchaseStage

/-! ## The limit -/

/-- No user has more subscriptions of a limited plan than the limit allows, or than there were. -/
def WithinLimits (env : Env) (base db : Store) : Prop :=
  ∀ userId planId plan, env.plans.find? planId = some plan → 0 < plan.maxPurchasePerUser →
    (db.purchases userId planId : ℤ) ≤ max (base.purchases userId planId : ℤ)
      plan.maxPurchasePerUser

section

variable {ι : Type}

def purchaseSystem (env : Env) (calls : ι → PurchaseCall) (store : Store) :
    Sys ι Store Row SubscriptionError String :=
  .start store fun i => (calls i).code env

/-- A purchase whose count was below the limit commits while the user is still below it. -/
def StillBelowLimit (env : Env) (calls : ι → PurchaseCall)
    (s : Sys ι Store Row SubscriptionError String) : Event ι SubscriptionError → Prop
  | .step i => (s.procs i).commits = true →
      ∀ target ∈ (calls i).target (s.procs i).firstSeen,
        ∀ v ∈ (calls i).counted (s.procs i).seen, BelowLimit env v target →
          BelowLimit env s.db target
  | .abort _ _ => True

instance (env : Env) (calls : ι → PurchaseCall) (s : Sys ι Store Row SubscriptionError String) :
    ∀ e, Decidable (StillBelowLimit env calls s e)
  | .step i => inferInstanceAs (Decidable (_ → ∀ target ∈ (calls i).target _,
      ∀ v ∈ (calls i).counted _, _))
  | .abort _ _ => isTrue trivial

theorem WithinLimits.purchase {env : Env} {base db : Store} (h : WithinLimits env base db)
    (hbelow : BelowLimit env db (userId, planId))
    (hpending : Pending userId planId true pending) : WithinLimits env base (pending db) := by
  intro u p plan hplan hlimit
  rw [hpending db u p]
  have hle := h u p plan hplan hlimit
  split
  · rename_i heq
    obtain ⟨-, rfl, rfl⟩ := heq
    have hlt : (db.purchases userId planId : ℤ) < plan.maxPurchasePerUser :=
      hbelow plan hplan hlimit
    omega
  · simpa using hle

variable [DecidableEq ι]

theorem withinLimits_step (env : Env) (calls : ι → PurchaseCall) (base : Store)
    (s : Sys ι Store Row SubscriptionError String) (e : Event ι SubscriptionError)
    (h : s.Staged (WithinLimits env base) fun i _ _ => PurchaseStage env (calls i))
    (hcond : StillBelowLimit env calls s e) :
    (s.step e).Staged (WithinLimits env base) fun i _ _ => PurchaseStage env (calls i) := by
  refine Sys.Staged.step ?_ ?_ ?_ s e h hcond
  · intro i db held p _ hstage hcloses
    exact hstage.next db hcloses
  · intro i db held p e _
    exact .failed _ _ _ _
  · intro s i k h hcond hcode
    have hstill := hcond (by simp [Proc.commits, hcode])
    have hstage := h.procs i
    generalize s.procs i = p at hstage hcode hstill ⊢
    generalize calls i = call at hstage hstill ⊢
    cases hstage with
    | purchasing call userId planId b code pending seen hpurchasing hpending htarget hchecked =>
      cases hpurchasing with
      | commit a =>
        obtain rfl := Code.commit.inj hcode
        have hbelow : BelowLimit env s.db (userId, planId) := by
          rcases hchecked with hfree | ⟨v, hcounted, hbelow⟩
          · exact hfree s.db
          · exact hstill _ (htarget []) v hcounted hbelow
        exact ⟨h.db.purchase hbelow hpending, .returned _ a _, fun j _ => h.procs j⟩
      | _ => cases hcode
    | counting call userId planId seen plan k hplan hlimit =>
      rw [checkPurchaseLimit_bind hlimit] at hcode
      cases hcode
    | skipped call seen =>
      obtain rfl := Code.commit.inj hcode
      exact ⟨h.db, .returned _ _ _, fun j _ => h.procs j⟩
    | reading clock tradeNo providerPayload htradeNo =>
      obtain ⟨_, hlock, -⟩ := @PurchaseStage.completeOrder_eq env clock tradeNo providerPayload
        htradeNo
      rw [hlock] at hcode
      cases hcode
    | _ => cases hcode

/-- **The purchase limit.** If no other purchase uses up the limit between the count of a purchase
and its commit, then no user gets more subscriptions of a plan than its limit. -/
theorem purchases_le_limit (env : Env) (calls : ι → PurchaseCall) (store : Store)
    (es : List (Event ι SubscriptionError))
    (hmeets : Sys.Meets (StillBelowLimit env calls) (purchaseSystem env calls store) es) :
    ∀ userId planId plan, env.plans.find? planId = some plan → 0 < plan.maxPurchasePerUser →
      (((purchaseSystem env calls store).run es).db.purchases userId planId : ℤ) ≤
        max (store.purchases userId planId : ℤ) plan.maxPurchasePerUser := by
  have hstart : WithinLimits env store store := fun _ _ _ _ _ => le_max_left _ _
  exact (Sys.run_induction (withinLimits_step env calls store)
    ⟨hstart, fun i => .initial env (calls i)⟩ hmeets).db

end

def utcCalendar : PlanCalendar := .ofZone Calendars.utc

/-- A plan for a month that a user may buy once. -/
def limitedPlan : SubscriptionPlan := ⟨⟨"never", 0⟩, 5, .month, 1, 0, 1, "vip", 1000⟩

def limitedEnv : Env := ⟨⟨[limitedPlan], by decide⟩, utcCalendar⟩

/-- A user with two paid orders of the plan. -/
def orderedStore : Store where
  users := ⟨[⟨1, "default"⟩], by decide⟩
  subs := .empty
  orders := ⟨[⟨"S1", 1, 5, 10, "stripe", .pending, 0, 0, ""⟩,
    ⟨"S2", 1, 5, 10, "stripe", .pending, 0, 0, ""⟩], by decide⟩
  topUps := .empty

def samplePurchases (second : Bool) : PurchaseCall :=
  .completeOrder ⟨1000, 1000⟩ (if second then "S2" else "S1") ""

def purchaseSchedule : List (Event Bool SubscriptionError) :=
  List.replicate 9 (.step false) ++ List.replicate 9 (.step true)

theorem purchases_le_limit_sample : Sys.Meets (StillBelowLimit limitedEnv samplePurchases)
        (purchaseSystem limitedEnv samplePurchases orderedStore) purchaseSchedule ∧
      limitedEnv.plans.find? 5 = some limitedPlan ∧ 0 < limitedPlan.maxPurchasePerUser ∧
      (((purchaseSystem limitedEnv samplePurchases orderedStore).run
        purchaseSchedule).db.purchases 1 5 : ℤ) ≤
        max (orderedStore.purchases 1 5 : ℤ) limitedPlan.maxPurchasePerUser :=
  have hmeets : Sys.Meets (StillBelowLimit limitedEnv samplePurchases)
      (purchaseSystem limitedEnv samplePurchases orderedStore) purchaseSchedule := by decide +kernel
  ⟨hmeets, by decide, by decide,
    purchases_le_limit limitedEnv samplePurchases orderedStore _ hmeets 1 5 limitedPlan
      (by decide) (by decide)⟩

/-- Both purchases count before either inserts: the user ends with two subscriptions of a plan
that may be bought once. -/
theorem bought_twice :
    ((purchaseSystem limitedEnv samplePurchases orderedStore).run
      ([.step false, .step false, .step true, .step true] ++ List.replicate 7 (.step false) ++
        List.replicate 7 (.step true))).db.purchases 1 5 = 2 := by decide +kernel

end Mujian.Subscriptions
