import Mujian.Billing.Reset
import Mujian.Payment.Schema

/-!
# The subscription tables

The groups of the users, the subscriptions with their upgrade groups, the subscription orders and
the top-up orders that mirror them. A subscription extends the row that billing knows by the columns
on groups. `SubscriptionTable` keeps the next subscription id and the fact that it is fresh.
-/

namespace Mujian.Subscriptions

open Payment (TopUp TopUpStatus)

/-- The columns of `users` that subscriptions touch. -/
structure User where
  id : ℤ
  group : String
  deriving DecidableEq

inductive DurationUnit
  | year | month | day | hour | custom
  | other (text : String)
  deriving DecidableEq

structure SubscriptionPlan extends Billing.SubscriptionPlan where
  id : ℤ
  durationUnit : DurationUnit
  (durationValue customSeconds : ℤ)
  /-- 0 for no limit. -/
  maxPurchasePerUser : ℤ
  /-- The group that a purchase moves the user to; empty for none. -/
  upgradeGroup : String
  totalAmount : ℤ
  deriving DecidableEq

structure UserSubscription extends Billing.UserSubscription where
  (source upgradeGroup prevUserGroup : String)
  deriving DecidableEq

theorem UserSubscription.pos_id (r : UserSubscription) : 0 < r.id := r.id_pos

/-- The columns of a subscription that its purchase determines. -/
structure NewSubscription where
  (userId planId amountTotal startTime endTime : ℤ)
  source : String
  (lastResetTime nextResetTime : ℤ)
  (upgradeGroup prevUserGroup : String)

def NewSubscription.row (new : NewSubscription) (id : ℤ) (hid : 0 < id) : UserSubscription where
  id := id
  userId := new.userId
  planId := new.planId
  amountTotal := new.amountTotal
  amountUsed := 0
  startTime := new.startTime
  endTime := new.endTime
  status := .active
  lastResetTime := new.lastResetTime
  nextResetTime := new.nextResetTime
  resets := 0
  id_pos := hid
  source := new.source
  upgradeGroup := new.upgradeGroup
  prevUserGroup := new.prevUserGroup

structure SubscriptionOrder where
  tradeNo : String
  (userId planId : ℤ)
  money : ℚ
  paymentMethod : String
  status : TopUpStatus
  (createTime completeTime : ℤ)
  providerPayload : String

instance : Keyed User ℤ := ⟨User.id⟩
instance : Keyed SubscriptionPlan ℤ := ⟨SubscriptionPlan.id⟩
instance : Keyed UserSubscription ℤ := ⟨fun r => r.id⟩
instance : Keyed SubscriptionOrder String := ⟨SubscriptionOrder.tradeNo⟩

structure SubscriptionTable extends Table UserSubscription where
  nextId : ℤ
  nextId_pos : 0 < nextId
  lt_nextId : ∀ r ∈ rows, r.id < nextId

namespace SubscriptionTable

def empty : SubscriptionTable := ⟨.empty, 1, by decide, by simp [Table.empty]⟩

def create (t : SubscriptionTable) (new : NewSubscription) : SubscriptionTable where
  rows := new.row t.nextId t.nextId_pos :: t.rows
  nodup_keys := by
    rw [List.map_cons, List.nodup_cons]
    refine ⟨fun hmem => ?_, t.nodup_keys⟩
    obtain ⟨r, hr, hkey⟩ := List.mem_map.1 hmem
    have hid : r.id = t.nextId := hkey
    have := t.lt_nextId r hr
    omega
  nextId := t.nextId + 1
  nextId_pos := by have := t.nextId_pos; omega
  lt_nextId r hr := by
    rcases List.mem_cons.1 hr with rfl | hr
    · exact Int.lt_succ _
    · have := t.lt_nextId r hr
      omega

/-- `UPDATE … SET f WHERE p`, of columns other than the id. -/
def modifyWhere (t : SubscriptionTable) (p : UserSubscription → Bool)
    (f : UserSubscription → UserSubscription) (hf : ∀ r, (f r).id = r.id) : SubscriptionTable where
  toTable := t.toTable.updateWhere p f fun r _ => hf r
  nextId := t.nextId
  nextId_pos := t.nextId_pos
  lt_nextId r hr := by
    obtain ⟨r₀, hr₀, rfl⟩ := List.mem_map.1 hr
    have := t.lt_nextId r₀ hr₀
    split
    · rwa [hf]
    · exact this

/-- `DELETE … WHERE p`. -/
def deleteWhere (t : SubscriptionTable) (p : UserSubscription → Bool) : SubscriptionTable where
  toTable := t.toTable.deleteWhere p
  nextId := t.nextId
  nextId_pos := t.nextId_pos
  lt_nextId r hr := t.lt_nextId r (List.mem_filter.1 hr).1

variable {t : SubscriptionTable} {p : UserSubscription → Bool}
  {f : UserSubscription → UserSubscription} {hf : ∀ r, (f r).id = r.id} {r : UserSubscription}

theorem rows_create (new : NewSubscription) :
    (t.create new).rows = new.row t.nextId t.nextId_pos :: t.rows := rfl

theorem rows_modifyWhere :
    (t.modifyWhere p f hf).rows = t.rows.map fun r => if p r then f r else r := rfl

theorem mem_modifyWhere :
    r ∈ (t.modifyWhere p f hf).rows ↔ ∃ r₀ ∈ t.rows, (if p r₀ then f r₀ else r₀) = r := by
  rw [rows_modifyWhere, List.mem_map]

theorem mem_deleteWhere : r ∈ (t.deleteWhere p).rows ↔ r ∈ t.rows ∧ p r = false := by
  change r ∈ t.rows.filter (fun r => !p r) ↔ _
  rw [List.mem_filter, Bool.not_eq_true']

end SubscriptionTable

structure Store where
  users : Table User
  subs : SubscriptionTable
  orders : Table SubscriptionOrder
  topUps : Table TopUp

/-- The rows that a statement can lock. -/
inductive Row
  | user (id : ℤ)
  | subscription (id : ℤ)
  | order (tradeNo : String)
  | topUp (tradeNo : String)
  deriving DecidableEq

inductive SubscriptionError
  | database | recordNotFound | invalidPlanId | invalidPlan | invalidUserId | groupUserId
  | invalidUserIdOrPlanId | invalidUserSubscriptionId | purchaseLimit | durationValueNotPositive
  | customSecondsNotPositive
  | invalidDurationUnit (unit : String)
  | tradeNoEmpty | orderNotFound | orderStatusInvalid

/-- Processes over the subscription tables. -/
abbrev SubCode := Code Store Row SubscriptionError

namespace Store

section

variable (s : Store) (userId : ℤ)

def purchases (userId planId : ℤ) : ℕ :=
  s.subs.rows.countP fun r => r.userId = userId ∧ r.planId = planId

/-- `SELECT group FROM users WHERE id = ?`, which yields the empty text for an unknown user. -/
def groupOf : String := ((s.users.find? userId).map User.group).getD ""

/-- `UPDATE users SET group = ? WHERE id = ?`. -/
def setGroup (group : String) : Store :=
  { s with users := s.users.update userId (fun u => { u with group := group }) fun _ h => h }

def createSubscription (new : NewSubscription) : Store := { s with subs := s.subs.create new }

end

section

variable (s : Store) (userId : ℤ) (group : String) (new : NewSubscription)

@[simp] theorem setGroup_subs : (s.setGroup userId group).subs = s.subs := rfl

theorem groupOf_setGroup_of_ne {id : ℤ} (h : id ≠ userId) :
    (s.setGroup userId group).groupOf id = s.groupOf id := by
  rw [groupOf, setGroup, Table.find?_update, if_neg h, groupOf]

theorem groupOf_setGroup_self (h : (s.users.find? userId).isSome = true) :
    (s.setGroup userId group).groupOf userId = group := by
  obtain ⟨u, hu⟩ := Option.isSome_iff_exists.1 h
  rw [groupOf, setGroup, Table.find?_update_self hu]
  rfl

theorem isSome_find?_setGroup (id : ℤ) :
    ((s.setGroup userId group).users.find? id).isSome = (s.users.find? id).isSome := by
  rw [setGroup, Table.find?_update]
  split
  · rename_i h
    rw [h, Option.isSome_map]
  · rfl

theorem purchases_createSubscription (userId planId : ℤ) :
    (s.createSubscription new).purchases userId planId = s.purchases userId planId +
        if new.userId = userId ∧ new.planId = planId then 1 else 0 := by
  simp only [purchases, createSubscription, SubscriptionTable.rows_create, List.countP_cons,
    NewSubscription.row, decide_eq_true_eq]

end

end Store

end Mujian.Subscriptions
