import Mujian.Foundations.Table
import Mujian.Foundations.Isolation
import Mathlib.Algebra.Order.Ring.Rat

/-!
# The payment tables

The users, the redemption codes and the top-up orders. Statements name the rows they lock by `Row`.
The field `Store.credits` is not in the source: it is a journal of the additions to balances,
written by the same update that adds to a balance (`Store.credit`).
-/

namespace Mujian.Payment

/-- The columns of `users` that payments touch. -/
structure User where
  (id quota affQuota : ℤ)
  (email stripeCustomer : String)

inductive RedemptionStatus
  | enabled | disabled | used
  deriving DecidableEq

structure Redemption where
  key : String
  status : RedemptionStatus
  (quota redeemedTime usedUserId : ℤ)
  /-- The time from which the code is no longer valid; 0 for none. -/
  expiredTime : ℤ

inductive TopUpStatus
  | pending | success | failed | expired
  deriving DecidableEq

structure TopUp where
  tradeNo : String
  (userId amount : ℤ)
  money : ℚ
  (providerTradeNo paymentMethod source : String)
  (creditedQuota createTime completeTime : ℤ)
  status : TopUpStatus

instance : Keyed User ℤ := ⟨User.id⟩
instance : Keyed Redemption String := ⟨Redemption.key⟩
instance : Keyed TopUp String := ⟨TopUp.tradeNo⟩

inductive CreditSource
  | code (key : String)
  | order (tradeNo : String)
  deriving DecidableEq

/-- An addition to a balance. -/
structure Credit where
  source : CreditSource
  (userId quota : ℤ)

/-- The payment tables and the journal of credits. -/
structure Store where
  users : Table User
  redemptions : Table Redemption
  topUps : Table TopUp
  credits : List Credit

/-- The rows that a statement can lock. -/
inductive Row
  | user (id : ℤ)
  | redemption (key : String)
  | topUp (tradeNo : String)
  deriving DecidableEq

/-- The errors of the payment functions. Functions that log the cause and return a fixed error
carry the logged text. -/
inductive PaymentError
  | database | codeEmpty | userIdZero
  | redeemFailed (logged : String)
  | paymentNoEmpty
  | orderNoEmpty
  | topUpFailed (logged : String)
  | orderMissing | orderNotPending | invalidQuota | topUpUserMissing
  /-- A check on other tables or on the configuration refused, with its own text. -/
  | refused (text : String)
  | creditsOutOfRange
  | creditsStep
  /-- The checkout failed; `saved` says whether the order could be marked as failed. -/
  | checkoutFailed (text : String) (saved : Bool)
  | wechatNoEmpty | wechatInvalidAmount | paymentMethodMismatch | wechatAmountMismatch
  | wechatTransactionMismatch | topUpState | recordNotFound
  /-- The least amount of a transfer, as the text shows it. -/
  | transferTooSmall (least : String)
  | affQuotaInsufficient | negativeQuota | insufficientUserQuota

/-- Processes over the payment tables. -/
abbrev PayCode := Code Store Row PaymentError

/-- Columns of a user that a credit may set on the way. -/
structure UserColumns where
  (email stripeCustomer : Option String := none)

namespace Store

section

variable (s : Store) (topUp : TopUp) (source : CreditSource)

/-- `UPDATE users SET quota = quota + ?, … WHERE id = ?`. An unknown id affects no row. -/
def credit (userId quota : ℤ) (columns : UserColumns) : Store :=
  match s.users.find? userId with
  | none => s
  | some _ =>
    { s with
      users := s.users.update userId (fun u =>
        { u with
          quota := u.quota + quota, email := columns.email.getD u.email
          stripeCustomer := columns.stripeCustomer.getD u.stripeCustomer }) fun _ h => h
      credits := ⟨source, userId, quota⟩ :: s.credits }

/-- `tx.Save(redemption)` on a row that exists: every column is written. -/
def saveRedemption (redemption : Redemption) : Store :=
  { s with
    redemptions := s.redemptions.update redemption.key (fun _ => redemption) fun _ _ => rfl }

/-- `tx.Save(topUp)` on a row that exists: every column is written. -/
def saveTopUp : Store :=
  { s with topUps := s.topUps.update topUp.tradeNo (fun _ => topUp) fun _ _ => rfl }

/-- `topUp.Insert()`, which the unique trade number refuses when the order exists. -/
def insertTopUp : Store :=
  match s.topUps.insert? topUp with
  | none => s
  | some topUps => { s with topUps := topUps }

def timesCredited : ℕ := s.credits.countP fun c => c.source = source

def creditedTo (userId : ℤ) : ℤ :=
  ((s.credits.filter fun c => c.userId = userId).map Credit.quota).sum

end

section

variable (s : Store) (source : CreditSource) (userId quota : ℤ) (columns : UserColumns)
  (redemption : Redemption) (topUp : TopUp)

@[simp] theorem credit_topUps : (s.credit source userId quota columns).topUps = s.topUps := by
  unfold credit
  split <;> rfl

@[simp] theorem credit_redemptions :
    (s.credit source userId quota columns).redemptions = s.redemptions := by
  unfold credit
  split <;> rfl

theorem find?_saveRedemption {r : Redemption} (key : String)
    (h : s.redemptions.find? redemption.key = some r) :
    (s.saveRedemption redemption).redemptions.find? key =
      if key = redemption.key then some redemption else s.redemptions.find? key := by
  rw [saveRedemption, Table.find?_update, h, Option.map_some]

theorem find?_saveTopUp {r : TopUp} (tradeNo : String) (h : s.topUps.find? topUp.tradeNo = some r) :
    (s.saveTopUp topUp).topUps.find? tradeNo =
      if tradeNo = topUp.tradeNo then some topUp else s.topUps.find? tradeNo := by
  rw [saveTopUp, Table.find?_update, h, Option.map_some]

theorem find?_saveTopUp_of_ne {tradeNo : String} (h : tradeNo ≠ topUp.tradeNo) :
    (s.saveTopUp topUp).topUps.find? tradeNo = s.topUps.find? tradeNo := by
  rw [saveTopUp, Table.find?_update, if_neg h]

@[simp] theorem insertTopUp_users : (s.insertTopUp topUp).users = s.users := by
  unfold insertTopUp
  split <;> rfl

@[simp] theorem insertTopUp_credits : (s.insertTopUp topUp).credits = s.credits := by
  unfold insertTopUp
  split <;> rfl

@[simp] theorem timesCredited_insertTopUp :
    (s.insertTopUp topUp).timesCredited source = s.timesCredited source := by
  rw [timesCredited, timesCredited, insertTopUp_credits]

/-- An order that exists stays as it is. -/
theorem find?_insertTopUp (tradeNo : String) : (s.insertTopUp topUp).topUps.find? tradeNo =
      if tradeNo = topUp.tradeNo then some ((s.topUps.find? tradeNo).getD topUp)
      else s.topUps.find? tradeNo := by
  unfold insertTopUp
  cases hins : s.topUps.insert? topUp with
  | some topUps =>
    have hnone : s.topUps.find? topUp.tradeNo = none := (Table.insert?_eq_some_iff.1 hins).1
    have hfind := Table.find?_insert hins tradeNo
    by_cases h : tradeNo = topUp.tradeNo
    · subst h
      simpa [hnone] using hfind.trans (if_pos rfl)
    · rw [if_neg h]
      exact hfind.trans (if_neg h)
  | none =>
    have hsome : s.topUps.find? topUp.tradeNo ≠ none := by
      intro hnone
      rw [Table.insert?, dif_pos (show s.topUps.find? (Keyed.key topUp) = none from hnone)] at hins
      cases hins
    obtain ⟨r, hr⟩ := Option.ne_none_iff_exists'.1 hsome
    by_cases h : tradeNo = topUp.tradeNo
    · subst h
      simp [hr]
    · rw [if_neg h]

theorem timesCredited_credit_of_ne {source' : CreditSource} (h : source' ≠ source) :
    (s.credit source userId quota columns).timesCredited source' = s.timesCredited source' := by
  unfold credit
  split
  · rfl
  · simp [timesCredited, Ne.symm h]

theorem timesCredited_credit_le_one {source' : CreditSource} (hzero : s.timesCredited source = 0)
    (hle : s.timesCredited source' ≤ 1) :
    (s.credit source userId quota columns).timesCredited source' ≤ 1 := by
  by_cases h : source' = source
  · subst h
    have hcredit : (s.credit source' userId quota columns).timesCredited source' ≤
        s.timesCredited source' + 1 := by
      unfold credit
      split
      · omega
      · simp [timesCredited]
    omega
  · rw [timesCredited_credit_of_ne _ _ _ _ _ h]
    exact hle

end

/-- Every balance is the one in `base` plus what the journal says. -/
def Books (base s : Store) : Prop := ∀ id, (s.users.find? id).map User.quota =
    (base.users.find? id).map fun u => u.quota + s.creditedTo id

namespace Books

variable {base s s' : Store}

theorem start (h : base.credits = []) : base.Books base := by
  intro id
  simp [creditedTo, h]

theorem congr (h : base.Books s) (husers : s'.users = s.users)
    (hcredits : s'.credits = s.credits) : base.Books s' := by
  intro id
  rw [husers, h id, creditedTo, creditedTo, hcredits]

/-- A credit enters the balance and the journal together. -/
theorem credit (h : base.Books s) (source : CreditSource) (userId quota : ℤ)
    (columns : UserColumns) : base.Books (s.credit source userId quota columns) := by
  unfold Store.credit
  split
  · exact h
  · rename_i user huser
    intro id
    have hid := h id
    rw [Table.find?_update]
    by_cases hu : id = userId
    · subst hu
      rw [huser] at hid ⊢
      rw [if_pos rfl]
      cases hbase : base.users.find? id with
      | none => simp [hbase] at hid
      | some u₀ =>
        simp only [hbase, Option.map_some, Option.some.injEq, creditedTo] at hid ⊢
        simp only [decide_true, List.filter_cons_of_pos, List.map_cons, List.sum_cons]
        omega
    · rw [if_neg hu, hid]
      simp [creditedTo, Ne.symm hu]

end Books

end Store

end Mujian.Payment
