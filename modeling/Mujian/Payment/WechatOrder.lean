import Mujian.Payment.TopUp

/-!
# A WeChat order of the wallet

An order is inserted as pending, and then the payment provider is asked for a checkout; when that
call fails, the order is marked as failed. A notification of the provider completes an order that is
pending or failed. The call that marks it as failed writes back the row as it was inserted, although
a notification may have completed it in the meantime. The next duplicate then credits it again
(`wechat_credited_twice`, `wechatOrder_at_most_once`).
-/

namespace Mujian.Payment

def quotaPerUSD : ℚ := 500000
def creditsPerUSD : ℚ := 73
def creditsPerCNY : ℚ := 10
def walletMinCredits : ℤ := 10
def walletMaxCredits : ℤ := 10000
def walletCreditStep : ℤ := 10

def wechatPayMethod : String := "wechatpay"
def walletPaymentSource : String := "mujian_wallet"

def walletPaymentAmount (credits : ℤ) : ℚ := divRound 16 (credits : ℚ) creditsPerCNY

def walletCreditedQuota (credits : ℤ) : ℤ :=
  roundHalfAway (divRound 16 (credits * quotaPerUSD) creditsPerUSD)

def validateWalletCredits (credits : ℤ) : Option PaymentError :=
  if credits < walletMinCredits ∨ credits > walletMaxCredits then some .creditsOutOfRange
  else if credits % walletCreditStep ≠ 0 then some .creditsStep
  else none

def TopUp.cents (topUp : TopUp) : ℤ := roundHalfAway (topUp.money * 100)

/-- A call of `CreateWalletPayment`, with what its environment answers. -/
structure WalletPaymentCall where
  (userId credits : ℤ)
  paymentMethod : String
  tradeNo : String
  createTime : ℤ
  /-- The error of `EnsureOnboarded`, which works on other tables. -/
  onboarding : Option String
  /-- Why the payment method is not available. -/
  capability : Option String
  /-- The text under which the checkout fails, if it does. -/
  checkout : Option String

namespace WalletPaymentCall

/-- The order that the call inserts, and keeps in memory. -/
def order (c : WalletPaymentCall) : TopUp where
  tradeNo := c.tradeNo
  userId := c.userId
  amount := c.credits
  money := walletPaymentAmount c.credits
  providerTradeNo := ""
  paymentMethod := c.paymentMethod
  source := walletPaymentSource
  creditedQuota := walletCreditedQuota c.credits
  createTime := c.createTime
  completeTime := 0
  status := .pending

/-- The error with which the call returns before it has written anything. -/
def refusal (c : WalletPaymentCall) : Option PaymentError := (c.onboarding.map .refused).or
    ((validateWalletCredits c.credits).or (c.capability.map .refused))

end WalletPaymentCall

def failWalletOrder (topUp : TopUp) (text : String) : PayCode Unit := do
  -- the row as the caller has it in memory, with every column
  Code.update [.topUp topUp.tradeNo] (fun s => s.saveTopUp { topUp with status := .failed })
    fun _ => ()
  Code.commitTx
  Code.fail (.checkoutFailed text true)

/-- The rest of `CreateWalletPayment` once the order is in the database. -/
def walletCheckout (c : WalletPaymentCall) : PayCode Unit :=
  match c.checkout with
  | none => .ret ()
  | some text => failWalletOrder c.order text

def createWalletPayment (c : WalletPaymentCall) : PayCode Unit :=
  match c.refusal with
  | some e => .fail e
  | none => do
    let existing ← Code.update [.topUp c.tradeNo] (fun s => s.insertTopUp c.order)
      fun s => s.topUps.find? c.tradeNo
    Code.failIf (existing.isSome = true) .database
    Code.commitTx
    walletCheckout c

structure WechatNotification where
  (tradeNo providerTradeNo : String)
  (paidCents completeTime : ℤ)

def WechatNotification.completed (n : WechatNotification) (topUp : TopUp) : TopUp :=
  { topUp with
    status := .success, completeTime := n.completeTime, providerTradeNo := n.providerTradeNo }

def completeWechatPayTopUp (n : WechatNotification) : PayCode Unit := do
  Code.failIf (n.tradeNo = "" ∨ n.providerTradeNo = "") .wechatNoEmpty
  Code.failIf (n.paidCents ≤ 0) .wechatInvalidAmount
  let found ← Code.selectForUpdate (.topUp n.tradeNo) fun s => s.topUps.find? n.tradeNo
  let topUp ← Code.orElse found .orderMissing
  Code.failIf (topUp.paymentMethod ≠ wechatPayMethod ∨ topUp.source ≠ walletPaymentSource)
    .paymentMethodMismatch
  Code.failIf (n.paidCents ≠ topUp.cents) .wechatAmountMismatch
  if topUp.status = .success then
    Code.failIf (topUp.providerTradeNo ≠ "" ∧ topUp.providerTradeNo ≠ n.providerTradeNo)
      .wechatTransactionMismatch
    Code.done ()
  else
    Code.failIf (topUp.status ≠ .pending ∧ topUp.status ≠ .failed) .topUpState
    Code.failIf (topUp.creditedQuota ≤ 0) .invalidQuota
    Code.update [.topUp n.tradeNo] (fun s => s.saveTopUp (n.completed topUp)) fun _ => ()
    let user ← Code.update [.user topUp.userId]
      (fun s => s.credit (.order n.tradeNo) topUp.userId topUp.creditedQuota {})
      fun s => s.users.find? topUp.userId
    Code.failIf (user = none) .topUpUserMissing
    Code.done ()

inductive WalletCall
  | create (c : WalletPaymentCall)
  | notify (n : WechatNotification)

namespace WalletCall

def tradeNo : WalletCall → String
  | create c => c.tradeNo
  | notify n => n.tradeNo

def code : WalletCall → PayCode Unit
  | create c => createWalletPayment c
  | notify n => completeWechatPayTopUp n

def creates : WalletCall → Bool
  | create _ => true
  | notify _ => false

end WalletCall

structure LockedUnpaid (tradeNo : String) (db : Store) (held : Row → Prop) (r : TopUp) : Prop where
  held : held (.topUp tradeNo)
  find : db.topUps.find? tradeNo = some r
  unpaid : r.status ≠ .success

theorem LockedUnpaid.mono {tradeNo : String} {db : Store} {held held' : Row → Prop} {r : TopUp}
    (h : LockedUnpaid tradeNo db held r) (hsub : ∀ row, held row → held' row) :
    LockedUnpaid tradeNo db held' r := ⟨hsub _ h.held, h.find, h.unpaid⟩

inductive WalletStage (db : Store) (held : Row → Prop) :
    WalletCall → Proc Store Row PaymentError Unit → Prop
  | creating (c) (hrefusal : c.refusal = none) :
      WalletStage db held (.create c) ⟨createWalletPayment c, id, []⟩
  | inserting (c seen) (hheld : held (.topUp c.tradeNo)) : WalletStage db held (.create c)
        ⟨.commit (walletCheckout c), fun s => s.insertTopUp c.order, seen⟩
  | inserted (c seen) : WalletStage db held (.create c) ⟨walletCheckout c, id, seen⟩
  | failing (c seen) (e : PaymentError) (hheld : held (.topUp c.tradeNo)) :
      WalletStage db held (.create c)
        ⟨.commit (.fail e), fun s => s.saveTopUp { c.order with status := .failed }, seen⟩
  | notified (n) (hnumbers : ¬(n.tradeNo = "" ∨ n.providerTradeNo = ""))
      (hcents : ¬n.paidCents ≤ 0) :
      WalletStage db held (.notify n) ⟨completeWechatPayTopUp n, id, []⟩
  | found (n seen) (r : TopUp) (k : Store → PayCode Unit)
      (hk : ∀ v, AfterSave n.tradeNo r.userId (k v)) (hlocked : LockedUnpaid n.tradeNo db held r) :
      WalletStage db held (.notify n)
        ⟨.write [.topUp n.tradeNo] (fun s => s.saveTopUp (n.completed r)) k, id, seen⟩
  | saved (n seen) (r : TopUp) (code : PayCode Unit) (hcode : AfterSave n.tradeNo r.userId code)
      (hlocked : LockedUnpaid n.tradeNo db held r) :
      WalletStage db held (.notify n) ⟨code, fun s => s.saveTopUp (n.completed r), seen⟩
  | credited (n seen) (r : TopUp) (quota : ℤ) (columns : UserColumns) (code : PayCode Unit)
      (hcode : Closing code) (hlocked : LockedUnpaid n.tradeNo db held r) :
      WalletStage db held (.notify n) ⟨code, fun s => (s.saveTopUp (n.completed r)).credit
        (.order n.tradeNo) r.userId quota columns, seen⟩
  | skipped (call seen) : WalletStage db held call ⟨.commit (.ret ()), id, seen⟩
  | returned (call seen) : WalletStage db held call ⟨.ret (), id, seen⟩
  | failed (call seen) (e : PaymentError) (pending : Store → Store) :
      WalletStage db held call ⟨.fail e, pending, seen⟩

namespace WalletStage

variable {db : Store} {held : Row → Prop} {call : WalletCall}
  {p : Proc Store Row PaymentError Unit}

theorem initial (db : Store) (held : Row → Prop) (call : WalletCall) :
    WalletStage db held call (.start call.code) := by
  cases call with
  | create c =>
    cases hrefusal : c.refusal with
    | none => exact .creating c hrefusal
    | some e =>
      rw [WalletCall.code, createWalletPayment, hrefusal]
      exact .failed _ _ e _
  | notify n =>
    by_cases hnumbers : n.tradeNo = "" ∨ n.providerTradeNo = ""
    · rw [WalletCall.code, completeWechatPayTopUp, Code.bind_eq, Code.failIf_bind,
        if_pos hnumbers]
      exact .failed _ _ _ _
    · by_cases hcents : n.paidCents ≤ 0
      · simp only [WalletCall.code, completeWechatPayTopUp, Code.bind_eq, Code.failIf_bind,
          if_neg hnumbers, if_pos hcents]
        exact .failed _ _ _ _
      · exact .notified n hnumbers hcents

/-- The insertion, refused when the trade number is taken. -/
theorem createWalletPayment_eq {c : WalletPaymentCall} (hrefusal : c.refusal = none) :
    createWalletPayment c = .write [.topUp c.tradeNo] (fun s => s.insertTopUp c.order) fun s =>
      if (s.topUps.find? c.tradeNo).isSome = true then .fail .database
      else .commit (walletCheckout c) := by
  simp only [createWalletPayment, hrefusal, Code.bind_eq, Code.update_bind, Code.failIf_bind,
    Code.commitTx_bind]

/-- A notification locks an order that it can complete, or it ends. -/
theorem next_notified {n : WechatNotification}
    (hnumbers : ¬(n.tradeNo = "" ∨ n.providerTradeNo = "")) (hcents : ¬n.paidCents ≤ 0) :
    WalletStage db (fun row => held row ∨ row ∈ (Proc.start (completeWechatPayTopUp n)).needs)
      (.notify n) ((Proc.start (completeWechatPayTopUp n)).next db) := by
  simp only [completeWechatPayTopUp, Code.bind_eq, Code.failIf_bind, Code.selectForUpdate_bind,
    Code.update_bind, if_neg hnumbers, if_neg hcents, Proc.start, Proc.next, id_eq]
  cases hfind : db.topUps.find? n.tradeNo with
  | none => exact .failed _ _ _ _
  | some r =>
    simp only [Code.orElse_some_bind]
    split
    · exact .failed _ _ _ _
    split
    · exact .failed _ _ _ _
    by_cases hstatus : r.status = .success
    · rw [if_pos hstatus]
      split
      · exact .failed _ _ _ _
      · exact .skipped _ _
    · rw [if_neg hstatus]
      split
      · exact .failed _ _ _ _
      split
      · exact .failed _ _ _ _
      refine .found n _ r _ (fun _ => .credit _ _ _ fun v => ?_)
        ⟨.inr (List.mem_singleton_self _), hfind, hstatus⟩
      split
      · exact .fail _
      · exact .done

theorem next (h : WalletStage db held call p) (hcloses : p.closes = false) :
    WalletStage db (fun row => held row ∨ row ∈ p.needs) call (p.next db) := by
  cases h with
  | creating c hrefusal =>
    simp only [createWalletPayment_eq hrefusal, Proc.next]
    split
    · exact .failed _ _ _ _
    · exact .inserting c _ (.inr (List.mem_singleton_self _))
  | inserting => cases hcloses
  | inserted c seen =>
    unfold walletCheckout
    cases c.checkout with
    | none => exact .returned _ _
    | some text => exact .failing c _ _ (.inr (List.mem_singleton_self _))
  | failing => cases hcloses
  | notified n hnumbers hcents => exact next_notified hnumbers hcents
  | found n seen r k hk hlocked => exact .saved n _ r _ (hk _) (hlocked.mono fun _ => .inl)
  | saved n seen r code hcode hlocked =>
    cases hcode with
    | fail e => cases hcloses
    | query k hk => exact .saved n _ r _ (hk _) (hlocked.mono fun _ => .inl)
    | credit quota columns k hk =>
      exact .credited n _ r quota columns _ (hk _) (hlocked.mono fun _ => .inl)
  | credited n seen r quota columns code hcode => cases hcode <;> cases hcloses
  | skipped => cases hcloses
  | returned call seen => exact .returned _ seen
  | failed => cases hcloses

/-- The stage of a call depends on the database only through the order that it has locked. -/
theorem congr {db' : Store} (h : WalletStage db held call p) (hfind : held (.topUp call.tradeNo) →
      db'.topUps.find? call.tradeNo = db.topUps.find? call.tradeNo) :
    WalletStage db' held call p := by
  cases h with
  | creating c hrefusal => exact .creating c hrefusal
  | inserting c seen hheld => exact .inserting c seen hheld
  | inserted c seen => exact .inserted c seen
  | failing c seen e hheld => exact .failing c seen e hheld
  | notified n hnumbers hcents => exact .notified n hnumbers hcents
  | found n seen r k hk hlocked =>
    exact .found n seen r k hk ⟨hlocked.held,
      (hfind hlocked.held).trans hlocked.find, hlocked.unpaid⟩
  | saved n seen r code hcode hlocked =>
    exact .saved n seen r code hcode
      ⟨hlocked.held, (hfind hlocked.held).trans hlocked.find, hlocked.unpaid⟩
  | credited n seen r quota columns code hcode hlocked =>
    exact .credited n seen r quota columns code hcode
      ⟨hlocked.held, (hfind hlocked.held).trans hlocked.find, hlocked.unpaid⟩
  | skipped call seen => exact .skipped call seen
  | returned call seen => exact .returned call seen
  | failed call seen e pending => exact .failed call seen e pending

end WalletStage

/-- The order is successful in the database. -/
def Store.IsSuccess (db : Store) (tradeNo : String) : Prop :=
  ∃ r, db.topUps.find? tradeNo = some r ∧ r.status = .success

/-- The books are right, no order has been credited twice, and one that has been credited is
successful. -/
structure CreditedOnce (base db : Store) : Prop where
  books : base.Books db
  le_one : ∀ tradeNo, db.timesCredited (.order tradeNo) ≤ 1
  success : ∀ tradeNo, db.timesCredited (.order tradeNo) ≠ 0 → db.IsSuccess tradeNo

namespace CreditedOnce

variable {base db : Store}

section

variable (h : CreditedOnce base db)
include h

theorem insert (topUp : TopUp) : CreditedOnce base (db.insertTopUp topUp) where
  books := h.books.congr (Store.insertTopUp_users _ _) (Store.insertTopUp_credits _ _)
  le_one tradeNo := by
    rw [Store.timesCredited_insertTopUp]
    exact h.le_one tradeNo
  success tradeNo hcredited := by
    rw [Store.timesCredited_insertTopUp] at hcredited
    obtain ⟨r, hfind, hstatus⟩ := h.success tradeNo hcredited
    refine ⟨r, ?_, hstatus⟩
    rw [Store.find?_insertTopUp, hfind, Option.getD_some, ite_self]

theorem save {topUp : TopUp} (hunpaid : ¬db.IsSuccess topUp.tradeNo) :
    CreditedOnce base (db.saveTopUp topUp) where
  books := h.books.congr rfl rfl
  le_one := h.le_one
  success tradeNo hcredited := by
    obtain ⟨r, hfind, hstatus⟩ := h.success tradeNo hcredited
    have hne : tradeNo ≠ topUp.tradeNo := fun heq => hunpaid (heq ▸ ⟨r, hfind, hstatus⟩)
    exact ⟨r, by rwa [Store.find?_saveTopUp_of_ne _ _ hne], hstatus⟩

theorem complete {topUp r : TopUp}
    (hfind : db.topUps.find? topUp.tradeNo = some r) (hunpaid : r.status ≠ .success)
    (hstatus : topUp.status = .success) (userId quota : ℤ) (columns : UserColumns) :
    CreditedOnce base
      ((db.saveTopUp topUp).credit (.order topUp.tradeNo) userId quota columns) := by
  have hdb : ¬db.IsSuccess topUp.tradeNo := by
    rintro ⟨r', hfind', hstatus'⟩
    obtain rfl := Option.mem_unique hfind hfind'
    exact hunpaid hstatus'
  have hzero : db.timesCredited (.order topUp.tradeNo) = 0 :=
    not_not.1 fun hcredited => hdb (h.success _ hcredited)
  have hsaved := h.save hdb
  refine ⟨hsaved.books.credit _ _ _ _, fun tradeNo => ?_, fun tradeNo hcredited => ?_⟩
  · exact Store.timesCredited_credit_le_one _ _ _ _ _ hzero (hsaved.le_one tradeNo)
  · rw [Store.IsSuccess, Store.credit_topUps]
    by_cases ht : tradeNo = topUp.tradeNo
    · subst ht
      exact ⟨topUp, by rw [Store.find?_saveTopUp _ _ _ hfind, if_pos rfl], hstatus⟩
    · rw [Store.timesCredited_credit_of_ne _ _ _ _ _ (by simpa using ht)] at hcredited
      exact hsaved.success tradeNo hcredited

end

end CreditedOnce

section

variable {ι : Type}

/-- Any number of creations and notifications, of any orders, on a store. -/
def walletSystem (calls : ι → WalletCall) (store : Store) : Sys ι Store Row PaymentError Unit :=
  .start store fun i => (calls i).code

/-- A call that creates an order commits only while the order is not successful in the
database. -/
def StillUnpaid (calls : ι → WalletCall) (s : Sys ι Store Row PaymentError Unit) :
    Event ι PaymentError → Prop
  | .step i => (s.procs i).commits = true → (calls i).creates = true →
      (s.db.topUps.find? (calls i).tradeNo).all (fun r => r.status ≠ .success) = true
  | .abort _ _ => True

instance (calls : ι → WalletCall) (s : Sys ι Store Row PaymentError Unit) :
    ∀ e, Decidable (StillUnpaid calls s e)
  | .step _ => inferInstanceAs (Decidable (_ → _ → _))
  | .abort _ _ => isTrue trivial

variable {calls : ι → WalletCall} {s : Sys ι Store Row PaymentError Unit} {i : ι}

theorem not_isSuccess_of_commit
    (hcond : StillUnpaid calls s (.step i)) (hcommits : (s.procs i).commits = true)
    (hcreates : (calls i).creates = true) : ¬s.db.IsSuccess (calls i).tradeNo := by
  rintro ⟨r, hfind, hstatus⟩
  have hall := hcond hcommits hcreates
  rw [hfind] at hall
  simp [hstatus] at hall

variable [DecidableEq ι]

theorem creditedOnce_step (calls : ι → WalletCall) (base : Store)
    (s : Sys ι Store Row PaymentError Unit) (e : Event ι PaymentError)
    (h : s.Staged (CreditedOnce base) fun i db held => WalletStage db held (calls i))
    (hcond : StillUnpaid calls s e) :
    (s.step e).Staged (CreditedOnce base) fun i db held => WalletStage db held (calls i) := by
  refine Sys.Staged.step ?_ ?_ ?_ s e h hcond
  · intro i db held p _ hstage hcloses
    exact hstage.next hcloses
  · intro i db held p e _
    exact .failed _ _ e _
  · intro s i k h hcond hcode
    have hcommits : (s.procs i).commits = true := by simp [Proc.commits, hcode]
    have hunpaid := not_isSuccess_of_commit hcond hcommits
    -- the commit changes no order but the one that it has locked
    have hothers (db : Store) (hheld : s.Held i (.topUp (calls i).tradeNo))
        (hdb : ∀ t, t ≠ (calls i).tradeNo → db.topUps.find? t = s.db.topUps.find? t) (j)
        (hj : j ≠ i) : WalletStage db (s.Held j) (calls j) (s.procs j) := by
      refine (h.procs j).congr fun hheld' => hdb _ fun heq => hheld'.ne hheld hj ?_
      rw [heq]
    have hstage := h.procs i
    generalize s.procs i = p at hstage hcode ⊢
    generalize calls i = call at hstage hunpaid hothers ⊢
    cases hstage with
    | inserting c seen hheld =>
      obtain rfl := Code.commit.inj hcode
      refine ⟨h.db.insert c.order, .inserted c _, hothers _ hheld fun t ht => ?_⟩
      exact (Store.find?_insertTopUp _ _ t).trans (if_neg ht)
    | failing c seen e hheld =>
      obtain rfl := Code.commit.inj hcode
      refine ⟨h.db.save (hunpaid rfl), .failed _ _ e _, hothers _ hheld fun t ht => ?_⟩
      exact Store.find?_saveTopUp_of_ne _ _ ht
    | credited n seen r quota columns code hclosing hlocked =>
      have htradeNo : (n.completed r).tradeNo = n.tradeNo := Table.key_of_find? hlocked.find
      cases hclosing with
      | fail => cases hcode
      | done =>
        obtain rfl := Code.commit.inj hcode
        refine ⟨?_, .returned _ _, hothers _ hlocked.held fun t ht => ?_⟩
        · have hfind : s.db.topUps.find? (n.completed r).tradeNo = some r := by
            rw [htradeNo]
            exact hlocked.find
          have := h.db.complete hfind hlocked.unpaid rfl r.userId quota columns
          rwa [htradeNo] at this
        · rw [Store.credit_topUps]
          exact Store.find?_saveTopUp_of_ne _ _ (by rwa [htradeNo])
    | skipped call seen =>
      obtain rfl := Code.commit.inj hcode
      exact ⟨h.db, .returned _ _, fun j _ => h.procs j⟩
    | creating c hrefusal =>
      rw [WalletStage.createWalletPayment_eq hrefusal] at hcode
      cases hcode
    | inserted c seen =>
      simp only [walletCheckout] at hcode
      split at hcode <;> cases hcode
    | notified n hnumbers hcents =>
      simp only [completeWechatPayTopUp, Code.bind_eq, Code.failIf_bind, if_neg hnumbers,
        if_neg hcents] at hcode
      cases hcode
    | saved n seen r code hafter => cases hafter <;> cases hcode
    | _ => cases hcode

/-- **One credit per wallet order.** If every creation commits only while its order is not
successful, then every order is credited at most once, one that was credited is successful, and
every balance is the one at the start plus the credits. -/
theorem wechatOrder_at_most_once (calls : ι → WalletCall) (store : Store)
    (hcredits : store.credits = []) (es : List (Event ι PaymentError))
    (hmeets : Sys.Meets (StillUnpaid calls) (walletSystem calls store) es) :
    (∀ tradeNo, ((walletSystem calls store).run es).db.timesCredited (.order tradeNo) ≤ 1 ∧
      (((walletSystem calls store).run es).db.timesCredited (.order tradeNo) ≠ 0 →
        ((walletSystem calls store).run es).db.IsSuccess tradeNo)) ∧
      store.Books ((walletSystem calls store).run es).db := by
  have hnone : ∀ tradeNo, store.timesCredited (.order tradeNo) = 0 := fun _ => by
    simp [Store.timesCredited, hcredits]
  have hstart : CreditedOnce store store :=
    ⟨.start hcredits, fun t => by simp [hnone t], fun t ht => absurd (hnone t) ht⟩
  have h := Sys.run_induction (creditedOnce_step calls store)
    ⟨hstart, fun i => .initial _ _ (calls i)⟩ hmeets
  exact ⟨fun tradeNo => ⟨h.db.le_one tradeNo, h.db.success tradeNo⟩, h.db.books⟩

end

def walletStore : Store := { orderStore with topUps := .empty }

/-- An order of 100 credits whose checkout fails, and a notification that is sent twice. -/
def sampleWallet (i : Fin 3) : WalletCall :=
  if i = 0 then .create ⟨1, 100, "wechatpay", "T1", 5, none, none, some "微信支付下单失败"⟩
  else .notify ⟨"T1", "W1", 1000, 10⟩

def walletSchedule : List (Event (Fin 3) PaymentError) :=
  [.step 0, .step 0, .step 0, .step 0, .step 1, .step 1, .step 1, .step 1, .step 2, .step 2]

theorem wechatOrder_at_most_once_sample : walletStore.credits = [] ∧
      Sys.Meets (StillUnpaid sampleWallet) (walletSystem sampleWallet walletStore)
        walletSchedule ∧
      ((walletSystem sampleWallet walletStore).run walletSchedule).db.timesCredited
        (.order "T1") ≤ 1 :=
  have hmeets : Sys.Meets (StillUnpaid sampleWallet) (walletSystem sampleWallet walletStore)
      walletSchedule := by decide +kernel
  ⟨rfl, hmeets, ((wechatOrder_at_most_once sampleWallet walletStore rfl _ hmeets).1 "T1").1⟩

/-- The first notification comes before the order is marked as failed, the second one after. -/
theorem wechat_credited_twice :
    let first : List (Event (Fin 3) PaymentError) :=
      [.step 0, .step 0, .step 1, .step 1, .step 1, .step 1, .step 0, .step 0]
    let second : List (Event (Fin 3) PaymentError) := [.step 2, .step 2, .step 2, .step 2]
    let s := (walletSystem sampleWallet walletStore).run first
    (s.db.timesCredited (.order "T1") = 1 ∧ s.db.topUps.rows.map TopUp.status = [.failed]) ∧
      (s.run second).db.timesCredited (.order "T1") = 2 := by decide +kernel

end Mujian.Payment
