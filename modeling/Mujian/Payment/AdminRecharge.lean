import Mujian.Foundations.Text
import Mujian.Payment.WechatOrder

/-!
# A recharge by an administrator

`createAdminRecharge` inserts an order and credits the user in the same transaction. The insertion
does nothing when the trade number is taken; a retry is recognised by the number of affected rows,
and what a duplicate reports depends on the driver. `adminRecharge_once_iff` says for which drivers
a trade number is credited at most once, and only by a call with the terms of the stored order.

The field `RechargeStore.credits` is not in the source.
-/

namespace Mujian.Payment

/-- The columns of `users` that a recharge reads or writes. -/
structure Account where
  (id role status : ℤ)
  username : String
  quota : ℤ

structure RechargeOrder where
  tradeNo : String
  (userId adminId : ℤ)
  (adminUsername remark : String)
  (amount creditedQuota : ℤ)
  (source paymentMethod : String)
  (createTime completeTime : ℤ)
  status : TopUpStatus
  deriving DecidableEq

instance : Keyed Account ℤ := ⟨Account.id⟩
instance : Keyed RechargeOrder String := ⟨RechargeOrder.tradeNo⟩

structure RechargeStore where
  accounts : Table Account
  orders : Table RechargeOrder
  credits : List RechargeOrder

inductive RechargeError
  | database
  | recordNotFound
  /-- An update of a row without its primary key. -/
  | missingWhereClause | permission | user | conflict | invalidQuota | balanceRange | input
  deriving DecidableEq

abbrev RechargeCode := Code RechargeStore Row RechargeError

/-- What a database and its driver report for an insertion that found a duplicate and did
nothing. -/
structure Driver where
  /-- It counts as an affected row. -/
  countsDuplicate : Bool
  /-- The id of the row that is there is reported as the one inserted last. -/
  reportsExistingID : Bool

def userStatusEnabled : ℤ := 1
def roleAdminUser : ℤ := 10
def roleRootUser : ℤ := 100
def topUpPaymentMethodAdmin : String := "admin"

/-! ## The statements -/

def Account.addQuota (quota : ℤ) (u : Account) : Account := { u with quota := u.quota + quota }

def RechargeOrder.named (username : String) (o : RechargeOrder) : RechargeOrder :=
  { o with adminUsername := username }

namespace RechargeStore

/-- `INSERT INTO top_ups … ON CONFLICT (trade_no) DO NOTHING`. -/
def insertOrder (order : RechargeOrder) (s : RechargeStore) : RechargeStore :=
  { s with orders := s.orders.add order }

/-- `UPDATE top_ups SET admin_username = ? WHERE id = ?`. -/
def setAdminUsername (tradeNo username : String) (s : RechargeStore) : RechargeStore :=
  { s with orders := s.orders.modify tradeNo (.named username) }

def HasRoom (userId quota : ℤ) (s : RechargeStore) : Prop :=
  (s.accounts.find? userId).any fun u => u.quota ≤ 2 ^ 63 - 1 - quota

instance (userId quota : ℤ) (s : RechargeStore) : Decidable (s.HasRoom userId quota) :=
  inferInstanceAs (Decidable (_ = true))

/-- `UPDATE users SET quota = quota + ? WHERE id = ? AND quota <= ?`. -/
def credit (order : RechargeOrder) (s : RechargeStore) : RechargeStore :=
  if s.HasRoom order.userId order.creditedQuota then
    { s with
      accounts := s.accounts.modify order.userId (.addQuota order.creditedQuota)
      credits := order :: s.credits }
  else s

end RechargeStore

/-! ## The calls -/

/-- The request that the order in the database came from is another one. -/
def RechargeOrder.ConflictsWith (order existing : RechargeOrder) : Prop :=
  existing.adminId ≠ order.adminId ∨ existing.userId ≠ order.userId ∨
    existing.amount ≠ order.amount ∨ existing.remark ≠ order.remark ∨
    existing.paymentMethod ≠ topUpPaymentMethodAdmin ∨ existing.status ≠ .success

instance (order existing : RechargeOrder) : Decidable (order.ConflictsWith existing) :=
  inferInstanceAs (Decidable (_ ∨ _))

def findRecharge (order : RechargeOrder) : RechargeCode Bool := do
  let found ← Code.selectForUpdate (.topUp order.tradeNo) fun s => s.orders.find? order.tradeNo
  let existing ← Code.orElse found .recordNotFound
  Code.failIf (order.ConflictsWith existing) .conflict
  Code.done false

def creditRecharge (order : RechargeOrder) (hasID : Bool) (admin user : Account) :
    RechargeCode Bool := do
  Code.failIf (hasID = false) .missingWhereClause
  Code.update [.topUp order.tradeNo]
    (fun s => s.setAdminUsername order.tradeNo admin.username) fun _ => ()
  Code.failIf (order.creditedQuota ≤ 0) .invalidQuota
  let matched ← Code.update [.user user.id] (fun s => s.credit order)
    fun s => decide (s.HasRoom order.userId order.creditedQuota)
  Code.failIf (matched = false) .balanceRange
  Code.done true

/-- The transaction after the insertion. -/
def finishRecharge (driver : Driver) (order : RechargeOrder) (duplicate : Bool) :
    RechargeCode Bool := do
  let found ← Code.select fun s => s.accounts.find? order.adminId
  let admin ← Code.orElse found .recordNotFound
  Code.failIf (admin.status ≠ userStatusEnabled ∨ admin.role < roleAdminUser ∨
    admin.id = order.userId) .permission
  let found ← Code.selectForUpdate (.user order.userId) fun s => s.accounts.find? order.userId
  let user ← Code.orElse found .user
  Code.failIf (admin.role ≠ roleRootUser ∧ user.role ≥ admin.role) .permission
  if duplicate = true ∧ driver.countsDuplicate = false then findRecharge order
  else creditRecharge order (!duplicate || driver.reportsExistingID) admin user

/-- Returns whether the recharge was made by this call. -/
def createAdminRecharge (driver : Driver) (order : RechargeOrder) : RechargeCode Bool := do
  let existing ← Code.update [.topUp order.tradeNo] (fun s => s.insertOrder order)
    fun s => s.orders.find? order.tradeNo
  finishRecharge driver order existing.isSome

structure AdminRechargeRequest where
  credits : ℤ
  remark : String
  /-- The canonical form of the request id, if it parses as a UUID and is not the nil one. -/
  requestID : Option String

def rechargeOrder (adminID userID : ℤ) (request : AdminRechargeRequest) (now : ℤ) :
    Except RechargeError RechargeOrder :=
  match request.requestID with
  | none => .error .input
  | some requestID =>
    if userID ≤ 0 ∨ request.credits < 1 ∨ request.credits > 1000000 ∨
        request.remark.length > 200 then .error .input
    else .ok
      { tradeNo := "admin_" ++ toString adminID ++ "_" ++ requestID
        userId := userID, adminId := adminID
        adminUsername := "", remark := trimSpace request.remark
        amount := request.credits, creditedQuota := walletCreditedQuota request.credits
        source := walletPaymentSource, paymentMethod := topUpPaymentMethodAdmin
        createTime := now, completeTime := now
        status := .success }

/-! ## The journal -/

namespace RechargeStore

def timesCredited (s : RechargeStore) (tradeNo : String) : ℕ :=
  s.credits.countP fun o => o.tradeNo = tradeNo

def creditedTo (s : RechargeStore) (userId : ℤ) : ℤ :=
  ((s.credits.filter fun o => o.userId = userId).map RechargeOrder.creditedQuota).sum

/-- Every balance is the one in `base` plus what the journal says. -/
def Books (base s : RechargeStore) : Prop := ∀ id, (s.accounts.find? id).map Account.quota =
    (base.accounts.find? id).map fun u => u.quota + s.creditedTo id

theorem Books.congr {base s s' : RechargeStore} (h : base.Books s)
    (haccounts : s'.accounts = s.accounts) (hcredits : s'.credits = s.credits) :
    base.Books s' := by
  intro id
  rw [haccounts, h id, creditedTo, creditedTo, hcredits]

theorem credit_of_hasRoom {order : RechargeOrder} {s : RechargeStore}
    (h : s.HasRoom order.userId order.creditedQuota) :
    s.credit order =
      { s with
        accounts := s.accounts.modify order.userId (.addQuota order.creditedQuota)
        credits := order :: s.credits } := if_pos h

@[simp] theorem credit_orders (order : RechargeOrder) (s : RechargeStore) :
    (s.credit order).orders = s.orders := by
  unfold credit
  split <;> rfl

/-- A credit enters the balance and the journal together. -/
theorem Books.credit {base s : RechargeStore} (h : base.Books s) (order : RechargeOrder) :
    base.Books (s.credit order) := by
  by_cases hroom : s.HasRoom order.userId order.creditedQuota
  · rw [credit_of_hasRoom hroom]
    intro id
    have hid := h id
    rw [Table.find?_modify (f := Account.addQuota order.creditedQuota) fun _ => rfl]
    by_cases hu : id = order.userId
    · subst hu
      rw [if_pos rfl]
      cases hs : s.accounts.find? order.userId with
      | none =>
        rw [hs] at hid
        cases hbase : base.accounts.find? order.userId with
        | none => rfl
        | some u₀ => simp [hbase] at hid
      | some u =>
        cases hbase : base.accounts.find? order.userId with
        | none => simp [hs, hbase] at hid
        | some u₀ =>
          simp only [hs, hbase, Option.map_some, Option.some.injEq, creditedTo] at hid
          simp only [Option.map_some, Account.addQuota, creditedTo, decide_true,
            List.filter_cons_of_pos, List.map_cons, List.sum_cons]
          congr 1
          omega
    · rw [if_neg hu, hid]
      simp [creditedTo, Ne.symm hu]
  · rw [RechargeStore.credit, if_neg hroom]
    exact h

end RechargeStore

/-! ## The stages of a call -/

/-- The order without the name of the administrator, which is filled in later. -/
def RechargeOrder.terms (order : RechargeOrder) : RechargeOrder :=
  { order with adminUsername := "" }

/-- What a call has pending before it credits: the order is there, with the terms of the call if
the trade number was free. -/
structure Prepared (order : RechargeOrder) (f : RechargeStore → RechargeStore) : Prop where
  accounts : ∀ s, (f s).accounts = s.accounts
  credits : ∀ s, (f s).credits = s.credits
  terms : ∀ s t, ((f s).orders.find? t).map RechargeOrder.terms =
    if t = order.tradeNo then some ((s.orders.find? t).getD order).terms
    else (s.orders.find? t).map RechargeOrder.terms

section

variable {order : RechargeOrder} {f : RechargeStore → RechargeStore}

theorem prepared_insertOrder (order : RechargeOrder) : Prepared order (.insertOrder order) where
  accounts _ := rfl
  credits _ := rfl
  terms s t := by
    change ((s.orders.add order).find? t).map _ = _
    cases hfind : s.orders.find? order.tradeNo with
    | none =>
      have hadd : (s.orders.add order).find? t =
          if t = order.tradeNo then some order else s.orders.find? t := Table.find?_add hfind t
      rw [hadd]
      by_cases ht : t = order.tradeNo
      · subst ht
        rw [if_pos rfl, if_pos rfl, hfind]
        rfl
      · rw [if_neg ht, if_neg ht]
    | some o =>
      have htaken : s.orders.find? (Keyed.key order) ≠ none := fun hnone =>
        Option.some_ne_none o (hfind.symm.trans hnone)
      rw [Table.add_of_taken htaken]
      split
      · rename_i ht
        rw [ht, hfind]
        rfl
      · rfl

/-- The name of the administrator is not one of the terms. -/
theorem Prepared.setAdminUsername (hf : Prepared order f) (tradeNo username : String) :
    Prepared order fun s => (f s).setAdminUsername tradeNo username where
  accounts := hf.accounts
  credits := hf.credits
  terms s t := by
    refine Eq.trans ?_ (hf.terms s t)
    change (((f s).orders.modify tradeNo (.named username)).find? t).map _ = _
    rw [Table.find?_modify (f := RechargeOrder.named username) fun _ => rfl]
    split
    · rename_i ht
      rw [Option.map_map, ht]
      rfl
    · rfl

end

inductive Ending : RechargeCode Bool → Prop
  | done (created : Bool) : Ending (.commit (.ret created))
  | fail (e : RechargeError) : Ending (.fail e)

/-- The code of a call that has not credited yet, and does so only if `fresh`. -/
inductive Uncredited (order : RechargeOrder) (fresh : Prop) : RechargeCode Bool → Prop
  | ending (code : RechargeCode Bool) (h : Ending code) : Uncredited order fresh code
  | query (k : RechargeStore → RechargeCode Bool) (hk : ∀ v, Uncredited order fresh (k v)) :
      Uncredited order fresh (.query k)
  | lock (row : Row) (k : RechargeStore → RechargeCode Bool)
      (hk : ∀ v, Uncredited order fresh (k v)) : Uncredited order fresh (.lock row k)
  | rename (username : String) (k : RechargeStore → RechargeCode Bool)
      (hk : ∀ v, Uncredited order fresh (k v)) :
      Uncredited order fresh (.write [.topUp order.tradeNo]
        (fun s => s.setAdminUsername order.tradeNo username) k)
  | credit (hfresh : fresh) (rows : List Row) (k : RechargeStore → RechargeCode Bool)
      (hk : ∀ v, Ending (k v)) : Uncredited order fresh (.write rows (fun s => s.credit order) k)

inductive RechargeStage (driver : Driver) (order : RechargeOrder) (db : RechargeStore)
    (held : Row → Prop) : Proc RechargeStore Row RechargeError Bool → Prop
  | start : RechargeStage driver order db held ⟨createAdminRecharge driver order, id, []⟩
  | inserted (code f seen) (hcode : Uncredited order (db.orders.find? order.tradeNo = none) code)
      (hf : Prepared order f) (hheld : held (.topUp order.tradeNo)) :
      RechargeStage driver order db held ⟨code, f, seen⟩
  | credited (code f seen) (hcode : Ending code) (hf : Prepared order f)
      (hheld : held (.topUp order.tradeNo)) (hfresh : db.orders.find? order.tradeNo = none) :
      RechargeStage driver order db held ⟨code, fun s => (f s).credit order, seen⟩
  | returned (created : Bool) (seen) : RechargeStage driver order db held ⟨.ret created, id, seen⟩
  | failed (e : RechargeError) (f seen) : RechargeStage driver order db held ⟨.fail e, f, seen⟩

/-- A duplicate passes for an inserted order. -/
def Driver.HidesDuplicate (driver : Driver) : Prop :=
  driver.countsDuplicate = true ∧ driver.reportsExistingID = true

instance (driver : Driver) : Decidable driver.HidesDuplicate := inferInstanceAs (Decidable (_ ∧ _))

section

variable {driver : Driver} {order : RechargeOrder} {db : RechargeStore} {held : Row → Prop}
  {p : Proc RechargeStore Row RechargeError Bool}

theorem uncredited_findRecharge (order : RechargeOrder) (fresh : Prop) :
    Uncredited order fresh (findRecharge order) := by
  simp only [findRecharge, Code.bind_eq, Code.selectForUpdate_bind]
  refine .lock _ _ fun v => ?_
  cases v.orders.find? order.tradeNo with
  | none => exact .ending _ (.fail _)
  | some existing =>
    simp only [Code.orElse_some_bind, Code.failIf_bind]
    split
    · exact .ending _ (.fail _)
    · exact .ending _ (.done false)

theorem uncredited_creditRecharge {fresh : Prop} {hasID : Bool} (h : hasID = true → fresh)
    (admin user : Account) : Uncredited order fresh (creditRecharge order hasID admin user) := by
  simp only [creditRecharge, Code.bind_eq, Code.failIf_bind, Code.update_bind]
  split
  · exact .ending _ (.fail _)
  rename_i hid
  refine .rename _ _ fun v => ?_
  split
  · exact .ending _ (.fail _)
  refine .credit (h (by simpa using hid)) _ _ fun v => ?_
  split
  · exact .fail _
  · exact .done true

/-- After the insertion a call credits only if the trade number was free, unless the driver hides
a duplicate. -/
theorem uncredited_finishRecharge (hdriver : ¬driver.HidesDuplicate) {duplicate : Bool}
    {fresh : Prop} (hfresh : duplicate = false → fresh) :
    Uncredited order fresh (finishRecharge driver order duplicate) := by
  simp only [finishRecharge, Code.bind_eq, Code.select_bind, Code.selectForUpdate_bind]
  refine .query _ fun v => ?_
  cases v.accounts.find? order.adminId with
  | none => exact .ending _ (.fail _)
  | some admin =>
    simp only [Code.orElse_some_bind, Code.failIf_bind]
    split
    · exact .ending _ (.fail _)
    refine .lock _ _ fun v => ?_
    cases v.accounts.find? order.userId with
    | none => exact .ending _ (.fail _)
    | some user =>
      simp only [Code.orElse_some_bind]
      split
      · exact .ending _ (.fail _)
      split
      · exact uncredited_findRecharge order fresh
      · rename_i hcounted
        refine uncredited_creditRecharge (fun hid => ?_) admin user
        cases duplicate with
        | false => exact hfresh rfl
        | true => exact absurd ⟨by simpa using hcounted, by simpa using hid⟩ hdriver

theorem RechargeStage.next (hdriver : ¬driver.HidesDuplicate)
    (h : RechargeStage driver order db held p) (hcloses : p.closes = false) :
    RechargeStage driver order db (fun row => held row ∨ row ∈ p.needs) (p.next db) := by
  cases h with
  | start =>
    refine .inserted _ _ _ (uncredited_finishRecharge hdriver fun hnone => ?_)
      (prepared_insertOrder order) (.inr (List.mem_singleton_self _))
    exact Option.isSome_eq_false_iff.1 hnone |> Option.isNone_iff_eq_none.1
  | inserted code f seen hcode hf hheld =>
    cases hcode with
    | ending code hend => cases hend <;> cases hcloses
    | query k hk => exact .inserted _ f _ (hk _) hf (.inl hheld)
    | lock row k hk => exact .inserted _ f _ (hk _) hf (.inl hheld)
    | rename username k hk =>
      exact .inserted _ _ _ (hk _) (hf.setAdminUsername _ username) (.inl hheld)
    | credit hfresh rows k hk => exact .credited _ f _ (hk _) hf (.inl hheld) hfresh
  | credited code f seen hcode => cases hcode <;> cases hcloses
  | returned created seen => exact .returned created seen
  | failed => cases hcloses

/-- The stage of a call depends on the database only through the order that it has locked. -/
theorem RechargeStage.congr {db' : RechargeStore} (h : RechargeStage driver order db held p)
    (hfind : held (.topUp order.tradeNo) →
      (db'.orders.find? order.tradeNo = none ↔ db.orders.find? order.tradeNo = none)) :
    RechargeStage driver order db' held p := by
  cases h with
  | start => exact .start
  | inserted code f seen hcode hf hheld =>
    exact .inserted code f seen (propext (hfind hheld) ▸ hcode) hf hheld
  | credited code f seen hcode hf hheld hfresh =>
    exact .credited code f seen hcode hf hheld ((hfind hheld).2 hfresh)
  | returned created seen => exact .returned created seen
  | failed e f seen => exact .failed e f seen

end

/-! ## At most one credit -/

/-- The books are right, no trade number has been credited twice, and one that was credited has an
order with the terms of the call. -/
structure RechargedOnce (base db : RechargeStore) : Prop where
  books : base.Books db
  le_one : ∀ t, db.timesCredited t ≤ 1
  stored : ∀ o ∈ db.credits, (db.orders.find? o.tradeNo).map RechargeOrder.terms = some o.terms

namespace RechargedOnce

variable {base db : RechargeStore} {order : RechargeOrder} {f : RechargeStore → RechargeStore}

section

variable (h : RechargedOnce base db)
include h

theorem prepare (hf : Prepared order f) : RechargedOnce base (f db) where
  books := h.books.congr (hf.accounts db) (hf.credits db)
  le_one t := by
    rw [RechargeStore.timesCredited, hf.credits]
    exact h.le_one t
  stored o ho := by
    rw [hf.credits] at ho
    have hstored := h.stored o ho
    rw [hf.terms]
    split
    · cases hfind : db.orders.find? o.tradeNo with
      | none =>
        rw [hfind] at hstored
        cases hstored
      | some existing =>
        rw [hfind] at hstored
        exact hstored
    · exact hstored

theorem credit (hf : Prepared order f)
    (hfresh : db.orders.find? order.tradeNo = none) : RechargedOnce base ((f db).credit order) := by
  have hprepared := h.prepare hf
  have hzero : (f db).timesCredited order.tradeNo = 0 := by
    rw [RechargeStore.timesCredited, hf.credits]
    refine List.countP_eq_zero.2 fun o ho hno => ?_
    have hstored := h.stored o ho
    rw [of_decide_eq_true hno, hfresh] at hstored
    cases hstored
  by_cases hroom : (f db).HasRoom order.userId order.creditedQuota
  · refine ⟨hprepared.books.credit order, fun t => ?_, fun o ho => ?_⟩
    · rw [RechargeStore.credit_of_hasRoom hroom, RechargeStore.timesCredited, List.countP_cons]
      have hle := hprepared.le_one t
      split
      · rename_i ht
        rw [← of_decide_eq_true ht]
        change (f db).timesCredited order.tradeNo + 1 ≤ 1
        omega
      · exact hle
    · rw [RechargeStore.credit_orders]
      rw [RechargeStore.credit_of_hasRoom hroom] at ho
      rcases List.mem_cons.1 ho with rfl | ho
      · rw [hf.terms, if_pos rfl, hfresh]
        rfl
      · exact hprepared.stored o ho
  · rw [RechargeStore.credit, if_neg hroom]
    exact hprepared

end

end RechargedOnce

section

/-- Any number of calls, with any orders, on a store. -/
def rechargeSystem {ι : Type} (driver : Driver) (orders : ι → RechargeOrder)
    (store : RechargeStore) : Sys ι RechargeStore Row RechargeError Bool :=
  .start store fun i => createAdminRecharge driver (orders i)

variable {ι : Type} {driver : Driver} [DecidableEq ι]

theorem rechargedOnce_step (hdriver : ¬driver.HidesDuplicate) (orders : ι → RechargeOrder)
    (base : RechargeStore) (s : Sys ι RechargeStore Row RechargeError Bool)
    (e : Event ι RechargeError)
    (h : s.Staged (RechargedOnce base) fun i db held => RechargeStage driver (orders i) db held) :
    (s.step e).Staged (RechargedOnce base) fun i db held =>
      RechargeStage driver (orders i) db held := by
  refine @Sys.Staged.step _ _ _ _ _ _ _ (fun _ _ => True) _ _ ?_ ?_ ?_ s e h trivial
  · intro i db held p _ hstage hcloses
    exact hstage.next hdriver hcloses
  · intro i db held p e _
    exact .failed e _ _
  · intro s i k h _ hcode
    -- the commit keeps the stages of the others
    have hothers (db : RechargeStore) (f) (hheld : s.Held i (.topUp (orders i).tradeNo))
        (hf : Prepared (orders i) f) (hdb : db.orders = (f s.db).orders) (j) (hj : j ≠ i) :
        RechargeStage driver (orders j) db (s.Held j) (s.procs j) := by
      refine (h.procs j).congr fun hheld' => ?_
      have hne : (orders j).tradeNo ≠ (orders i).tradeNo :=
        fun heq => hheld'.ne hheld hj (by rw [heq])
      have hterms := hf.terms s.db (orders j).tradeNo
      rw [if_neg hne] at hterms
      rw [hdb, ← Option.map_eq_none_iff, hterms, Option.map_eq_none_iff]
    have hstage := h.procs i
    generalize s.procs i = p at hstage hcode ⊢
    cases hstage with
    | start => cases hcode
    | inserted code f seen huncredited hf hheld =>
      subst hcode
      cases huncredited with
      | ending _ hend =>
        cases hend with
        | done created => exact ⟨h.db.prepare hf, .returned created seen, hothers _ f hheld hf rfl⟩
    | credited code f seen hend hf hheld hfresh =>
      subst hcode
      cases hend with
      | done created =>
        refine ⟨h.db.credit hf hfresh, .returned created seen, hothers _ f hheld hf ?_⟩
        exact RechargeStore.credit_orders _ _
    | returned | failed => cases hcode

theorem rechargedOnce_run (hdriver : ¬driver.HidesDuplicate) (orders : ι → RechargeOrder)
    (store : RechargeStore) (hcredits : store.credits = []) (es : List (Event ι RechargeError)) :
    RechargedOnce store ((rechargeSystem driver orders store).run es).db := by
  have hstart : RechargedOnce store store := by
    refine ⟨fun id => ?_, fun t => ?_, fun o ho => ?_⟩
    · simp [RechargeStore.creditedTo, hcredits]
    · simp [RechargeStore.timesCredited, hcredits]
    · rw [hcredits] at ho
      exact absurd ho List.not_mem_nil
  have hrun : ∀ s : Sys ι RechargeStore Row RechargeError Bool,
      s.Staged (RechargedOnce store) (fun i db held => RechargeStage driver (orders i) db held) →
      (s.run es).Staged (RechargedOnce store) fun i db held =>
        RechargeStage driver (orders i) db held := by
    induction es with
    | nil => exact fun s h => h
    | cons e es ih => exact fun s h => ih _ (rechargedOnce_step hdriver orders store s e h)
  exact (hrun _ ⟨hstart, fun i => .start⟩).db

end

/-! ## Which drivers are safe -/

/-- After every run each trade number was credited at most once, only by a call with the terms of
the stored order, and every balance is the one at the start plus the credits. -/
def CreditsOnce (driver : Driver) : Prop :=
  ∀ (ι : Type) [DecidableEq ι] (orders : ι → RechargeOrder) (store : RechargeStore),
    store.credits = [] → ∀ es : List (Event ι RechargeError),
      let db := ((rechargeSystem driver orders store).run es).db
      (∀ t, db.timesCredited t ≤ 1) ∧
        (∀ o ∈ db.credits, ∃ stored, db.orders.find? o.tradeNo = some stored ∧
          stored.userId = o.userId ∧ stored.amount = o.amount ∧
          stored.creditedQuota = o.creditedQuota) ∧
        store.Books db

def rechargeStore : RechargeStore where
  accounts := ⟨[⟨1, 100, 1, "root", 0⟩, ⟨2, 1, 1, "user", 0⟩], by decide⟩
  orders := .empty
  credits := []

def sampleRecharge : AdminRechargeRequest := ⟨73, "", some "2f1c6a5e-0b1d-4c3f-9a7e-5d2b8c4e6f10"⟩

def sampleTradeNo : String := "admin_1_2f1c6a5e-0b1d-4c3f-9a7e-5d2b8c4e6f10"

def sampleOrders (_ : Bool) : RechargeOrder :=
  { tradeNo := sampleTradeNo
    userId := 2, adminId := 1
    adminUsername := "", remark := ""
    amount := 73, creditedQuota := 500000
    source := "mujian_wallet", paymentMethod := "admin"
    createTime := 5, completeTime := 5
    status := .success }

def rechargeSchedule : List (Event Bool RechargeError) :=
  List.replicate 7 (.step false) ++ List.replicate 7 (.step true)

/-- A driver that reports the duplicate as inserted: one request is credited twice. -/
theorem recharge_credited_twice : rechargeOrder 1 2 sampleRecharge 5 = .ok (sampleOrders true) ∧
      let db := ((rechargeSystem ⟨true, true⟩ sampleOrders rechargeStore).run rechargeSchedule).db
      db.timesCredited sampleTradeNo = 2 ∧
        (db.accounts.find? 2).map Account.quota = some 1000000 := by decide +kernel

/-- With a driver that reports no affected row the retry finds its order. -/
example :
    let s := (rechargeSystem ⟨false, false⟩ sampleOrders rechargeStore).run rechargeSchedule
    s.db.timesCredited sampleTradeNo = 1 ∧ (s.procs true).returned = true := by decide +kernel

/-- **One credit per recharge, by driver.** -/
theorem adminRecharge_once_iff (driver : Driver) : CreditsOnce driver ↔ ¬driver.HidesDuplicate := by
  constructor
  · rintro honce ⟨hcounts, hid⟩
    obtain ⟨_, _⟩ := driver
    subst hcounts hid
    have htwice : ((rechargeSystem ⟨true, true⟩ sampleOrders rechargeStore).run
        rechargeSchedule).db.timesCredited sampleTradeNo = 2 := by decide +kernel
    have hle := (honce Bool sampleOrders rechargeStore rfl rechargeSchedule).1 sampleTradeNo
    omega
  · intro hdriver ι _ orders store hcredits es
    have honce := rechargedOnce_run hdriver orders store hcredits es
    refine ⟨honce.le_one, fun o ho => ?_, honce.books⟩
    obtain ⟨stored, hfind, hterms⟩ := Option.map_eq_some_iff.1 (honce.stored o ho)
    refine ⟨stored, hfind, ?_, ?_, ?_⟩
    · exact (congrArg RechargeOrder.userId hterms :)
    · exact (congrArg RechargeOrder.amount hterms :)
    · exact (congrArg RechargeOrder.creditedQuota hterms :)

end Mujian.Payment
