import Mujian.Payment.Schema
import Mujian.Foundations.Rounding

/-!
# Completing a top-up order

The webhooks of three payment providers and the manual completion by an administrator read a pending
order, save it as successful and credit its user, in one transaction. Only the manual completion
locks the order; the setting `gorm:query_option` of the webhooks has no effect. So a webhook can
save an order that another call has completed since it was read (`credited_twice`,
`topUp_at_most_once`).
-/

namespace Mujian.Payment

/-- The configuration that the quota of an order is computed from. -/
structure PayEnv where
  quotaPerUnit : ℚ
  /-- What adding the floating-point number `money * QuotaPerUnit` to an integer column adds. -/
  stripeQuota : ℚ → ℤ

/-- The ways to complete an order, with their own arguments. -/
inductive TopUpPath
  | recharge (customerId : String)
  | rechargeCreem (customerEmail : String)
  | rechargeWaffo
  | manualComplete
  deriving DecidableEq

structure TopUpCall where
  path : TopUpPath
  tradeNo : String
  completeTime : ℤ

/-- The row of a completed order. -/
def TopUp.completed (topUp : TopUp) (completeTime : ℤ) : TopUp :=
  { topUp with completeTime := completeTime, status := .success }

section

variable (env : PayEnv) (tradeNo : String) (completeTime : ℤ)

def recharge (tradeNo customerId : String) (completeTime : ℤ) : PayCode Unit := do
  Code.failIf (tradeNo = "") .paymentNoEmpty
  -- not a locking read, as in the other webhooks
  let found ← Code.select fun s => s.topUps.find? tradeNo
  let topUp ← Code.orElse found (.topUpFailed "充值订单不存在")
  Code.failIf (topUp.paymentMethod ≠ "stripe") (.topUpFailed "payment method mismatch")
  Code.failIf (topUp.status ≠ .pending) (.topUpFailed "充值订单状态错误")
  Code.update [.topUp tradeNo] (fun s => s.saveTopUp (topUp.completed completeTime)) fun _ => ()
  Code.update [.user topUp.userId]
    (fun s => s.credit (.order tradeNo) topUp.userId (env.stripeQuota topUp.money)
      { stripeCustomer := some customerId }) fun _ => ()
  Code.done ()

def rechargeCreem (tradeNo customerEmail : String) (completeTime : ℤ) : PayCode Unit := do
  Code.failIf (tradeNo = "") .paymentNoEmpty
  let found ← Code.select fun s => s.topUps.find? tradeNo
  let topUp ← Code.orElse found (.topUpFailed "充值订单不存在")
  Code.failIf (topUp.paymentMethod ≠ "creem") (.topUpFailed "payment method mismatch")
  Code.failIf (topUp.status ≠ .pending) (.topUpFailed "充值订单状态错误")
  Code.update [.topUp tradeNo] (fun s => s.saveTopUp (topUp.completed completeTime)) fun _ => ()
  let creditUser (columns : UserColumns) : PayCode Unit := do
    Code.update [.user topUp.userId]
      (fun s => s.credit (.order tradeNo) topUp.userId topUp.amount columns) fun _ => ()
    Code.done ()
  if customerEmail = "" then creditUser {}
  else
    let user ← Code.select fun s => s.users.find? topUp.userId
    let user ← Code.orElse user (.topUpFailed "record not found")
    -- an address is only filled in where there is none
    creditUser (if user.email = "" then { email := some customerEmail } else {})

def rechargeWaffo : PayCode Unit := do
  Code.failIf (tradeNo = "") .paymentNoEmpty
  let found ← Code.select fun s => s.topUps.find? tradeNo
  let topUp ← Code.orElse found (.topUpFailed "充值订单不存在")
  Code.failIf (topUp.paymentMethod ≠ "waffo") (.topUpFailed "payment method mismatch")
  if topUp.status = .success then Code.done ()
  else
    Code.failIf (topUp.status ≠ .pending) (.topUpFailed "充值订单状态错误")
    let quotaToAdd := truncate (topUp.amount * env.quotaPerUnit)
    Code.failIf (quotaToAdd ≤ 0) (.topUpFailed "无效的充值额度")
    Code.update [.topUp tradeNo] (fun s => s.saveTopUp (topUp.completed completeTime)) fun _ => ()
    Code.update [.user topUp.userId]
      (fun s => s.credit (.order tradeNo) topUp.userId quotaToAdd {}) fun _ => ()
    Code.done ()

/-- The quota of an order that is completed by hand. -/
def manualQuota (topUp : TopUp) : ℤ :=
  if topUp.creditedQuota > 0 then topUp.creditedQuota
  else if topUp.paymentMethod = "stripe" then truncate (topUp.money * env.quotaPerUnit)
  else truncate (topUp.amount * env.quotaPerUnit)

def manualCompleteTopUp : PayCode Unit := do
  Code.failIf (tradeNo = "") .orderNoEmpty
  let found ← Code.selectForUpdate (.topUp tradeNo) fun s => s.topUps.find? tradeNo
  let topUp ← Code.orElse found .orderMissing
  if topUp.status = .success then Code.done ()
  else
    Code.failIf (topUp.status ≠ .pending) .orderNotPending
    Code.failIf (manualQuota env topUp ≤ 0) .invalidQuota
    Code.update [.topUp tradeNo] (fun s => s.saveTopUp (topUp.completed completeTime)) fun _ => ()
    let user ← Code.update [.user topUp.userId]
      (fun s => s.credit (.order tradeNo) topUp.userId (manualQuota env topUp) {})
      fun s => s.users.find? topUp.userId
    Code.failIf (user = none) .topUpUserMissing
    Code.done ()

end

namespace TopUpCall

def code (env : PayEnv) (c : TopUpCall) : PayCode Unit :=
  match c.path with
  | .recharge customerId => recharge env c.tradeNo customerId c.completeTime
  | .rechargeCreem customerEmail => rechargeCreem c.tradeNo customerEmail c.completeTime
  | .rechargeWaffo => rechargeWaffo env c.tradeNo c.completeTime
  | .manualComplete => manualCompleteTopUp env c.tradeNo c.completeTime

/-- The first statement of a call is a query. -/
theorem code_ne_commit (env : PayEnv) {c : TopUpCall} (htradeNo : c.tradeNo ≠ "")
    (k : PayCode Unit) : c.code env ≠ .commit k := by
  unfold code
  split <;> simp [recharge, rechargeCreem, rechargeWaffo, manualCompleteTopUp, Code.bind_eq,
    Code.failIf_bind, Code.select_bind, Code.selectForUpdate_bind, htradeNo]

def locks (c : TopUpCall) : Bool := c.path = .manualComplete

end TopUpCall

inductive Closing : PayCode Unit → Prop
  | done : Closing (.commit (.ret ()))
  | fail (e : PaymentError) : Closing (.fail e)

inductive AfterSave (tradeNo : String) (userId : ℤ) : PayCode Unit → Prop
  | fail (e : PaymentError) : AfterSave tradeNo userId (.fail e)
  | query (k : Store → PayCode Unit) (hk : ∀ v, AfterSave tradeNo userId (k v)) :
      AfterSave tradeNo userId (.query k)
  | credit (quota : ℤ) (columns : UserColumns) (k : Store → PayCode Unit)
      (hk : ∀ v, Closing (k v)) :
      AfterSave tradeNo userId (.write [.user userId]
        (fun s => s.credit (.order tradeNo) userId quota columns) k)

/-- The first statement found the pending order `r`. -/
def ReadPending (tradeNo : String) (r : TopUp) (seen : List Store) : Prop :=
  ∃ v, seen.getLast? = some v ∧ v.topUps.find? tradeNo = some r ∧ r.status = .pending

theorem ReadPending.cons {tradeNo : String} {r : TopUp} {seen : List Store}
    (h : ReadPending tradeNo r seen) (v : Store) : ReadPending tradeNo r (v :: seen) := by
  obtain ⟨v₀, hlast, hfind⟩ := h
  exact ⟨v₀, by rw [List.getLast?_cons, hlast]; rfl, hfind⟩

/-- The order is pending in the database. -/
def Store.IsPending (db : Store) (tradeNo : String) : Prop :=
  ∃ r, db.topUps.find? tradeNo = some r ∧ r.status = .pending

def TopUpCall.Guards (c : TopUpCall) (db : Store) (held : Row → Prop) : Prop :=
  c.locks = true → held (.topUp c.tradeNo) ∧ db.IsPending c.tradeNo

theorem TopUpCall.Guards.mono {c : TopUpCall} {db : Store} {held held' : Row → Prop}
    (h : c.Guards db held) (hsub : ∀ row, held row → held' row) : c.Guards db held' :=
  fun hlocks => ⟨hsub _ (h hlocks).1, (h hlocks).2⟩

/-- Before a call has read the order; with the pending order `r`, before the save, before the credit
and before the commit; and at the end. -/
inductive TopUpStage (env : PayEnv) (c : TopUpCall) (db : Store) (held : Row → Prop) :
    Proc Store Row PaymentError Unit → Prop
  | start (htradeNo : c.tradeNo ≠ "") : TopUpStage env c db held ⟨c.code env, id, []⟩
  | found (r : TopUp) (k : Store → PayCode Unit) (seen)
      (hk : ∀ v, AfterSave c.tradeNo r.userId (k v)) (hread : ReadPending c.tradeNo r seen)
      (hguards : c.Guards db held) :
      TopUpStage env c db held ⟨.write [.topUp c.tradeNo]
        (fun s => s.saveTopUp (r.completed c.completeTime)) k, id, seen⟩
  | saved (r : TopUp) (code : PayCode Unit) (seen) (hcode : AfterSave c.tradeNo r.userId code)
      (hread : ReadPending c.tradeNo r seen) (hguards : c.Guards db held)
      (hheld : held (.topUp c.tradeNo)) :
      TopUpStage env c db held
        ⟨code, fun s => s.saveTopUp (r.completed c.completeTime), seen⟩
  | credited (r : TopUp) (quota : ℤ) (columns : UserColumns) (code : PayCode Unit) (seen)
      (hcode : Closing code) (hread : ReadPending c.tradeNo r seen) (hguards : c.Guards db held)
      (hheld : held (.topUp c.tradeNo)) :
      TopUpStage env c db held ⟨code, fun s => (s.saveTopUp (r.completed c.completeTime)).credit
        (.order c.tradeNo) r.userId quota columns, seen⟩
  | skipped (seen) : TopUpStage env c db held ⟨.commit (.ret ()), id, seen⟩
  | returned (seen) : TopUpStage env c db held ⟨.ret (), id, seen⟩
  | failed (e : PaymentError) (seen) : TopUpStage env c db held ⟨.fail e, id, seen⟩

namespace TopUpStage

variable {env : PayEnv} {c : TopUpCall} {db : Store} {held : Row → Prop}
  {p : Proc Store Row PaymentError Unit}

theorem initial (env : PayEnv) (c : TopUpCall) (db : Store) (held : Row → Prop) :
    TopUpStage env c db held (.start (c.code env)) := by
  by_cases htradeNo : c.tradeNo = ""
  · have hfail : ∃ e, c.code env = .fail e := by
      unfold TopUpCall.code
      split <;> exact ⟨_, by
        simp only [recharge, rechargeCreem, rechargeWaffo, manualCompleteTopUp, Code.bind_eq,
          Code.failIf_bind, if_pos htradeNo]; rfl⟩
    obtain ⟨e, he⟩ := hfail
    rw [he]
    exact .failed e _
  · exact .start htradeNo

/-- The first statement finds a pending order, or the call ends. -/
theorem next_start (htradeNo : c.tradeNo ≠ "") (db : Store) :
    TopUpStage env c db (fun row => held row ∨ row ∈ (Proc.start (c.code env)).needs)
      ((Proc.start (c.code env)).next db) := by
  obtain ⟨path, tradeNo, completeTime⟩ := c
  replace htradeNo : tradeNo ≠ "" := htradeNo
  cases path <;>
    simp only [TopUpCall.code, recharge, rechargeCreem, rechargeWaffo, manualCompleteTopUp,
      Code.bind_eq, Code.failIf_bind, Code.select_bind, Code.selectForUpdate_bind, Code.update_bind,
      if_neg htradeNo, Proc.start, Proc.next, id_eq] <;>
    cases hfind : db.topUps.find? tradeNo
  case recharge.none | rechargeCreem.none | rechargeWaffo.none | manualComplete.none =>
    exact .failed _ _
  case rechargeCreem.some r =>
    simp only [Code.orElse_some_bind]
    by_cases hmethod : r.paymentMethod = "creem"
    · by_cases hstatus : r.status = .pending
      · rw [if_neg (not_not.2 hmethod), if_neg (not_not.2 hstatus)]
        refine .found r _ _ (fun _ => ?_) ⟨db, rfl, hfind, hstatus⟩ (fun h => by cases h)
        split
        · exact .credit _ _ _ fun _ => .done
        · refine .query _ fun v => ?_
          cases v.users.find? r.userId with
          | none => exact .fail _
          | some user => exact .credit _ _ _ fun _ => .done
      · rw [if_neg (not_not.2 hmethod), if_pos hstatus]
        exact .failed _ _
    · rw [if_pos hmethod]
      exact .failed _ _
  all_goals
    rename_i r
    simp only [Code.orElse_some_bind]
    split
  case recharge.some.isTrue | rechargeWaffo.some.isTrue => exact .failed _ _
  case manualComplete.some.isTrue => exact .skipped _
  all_goals split
  case recharge.some.isFalse.isFalse hstatus =>
    exact .found r _ _ (fun _ => .credit _ _ _ fun _ => .done)
      ⟨db, rfl, hfind, not_not.1 hstatus⟩ (fun h => by cases h)
  case rechargeWaffo.some.isFalse.isTrue => exact .skipped _
  case rechargeWaffo.some.isFalse.isFalse =>
    split
    · exact .failed _ _
    split
    · exact .failed _ _
    · rename_i hstatus _
      exact .found r _ _ (fun _ => .credit _ _ _ fun _ => .done)
        ⟨db, rfl, hfind, not_not.1 hstatus⟩ (fun h => by cases h)
  case manualComplete.some.isFalse.isFalse hstatus =>
    split
    · exact .failed _ _
    · refine .found r _ _ (fun _ => .credit _ _ _ fun v => ?_)
        ⟨db, rfl, hfind, not_not.1 hstatus⟩
        fun _ => ⟨.inr (List.mem_singleton_self _), r, hfind, not_not.1 hstatus⟩
      split
      · exact .fail _
      · exact .done
  all_goals exact .failed _ _

theorem next (h : TopUpStage env c db held p) (hcloses : p.closes = false) :
    TopUpStage env c db (fun row => held row ∨ row ∈ p.needs) (p.next db) := by
  cases h with
  | start htradeNo => exact next_start htradeNo db
  | found r k seen hk hread hguards =>
    exact .saved r _ _ (hk _) (hread.cons _) (hguards.mono fun _ => .inl)
      (.inr (List.mem_singleton_self _))
  | saved r code seen hcode hread hguards hheld =>
    cases hcode with
    | fail e => cases hcloses
    | query k hk =>
      exact .saved r _ _ (hk _) (hread.cons _) (hguards.mono fun _ => .inl) (.inl hheld)
    | credit quota columns k hk =>
      exact .credited r quota columns _ _ (hk _) (hread.cons _) (hguards.mono fun _ => .inl)
        (.inl hheld)
  | credited r quota columns code seen hcode => cases hcode <;> cases hcloses
  | skipped => cases hcloses
  | returned seen => exact .returned seen
  | failed => cases hcloses

/-- The stage of a call depends on the database only through the order that it has locked. -/
theorem congr {db' : Store} (h : TopUpStage env c db held p)
    (hfind : held (.topUp c.tradeNo) → db'.topUps.find? c.tradeNo = db.topUps.find? c.tradeNo) :
    TopUpStage env c db' held p := by
  have hguards : c.Guards db held → c.Guards db' held := by
    intro hguards hlocks
    obtain ⟨hheld, hpending⟩ := hguards hlocks
    refine ⟨hheld, ?_⟩
    rwa [Store.IsPending, hfind hheld]
  cases h with
  | start htradeNo => exact .start htradeNo
  | found r k seen hk hread h => exact .found r k seen hk hread (hguards h)
  | saved r code seen hcode hread h hheld => exact .saved r code seen hcode hread (hguards h) hheld
  | credited r quota columns code seen hcode hread h hheld =>
    exact .credited r quota columns code seen hcode hread (hguards h) hheld
  | skipped seen => exact .skipped seen
  | returned seen => exact .returned seen
  | failed e seen => exact .failed e seen

end TopUpStage

/-- The books are right, no order has been credited twice, and one that is pending has not been
credited. -/
structure CompletedOnce (base db : Store) : Prop where
  books : base.Books db
  le_one : ∀ tradeNo, db.timesCredited (.order tradeNo) ≤ 1
  pending : ∀ tradeNo, db.IsPending tradeNo → db.timesCredited (.order tradeNo) = 0

theorem CompletedOnce.complete {base db : Store} (h : CompletedOnce base db) {r : TopUp}
    (hpending : db.IsPending r.tradeNo) (hstatus : r.status = .success) (userId quota : ℤ)
    (columns : UserColumns) :
    CompletedOnce base ((db.saveTopUp r).credit (.order r.tradeNo) userId quota columns) where
  books := by
    have hsaved : base.Books (db.saveTopUp r) := h.books.congr rfl rfl
    exact hsaved.credit _ _ _ _
  le_one tradeNo := by
    have hzero : (db.saveTopUp r).timesCredited (.order r.tradeNo) = 0 := h.pending _ hpending
    exact Store.timesCredited_credit_le_one _ _ _ _ _ hzero (h.le_one tradeNo)
  pending tradeNo hpending' := by
    obtain ⟨r', hfind', hstatus'⟩ := hpending'
    obtain ⟨r₀, hfind, -⟩ := hpending
    rw [Store.credit_topUps, Store.find?_saveTopUp _ _ _ hfind] at hfind'
    split at hfind'
    · obtain rfl := Option.some.inj hfind'
      rw [hstatus] at hstatus'
      cases hstatus'
    · rename_i ht
      rw [Store.timesCredited_credit_of_ne _ _ _ _ _ (by simpa using ht)]
      exact h.pending tradeNo ⟨r', hfind', hstatus'⟩

section

variable {ι : Type}

/-- Any number of completions, of any orders, on a store. -/
def topUpSystem (env : PayEnv) (calls : ι → TopUpCall) (store : Store) :
    Sys ι Store Row PaymentError Unit :=
  .start store fun i => (calls i).code env

/-- A webhook that has read its order as pending commits while the order is still pending in the
database. -/
def StillPending (calls : ι → TopUpCall) (s : Sys ι Store Row PaymentError Unit) :
    Event ι PaymentError → Prop
  | .step i => (s.procs i).commits = true → (calls i).locks = false →
      ((s.procs i).firstSeen.bind fun v => v.topUps.find? (calls i).tradeNo).any
        (fun r => r.status = .pending) = true →
      (s.db.topUps.find? (calls i).tradeNo).any (fun r => r.status = .pending) = true
  | .abort _ _ => True

instance (calls : ι → TopUpCall) (s : Sys ι Store Row PaymentError Unit) :
    ∀ e, Decidable (StillPending calls s e)
  | .step _ => inferInstanceAs (Decidable (_ → _ → _ → _))
  | .abort _ _ => isTrue trivial

/-- A call that is about to commit its credit finds the order pending. -/
theorem isPending_of_commit {calls : ι → TopUpCall} {s : Sys ι Store Row PaymentError Unit}
    {i : ι} {r : TopUp} (hcond : StillPending calls s (.step i))
    (hcommits : (s.procs i).commits = true)
    (hread : ReadPending (calls i).tradeNo r (s.procs i).seen)
    (hguards : (calls i).Guards s.db (s.Held i)) : s.db.IsPending (calls i).tradeNo := by
  cases hlocks : (calls i).locks with
  | true => exact (hguards hlocks).2
  | false =>
    obtain ⟨v, hlast, hfind, hstatus⟩ := hread
    have hseen : ((s.procs i).firstSeen.bind fun v => v.topUps.find? (calls i).tradeNo).any
        (fun r => r.status = .pending) = true := by simp [Proc.firstSeen, hlast, hfind, hstatus]
    obtain ⟨r', hfind', hstatus'⟩ := (Option.any_eq_true _ _).1 (hcond hcommits hlocks hseen)
    exact ⟨r', hfind', by simpa using hstatus'⟩

variable [DecidableEq ι]

theorem completedOnce_step (env : PayEnv) (calls : ι → TopUpCall) (base : Store)
    (s : Sys ι Store Row PaymentError Unit) (e : Event ι PaymentError)
    (h : s.Staged (CompletedOnce base) fun i => TopUpStage env (calls i))
    (hcond : StillPending calls s e) :
    (s.step e).Staged (CompletedOnce base) fun i => TopUpStage env (calls i) := by
  refine Sys.Staged.step ?_ ?_ ?_ s e h hcond
  · intro i db held p _ hstage hcloses
    exact hstage.next hcloses
  · intro i db held p e _
    exact .failed e _
  · intro s i k h hcond hcode
    have hcommits : (s.procs i).commits = true := by simp [Proc.commits, hcode]
    have hpending := fun r => @isPending_of_commit _ calls s i r hcond hcommits
    have hstage := h.procs i
    generalize s.procs i = p at hstage hcode hpending ⊢
    cases hstage with
    | credited r quota columns code seen hclosing hread hguards hheld =>
      obtain ⟨v, -, hfind, -⟩ := id hread
      have htradeNo : (r.completed (calls i).completeTime).tradeNo = (calls i).tradeNo :=
        Table.key_of_find? hfind
      have hdb : s.db.IsPending (r.completed (calls i).completeTime).tradeNo := by
        rw [htradeNo]
        exact hpending r hread hguards
      cases hclosing with
      | fail => cases hcode
      | done =>
        obtain rfl := Code.commit.inj hcode
        refine ⟨?_, .returned _, fun j hj => (h.procs j).congr fun hheld' => ?_⟩
        · have := h.db.complete hdb rfl r.userId quota columns
          rwa [htradeNo] at this
        · -- the order that `j` has locked is another one than the order that `i` holds
          rw [Store.credit_topUps]
          refine Store.find?_saveTopUp_of_ne _ _ fun heq => hheld'.ne hheld hj ?_
          rw [heq, htradeNo]
    | skipped seen =>
      obtain rfl := Code.commit.inj hcode
      exact ⟨h.db, .returned _, fun j _ => h.procs j⟩
    | start htradeNo => exact absurd hcode (TopUpCall.code_ne_commit env htradeNo _)
    | saved r code seen hafter => cases hafter <;> cases hcode
    | _ => cases hcode

/-- **One credit per order.** If every webhook that has read its order as pending commits while it
is still pending, then no order is credited twice, and every balance is the one at the start plus
the credits. -/
theorem topUp_at_most_once (env : PayEnv) (calls : ι → TopUpCall) (store : Store)
    (hcredits : store.credits = []) (es : List (Event ι PaymentError))
    (hmeets : Sys.Meets (StillPending calls) (topUpSystem env calls store) es) :
    (∀ tradeNo, ((topUpSystem env calls store).run es).db.timesCredited (.order tradeNo) ≤ 1) ∧
      store.Books ((topUpSystem env calls store).run es).db := by
  have hstart : CompletedOnce store store :=
    ⟨.start hcredits, fun _ => by simp [Store.timesCredited, hcredits],
      fun _ _ => by simp [Store.timesCredited, hcredits]⟩
  have h := Sys.run_induction (completedOnce_step env calls store)
    ⟨hstart, fun i => .initial env (calls i) _ _⟩ hmeets
  exact ⟨h.db.le_one, h.db.books⟩

end

def sampleEnv : PayEnv := ⟨100, fun _ => 100⟩

def orderStore : Store where
  users := ⟨[⟨1, 0, 0, "", ""⟩], by decide⟩
  redemptions := .empty
  topUps := ⟨[⟨"T1", 1, 1, 1, "", "stripe", "", 100, 0, 0, .pending⟩], by decide⟩
  credits := []

def sampleTopUp (webhook : Bool) : TopUpCall :=
  if webhook then ⟨.recharge "cus", "T1", 10⟩ else ⟨.manualComplete, "T1", 10⟩

/-- The webhook comes first; the completion by hand waits for the row and then finds the order
completed. -/
def sampleSchedule : List (Event Bool PaymentError) :=
  [.step true, .step true, .step false, .step true, .step true, .step false, .step false]

theorem topUp_at_most_once_sample : orderStore.credits = [] ∧
      Sys.Meets (StillPending sampleTopUp) (topUpSystem sampleEnv sampleTopUp orderStore)
        sampleSchedule ∧
      ((topUpSystem sampleEnv sampleTopUp orderStore).run sampleSchedule).db.timesCredited
        (.order "T1") ≤ 1 :=
  have hmeets : Sys.Meets (StillPending sampleTopUp)
      (topUpSystem sampleEnv sampleTopUp orderStore) sampleSchedule := by decide
  ⟨rfl, hmeets, (topUp_at_most_once sampleEnv sampleTopUp orderStore rfl _ hmeets).1 "T1"⟩

/-- The webhook has read the order when it is completed by hand, and then credits it again. -/
theorem credited_twice :
    let db := ((topUpSystem sampleEnv sampleTopUp orderStore).run
      [.step true, .step false, .step false, .step false, .step false, .step true, .step true,
        .step true]).db
    db.timesCredited (.order "T1") = 2 ∧ db.users.rows.map User.quota = [200] := by decide

end Mujian.Payment
