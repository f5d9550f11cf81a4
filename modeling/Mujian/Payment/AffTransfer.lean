import Mujian.Payment.Schema

/-!
# Transferring the affiliate quota

`transferAffQuotaToQuota` reads the row of the user, moves an amount from the affiliate quota to the
quota and writes the whole row back; the lock that its comment speaks of has no effect. The other
changes of a quota are relative updates, and one that is committed in between is overwritten
(`increase_lost`). `transfer_loses_nothing` says what remains true.
-/

namespace Mujian.Payment

structure TransferEnv where
  /-- `common.QuotaPerUnit`, the least amount of a transfer. -/
  quotaPerUnit : ℚ
  /-- The same amount as it is displayed. -/
  leastText : String

/-- A call that changes a user's amounts. -/
inductive QuotaCall
  | transfer (userId quota : ℤ)
  | increase (userId quota : ℤ)
  | decrease (userId quota : ℤ)
  | decreaseIfEnough (userId quota : ℤ)

namespace Store

section

variable (s : Store) (userId quota : ℤ)

/-- `tx.Save(user)` on a row that exists: every column is written. -/
def saveUser (user : User) : Store :=
  { s with users := s.users.update user.id (fun _ => user) fun _ _ => rfl }

/-- `UPDATE users SET quota = quota + ? WHERE id = ?`. -/
def addQuota : Store :=
  { s with
    users := s.users.update userId (fun u => { u with quota := u.quota + quota }) fun _ h => h }

/-- `UPDATE users SET quota = quota - ? WHERE id = ? AND quota >= ?`. -/
def subQuotaIfEnough : Store :=
  { s with
    users := s.users.update userId
      (fun u => { u with quota := if quota ≤ u.quota then u.quota - quota else u.quota })
      fun _ h => h }

def total (userId : ℤ) : ℤ := ((s.users.find? userId).map fun u => u.quota + u.affQuota).getD 0

end

end Store

def User.transferred (user : User) (quota : ℤ) : User :=
  { user with affQuota := user.affQuota - quota, quota := user.quota + quota }

def transferAffQuotaToQuota (env : TransferEnv) (userId quota : ℤ) : PayCode Unit := do
  Code.failIf ((quota : ℚ) < env.quotaPerUnit) (.transferTooSmall env.leastText)
  -- not a locking read: the option "FOR UPDATE" set here has no effect
  let found ← Code.select fun s => s.users.find? userId
  let user ← Code.orElse found .recordNotFound
  Code.failIf (user.affQuota < quota) .affQuotaInsufficient
  Code.update [.user userId] (fun s => s.saveUser (user.transferred quota)) fun _ => ()
  Code.done ()

section

variable (userId quota : ℤ)

def increaseUserQuota : PayCode Unit := do
  Code.failIf (quota < 0) .negativeQuota
  Code.update [.user userId] (fun s => s.addQuota userId quota) fun _ => ()
  Code.done ()

def decreaseUserQuota : PayCode Unit := do
  Code.failIf (quota < 0) .negativeQuota
  Code.update [.user userId] (fun s => s.addQuota userId (-quota)) fun _ => ()
  Code.done ()

def decreaseUserQuotaIfEnough : PayCode Unit := do
  Code.failIf (quota < 0) .negativeQuota
  if quota = 0 then Code.ret ()
  else
    let affected ← Code.update [.user userId] (fun s => s.subQuotaIfEnough userId quota)
      fun s => (s.users.find? userId).any fun u => quota ≤ u.quota
    Code.failIf (affected = false) .insufficientUserQuota
    Code.done ()

end

namespace QuotaCall

def userId : QuotaCall → ℤ
  | transfer userId _ | increase userId _ | decrease userId _ | decreaseIfEnough userId _ => userId

def code (env : TransferEnv) : QuotaCall → PayCode Unit
  | transfer userId quota => transferAffQuotaToQuota env userId quota
  | increase userId quota => increaseUserQuota userId quota
  | decrease userId quota => decreaseUserQuota userId quota
  | decreaseIfEnough userId quota => decreaseUserQuotaIfEnough userId quota

/-- By how much the call is to change the total of its user. -/
def amount : QuotaCall → ℤ
  | transfer _ _ => 0
  | increase _ quota => quota
  | decrease _ quota | decreaseIfEnough _ quota => -quota

def change (c : QuotaCall) (userId : ℤ) : ℤ := if c.userId = userId then c.amount else 0

def isTransfer : QuotaCall → Bool
  | transfer _ _ => true
  | _ => false

end QuotaCall

namespace Store

variable {s : Store} {userId : ℤ} {user : User}

theorem total_of_find? (hfind : s.users.find? userId = some user) :
    s.total userId = user.quota + user.affQuota := by
  rw [total, hfind]
  rfl

/-- The write changes the total of a user by an amount, and that of no other user; it keeps the
users. -/
structure Adds (f : Store → Store) (s : Store) (userId amount : ℤ) : Prop where
  self : (s.users.find? userId).isSome = true → (f s).total userId = s.total userId + amount
  other : ∀ id, id ≠ userId → (f s).users.find? id = s.users.find? id
  isSome : ∀ id, ((f s).users.find? id).isSome = (s.users.find? id).isSome

/-- An update of one row, by what it does to the row. -/
theorem adds_update {f : User → User} {hf : ∀ u, Keyed.key u = userId → Keyed.key (f u) = userId}
    {amount : ℤ} (h : ∀ u, s.users.find? userId = some u →
      (f u).quota + (f u).affQuota = u.quota + u.affQuota + amount) :
    Adds (fun s => { s with users := s.users.update userId f hf }) s userId amount where
  self hsome := by
    obtain ⟨u, hfind⟩ := Option.isSome_iff_exists.1 hsome
    rw [total_of_find? hfind, ← h u hfind, total, Table.find?_update_self hfind]
    rfl
  other id hne := by rw [Table.find?_update, if_neg hne]
  isSome id := by
    rw [Table.find?_update]
    split
    · rename_i heq
      rw [heq, Option.isSome_map]
    · rfl

theorem adds_addQuota (s : Store) (userId quota : ℤ) :
    Adds (fun s => s.addQuota userId quota) s userId quota := by
  refine adds_update fun u _ => ?_
  simp only
  omega

theorem adds_subQuotaIfEnough {quota : ℤ} (hfind : s.users.find? userId = some user)
    (henough : quota ≤ user.quota) :
    Adds (fun s => s.subQuotaIfEnough userId quota) s userId (-quota) := by
  refine adds_update fun u hu => ?_
  obtain rfl := Option.mem_unique hfind hu
  simp only [if_pos henough]
  omega

theorem adds_saveUser (quota : ℤ) (hid : user.id = userId)
    (htotal : s.total userId = user.quota + user.affQuota) :
    Adds (fun s => s.saveUser (user.transferred quota)) s userId 0 := by
  subst hid
  refine adds_update fun u hu => ?_
  have hu' : s.total user.id = u.quota + u.affQuota := total_of_find? hu
  simp only [User.transferred]
  omega

end Store

/-- The first statement found the row `user`. -/
def ReadUser (userId : ℤ) (user : User) (seen : List Store) : Prop :=
  ∃ v, seen.getLast? = some v ∧ v.users.find? userId = some user

theorem ReadUser.cons {userId : ℤ} {user : User} {seen : List Store}
    (h : ReadUser userId user seen) (v : Store) : ReadUser userId user (v :: seen) := by
  obtain ⟨v₀, hlast, hfind⟩ := h
  exact ⟨v₀, by rw [List.getLast?_cons, hlast]; rfl, hfind⟩

/-- Before the first statement, for a transfer with the row it has read, before the commit, and at
the end. -/
inductive QuotaStage (env : TransferEnv) (db : Store) (held : Row → Prop) :
    QuotaCall → Proc Store Row PaymentError Unit → Prop
  | reading (userId quota : ℤ) (hleast : ¬(quota : ℚ) < env.quotaPerUnit) :
      QuotaStage env db held (.transfer userId quota)
        ⟨transferAffQuotaToQuota env userId quota, id, []⟩
  | read (userId quota seen user) (hread : ReadUser userId user seen) :
      QuotaStage env db held (.transfer userId quota)
        ⟨.write [.user userId] (fun s => s.saveUser (user.transferred quota)) fun _ =>
          .commit (.ret ()), id, seen⟩
  | moved (userId quota seen user) (hread : ReadUser userId user seen)
      (hheld : held (.user userId)) :
      QuotaStage env db held (.transfer userId quota)
        ⟨.commit (.ret ()), fun s => s.saveUser (user.transferred quota), seen⟩
  | adding (c : QuotaCall) (hc : c.isTransfer = false) : QuotaStage env db held c
        ⟨.write [.user c.userId] (fun s => s.addQuota c.userId c.amount) fun _ =>
          .commit (.ret ()), id, []⟩
  | added (c : QuotaCall) (seen) (hc : c.isTransfer = false) (hheld : held (.user c.userId)) :
      QuotaStage env db held c
        ⟨.commit (.ret ()), fun s => s.addQuota c.userId c.amount, seen⟩
  | reserving (userId quota) (hneg : ¬quota < 0) (hzero : quota ≠ 0) :
      QuotaStage env db held (.decreaseIfEnough userId quota)
        ⟨decreaseUserQuotaIfEnough userId quota, id, []⟩
  | reserved (userId quota seen user) (hheld : held (.user userId))
      (hfind : db.users.find? userId = some user) (henough : quota ≤ user.quota) :
      QuotaStage env db held (.decreaseIfEnough userId quota)
        ⟨.commit (.ret ()), fun s => s.subQuotaIfEnough userId quota, seen⟩
  | returned (c seen) : QuotaStage env db held c ⟨.ret (), id, seen⟩
  | failed (c seen) (e : PaymentError) (pending : Store → Store) :
      QuotaStage env db held c ⟨.fail e, pending, seen⟩

namespace QuotaStage

variable {env : TransferEnv} {db : Store} {held : Row → Prop} {c : QuotaCall}
  {p : Proc Store Row PaymentError Unit}

theorem transfer_eq {userId quota : ℤ} (hleast : ¬(quota : ℚ) < env.quotaPerUnit) :
    transferAffQuotaToQuota env userId quota = .query fun s =>
      (Code.orElse (s.users.find? userId) .recordNotFound).bind fun user =>
        if user.affQuota < quota then .fail .affQuotaInsufficient
        else .write [.user userId] (fun s => s.saveUser (user.transferred quota)) fun _ =>
          .commit (.ret ()) := by
  simp only [transferAffQuotaToQuota, Code.bind_eq, Code.failIf_bind, if_neg hleast]
  rfl

theorem reserve_eq {userId quota : ℤ} (hneg : ¬quota < 0) (hzero : quota ≠ 0) :
    decreaseUserQuotaIfEnough userId quota =
      .write [.user userId] (fun s => s.subQuotaIfEnough userId quota) fun s =>
        if ((s.users.find? userId).any fun u => quota ≤ u.quota) = false then
          .fail .insufficientUserQuota
        else .commit (.ret ()) := by
  simp only [decreaseUserQuotaIfEnough, Code.bind_eq, Code.failIf_bind, if_neg hneg, if_neg hzero]
  rfl

/-- A call starts at a stage, and one that has nothing to do changes nothing. -/
theorem initial (env : TransferEnv) (db : Store) (held : Row → Prop) (c : QuotaCall) :
    QuotaStage env db held c (.start (c.code env)) := by
  cases c with
  | transfer userId quota =>
    by_cases hleast : (quota : ℚ) < env.quotaPerUnit
    · rw [QuotaCall.code, transferAffQuotaToQuota, Code.bind_eq, Code.failIf_bind, if_pos hleast]
      exact .failed _ _ _ _
    · exact .reading userId quota hleast
  | increase userId quota =>
    by_cases hneg : quota < 0
    · rw [QuotaCall.code, increaseUserQuota, Code.bind_eq, Code.failIf_bind, if_pos hneg]
      exact .failed _ _ _ _
    · rw [QuotaCall.code, increaseUserQuota, Code.bind_eq, Code.failIf_bind, if_neg hneg]
      exact .adding (.increase userId quota) rfl
  | decrease userId quota =>
    by_cases hneg : quota < 0
    · rw [QuotaCall.code, decreaseUserQuota, Code.bind_eq, Code.failIf_bind, if_pos hneg]
      exact .failed _ _ _ _
    · rw [QuotaCall.code, decreaseUserQuota, Code.bind_eq, Code.failIf_bind, if_neg hneg]
      exact .adding (.decrease userId quota) rfl
  | decreaseIfEnough userId quota =>
    by_cases hneg : quota < 0
    · rw [QuotaCall.code, decreaseUserQuotaIfEnough, Code.bind_eq, Code.failIf_bind, if_pos hneg]
      exact .failed _ _ _ _
    · by_cases hzero : quota = 0
      · rw [QuotaCall.code, decreaseUserQuotaIfEnough, Code.bind_eq, Code.failIf_bind,
          if_neg hneg, if_pos hzero]
        exact .returned _ _
      · exact .reserving userId quota hneg hzero

/-- The call that returns at once has nothing to change. -/
theorem amount_of_returned (h : (Proc.start (c.code env)).returned = true) : c.amount = 0 := by
  cases c with
  | transfer userId quota => rfl
  | increase userId quota =>
    simp only [QuotaCall.code, increaseUserQuota, Code.bind_eq, Code.failIf_bind,
      Code.update_bind, Proc.start, Proc.returned] at h
    by_cases hneg : quota < 0 <;> simp [hneg] at h
  | decrease userId quota =>
    simp only [QuotaCall.code, decreaseUserQuota, Code.bind_eq, Code.failIf_bind,
      Code.update_bind, Proc.start, Proc.returned] at h
    by_cases hneg : quota < 0 <;> simp [hneg] at h
  | decreaseIfEnough userId quota =>
    by_cases hzero : quota = 0
    · simp [QuotaCall.amount, hzero]
    · simp only [QuotaCall.code, decreaseUserQuotaIfEnough, Code.bind_eq, Code.failIf_bind,
        Code.update_bind, Proc.start, Proc.returned] at h
      by_cases hneg : quota < 0 <;> simp [hneg, hzero] at h

/-- A statement leads to the next stage; no statement but the commit makes a call return. -/
theorem next (h : QuotaStage env db held c p) (hcloses : p.closes = false) :
    QuotaStage env db (fun row => held row ∨ row ∈ p.needs) c (p.next db) ∧
      (p.returned = false → (p.next db).returned = false) := by
  cases h with
  | reading userId quota hleast =>
    simp only [transfer_eq hleast, Proc.next, id_eq]
    cases hfind : db.users.find? userId with
    | none => exact ⟨.failed _ _ _ _, fun _ => rfl⟩
    | some user =>
      simp only [Code.orElse_some_bind]
      split
      · exact ⟨.failed _ _ _ _, fun _ => rfl⟩
      · exact ⟨.read userId quota _ user ⟨db, rfl, hfind⟩, fun _ => rfl⟩
  | read userId quota seen user hread =>
    exact ⟨.moved userId quota _ user (hread.cons _) (.inr (List.mem_singleton_self _)),
      fun _ => rfl⟩
  | adding c hc => exact ⟨.added c _ hc (.inr (List.mem_singleton_self _)), fun _ => rfl⟩
  | reserving userId quota hneg hzero =>
    simp only [reserve_eq hneg hzero, Proc.next, id_eq]
    by_cases hany : ((db.users.find? userId).any fun u => quota ≤ u.quota) = false
    · rw [if_pos hany]
      exact ⟨.failed _ _ _ _, fun _ => rfl⟩
    · rw [if_neg hany]
      obtain ⟨user, hfind, henough⟩ := (Option.any_eq_true _ _).1 (Bool.not_eq_false _ ▸ hany)
      exact ⟨.reserved userId quota _ user (.inr (List.mem_singleton_self _)) hfind
        (by simpa using henough), fun _ => rfl⟩
  | returned c seen => exact ⟨.returned c seen, fun h => h⟩
  | moved | added | reserved | failed => cases hcloses

/-- The stage of a call depends on the database only through the row that it has locked. -/
theorem congr {db' : Store} (h : QuotaStage env db held c p)
    (hfind : held (.user c.userId) → db'.users.find? c.userId = db.users.find? c.userId) :
    QuotaStage env db' held c p := by
  cases h with
  | reading userId quota hleast => exact .reading userId quota hleast
  | read userId quota seen user hread => exact .read userId quota seen user hread
  | moved userId quota seen user hread hheld => exact .moved userId quota seen user hread hheld
  | adding c hc => exact .adding c hc
  | added c seen hc hheld => exact .added c seen hc hheld
  | reserving userId quota hneg hzero => exact .reserving userId quota hneg hzero
  | reserved userId quota seen user hheld h henough =>
    exact .reserved userId quota seen user hheld ((hfind hheld).trans h) henough
  | returned c seen => exact .returned c seen
  | failed c seen e pending => exact .failed c seen e pending

end QuotaStage

section

variable {ι : Type}

/-- Any number of transfers, increases and decreases, of any users, on a store. -/
def quotaSystem (env : TransferEnv) (calls : ι → QuotaCall) (store : Store) :
    Sys ι Store Row PaymentError Unit :=
  .start store fun i => (calls i).code env

def TotalAsRead (calls : ι → QuotaCall) (s : Sys ι Store Row PaymentError Unit) :
    Event ι PaymentError → Prop
  | .step i => (s.procs i).commits = true → (calls i).isTransfer = true →
      (s.procs i).firstSeen.map (fun v => v.total (calls i).userId) =
        some (s.db.total (calls i).userId)
  | .abort _ _ => True

instance (calls : ι → QuotaCall) (s : Sys ι Store Row PaymentError Unit) :
    ∀ e, Decidable (TotalAsRead calls s e)
  | .step _ => inferInstanceAs (Decidable (_ → _ → _))
  | .abort _ _ => isTrue trivial

abbrev QuotaStages (env : TransferEnv) (calls : ι → QuotaCall) (userId : ℤ)
    (s : Sys ι Store Row PaymentError Unit) : Prop :=
  s.Staged (fun db => (db.users.find? userId).isSome = true)
    fun i db held => QuotaStage env db held (calls i)

theorem adds_of_commit {env : TransferEnv} {calls : ι → QuotaCall} {userId : ℤ}
    {s : Sys ι Store Row PaymentError Unit} {i : ι} {k : PayCode Unit}
    (h : QuotaStages env calls userId s) (hcond : TotalAsRead calls s (.step i))
    (hcode : (s.procs i).code = .commit k) :
    k = .ret () ∧ s.Held i (.user (calls i).userId) ∧
      Store.Adds (s.procs i).pending s.db (calls i).userId (calls i).amount := by
  have hcommits : (s.procs i).commits = true := by simp [Proc.commits, hcode]
  have hread := hcond hcommits
  rw [Proc.firstSeen] at hread
  have hstage := h.procs i
  generalize s.procs i = p at hstage hcode hread ⊢
  generalize calls i = c at hstage hread ⊢
  cases hstage with
  | moved userId quota seen user huser hheld =>
    obtain ⟨v, hlast, hfind⟩ := huser
    have htotal : s.db.total userId = user.quota + user.affQuota := by
      have := hread rfl
      rw [hlast, Option.map_some, Option.some.injEq] at this
      exact this.symm.trans (Store.total_of_find? hfind)
    exact ⟨(Code.commit.inj hcode).symm, hheld,
      Store.adds_saveUser quota (Table.key_of_find? hfind) htotal⟩
  | added c seen hc hheld => exact ⟨(Code.commit.inj hcode).symm, hheld, Store.adds_addQuota _ _ _⟩
  | reserved userId quota seen user hheld hfind henough =>
    exact ⟨(Code.commit.inj hcode).symm, hheld, Store.adds_subQuotaIfEnough hfind henough⟩
  | reading userId quota hleast =>
    rw [QuotaStage.transfer_eq hleast] at hcode
    cases hcode
  | reserving userId quota hneg hzero =>
    rw [QuotaStage.reserve_eq hneg hzero] at hcode
    cases hcode
  | _ => cases hcode

variable [DecidableEq ι]

theorem quotaStages_step (env : TransferEnv) (calls : ι → QuotaCall) (userId : ℤ)
    (s : Sys ι Store Row PaymentError Unit) (e : Event ι PaymentError)
    (h : QuotaStages env calls userId s) (hcond : TotalAsRead calls s e) :
    QuotaStages env calls userId (s.step e) := by
  refine Sys.Staged.step ?_ ?_ ?_ s e h hcond
  · intro i db held p _ hstage hcloses
    exact (hstage.next hcloses).1
  · intro i db held p e _
    exact .failed _ _ e _
  · intro s i k h hcond hcode
    obtain ⟨rfl, hheld, hadds⟩ := adds_of_commit h hcond hcode
    refine ⟨(hadds.isSome userId).trans h.db, .returned _ _, fun j hj => ?_⟩
    refine (h.procs j).congr fun hheld' => hadds.other _ fun heq => hheld'.ne hheld hj ?_
    rw [heq]

theorem total_step [Fintype ι] (env : TransferEnv) (calls : ι → QuotaCall) (userId : ℤ)
    (s : Sys ι Store Row PaymentError Unit) (e : Event ι PaymentError)
    (h : QuotaStages env calls userId s) (hcond : TotalAsRead calls s e) :
    (s.step e).db.total userId - (s.step e).contributed (fun i => (calls i).change userId) =
      s.db.total userId - s.contributed fun i => (calls i).change userId := by
  refine Sys.Staged.account (m := fun db : Store => db.total userId) ?_ ?_ s e h hcond
  · intro i db held p _ hstage hcloses hold hnew
    rw [(hstage.next hcloses).2 hold] at hnew
    cases hnew
  · intro s i k h hcond hcode
    obtain ⟨rfl, -, hadds⟩ := adds_of_commit h hcond hcode
    simp only [Proc.returned, if_true, QuotaCall.change]
    by_cases huser : (calls i).userId = userId
    · rw [if_pos huser, ← huser]
      exact hadds.self (by rw [huser]; exact h.db)
    · rw [if_neg huser, add_zero, Store.total, hadds.other userId (Ne.symm huser), Store.total]

/-- **No lost update.** If every transfer commits while the total of its user is the one it has
read, then the total of every user is always the one at the start plus the increases and minus the
decreases that have reported success. -/
theorem transfer_loses_nothing [Fintype ι] (env : TransferEnv) (calls : ι → QuotaCall)
    (store : Store) (userId : ℤ) (huser : (store.users.find? userId).isSome = true)
    (es : List (Event ι PaymentError))
    (hmeets : Sys.Meets (TotalAsRead calls) (quotaSystem env calls store) es) :
    ((quotaSystem env calls store).run es).db.total userId = store.total userId +
      ∑ i, if (((quotaSystem env calls store).run es).procs i).returned then
        (calls i).change userId else 0 := by
  have hstart : (quotaSystem env calls store).contributed
      (fun i => (calls i).change userId) = 0 := by
    refine Finset.sum_eq_zero fun i _ => ?_
    split
    · rename_i hreturned
      simp only [QuotaCall.change, QuotaStage.amount_of_returned hreturned, ite_self]
    · rfl
  have h := Sys.run_induction (P := fun s => QuotaStages env calls userId s ∧
      s.db.total userId - s.contributed (fun i => (calls i).change userId) = store.total userId)
    (fun s e h hcond => ⟨quotaStages_step env calls userId s e h.1 hcond,
      (total_step env calls userId s e h.1 hcond).trans h.2⟩)
    ⟨⟨huser, fun i => .initial env _ _ (calls i)⟩, by rw [hstart, sub_zero]; rfl⟩ hmeets
  exact sub_eq_iff_eq_add.1 h.2

end

/-- A user with an affiliate quota of 500. -/
def affStore : Store where
  users := ⟨[⟨1, 100, 500, "", ""⟩], by decide⟩
  redemptions := .empty
  topUps := .empty
  credits := []

def sampleTransferEnv : TransferEnv := ⟨100, "100"⟩

def sampleQuotaCalls (i : Fin 2) : QuotaCall := if i = 0 then .transfer 1 200 else .increase 1 30

theorem transfer_loses_nothing_sample :
    let es : List (Event (Fin 2) PaymentError) :=
      [.step 0, .step 0, .step 1, .step 0, .step 1, .step 1]
    (affStore.users.find? 1).isSome = true ∧ Sys.Meets (TotalAsRead sampleQuotaCalls)
        (quotaSystem sampleTransferEnv sampleQuotaCalls affStore) es ∧
      ((quotaSystem sampleTransferEnv sampleQuotaCalls affStore).run es).db.total 1 =
        affStore.total 1 + ∑ i, if (((quotaSystem sampleTransferEnv sampleQuotaCalls
          affStore).run es).procs i).returned then (sampleQuotaCalls i).change 1 else 0 :=
  have hmeets : Sys.Meets (TotalAsRead sampleQuotaCalls)
      (quotaSystem sampleTransferEnv sampleQuotaCalls affStore)
      [.step 0, .step 0, .step 1, .step 0, .step 1, .step 1] := by decide
  ⟨rfl, hmeets, transfer_loses_nothing sampleTransferEnv sampleQuotaCalls affStore 1 rfl _ hmeets⟩

/-- The increase is committed after the transfer has read the row. Both calls report success, and
the increase is lost. -/
theorem increase_lost :
    let s := (quotaSystem sampleTransferEnv sampleQuotaCalls affStore).run
      [.step 0, .step 1, .step 1, .step 0, .step 0]
    (∀ i, (s.procs i).returned = true) ∧ affStore.total 1 = 600 ∧ s.db.total 1 = 600 ∧
      (sampleQuotaCalls 0).change 1 + (sampleQuotaCalls 1).change 1 = 30 := by decide

end Mujian.Payment
