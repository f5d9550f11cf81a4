import Mujian.Payment.Schema

/-!
# Redeeming a code

`redeem` reads the code, credits the user and saves the row it has read as used, in one
transaction. The lock of the read, through the setting `gorm:query_option`, has no effect: two calls
can both find the code enabled, and both credit it (`redeemed_twice`, `redeem_at_most_once`).
-/

namespace Mujian.Payment

/-- The arguments of a call of `Redeem` and the times it reads. -/
structure RedeemCall where
  key : String
  userId : ℤ
  now : ℤ
  redeemedTime : ℤ

/-- The row that a call saves in place of the row it has read. -/
def RedeemCall.redeemed (c : RedeemCall) (redemption : Redemption) : Redemption :=
  { redemption with redeemedTime := c.redeemedTime, status := .used, usedUserId := c.userId }

def redeem (c : RedeemCall) : PayCode ℤ := do
  Code.failIf (c.key = "") .codeEmpty
  Code.failIf (c.userId = 0) .userIdZero
  -- not a locking read: the option "FOR UPDATE" set here has no effect
  let found ← Code.select fun s => s.redemptions.find? c.key
  let redemption ← Code.orElse found (.redeemFailed "无效的兑换码")
  Code.failIf (redemption.status ≠ .enabled) (.redeemFailed "该兑换码已被使用")
  Code.failIf (redemption.expiredTime ≠ 0 ∧ redemption.expiredTime < c.now)
    (.redeemFailed "该兑换码已过期")
  Code.update [.user c.userId]
    (fun s => s.credit (.code c.key) c.userId redemption.quota {}) fun _ => ()
  Code.update [.redemption c.key] (fun s => s.saveRedemption (c.redeemed redemption)) fun _ => ()
  Code.done redemption.quota

/-- The first statement found the code `r`, which was enabled. -/
def ReadEnabled (key : String) (r : Redemption) (seen : List Store) : Prop :=
  r.status = .enabled ∧ ∃ v, seen.getLast? = some v ∧ v.redemptions.find? key = some r

theorem ReadEnabled.cons {key : String} {r : Redemption} {seen : List Store}
    (h : ReadEnabled key r seen) (v : Store) : ReadEnabled key r (v :: seen) := by
  obtain ⟨hstatus, v₀, hlast, hfind⟩ := h
  exact ⟨hstatus, v₀, by rw [List.getLast?_cons, hlast]; rfl, hfind⟩

/-- Before a call has read the code, with the code before each of its two writes and before the
commit, and at the end. -/
inductive RedeemStage (c : RedeemCall) : Proc Store Row PaymentError ℤ → Prop
  | start (hkey : c.key ≠ "") (huser : c.userId ≠ 0) : RedeemStage c ⟨redeem c, id, []⟩
  | found (r : Redemption) (seen) (hread : ReadEnabled c.key r seen) : RedeemStage c
      ⟨.write [.user c.userId] (fun s => s.credit (.code c.key) c.userId r.quota {}) fun _ =>
        .write [.redemption c.key] (fun s => s.saveRedemption (c.redeemed r)) fun _ =>
          .commit (.ret r.quota), id, seen⟩
  | credited (r : Redemption) (seen) (hread : ReadEnabled c.key r seen) : RedeemStage c
      ⟨.write [.redemption c.key] (fun s => s.saveRedemption (c.redeemed r)) fun _ =>
          .commit (.ret r.quota),
        fun s => s.credit (.code c.key) c.userId r.quota {}, seen⟩
  | saved (r : Redemption) (seen) (hread : ReadEnabled c.key r seen) : RedeemStage c
      ⟨.commit (.ret r.quota),
        fun s => (s.credit (.code c.key) c.userId r.quota {}).saveRedemption (c.redeemed r), seen⟩
  | returned (a : ℤ) (seen) : RedeemStage c ⟨.ret a, id, seen⟩
  | failed (e : PaymentError) (seen) : RedeemStage c ⟨.fail e, id, seen⟩

namespace RedeemStage

variable {c : RedeemCall} {p : Proc Store Row PaymentError ℤ}

theorem initial (c : RedeemCall) : RedeemStage c (.start (redeem c)) := by
  by_cases hkey : c.key = ""
  · rw [redeem, Code.bind_eq, Code.failIf_bind, if_pos hkey]
    exact .failed _ _
  by_cases huser : c.userId = 0
  · simp only [redeem, Code.bind_eq, Code.failIf_bind, if_neg hkey, if_pos huser]
    exact .failed _ _
  · exact .start hkey huser

theorem next (h : RedeemStage c p) (hcloses : p.closes = false) (db : Store) :
    RedeemStage c (p.next db) := by
  cases h with
  | start hkey huser =>
    simp only [redeem, Code.bind_eq, Code.failIf_bind, Code.select_bind, if_neg hkey, if_neg huser,
      Proc.next, id_eq]
    cases hfind : db.redemptions.find? c.key with
    | none => exact .failed _ _
    | some r =>
      simp only [Code.orElse_some_bind]
      split
      · exact .failed _ _
      · rename_i henabled
        split
        · exact .failed _ _
        · exact .found r _ ⟨not_not.1 henabled, db, rfl, hfind⟩
  | found r seen hread => exact .credited r _ (hread.cons _)
  | credited r seen hread => exact .saved r _ (hread.cons _)
  | saved => cases hcloses
  | returned a seen => exact .returned a seen
  | failed => cases hcloses

end RedeemStage

section

variable {ι : Type} [DecidableEq ι]

/-- Any number of calls of `Redeem`, for any codes and users, on a store. -/
def redeemSystem (calls : ι → RedeemCall) (store : Store) : Sys ι Store Row PaymentError ℤ :=
  .start store fun i => redeem (calls i)

/-- A call that has read its code as enabled commits while the code is still enabled in the
database. -/
def StillEnabled (calls : ι → RedeemCall) (s : Sys ι Store Row PaymentError ℤ) :
    Event ι PaymentError → Prop
  | .step i => (s.procs i).commits = true →
      ((s.procs i).firstSeen.bind fun v => v.redemptions.find? (calls i).key).any
        (fun r => r.status = .enabled) = true →
      (s.db.redemptions.find? (calls i).key).any (fun r => r.status = .enabled) = true
  | .abort _ _ => True

instance (calls : ι → RedeemCall) (s : Sys ι Store Row PaymentError ℤ) :
    ∀ e, Decidable (StillEnabled calls s e)
  | .step _ => inferInstanceAs (Decidable (_ → _ → _))
  | .abort _ _ => isTrue trivial

/-- The books are right, no code has been credited twice, and one that has been credited is no
longer enabled. -/
structure RedeemedOnce (base db : Store) : Prop where
  books : base.Books db
  le_one : ∀ key, db.timesCredited (.code key) ≤ 1
  not_enabled : ∀ key r, db.redemptions.find? key = some r → r.status = .enabled →
    db.timesCredited (.code key) = 0

theorem RedeemedOnce.redeem {base db : Store} (h : RedeemedOnce base db) (c : RedeemCall)
    {r r' : Redemption} (hkey : r.key = c.key) (hfind : db.redemptions.find? c.key = some r')
    (henabled : r'.status = .enabled) :
    RedeemedOnce base
      ((db.credit (.code c.key) c.userId r.quota {}).saveRedemption (c.redeemed r)) where
  books := (h.books.credit _ _ _ _).congr rfl rfl
  le_one key := by
    have hzero := h.not_enabled _ _ hfind henabled
    exact Store.timesCredited_credit_le_one _ _ _ _ _ hzero (h.le_one key)
  not_enabled key r'' hfind' henabled' := by
    have hkey' : (c.redeemed r).key = c.key := hkey
    rw [Store.find?_saveRedemption _ _ _ (r := r') (by simpa [hkey'] using hfind)] at hfind'
    split at hfind'
    · obtain rfl := Option.some.inj hfind'
      cases henabled'
    · rename_i hk
      rw [hkey'] at hk
      change (db.credit _ _ _ _).timesCredited _ = 0
      rw [Store.timesCredited_credit_of_ne _ _ _ _ _ (by simpa using hk)]
      exact h.not_enabled key r'' (by simpa using hfind') henabled'

theorem redeemedOnce_step (calls : ι → RedeemCall) (base : Store)
    (s : Sys ι Store Row PaymentError ℤ) (e : Event ι PaymentError)
    (h : s.Staged (RedeemedOnce base) fun i _ _ p => RedeemStage (calls i) p)
    (hcond : StillEnabled calls s e) :
    (s.step e).Staged (RedeemedOnce base) fun i _ _ p => RedeemStage (calls i) p := by
  refine Sys.Staged.step ?_ ?_ ?_ s e h hcond
  · intro i db _ p _ hstage hcloses
    exact hstage.next hcloses db
  · intro i db _ p e _
    exact .failed e _
  · intro s i k h hcond hcode
    have hstage := h.procs i
    have hstill := hcond (by simp [Proc.commits, hcode])
    generalize s.procs i = p at hstage hcode hstill ⊢
    cases hstage with
    | saved r seen hread =>
      obtain rfl := (Code.commit.inj hcode)
      -- the call has passed the check, so what it has read was enabled
      obtain ⟨hstatus, v, hlast, hread⟩ := hread
      obtain ⟨r', hfind, henabled⟩ := (Option.any_eq_true _ _).1
        (hstill (by simp [Proc.firstSeen, hlast, hread, hstatus]))
      exact ⟨h.db.redeem _ (Table.key_of_find? hread) hfind (by simpa using henabled),
        .returned _ _, fun j _ => h.procs j⟩
    | start hkey huser =>
      simp [redeem, Code.bind_eq, Code.failIf_bind, Code.select_bind, hkey, huser] at hcode
    | _ => cases hcode

/-- **One-time redemption.** If every call that has read its code as enabled commits while it is
still enabled, then no code is credited twice, and every balance is the one at the start plus the
credits. -/
theorem redeem_at_most_once (calls : ι → RedeemCall) (store : Store) (hcredits : store.credits = [])
    (es : List (Event ι PaymentError))
    (hmeets : Sys.Meets (StillEnabled calls) (redeemSystem calls store) es) :
    (∀ key, ((redeemSystem calls store).run es).db.timesCredited (.code key) ≤ 1) ∧
      store.Books ((redeemSystem calls store).run es).db := by
  have hstart : RedeemedOnce store store :=
    ⟨.start hcredits, fun key => by simp [Store.timesCredited, hcredits],
      fun key _ _ _ => by simp [Store.timesCredited, hcredits]⟩
  have h := Sys.run_induction (redeemedOnce_step calls store)
    ⟨hstart, fun i => .initial (calls i)⟩ hmeets
  exact ⟨h.db.le_one, h.db.books⟩

/-- Two users, and a code that is worth 100. -/
def sampleStore : Store where
  users := ⟨[⟨1, 0, 0, "", ""⟩, ⟨2, 0, 0, "", ""⟩], by decide⟩
  redemptions := ⟨[⟨"gift", .enabled, 100, 0, 0, 0⟩], by decide⟩
  topUps := .empty
  credits := []

/-- The two users redeem the code. -/
def sampleRedeem (i : Fin 2) : RedeemCall := ⟨"gift", i.val + 1, 10, 10⟩

theorem redeem_at_most_once_sample : sampleStore.credits = [] ∧
      Sys.Meets (StillEnabled sampleRedeem) (redeemSystem sampleRedeem sampleStore)
        [.step 0, .step 0, .step 0, .step 0, .step 1] ∧
      ((redeemSystem sampleRedeem sampleStore).run
        [.step 0, .step 0, .step 0, .step 0, .step 1]).db.timesCredited (.code "gift") ≤ 1 :=
  have hmeets : Sys.Meets (StillEnabled sampleRedeem) (redeemSystem sampleRedeem sampleStore)
      [.step 0, .step 0, .step 0, .step 0, .step 1] := by decide
  ⟨rfl, hmeets, (redeem_at_most_once sampleRedeem sampleStore rfl _ hmeets).1 "gift"⟩

/-- Both users read the code before either commits, and both are credited. -/
theorem redeemed_twice :
    let db := ((redeemSystem sampleRedeem sampleStore).run
      [.step 0, .step 1, .step 0, .step 0, .step 0, .step 1, .step 1, .step 1]).db
    db.timesCredited (.code "gift") = 2 ∧ db.users.rows.map User.quota = [100, 100] := by decide

end

end Mujian.Payment
