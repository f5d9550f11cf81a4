import Mujian.Billing.Schema

/-!
# User and token quota

The statements that move the quota of a user or of a token. A conditional decrease is one
`UPDATE` whose `WHERE` clause checks the balance. Every one of them that succeeds adds an amount to
one row; the rules `run_…_eq_ok` say when it succeeds. The functions outside a transaction
(`increaseUserQuota`, …) succeed on an unknown id and change nothing.
-/

namespace Mujian.Billing

namespace DB

def addUserQuota (db : DB) (id q : ℤ) : DB :=
  { db with
    users := db.users.update id (fun u => { u with quota := u.quota + q }) fun _ h => h }

def addTokenQuota (db : DB) (id q : ℤ) : DB :=
  { db with
    tokens := db.tokens.update id
      (fun t => { t with remainQuota := t.remainQuota + q, usedQuota := t.usedQuota - q })
      fun _ h => h }

section

variable (db : DB) (id q : ℤ)

@[simp] theorem addUserQuota_tokens : (db.addUserQuota id q).tokens = db.tokens := rfl
@[simp] theorem addUserQuota_subscriptions :
    (db.addUserQuota id q).subscriptions = db.subscriptions := rfl
@[simp] theorem addUserQuota_ledger : (db.addUserQuota id q).ledger = db.ledger := rfl
@[simp] theorem addTokenQuota_users : (db.addTokenQuota id q).users = db.users := rfl
@[simp] theorem addTokenQuota_subscriptions :
    (db.addTokenQuota id q).subscriptions = db.subscriptions := rfl
@[simp] theorem addTokenQuota_ledger : (db.addTokenQuota id q).ledger = db.ledger := rfl

theorem find?_users_addUserQuota (id' : ℤ) : (db.addUserQuota id q).users.find? id' =
      if id' = id then (db.users.find? id).map fun u => { u with quota := u.quota + q }
      else db.users.find? id' := by rw [addUserQuota, Table.find?_update]

theorem find?_tokens_addTokenQuota (id' : ℤ) : (db.addTokenQuota id q).tokens.find? id' =
      if id' = id then (db.tokens.find? id).map fun t =>
        { t with remainQuota := t.remainQuota + q, usedQuota := t.usedQuota - q }
      else db.tokens.find? id' := by rw [addTokenQuota, Table.find?_update]

end

/-- The databases differ at most in the tokens. -/
structure ApartFromTokens (db db' : DB) : Prop where
  users : db'.users = db.users
  subscriptions : db'.subscriptions = db.subscriptions
  ledger : db'.ledger = db.ledger

namespace ApartFromTokens

variable {db db₁ db₂ : DB}

theorem refl (db : DB) : db.ApartFromTokens db := ⟨rfl, rfl, rfl⟩

theorem trans (h : db.ApartFromTokens db₁) (h' : db₁.ApartFromTokens db₂) :
    db.ApartFromTokens db₂ :=
  ⟨h'.users.trans h.users, h'.subscriptions.trans h.subscriptions, h'.ledger.trans h.ledger⟩

theorem addTokenQuota (db : DB) (id q : ℤ) : db.ApartFromTokens (db.addTokenQuota id q) :=
  ⟨rfl, rfl, rfl⟩

theorem of_update {k : ℤ} {c : Token → Bool} {f : Token → Token} {hf : ∀ t, (f t).id = t.id}
    {n : ℕ} (h : (DB.tokensTable.update k c f hf : DBTx ℕ).run db = .ok (n, db₁)) :
    db.ApartFromTokens db₁ := by
  obtain ⟨-, _, -, -, rfl⟩ | ⟨-, -, rfl⟩ := TableOf.run_update_eq_ok.1 h
  · exact ⟨rfl, rfl, rfl⟩
  · exact .refl _

end ApartFromTokens

end DB

/-- `UPDATE users SET quota = quota + ? WHERE id = ?`. -/
def increaseUserQuotaTx (userID quota : ℤ) : DBTx Unit :=
  DB.usersTable.updateOne userID (fun _ => true)
    (fun u => { u with quota := u.quota + quota }) (fun _ => rfl) .strictUserRow

/-- `UPDATE users SET quota = quota - ? WHERE id = ? AND quota >= ?`. -/
def decreaseUserQuotaIfEnoughTx (id quota : ℤ) : DBTx Unit :=
  DB.usersTable.updateOne id (fun u => u.quota ≥ quota)
    (fun u => { u with quota := u.quota - quota }) (fun _ => rfl) .insufficientUserQuota

/-- `UPDATE tokens SET remain_quota = remain_quota + ?, used_quota = used_quota - ?
WHERE id = ?`. -/
def increaseTokenQuotaTx (tokenID quota : ℤ) : DBTx Unit :=
  DB.tokensTable.updateOne tokenID (fun _ => true)
    (fun t => { t with remainQuota := t.remainQuota + quota, usedQuota := t.usedQuota - quota })
    (fun _ => rfl) .strictTokenRow

/-- `UPDATE tokens SET remain_quota = remain_quota - ?, used_quota = used_quota + ?
WHERE id = ? AND (unlimited_quota OR remain_quota >= ?)`. -/
def decreaseTokenQuotaIfEnoughTx (id quota : ℤ) : DBTx Unit :=
  DB.tokensTable.updateOne id (fun t => t.unlimitedQuota || t.remainQuota ≥ quota)
    (fun t => { t with remainQuota := t.remainQuota - quota, usedQuota := t.usedQuota + quota })
    (fun _ => rfl) .insufficientTokenQuota

section

variable {db db' : DB} {u : Unit} {id q : ℤ}

theorem run_increaseUserQuotaTx_eq_ok : (increaseUserQuotaTx id q).run db = .ok (u, db') ↔
      ∃ user, db.users.find? id = some user ∧ db' = db.addUserQuota id q := by
  rw [increaseUserQuotaTx, TableOf.run_updateOne_eq_ok]
  simp only [true_and]
  rfl

theorem run_decreaseUserQuotaIfEnoughTx_eq_ok :
    (decreaseUserQuotaIfEnoughTx id q).run db = .ok (u, db') ↔
      ∃ user, db.users.find? id = some user ∧ q ≤ user.quota ∧ db' = db.addUserQuota id (-q) := by
  rw [decreaseUserQuotaIfEnoughTx, TableOf.run_updateOne_eq_ok]
  simp only [decide_eq_true_eq]
  rfl

theorem run_increaseTokenQuotaTx_eq_ok : (increaseTokenQuotaTx id q).run db = .ok (u, db') ↔
      ∃ token, db.tokens.find? id = some token ∧ db' = db.addTokenQuota id q := by
  rw [increaseTokenQuotaTx, TableOf.run_updateOne_eq_ok]
  simp only [true_and]
  rfl

theorem run_decreaseTokenQuotaIfEnoughTx_eq_ok :
    (decreaseTokenQuotaIfEnoughTx id q).run db = .ok (u, db') ↔
      ∃ token, db.tokens.find? id = some token ∧
        (token.unlimitedQuota = true ∨ q ≤ token.remainQuota) ∧
        db' = db.addTokenQuota id (-q) := by
  rw [decreaseTokenQuotaIfEnoughTx, TableOf.run_updateOne_eq_ok]
  simp only [Bool.or_eq_true, decide_eq_true_eq, DB.addTokenQuota, sub_neg_eq_add]
  rfl

end

section

variable (id quota : ℤ)

def increaseUserQuota : DBTx Unit := do
  Tx.failIf (quota < 0) .quotaNegative
  let _ ← DB.usersTable.update id (fun _ => true)
    (fun u => { u with quota := u.quota + quota }) fun _ => rfl

def decreaseUserQuota : DBTx Unit := do
  Tx.failIf (quota < 0) .quotaNegative
  let _ ← DB.usersTable.update id (fun _ => true)
    (fun u => { u with quota := u.quota - quota }) fun _ => rfl

def decreaseUserQuotaIfEnough : DBTx Unit := do
  Tx.failIf (quota < 0) .quotaNegative
  if quota = 0 then pure () else decreaseUserQuotaIfEnoughTx id quota

def increaseTokenQuota (tokenId quota : ℤ) : DBTx Unit := do
  Tx.failIf (quota < 0) .quotaNegative
  let _ ← DB.tokensTable.update tokenId (fun _ => true)
    (fun t => { t with remainQuota := t.remainQuota + quota, usedQuota := t.usedQuota - quota })
    fun _ => rfl

def decreaseTokenQuota : DBTx Unit := do
  Tx.failIf (quota < 0) .quotaNegative
  let _ ← DB.tokensTable.update id (fun _ => true)
    (fun t => { t with remainQuota := t.remainQuota - quota, usedQuota := t.usedQuota + quota })
    fun _ => rfl

def decreaseTokenQuotaIfEnough : DBTx Unit := do
  Tx.failIf (quota < 0) .quotaNegative
  if quota = 0 then pure () else decreaseTokenQuotaIfEnoughTx id quota

end

section

variable {db db' : DB} {u : Unit} {id q : ℤ}

/-- An unconditional addition to a user's quota; on an unknown user it changes nothing. -/
theorem run_addUserQuota_eq_ok {n : ℕ} :
    (DB.usersTable.update id (fun _ => true) (fun u => { u with quota := u.quota + q })
      (fun _ => rfl) : DBTx ℕ).run db = .ok (n, db') → db' = db.addUserQuota id q := by
  rw [TableOf.run_update_eq_ok]
  rintro (⟨-, user, -, -, rfl⟩ | ⟨-, hnone, rfl⟩)
  · rfl
  · have hfind : db'.users.find? id = none := by
      cases h : db'.users.find? id with
      | none => rfl
      | some user => exact absurd (hnone user h) (by simp)
    rw [DB.addUserQuota, Table.update_of_find?_eq_none hfind]

theorem run_increaseUserQuota_eq_ok :
    (increaseUserQuota id q).run db = .ok (u, db') → 0 ≤ q ∧ db' = db.addUserQuota id q := by
  simp only [increaseUserQuota, Tx.run_bind_eq_ok, Tx.run_failIf_eq_ok, Int.not_lt]
  rintro ⟨_, _, ⟨hq, rfl⟩, n, _, h, -, rfl⟩
  exact ⟨hq, run_addUserQuota_eq_ok h⟩

theorem run_decreaseUserQuota_eq_ok :
    (decreaseUserQuota id q).run db = .ok (u, db') → 0 ≤ q ∧ db' = db.addUserQuota id (-q) := by
  simp only [decreaseUserQuota, Tx.run_bind_eq_ok, Tx.run_failIf_eq_ok, Int.not_lt]
  rintro ⟨_, _, ⟨hq, rfl⟩, n, _, h, -, rfl⟩
  exact ⟨hq, run_addUserQuota_eq_ok h⟩

/-- A decrease by 0 does nothing, and one by a negative quota fails. -/
theorem run_decreaseIfEnough_eq_ok {body : DBTx Unit} :
    (do Tx.failIf (q < 0) .quotaNegative; if q = 0 then pure () else body : DBTx Unit).run db =
      .ok (u, db') ↔ (q = 0 ∧ db' = db) ∨ (0 < q ∧ body.run db = .ok (u, db')) := by
  simp only [Tx.run_bind_eq_ok, Tx.run_failIf_eq_ok]
  by_cases hq : q = 0
  · subst hq
    simp [eq_comm (a := db) (b := db')]
  · simp only [hq, if_false, false_and, false_or]
    constructor
    · rintro ⟨_, _, ⟨hq', rfl⟩, h⟩
      exact ⟨by omega, h⟩
    · rintro ⟨hq', h⟩
      exact ⟨(), db, ⟨by omega, rfl⟩, h⟩

theorem run_decreaseUserQuotaIfEnough_eq_ok :
    (decreaseUserQuotaIfEnough id q).run db = .ok (u, db') ↔
      (q = 0 ∧ db' = db) ∨ (0 < q ∧ ∃ user, db.users.find? id = some user ∧ q ≤ user.quota ∧
        db' = db.addUserQuota id (-q)) := by
  rw [decreaseUserQuotaIfEnough, run_decreaseIfEnough_eq_ok, run_decreaseUserQuotaIfEnoughTx_eq_ok]

theorem run_decreaseTokenQuotaIfEnough_eq_ok :
    (decreaseTokenQuotaIfEnough id q).run db = .ok (u, db') ↔
      (q = 0 ∧ db' = db) ∨ (0 < q ∧ ∃ token, db.tokens.find? id = some token ∧
        (token.unlimitedQuota = true ∨ q ≤ token.remainQuota) ∧
        db' = db.addTokenQuota id (-q)) := by
  rw [decreaseTokenQuotaIfEnough, run_decreaseIfEnough_eq_ok,
    run_decreaseTokenQuotaIfEnoughTx_eq_ok]

theorem apartFromTokens_of_increaseTokenQuota
    (h : (increaseTokenQuota id q).run db = .ok (u, db')) : db.ApartFromTokens db' := by
  simp only [increaseTokenQuota, Tx.run_bind_eq_ok, Tx.run_failIf_eq_ok] at h
  obtain ⟨_, _, ⟨-, rfl⟩, n, _, hupdate, -, rfl⟩ := h
  exact .of_update hupdate

theorem apartFromTokens_of_decreaseTokenQuota
    (h : (decreaseTokenQuota id q).run db = .ok (u, db')) : db.ApartFromTokens db' := by
  simp only [decreaseTokenQuota, Tx.run_bind_eq_ok, Tx.run_failIf_eq_ok] at h
  obtain ⟨_, _, ⟨-, rfl⟩, n, _, hupdate, -, rfl⟩ := h
  exact .of_update hupdate

end

end Mujian.Billing
