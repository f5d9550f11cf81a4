import Mujian.Subscriptions.Purchase
import Mathlib.Data.Prod.Lex

/-!
# The group of a user

A purchase of a plan with an upgrade group moves the user there, and notes the group the user was
in. The expiry of subscriptions, and an administrator who cancels or deletes one, move the user
back to the noted group, unless another subscription with an upgrade group is active. Each function
has a weakest precondition, stated by what it leaves in the tables when it runs alone.
-/

namespace Mujian.Subscriptions

def UserSubscription.Due (now : ℤ) (r : UserSubscription) : Prop :=
  r.status = .active ∧ 0 < r.endTime ∧ r.endTime ≤ now

instance (now : ℤ) (r : UserSubscription) : Decidable (r.Due now) :=
  inferInstanceAs (Decidable (_ ∧ _ ∧ _))

def UserSubscription.Upgrading (now : ℤ) (r : UserSubscription) : Prop :=
  r.status = .active ∧ now < r.endTime ∧ r.upgradeGroup ≠ ""

instance (now : ℤ) (r : UserSubscription) : Decidable (r.Upgrading now) :=
  inferInstanceAs (Decidable (_ ∧ _ ∧ _))

def UserSubscription.Upgraded (r : UserSubscription) : Prop :=
  r.status = .expired ∧ r.upgradeGroup ≠ ""

instance (r : UserSubscription) : Decidable r.Upgraded := inferInstanceAs (Decidable (_ ∧ _))

/-- `Order("end_time desc, id desc")`. -/
def EndsAfter (a b : UserSubscription) : Prop := toLex (b.endTime, b.id) ≤ toLex (a.endTime, a.id)

instance : DecidableRel EndsAfter := fun _ _ => inferInstanceAs (Decidable (_ ≤ _))

instance : IsTrans UserSubscription EndsAfter := ⟨fun _ _ _ h h' => le_trans h' h⟩

instance : Std.Total EndsAfter := ⟨fun _ _ => le_total _ _⟩

/-- `Order("end_time desc, id desc").Limit(1)`. -/
def latest (rows : List UserSubscription) : Option UserSubscription :=
  (rows.insertionSort EndsAfter).head?

namespace Store

section

variable (s : Store)

def modifySubscription (p : UserSubscription → Bool)
    (f : UserSubscription → UserSubscription) (hf : ∀ r, (f r).id = r.id) : Store :=
  { s with subs := s.subs.modifyWhere p f hf }

/-- `UPDATE user_subscriptions SET status = 'cancelled', end_time = ? WHERE id = ?`. -/
def cancel (id now : ℤ) : Store := s.modifySubscription (fun r => r.id = id)
    (fun r => { r with status := .cancelled, endTime := now }) fun _ => rfl

/-- `DELETE FROM user_subscriptions WHERE id = ?`. -/
def deleteSubscription (id : ℤ) : Store := { s with subs := s.subs.deleteWhere fun r => r.id = id }

/-- `UPDATE user_subscriptions SET status = 'expired' WHERE user_id = ? AND …` for what is due. -/
def expire (userId now : ℤ) : Store := s.modifySubscription (fun r => r.userId = userId ∧ r.Due now)
    (fun r => { r with status := .expired }) fun _ => rfl

/-- The due subscriptions, `Order("end_time asc, id asc")`. -/
def due (now : ℤ) : List UserSubscription :=
  (s.subs.rows.filter fun r => r.Due now).insertionSort fun a b =>
    toLex (a.endTime, a.id) ≤ toLex (b.endTime, b.id)

end

end Store

def downgradeUserGroupForSubscriptionTx (sub : UserSubscription) (now : ℤ) : SubCode String :=
  if trimSpace sub.upgradeGroup = "" then Code.ret ""
  else do
    let currentGroup ← getUserGroupByIdTx sub.userId
    if currentGroup ≠ trimSpace sub.upgradeGroup then Code.ret ""
    else
      let active ← Code.select fun s => s.subs.rows.any fun r =>
        r.userId = sub.userId ∧ r.Upgrading now ∧ r.id ≠ sub.id
      if active then Code.ret ""
      else if trimSpace sub.prevUserGroup = "" ∨ trimSpace sub.prevUserGroup = currentGroup then
        Code.ret ""
      else
        Code.update [.user sub.userId]
          (fun s => s.setGroup sub.userId (trimSpace sub.prevUserGroup))
          fun _ => trimSpace sub.prevUserGroup

/-- The answer to an administrator. -/
def downgradeText (group : String) : String := if group = "" then "" else "用户分组将回退到 " ++ group

def adminInvalidateUserSubscription (timestamp id : ℤ) : SubCode String := do
  Code.failIf (id ≤ 0) .invalidUserSubscriptionId
  let found ← Code.selectForUpdate (.subscription id) fun s => s.subs.find? id
  let sub ← Code.orElse found .recordNotFound
  Code.update [.subscription id] (fun s => s.cancel id timestamp) fun _ => ()
  let group ← downgradeUserGroupForSubscriptionTx sub timestamp
  Code.done (downgradeText group)

def adminDeleteUserSubscription (timestamp id : ℤ) : SubCode String := do
  Code.failIf (id ≤ 0) .invalidUserSubscriptionId
  let found ← Code.selectForUpdate (.subscription id) fun s => s.subs.find? id
  let sub ← Code.orElse found .recordNotFound
  let group ← downgradeUserGroupForSubscriptionTx sub timestamp
  Code.update [.subscription id] (fun s => s.deleteSubscription id) fun _ => ()
  Code.done (downgradeText group)

/-- Move the user back to the group noted in the subscription that expired last. -/
def restoreUserGroup (userId now : ℤ) : SubCode Unit := do
  let active ← Code.select fun s => s.subs.rows.any fun r => r.userId = userId ∧ r.Upgrading now
  if active then Code.ret ()
  else
    let lastExpired ← Code.select fun s =>
      latest (s.subs.rows.filter fun r => r.userId = userId ∧ r.Upgraded)
    match lastExpired with
    | none => Code.ret ()
    | some sub =>
      if trimSpace sub.upgradeGroup = "" ∨ trimSpace sub.prevUserGroup = "" then Code.ret ()
      else
        let currentGroup ← getUserGroupByIdTx userId
        if currentGroup ≠ trimSpace sub.upgradeGroup ∨
            currentGroup = trimSpace sub.prevUserGroup then
          Code.ret ()
        else
          Code.update [.user userId]
            (fun s => s.setGroup userId (trimSpace sub.prevUserGroup)) fun _ => ()

/-- The transactions of `ExpireDueSubscriptions`, one for each user. They are only run alone here,
so the rows that they lock are not listed. -/
def expireUsers (now : ℤ) : List ℤ → ℕ → SubCode ℕ
  | [], expired => Code.ret expired
  | userId :: userIds, expired => do
    let affected ← Code.update [] (fun s => s.expire userId now)
      fun s => s.subs.rows.countP fun r => r.userId = userId ∧ r.Due now
    restoreUserGroup userId now
    Code.commitTx
    expireUsers now userIds (expired + affected)

/-- The users whose subscriptions are to be expired. The source visits them in no fixed order. -/
def usersOf (subs : List UserSubscription) : List ℤ :=
  ((subs.map fun r => r.userId).filter fun userId => 0 < userId).dedup

def expireDueSubscriptions (now limit : ℤ) : SubCode ℕ := do
  let subs ← Code.select fun s => (s.due now).take (if limit ≤ 0 then 200 else limit.toNat)
  expireUsers now (usersOf subs) 0

namespace Store

def purchased (s : Store) (env : Env) (now userId : ℤ) (plan : SubscriptionPlan) (source : String)
    (endUnix : ℤ) : Store :=
  let upgradeGroup := trimSpace plan.upgradeGroup
  if upgradeGroup = "" ∨ s.groupOf userId = upgradeGroup then
    s.createSubscription (newSubscription env.calendar now userId plan source endUnix "")
  else
    (s.setGroup userId upgradeGroup).createSubscription
      (newSubscription env.calendar now userId plan source endUnix (s.groupOf userId))

def downgraded (s : Store) (sub : UserSubscription) (now : ℤ) : Store :=
  if trimSpace sub.upgradeGroup ≠ "" ∧ s.groupOf sub.userId = trimSpace sub.upgradeGroup ∧
      ¬(∃ r ∈ s.subs.rows, r.userId = sub.userId ∧ r.Upgrading now ∧ r.id ≠ sub.id) ∧
      trimSpace sub.prevUserGroup ≠ "" ∧ trimSpace sub.prevUserGroup ≠ s.groupOf sub.userId then
    s.setGroup sub.userId (trimSpace sub.prevUserGroup)
  else s

/-- The store after the user has been moved back for the subscription that expired last. -/
def restored (s : Store) (userId now : ℤ) : Store :=
  if ∃ r ∈ s.subs.rows, r.userId = userId ∧ r.Upgrading now then s
  else
    match latest (s.subs.rows.filter fun r => r.userId = userId ∧ r.Upgraded) with
    | none => s
    | some sub =>
      if trimSpace sub.upgradeGroup ≠ "" ∧ trimSpace sub.prevUserGroup ≠ "" ∧
          s.groupOf userId = trimSpace sub.upgradeGroup ∧
          s.groupOf userId ≠ trimSpace sub.prevUserGroup then
        s.setGroup userId (trimSpace sub.prevUserGroup)
      else s

end Store

section

variable {D : Store → Prop} {view : Store}

variable {userId now : ℤ} {Q : String → Store → Prop}

theorem wp_getUserGroupByIdTx
    (h : Q (view.groupOf userId) view) : (getUserGroupByIdTx userId).wp D Q view := by
  simp only [getUserGroupByIdTx, Code.wp_bind, Code.wp_failIf, Code.wp_select]
  exact fun _ => h

theorem wp_createUserSubscriptionFromPlanTx {env : Env} {plan : SubscriptionPlan}
    {source : String} {Q : Unit → Store → Prop}
    (h : ∀ endUnix, calcPlanEndTime env.calendar now plan = .ok endUnix →
      Q () (view.purchased env now userId plan source endUnix)) :
    (createUserSubscriptionFromPlanTx env now userId plan source).wp D Q view := by
  have hlimit : ∀ {Q : Unit → Store → Prop}, Q () view →
      (checkPurchaseLimit userId plan).wp D Q view := by
    intro Q hQ
    unfold checkPurchaseLimit
    split
    · simp only [Code.wp_bind, Code.wp_failIf, Code.wp_select]
      exact fun _ => hQ
    · exact (Code.wp_ret _).2 hQ
  simp only [createUserSubscriptionFromPlanTx, Code.wp_bind, Code.wp_failIf, Code.wp_ofExcept,
    Code.wp_update]
  refine fun _ _ => hlimit fun endUnix hend => ?_
  have hQ := h endUnix hend
  unfold Store.purchased at hQ
  unfold upgradeUserGroup
  rcases em (trimSpace plan.upgradeGroup = "") with hgroup | hgroup
  · rw [if_pos (.inl hgroup)] at hQ
    rw [if_pos hgroup]
    exact (Code.wp_ret _).2 hQ
  · rw [if_neg hgroup, Code.wp_bind]
    refine wp_getUserGroupByIdTx ?_
    rcases em (view.groupOf userId = trimSpace plan.upgradeGroup) with hcurrent | hcurrent
    · rw [if_pos (.inr hcurrent)] at hQ
      rw [if_pos hcurrent]
      exact (Code.wp_ret _).2 hQ
    · rw [if_neg (not_or.2 ⟨hgroup, hcurrent⟩)] at hQ
      rw [if_neg hcurrent]
      exact (Code.wp_update _ _ _).2 hQ

theorem wp_downgradeUserGroupForSubscriptionTx {sub : UserSubscription}
    (h : ∀ group, Q group (view.downgraded sub now)) :
    (downgradeUserGroupForSubscriptionTx sub now).wp D Q view := by
  unfold Store.downgraded at h
  unfold downgradeUserGroupForSubscriptionTx
  rcases em (trimSpace sub.upgradeGroup = "") with hgroup | hgroup
  · rw [if_pos hgroup]
    rw [if_neg fun hc => hc.1 hgroup] at h
    exact (Code.wp_ret _).2 (h _)
  rw [if_neg hgroup, Code.wp_bind]
  refine wp_getUserGroupByIdTx ?_
  rcases em (view.groupOf sub.userId = trimSpace sub.upgradeGroup) with hcurrent | hcurrent
  swap
  · rw [if_pos hcurrent]
    rw [if_neg fun hc => hcurrent hc.2.1] at h
    exact (Code.wp_ret _).2 (h _)
  rw [if_neg (not_not.2 hcurrent), Code.wp_bind, Code.wp_select]
  rcases em (∃ r ∈ view.subs.rows, r.userId = sub.userId ∧ r.Upgrading now ∧ r.id ≠ sub.id) with
    hactive | hactive
  · rw [if_pos (by simpa using hactive)]
    rw [if_neg fun hc => hc.2.2.1 hactive] at h
    exact (Code.wp_ret _).2 (h _)
  rw [if_neg (by simpa using hactive)]
  rcases em (trimSpace sub.prevUserGroup = "" ∨
      trimSpace sub.prevUserGroup = view.groupOf sub.userId) with hprev | hprev
  · rw [if_pos hprev]
    rw [if_neg fun hc => hprev.elim hc.2.2.2.1 hc.2.2.2.2] at h
    exact (Code.wp_ret _).2 (h _)
  · rw [if_neg hprev]
    rw [not_or] at hprev
    rw [if_pos ⟨hgroup, hcurrent, hactive, hprev⟩] at h
    exact (Code.wp_update _ _ _).2 (h _)

theorem wp_restoreUserGroup {Q : Unit → Store → Prop}
    (h : Q () (view.restored userId now)) : (restoreUserGroup userId now).wp D Q view := by
  unfold Store.restored at h
  simp only [restoreUserGroup, Code.wp_bind, Code.wp_select]
  rcases em (∃ r ∈ view.subs.rows, r.userId = userId ∧ r.Upgrading now) with hactive | hactive
  · rw [if_pos (by simpa using hactive)]
    rw [if_pos hactive] at h
    exact (Code.wp_ret _).2 h
  rw [if_neg (by simpa using hactive), Code.wp_bind, Code.wp_select]
  rw [if_neg hactive] at h
  cases hlast : latest (view.subs.rows.filter fun r => r.userId = userId ∧ r.Upgraded) with
  | none =>
    rw [hlast] at h
    exact (Code.wp_ret _).2 h
  | some sub =>
    simp only [hlast] at h
    rcases em (trimSpace sub.upgradeGroup = "" ∨ trimSpace sub.prevUserGroup = "") with
      hempty | hempty
    · simp only [if_pos hempty]
      rw [if_neg fun hc => hempty.elim hc.1 hc.2.1] at h
      exact (Code.wp_ret _).2 h
    simp only [if_neg hempty]
    rw [Code.wp_bind]
    refine wp_getUserGroupByIdTx ?_
    rw [not_or] at hempty
    rcases em (view.groupOf userId ≠ trimSpace sub.upgradeGroup ∨
        view.groupOf userId = trimSpace sub.prevUserGroup) with hcurrent | hcurrent
    · rw [if_pos hcurrent]
      rw [if_neg fun hc => hcurrent.elim (fun hne => hne hc.2.2.1) hc.2.2.2] at h
      exact (Code.wp_ret _).2 h
    · rw [if_neg hcurrent]
      rw [not_or, not_not] at hcurrent
      rw [if_pos ⟨hempty.1, hempty.2, hcurrent⟩] at h
      exact (Code.wp_update _ _ _).2 h

/-- Each transaction of the expiry establishes what the ones before it did. -/
theorem wp_expireUsers (hD : ∀ s userId, D s → D ((s.expire userId now).restored userId now))
    (userIds : List ℤ) (expired : ℕ) (h : D view) :
    (expireUsers now userIds expired).wp D (fun _ _ => True) view := by
  induction userIds generalizing view expired with
  | nil => exact (Code.wp_ret _).2 trivial
  | cons userId userIds ih =>
    simp only [expireUsers, Code.wp_bind, Code.wp_update, Code.wp_commitTx]
    refine wp_restoreUserGroup ?_
    have hcommit := hD view userId h
    exact ⟨hcommit, ih _ hcommit⟩

end

def UserSubscription.expired (r : UserSubscription) : UserSubscription :=
  { r with status := .expired }

theorem Store.mem_expire {s : Store} {userId now : ℤ} {r : UserSubscription} :
    r ∈ (s.expire userId now).subs.rows ↔ ∃ r₀ ∈ s.subs.rows,
      (if r₀.userId = userId ∧ r₀.Due now then r₀.expired else r₀) = r := by
  simp only [expire, modifySubscription, SubscriptionTable.mem_modifyWhere, decide_eq_true_eq,
    UserSubscription.expired]

theorem Store.restored_subs (s : Store) (userId now : ℤ) :
    (s.restored userId now).subs = s.subs := by
  unfold restored
  split
  · rfl
  split
  · rfl
  split <;> rfl

theorem Store.isSome_find?_restored (s : Store) (userId now id : ℤ) :
    ((s.restored userId now).users.find? id).isSome = (s.users.find? id).isSome := by
  unfold restored
  split
  · rfl
  split
  · rfl
  split
  · exact s.isSome_find?_setGroup _ _ id
  · rfl

section

variable {rows : List UserSubscription} {sub r : UserSubscription}

theorem mem_of_latest (h : latest rows = some sub) : sub ∈ rows :=
  (List.mem_insertionSort _).1 (List.mem_of_head? h)

theorem latest_ne_none (hr : r ∈ rows) : latest rows ≠ none := by
  intro h
  have hmem := (List.mem_insertionSort EndsAfter).2 hr
  rw [List.head?_eq_none_iff.1 h] at hmem
  cases hmem

theorem endTime_le_of_latest (h : latest rows = some sub) (hr : r ∈ rows) :
    r.endTime ≤ sub.endTime := by
  obtain ⟨rest, hrest⟩ := List.head?_eq_some_iff.1 h
  have hsorted := List.pairwise_insertionSort EndsAfter rows
  have hmem := (List.mem_insertionSort EndsAfter).2 hr
  rw [hrest] at hsorted hmem
  rcases List.mem_cons.1 hmem with rfl | hin
  · exact le_rfl
  · have hafter : EndsAfter sub r := List.rel_of_pairwise_cons hsorted hin
    rcases Prod.Lex.toLex_le_toLex.1 hafter with hlt | ⟨heq, -⟩
    · exact hlt.le
    · exact heq.le

end

end Mujian.Subscriptions
