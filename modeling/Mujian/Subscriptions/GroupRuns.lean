import Mujian.Subscriptions.GroupSound

/-!
# The group after every upgrade has ended

The noted group is the one at the time of the purchase, so it is the wrong one when upgrades
overlap (`group_kept_after_renewal`). `group_restored` says that this is the only problem: if a user
buys an upgrade only when none is active, then the user is back in the first group whenever no
upgrade is active and everything due has expired.
-/

namespace Mujian.Subscriptions

inductive GroupOp
  | completeOrder (tradeNo providerPayload : String)
  | adminBind (userId planId : ℤ)
  | adminInvalidate (id : ℤ)
  | adminDelete (id : ℤ)
  | expireDue (limit : ℤ)

/-- A call, with the time that has passed on the database clock since the last one, and the time
on the process clock. -/
structure GroupCall where
  elapsed : ℕ
  timestamp : ℤ
  op : GroupOp

/-- The tables and the time on the database clock. -/
structure GroupState where
  store : Store
  now : ℤ

section

variable (env : Env) (userId : ℤ) (s : GroupState) (call : GroupCall)

def GroupOp.code (clock : Clock) : GroupOp → SubCode Unit
  | completeOrder tradeNo providerPayload =>
    completeSubscriptionOrder env clock tradeNo providerPayload
  | adminBind userId planId => do let _ ← adminBindSubscription env clock userId planId
  | adminInvalidate id => do let _ ← adminInvalidateUserSubscription clock.timestamp id
  | adminDelete id => do let _ ← adminDeleteUserSubscription clock.timestamp id
  | expireDue limit => do let _ ← expireDueSubscriptions clock.now limit

def GroupOp.target (s : Store) : GroupOp → Option (ℤ × ℤ)
  | completeOrder tradeNo _ =>
    ((s.orders.find? tradeNo).filter fun order => order.status = .pending).map
      fun order => (order.userId, order.planId)
  | adminBind userId planId => some (userId, planId)
  | _ => none

def GroupState.step : GroupState where
  store := (call.op.code env ⟨s.now + call.elapsed, call.timestamp⟩).exec s.store
  now := s.now + call.elapsed

def GroupState.run (calls : List GroupCall) : GroupState := calls.foldl (GroupState.step env) s

def EndsLater (cal : PlanCalendar) (now : ℤ) (plan : SubscriptionPlan) : Prop :=
  ∀ endUnix ∈ (calcPlanEndTime cal now plan).toOption, 0 < endUnix ∧ now < endUnix

instance (cal : PlanCalendar) (now : ℤ) (plan : SubscriptionPlan) :
    Decidable (EndsLater cal now plan) :=
  inferInstanceAs (Decidable (∀ endUnix ∈ (calcPlanEndTime cal now plan).toOption, _))

def Store.NoUpgrade (s : Store) (userId : ℤ) : Prop :=
  ∀ r ∈ s.subs.rows, ¬(r.userId = userId ∧ r.upgradeGroup ≠ "" ∧ r.status = .active)

instance (s : Store) (userId : ℤ) : Decidable (s.NoUpgrade userId) :=
  inferInstanceAs (Decidable (∀ r ∈ s.subs.rows, _))

/-- The user buys a plan with an upgrade group only when no upgrade is marked as active, and for
some time. -/
def UpgradesApart : Prop := ∀ target ∈ call.op.target s.store, target.1 = userId →
    ∀ plan ∈ env.plans.find? target.2, trimSpace plan.upgradeGroup ≠ "" →
      s.store.NoUpgrade userId ∧ EndsLater env.calendar (s.now + call.elapsed) plan

end

instance (env : Env) (userId : ℤ) (s : GroupState) (call : GroupCall) :
    Decidable (UpgradesApart env userId s call) :=
  inferInstanceAs (Decidable (∀ target ∈ call.op.target s.store, _ →
    ∀ plan ∈ env.plans.find? target.2, _))

section

variable {env : Env} {userId : ℤ} {base : String}

theorem wp_purchase {now id planId : ℤ} {view : Store} (h : GroupSound userId base now view)
    (hcond : id = userId → ∀ plan ∈ env.plans.find? planId, trimSpace plan.upgradeGroup ≠ "" →
      view.NoUpgrade userId ∧ EndsLater env.calendar now plan) {α : Type} {source : String}
    {g : SubscriptionPlan → SubCode α} {D : Store → Prop} {Q : α → Store → Prop}
    (hg : ∀ plan v, GroupSound userId base now v → (g plan).wp D Q v) :
    (getSubscriptionPlanById env planId >>= fun plan =>
      createUserSubscriptionFromPlanTx env now id plan source >>= fun _ => g plan).wp D Q view := by
  simp only [getSubscriptionPlanById, Code.wp_bind, Code.wp_failIf, Code.wp_orElse]
  intro _ plan hplan
  refine wp_createUserSubscriptionFromPlanTx fun endUnix hend => hg plan _ (h.purchased ?_)
  intro hid hgroup
  obtain ⟨hnone, hlater⟩ := hcond hid plan hplan hgroup
  refine ⟨fun r hr hup hact => hnone r hr ⟨hup.1, hup.2, hact⟩, hlater endUnix ?_⟩
  rw [hend]
  rfl

/-- A call on sound groups establishes them at each of its commits. -/
theorem wp_groupOp (hbase : Restorable base) {clock : Clock} {view : Store}
    (h : GroupSound userId base clock.now view) (op : GroupOp)
    (hcond : ∀ target ∈ op.target view, target.1 = userId →
      ∀ plan ∈ env.plans.find? target.2, trimSpace plan.upgradeGroup ≠ "" →
        view.NoUpgrade userId ∧ EndsLater env.calendar clock.now plan) :
    (op.code env clock).wp (GroupSound userId base clock.now) (fun _ _ => True) view := by
  cases op with
  | completeOrder tradeNo providerPayload =>
    simp only [GroupOp.code, completeSubscriptionOrder]
    rw [Code.wp_bind, Code.wp_failIf]
    intro _
    rw [Code.wp_bind, Code.wp_selectForUpdate, Code.wp_bind, Code.wp_orElse]
    intro order horder
    split
    · exact (Code.wp_done _).2 ⟨h, trivial⟩
    rw [Code.wp_bind, Code.wp_failIf]
    intro hstatus
    refine wp_purchase h (fun hid plan hplan => ?_) fun plan v hv => ?_
    · refine hcond (order.userId, order.planId) ?_ hid plan hplan
      simp [GroupOp.target, horder, not_not.1 hstatus]
    · -- the other tables do not matter for the groups
      rw [Code.wp_bind]
      refine (keeps_upsertSubscriptionTopUpTx (R := fun s => (s.users, s.subs))
        (fun _ _ => rfl) order _).wp fun _ v' hv' => ?_
      obtain ⟨husers, hsubs⟩ := Prod.mk.inj hv'
      rw [Code.wp_bind, Code.wp_update, Code.wp_done]
      exact ⟨hv.of_eq husers hsubs, trivial⟩
  | adminBind id planId =>
    simp only [GroupOp.code, adminBindSubscription]
    rw [Code.wp_bind, Code.wp_bind, Code.wp_failIf]
    intro _
    refine wp_purchase h (fun hid plan hplan => ?_) fun plan v hv => ?_
    swap
    · rw [Code.wp_done, Code.wp_pure]
      exact ⟨hv, trivial⟩
    exact hcond (id, planId) rfl hid plan hplan
  | adminInvalidate id =>
    simp only [GroupOp.code, adminInvalidateUserSubscription, Code.wp_bind, Code.wp_failIf,
      Code.wp_selectForUpdate, Code.wp_orElse, Code.wp_update, Code.wp_done, Code.wp_pure]
    intro _ sub hfind
    obtain rfl : sub.id = id := Table.key_of_find? hfind
    have hsound := h.cancel hbase (Table.mem_of_find? hfind) clock.timestamp
    exact wp_downgradeUserGroupForSubscriptionTx fun group => And.intro hsound trivial
  | adminDelete id =>
    simp only [GroupOp.code, adminDeleteUserSubscription, Code.wp_bind, Code.wp_failIf,
      Code.wp_selectForUpdate, Code.wp_orElse, Code.wp_update, Code.wp_done, Code.wp_pure]
    intro _ sub hfind
    obtain rfl : sub.id = id := Table.key_of_find? hfind
    have hsound := h.delete hbase (Table.mem_of_find? hfind) clock.timestamp
    exact wp_downgradeUserGroupForSubscriptionTx fun group => And.intro hsound trivial
  | expireDue limit =>
    simp only [GroupOp.code, expireDueSubscriptions, Code.wp_bind, Code.wp_select, Code.wp_pure]
    exact wp_expireUsers (fun s id hs => hs.expire hbase id) _ _ h

theorem groupSound_step (hbase : Restorable base) (s : GroupState) (call : GroupCall)
    (h : GroupSound userId base s.now s.store) (hcond : UpgradesApart env userId s call) :
    GroupSound userId base (s.step env call).now (s.step env call).store := by
  have hnow : GroupSound userId base (s.now + call.elapsed) s.store := h.mono (by omega)
  have hwp : (call.op.code env ⟨s.now + call.elapsed, call.timestamp⟩).wp
      (GroupSound userId base (s.now + call.elapsed)) (fun _ _ => True) s.store :=
    @wp_groupOp env userId base hbase ⟨s.now + call.elapsed, call.timestamp⟩ s.store hnow call.op
      hcond
  exact Code.of_exec hnow hwp

/-- **The group is restored.** If a user who starts without an upgrade buys upgrades only when none
is active, then whenever nothing of the user is due to expire and no upgrade is active, the user is
in the group of the start. -/
theorem group_restored (hbase : Restorable base) (s : GroupState)
    (huser : s.store.users.find? userId = some ⟨userId, base⟩)
    (hfirst : ∀ r ∈ s.store.subs.rows, r.userId = userId → r.upgradeGroup = "")
    (calls : List GroupCall)
    (hmeets : Runs.Meets (GroupState.step env) (UpgradesApart env userId) s calls)
    (hdue : ∀ r ∈ (s.run env calls).store.subs.rows, r.userId = userId →
      ¬r.Due (s.run env calls).now)
    (hnone : ∀ r ∈ (s.run env calls).store.subs.rows, r.userId = userId →
      ¬r.Upgrading (s.run env calls).now) :
    (s.run env calls).store.groupOf userId = base := by
  have hno : ∀ r ∈ s.store.subs.rows, ¬r.Upgrades userId :=
    fun r hr hup => hup.2 (hfirst r hr hup.1)
  have hgroup : s.store.groupOf userId = base := by
    rw [Store.groupOf, huser]
    rfl
  have hstart : GroupSound userId base s.now s.store :=
    { known := by rw [huser]; rfl
      notes := fun r hr hup => absurd hup (hno r hr)
      unique := fun r hr _ _ hup => absurd hup (hno r hr)
      idle := fun _ => hgroup
      busy := fun _ _ _ _ => .inr hgroup
      later := fun r hr hup => absurd hup (hno r hr)
      past := fun r hr hup => absurd hup (hno r hr) }
  have h : GroupSound userId base (s.run env calls).now (s.run env calls).store :=
    Runs.induction (P := fun s : GroupState => GroupSound userId base s.now s.store)
      (groupSound_step hbase) hstart hmeets
  refine h.idle fun r hr hup hact => ?_
  -- an active upgrade would be due or still running
  have hpos := (h.later r hr hup hact).1
  by_cases hle : r.endTime ≤ (s.run env calls).now
  · exact hdue r hr hup.1 ⟨hact, hpos, hle⟩
  · exact hnone r hr hup.1 ⟨hact, not_le.1 hle, hup.2⟩

end

def vipPlan : SubscriptionPlan := ⟨⟨"never", 0⟩, 5, .hour, 1, 0, 0, "vip", 1000⟩

def vipEnv : Env := ⟨⟨[vipPlan], by decide⟩, utcCalendar⟩

def vipState : GroupState where
  store := ⟨orderedStore.users, .empty, .empty, .empty⟩
  now := 1000

/-- The second purchase comes after the first one has expired. -/
def upgradedTwice : List GroupCall :=
  [⟨0, 0, .adminBind 1 5⟩, ⟨3600, 0, .expireDue 300⟩, ⟨10, 0, .adminBind 1 5⟩,
    ⟨3600, 0, .expireDue 300⟩]

theorem group_restored_sample : Restorable "default" ∧
      Runs.Meets (GroupState.step vipEnv) (UpgradesApart vipEnv 1) vipState upgradedTwice ∧
      (vipState.run vipEnv upgradedTwice).store.groupOf 1 = "default" :=
  have hbase : Restorable "default" := by decide
  have hmeets : Runs.Meets (GroupState.step vipEnv) (UpgradesApart vipEnv 1) vipState
      upgradedTwice := by decide +kernel
  ⟨hbase, hmeets, group_restored hbase vipState (by decide) (by decide) upgradedTwice hmeets
    (by decide +kernel) (by decide +kernel)⟩

/-- The user renews before the first subscription has expired, and is still in the upgrade group
after both have. -/
theorem group_kept_after_renewal :
    let s := vipState.run vipEnv
      [⟨0, 0, .adminBind 1 5⟩, ⟨10, 0, .adminBind 1 5⟩, ⟨7200, 0, .expireDue 300⟩]
    (s.store.subs.rows.map fun r => r.status) = [.expired, .expired] ∧
      vipState.store.groupOf 1 = "default" ∧ s.store.groupOf 1 = "vip" := by decide +kernel

end Mujian.Subscriptions
