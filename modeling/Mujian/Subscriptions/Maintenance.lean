import Mujian.Subscriptions.Groups
import Mujian.Foundations.Batches

/-!
# The maintenance pass over the subscriptions

`runSubscriptionQuotaResetOnce` expires the subscriptions that have ended and resets the usage of
those whose reset is due, both in batches, and goes on as long as a batch was full. A round of the
second loop counts every row whose plan exists, also one that stays due because the plan has been
edited. So the pass does not end when such rows fill a batch (`pass_stuck`), and
`maintenance_halts_iff` says that this is the only way.
-/

namespace Mujian.Subscriptions

open Billing (resetRow)

def UserSubscription.ResetDue (now : ℤ) (r : UserSubscription) : Prop :=
  0 < r.nextResetTime ∧ r.nextResetTime ≤ now ∧ r.status = .active

instance (now : ℤ) (r : UserSubscription) : Decidable (r.ResetDue now) :=
  inferInstanceAs (Decidable (_ ∧ _ ∧ _))

/-- `Order("next_reset_time asc")`, and by id among equals. -/
def ResetBefore (a b : UserSubscription) : Prop :=
  toLex (a.nextResetTime, a.id) ≤ toLex (b.nextResetTime, b.id)

instance : DecidableRel ResetBefore := fun _ _ => inferInstanceAs (Decidable (_ ≤ _))

instance : IsTrans UserSubscription ResetBefore := ⟨fun _ _ _ h h' => le_trans h h'⟩

instance : Std.Total ResetBefore := ⟨fun _ _ => le_total _ _⟩

def Env.plan? (env : Env) (planId : ℤ) : Option SubscriptionPlan :=
  if planId ≤ 0 then none else env.plans.find? planId

def UserSubscription.withReset (r : UserSubscription) (row : Billing.UserSubscription) :
    UserSubscription :=
  { r with
    amountUsed := row.amountUsed, lastResetTime := row.lastResetTime
    nextResetTime := row.nextResetTime, resets := row.resets
    id_pos := r.pos_id }

namespace Store

def resetDue (s : Store) (now : ℤ) : List UserSubscription :=
  (s.subs.rows.filter fun r => r.ResetDue now).insertionSort ResetBefore

def saveReset (s : Store) (id : ℤ) (row : Billing.UserSubscription) : Store :=
  s.modifySubscription (fun r => r.id = id) (fun r => r.withReset row) fun _ => rfl

end Store

theorem nodup_resetDue (s : Store) (now : ℤ) : (s.resetDue now).Nodup := by
  have hrows : s.subs.rows.Nodup := List.Nodup.of_map _ s.subs.nodup_keys
  exact (List.perm_insertionSort _ _).nodup_iff.2 (hrows.filter _)

variable {s s' : Store} {now : ℤ} {env : Env}

theorem mem_resetDue {r : UserSubscription} :
    r ∈ s.resetDue now ↔ r ∈ s.subs.rows ∧ r.ResetDue now := by
  rw [Store.resetDue, List.mem_insertionSort, List.mem_filter, decide_eq_true_eq]

section

variable (env : Env) (now : ℤ) (sub : UserSubscription)

def maybeResetUserSubscriptionWithPlanTx (plan : SubscriptionPlan) (now : ℤ) : SubCode Unit :=
  match resetRow env.calendar.toCalendar sub.toUserSubscription plan.toSubscriptionPlan now with
  | none => Code.ret ()
  | some row => Code.update [.subscription sub.id] (fun s => s.saveReset sub.id row) fun _ => ()

/-- The transaction of `ResetDueSubscriptions` for one row, with what it adds to the count. -/
def resetSubscription : SubCode ℕ :=
  match env.plan? sub.planId with
  | none => Code.ret 0
  | some plan => do
    let found ← Code.selectForUpdate (.subscription sub.id) fun s =>
      (s.subs.find? sub.id).filter fun r => 0 < r.nextResetTime ∧ r.nextResetTime ≤ now
    match found with
    | none => Code.done 0
    | some locked => do
      maybeResetUserSubscriptionWithPlanTx env locked plan now
      Code.done 1

def resetSubscriptions (env : Env) (now : ℤ) : List UserSubscription → ℕ → SubCode ℕ
  | [], resetCount => Code.ret resetCount
  | sub :: subs, resetCount => do
    let n ← resetSubscription env now sub
    resetSubscriptions env now subs (resetCount + n)

def resetDueSubscriptions (now limit : ℤ) : SubCode ℕ := do
  let subs ← Code.select fun s => (s.resetDue now).take (if limit ≤ 0 then 200 else limit.toNat)
  resetSubscriptions env now subs 0

def subscriptionResetBatchSize : ℕ := 300

/-- A round of a loop over batches. The loop ends with the database, or without one after an
error. -/
def batchRound (batch : SubCode ℕ) (s : Store) : Store ⊕ Option Store :=
  match batch.run s s with
  | (.error _, _, _) => .inr none
  | (.ok n, s', _) =>
    if n = 0 then .inr (some s')
    else if n < subscriptionResetBatchSize then .inr (some s')
    else .inl s'

def expireRound : Store → Store ⊕ Option Store :=
  batchRound (expireDueSubscriptions now subscriptionResetBatchSize)

def resetRound : Store → Store ⊕ Option Store :=
  batchRound (resetDueSubscriptions env now subscriptionResetBatchSize)

/-- The loops of `runSubscriptionQuotaResetOnce` end: the first does, and so does the second on
the database that the first leaves. -/
def PassHalts (s : Store) : Prop := ∃ result, Loop.Yields (expireRound now) s result ∧
    ∀ s', result = some s' → Loop.Halts (resetRound env now) s'

end

theorem batchRound_eq_inl {batch : SubCode ℕ} (h : batchRound batch s = .inl s') :
    ∃ n v, batch.run s s = (.ok n, s', v) ∧ subscriptionResetBatchSize ≤ n := by
  unfold batchRound at h
  rcases hrun : batch.run s s with ⟨e | n, s₁, v⟩
  · rw [hrun] at h
    cases h
  · simp only [hrun] at h
    split at h
    · cases h
    split at h
    · cases h
    · rename_i hfull
      cases h
      exact ⟨n, v, rfl, not_lt.1 hfull⟩

theorem keeps_restoreUserGroup (userId now : ℤ) :
    Code.Keeps Store.subs (restoreUserGroup userId now) := by
  refine .bind (.select _) fun active => ?_
  split
  · exact .ret _
  refine .bind (.select _) fun lastExpired => ?_
  split
  · exact .ret _
  split
  · exact .ret _
  refine .bind (.bind (.failIf _ _) fun _ => .select _) fun currentGroup => ?_
  split
  · exact .ret _
  · exact .update _ (fun s => s.setGroup_subs _ _) _

theorem countP_due_expire (s : Store) (userId now : ℤ) :
    (s.subs.rows.countP fun r => r.userId = userId ∧ r.Due now) +
        ((s.expire userId now).subs.rows.countP fun r => r.Due now) =
      s.subs.rows.countP fun r => r.Due now := by
  rw [Store.expire, Store.modifySubscription, SubscriptionTable.rows_modifyWhere, List.countP_map]
  induction s.subs.rows with
  | nil => rfl
  | cons r rows ih =>
    simp only [List.countP_cons, Function.comp_apply]
    have hrow : (if decide (r.userId = userId ∧ r.Due now) = true then 1 else 0) +
        (if decide (UserSubscription.Due now
          (if decide (r.userId = userId ∧ r.Due now) = true then { r with status := .expired }
            else r)) = true then 1 else 0) =
        if decide (r.Due now) = true then 1 else 0 := by
      by_cases h : r.userId = userId ∧ r.Due now
      · simp only [decide_eq_true h, decide_eq_true h.2]
        rfl
      · simp only [decide_eq_false h, Bool.false_eq_true, if_false, zero_add]
    omega

theorem countP_due_expireUsers {userIds : List ℤ} {expired n : ℕ} {v : Store}
    (h : (expireUsers now userIds expired).run s s = (.ok n, s', v)) :
    n + (s'.subs.rows.countP fun r => r.Due now) =
      expired + s.subs.rows.countP fun r => r.Due now := by
  induction userIds generalizing expired s with
  | nil =>
    cases h
    rfl
  | cons userId userIds ih =>
    obtain ⟨hdb, hsubs⟩ := (keeps_restoreUserGroup userId now).run s
      (s.expire userId now)
    change ((restoreUserGroup userId now >>= _).run s (s.expire userId now)) = _ at h
    rw [Code.run_bind] at h
    rcases hrun : (restoreUserGroup userId now).run s (s.expire userId now) with ⟨e | u, db, view⟩
    · rw [hrun] at h
      cases h
    · rw [hrun] at h hsubs
      have hrest := ih h
      rw [hsubs u rfl] at hrest
      have := countP_due_expire s userId now
      dsimp only at hrest
      omega

/-- **The loop that expires subscriptions ends.** -/
theorem halts_expireRound (now : ℤ) (s : Store) : Loop.Halts (expireRound now) s := by
  refine Loop.halts_of_measure (I := fun _ => True)
    (fun s => s.subs.rows.countP fun r => r.Due now) (fun s s' _ hstep => ⟨trivial, ?_⟩) trivial
  obtain ⟨n, v, hrun, hfull⟩ := batchRound_eq_inl hstep
  have hcount := countP_due_expireUsers hrun
  have : 0 < subscriptionResetBatchSize := by decide
  omega

namespace UserSubscription

variable (env : Env) (now : ℤ)

section

variable (r : UserSubscription)

def settled : UserSubscription :=
  match env.plan? r.planId with
  | none => r
  | some plan =>
    match resetRow env.calendar.toCalendar r.toUserSubscription plan.toSubscriptionPlan now with
    | none => r
    | some row => r.withReset row

def moves : Bool :=
  match env.plan? r.planId with
  | none => false
  | some plan =>
    (resetRow env.calendar.toCalendar r.toUserSubscription plan.toSubscriptionPlan now).isSome

/-- The reset counts the row. -/
def counts : Bool := (env.plan? r.planId).isSome

end

variable {env now} {r : UserSubscription}

theorem counts_of_moves (h : r.moves env now = true) : r.counts env = true := by
  unfold moves at h
  unfold counts
  split at h
  · cases h
  · rename_i hplan
    rw [hplan]
    rfl

theorem settled_of_not_moves (h : r.moves env now = false) : r.settled env now = r := by
  unfold moves at h
  unfold settled
  split
  · rfl
  · rename_i hplan
    simp only [hplan] at h
    rw [Option.isSome_eq_false_iff, Option.isNone_iff_eq_none] at h
    rw [h]

theorem settled_id (r : UserSubscription) : (r.settled env now).id = r.id := by
  unfold settled
  split
  · rfl
  · split
    · rfl
    · rfl

theorem not_resetDue_settled (hcal : env.calendar.Forward)
    (hplans : ∀ plan ∈ env.plans.rows, ¬plan.toSubscriptionPlan.Frozen)
    (h : r.moves env now = true) : ¬(r.settled env now).ResetDue now := by
  unfold moves at h
  split at h
  · cases h
  rename_i plan hplan
  obtain ⟨row, hrow⟩ := Option.isSome_iff_exists.1 h
  have hmem : plan ∈ env.plans.rows := by
    unfold Env.plan? at hplan
    split at hplan
    · cases hplan
    · exact Table.mem_of_find? hplan
  have hsettled : r.settled env now = r.withReset row := by
    unfold settled
    simp only [hplan, hrow]
  rw [hsettled]
  exact fun hdue => Billing.not_due_resetRow hcal (hplans plan hmem) hrow ⟨hdue.1, hdue.2.1⟩

end UserSubscription

def settledRows (env : Env) (now : ℤ) (batch rows : List UserSubscription) :
    List UserSubscription :=
  rows.map fun r => if r ∈ batch then r.settled env now else r

theorem run_resetSubscription (env : Env) {sub : UserSubscription}
    (hsub : sub ∈ s.subs.rows) (hdue : sub.ResetDue now) :
    ∃ s₁ : Store, s₁.subs.rows = settledRows env now [sub] s.subs.rows ∧
      (resetSubscription env now sub).run s s =
        (.ok (if sub.counts env then 1 else 0), s₁, s₁) := by
  have hself : sub.settled env now = sub → s.subs.rows = settledRows env now [sub] s.subs.rows := by
    intro hsettled
    refine (List.map_id _).symm.trans (List.map_congr_left fun r _ => ?_)
    split
    · rename_i hr
      rw [List.mem_singleton.1 hr, hsettled]
      rfl
    · rfl
  unfold UserSubscription.settled at hself
  unfold resetSubscription UserSubscription.counts
  cases hplan : env.plan? sub.planId with
  | none =>
    rw [hplan] at hself
    exact ⟨s, hself rfl, rfl⟩
  | some plan =>
    have hfind : (s.subs.find? sub.id).filter
        (fun r => 0 < r.nextResetTime ∧ r.nextResetTime ≤ now) = some sub := by
      rw [show s.subs.find? sub.id = some sub from Table.find?_key_of_mem hsub, Option.filter_some,
        if_pos]
      exact decide_eq_true ⟨hdue.1, hdue.2.1⟩
    simp only [Code.bind_eq, Code.selectForUpdate_bind, Code.run, hfind,
      maybeResetUserSubscriptionWithPlanTx]
    rw [hplan] at hself
    cases hrow :
        resetRow env.calendar.toCalendar sub.toUserSubscription plan.toSubscriptionPlan now with
    | none =>
      simp only [hrow] at hself
      exact ⟨s, hself trivial, rfl⟩
    | some row =>
      refine ⟨s.saveReset sub.id row, List.map_congr_left fun r hr => ?_, rfl⟩
      by_cases hid : r.id = sub.id
      · have hr' : r = sub := s.subs.eq_of_key_eq hr hsub hid
        rw [if_pos (decide_eq_true hid), if_pos (List.mem_singleton.2 hr'), hr',
          UserSubscription.settled, hplan]
        simp only [hrow]
      · rw [if_neg (by simpa using hid), if_neg]
        exact fun hmem => hid (List.mem_singleton.1 hmem ▸ rfl)

theorem run_resetSubscriptions (env : Env) {batch : List UserSubscription} (n : ℕ)
    (hmem : ∀ r ∈ batch, r ∈ s.subs.rows) (hdue : ∀ r ∈ batch, r.ResetDue now)
    (hnodup : batch.Nodup) :
    ∃ s' : Store, s'.subs.rows = settledRows env now batch s.subs.rows ∧
      (resetSubscriptions env now batch n).run s s =
        (.ok (n + batch.countP fun r => r.counts env), s', s') := by
  induction batch generalizing n s with
  | nil =>
    refine ⟨s, (List.map_id _).symm.trans (List.map_congr_left fun r _ => ?_), rfl⟩
    rfl
  | cons sub batch ih =>
    obtain ⟨hsub, hnodup⟩ := List.nodup_cons.1 hnodup
    have hsubmem := hmem sub List.mem_cons_self
    obtain ⟨s₁, hrows₁, hrun₁⟩ := run_resetSubscription env hsubmem (hdue sub List.mem_cons_self)
    -- the other rows of the batch are still as they were read
    have hmem₁ : ∀ r ∈ batch, r ∈ s₁.subs.rows := by
      intro r hr
      rw [hrows₁]
      refine List.mem_map.2 ⟨r, hmem r (List.mem_cons_of_mem _ hr), if_neg fun h => ?_⟩
      exact hsub (List.mem_singleton.1 h ▸ hr)
    obtain ⟨s', hrows, hrun⟩ := ih (n + if sub.counts env then 1 else 0) hmem₁
      (fun r hr => hdue r (List.mem_cons_of_mem _ hr)) hnodup
    refine ⟨s', ?_, ?_⟩
    · rw [hrows, hrows₁, settledRows, settledRows, List.map_map]
      refine List.map_congr_left fun r hr => ?_
      by_cases hrsub : r = sub
      · subst hrsub
        have hnot : r.settled env now ∉ batch := fun h => by
          have : r.settled env now = r := s.subs.eq_of_key_eq
            (hmem _ (List.mem_cons_of_mem _ h)) hr (UserSubscription.settled_id r)
          exact hsub (this ▸ h)
        rw [Function.comp_apply, if_pos (List.mem_singleton.2 rfl), if_neg hnot,
          if_pos List.mem_cons_self]
      · rw [Function.comp_apply, if_neg (mt List.mem_singleton.1 hrsub)]
        simp only [List.mem_cons, hrsub, false_or]
    · rw [resetSubscriptions, Code.run_bind, hrun₁]
      dsimp only
      rw [hrun, List.countP_cons, add_assoc, add_comm (List.countP _ _)]

section

variable (hcal : env.calendar.Forward)
  (hplans : ∀ plan ∈ env.plans.rows, ¬plan.toSubscriptionPlan.Frozen)
include hcal hplans

/-- The rows of a batch that the reset changes are no longer due, and the others stay. -/
theorem filter_settledRows (batch rows : List UserSubscription) :
    (settledRows env now batch rows).filter (fun r => r.ResetDue now) =
      (rows.filter fun r => r.ResetDue now).filter
        fun r => !(decide (r ∈ batch) && r.moves env now) := by
  set settle : UserSubscription → UserSubscription :=
    fun r => if r ∈ batch then r.settled env now else r with hsettle
  have hmoved : ∀ r, (decide (r ∈ batch) && r.moves env now) = true → ¬(settle r).ResetDue now := by
    intro r h
    rw [Bool.and_eq_true, decide_eq_true_eq] at h
    rw [hsettle]
    dsimp only
    rw [if_pos h.1]
    exact UserSubscription.not_resetDue_settled hcal hplans h.2
  have hstays : ∀ r, (decide (r ∈ batch) && r.moves env now) = false → settle r = r := by
    intro r h
    rw [hsettle]
    dsimp only
    split
    · rename_i hr
      rw [decide_eq_true hr] at h
      exact UserSubscription.settled_of_not_moves h
    · rfl
  calc (rows.map settle).filter (fun r => r.ResetDue now)
    _ = (rows.filter fun r => (settle r).ResetDue now).map settle := List.filter_map
    _ = (rows.filter fun r => (settle r).ResetDue now).map id := by
        refine List.map_congr_left fun r hr => ?_
        have hdue := of_decide_eq_true (List.mem_filter.1 hr).2
        exact hstays r (Bool.eq_false_iff.2 fun h => hmoved r h hdue)
    _ = rows.filter fun r => (settle r).ResetDue now := List.map_id _
    _ = (rows.filter fun r => r.ResetDue now).filter
          fun r => !(decide (r ∈ batch) && r.moves env now) := by
        rw [List.filter_filter]
        refine List.filter_congr fun r _ => ?_
        cases h : decide (r ∈ batch) && r.moves env now with
        | true => rw [decide_eq_false (hmoved r h), Bool.not_true, Bool.false_and]
        | false => rw [hstays r h, Bool.not_false, Bool.true_and]

/-- The queue after a batch: its rows that the reset changes have left it. -/
theorem resetDue_of_settledRows {size : ℕ}
    (hrows : s'.subs.rows = settledRows env now ((s.resetDue now).take size) s.subs.rows) :
    s'.resetDue now = ((s.resetDue now).take size).filter (fun r => !r.moves env now) ++
        (s.resetDue now).drop size := by
  have hsplit := List.take_append_drop size (s.resetDue now)
  have hnodup : ((s.resetDue now).take size ++ (s.resetDue now).drop size).Nodup := by
    rw [hsplit]
    exact nodup_resetDue s now
  generalize (s.resetDue now).take size = batch at *
  generalize (s.resetDue now).drop size = rest at *
  rw [Store.resetDue, hrows, filter_settledRows hcal hplans, ← Batches.filter_insertionSort]
  change (s.resetDue now).filter _ = _
  rw [← hsplit, List.filter_append]
  congr 1
  · refine List.filter_congr fun r hr => ?_
    rw [decide_eq_true hr, Bool.true_and]
  · refine List.filter_eq_self.2 fun r hr => ?_
    rw [decide_eq_false fun hr' => List.disjoint_of_nodup_append hnodup hr' hr]
    rfl

/-- The second loop works off the queue of due rows. -/
theorem resetRound_simulates (s : Store) : (∃ s', resetRound env now s = .inl s' ∧
      Batches.round subscriptionResetBatchSize (fun r => r.moves env now)
        (fun r => r.counts env) (s.resetDue now) = .inl (s'.resetDue now)) ∨
    (∃ s', resetRound env now s = .inr (some s') ∧
      Batches.round subscriptionResetBatchSize (fun r => r.moves env now)
        (fun r => r.counts env) (s.resetDue now) = .inr ()) := by
  set batch := (s.resetDue now).take subscriptionResetBatchSize with hbatch
  have hmem : ∀ r ∈ batch, r ∈ s.subs.rows ∧ r.ResetDue now := fun r hr =>
    mem_resetDue.1 (List.mem_of_mem_take hr)
  obtain ⟨s', hrows, hrun⟩ := run_resetSubscriptions env 0
    (fun r hr => (hmem r hr).1) (fun r hr => (hmem r hr).2)
    ((nodup_resetDue s now).sublist (List.take_sublist _ _))
  have hrun' : (resetDueSubscriptions env now subscriptionResetBatchSize).run s s =
      (.ok (batch.countP fun r => r.counts env), s', s') := by
    rw [zero_add] at hrun
    exact hrun
  have hqueue := resetDue_of_settledRows hcal hplans hrows
  have hpos : 0 < subscriptionResetBatchSize := by decide
  unfold resetRound batchRound Batches.round
  rw [hrun']
  by_cases hfull : batch.countP (fun r => r.counts env) < subscriptionResetBatchSize
  · right
    refine ⟨s', ?_, if_pos hfull⟩
    dsimp only
    rw [if_pos hfull, ite_self]
  · left
    refine ⟨s', ?_, ?_⟩
    · dsimp only
      rw [if_neg (by omega), if_neg hfull]
    · rw [if_neg hfull, hqueue]

end

/-- The due rows that a reset does not change fill a batch, and the plans of the first ones
exist. -/
def Stuck (env : Env) (now : ℤ) (s : Store) : Prop :=
  Batches.Jammed subscriptionResetBatchSize (fun r => r.moves env now) (fun r => r.counts env)
    (s.resetDue now)

instance (env : Env) (now : ℤ) (s : Store) : Decidable (Stuck env now s) :=
  inferInstanceAs (Decidable (Batches.Jammed _ _ _ _))

/-- **The loop that resets subscriptions ends unless the rows that stay fill a batch.** -/
theorem halts_resetRound_iff (hcal : env.calendar.Forward)
    (hplans : ∀ plan ∈ env.plans.rows, ¬plan.toSubscriptionPlan.Frozen) (s : Store) :
    Loop.Halts (resetRound env now) s ↔ ¬Stuck env now s := by
  refine Iff.trans ?_ (Batches.halts_iff fun r => UserSubscription.counts_of_moves)
  refine Loop.halts_iff_of_simulation (I := fun _ => True) (fun s : Store => s.resetDue now)
    ?_ ?_ trivial
  · intro s s' _ hstep
    rcases resetRound_simulates hcal hplans s with ⟨s₁, h₁, hround⟩ | ⟨s₁, h₁, hround⟩
    · rw [hstep, Sum.inl.injEq] at h₁
      exact ⟨trivial, h₁ ▸ hround⟩
    · rw [hstep] at h₁
      cases h₁
  · intro s b _ hstep
    rcases resetRound_simulates hcal hplans s with ⟨s₁, h₁, hround⟩ | ⟨s₁, h₁, hround⟩
    · rw [hstep] at h₁
      cases h₁
    · exact ⟨(), hround⟩

theorem passHalts_iff : PassHalts env now s ↔
      ∀ s', Loop.Yields (expireRound now) s (some s') → Loop.Halts (resetRound env now) s' := by
  constructor
  · rintro ⟨result, hresult, hhalts⟩ s' hs'
    exact hhalts s' (hresult.unique hs')
  · intro h
    obtain ⟨result, hresult⟩ := halts_expireRound now s
    exact ⟨result, hresult, fun s' hs' => h s' (hs' ▸ hresult)⟩

/-- When nothing is to be expired, the first loop leaves the database as it is. -/
theorem yields_expireRound_of_not_due (h : ∀ r ∈ s.subs.rows, ¬r.Due now) :
    Loop.Yields (expireRound now) s (some s) := by
  have hdue : s.due now = [] := by
    rw [Store.due, List.filter_eq_nil_iff.2 fun r hr => by simpa using h r hr]
    rfl
  refine Loop.yields_of_done ?_
  have hrun : (expireDueSubscriptions now subscriptionResetBatchSize).run s s = (.ok 0, s, s) := by
    change (expireUsers now (usersOf ((s.due now).take _)) 0).run s s = _
    rw [hdue]
    rfl
  unfold expireRound batchRound
  rw [hrun]
  rfl

theorem stuck_of_rows
    (h : ∀ r ∈ s.subs.rows, r.ResetDue now ∧ r.moves env now = false ∧ r.counts env = true)
    (hlen : subscriptionResetBatchSize ≤ s.subs.rows.length) : Stuck env now s := by
  have hall : (s.subs.rows.filter fun r => r.ResetDue now) = s.subs.rows :=
    List.filter_eq_self.2 fun r hr => decide_eq_true (h r hr).1
  have hstay : Batches.staying (fun r => r.moves env now) (s.resetDue now) = s.resetDue now :=
    List.filter_eq_self.2 fun r hr => congrArg not (h r (mem_resetDue.1 hr).1).2.1
  unfold Stuck Batches.Jammed
  rw [hstay]
  refine ⟨?_, fun r hr => (h r (mem_resetDue.1 (List.mem_of_mem_take hr)).1).2.2⟩
  rwa [Store.resetDue, List.length_insertionSort, hall]

/-- A subscription of plan 5 that was bought with a reset at time 10. -/
def dailySubscription : NewSubscription := ⟨1, 5, 1000, 1, 1000, "order", 1, 10, "", ""⟩

def subscribedStore (n : ℕ) : Store where
  users := orderedStore.users
  subs := (List.replicate n dailySubscription).foldl SubscriptionTable.create .empty
  orders := .empty
  topUps := .empty

end Mujian.Subscriptions
