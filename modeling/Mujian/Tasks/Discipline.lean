import Mujian.Tasks.Polling

/-!
# What a pass does with one task

As far as one task is concerned, a run of the polling functions goes through a few stages (`Stage`):
it reads the task, then it either wins a compare-and-set that ends it and pays, or, for Suno, pays
first and saves then. `discipline` says which operations on the task a run performs in which stage;
`Passes` extends it to the loops.
-/

namespace Mujian.Tasks

open Protocols (Prog Protocol)
open Protocols.Prog

/-- The columns that identify a task, and its charge. -/
structure TaskRef where
  id : ℤ
  upstreamID : String
  platform : TaskPlatform
  (channelId quota : ℤ)

/-- The row belongs to the task. -/
def TaskRef.Is (ref : TaskRef) (task : Task) : Prop :=
  task.id = ref.id ∧ task.getUpstreamTaskID = ref.upstreamID ∧ task.platform = ref.platform ∧
    task.channelId = ref.channelId

/-- What is asked of the inputs on behalf of a task: that its channel is found, and that an answer
which gives a reason for its failure also reports the failure. -/
structure Demands where
  (channel reasons : Prop)

inductive Stage
  | idle
  /-- The run has read the task, and done nothing about it. -/
  | fresh
  /-- The run has paid the task back, and not saved it. -/
  | paid
  /-- The run has won the update that ends the task; with or without a refund to make. -/
  | won (owes : Bool)
  deriving DecidableEq

/-- The end of the task obliges to a refund. -/
def Task.Owes (task : Task) : Prop := task.status = .failure ∧ task.quota ≠ 0 ∧ ¬task.Legacy

instance (task : Task) : Decidable task.Owes := inferInstanceAs (Decidable (_ ∧ _ ∧ _))

namespace Stage

/-- The run is not halfway through an update. -/
def Calm (m : Stage) : Prop := m ≠ .paid ∧ m ≠ .won true

instance (m : Stage) : Decidable m.Calm := inferInstanceAs (Decidable (_ ∧ _))

def afterRead (t : ℤ) (tasks : List Task) : Stage := if t ∈ tasks.map Task.id then fresh else idle

def afterPayment (m : Stage) : Stage := if m = fresh then paid else idle

def next (t : ℤ) (m : Stage) : (o : TaskOp) → o.Result → Stage
  | .getTimedOutUnfinishedTasks _ _, tasks => afterRead t tasks
  | .getAllUnFinishSyncTasks _, tasks => afterRead t tasks
  | .updateWithStatus task _, result =>
    if task.id = t then
      if result = some true ∧ task.status.Done then .won (decide task.Owes) else idle
    else m
  | .update task, _ => if task.id = t then idle else m
  | .taskAdjustFunding task _, _ => if task.id = t then m.afterPayment else m
  | .clock, _ | .taskBulkUpdateByID _ _, _ | .taskAdjustTokenQuota _ _, _ | .cacheGetChannel _, _
  | .getTaskAdaptor _, _ | .fetchVideo _, _ | .adjustBillingOnComplete _ _, _
  | .quotaByTokens _ _, _ | .fetchSuno _ _, _ => m

end Stage

section

variable (ref : TaskRef) (asks : Demands)

/-- The operations of a run, by its stage. If the channel is found, the task is never failed in
bulk. -/
def Allowed (m : Stage) : TaskOp → Prop
  | .updateWithStatus task fromStatus =>
    m.Calm ∧ (task.id = ref.id →
      m = .fresh ∧ ref.Is task ∧ task.quota = ref.quota ∧ ¬fromStatus.Done ∧
        (ref.platform = .suno → task.status = .failure))
  | .update task =>
    m ≠ .won true ∧ (task.id = ref.id →
      ref.Is task ∧ task.quota = ref.quota ∧ ref.platform = .suno ∧
        (m = .fresh ∧ (task.status = .failure → ref.quota = 0) ∨
          m = .paid ∧ task.progress = "100%" ∧ (asks.reasons → task.status = .failure)))
  | .taskAdjustFunding task delta =>
    m ≠ .paid ∧ (m = .won true → task.id = ref.id) ∧ (task.id = ref.id →
      (m = .won true ∨ m = .fresh ∧ ref.platform = .suno) ∧ delta = -ref.quota ∨
        m = .won false ∧ ref.platform ≠ .suno)
  | .taskBulkUpdateByID ids _ => m.Calm ∧ (asks.channel → ref.id ∉ ids)
  | .taskAdjustTokenQuota _ _ => m ≠ .won true
  | .getTimedOutUnfinishedTasks _ _ | .getAllUnFinishSyncTasks _ | .clock | .cacheGetChannel _
  | .getTaskAdaptor _ | .fetchVideo _ | .adjustBillingOnComplete _ _ | .quotaByTokens _ _
  | .fetchSuno _ _ => m.Calm

/-- The rows are different and unfinished, and the task is among them only as itself. -/
structure Read (tasks : List Task) : Prop where
  nodup : (tasks.map Task.id).Nodup
  unfinished : ∀ task ∈ tasks, task.Unfinished
  known : ∀ task ∈ tasks, task.id = ref.id → ref.Is task ∧ task.quota = ref.quota

/-- No other row that has been read has the task's upstream id on its platform. -/
def OwnUpstreamID (tasks : List Task) : Prop :=
  ∀ task ∈ tasks, task.platform = ref.platform → task.getUpstreamTaskID = ref.upstreamID →
    task.id = ref.id

instance (tasks : List Task) : Decidable (OwnUpstreamID ref tasks) :=
  inferInstanceAs (Decidable (∀ task ∈ tasks, _))

/-- The answer mentions a Suno task at most once, and only when asked about it. -/
def MentionsOnce (taskIds : List String) (items : List SunoDataResponse) : Prop :=
  ref.platform = .suno → (items.countP fun item => item.taskID = ref.upstreamID) ≤
      if ref.upstreamID ∈ taskIds then 1 else 0

instance (taskIds : List String) (items : List SunoDataResponse) :
    Decidable (MentionsOnce ref taskIds items) := inferInstanceAs (Decidable (_ → _))

/-- A reason for the failure of the task comes with the status of a failure. -/
def Explained (items : List SunoDataResponse) : Prop :=
  ∀ item ∈ items, item.taskID = ref.upstreamID → item.failReason ≠ "" → item.status = "FAILURE"

instance (items : List SunoDataResponse) : Decidable (Explained ref items) :=
  inferInstanceAs (Decidable (∀ item ∈ items, _))

/-- What a run can rely on. -/
def Possible : (o : TaskOp) → o.Result → Prop
  | .getTimedOutUnfinishedTasks _ _, tasks => Read ref tasks
  | .getAllUnFinishSyncTasks _, tasks => Read ref tasks ∧ OwnUpstreamID ref tasks
  | .cacheGetChannel channelId, found => asks.channel → channelId = ref.channelId → found = true
  | .fetchSuno _ taskIds, items =>
    ∀ l, items = some l → MentionsOnce ref taskIds l ∧ (asks.reasons → Explained ref l)
  | .updateWithStatus _ _, _ | .update _, _ | .taskAdjustFunding _ _, _ | .clock, _
  | .taskBulkUpdateByID _ _, _ | .taskAdjustTokenQuota _ _, _ | .getTaskAdaptor _, _
  | .fetchVideo _, _ | .adjustBillingOnComplete _ _, _ | .quotaByTokens _ _, _ => True

def discipline : Protocol TaskOp.Result Stage where
  start := .idle
  allowed := Allowed ref asks
  possible _ o r := Possible ref asks o r
  next m o r := m.next ref.id o r
  final m := m.Calm

end

namespace Task

structure Same (task task' : Task) : Prop where
  id : task.id = task'.id
  upstreamID : task.getUpstreamTaskID = task'.getUpstreamTaskID
  platform : task.platform = task'.platform
  channelId : task.channelId = task'.channelId

theorem Same.refl (task : Task) : task.Same task := ⟨rfl, rfl, rfl, rfl⟩

theorem Same.trans {task₁ task₂ task₃ : Task} (h : task₁.Same task₂) (h' : task₂.Same task₃) :
    task₁.Same task₃ :=
  ⟨h.id.trans h'.id, h.upstreamID.trans h'.upstreamID, h.platform.trans h'.platform,
    h.channelId.trans h'.channelId⟩

variable {task task' : Task} {settings : Settings} {now : ℤ} {info : TaskInfo}

theorem same_polled (h : task.polled settings now info = some task') :
    task'.Same task ∧ task'.quota = task.quota := by
  obtain ⟨task₁, hadvance, rfl⟩ := Option.map_eq_some_iff.1 h
  obtain ⟨hsame, hquota⟩ : task₁.Same task ∧ task₁.quota = task.quota := by
    unfold advance at hadvance
    split at hadvance <;> cases hadvance <;> exact ⟨⟨rfl, rfl, rfl, rfl⟩, rfl⟩
  split
  · exact ⟨⟨hsame.id, hsame.upstreamID, hsame.platform, hsame.channelId⟩, hquota⟩
  · exact ⟨hsame, hquota⟩

end Task

theorem TaskRef.Is.of_same {ref : TaskRef} {task task' : Task} (h : ref.Is task)
    (hsame : task'.Same task) : ref.Is task' :=
  ⟨hsame.id.trans h.1, hsame.upstreamID.trans h.2.1, hsame.platform.trans h.2.2.1,
    hsame.channelId.trans h.2.2.2⟩

section

variable {ref : TaskRef} {asks : Demands} {m : Stage} {task : Task} {Q : Unit → Stage → Prop}

theorem follows_taskAdjustTokenQuota {delta : ℤ} (hm : m ≠ .won true)
    (hQ : Q () m) : (taskAdjustTokenQuota task delta).Follows (discipline ref asks) Q m := by
  unfold taskAdjustTokenQuota
  split
  · exact hQ
  · exact ⟨hm, fun _ _ => hQ⟩

theorem Stage.afterPayment_ne_won (m : Stage) : m.afterPayment ≠ .won true := by
  unfold afterPayment
  split
  · intro h
    cases h
  · intro h
    cases h

theorem follows_taskAdjustFunding {delta : ℤ} {Q : Bool → Stage → Prop}
    (hallowed : Allowed ref asks m (.taskAdjustFunding task delta))
    (hQ : ∀ ok, Q ok (if task.id = ref.id then m.afterPayment else m)) :
    (taskAdjustFunding task delta).Follows (discipline ref asks) Q m :=
  ⟨hallowed, fun ok _ => hQ ok⟩

theorem follows_refundTaskQuota (hzero : task.quota = 0 → Q () m)
    (hallowed : task.quota ≠ 0 → Allowed ref asks m (.taskAdjustFunding task (-task.quota)))
    (hQ : task.quota ≠ 0 → Q () (if task.id = ref.id then m.afterPayment else m)) :
    (refundTaskQuota task).Follows (discipline ref asks) Q m := by
  unfold refundTaskQuota
  split
  · exact hzero ‹_›
  · rename_i hquota
    refine follows_taskAdjustFunding (hallowed hquota) fun ok => ?_
    have hne : (if task.id = ref.id then m.afterPayment else m) ≠ .won true := by
      split
      · exact m.afterPayment_ne_won
      · rename_i hid
        exact fun h => hid ((hallowed hquota).2.1 h)
    cases ok with
    | false => exact hQ hquota
    | true => exact follows_taskAdjustTokenQuota hne (hQ hquota)

/-- The run may settle the task. -/
def Payable (ref : TaskRef) (m : Stage) (task : Task) : Prop :=
  m.Calm ∧ (task.id = ref.id → m = .won false ∧ ref.platform ≠ .suno)

/-- The task has been dealt with: the run is not halfway, and if it was another task, then nothing
has changed. -/
def Settled (ref : TaskRef) (m : Stage) (task task' : Task) (m' : Stage) : Prop :=
  m'.Calm ∧ (task.id ≠ ref.id → m' = m) ∧ task'.Same task

section

variable (h : Payable ref m task)
include h

theorem Payable.settled : Settled ref m task task m := ⟨h.1, fun _ => rfl, .refl task⟩

theorem Payable.settled_payment {task' : Task} (hsame : task'.Same task) :
    Settled ref m task task' (if task.id = ref.id then m.afterPayment else m) := by
  split
  · rename_i hid
    rw [(h.2 hid).1]
    exact ⟨by decide, fun hne => absurd hid hne, hsame⟩
  · exact ⟨h.1, fun _ => rfl, hsame⟩

theorem Payable.allowed (delta : ℤ) : Allowed ref asks m (.taskAdjustFunding task delta) :=
  ⟨h.1.1, fun hm => absurd hm h.1.2, fun hid => .inr (h.2 hid)⟩

theorem follows_recalculateTaskQuota (actualQuota : ℤ) :
    (recalculateTaskQuota task actualQuota).Follows (discipline ref asks)
      (Settled ref m task) m := by
  unfold recalculateTaskQuota
  split
  · exact h.settled
  split
  · exact h.settled
  rw [follows_bind]
  refine follows_taskAdjustFunding (h.allowed _) fun ok => ?_
  cases ok with
  | false => exact h.settled_payment (.refl task)
  | true =>
    rw [if_pos rfl, follows_bind]
    have hsame : Task.Same { task with quota := actualQuota } task := ⟨rfl, rfl, rfl, rfl⟩
    have hsettled := h.settled_payment hsame
    exact follows_taskAdjustTokenQuota hsettled.1.2 hsettled

theorem follows_settleTaskBillingOnComplete (info : TaskInfo) :
    (settleTaskBillingOnComplete task info).Follows (discipline ref asks)
      (Settled ref m task) m := by
  unfold settleTaskBillingOnComplete recalculateTaskQuotaByTokens
  split
  · exact h.settled
  rw [follows_bind]
  refine (follows_perform _).2 ⟨h.1, fun actualQuota _ => ?_⟩
  split
  · exact follows_recalculateTaskQuota h _
  split
  · split
    · exact h.settled
    rw [follows_bind]
    refine (follows_perform _).2 ⟨h.1, fun quota _ => ?_⟩
    split
    · exact h.settled
    · exact follows_recalculateTaskQuota h _
  · exact h.settled

end

end

section

variable {ref : TaskRef} {asks : Demands} {m : Stage} {task : Task}

/-- The run has read the task as unfinished, and done nothing about it. -/
def Untouched (ref : TaskRef) (m : Stage) (task : Task) : Prop :=
  m = .fresh ∧ ref.Is task ∧ task.quota = ref.quota ∧ ¬task.status.Done

theorem calm_fresh : Stage.fresh.Calm := by decide

theorem calm_idle : Stage.idle.Calm := by decide

theorem Stage.calm_afterRead (t : ℤ) (tasks : List Task) : (afterRead t tasks).Calm := by
  unfold afterRead
  split
  · exact calm_fresh
  · exact calm_idle

theorem follows_sweepTask (hm : m.Calm) (hown : task.id = ref.id → Untouched ref m task)
    (settings : Settings) (now : ℤ) :
    (sweepTask settings now task).Follows (discipline ref asks)
      (fun _ m' => m'.Calm ∧ (task.id ≠ ref.id → m' = m)) m := by
  unfold sweepTask
  rw [follows_bind]
  refine (follows_perform _).2 ⟨⟨hm, fun hid => ?_⟩, fun won _ => ?_⟩
  · obtain ⟨hfresh, his, hquota, hstatus⟩ := hown hid
    exact ⟨hfresh, his, hquota, hstatus, fun _ => rfl⟩
  change Prog.Follows _ _ _ (if task.id = ref.id then
    if won = some true ∧ (task.timedOut settings now).status.Done then
      .won (decide (task.timedOut settings now).Owes) else .idle else m)
  have hdone : (task.timedOut settings now).status.Done := .inl rfl
  have howes : (task.timedOut settings now).Owes ↔ task.quota ≠ 0 ∧ ¬task.Legacy :=
    ⟨fun h => h.2, fun h => ⟨rfl, h⟩⟩
  by_cases hid : task.id = ref.id
  · obtain ⟨hfresh, his, hquota, hstatus⟩ := hown hid
    split
    · rename_i hrefund
      rw [if_pos ⟨hrefund.1, hdone⟩, decide_eq_true (howes.2 ⟨hrefund.2.2, hrefund.2.1⟩)]
      refine follows_refundTaskQuota (fun h => absurd h hrefund.2.2) (fun _ => ?_) fun _ => ?_
      · exact ⟨by decide, fun _ => hid, fun _ => .inl ⟨.inl rfl, congrArg Neg.neg hquota⟩⟩
      · rw [if_pos (show (task.timedOut settings now).id = ref.id from hid)]
        exact ⟨calm_idle, fun hne => absurd hid hne⟩
    · rename_i hrefund
      refine (follows_pure _).2 ⟨?_, fun hne => absurd hid hne⟩
      split
      · rename_i hwon
        rw [decide_eq_false fun h => hrefund ⟨hwon.1, (howes.1 h).2, (howes.1 h).1⟩]
        decide
      · exact calm_idle
  · split
    · have hsettled :
          (if (task.timedOut settings now).id = ref.id then m.afterPayment else m) = m :=
        if_neg hid
      refine follows_refundTaskQuota (fun _ => ⟨hm, fun _ => rfl⟩) (fun _ => ?_) fun _ => ?_
      · exact ⟨hm.1, fun h => absurd h hm.2, fun h => absurd h hid⟩
      · rw [hsettled]
        exact ⟨hm, fun _ => rfl⟩
    · exact (follows_pure _).2 ⟨hm, fun _ => rfl⟩

theorem follows_billTask_of_ne (hid : task.id ≠ ref.id) (hm : m.Calm) (info : TaskInfo) :
    (billTask task info).Follows (discipline ref asks) (Settled ref m task) m := by
  have hpayable : Payable ref m task := ⟨hm, fun h => absurd h hid⟩
  unfold billTask
  split
  · exact follows_settleTaskBillingOnComplete hpayable info
  split
  · rw [follows_bind]
    exact follows_refundTaskQuota (fun _ => hpayable.settled) (fun _ => hpayable.allowed _)
      fun _ => hpayable.settled_payment (.refl task)
  · exact hpayable.settled

/-- The task, after the run has won the update that ends it. -/
theorem follows_billTask_of_won (hid : task.id = ref.id) (hquota : task.quota = ref.quota)
    (hplatform : ref.platform ≠ .suno) (info : TaskInfo) :
    (billTask task info).Follows (discipline ref asks)
      (fun task' m' => m'.Calm ∧ task'.Same task) (.won (decide task.Owes)) := by
  unfold billTask
  split
  · rename_i hsuccess
    have howes : ¬task.Owes := fun h => absurd (hsuccess.symm.trans h.1) (by decide)
    rw [decide_eq_false howes]
    refine (follows_settleTaskBillingOnComplete ⟨by decide, fun _ => ⟨rfl, hplatform⟩⟩ info).mono ?_
    exact fun task' m' h => ⟨h.1, h.2.2⟩
  split
  · rename_i hfailure
    rw [follows_bind]
    refine follows_refundTaskQuota (fun h => absurd h hfailure.2) (fun _ => ?_) fun _ => ?_
    · refine ⟨by simp, fun _ => hid, fun _ => ?_⟩
      cases decide task.Owes with
      | true => exact .inl ⟨.inl rfl, by rw [hquota]⟩
      | false => exact .inr ⟨rfl, hplatform⟩
    · rw [if_pos hid]
      exact ⟨calm_idle, .refl task⟩
  · rename_i hfailure
    rw [decide_eq_false fun h => hfailure ⟨h.1, h.2.1⟩]
    exact ⟨by decide, .refl task⟩

theorem follows_billTask_of_not_done (hdone : ¬task.status.Done) (hm : m.Calm) (info : TaskInfo) :
    (billTask task info).Follows (discipline ref asks)
      (fun task' m' => m'.Calm ∧ task'.Same task) m := by
  unfold billTask
  rw [if_neg fun h => hdone (.inr h), if_neg fun h => hdone (.inl h.1)]
  exact ⟨hm, .refl task⟩

theorem follows_finishVideoTask {snap : TaskSnapshot} (hm : m.Calm)
    (hown : task.id = ref.id → m = .fresh ∧ ref.Is task ∧ task.quota = ref.quota ∧
      ¬snap.status.Done ∧ ref.platform ≠ .suno) (info : TaskInfo) :
    (finishVideoTask snap task info).Follows (discipline ref asks) (Settled ref m task) m := by
  have hallowed : Allowed ref asks m (.updateWithStatus task snap.status) := by
    refine ⟨hm, fun hid => ?_⟩
    obtain ⟨hfresh, his, hquota, hsnap, hplatform⟩ := hown hid
    exact ⟨hfresh, his, hquota, hsnap, fun h => absurd h hplatform⟩
  have hnext : ∀ won, m.next ref.id (.updateWithStatus task snap.status) won =
      if task.id = ref.id then
        if won = some true ∧ task.status.Done then .won (decide task.Owes) else .idle
      else m := fun _ => rfl
  unfold finishVideoTask
  by_cases hid : task.id = ref.id
  · obtain ⟨hfresh, his, hquota, hsnap, hplatform⟩ := hown hid
    -- for the task itself only the stage at the end matters
    have hdone : ∀ task' m', m'.Calm ∧ task'.Same task → Settled ref m task task' m' :=
      fun _ _ h => ⟨h.1, fun hne => absurd hid hne, h.2⟩
    split
    · rename_i hends
      rw [follows_bind]
      refine (follows_perform _).2 ⟨hallowed, fun won _ => ?_⟩
      change Prog.Follows _ _ _ (m.next ref.id _ won)
      rw [hnext]
      split
      · rename_i hwon
        rw [if_pos ⟨hwon, hends.1⟩]
        exact (follows_billTask_of_won hid hquota hplatform info).mono hdone
      · rename_i hwon
        rw [if_neg fun h => hwon h.1]
        exact hdone _ _ ⟨calm_idle, .refl task⟩
    · rename_i hends
      have hgoes : ¬task.status.Done := fun h => hends ⟨h, fun heq => hsnap (heq ▸ h)⟩
      split
      · refine ⟨hallowed, fun won _ => ?_⟩
        change Prog.Follows _ _ _ (m.next ref.id _ won)
        rw [hnext, if_pos hid, if_neg fun h => hgoes h.2]
        exact (follows_billTask_of_not_done hgoes calm_idle info).mono hdone
      · exact (follows_billTask_of_not_done hgoes hm info).mono hdone
  · split
    · rw [follows_bind]
      refine (follows_perform _).2 ⟨hallowed, fun won _ => ?_⟩
      change Prog.Follows _ _ _ (m.next ref.id _ won)
      rw [hnext]
      split
      · exact follows_billTask_of_ne hid hm info
      · exact ⟨hm, fun _ => rfl, .refl task⟩
    split
    · refine ⟨hallowed, fun won _ => ?_⟩
      change Prog.Follows _ _ _ (m.next ref.id _ won)
      rw [hnext, if_neg hid]
      exact follows_billTask_of_ne hid hm info
    · exact follows_billTask_of_ne hid hm info

theorem follows_saveSunoTask {item : SunoDataResponse} (hm : m.Calm)
    (hown : task.id = ref.id → Untouched ref m task ∧ ref.platform = .suno)
    (hexplained : task.id = ref.id → asks.reasons → item.failReason ≠ "" →
      item.status = "FAILURE")
    {Q : Bool → Stage → Prop} (hQ : ∀ ok m', m'.Calm → (task.id ≠ ref.id → m' = m) → Q ok m') :
    (refundSunoTask task item >>= fun _ => update (task.updated item)).Follows
      (discipline ref asks) Q m := by
  have hquota : (task.updated item).quota = task.quota := rfl
  have hupdate : ∀ m₁ : Stage, m₁ ≠ .won true → (task.id ≠ ref.id → m₁ = m) →
      (task.id = ref.id → m₁ = .fresh ∧ ((task.updated item).status = .failure → ref.quota = 0) ∨
        m₁ = .paid ∧ (task.updated item).progress = "100%" ∧
          (asks.reasons → (task.updated item).status = .failure)) →
      (update (task.updated item)).Follows (discipline ref asks) Q m₁ := by
    intro m₁ hwon hne heq
    refine ⟨⟨hwon, fun hid => ?_⟩, fun ok _ => ?_⟩
    · obtain ⟨⟨-, his, hq, -⟩, hplatform⟩ := hown hid
      exact ⟨his, hq, hplatform, heq hid⟩
    · change Q ok (if task.id = ref.id then .idle else m₁)
      split
      · rename_i hid
        exact hQ ok _ calm_idle fun hne => absurd hid hne
      · rename_i hid
        rw [hne hid]
        exact hQ ok m hm fun _ => rfl
  unfold refundSunoTask
  rw [follows_bind]
  by_cases hfails : task.Fails item
  · rw [if_pos hfails]
    have hprogress : (task.updated item).progress = "100%" := if_pos (.inl hfails)
    refine follows_refundTaskQuota (fun hzero => ?_) (fun _ => ?_) fun _ => ?_
    · refine hupdate m hm.2 (fun _ => rfl) fun hid => ?_
      obtain ⟨⟨hfresh, -, hq, -⟩, -⟩ := hown hid
      exact .inl ⟨hfresh, fun _ => hq.symm.trans hzero⟩
    · refine ⟨hm.1, fun h => absurd h hm.2, fun hid => ?_⟩
      obtain ⟨⟨hfresh, -, hq, -⟩, hplatform⟩ := hown hid
      exact .inl ⟨.inr ⟨hfresh, hplatform⟩, by rw [hquota, hq]⟩
    · change Prog.Follows _ _ _ (if task.id = ref.id then m.afterPayment else m)
      by_cases hid : task.id = ref.id
      · obtain ⟨⟨hfresh, -, -, -⟩, -⟩ := hown hid
        rw [if_pos hid, hfresh]
        refine hupdate .paid (by decide) (fun hne => absurd hid hne)
          fun _ => .inr ⟨rfl, hprogress, fun hreasons => ?_⟩
        rcases hfails with hreason | hstatus
        · change (if item.status ≠ "" then TaskStatus.ofText item.status else task.status) = _
          rw [hexplained hid hreasons hreason, if_pos (by decide)]
          decide
        · exact hstatus
      · rw [if_neg hid]
        exact hupdate m hm.2 (fun _ => rfl) fun h => absurd h hid
  · rw [if_neg hfails]
    refine hupdate m hm.2 (fun _ => rfl) fun hid => .inl ⟨(hown hid).1.1, fun hstatus => ?_⟩
    exact absurd (.inr hstatus) hfails

end

end Mujian.Tasks
