import Mujian.Tasks.Passes

/-!
# The life of one task

From the point of view of one task the system has three parts: the stored row, what has been settled
or refunded for it, and the stage of each run. `TaskStep` lists what an operation of one run can do
to them, and `taskStep_exec` says that an operation that keeps the discipline does one of these
things. `run_task` is the resulting rule.
-/

namespace Mujian.Tasks

open Protocols (Prog System)

section

variable (t : ℤ) (out : Outcome)

def rowAfter (row : Option Task) : TaskOp → Option Task
  | .updateWithStatus task fromStatus =>
    if task.id = t ∧ out.succeeds ∧ row.any (fun r => r.status = fromStatus) then
      row.map fun _ => task else row
  | .update task => if task.id = t ∧ out.succeeds then row.map fun _ => task else row
  | .taskBulkUpdateByID ids failReason =>
    if out.succeeds then
      row.map fun r => if r.id ∈ ids then Store.failedRow failReason r else r else row
  | _ => row

/-- What has been paid for the task after an operation. -/
def paymentsAfter (payments : List ℤ) : TaskOp → List ℤ
  | .taskAdjustFunding task delta =>
    if task.id = t ∧ out.succeeds then delta :: payments else payments
  | _ => payments

theorem find?_exec (s : Store) (o : TaskOp) :
    (o.exec out s).1.tasks.find? t = rowAfter t out (s.tasks.find? t) o := by
  cases o with
  | updateWithStatus task fromStatus =>
    simp only [TaskOp.exec, rowAfter]
    by_cases hid : task.id = t
    · subst hid
      cases hany : (s.tasks.find? task.id).any fun r => r.status = fromStatus with
      | true => cases out.succeeds <;> simp [Store.find?_replace]
      | false => cases out.succeeds <;> simp
    · rw [if_neg (show ¬(task.id = t ∧ _) from fun h => hid h.1)]
      split
      · split
        · rw [Store.find?_replace, if_neg (Ne.symm hid)]
        · rfl
      · rfl
  | update task =>
    simp only [TaskOp.exec, rowAfter]
    by_cases hok : out.succeeds = true
    · rw [if_pos hok, Store.find?_replace]
      by_cases hid : task.id = t
      · rw [if_pos hid.symm, if_pos ⟨hid, hok⟩]
      · rw [if_neg (Ne.symm hid), if_neg fun h => hid h.1]
    · rw [if_neg hok, if_neg fun h => hok h.2]
  | taskBulkUpdateByID ids failReason =>
    simp only [TaskOp.exec, rowAfter]
    by_cases hok : out.succeeds = true
    · rw [if_pos hok, if_pos hok, Store.fail, Table.find?_updateWhere]
      simp only [decide_eq_true_eq]
    · rw [if_neg hok, if_neg hok]
  | taskAdjustFunding | taskAdjustTokenQuota =>
    simp only [TaskOp.exec]
    split <;> rfl
  | _ => rfl

theorem payments_exec (s : Store) (o : TaskOp) :
    (o.exec out s).1.payments t = paymentsAfter t out (s.payments t) o := by
  cases o with
  | taskAdjustFunding task delta =>
    simp only [TaskOp.exec, paymentsAfter]
    by_cases hok : out.succeeds = true
    · rw [if_pos hok, Store.payments_pay]
      by_cases hid : task.id = t
      · rw [if_pos ⟨hid, task.not_isToken_fundingAccount⟩, if_pos ⟨hid, hok⟩]
      · rw [if_neg fun h => hid h.1, if_neg fun h => hid h.1]
    · rw [if_neg hok, if_neg fun h => hok h.2]
  | taskAdjustTokenQuota task delta =>
    simp only [TaskOp.exec, paymentsAfter]
    split
    · rw [Store.payments_pay, if_neg fun h => h.2 trivial]
    · rfl
  | updateWithStatus task fromStatus =>
    simp only [TaskOp.exec]
    split
    · split <;> rfl
    · rfl
  | update | taskBulkUpdateByID =>
    simp only [TaskOp.exec]
    split <;> rfl
  | _ => rfl

end

/-- What an operation can do to the row, to the payments and to the stage of the run that performs
it. An operation that concerns the task meets the condition `met`; `ok` says whether it succeeds. -/
inductive TaskStep (ref : TaskRef) (asks : Demands) (met : TaskOp → Prop) (ok : Bool)
    (row : Task) (pays : List ℤ) : Stage → Task → List ℤ → Stage → Prop
  | quiet (m : Stage) : TaskStep ref asks met ok row pays m row pays m
  | read {m : Stage} (hm : m.Calm) (hrow : row.Unfinished) :
    TaskStep ref asks met ok row pays m row pays .fresh
  | readOthers {m : Stage} (hm : m.Calm) : TaskStep ref asks met ok row pays m row pays .idle
  | lose : TaskStep ref asks met ok row pays .fresh row pays .idle
  | win (task : Task) (fromStatus : TaskStatus)
    (hmet : met (.updateWithStatus task fromStatus)) (his : ref.Is task)
    (hquota : task.quota = ref.quota) (hrow : ¬row.status.Done)
    (hsuno : ref.platform = .suno → task.status = .failure) :
    TaskStep ref asks met ok row pays .fresh task pays
      (if task.status.Done then .won (decide task.Owes) else .idle)
  | save {m : Stage} (task : Task) (hmet : met (.update task)) (hok : ok = true) (his : ref.Is task)
    (hquota : task.quota = ref.quota) (hsuno : ref.platform = .suno)
    (hm : m = .fresh ∧ (task.status = .failure → ref.quota = 0) ∨
      m = .paid ∧ task.progress = "100%" ∧ (asks.reasons → task.status = .failure)) :
    TaskStep ref asks met ok row pays m task pays .idle
  | unsaved {m : Stage} (task : Task) (hmet : met (.update task)) (hid : task.id = ref.id)
    (hok : ok = false) (hm : m = .fresh ∨ m = .paid) :
    TaskStep ref asks met ok row pays m row pays .idle
  | pay {m : Stage} (task : Task) (delta : ℤ) (hmet : met (.taskAdjustFunding task delta))
    (hid : task.id = ref.id) (hok : ok = true)
    (hm : (m = .won true ∨ m = .fresh ∧ ref.platform = .suno) ∧ delta = -ref.quota ∨
      m = .won false ∧ ref.platform ≠ .suno) :
    TaskStep ref asks met ok row pays m row (delta :: pays) m.afterPayment
  | unpaid {m : Stage} (task : Task) (delta : ℤ) (hmet : met (.taskAdjustFunding task delta))
    (hid : task.id = ref.id) (hok : ok = false)
    (hm : (m = .won true ∨ m = .fresh ∧ ref.platform = .suno) ∨
      m = .won false ∧ ref.platform ≠ .suno) :
    TaskStep ref asks met ok row pays m row pays m.afterPayment
  | fail (m : Stage) (failReason : Option String) (hasked : ¬asks.channel) :
    TaskStep ref asks met ok row pays m (Store.failedRow failReason row) pays m

structure Stored (ref : TaskRef) (s : Store) (row : Task) : Prop where
  find : s.tasks.find? ref.id = some row
  is : ref.Is row
  quota : row.quota = ref.quota

variable {s : Store} {p : Task → Bool}

theorem read_select {ref : TaskRef} {row : Task} (h : Stored ref s row)
    (hp : ∀ task, p task = true → task.Unfinished) (order : Task → ℤ)
    (limit : ℕ) : Read ref (s.select p order limit) where
  nodup := s.nodup_select p order limit
  unfinished task hmem := hp task (Store.mem_select hmem).2
  known task hmem hid := by
    have hfind : s.tasks.find? ref.id = some task :=
      Table.find?_eq_some_iff.2 ⟨(Store.mem_select hmem).1, hid⟩
    rw [h.find, Option.some.injEq] at hfind
    exact hfind ▸ ⟨h.is, h.quota⟩

theorem read_nil (ref : TaskRef) : Read ref [] :=
  ⟨List.nodup_nil, fun _ h => absurd h List.not_mem_nil, fun _ h => absurd h List.not_mem_nil⟩

/-- The results that depend on the inputs: on the stored ids, on the task's channel, and on the
answers of Suno providers. -/
def GoodInputs (ref : TaskRef) (asks : Demands) : (o : TaskOp) → o.Result → Prop
  | .getAllUnFinishSyncTasks _, tasks => OwnUpstreamID ref tasks
  | .cacheGetChannel channelId, found => asks.channel → channelId = ref.channelId → found = true
  | .fetchSuno _ taskIds, items =>
    ∀ l, items = some l → MentionsOnce ref taskIds l ∧ (asks.reasons → Explained ref l)
  | _, _ => True

instance (ref : TaskRef) (asks : Demands) [Decidable asks.channel] [Decidable asks.reasons] :
    ∀ (o : TaskOp) (r : o.Result), Decidable (GoodInputs ref asks o r)
  | .getAllUnFinishSyncTasks _, _ => inferInstanceAs (Decidable (OwnUpstreamID ref _))
  | .cacheGetChannel _, _ => inferInstanceAs (Decidable (_ → _ → _))
  | .fetchSuno _ taskIds, items =>
    inferInstanceAs (Decidable (∀ l ∈ items, MentionsOnce ref taskIds l ∧
      (asks.reasons → Explained ref l)))
  | .clock, _ | .getTimedOutUnfinishedTasks _ _, _ | .updateWithStatus _ _, _
  | .taskBulkUpdateByID _ _, _ | .update _, _ | .taskAdjustFunding _ _, _
  | .taskAdjustTokenQuota _ _, _ | .getTaskAdaptor _, _ | .fetchVideo _, _
  | .adjustBillingOnComplete _ _, _ | .quotaByTokens _ _, _ => .isTrue trivial

/-- The task that an operation writes or pays for. -/
def TaskOp.task? : TaskOp → Option Task
  | .updateWithStatus task _ => some task
  | .update task => some task
  | .taskAdjustFunding task _ => some task
  | _ => none

def TaskOp.ended? : TaskOp → Option Task
  | .updateWithStatus task _ => some task
  | _ => none

section

variable {ref : TaskRef} {asks : Demands} {s : Store} {row : Task}

theorem read_timedOut (h : Stored ref s row) (cutoffUnix : ℤ) (limit : ℕ) (out : Outcome) :
    Read ref ((TaskOp.getTimedOutUnfinishedTasks cutoffUnix limit).exec out s).2 := by
  simp only [TaskOp.exec]
  split
  · exact read_select h (fun task hp => (of_decide_eq_true hp).1) _ _
  · exact read_nil ref

theorem read_unfinished (h : Stored ref s row) (limit : ℕ) (out : Outcome) :
    Read ref ((TaskOp.getAllUnFinishSyncTasks limit).exec out s).2 := by
  simp only [TaskOp.exec]
  split
  · exact read_select h (fun task hp => of_decide_eq_true hp) _ _
  · exact read_nil ref

/-- The results of the operations are as the discipline supposes. -/
theorem possible_exec (h : Stored ref s row) (o : TaskOp) (out : Outcome)
    (hinputs : GoodInputs ref asks o (o.exec out s).2) :
    Possible ref asks o (o.exec out s).2 := by
  cases o with
  | getTimedOutUnfinishedTasks cutoffUnix limit => exact read_timedOut h cutoffUnix limit out
  | getAllUnFinishSyncTasks limit => exact ⟨read_unfinished h limit out, hinputs⟩
  | cacheGetChannel | fetchSuno => exact hinputs
  | _ => trivial

variable {ok : Bool} {task : Task} {met : TaskOp → Prop} {m : Stage}

theorem mem_rows_of_mem_ite {order : Task → ℤ} {limit : ℕ}
    (h : task ∈ if ok = true then s.select p order limit else []) :
    task ∈ s.tasks.rows := by
  split at h
  · exact (Store.mem_select h).1
  · exact absurd h List.not_mem_nil

theorem taskStep_read {pays : List ℤ}
    (h : Stored ref s row) {tasks : List Task} (hread : Read ref tasks) (hm : m.Calm)
    (hmem : ∀ task ∈ tasks, task ∈ s.tasks.rows) :
    TaskStep ref asks met ok row pays m row pays (Stage.afterRead ref.id tasks) := by
  unfold Stage.afterRead
  split
  · rename_i hid
    obtain ⟨task, htask, hid⟩ := List.mem_map.1 hid
    have hfind : s.tasks.find? ref.id = some task :=
      Table.find?_eq_some_iff.2 ⟨hmem task htask, hid⟩
    rw [h.find, Option.some.injEq] at hfind
    exact .read hm (hfind ▸ hread.unfinished task htask)
  · exact .readOthers hm

/-- A compare-and-set of the task is won or lost. -/
theorem taskStep_updateWithStatus {fromStatus : TaskStatus}
    (hallowed : Allowed ref asks m (.updateWithStatus task fromStatus))
    (hid : task.id = ref.id) (h : Stored ref s row) (out : Outcome)
    (hmet : met (.updateWithStatus task fromStatus)) :
    ∃ row', Stored ref ((TaskOp.updateWithStatus task fromStatus).exec out s).1 row' ∧
      TaskStep ref asks met out.succeeds row (s.payments ref.id) m row'
        (((TaskOp.updateWithStatus task fromStatus).exec out s).1.payments ref.id)
        (m.next ref.id (.updateWithStatus task fromStatus)
          ((TaskOp.updateWithStatus task fromStatus).exec out s).2) := by
  have hfind := find?_exec ref.id out s (.updateWithStatus task fromStatus)
  have hpays := payments_exec ref.id out s (.updateWithStatus task fromStatus)
  rw [h.find] at hfind
  obtain ⟨rfl, his, hquota, hfrom, hsuno⟩ := hallowed.2 hid
  rw [hpays]
  simp only [rowAfter] at hfind
  by_cases hwin : out.succeeds = true ∧ (some row).any (fun r => r.status = fromStatus) = true
  · rw [if_pos ⟨hid, hwin⟩] at hfind
    have hstatus : row.status = fromStatus := of_decide_eq_true hwin.2
    have hresult : ((TaskOp.updateWithStatus task fromStatus).exec out s).2 = some true := by
      simp only [TaskOp.exec]
      rw [if_pos hwin.1, hid, h.find, if_pos hwin.2]
    refine ⟨task, ⟨hfind, his, hquota⟩, ?_⟩
    rw [hresult]
    change TaskStep ref asks met out.succeeds row _ .fresh task _
      (if task.id = ref.id then if some true = some true ∧ task.status.Done then
        .won (decide task.Owes) else .idle else .fresh)
    rw [if_pos hid]
    simp only [true_and]
    exact .win task fromStatus hmet his hquota (hstatus ▸ hfrom) hsuno
  · rw [if_neg fun hc => hwin hc.2] at hfind
    have hresult : ((TaskOp.updateWithStatus task fromStatus).exec out s).2 ≠ some true := by
      simp only [TaskOp.exec]
      rw [hid, h.find]
      intro hc
      split at hc
      · split at hc
        · rename_i hok hany
          exact hwin ⟨hok, hany⟩
        · cases hc
      · cases hc
    refine ⟨row, ⟨hfind, h.is, h.quota⟩, ?_⟩
    change TaskStep ref asks met out.succeeds row _ .fresh row _
      (if task.id = ref.id then if _ = some true ∧ task.status.Done then
        .won (decide task.Owes) else .idle else .fresh)
    rw [if_pos hid, if_neg fun hc => hresult hc.1]
    exact .lose

/-- **An operation that keeps the discipline** does to the task one of the listed things. -/
theorem taskStep_exec {o : TaskOp} (hallowed : Allowed ref asks m o)
    (h : Stored ref s row) (out : Outcome) (met : TaskOp → Prop) (hmet : met o) :
    ∃ row', Stored ref (o.exec out s).1 row' ∧
      TaskStep ref asks met out.succeeds row (s.payments ref.id) m row'
        ((o.exec out s).1.payments ref.id) (m.next ref.id o (o.exec out s).2) := by
  have hfind := find?_exec ref.id out s o
  have hpays := payments_exec ref.id out s o
  rw [h.find] at hfind
  -- an operation that does not concern the task
  have hquiet : rowAfter ref.id out (some row) o = some row →
      paymentsAfter ref.id out (s.payments ref.id) o = s.payments ref.id →
      m.next ref.id o (o.exec out s).2 = m →
      ∃ row', Stored ref (o.exec out s).1 row' ∧
        TaskStep ref asks met out.succeeds row (s.payments ref.id) m row'
          ((o.exec out s).1.payments ref.id) (m.next ref.id o (o.exec out s).2) := by
    intro hrow hpay hnext
    rw [hpays, hpay, hnext]
    exact ⟨row, ⟨hfind.trans hrow, h.is, h.quota⟩, .quiet m⟩
  cases o with
  | getTimedOutUnfinishedTasks cutoffUnix limit =>
    refine ⟨row, ⟨hfind, h.is, h.quota⟩, ?_⟩
    exact taskStep_read h (read_timedOut h cutoffUnix limit out) hallowed
      fun task => mem_rows_of_mem_ite
  | getAllUnFinishSyncTasks limit =>
    refine ⟨row, ⟨hfind, h.is, h.quota⟩, ?_⟩
    exact taskStep_read h (read_unfinished h limit out) hallowed fun task => mem_rows_of_mem_ite
  | updateWithStatus task fromStatus =>
    by_cases hid : task.id = ref.id
    · exact taskStep_updateWithStatus hallowed hid h out hmet
    · exact hquiet (if_neg fun hc => hid hc.1) rfl (if_neg hid)
  | update task =>
    by_cases hid : task.id = ref.id
    · obtain ⟨his, hquota, hsuno, hm⟩ := hallowed.2 hid
      rw [hpays]
      change ∃ row', _ ∧ TaskStep ref asks met out.succeeds row _ m row' _
        (if task.id = ref.id then .idle else m)
      rw [if_pos hid]
      simp only [rowAfter] at hfind
      by_cases hok : out.succeeds = true
      · rw [if_pos ⟨hid, hok⟩] at hfind
        exact ⟨task, ⟨hfind, his, hquota⟩, .save task hmet hok his hquota hsuno hm⟩
      · rw [if_neg fun hc => hok hc.2] at hfind
        refine ⟨row, ⟨hfind, h.is, h.quota⟩, .unsaved task hmet hid (by simpa using hok) ?_⟩
        exact hm.imp And.left And.left
    · exact hquiet (if_neg fun hc => hid hc.1) rfl (if_neg hid)
  | taskAdjustFunding task delta =>
    by_cases hid : task.id = ref.id
    · have hm := hallowed.2.2 hid
      rw [hpays]
      change ∃ row', _ ∧ TaskStep ref asks met out.succeeds row _ m row' _
        (if task.id = ref.id then m.afterPayment else m)
      rw [if_pos hid]
      simp only [paymentsAfter]
      refine ⟨row, ⟨hfind, h.is, h.quota⟩, ?_⟩
      by_cases hok : out.succeeds = true
      · rw [if_pos ⟨hid, hok⟩]
        exact .pay task delta hmet hid hok hm
      · rw [if_neg fun hc => hok hc.2]
        exact .unpaid task delta hmet hid (by simpa using hok) (hm.imp_left And.left)
    · exact hquiet rfl (if_neg fun hc => hid hc.1) (if_neg hid)
  | taskBulkUpdateByID ids failReason =>
    simp only [rowAfter] at hfind
    rw [hpays]
    by_cases hfail : out.succeeds = true ∧ row.id ∈ ids
    · rw [if_pos hfail.1, Option.map_some, if_pos hfail.2] at hfind
      refine ⟨_, ⟨hfind, h.is, h.quota⟩, .fail m failReason fun hs => ?_⟩
      exact hallowed.2 hs (h.is.1 ▸ hfail.2)
    · refine ⟨row, ⟨hfind.trans ?_, h.is, h.quota⟩, .quiet m⟩
      split
      · rename_i hok
        rw [Option.map_some, if_neg fun hmem => hfail ⟨hok, hmem⟩]
      · rfl
  | clock | taskAdjustTokenQuota | cacheGetChannel | getTaskAdaptor | fetchVideo
  | adjustBillingOnComplete | quotaByTokens | fetchSuno => exact hquiet rfl rfl rfl

end

/-- What a process does: a pass of the polling loop, or a sweep alone. -/
inductive Worker
  | poll
  | sweep
  deriving DecidableEq

def Worker.program (settings : Settings) : Worker → TaskProg Unit
  | poll => pollOnce settings
  | sweep => sweepTimedOutTasks settings

theorem Worker.follows {ref : TaskRef} {asks : Demands} (settings : Settings)
    (hasked : asks.channel → ref.upstreamID ≠ "") (worker : Worker) :
    (worker.program settings).Follows (discipline ref asks) (fun _ m => m.Calm) .idle := by
  cases worker with
  | poll => exact follows_pollOnce calm_idle hasked settings
  | sweep => exact follows_sweepTimedOutTasks calm_idle settings

/-- Processes over the table of tasks. -/
abbrev TaskSystem (ι : Type) := System ι Store TaskOp.Result Unit

/-- The columns that identify a task, and its charge. -/
def Task.ref (task : Task) : TaskRef :=
  ⟨task.id, task.getUpstreamTaskID, task.platform, task.channelId, task.quota⟩

theorem stored_ref {task : Task} (h : task ∈ s.tasks.rows) : Stored task.ref s task :=
  ⟨Table.find?_key_of_mem h, ⟨rfl, rfl, rfl, rfl⟩, rfl⟩

section

variable {ι : Type} [DecidableEq ι] {ref : TaskRef} {asks : Demands}
  {cond : TaskSystem ι → ι → TaskOp → Outcome → Prop} {J : Task → List ℤ → (ι → Stage) → Prop}

/-- **What every step of the task keeps holds after every run** of processes that keep the
discipline. -/
theorem run_task
    (hcond : ∀ s i o out, cond s i o out → GoodInputs ref asks o (o.exec out s.state).2)
    (hJ : ∀ (s : TaskSystem ι) i out row row' pays' m',
      J row (s.state.payments ref.id) (s.stages (discipline ref asks)) →
      Stored ref s.state row →
      TaskStep ref asks (fun o => cond s i o out) out.succeeds row (s.state.payments ref.id)
        (s.stages (discipline ref asks) i) row' pays' m' →
      J row' pays' (Function.update (s.stages (discipline ref asks)) i m'))
    {row : Task} (hrow : Stored ref s row)
    (hstart : J row (s.payments ref.id) fun _ => .idle) {code : ι → TaskProg Unit}
    (hcode : ∀ i, (code i).Follows (discipline ref asks) (fun _ m => m.Calm) .idle)
    {es : List (ι × Outcome)} (hmeets : System.Meets TaskOp.exec cond (.start s code) es) :
    ((System.start s code).run TaskOp.exec es).Sound (discipline ref asks) fun s m =>
      ∃ row, Stored ref s row ∧ J row (s.payments ref.id) m := by
  refine System.run_sound (fun s i o out hinv hallowed hc => ?_) ⟨row, hrow, hstart⟩ hcode hmeets
  obtain ⟨row, hrow, hrowJ⟩ := hinv
  refine ⟨possible_exec hrow o out (hcond s i o out hc), ?_⟩
  obtain ⟨row', hrow', hstep⟩ := taskStep_exec hallowed hrow out (fun o => cond s i o out) hc
  exact ⟨row', hrow', hJ s i out row row' _ _ hrowJ hrow hstep⟩

end

end Mujian.Tasks
