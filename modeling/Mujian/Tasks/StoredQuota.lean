import Mujian.Tasks.Steps

/-!
# The stored quota of a task

The polling functions carry the quota of a task in the copies of the row that they hold in memory,
write it back with every other column, and take it for the amount of a refund. A settlement on
completion replaces it in memory, after the row has been saved. `quotaProtocol` says that a run only
writes back and refunds the quota it has read, as long as no settlement of the task takes effect.
-/

namespace Mujian.Tasks

open Protocols (Prog Protocol System)
open Protocols.Prog

def Task.Keeps (t q : ℤ) (task : Task) : Prop := task.id = t → task.quota = q

section

variable (t q : ℤ)

def KeepsQuota : TaskOp → Prop
  | .updateWithStatus task _ => task.Keeps t q
  | .update task => task.Keeps t q
  | .taskAdjustFunding task _ => task.Keeps t q
  | _ => True

/-- The rows that are read have the quota, and an adjustment that takes effect is a refund. -/
def ReadsQuota : (o : TaskOp) → o.Result → Prop
  | .getTimedOutUnfinishedTasks _ _, tasks => ∀ task ∈ tasks, task.Keeps t q
  | .getAllUnFinishSyncTasks _, tasks => ∀ task ∈ tasks, task.Keeps t q
  | .taskAdjustFunding task delta, ok => ok = true → task.id = t → delta = -task.quota
  | .clock, _ | .updateWithStatus _ _, _ | .taskBulkUpdateByID _ _, _ | .update _, _
  | .taskAdjustTokenQuota _ _, _ | .cacheGetChannel _, _ | .getTaskAdaptor _, _ | .fetchVideo _, _
  | .adjustBillingOnComplete _ _, _ | .quotaByTokens _ _, _ | .fetchSuno _ _, _ => True

/-- The protocol has a single stage. -/
def quotaProtocol : Protocol TaskOp.Result Unit where
  start := ()
  allowed _ := KeepsQuota t q
  possible _ := ReadsQuota t q
  next _ _ _ := ()
  final _ := True

end

section

variable {t q : ℤ} {task : Task} {m : Unit}

theorem Task.Keeps.of_same {task' : Task} (h : task.Keeps t q) (hid : task'.id = task.id)
    (hquota : task'.quota = task.quota) : task'.Keeps t q :=
  fun hid' => hquota.trans (h (hid.symm.trans hid'))

theorem keeps_taskAdjustTokenQuota (task : Task) (delta : ℤ) {Q : Unit → Unit → Prop}
    (h : Q () ()) : (taskAdjustTokenQuota task delta).Follows (quotaProtocol t q) Q m := by
  unfold taskAdjustTokenQuota
  split
  · exact h
  · exact ⟨trivial, fun _ _ => h⟩

section

variable (h : task.Keeps t q)
include h

theorem keeps_refundTaskQuota :
    (refundTaskQuota task).Follows (quotaProtocol t q) (fun _ _ => True) m := by
  unfold refundTaskQuota
  split
  · trivial
  refine ⟨h, fun ok _ => ?_⟩
  cases ok with
  | false => trivial
  | true => exact keeps_taskAdjustTokenQuota task _ trivial

/-- A settlement that takes effect would not be a refund. -/
theorem keeps_recalculateTaskQuota (actualQuota : ℤ) :
    (recalculateTaskQuota task actualQuota).Follows (quotaProtocol t q)
      (fun task' _ => task'.Keeps t q) m := by
  unfold recalculateTaskQuota
  split
  · exact h
  split
  · exact h
  rw [follows_bind]
  refine (follows_perform _).2 ⟨h, fun ok hok => ?_⟩
  cases ok with
  | false => exact h
  | true =>
    rw [if_pos rfl, follows_bind]
    refine keeps_taskAdjustTokenQuota task _ fun hid => ?_
    have hrefund := hok rfl hid
    omega

theorem keeps_recalculateTaskQuotaByTokens (totalTokens : ℤ) :
    (recalculateTaskQuotaByTokens task totalTokens).Follows (quotaProtocol t q)
      (fun task' _ => task'.Keeps t q) m := by
  unfold recalculateTaskQuotaByTokens
  split
  · exact h
  refine ⟨trivial, fun actual _ => ?_⟩
  cases actual with
  | none => exact h
  | some actualQuota => exact keeps_recalculateTaskQuota h actualQuota

theorem keeps_settleTaskBillingOnComplete (info : TaskInfo) :
    (settleTaskBillingOnComplete task info).Follows (quotaProtocol t q)
      (fun task' _ => task'.Keeps t q) m := by
  unfold settleTaskBillingOnComplete
  split
  · exact h
  rw [follows_bind]
  refine (follows_perform _).2 ⟨trivial, fun actualQuota _ => ?_⟩
  split
  · exact keeps_recalculateTaskQuota h _
  split
  · exact keeps_recalculateTaskQuotaByTokens h _
  · exact h

theorem keeps_billTask (info : TaskInfo) :
    (billTask task info).Follows (quotaProtocol t q) (fun task' _ => task'.Keeps t q) m := by
  unfold billTask
  split
  · exact keeps_settleTaskBillingOnComplete h info
  split
  · rw [follows_bind]
    exact (keeps_refundTaskQuota h).mono fun _ _ _ => h
  · exact h

end

theorem keeps_sweepTask (h : task.Keeps t q) (settings : Settings) (now : ℤ) :
    (sweepTask settings now task).Follows (quotaProtocol t q) (fun _ _ => True) m := by
  have hrow : (task.timedOut settings now).Keeps t q := h.of_same rfl rfl
  unfold sweepTask
  rw [follows_bind]
  refine (follows_perform _).2 ⟨hrow, fun won _ => ?_⟩
  split
  · exact keeps_refundTaskQuota hrow
  · trivial

theorem keeps_sweepTimedOutTasks (settings : Settings) :
    (sweepTimedOutTasks settings).Follows (quotaProtocol t q) (fun _ _ => True) m := by
  unfold sweepTimedOutTasks
  split
  · trivial
  rw [follows_bind]
  refine (follows_perform _).2 ⟨trivial, fun start _ => ?_⟩
  rw [follows_bind]
  refine (follows_perform _).2 ⟨trivial, fun tasks hread => ?_⟩
  split
  · trivial
  refine ⟨trivial, fun now _ => ?_⟩
  refine (follows_foldlM (I := fun (l : List Task) _ _ => ∀ task ∈ l, task.Keeps t q)
    (fun task l _ _ hI => ?_) hread).mono fun _ _ _ => trivial
  refine (keeps_sweepTask (hI task List.mem_cons_self) settings now).mono fun _ _ _ => ?_
  exact fun x hx => hI x (List.mem_cons_of_mem _ hx)

def TaskMap.Keeps (t q : ℤ) (mem : TaskMap) : Prop := ∀ v task, mem v = some task → task.Keeps t q

variable {mem : TaskMap}

theorem TaskMap.Keeps.put (h : mem.Keeps t q) (v : String) (htask : task.Keeps t q) :
    TaskMap.Keeps t q (Function.update mem v (some task)) := by
  intro w x hw
  by_cases hwv : w = v
  · rw [hwv, Function.update_self, Option.some.injEq] at hw
    exact hw ▸ htask
  · rw [Function.update_of_ne hwv] at hw
    exact h w x hw

theorem keeps_withChannel {platform : TaskPlatform} {channelId : ℤ} {taskIds : List String}
    {failReason : String} {poll : TaskProg TaskMap} (h : mem.Keeps t q)
    (hpoll : poll.Follows (quotaProtocol t q) (fun mem' _ => mem'.Keeps t q) ()) :
    (withChannel platform channelId taskIds failReason mem poll).Follows (quotaProtocol t q)
      (fun mem' _ => mem'.Keeps t q) m := by
  unfold withChannel
  split
  · exact h
  rw [follows_bind]
  refine ⟨trivial, fun found _ => ?_⟩
  cases found with
  | false => exact ⟨trivial, fun _ _ => h⟩
  | true =>
    refine ⟨trivial, fun adaptor _ => ?_⟩
    cases adaptor with
    | false => exact h
    | true => exact hpoll

theorem keeps_updateSunoTask (h : mem.Keeps t q) (item : SunoDataResponse) :
    (updateSunoTask mem item).Follows (quotaProtocol t q) (fun mem' _ => mem'.Keeps t q) m := by
  unfold updateSunoTask
  cases hv : mem item.taskID with
  | none => trivial
  | some task =>
    have hrow : (task.updated item).Keeps t q := (h _ task hv).of_same rfl rfl
    dsimp only
    split
    · have hrefund :
          (refundSunoTask task item).Follows (quotaProtocol t q) (fun _ _ => True) m := by
        unfold refundSunoTask
        split
        · exact keeps_refundTaskQuota hrow
        · trivial
      rw [follows_bind]
      refine hrefund.mono fun _ _ _ => ?_
      exact ⟨hrow, fun _ _ => h.put item.taskID hrow⟩
    · exact h

theorem keeps_updateSunoTasks (h : mem.Keeps t q) (channelId : ℤ) (taskIds : List String) :
    (updateSunoTasks channelId taskIds mem).Follows (quotaProtocol t q)
      (fun mem' _ => mem'.Keeps t q) m := by
  refine keeps_withChannel h ?_
  refine ⟨trivial, fun answer _ => ?_⟩
  cases answer with
  | none => exact h
  | some items =>
    exact follows_foldlM (I := fun _ mem _ => TaskMap.Keeps t q mem)
      (fun item _ _ _ hI => keeps_updateSunoTask hI item) h

theorem keeps_finishVideoTask (h : task.Keeps t q) (snap : TaskSnapshot) (info : TaskInfo) :
    (finishVideoTask snap task info).Follows (quotaProtocol t q)
      (fun task' _ => task'.Keeps t q) m := by
  unfold finishVideoTask
  split
  · rw [follows_bind]
    refine (follows_perform _).2 ⟨h, fun won _ => ?_⟩
    split
    · exact keeps_billTask h info
    · exact h
  split
  · exact ⟨h, fun _ _ => keeps_billTask h info⟩
  · exact keeps_billTask h info

theorem keeps_updateVideoSingleTask (h : mem.Keeps t q) (settings : Settings) (v : String) :
    (updateVideoSingleTask settings mem v).Follows (quotaProtocol t q)
      (fun mem' _ => mem'.Keeps t q) m := by
  unfold updateVideoSingleTask
  cases hv : mem v with
  | none => exact h
  | some task =>
    have htask := h v task hv
    rw [follows_bind]
    refine (follows_perform _).2 ⟨trivial, fun answer _ => ?_⟩
    cases answer with
    | failed => exact h
    | parsed info body error =>
      rw [follows_bind]
      refine (follows_perform _).2 ⟨trivial, fun now _ => ?_⟩
      cases resolveInfo info error with
      | none => exact h.put v (htask.of_same rfl rfl)
      | some info =>
        dsimp only
        cases hpolled : Task.polled { task with data := body } settings now info with
        | none => exact h.put v (htask.of_same rfl rfl)
        | some task' =>
          obtain ⟨hread, hquota⟩ := Task.same_polled hpolled
          rw [follows_bind]
          refine (keeps_finishVideoTask (htask.of_same hread.id hquota) _ info).mono ?_
          exact fun task'' _ htask'' => h.put v htask''

theorem keeps_updateVideoTasks (h : mem.Keeps t q) (settings : Settings) (platform : TaskPlatform)
    (channelId : ℤ) (taskIds : List String) :
    (updateVideoTasks settings platform channelId taskIds mem).Follows (quotaProtocol t q)
      (fun mem' _ => mem'.Keeps t q) m :=
  keeps_withChannel h (follows_foldlM (I := fun _ mem _ => TaskMap.Keeps t q mem)
    (fun v _ _ _ hI => keeps_updateVideoSingleTask hI settings v) h)

theorem keeps_dispatchPlatformUpdate (h : mem.Keeps t q) (settings : Settings)
    (platform : TaskPlatform) (channels : List (ℤ × List String)) :
    (dispatchPlatformUpdate settings platform channels mem).Follows (quotaProtocol t q)
      (fun mem' _ => mem'.Keeps t q) m := by
  cases platform with
  | midjourney | mujianImage => exact h
  | suno =>
    exact follows_foldlM (I := fun _ mem _ => TaskMap.Keeps t q mem)
      (fun c _ _ _ hI => keeps_updateSunoTasks hI c.1 c.2) h
  | other name =>
    exact follows_foldlM (I := fun _ mem _ => TaskMap.Keeps t q mem)
      (fun c _ _ _ hI => keeps_updateVideoTasks hI settings (.other name) c.1 c.2) h

theorem keeps_pollPlatform {tasks : List Task} (h : ∀ task ∈ tasks, task.Keeps t q)
    (settings : Settings) (platform : TaskPlatform) :
    (pollPlatform settings platform tasks).Follows (quotaProtocol t q) (fun _ _ => True) m := by
  have hmem : (taskM (submittedTasks tasks)).Keeps t q :=
    fun _ task hv => h task (List.mem_filter.1 (taskM_eq_some hv).1).1
  have hnull : (failNullTasks tasks).Follows (quotaProtocol t q) (fun _ _ => True) m := by
    unfold failNullTasks
    split
    · trivial
    · exact ⟨trivial, fun _ _ => trivial⟩
  unfold pollPlatform
  rw [follows_bind]
  refine hnull.mono fun _ _ _ => ?_
  rw [follows_bind]
  exact (keeps_dispatchPlatformUpdate hmem settings platform _).mono fun _ _ _ => trivial

theorem keeps_pollOnce (settings : Settings) :
    (pollOnce settings).Follows (quotaProtocol t q) (fun _ _ => True) m := by
  unfold pollOnce
  rw [follows_bind]
  refine (keeps_sweepTimedOutTasks settings).mono fun _ _ _ => ?_
  refine ⟨trivial, fun tasks hread => ?_⟩
  refine follows_foldlM (I := fun _ _ _ => True) (fun platform _ _ _ _ => ?_) trivial
  exact keeps_pollPlatform (fun task htask => hread task (List.mem_filter.1 htask).1) settings _

/-- **A run writes back and refunds the quota it has read.** -/
theorem Worker.keeps (settings : Settings) (worker : Worker) :
    (worker.program settings).Follows (quotaProtocol t q) (fun _ _ => True) () := by
  cases worker with
  | poll => exact keeps_pollOnce settings
  | sweep => exact keeps_sweepTimedOutTasks settings

end

/-- An adjustment of the task's funding that takes effect is a refund. -/
def OnlyRefunds (t : ℤ) (o : TaskOp) (out : Outcome) : Prop :=
  match o with
  | .taskAdjustFunding task delta => task.id = t → out.succeeds = true → delta = -task.quota
  | _ => True

instance (t : ℤ) (o : TaskOp) (out : Outcome) : Decidable (OnlyRefunds t o out) := by
  unfold OnlyRefunds
  cases o <;> infer_instance

/-- The row of the task has the quota, and whatever has been paid for the task is its refund. -/
structure StoredQuota (t q : ℤ) (s : Store) : Prop where
  row : ∃ row, s.tasks.find? t = some row ∧ row.quota = q
  payments : ∀ delta ∈ s.payments t, delta = -q

section

variable {t q : ℤ} {s : Store}

section

variable (h : StoredQuota t q s)
include h

theorem StoredQuota.keeps_of_mem {task : Task} (hmem : task ∈ s.tasks.rows) : task.Keeps t q := by
  intro hid
  obtain ⟨row, hrow, hquota⟩ := h.row
  have hfind : s.tasks.find? t = some task := hid ▸ Table.find?_key_of_mem hmem
  obtain rfl := Option.mem_unique hfind hrow
  exact hquota

theorem StoredQuota.readsQuota (o : TaskOp) (out : Outcome)
    (hrefunds : OnlyRefunds t o out) : ReadsQuota t q o (o.exec out s).2 := by
  have hselect : ∀ (p : Task → Bool) (order : Task → ℤ) (limit : ℕ),
      ∀ task ∈ (if out.succeeds then s.select p order limit else []), task.Keeps t q := by
    intro p order limit task htask
    split at htask
    · exact h.keeps_of_mem (Store.mem_select htask).1
    · exact absurd htask List.not_mem_nil
  cases o with
  | getTimedOutUnfinishedTasks | getAllUnFinishSyncTasks => exact hselect _ _ _
  | taskAdjustFunding task delta =>
    intro hok hid
    refine hrefunds hid ?_
    by_contra hfails
    rw [TaskOp.exec, if_neg hfails] at hok
    exact Bool.false_ne_true hok
  | _ => trivial

theorem StoredQuota.rowAfter {o : TaskOp} (hkeeps : KeepsQuota t q o) (out : Outcome) :
    ∃ row, Tasks.rowAfter t out (s.tasks.find? t) o = some row ∧ row.quota = q := by
  obtain ⟨row, hrow, hquota⟩ := h.row
  rw [hrow]
  cases o with
  | updateWithStatus | update =>
    simp only [Tasks.rowAfter]
    split
    · rename_i hwrites
      exact ⟨_, rfl, hkeeps hwrites.1⟩
    · exact ⟨row, rfl, hquota⟩
  | taskBulkUpdateByID ids failReason =>
    simp only [Tasks.rowAfter]
    split
    · refine ⟨_, rfl, ?_⟩
      dsimp only
      split
      · exact hquota
      · exact hquota
    · exact ⟨row, rfl, hquota⟩
  | _ => exact ⟨row, rfl, hquota⟩

/-- One operation of a run. -/
theorem StoredQuota.exec {o : TaskOp} (hkeeps : KeepsQuota t q o)
    {out : Outcome} (hrefunds : OnlyRefunds t o out) : StoredQuota t q (o.exec out s).1 where
  row := by
    rw [find?_exec]
    exact h.rowAfter hkeeps out
  payments := by
    rw [payments_exec]
    cases o with
    | taskAdjustFunding task delta =>
      simp only [paymentsAfter]
      split
      · rename_i heffect
        intro x hx
        rcases List.mem_cons.1 hx with rfl | hx
        · rw [hrefunds heffect.1 heffect.2, hkeeps heffect.1]
        · exact h.payments x hx
      · exact h.payments
    | _ => exact h.payments

end

variable {ι : Type} [DecidableEq ι]

/-- Any number of passes and sweeps may be interleaved, and any of their statements may fail. -/
theorem run_storedQuota (h : StoredQuota t q s) (settings : Settings) (workers : ι → Worker)
    {es : List (ι × Outcome)}
    (hmeets : System.Meets TaskOp.exec (fun _ _ o out => OnlyRefunds t o out)
      (.start s fun i => (workers i).program settings) es) :
    StoredQuota t q ((System.start s fun i => (workers i).program settings).run
      TaskOp.exec es).state := by
  have hsound : ((System.start s fun i => (workers i).program settings).run TaskOp.exec es).Sound
      (quotaProtocol t q) (fun s _ => StoredQuota t q s) :=
    System.run_sound
      (fun s _ o out hs hkeeps hrefunds =>
        ⟨hs.readsQuota o out hrefunds, hs.exec hkeeps hrefunds⟩) h
      (fun i => (workers i).keeps settings) hmeets
  exact hsound.inv

end

end Mujian.Tasks
