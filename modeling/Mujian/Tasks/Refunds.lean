import Mujian.Tasks.VideoBilling

/-!
# Failed tasks are refunded

The polling loop moves a task to failure in four ways: the sweep, the poll of a video, the answer of
a Suno provider, and a bulk update for tasks without an upstream id or without a channel, which is
not accompanied by a refund (`failed_without_refund`). `failed_task_refunded` says when the other
ways refund the task exactly once.
-/

namespace Mujian.Tasks

open Protocols (Prog System)

/-- No other task that is read has the upstream id of the task, its channel is found, a Suno
provider mentions it at most once, the statements on it succeed, and the sweep does not exempt
it. -/
def FaultFree (ref : TaskRef) (s : TaskSystem Unit) (_ : Unit) (o : TaskOp) (out : Outcome) :
    Prop :=
  GoodInputs ref ⟨True, False⟩ o (o.exec out s.state).2 ∧
    (∀ task ∈ o.task?, task.id = ref.id → out.succeeds = true) ∧
    ∀ task ∈ o.ended?, task.id = ref.id → ¬task.Legacy

instance (ref : TaskRef) (s : TaskSystem Unit) (i : Unit) (o : TaskOp) (out : Outcome) :
    Decidable (FaultFree ref s i o out) :=
  inferInstanceAs (Decidable (_ ∧ (∀ task ∈ o.task?, _ → _) ∧ ∀ task ∈ o.ended?, _ → _))

/-- What is stored and paid for the task, by the stage of the loop. `before` is what had been paid
at the start. -/
def Refunding (quota : ℤ) (before : List ℤ) (row : Task) (pays : List ℤ) : Stage → Prop
  | .idle => (row.Unfinished → pays = before) ∧ (row.status = .failure → pays = -quota :: before)
  | .fresh => row.Unfinished ∧ pays = before
  | .paid => ¬row.status.Done ∧ pays = -quota :: before
  | .won true => row.status = .failure ∧ pays = before
  | .won false => row.status = .success

theorem Refunding.step {ref : TaskRef} (hquota : ref.quota ≠ 0) {before pays pays' : List ℤ}
    {row row' : Task} {m m' : Stage} {met : TaskOp → Prop} {ok : Bool}
    (h : Refunding ref.quota before row pays m)
    (hok : ∀ o task, met o → task ∈ o.task? → task.id = ref.id → ok = true)
    (hlegacy : ∀ o task, met o → task ∈ o.ended? → task.id = ref.id → ¬task.Legacy)
    (hstep : TaskStep ref ⟨True, False⟩ met ok row pays m row' pays' m') :
    Refunding ref.quota before row' pays' m' := by
  -- a task that has been read or left alone is unpaid as long as it is unfinished
  have hunpaid : m.Calm → row.Unfinished → pays = before := by
    intro hcalm hrow
    cases m with
    | idle => exact h.1 hrow
    | fresh => exact h.2
    | paid => exact absurd rfl hcalm.1
    | won owes =>
      cases owes with
      | true => exact absurd rfl hcalm.2
      | false => exact absurd (.inr h) hrow.2
  cases hstep with
  | quiet => exact h
  | read hcalm hrow => exact ⟨hrow, hunpaid hcalm hrow⟩
  | readOthers hcalm =>
    refine ⟨hunpaid hcalm, fun hfailure => ?_⟩
    cases m with
    | idle => exact h.2 hfailure
    | fresh => exact absurd (.inl hfailure) h.1.2
    | paid => exact absurd rfl hcalm.1
    | won owes =>
      cases owes with
      | true => exact absurd rfl hcalm.2
      | false => cases hfailure.symm.trans h
  | lose => exact ⟨fun _ => h.2, fun hfailure => absurd (.inl hfailure) h.1.2⟩
  | win task fromStatus hmet his htask hrow hsuno =>
    have hnot := hlegacy _ row' hmet rfl his.1
    split
    · rename_i hdone
      rcases hdone with hfailure | hsuccess
      · rw [decide_eq_true (show row'.Owes from ⟨hfailure, htask ▸ hquota, hnot⟩)]
        exact ⟨hfailure, h.2⟩
      · rw [decide_eq_false fun howes : row'.Owes =>
          absurd (hsuccess.symm.trans howes.1) (by decide)]
        exact hsuccess
    · rename_i hdone
      exact ⟨fun _ => h.2, fun hfailure => absurd (.inl hfailure) hdone⟩
  | save task hmet _ his htask hsuno hm =>
    rcases hm with ⟨rfl, hzero⟩ | ⟨rfl, hprogress⟩
    · exact ⟨fun _ => h.2, fun hfailure => absurd (hzero hfailure) hquota⟩
    · exact ⟨fun hrow => absurd hprogress.1 hrow.1, fun _ => h.2⟩
  | unsaved task hmet hid hfailed hm => cases hfailed.symm.trans (hok _ task hmet rfl hid)
  | pay task delta hmet hid _ hm =>
    rcases hm with ⟨rfl | ⟨rfl, -⟩, rfl⟩ | ⟨rfl, -⟩
    · exact ⟨fun hrow => absurd (.inl h.1) hrow.2, fun _ => by rw [h.2]⟩
    · exact ⟨h.1.2, by rw [h.2]⟩
    · exact ⟨fun hrow => absurd (.inr h) hrow.2, fun hfailure => by cases hfailure.symm.trans h⟩
  | unpaid task delta hmet hid hfailed hm => cases hfailed.symm.trans (hok _ task hmet rfl hid)
  | fail _ failReason hasked => exact absurd trivial hasked

/-- A loop that owes a refund makes it next. -/
theorem code_of_owes {ref : TaskRef} {asks : Demands} {code : TaskProg Unit}
    (h : code.Follows (discipline ref asks) (fun _ m => m.Calm) (.won true)) :
    ∃ task k, code = .op (.taskAdjustFunding task (-ref.quota)) k ∧ task.id = ref.id := by
  cases code with
  | ret | stop => exact absurd rfl h.2
  | op o k =>
    have hallowed : Allowed ref asks (.won true) o := h.1
    cases o with
    | taskAdjustFunding task delta =>
      have hid := hallowed.2.1 rfl
      rcases hallowed.2.2 hid with ⟨-, rfl⟩ | ⟨hm, -⟩
      · exact ⟨task, k, rfl, hid⟩
      · cases hm
    | updateWithStatus task fromStatus => exact absurd rfl hallowed.1.2
    | update task => exact absurd rfl hallowed.1
    | taskBulkUpdateByID ids failReason => exact absurd rfl hallowed.1.2
    | taskAdjustTokenQuota task delta => exact absurd rfl hallowed
    | clock | getTimedOutUnfinishedTasks | getAllUnFinishSyncTasks | cacheGetChannel
    | getTaskAdaptor | fetchVideo | adjustBillingOnComplete | quotaByTokens | fetchSuno =>
      exact absurd rfl hallowed.2

/-- **A task that the polling loop moves to failure is refunded exactly once**, in every run of the
loop that is free of faults as far as the task is concerned. -/
theorem failed_task_refunded (settings : Settings) (n : ℕ) (s : Store) (task : Task)
    (htask : task ∈ s.tasks.rows) (hunfinished : task.Unfinished) (hquota : task.quota ≠ 0)
    (hupstream : task.getUpstreamTaskID ≠ "") (es : List (Unit × Outcome))
    (hmeets : System.Meets TaskOp.exec (FaultFree task.ref)
      (.start s fun _ => taskPollingLoop settings n) es) :
    let final := (System.start s fun _ : Unit => taskPollingLoop settings n).run TaskOp.exec es
    ∀ row, final.state.tasks.find? task.id = some row → row.status = .failure →
      final.state.payments task.id = -task.quota :: s.payments task.id ∨
        final.state.payments task.id = s.payments task.id ∧ ∃ refunded k, (final.procs ()).code =
            .op (.taskAdjustFunding refunded (-task.quota)) k ∧ refunded.id = task.id := by
  intro final row hfind hfailure
  have hsound : final.Sound (discipline task.ref ⟨True, False⟩) fun s' m =>
      ∃ row, Stored task.ref s' row ∧
        Refunding task.quota (s.payments task.id) row (s'.payments task.id) (m ()) := by
    refine run_task (J := fun row pays m =>
      Refunding task.quota (s.payments task.id) row pays (m ())) (fun s i o out h => h.1)
      (fun s i out row row' pays' m' h _ hstep => ?_) (stored_ref htask)
      ⟨fun _ => rfl, fun hf => absurd (.inl hf) hunfinished.2⟩
      (fun _ => follows_taskPollingLoop calm_idle (fun _ => hupstream) settings n) hmeets
    exact Refunding.step hquota h (fun o x hc => hc.2.1 x) (fun o x hc => hc.2.2 x) hstep
  obtain ⟨row₁, hrow₁, hrefunding⟩ := hsound.inv
  have hfollows := hsound.follows ()
  have hrow : row₁ = row := Option.mem_unique hrow₁.find hfind
  subst hrow
  cases hstage : final.stages (discipline task.ref ⟨True, False⟩) () with
  | idle =>
    rw [hstage] at hrefunding
    exact .inl (hrefunding.2 hfailure)
  | fresh =>
    rw [hstage] at hrefunding
    exact absurd (.inl hfailure) hrefunding.1.2
  | paid =>
    rw [hstage] at hrefunding
    exact absurd (.inl hfailure) hrefunding.1
  | won owes =>
    rw [hstage] at hrefunding hfollows
    cases owes with
    | true =>
      obtain ⟨refunded, k, hcode, hid⟩ := code_of_owes hfollows
      exact .inr ⟨hrefunding.2, refunded, k, hcode, hid⟩
    | false => cases hfailure.symm.trans hrefunding

def sampleLoop : TaskSystem Unit := .start sampleStore fun _ => taskPollingLoop sampleSettings 2

def loopSchedule : List (Unit × Outcome) := List.replicate 20 ((), videoFailed)

theorem failed_task_refunded_sample :
    System.Meets TaskOp.exec (FaultFree (sampleVideo 1 "u1").ref) sampleLoop loopSchedule ∧
      let final := sampleLoop.run TaskOp.exec loopSchedule
      ∀ row, final.state.tasks.find? 1 = some row → row.status = .failure →
        final.state.payments 1 = [-500] ∨ final.state.payments 1 = [] ∧
          ∃ refunded k, (final.procs ()).code = .op (.taskAdjustFunding refunded (-500)) k ∧
            refunded.id = 1 :=
  have hmeets : System.Meets TaskOp.exec (FaultFree (sampleVideo 1 "u1").ref) sampleLoop
      loopSchedule := by decide +kernel
  ⟨hmeets, failed_task_refunded sampleSettings 2 sampleStore (sampleVideo 1 "u1") (by decide)
    (by decide) (by decide) (by decide) loopSchedule hmeets⟩

/-- The channel of the tasks is missing: they are moved to failure, and nothing is paid back. -/
theorem failed_without_refund :
    let final := (System.start sampleStore fun _ : Unit => taskPollingLoop sampleSettings 1).run
      TaskOp.exec (List.replicate 20 ((), { found := false }))
    (final.state.tasks.find? 1).map Task.status = some .failure ∧ final.state.ledger = [] := by
  decide +kernel

end Mujian.Tasks
