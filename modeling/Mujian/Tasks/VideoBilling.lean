import Mujian.Tasks.Steps

/-!
# A video task is billed once

Pollers and sweeps end a task by a compare-and-set from the status that they have read, and only
the one that wins it moves money (`video_billed_at_most_once`), as long as the tasks that a pass
reads can be told apart by their upstream ids. Of two tasks with the same id only one is in the map
of the pass, and it is polled twice; the second time the compare-and-set is skipped or starts from
the final status (`video_refunded_twice`).
-/

namespace Mujian.Tasks

open Protocols (Prog System)

variable {ι : Type}

/-- Whenever unfinished tasks are read, no other one on the platform has the task's upstream id. -/
def ReadsOwnID (ref : TaskRef) (s : TaskSystem ι) (_ : ι) : TaskOp → Outcome → Prop
  | .getAllUnFinishSyncTasks limit, out =>
    OwnUpstreamID ref ((TaskOp.getAllUnFinishSyncTasks limit).exec out s.state).2
  | _, _ => True

instance (ref : TaskRef) (s : TaskSystem ι) (i : ι) : ∀ o out, Decidable (ReadsOwnID ref s i o out)
  | .getAllUnFinishSyncTasks _, _ => inferInstanceAs (Decidable (OwnUpstreamID ref _))
  | .clock, _ | .getTimedOutUnfinishedTasks _ _, _ | .updateWithStatus _ _, _
  | .taskBulkUpdateByID _ _, _ | .update _, _ | .taskAdjustFunding _ _, _
  | .taskAdjustTokenQuota _ _, _ | .cacheGetChannel _, _ | .getTaskAdaptor _, _ | .fetchVideo _, _
  | .adjustBillingOnComplete _ _, _ | .quotaByTokens _ _, _ | .fetchSuno _ _, _ => .isTrue trivial

def Stage.IsWon : Stage → Prop
  | idle | fresh | paid => False
  | won _ => True

variable [DecidableEq ι]

/-- At most one run has won the task, and then nothing has been paid yet. As long as the task goes
on, nobody has won it. -/
structure BilledOnce (n : ℕ) (row : Task) (pays : List ℤ) (m : ι → Stage) : Prop where
  ongoing : ¬row.status.Done → pays.length = n ∧ ∀ i, ¬(m i).IsWon
  winner : ∀ i j, (m i).IsWon → (m j).IsWon → i = j
  unpaid : ∀ i, (m i).IsWon → pays.length = n
  le : pays.length ≤ n + 1

namespace BilledOnce

variable {n : ℕ} {row row' : Task} {pays : List ℤ} {m : ι → Stage} {i : ι} {m' : Stage}

section

variable (h : BilledOnce n row pays m)
include h

/-- A step that wins nothing and pays nothing. -/
theorem keep (hrow : ¬row'.status.Done → ¬row.status.Done)
    (hwon : m'.IsWon → (m i).IsWon) : BilledOnce n row' pays (Function.update m i m') := by
  have hback : ∀ j, (Function.update m i m' j).IsWon → (m j).IsWon := by
    intro j hj
    by_cases hji : j = i
    · subst hji
      rw [Function.update_self] at hj
      exact hwon hj
    · rwa [Function.update_of_ne hji] at hj
  refine ⟨fun hdone => ?_, fun j k hj hk => h.winner j k (hback j hj) (hback k hk),
    fun j hj => h.unpaid j (hback j hj), h.le⟩
  obtain ⟨hpays, hnone⟩ := h.ongoing (hrow hdone)
  exact ⟨hpays, fun j hj => hnone j (hback j hj)⟩

/-- The run `i` ends the task. -/
theorem win (hrow : ¬row.status.Done) (hdone : row'.status.Done)
    (owes : Bool) : BilledOnce n row' pays (Function.update m i (.won owes)) := by
  obtain ⟨hpays, hnone⟩ := h.ongoing hrow
  have honly : ∀ j, (Function.update m i (.won owes) j).IsWon → j = i := by
    intro j hj
    by_contra hji
    rw [Function.update_of_ne hji] at hj
    exact hnone j hj
  exact ⟨fun hnot => absurd hdone hnot, fun j k hj hk => (honly j hj).trans (honly k hk).symm,
    fun _ _ => hpays, h.le⟩

theorem pay (hi : (m i).IsWon) (delta : ℤ) :
    BilledOnce n row (delta :: pays) (Function.update m i .idle) := by
  have hnone : ∀ j, ¬(Function.update m i .idle j).IsWon := by
    intro j hj
    by_cases hji : j = i
    · rw [hji, Function.update_self] at hj
      exact hj
    · rw [Function.update_of_ne hji] at hj
      exact hji (h.winner j i hj hi)
  refine ⟨fun hnot => absurd hi ((h.ongoing hnot).2 i), fun j _ hj => absurd hj (hnone j),
    fun j hj => absurd hj (hnone j), ?_⟩
  rw [List.length_cons, h.unpaid i hi]

end

theorem step {ref : TaskRef} (hvideo : ref.platform ≠ .suno) {met : TaskOp → Prop} {ok : Bool}
    {pays' : List ℤ} (h : BilledOnce n row pays m)
    (hstep : TaskStep ref ⟨False, False⟩ met ok row pays (m i) row' pays' m') :
    BilledOnce n row' pays' (Function.update m i m') := by
  have hpayer : ∀ {x : Stage}, (x = .won true ∨ x = .fresh ∧ ref.platform = .suno) ∨
      x = .won false ∧ ref.platform ≠ .suno → x.IsWon ∧ x.afterPayment = .idle := by
    rintro x ((rfl | ⟨-, hsuno⟩) | ⟨rfl, -⟩)
    · exact ⟨trivial, rfl⟩
    · exact absurd hsuno hvideo
    · exact ⟨trivial, rfl⟩
  generalize hm : m i = x at hstep
  cases hstep with
  | quiet => exact h.keep id fun hx => hm ▸ hx
  | read | readOthers | lose => exact h.keep id False.elim
  | win task fromStatus hmet his hquota hrow hsuno =>
    split
    · exact h.win hrow ‹_› _
    · exact h.keep (fun _ => hrow) False.elim
  | save task hmet hok his hquota hsuno => exact absurd hsuno hvideo
  | unsaved task hmet hid hok hx => exact h.keep id False.elim
  | pay task delta hmet hid hok hx =>
    obtain ⟨hwon, hidle⟩ := hpayer (hx.imp_left And.left)
    rw [hidle]
    exact h.pay (hm ▸ hwon) delta
  | unpaid task delta hmet hid hok hx =>
    rw [(hpayer hx).2]
    exact h.keep id False.elim
  | fail _ failReason => exact h.keep (fun hnot => absurd (.inl rfl) hnot) fun hx => hm ▸ hx

end BilledOnce

/-- **A video task is billed at most once**, in every run in which no other task that is read has
its upstream id; and once it has ended, no compare-and-set changes it. -/
theorem video_billed_at_most_once (settings : Settings) (workers : ι → Worker) (s : Store)
    (task : Task) (htask : task ∈ s.tasks.rows) (hvideo : task.platform ≠ .suno)
    (es : List (ι × Outcome))
    (hmeets : System.Meets TaskOp.exec (ReadsOwnID task.ref)
      (.start s fun i => (workers i).program settings) es) :
    let final := (System.start s fun i => (workers i).program settings).run TaskOp.exec es
    (final.state.payments task.id).length ≤ (s.payments task.id).length + 1 ∧
      ∀ row, final.state.tasks.find? task.id = some row → row.status.Done →
        ∀ i update fromStatus k out,
          (final.procs i).code = .op (.updateWithStatus update fromStatus) k →
          (final.step TaskOp.exec (i, out)).state.tasks.find? task.id = some row := by
  intro final
  have hsound : final.Sound (discipline task.ref ⟨False, False⟩) fun s' m =>
      ∃ row, Stored task.ref s' row ∧
        BilledOnce (s.payments task.id).length row (s'.payments task.id) m :=
    run_task (fun s i o out h => by
        cases o with
        | getAllUnFinishSyncTasks limit => exact h
        | cacheGetChannel channelId => exact False.elim
        | fetchSuno channelId taskIds =>
          exact fun _ _ => ⟨fun hsuno => absurd hsuno hvideo, False.elim⟩
        | _ => trivial)
      (fun s i out row row' pays' m' h _ hstep => h.step hvideo hstep) (stored_ref htask)
      ⟨fun _ => ⟨rfl, fun _ => id⟩, fun _ _ h => h.elim, fun _ h => h.elim, Nat.le_succ _⟩
      (fun i => (workers i).follows settings False.elim) hmeets
  obtain ⟨row, hrow, hbilled⟩ := hsound.inv
  refine ⟨hbilled.le, fun row hfind hdone i update fromStatus k out hcode => ?_⟩
  have hallowed := hsound.follows i
  rw [hcode] at hallowed
  have hstate : (final.step TaskOp.exec (i, out)).state =
      ((TaskOp.updateWithStatus update fromStatus).exec out final.state).1 := by
    unfold System.step
    simp only [hcode]
  rw [hstate, find?_exec, hfind]
  refine if_neg fun hwin => ?_
  have hstatus : row.status = fromStatus := of_decide_eq_true hwin.2.2
  exact (hallowed.1.2 hwin.1).2.2.2.1 (hstatus ▸ hdone)

def sampleSettings : Settings := ⟨1440, 1000, "http://localhost"⟩

def sampleVideo (id : ℤ) (upstreamID : String) : Task where
  id := id
  taskID := "task"
  platform := .other "50"
  userId := 7
  channelId := 3
  quota := 500
  status := .queued
  failReason := ""
  submitTime := 1800000000
  startTime := 0
  finishTime := 0
  progress := "20%"
  privateData := ⟨upstreamID, "", "wallet", 0, 0, false⟩
  data := ""

def videoFailed : Outcome :=
  { now := 1800000100, video := .parsed (failTaskInfo "bad prompt") "" .notJson }

def sampleStore : Store := ⟨⟨[sampleVideo 1 "u1", sampleVideo 2 "u2"], by decide⟩, []⟩

/-- Two pollers read the tasks and hear that they have failed. -/
def videoSchedule : List (Bool × Outcome) :=
  List.replicate 7 (false, videoFailed) ++ List.replicate 13 (true, videoFailed) ++
    List.replicate 12 (false, videoFailed)

theorem video_billed_at_most_once_sample :
    System.Meets TaskOp.exec (ReadsOwnID (sampleVideo 1 "u1").ref)
        (.start sampleStore fun _ : Bool => Worker.poll.program sampleSettings) videoSchedule ∧
      (((System.start sampleStore fun _ : Bool => Worker.poll.program sampleSettings).run
        TaskOp.exec videoSchedule).state.payments 1).length ≤ 1 :=
  have hmeets : System.Meets TaskOp.exec (ReadsOwnID (sampleVideo 1 "u1").ref)
      (.start sampleStore fun _ : Bool => Worker.poll.program sampleSettings) videoSchedule := by
    decide +kernel
  ⟨hmeets, (video_billed_at_most_once sampleSettings (fun _ : Bool => .poll) sampleStore
    (sampleVideo 1 "u1") (by decide) (by decide) videoSchedule hmeets).1⟩

/-- Two tasks of one channel with the same upstream id: one pass refunds the second of them
twice. -/
theorem video_refunded_twice :
    ((System.start ⟨⟨[sampleVideo 1 "u", sampleVideo 2 "u"], by decide⟩, []⟩
      fun _ : Unit => Worker.poll.program sampleSettings).run TaskOp.exec
        (List.replicate 20 ((), videoFailed))).state.payments 2 = [-500, -500] := by decide +kernel

end Mujian.Tasks
