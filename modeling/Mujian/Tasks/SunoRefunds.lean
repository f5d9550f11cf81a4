import Mujian.Tasks.VideoBilling
import Mathlib.Data.Fintype.Basic

/-!
# Refunds of a Suno task

The update of Suno tasks refunds a task first and saves it then, unconditionally, while the sweep
uses a compare-and-set. In `suno_refunded_twice` the save fails, and a sweep refunds the task again.
`suno_refunded_at_most_once` says when this does not happen: the update must find the status that it
has read, and nobody else may act between its refund and its save. Sweeps are safe from each other.
-/

namespace Mujian.Tasks

open Protocols (Prog Protocol System)

variable {ι : Type}

/-- The record of the status with which a run has last read the task, if it has. -/
def lastRead (t : ℤ) : Protocol TaskOp.Result (Option TaskStatus) where
  start := none
  allowed _ _ := True
  possible _ o r :=
    match o, r with
    | .getTimedOutUnfinishedTasks _ _, tasks => ∀ task ∈ tasks, ¬task.status.Done
    | .getAllUnFinishSyncTasks _, tasks => ∀ task ∈ tasks, ¬task.status.Done
    | _, _ => True
  next status o r :=
    match o, r with
    | .getTimedOutUnfinishedTasks _ _, tasks =>
      (tasks.find? fun task => task.id = t).map Task.status
    | .getAllUnFinishSyncTasks _, tasks => (tasks.find? fun task => task.id = t).map Task.status
    | _, _ => status
  final _ := True

/-- A run that has read the task acts on it only while no other run is between its refund and its
save. Where it refunds or saves the task without a compare-and-set, the stored status is the one
that it has read. A save that follows a refund does not fail. -/
def Undisturbed (ref : TaskRef) (s : TaskSystem ι) (i : ι) (o : TaskOp) (out : Outcome) : Prop :=
  GoodInputs ref ⟨False, True⟩ o (o.exec out s.state).2 ∧ ∀ task ∈ o.task?, task.id = ref.id →
      (s.stages (discipline ref ⟨False, True⟩) i = .fresh →
        (∀ j, j ≠ i → s.stages (discipline ref ⟨False, True⟩) j ≠ .paid) ∧
          (o.ended? = none →
            (s.state.tasks.find? ref.id).map Task.status = s.stages (lastRead ref.id) i)) ∧
      (s.stages (discipline ref ⟨False, True⟩) i = .paid → out.succeeds = true)

instance [Fintype ι] [DecidableEq ι] (ref : TaskRef) (s : TaskSystem ι) (i : ι) (o : TaskOp)
    (out : Outcome) : Decidable (Undisturbed ref s i o out) :=
  inferInstanceAs (Decidable (_ ∧ ∀ task ∈ o.task?, _ → (_ → _ ∧ (_ → _)) ∧ (_ → _)))

/-- Runs only read tasks that have not ended. -/
theorem possible_lastRead (t : ℤ) (status : Option TaskStatus) (o : TaskOp) (out : Outcome)
    (s : Store) : (lastRead t).possible status o (o.exec out s).2 := by
  cases o with
  | getTimedOutUnfinishedTasks cutoffUnix limit =>
    change ∀ task : Task, task ∈ (if out.succeeds = true then _ else []) → ¬task.status.Done
    split
    · exact fun task hmem => (of_decide_eq_true (Store.mem_select hmem).2).1.2
    · exact fun _ hmem => absurd hmem List.not_mem_nil
  | getAllUnFinishSyncTasks limit =>
    change ∀ task : Task, task ∈ (if out.succeeds = true then _ else []) → ¬task.status.Done
    split
    · exact fun task hmem => (of_decide_eq_true (Store.mem_select hmem).2).2
    · exact fun _ hmem => absurd hmem List.not_mem_nil
  | _ => trivial

theorem not_done_next {t : ℤ} {status status' : Option TaskStatus} {o : TaskOp} {r : o.Result}
    (h : ∀ x ∈ status, ¬x.Done) (hpossible : (lastRead t).possible status o r)
    (hnext : (lastRead t).next status o r = status') : ∀ x ∈ status', ¬x.Done := by
  subst hnext
  have hread : ∀ tasks : List Task, (∀ task ∈ tasks, ¬task.status.Done) →
      ∀ x ∈ (tasks.find? fun task => task.id = t).map Task.status, ¬x.Done := by
    intro tasks htasks x hx
    obtain ⟨task, hfind, rfl⟩ := Option.map_eq_some_iff.1 hx
    exact htasks task (List.mem_of_find?_eq_some hfind)
  cases o with
  | getTimedOutUnfinishedTasks cutoffUnix limit => exact hread _ hpossible
  | getAllUnFinishSyncTasks limit => exact hread _ hpossible
  | _ => exact h

/-- At most one run is halfway through an update. If it owes a refund, the task has ended and is
unpaid; a task that has not ended and that nobody is working on is unpaid. -/
structure RefundedOnce (n : ℕ) (row : Task) (pays : List ℤ) (m : ι → Stage) : Prop where
  le : pays.length ≤ n + 1
  one : ∀ i j, ¬(m i).Calm → ¬(m j).Calm → i = j
  owing : ∀ i, m i = .won true → pays.length = n ∧ row.status.Done
  ongoing : ¬row.status.Done → (∀ i, (m i).Calm) → pays.length = n

namespace RefundedOnce

variable [DecidableEq ι] {n : ℕ} {row row' : Task} {pays pays' : List ℤ} {m : ι → Stage} {i : ι}
  {m' : Stage}

/-- A step after which nobody is halfway. -/
theorem of_calm (hothers : ∀ j, j ≠ i → (m j).Calm) (hm' : m'.Calm) (hle : pays'.length ≤ n + 1)
    (hongoing : ¬row'.status.Done → pays'.length = n) :
    RefundedOnce n row' pays' (Function.update m i m') := by
  have hall : ∀ j, (Function.update m i m' j).Calm := by
    intro j
    by_cases hji : j = i
    · rw [hji, Function.update_self]
      exact hm'
    · rw [Function.update_of_ne hji]
      exact hothers j hji
  exact ⟨hle, fun j _ hj => absurd (hall j) hj, fun j hj => absurd hj (hall j).2,
    fun hrow _ => hongoing hrow⟩

/-- A step after which the run `i` alone is halfway. -/
theorem of_busy (hothers : ∀ j, j ≠ i → (m j).Calm) (hm' : ¬m'.Calm) (hle : pays'.length ≤ n + 1)
    (howing : m' = .won true → pays'.length = n ∧ row'.status.Done) :
    RefundedOnce n row' pays' (Function.update m i m') := by
  have honly : ∀ j, ¬(Function.update m i m' j).Calm → j = i := by
    intro j hj
    by_contra hji
    rw [Function.update_of_ne hji] at hj
    exact hj (hothers j hji)
  refine ⟨hle, fun j k hj hk => (honly j hj).trans (honly k hk).symm, fun j hj => ?_,
    fun _ hall => ?_⟩
  · have hji := honly j fun hcalm => hcalm.2 hj
    rw [hji, Function.update_self] at hj
    exact howing hj
  · have := hall i
    rw [Function.update_self] at this
    exact absurd this hm'

/-- A step of a run that is not halfway, before and after, which pays nothing. -/
theorem keep (h : RefundedOnce n row pays m) (hi : (m i).Calm) (hm' : m'.Calm)
    (hdone : row.status.Done → row'.status.Done) :
    RefundedOnce n row' pays (Function.update m i m') := by
  have hne : ∀ j, ¬(Function.update m i m' j).Calm → j ≠ i ∧ Function.update m i m' j = m j := by
    intro j hj
    have hji : j ≠ i := by
      rintro rfl
      rw [Function.update_self] at hj
      exact hj hm'
    exact ⟨hji, Function.update_of_ne hji _ _⟩
  refine ⟨h.le, fun j k hj hk => ?_, fun j hj => ?_, fun hun hall =>
    h.ongoing (mt hdone hun) ?_⟩
  · rw [(hne j hj).2] at hj
    rw [(hne k hk).2] at hk
    exact h.one j k hj hk
  · rw [(hne j fun hcalm => hcalm.2 hj).2] at hj
    obtain ⟨hpays, hd⟩ := h.owing j hj
    exact ⟨hpays, hdone hd⟩
  · intro j
    by_cases hji : j = i
    · exact hji ▸ hi
    · have := hall j
      rwa [Function.update_of_ne hji] at this

theorem step {ref : TaskRef} (hsuno : ref.platform = .suno) {met : TaskOp → Prop} {ok : Bool}
    (h : RefundedOnce n row pays m) (hmet : ∀ o task, met o → task ∈ o.task? → task.id = ref.id →
      (m i = .fresh → (∀ j, j ≠ i → m j ≠ .paid) ∧ (o.ended? = none → ¬row.status.Done)) ∧
        (m i = .paid → ok = true))
    (hstep : TaskStep ref ⟨False, True⟩ met ok row pays (m i) row' pays' m') :
    RefundedOnce n row' pays' (Function.update m i m') := by
  -- where the task has not ended, nobody owes a refund, so that it is unpaid
  have hfresh : m i = .fresh → ¬row.status.Done → (∀ j, j ≠ i → m j ≠ .paid) →
      (∀ j, j ≠ i → (m j).Calm) ∧ pays.length = n := by
    intro hi hrow hpaid
    have hcalm : ∀ j, j ≠ i → (m j).Calm := fun j hji =>
      ⟨hpaid j hji, fun howes => hrow (h.owing j howes).2⟩
    refine ⟨hcalm, h.ongoing hrow fun j => ?_⟩
    by_cases hji : j = i
    · rw [hji, hi]
      exact calm_fresh
    · exact hcalm j hji
  have hothers : ¬(m i).Calm → ∀ j, j ≠ i → (m j).Calm := fun hi j hji =>
    by_contra fun hj => hji (h.one j i hj hi)
  generalize hm : m i = x at hstep
  rw [hm] at hfresh hothers
  simp only [hm] at hmet
  -- a run that refunds or saves the task without a compare-and-set
  have hacts : ∀ {o : TaskOp} {task : Task}, met o → task ∈ o.task? → task.id = ref.id →
      o.ended? = none → x = .fresh → (∀ j, j ≠ i → (m j).Calm) ∧ pays.length = n := by
    intro o task hc htask hid hended hx
    obtain ⟨hpaid, hrow⟩ := (hmet o task hc htask hid).1 hx
    exact hfresh hx (hrow hended) hpaid
  cases hstep with
  | quiet =>
    rw [← hm, Function.update_eq_self]
    exact h
  | read hcalm hrow => exact h.keep (hm ▸ hcalm) calm_fresh id
  | readOthers hcalm => exact h.keep (hm ▸ hcalm) calm_idle id
  | lose => exact h.keep (hm ▸ calm_fresh) calm_idle id
  | win task fromStatus hc his hquota hrow hfailure =>
    obtain ⟨hcalm, hpays⟩ := hfresh rfl hrow ((hmet _ row' hc rfl his.1).1 rfl).1
    have hdone : row'.status.Done := .inl (hfailure hsuno)
    rw [if_pos hdone]
    cases decide row'.Owes with
    | true => exact of_busy hcalm (by decide) (by omega) fun _ => ⟨hpays, hdone⟩
    | false => exact of_calm hcalm (by decide) (by omega) fun _ => hpays
  | save task hc hok his hquota _ hx =>
    rcases hx with ⟨rfl, -⟩ | ⟨rfl, -, hfailure⟩
    · obtain ⟨hcalm, hpays⟩ := hacts hc rfl his.1 rfl rfl
      exact of_calm hcalm calm_idle (by omega) fun _ => hpays
    · exact of_calm (hothers (by decide)) calm_idle h.le
        fun hun => absurd (.inl (hfailure trivial)) hun
  | unsaved task hc hid hok hx =>
    rcases hx with rfl | rfl
    · exact h.keep (hm ▸ calm_fresh) calm_idle id
    · cases hok.symm.trans ((hmet _ task hc rfl hid).2 rfl)
  | pay task delta hc hid hok hx =>
    rcases hx with ⟨rfl | ⟨rfl, -⟩, -⟩ | ⟨-, hnot⟩
    · obtain ⟨hpays, hdone⟩ := h.owing i hm
      exact of_calm (hothers (by decide)) calm_idle (by rw [List.length_cons, hpays])
        fun hun => absurd hdone hun
    · obtain ⟨hcalm, hpays⟩ := hacts hc rfl hid rfl rfl
      exact of_busy hcalm (by decide) (by rw [List.length_cons, hpays]) fun hx => by cases hx
    · exact absurd hsuno hnot
  | unpaid task delta hc hid hok hx =>
    rcases hx with (rfl | ⟨rfl, -⟩) | ⟨-, hnot⟩
    · obtain ⟨-, hdone⟩ := h.owing i hm
      exact of_calm (hothers (by decide)) calm_idle h.le fun hun => absurd hdone hun
    · obtain ⟨hcalm, -⟩ := hacts hc rfl hid rfl rfl
      exact of_busy hcalm (by decide) h.le fun hx => by cases hx
    · exact absurd hsuno hnot
  | fail _ failReason =>
    rw [← hm, Function.update_eq_self]
    exact ⟨h.le, h.one, fun j hj => ⟨(h.owing j hj).1, .inl rfl⟩, fun hun => absurd (.inl rfl) hun⟩

end RefundedOnce

variable [DecidableEq ι]

/-- **A Suno task is refunded at most once**, in every run of any number of passes and sweeps whose
operations on the task are undisturbed. -/
theorem suno_refunded_at_most_once (settings : Settings) (workers : ι → Worker) (s : Store)
    (task : Task) (htask : task ∈ s.tasks.rows) (hsuno : task.platform = .suno)
    (es : List (ι × Outcome))
    (hmeets : System.Meets TaskOp.exec (Undisturbed task.ref)
      (.start s fun i => (workers i).program settings) es) :
    (((System.start s fun i => (workers i).program settings).run TaskOp.exec
      es).state.payments task.id).length ≤ (s.payments task.id).length + 1 := by
  -- what a run has read had not ended
  have hkeeps : System.Keeps TaskOp.exec (lastRead task.id)
      (fun _ m => ∀ i, ∀ status ∈ m i, ¬status.Done)
      (fun (s : TaskSystem ι) i o out => Undisturbed task.ref s i o out) := by
    intro s i o out hinv _ _
    have hpossible := possible_lastRead task.id (s.stages (lastRead task.id) i) o out s.state
    refine ⟨hpossible, fun j => ?_⟩
    by_cases hji : j = i
    · rw [hji, Function.update_self]
      exact not_done_next (hinv i) hpossible rfl
    · rw [Function.update_of_ne hji]
      exact hinv j
  have hread : System.Meets TaskOp.exec (fun s i o out => Undisturbed task.ref s i o out ∧
      ∀ status ∈ s.stages (lastRead task.id) i, ¬status.Done)
      (.start s fun i => (workers i).program settings) es :=
    System.run_meets hkeeps (fun s i o out hinv _ hc => ⟨hc, hinv i⟩) (fun _ _ h => by cases h)
      (fun i => Prog.follows_of_unrestricted (fun _ _ => trivial) (fun _ => trivial) _) hmeets
  have hsound : ((System.start s fun i => (workers i).program settings).run TaskOp.exec es).Sound
      (discipline task.ref ⟨False, True⟩) fun s' m => ∃ row, Stored task.ref s' row ∧
        RefundedOnce (s.payments task.id).length row (s'.payments task.id) m := by
    refine run_task (fun s i o out h => h.1.1) (fun s i out row row' pays' m' h hrow hstep => ?_)
      (stored_ref htask) ⟨Nat.le_succ _, fun _ _ h => absurd calm_idle h, fun _ h => (by cases h),
        fun _ _ => rfl⟩
      (fun i => (workers i).follows settings False.elim) hread
    refine h.step hsuno (fun o x hc hx hid => ?_) hstep
    obtain ⟨hfresh, hpaid⟩ := hc.1.2 x hx hid
    refine ⟨fun hi => ⟨(hfresh hi).1, fun hended => ?_⟩, hpaid⟩
    have hstatus := (hfresh hi).2 hended
    rw [hrow.find] at hstatus
    exact hc.2 _ hstatus.symm
  obtain ⟨row, -, honce⟩ := hsound.inv
  exact honce.le

/-- A song that was paid from the wallet of user 7. -/
def sampleSong : Task := { sampleVideo 1 "s1" with platform := .suno }

def songFailed : Outcome :=
  { now := 1800000100, suno := some [⟨"s1", "FAILURE", "bad prompt", 0, 0, 0, ""⟩] }

def songStore : Store := ⟨⟨[sampleSong], by decide⟩, []⟩

instance : Fintype Worker where
  elems := {.poll, .sweep}
  complete worker := by cases worker <;> decide

def songSystem : TaskSystem Worker := .start songStore fun worker => worker.program sampleSettings

/-- The sweep runs while the song is being asked about. -/
def songSchedule : List (Worker × Outcome) :=
  List.replicate 3 (.poll, songFailed) ++ List.replicate 4 (.sweep, songFailed) ++
    List.replicate 6 (.poll, songFailed)

/-- Two sweeps that have both read the song when it has timed out. -/
def sweptSystem : TaskSystem Bool := .start songStore fun _ => Worker.sweep.program sampleSettings

def sweptSchedule : List (Bool × Outcome) :=
  (List.replicate 2 true ++ List.replicate 2 false ++ List.replicate 4 true ++
    List.replicate 4 false).map fun i => (i, { now := 1800172800 })

theorem suno_refunded_at_most_once_sample :
    ((songSystem.run TaskOp.exec songSchedule).state.payments 1).length ≤ 1 ∧
      ((sweptSystem.run TaskOp.exec sweptSchedule).state.payments 1).length ≤ 1 ∧
      (sweptSystem.run TaskOp.exec sweptSchedule).state.payments 1 = [-500] := by
  have hsong : System.Meets TaskOp.exec (Undisturbed sampleSong.ref) songSystem songSchedule := by
    decide +kernel
  have hswept : System.Meets TaskOp.exec (Undisturbed sampleSong.ref) sweptSystem
      sweptSchedule := by decide +kernel
  exact ⟨suno_refunded_at_most_once sampleSettings id songStore sampleSong (by decide) (by decide)
      songSchedule hsong,
    suno_refunded_at_most_once sampleSettings (fun _ => .sweep) songStore sampleSong (by decide)
      (by decide) sweptSchedule hswept, by decide +kernel⟩

/-- The pass refunds the song and fails to save it; two days later the sweep finds it unfinished
and refunds it again. -/
theorem suno_refunded_twice :
    (songSystem.run TaskOp.exec
      (List.replicate 7 (.poll, songFailed) ++ [(.poll, { songFailed with succeeds := false })] ++
        List.replicate 6 (.sweep, { now := 1800172800 }))).state.payments 1 = [-500, -500] := by
  decide +kernel

end Mujian.Tasks
