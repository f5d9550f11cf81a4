import Mujian.Foundations.Table
import Mujian.Foundations.Protocols
import Mathlib.Data.Prod.Lex

/-!
# Asynchronous tasks

A task (a video, a song) is charged in advance when it is submitted, and its row is then polled
until the provider reports its end. This file has the rows, and the operations that the polling
functions perform. What a statement does and what the outside answers is fixed by the `Outcome`
that comes with the operation (`TaskOp.exec`). The store keeps the adjustments in a ledger.
-/

namespace Mujian.Tasks

open Protocols (Prog)

inductive TaskStatus
  | notStart | submitted | queued | inProgress | failure | success | unknown
  | other (text : String)
  deriving DecidableEq

def TaskStatus.ofText (text : String) : TaskStatus :=
  if text = "NOT_START" then .notStart
  else if text = "SUBMITTED" then .submitted
  else if text = "QUEUED" then .queued
  else if text = "IN_PROGRESS" then .inProgress
  else if text = "FAILURE" then .failure
  else if text = "SUCCESS" then .success
  else if text = "UNKNOWN" then .unknown
  else .other text

/-- The task has come to its end. -/
def TaskStatus.Done (status : TaskStatus) : Prop := status = .failure ∨ status = .success

instance (status : TaskStatus) : Decidable status.Done := inferInstanceAs (Decidable (_ ∨ _))

inductive TaskPlatform
  | suno | midjourney | mujianImage
  | other (name : String)
  deriving DecidableEq

structure TaskPrivateData where
  (upstreamTaskID resultURL billingSource : String)
  (subscriptionId tokenId : ℤ)
  /-- `BillingContext.PerCallBilling`; false when there is no context. -/
  perCallBilling : Bool
  deriving DecidableEq

structure Task where
  id : ℤ
  taskID : String
  platform : TaskPlatform
  (userId channelId quota : ℤ)
  status : TaskStatus
  failReason : String
  (submitTime startTime finishTime : ℤ)
  progress : String
  privateData : TaskPrivateData
  data : String
  deriving DecidableEq

instance : Keyed Task ℤ := ⟨Task.id⟩

namespace Task

def getUpstreamTaskID (task : Task) : String :=
  if task.privateData.upstreamTaskID ≠ "" then task.privateData.upstreamTaskID else task.taskID

/-- `progress != '100%' AND status NOT IN ('FAILURE', 'SUCCESS')`. -/
def Unfinished (task : Task) : Prop := task.progress ≠ "100%" ∧ ¬task.status.Done

instance (task : Task) : Decidable task.Unfinished := inferInstanceAs (Decidable (_ ∧ _))

end Task

inductive Account
  | wallet (userId : ℤ)
  | subscription (id : ℤ)
  | token (id : ℤ)

/-- A charge of an account for a task; a refund when it is negative. -/
structure Adjustment where
  taskId : ℤ
  account : Account
  delta : ℤ

def taskIsSubscription (task : Task) : Prop :=
  task.privateData.billingSource = "subscription" ∧ 0 < task.privateData.subscriptionId

instance (task : Task) : Decidable (taskIsSubscription task) := inferInstanceAs (Decidable (_ ∧ _))

/-- The account that `taskAdjustFunding` adjusts. -/
def Task.fundingAccount (task : Task) : Account :=
  if taskIsSubscription task then .subscription task.privateData.subscriptionId
  else .wallet task.userId

def Account.IsToken : Account → Prop
  | wallet _ | subscription _ => False
  | token _ => True

instance : ∀ account : Account, Decidable account.IsToken
  | .wallet _ | .subscription _ => .isFalse id
  | .token _ => .isTrue trivial

/-- The table of tasks, and the adjustments made for them, the latest first. -/
structure Store where
  tasks : Table Task
  ledger : List Adjustment

namespace Store

/-- What has been settled or refunded for a task, the latest first. The adjustment of the token
that goes with it is not counted. -/
def payments (s : Store) (taskId : ℤ) : List ℤ :=
  (s.ledger.filter fun a => a.taskId = taskId ∧ ¬a.account.IsToken).map Adjustment.delta

theorem key_replace (task r : Task) (_ : Keyed.key r = task.id) : Keyed.key task = task.id := rfl

def replace (s : Store) (task : Task) : Store :=
  { s with tasks := s.tasks.update task.id (fun _ => task) (key_replace task) }

/-- The columns that `TaskBulkUpdateByID` is called with. -/
def failedRow (failReason : Option String) (task : Task) : Task :=
  { task with
    failReason := failReason.getD task.failReason, status := .failure, progress := "100%" }

theorem key_failedRow (ids : List ℤ) (failReason : Option String) (r : Task)
    (_ : decide (r.id ∈ ids) = true) : Keyed.key (failedRow failReason r) = Keyed.key r := rfl

/-- `UPDATE tasks SET status = 'FAILURE', progress = '100%' … WHERE id IN ids`. -/
def fail (s : Store) (ids : List ℤ) (failReason : Option String) : Store :=
  { s with
    tasks := s.tasks.updateWhere (fun r => r.id ∈ ids) (failedRow failReason)
      (key_failedRow ids failReason) }

def pay (s : Store) (a : Adjustment) : Store := { s with ledger := a :: s.ledger }

/-- `SELECT … WHERE p ORDER BY key, id LIMIT limit`. -/
def select (s : Store) (p : Task → Bool) (order : Task → ℤ) (limit : ℕ) : List Task :=
  ((s.tasks.rows.filter p).insertionSort fun a b =>
    toLex (order a, a.id) ≤ toLex (order b, b.id)).take limit

end Store

/-- What a provider says about a task. -/
structure TaskInfo where
  (status reason url progress : String)
  totalTokens : ℤ

def failTaskInfo (reason : String) : TaskInfo := ⟨"FAILURE", reason, "", "", 0⟩

/-- How the body of an answer reads as an error. -/
inductive ErrorFormat
  | notJson
  | unrecognized
  | openAI (code : String)

inductive VideoAnswer
  | failed
  | parsed (info : TaskInfo) (body : String) (error : ErrorFormat)

/-- An entry of the answer of a Suno provider. -/
structure SunoDataResponse where
  (taskID status failReason : String)
  (submitTime startTime finishTime : ℤ)
  data : String

inductive TaskOp
  | clock
  | getTimedOutUnfinishedTasks (cutoffUnix : ℤ) (limit : ℕ)
  | getAllUnFinishSyncTasks (limit : ℕ)
  | updateWithStatus (task : Task) (fromStatus : TaskStatus)
  | taskBulkUpdateByID (ids : List ℤ) (failReason : Option String)
  | update (task : Task)
  | taskAdjustFunding (task : Task) (delta : ℤ)
  | taskAdjustTokenQuota (task : Task) (delta : ℤ)
  | cacheGetChannel (channelId : ℤ)
  | getTaskAdaptor (platform : TaskPlatform)
  | fetchVideo (task : Task)
  | adjustBillingOnComplete (task : Task) (info : TaskInfo)
  /-- The quota that the ratios of the task's model and group give for a number of tokens. -/
  | quotaByTokens (task : Task) (totalTokens : ℤ)
  | fetchSuno (channelId : ℤ) (taskIds : List String)

/-- What an operation returns. A statement that fails returns nothing, or no rows. -/
abbrev TaskOp.Result : TaskOp → Type
  | clock => ℤ
  | getTimedOutUnfinishedTasks _ _ | getAllUnFinishSyncTasks _ => List Task
  | updateWithStatus _ _ => Option Bool
  | taskBulkUpdateByID _ _ | update _ | taskAdjustFunding _ _ => Bool
  | taskAdjustTokenQuota _ _ => Unit
  | cacheGetChannel _ | getTaskAdaptor _ => Bool
  | fetchVideo _ => VideoAnswer
  | adjustBillingOnComplete _ _ => ℤ
  | quotaByTokens _ _ => Option ℤ
  | fetchSuno _ _ => Option (List SunoDataResponse)

abbrev TaskProg := Prog TaskOp.Result

section

open Protocols.Prog (perform)

variable (task : Task) (delta : ℤ)

abbrev clock : TaskProg ℤ := perform TaskOp.clock

abbrev getTimedOutUnfinishedTasks (cutoffUnix : ℤ) (limit : ℕ) : TaskProg (List Task) :=
  perform (TaskOp.getTimedOutUnfinishedTasks cutoffUnix limit)

abbrev getAllUnFinishSyncTasks (limit : ℕ) : TaskProg (List Task) :=
  perform (TaskOp.getAllUnFinishSyncTasks limit)

abbrev updateWithStatus (fromStatus : TaskStatus) : TaskProg (Option Bool) :=
  perform (TaskOp.updateWithStatus task fromStatus)

abbrev taskBulkUpdateByID (ids : List ℤ) (failReason : Option String) : TaskProg Bool :=
  perform (TaskOp.taskBulkUpdateByID ids failReason)

abbrev update : TaskProg Bool := perform (TaskOp.update task)

abbrev taskAdjustFunding : TaskProg Bool := perform (TaskOp.taskAdjustFunding task delta)

/-- Nothing is done for a task without a token. -/
def taskAdjustTokenQuota : TaskProg Unit :=
  if task.privateData.tokenId ≤ 0 ∨ delta = 0 then pure ()
  else perform (TaskOp.taskAdjustTokenQuota task delta)

abbrev cacheGetChannel (channelId : ℤ) : TaskProg Bool := perform (TaskOp.cacheGetChannel channelId)

abbrev getTaskAdaptor (platform : TaskPlatform) : TaskProg Bool :=
  perform (TaskOp.getTaskAdaptor platform)

abbrev fetchVideo : TaskProg VideoAnswer := perform (TaskOp.fetchVideo task)

abbrev adjustBillingOnComplete (info : TaskInfo) : TaskProg ℤ :=
  perform (TaskOp.adjustBillingOnComplete task info)

abbrev quotaByTokens (totalTokens : ℤ) : TaskProg (Option ℤ) :=
  perform (TaskOp.quotaByTokens task totalTokens)

abbrev fetchSuno (channelId : ℤ) (taskIds : List String) :
    TaskProg (Option (List SunoDataResponse)) :=
  perform (TaskOp.fetchSuno channelId taskIds)

end

/-- What is decided outside when an operation is performed. -/
structure Outcome where
  succeeds : Bool := true
  /-- The channel, the adaptor or the token is found. -/
  found : Bool := true
  now : ℤ := 0
  video : VideoAnswer := .failed
  adjusted : ℤ := 0
  tokenQuota : Option ℤ := none
  /-- Nothing if the request failed or the answer is not a success. -/
  suno : Option (List SunoDataResponse) := none

/-- The effect of an operation and its result. -/
def TaskOp.exec : (o : TaskOp) → Outcome → Store → Store × o.Result
  | clock, out, s => (s, out.now)
  | getTimedOutUnfinishedTasks cutoffUnix limit, out, s =>
    (s, if out.succeeds then
      s.select (fun r => r.Unfinished ∧ r.submitTime < cutoffUnix) Task.submitTime limit else [])
  | getAllUnFinishSyncTasks limit, out, s =>
    (s, if out.succeeds then s.select (fun r => r.Unfinished) Task.id limit else [])
  | updateWithStatus task fromStatus, out, s =>
    if out.succeeds then
      if (s.tasks.find? task.id).any fun r => r.status = fromStatus then (s.replace task, some true)
      else (s, some false)
    else (s, none)
  | taskBulkUpdateByID ids failReason, out, s =>
    if out.succeeds then (s.fail ids failReason, true) else (s, false)
  | update task, out, s => if out.succeeds then (s.replace task, true) else (s, false)
  | taskAdjustFunding task delta, out, s =>
    if out.succeeds then (s.pay ⟨task.id, task.fundingAccount, delta⟩, true) else (s, false)
  | taskAdjustTokenQuota task delta, out, s =>
    -- without the token's key, or when the statement fails, nothing is adjusted
    if out.found ∧ out.succeeds then (s.pay ⟨task.id, .token task.privateData.tokenId, delta⟩, ())
    else (s, ())
  | cacheGetChannel _, out, s => (s, out.found)
  | getTaskAdaptor _, out, s => (s, out.found)
  | fetchVideo _, out, s => (s, out.video)
  | adjustBillingOnComplete _ _, out, s => (s, out.adjusted)
  | quotaByTokens _ _, out, s => (s, out.tokenQuota)
  | fetchSuno _ _, out, s => (s, out.suno)

namespace Store

variable {s : Store} {t : ℤ}

theorem find?_replace (task : Task) : (s.replace task).tasks.find? t =
      if t = task.id then (s.tasks.find? t).map fun _ => task else s.tasks.find? t := by
  rw [replace, Table.find?_update]
  split
  · rename_i h
    rw [h]
  · rfl

theorem payments_pay (a : Adjustment) : (s.pay a).payments t =
      if a.taskId = t ∧ ¬a.account.IsToken then a.delta :: s.payments t else s.payments t := by
  unfold payments pay
  rw [List.filter_cons]
  by_cases h : a.taskId = t ∧ ¬a.account.IsToken
  · rw [if_pos (decide_eq_true h), if_pos h, List.map_cons]
  · rw [if_neg (by simpa using h), if_neg h]

theorem mem_select {p : Task → Bool} {order : Task → ℤ} {limit : ℕ} {task : Task}
    (h : task ∈ s.select p order limit) : task ∈ s.tasks.rows ∧ p task = true := by
  have hmem := List.mem_of_mem_take h
  rwa [List.mem_insertionSort, List.mem_filter] at hmem

theorem nodup_select (s : Store) (p : Task → Bool) (order : Task → ℤ) (limit : ℕ) :
    ((s.select p order limit).map Task.id).Nodup := by
  have hsub : ((s.tasks.rows.filter p).map Task.id).Nodup :=
    s.tasks.nodup_keys.sublist (List.filter_sublist.map _)
  have hperm := (List.perm_insertionSort
    (fun a b : Task => toLex (order a, a.id) ≤ toLex (order b, b.id))
    (s.tasks.rows.filter p)).map Task.id
  exact (hperm.nodup_iff.2 hsub).sublist ((List.take_sublist _ _).map _)

end Store

theorem Task.not_isToken_fundingAccount (task : Task) : ¬task.fundingAccount.IsToken := by
  unfold fundingAccount
  split
  · exact fun h => h
  · exact fun h => h

end Mujian.Tasks
