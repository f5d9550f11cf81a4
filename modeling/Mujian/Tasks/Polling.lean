import Mujian.Tasks.Schema
import Mathlib.Data.List.Dedup

/-!
# The polling loop

The functions of `service/task_polling.go` and `service/task_billing.go` as programs over the
operations on tasks. A pass sweeps the tasks that have timed out, then reads the unfinished tasks,
into a map from upstream ids (`TaskMap`), and asks the providers about them. The maps of the source
over which a pass ranges are visited in the order of their first task.
-/

namespace Mujian.Tasks

/-- The configuration of the loop. -/
structure Settings where
  taskTimeoutMinutes : ℤ
  taskQueryLimit : ℕ
  serverAddress : String

section

variable (task : Task) (tasks : List Task) (settings : Settings) (platform : TaskPlatform)

def refundTaskQuota : TaskProg Unit :=
  if task.quota = 0 then pure ()
  else do
    let ok ← taskAdjustFunding task (-task.quota)
    if ok then taskAdjustTokenQuota task (-task.quota) else pure ()

/-- The settlement of the difference. The task in memory gets the new quota, the row does not. -/
def recalculateTaskQuota (actualQuota : ℤ) : TaskProg Task :=
  if actualQuota ≤ 0 then pure task
  else if actualQuota - task.quota = 0 then pure task
  else do
    let ok ← taskAdjustFunding task (actualQuota - task.quota)
    if ok then do
      taskAdjustTokenQuota task (actualQuota - task.quota)
      pure { task with quota := actualQuota }
    else pure task

def recalculateTaskQuotaByTokens (totalTokens : ℤ) : TaskProg Task :=
  if totalTokens ≤ 0 then pure task
  else do
    match ← quotaByTokens task totalTokens with
    | none => pure task
    | some actualQuota => recalculateTaskQuota task actualQuota

/-- The tasks of a platform by their upstream ids. -/
abbrev TaskMap := String → Option Task

section

variable (channelId : ℤ) (taskIds : List String) (m : TaskMap) (info : TaskInfo)

def settleTaskBillingOnComplete : TaskProg Task :=
  if task.privateData.perCallBilling then pure task
  else do
    let actualQuota ← adjustBillingOnComplete task info
    if actualQuota > 0 then recalculateTaskQuota task actualQuota
    else if info.totalTokens > 0 then recalculateTaskQuotaByTokens task info.totalTokens
    else pure task

/-- 2026-02-22 00:00:00 UTC in the words of the source. -/
def legacyTaskCutoff : ℤ := 1740182400

section

variable (task : Task) (settings : Settings) (now : ℤ) (info : TaskInfo) (item : SunoDataResponse)

/-- The sweep does not refund the task. -/
def Task.Legacy : Prop := 0 < task.submitTime ∧ task.submitTime < legacyTaskCutoff

instance (task : Task) : Decidable task.Legacy := inferInstanceAs (Decidable (_ ∧ _))

/-- The row that the sweep writes. -/
def Task.timedOut : Task :=
  { task with
    status := .failure, progress := "100%"
    finishTime := now
    failReason :=
      if task.Legacy then "任务超时（旧系统遗留任务，不进行退款，请联系管理员）"
      else "任务超时（" ++ toString settings.taskTimeoutMinutes ++ "分钟）" }

def sweepTask (task : Task) : TaskProg Unit := do
  let won ← updateWithStatus (task.timedOut settings now) task.status
  if won = some true ∧ ¬task.Legacy ∧ task.quota ≠ 0 then
    refundTaskQuota (task.timedOut settings now)
  else pure ()

def sweepTimedOutTasks : TaskProg Unit :=
  if settings.taskTimeoutMinutes ≤ 0 then pure ()
  else do
    let start ← clock
    let tasks ← getTimedOutUnfinishedTasks (start - settings.taskTimeoutMinutes * 60) 100
    if tasks = [] then pure ()
    else do
      let now ← clock
      tasks.foldlM (fun _ task => sweepTask settings now task) ()

/-- Of several tasks with one upstream id the map keeps the last. -/
def taskM : TaskMap :=
  tasks.foldl (fun m task => Function.update m task.getUpstreamTaskID (some task)) fun _ => none

def taskChannelM : List (ℤ × List String) := (tasks.map Task.channelId).dedup.map fun channelId =>
    (channelId, (tasks.filter fun task => task.channelId = channelId).map Task.getUpstreamTaskID)

def TaskMap.ids (m : TaskMap) (taskIds : List String) : List ℤ := (taskIds.filterMap m).map Task.id

/-- The updates of Suno and of video tasks look up the channel and the adaptor before they poll, and
mark the tasks as failed when the channel is missing. -/
def withChannel (failReason : String) (m : TaskMap) (poll : TaskProg TaskMap) : TaskProg TaskMap :=
  if taskIds = [] then pure m
  else do
    let found ← cacheGetChannel channelId
    if found then do
      let adaptor ← getTaskAdaptor platform
      if adaptor then poll else pure m
    else do
      let _ ← taskBulkUpdateByID (m.ids taskIds) (some failReason)
      pure m

def bytes (data : String) : List UInt8 := data.toUTF8.data.toList

/-- The data of the two, as `common.Marshal` writes it, is compared by its sorted bytes. -/
def taskNeedsUpdate (oldTask : Task) (newTask : SunoDataResponse) : Bool :=
  oldTask.submitTime ≠ newTask.submitTime ∨ oldTask.startTime ≠ newTask.startTime ∨
    oldTask.finishTime ≠ newTask.finishTime ∨ oldTask.status ≠ .ofText newTask.status ∨
    oldTask.failReason ≠ newTask.failReason ∨
    (oldTask.status.Done ∧ oldTask.progress ≠ "100%") ∨
    ¬(bytes oldTask.data).Perm (bytes newTask.data)

/-- The task with what the provider reports, before its progress is set. -/
def Task.reported : Task :=
  { task with
    status := if item.status ≠ "" then .ofText item.status else task.status
    failReason := if item.failReason ≠ "" then item.failReason else task.failReason
    submitTime := if item.submitTime ≠ 0 then item.submitTime else task.submitTime
    startTime := if item.startTime ≠ 0 then item.startTime else task.startTime
    finishTime := if item.finishTime ≠ 0 then item.finishTime else task.finishTime }

def Task.Fails : Prop := item.failReason ≠ "" ∨ (task.reported item).status = .failure

instance (task : Task) (item : SunoDataResponse) : Decidable (task.Fails item) :=
  inferInstanceAs (Decidable (_ ∨ _))

/-- The task as it is refunded and saved. -/
def Task.updated : Task :=
  { task.reported item with
    progress := if task.Fails item ∨ item.status = "SUCCESS" then "100%" else task.progress
    data := item.data }

def refundSunoTask : TaskProg Unit :=
  if task.Fails item then refundTaskQuota (task.updated item) else pure ()

/-- An entry of the answer. An entry for an unknown task is dereferenced as a nil pointer. -/
def updateSunoTask : TaskProg TaskMap :=
  match m item.taskID with
  | none => .stop
  | some task =>
    if taskNeedsUpdate task item then do
      refundSunoTask task item
      let _ ← update (task.updated item)
      pure (Function.update m item.taskID (some (task.updated item)))
    else pure m

def updateSunoTasks : TaskProg TaskMap := withChannel .suno channelId taskIds
    ("获取渠道信息失败，请联系管理员，渠道ID：" ++ toString channelId) m do
      match ← fetchSuno channelId taskIds with
      | none => pure m
      | some items => items.foldlM updateSunoTask m

structure TaskSnapshot where
  status : TaskStatus
  progress : String
  (startTime finishTime : ℤ)
  (failReason resultURL data : String)
  deriving DecidableEq

def Task.snapshot : TaskSnapshot :=
  ⟨task.status, task.progress, task.startTime, task.finishTime, task.failReason,
    task.privateData.resultURL, task.data⟩

def buildProxyURL (taskID : String) : String :=
  settings.serverAddress ++ "/v1/videos/" ++ taskID ++ "/content"

/-- What an answer without a status counts as; nothing for a rate limit. -/
def resolveInfo (error : ErrorFormat) : Option TaskInfo :=
  if info.status ≠ "" then some info
  else
    match error with
    | .notJson => some info
    | .unrecognized => some (failTaskInfo "upstream returned unrecognized message")
    | .openAI code => if code = "429" then none else some (failTaskInfo "upstream returned error")

/-- The changes that depend on the reported status; nothing for a status that is not known. -/
def Task.advance : Option Task :=
  match TaskStatus.ofText info.status with
  | .submitted => some { task with status := .submitted, progress := "10%" }
  | .queued => some { task with status := .queued, progress := "20%" }
  | .inProgress =>
    some { task with
      status := .inProgress, progress := "30%"
      startTime := if task.startTime = 0 then now else task.startTime }
  | .success =>
    some { task with
      status := .success, progress := "100%"
      finishTime := if task.finishTime = 0 then now else task.finishTime
      privateData := { task.privateData with
        resultURL :=
          if "data:".isPrefixOf info.url then buildProxyURL settings task.taskID
          else if info.url ≠ "" then info.url
          else buildProxyURL settings task.taskID } }
  | .failure =>
    some { task with
      status := .failure, progress := "100%"
      finishTime := if task.finishTime = 0 then now else task.finishTime
      failReason := info.reason }
  | .notStart | .unknown | .other _ => none

/-- The progress that is reported in the end. -/
def TaskInfo.finalProgress : String :=
  if TaskStatus.ofText info.status = .failure then "100%" else info.progress

/-- The task that is written back. -/
def Task.polled : Option Task := (task.advance settings now info).map fun task' =>
    if info.finalProgress ≠ "" then { task' with progress := info.finalProgress } else task'

end

def billTask : TaskProg Task :=
  if task.status = .success then settleTaskBillingOnComplete task info
  else if task.status = .failure ∧ task.quota ≠ 0 then do
    refundTaskQuota task
    pure task
  else pure task

def finishVideoTask (snap : TaskSnapshot) (task : Task) (info : TaskInfo) : TaskProg Task :=
  if task.status.Done ∧ snap.status ≠ task.status then do
    let won ← updateWithStatus task snap.status
    if won = some true then billTask task info else pure task
  else if snap ≠ task.snapshot then do
    let _ ← updateWithStatus task snap.status
    billTask task info
  else billTask task info

def updateVideoSingleTask (taskId : String) : TaskProg TaskMap :=
  match m taskId with
  | none => pure m
  | some task => do
    match ← fetchVideo task with
    | .failed => pure m
    | .parsed info body error => do
      let read := { task with data := body }
      let now ← clock
      match resolveInfo info error with
      | none => pure (Function.update m taskId (some read))
      | some info =>
        match read.polled settings now info with
        | none => pure (Function.update m taskId (some { read with status := .ofText info.status }))
        | some task' => do
          let task'' ← finishVideoTask task.snapshot task' info
          pure (Function.update m taskId (some task''))

def updateVideoTasks : TaskProg TaskMap := withChannel platform channelId taskIds
    ("Failed to get channel info, channel ID: " ++ toString channelId) m
    (taskIds.foldlM (updateVideoSingleTask settings) m)

end

def dispatchPlatformUpdate (channels : List (ℤ × List String)) (m : TaskMap) : TaskProg TaskMap :=
  match platform with
  | .midjourney | .mujianImage => pure m
  | .suno => channels.foldlM (fun m c => updateSunoTasks c.1 c.2 m) m
  | .other name => channels.foldlM (fun m c => updateVideoTasks settings (.other name) c.1 c.2 m) m

/-- The tasks that a provider knows. -/
def submittedTasks : List Task := tasks.filter fun task => task.getUpstreamTaskID ≠ ""

def nullTaskIds : List ℤ := (tasks.filter fun task => task.getUpstreamTaskID = "").map Task.id

/-- Tasks that no provider knows are marked as failed. -/
def failNullTasks : TaskProg Unit :=
  if nullTaskIds tasks = [] then pure ()
  else do
    let _ ← taskBulkUpdateByID (nullTaskIds tasks) none
    pure ()

def pollPlatform (tasks : List Task) : TaskProg Unit := do
  failNullTasks tasks
  let _ ← dispatchPlatformUpdate settings platform (taskChannelM (submittedTasks tasks))
    (taskM (submittedTasks tasks))
  pure ()

/-- One pass of `TaskPollingLoop`. -/
def pollOnce : TaskProg Unit := do
  sweepTimedOutTasks settings
  let allTasks ← getAllUnFinishSyncTasks settings.taskQueryLimit
  (allTasks.map Task.platform).dedup.foldlM (fun _ platform =>
    pollPlatform settings platform (allTasks.filter fun task => task.platform = platform)) ()

end

/-- The first passes of `TaskPollingLoop`. -/
def taskPollingLoop (settings : Settings) : ℕ → TaskProg Unit
  | 0 => pure ()
  | n + 1 => do
    pollOnce settings
    taskPollingLoop settings n

end Mujian.Tasks
