import Mujian.Studio.Schema
import Mujian.Tasks.Polling

/-!
# The image of a shot

`generateShot` starts a task for the image of a shot and writes its id into the shot,
`runImageTask` writes its result, `getImageTask` polls a task and marks the shot of a failed one,
and `sweepTimedOutTasks` fails old tasks. Any number of these run side by side. The write of a poll
names the shot and not the task (`stale_poll_fails_newer_task`); `shot_follows_task` says what holds
if it happens only while the shot still names the task.
-/

namespace Mujian.Studio.Shots

open Protocols (Prog System Protocol)
open Keyed (key)
open Tasks (TaskStatus)

/-- The task for an image; of its platform and action only whether they are those of a shot. -/
structure ImageTask where
  taskID : String
  userId : ℤ
  ofShot : Bool
  status : TaskStatus
  progress : String
  submitTime : ℤ
  (failReason originModelName resultURL : String)

instance : Keyed ImageTask String := ⟨ImageTask.taskID⟩

structure Store where
  shots : Table Shot
  tasks : Table ImageTask

/-! ## Operations -/

inductive ServiceError
  | notFound
  | conflict
  | text (message : String)

def ServiceError.message : ServiceError → String
  | notFound => "资源不存在"
  | conflict => "内容已被更新，请刷新后重试"
  | text message => message

/-- A statement, a transaction, or a question to the outside. The write of a poll carries the polled
task as well. -/
inductive ShotOp
  | getProject (userID : ℤ) (projectID : String)
  | findShot (shotID projectID : String)
  | getPreference (userID : ℤ)
  | modelAvailableForUser (userID : ℤ) (modelID : String)
  | startGeneration (userID : ℤ) (projectID shotID modelID : String)
  | getByTaskId (userID : ℤ) (taskID : String)
  | findShotOfTask (projectID taskID : String)
  | findShotForTask (shotID projectID taskID : String)
  | updateWithStatus (task : ImageTask) (fromStatus : TaskStatus)
  | relayRequest (userID : ℤ) (modelID prompt size : String)
  | finishImageTaskSuccess (taskID shotID modelID resultURL : String)
  | finishImageTaskFailure (taskID shotID reason : String)
  | failShot (shotID taskID reason : String)
  | getTimedOutUnfinishedTasks (taskTimeoutMinutes : ℤ)

namespace ShotOp

/-- Where the service does not tell a failed read from one that finds nothing, neither does the
result. -/
abbrev Result : ShotOp → Type
  | getProject _ _ => Except ServiceError Unit
  | findShot _ _ => Option Shot
  | getPreference _ => Except ServiceError String
  | modelAvailableForUser _ _ => Except ServiceError Bool
  | startGeneration _ _ _ _ => Except ServiceError String
  | getByTaskId _ _ => Except ServiceError (Option ImageTask)
  | findShotOfTask _ _ | findShotForTask _ _ _ => Option Shot
  | updateWithStatus _ _ => Bool
  | relayRequest _ _ _ _ => Except ServiceError String
  | finishImageTaskSuccess _ _ _ _ => Except ServiceError Unit
  | finishImageTaskFailure _ _ _ => Unit
  | failShot _ _ _ => Except ServiceError Unit
  | getTimedOutUnfinishedTasks _ => List ImageTask

/-- Whether the statement or the question succeeds, the answer to a question, a text (an id, a
model, a URL or an error) and a time. -/
structure Outcome where
  (succeeds answer : Bool := true)
  text : String := ""
  time : ℤ := 0

/-- Nothing fails. -/
def Outcome.fine : Outcome := {}

/-- A value, unless the statement or the question fails. -/
def Outcome.orError {α : Type} (out : Outcome) (a : α) : Except ServiceError α :=
  if out.succeeds then .ok a else .error (.text out.text)

def generating (modelID taskID : String) (shot : Shot) : Shot :=
  { shot with
    model := modelID, status := .generating, generationTaskId := taskID, generationError := ""
    version := shot.version + 1 }

def completed (modelID resultURL : String) (shot : Shot) : Shot :=
  { shot with
    model := modelID, resultUrl := resultURL, status := .completed, generationError := ""
    version := shot.version + 1 }

def failed (reason : String) (shot : Shot) : Shot :=
  { shot with status := .failed, generationError := reason }

section

variable (out : Outcome) (s : Store) (userID : ℤ) (task : ImageTask)

/-- The shot with the id, unless it is deleted, if it meets a condition. -/
def shotWhere (shotID : String) (p : Shot → Bool) : Option Shot :=
  (s.shots.find? shotID).filter fun shot => !shot.deleted && p shot

def newTask (modelID : String) : ImageTask :=
  { taskID := out.text, userId := userID, ofShot := true, status := .submitted, progress := "0%"
    submitTime := out.time, failReason := "", originModelName := modelID, resultURL := "" }

/-- The transaction of `GenerateShot`. The id of the task is new. -/
def execStart (projectID shotID modelID : String) : Store × Except ServiceError String :=
  match out.succeeds, s.tasks.insert? (newTask out userID modelID) with
  | true, some tasks =>
    if (shotWhere s shotID fun shot =>
        shot.projectId = projectID ∧ shot.status ≠ .generating).isSome then
      (⟨s.shots.modify shotID (generating modelID out.text), tasks⟩, .ok out.text)
    else (s, .error .conflict)
  | _, _ => (s, .error (.text out.text))

def running (taskID : String) : Option ImageTask :=
  (s.tasks.find? taskID).filter fun task => task.status = .inProgress

/-- The transaction of `finishImageTaskSuccess`; without the task or the shot nothing is written. -/
def execSuccess (taskID shotID modelID resultURL : String) : Store × Except ServiceError Unit :=
  match out.succeeds, running s taskID, shotWhere s shotID (·.generationTaskId = taskID) with
  | false, _, _ => (s, .error (.text out.text))
  | true, some _, some _ =>
    (⟨s.shots.modify shotID (completed modelID resultURL), s.tasks.modify taskID fun task =>
        { task with status := .success, progress := "100%", resultURL := resultURL }⟩, .ok ())
  | true, _, _ => (s, .error .conflict)

/-- The transaction of `finishImageTaskFailure`; a shot that names another task is left alone. -/
def execFailure (taskID shotID reason : String) : Store :=
  match out.succeeds, running s taskID with
  | true, some _ =>
    ⟨if (shotWhere s shotID (·.generationTaskId = taskID)).isSome then
        s.shots.modify shotID (failed reason)
      else s.shots,
      s.tasks.modify taskID fun task =>
        { task with status := .failure, progress := "100%", failReason := reason }⟩
  | _, _ => s

/-- `UpdateWithStatus`: the row is replaced if it still has the given status. -/
def execUpdate (fromStatus : TaskStatus) : Store × Bool :=
  if out.succeeds ∧ (s.tasks.find? task.taskID).any (·.status = fromStatus) then
    ({ s with tasks := s.tasks.modify task.taskID fun _ => task }, true)
  else (s, false)

def unfinished : Bool := task.progress ≠ "100%" && task.status ≠ .failure && task.status ≠ .success

end

def exec : (o : ShotOp) → Outcome → Store → Store × Result o
  | getProject _ _, out, s => (s, if out.answer then out.orError () else .error .notFound)
  | findShot shotID projectID, out, s =>
    (s, if out.succeeds then shotWhere s shotID (·.projectId = projectID) else none)
  | getPreference _, out, s => (s, out.orError out.text)
  | modelAvailableForUser _ _, out, s => (s, out.orError out.answer)
  | startGeneration userID projectID shotID modelID, out, s =>
    execStart out s userID projectID shotID modelID
  | getByTaskId userID taskID, out, s =>
    (s, if taskID = "" then .ok none
      else out.orError ((s.tasks.find? taskID).filter (·.userId = userID)))
  | findShotOfTask projectID taskID, out, s =>
    (s, if out.succeeds then
        s.shots.rows.find? fun shot =>
          !shot.deleted && shot.projectId = projectID && shot.generationTaskId = taskID
      else none)
  | findShotForTask shotID projectID taskID, out, s =>
    (s, if out.succeeds then
        shotWhere s shotID fun shot => shot.projectId = projectID ∧ shot.generationTaskId = taskID
      else none)
  | updateWithStatus task fromStatus, out, s => execUpdate out s task fromStatus
  | relayRequest _ _ _ _, out, s => (s, out.orError out.text)
  | finishImageTaskSuccess taskID shotID modelID resultURL, out, s =>
    execSuccess out s taskID shotID modelID resultURL
  | finishImageTaskFailure taskID shotID reason, out, s =>
    (execFailure out s taskID shotID reason, ())
  | failShot shotID _ reason, out, s =>
    (if out.succeeds ∧ (shotWhere s shotID fun _ => true).isSome then
        { s with shots := s.shots.modify shotID (failed reason) }
      else s, out.orError ())
  | getTimedOutUnfinishedTasks taskTimeoutMinutes, out, s =>
    (s, if out.succeeds then
        (s.tasks.select (fun task => unfinished task ∧
            task.submitTime < out.time - taskTimeoutMinutes * 60)
          (fun task task' => task.submitTime ≤ task'.submitTime)).take 100
      else [])

end ShotOp

/-! ## Programs -/

structure ImageResult where
  (taskID status : String)
  shot : Option Shot := none
  error : String := ""

/-- What a call returns. -/
abbrev Reply := Except ServiceError (Option ImageResult)

abbrev ShotProg (α : Type) := Prog ShotOp.Result α

abbrev ask (o : ShotOp) : ShotProg o.Result := Prog.perform o

def imageSize (aspectRatio : String) : String :=
  if aspectRatio = "16:9" then "1536x1024"
  else if aspectRatio = "1:1" then "1024x1024"
  else "1024x1536"

section

variable (taskTimeoutMinutes : ℤ) (userID : ℤ)

/-- `GenerateShot`, up to the start of the worker, which is a process of its own. -/
def generateShot (projectID shotID modelID : String) : ShotProg Reply := do
  match ← ask (.getProject userID projectID) with
  | .error err => return .error err
  | .ok () =>
    match ← ask (.findShot shotID projectID) with
    | none => return .error .notFound
    | some _ =>
      match ← ask (.getPreference userID) with
      | .error err => return .error err
      | .ok defaultImageModel =>
        let modelID := if modelID = "" then defaultImageModel else modelID
        match ← ask (.modelAvailableForUser userID modelID) with
        | .error err => return .error err
        | .ok false => return .error (.text "图像模型未在可用渠道中开放")
        | .ok true =>
          match ← ask (.startGeneration userID projectID shotID modelID) with
          | .error err => return .error err
          | .ok taskID => return .ok (some { taskID := taskID, status := "queued" })

def replyStatus (status : TaskStatus) : String :=
  match status with
  | .submitted | .queued => "queued"
  | .success => "succeeded"
  | .failure => "failed"
  | _ => "running"

/-- The end of `GetImageTask`: a shot that still waits for a failed task is marked as failed. -/
def replyImageTask (taskID : String) (task : ImageTask) (shot : Shot) : ShotProg Reply :=
  if task.status = .failure ∧ shot.status = .generating then do
    match ← ask (.failShot shot.id taskID task.failReason) with
    | .error err => return .error err
    | .ok () =>
      return .ok (some ⟨taskID, replyStatus task.status,
        some (ShotOp.failed task.failReason shot), task.failReason⟩)
  else return .ok (some ⟨taskID, replyStatus task.status, some shot, task.failReason⟩)

/-- `GetImageTask`, without the start of a worker, which is a process of its own. -/
def getImageTask (projectID taskID : String) : ShotProg Reply := do
  match ← ask (.getProject userID projectID) with
  | .error err => return .error err
  | .ok () =>
    match ← ask (.getByTaskId userID taskID) with
    | .error err => return .error err
    | .ok none => return .error .notFound
    | .ok (some task) =>
      if task.ofShot then
        match ← ask (.findShotOfTask projectID taskID) with
        | none => return .error .notFound
        | some shot => replyImageTask taskID task shot
      else return .error .notFound

/-- The request of a worker and its end. -/
def finishImageTask (modelID taskID shotID : String) (shot : Shot) : ShotProg Unit := do
  match ← ask (.relayRequest userID modelID shot.prompt (imageSize shot.aspectRatio)) with
  | .error err => ask (.finishImageTaskFailure taskID shotID err.message)
  | .ok resultURL =>
    match ← ask (.finishImageTaskSuccess taskID shotID modelID resultURL) with
    | .error err => ask (.finishImageTaskFailure taskID shotID err.message)
    | .ok () => return ()

/-- `runImageTask`. -/
def runImageTask (projectID shotID modelID taskID : String) : ShotProg Unit := do
  match ← ask (.getByTaskId userID taskID) with
  | .error _ | .ok none => return ()
  | .ok (some task) =>
    if task.status = .submitted then
      let won ← ask
        (.updateWithStatus { task with status := .inProgress, progress := "10%" } task.status)
      if won then
        match ← ask (.findShotForTask shotID projectID taskID) with
        | none => ask (.finishImageTaskFailure taskID shotID "镜头不存在或任务已被替换")
        | some shot => finishImageTask userID modelID taskID shotID shot
      else return ()
    else return ()

/-- The row that the sweep writes. -/
def ImageTask.timedOut (taskTimeoutMinutes : ℤ) (task : ImageTask) : ImageTask :=
  { task with
    status := .failure, progress := "100%"
    failReason :=
      if 0 < task.submitTime ∧ task.submitTime < Tasks.legacyTaskCutoff then
        "任务超时（旧系统遗留任务，不进行退款，请联系管理员）"
      else "任务超时（" ++ toString taskTimeoutMinutes ++ "分钟）" }

def sweepTask (task : ImageTask) : ShotProg Unit := do
  let _ ← ask (.updateWithStatus (task.timedOut taskTimeoutMinutes) task.status)
  return ()

/-- `sweepTimedOutTasks`, for the tasks of images, which have no quota to refund. -/
def sweepTimedOutTasks : ShotProg Unit :=
  if taskTimeoutMinutes ≤ 0 then return ()
  else do
    let tasks ← ask (.getTimedOutUnfinishedTasks taskTimeoutMinutes)
    tasks.foldlM (fun _ task => sweepTask taskTimeoutMinutes task) ()

end

/-- A process of the system. -/
inductive Request
  | generate (userID : ℤ) (projectID shotID modelID : String)
  | poll (userID : ℤ) (projectID taskID : String)
  | work (userID : ℤ) (projectID shotID modelID taskID : String)
  | sweep (taskTimeoutMinutes : ℤ)

/-- The program of a process; a poll and a start return something. -/
def Request.program : Request → ShotProg (Option Reply)
  | generate userID projectID shotID modelID =>
    some <$> generateShot userID projectID shotID modelID
  | poll userID projectID taskID => some <$> getImageTask userID projectID taskID
  | work userID projectID shotID modelID taskID =>
    (fun _ => none) <$> runImageTask userID projectID shotID modelID taskID
  | sweep taskTimeoutMinutes => (fun _ => none) <$> sweepTimedOutTasks taskTimeoutMinutes

/-! ## The condition and the property -/

/-- What a process has learned: the tasks that it has read as failed, and the shot of the polled
task. -/
structure Learned where
  failed : List String
  shot : Option Shot

/-- When a poll writes, the shot still names the task that it named when the poll read it. -/
def NamesSame (learned : Learned) (s : Store) (o : ShotOp) : Prop :=
  match o with
  | .failShot shotID _ _ => ∀ read ∈ learned.shot, ∀ shot ∈ s.shots.find? shotID,
    shot.generationTaskId = read.generationTaskId
  | _ => True

def ShotOp.reports : ShotOp → Option String
  | finishImageTaskSuccess taskID _ _ _ => some taskID
  | finishImageTaskFailure taskID _ _ => some taskID
  | failShot _ taskID _ => some taskID
  | _ => none

def FailedTask (s : Store) (taskID : String) : Prop :=
  ∃ task, s.tasks.find? taskID = some task ∧ task.status = .failure

/-- An operation marks a shot as failed only if the task that the shot names has failed, and if it
reports the result of a task, it leaves the shots alone that name another one. -/
structure FollowsTask (o : ShotOp) (s s' : Store) : Prop where
  failed : ∀ shotID shot, s'.shots.find? shotID = some shot → s.shots.find? shotID ≠ some shot →
    shot.status = .failed → FailedTask s' shot.generationTaskId
  older : ∀ taskID, o.reports = some taskID → ∀ shotID shot, s.shots.find? shotID = some shot →
    shot.generationTaskId ≠ taskID → s'.shots.find? shotID = some shot

/-! ## What is known stays true -/

/-- The processes by what they have learned. A poll marks a shot as failed only for a task that it
has read as failed and that the shot named, and no process overwrites a failed task. -/
def knowledge : Protocol ShotOp.Result Learned where
  start := ⟨[], none⟩
  allowed known o :=
    match o with
    | .failShot _ taskID _ => taskID ∈ known.failed ∧
      ∃ shot, known.shot = some shot ∧ shot.generationTaskId = taskID
    | .updateWithStatus _ fromStatus => fromStatus ≠ .failure
    | _ => True
  possible _ o :=
    match o with
    | .getTimedOutUnfinishedTasks _ => fun tasks => ∀ task ∈ tasks, task.status ≠ .failure
    | .findShotOfTask _ taskID => fun found => ∀ shot ∈ found, shot.generationTaskId = taskID
    | _ => fun _ => True
  next known o :=
    match o with
    | .getByTaskId _ taskID => fun read =>
      match read with
      | .ok (some task) =>
        if task.status = .failure then { known with failed := taskID :: known.failed } else known
      | _ => known
    | .findShotOfTask _ _ => fun found => { known with shot := found }
    | _ => fun _ => known
  final _ := True

/-- What the processes know is so. -/
def Knows {ι : Type} (s : Store) (known : ι → Learned) : Prop :=
  ∀ i, ∀ taskID ∈ (known i).failed, FailedTask s taskID

namespace ShotOp

variable {s : Store} {out : Outcome}

variable {shotID taskID : String} {shot : Shot} {task : ImageTask} {o : ShotOp}
  {known : Learned} {s' : Store}

theorem find?_of_shotWhere {p : Shot → Bool}
    (h : shotWhere s shotID p = some shot) : s.shots.find? shotID = some shot ∧ p shot = true := by
  obtain ⟨hfind, hp⟩ := Option.filter_eq_some_iff.1 h
  rw [Bool.and_eq_true] at hp
  exact ⟨hfind, hp.2⟩

theorem find?_of_running (h : running s taskID = some task) :
    s.tasks.find? taskID = some task ∧ task.status = .inProgress := by
  obtain ⟨hfind, hstatus⟩ := Option.filter_eq_some_iff.1 h
  exact ⟨hfind, of_decide_eq_true hstatus⟩

theorem failed_modify {taskID' : String} {f : ImageTask → ImageTask}
    (hfind : s.tasks.find? taskID = some task) (hstatus : task.status ≠ .failure)
    (hfailed : FailedTask s taskID') (shots : Table Shot) :
    FailedTask ⟨shots, s.tasks.modify taskID f⟩ taskID' := by
  obtain ⟨row, hrow, hfailure⟩ := hfailed
  have hne : taskID' ≠ taskID := by
    rintro rfl
    obtain rfl := Option.mem_unique hrow hfind
    exact hstatus hfailure
  exact ⟨row, (Table.find?_modify_ne hne).trans hrow, hfailure⟩

theorem failed_insert {tasks : Table ImageTask}
    (hinsert : s.tasks.insert? task = some tasks) (hfailed : FailedTask s taskID)
    (shots : Table Shot) : FailedTask ⟨shots, tasks⟩ taskID := by
  obtain ⟨row, hrow, hfailure⟩ := hfailed
  have hne : taskID ≠ key task := by
    rintro rfl
    have hfree := (Table.insert?_eq_some_iff.1 hinsert).1
    rw [hrow] at hfree
    cases hfree
  refine ⟨row, ?_, hfailure⟩
  rw [Table.find?_insert hinsert, if_neg hne, hrow]

/-- **A failed task stays failed.** -/
theorem failed_exec (hallowed : knowledge.allowed known o)
    (hfailed : FailedTask s taskID) : FailedTask (o.exec out s).1 taskID := by
  cases o with
  | startGeneration userID projectID shotID modelID =>
    simp only [exec, execStart]
    split
    · next hinsert =>
      split
      · exact failed_insert hinsert hfailed _
      · exact hfailed
    · exact hfailed
  | finishImageTaskSuccess taskID' shotID modelID resultURL =>
    simp only [exec, execSuccess]
    split
    · exact hfailed
    · next hrunning _ =>
      obtain ⟨hfind, hstatus⟩ := find?_of_running hrunning
      exact failed_modify hfind (by rw [hstatus]; decide) hfailed _
    · exact hfailed
  | finishImageTaskFailure taskID' shotID reason =>
    simp only [exec, execFailure]
    split
    · next hrunning =>
      obtain ⟨hfind, hstatus⟩ := find?_of_running hrunning
      exact failed_modify hfind (by rw [hstatus]; decide) hfailed _
    · exact hfailed
  | updateWithStatus task fromStatus =>
    simp only [exec, execUpdate]
    split
    · next hwrites =>
      obtain ⟨-, hany⟩ := hwrites
      cases hfind : s.tasks.find? task.taskID with
      | none =>
        rw [hfind] at hany
        cases hany
      | some row =>
        rw [hfind, Option.any_some, decide_eq_true_eq] at hany
        exact failed_modify hfind (hany ▸ hallowed) hfailed _
    · exact hfailed
  | failShot shotID taskID' reason =>
    simp only [exec]
    split <;> exact hfailed
  | getProject | findShot | getPreference | modelAvailableForUser | getByTaskId
  | findShotOfTask | findShotForTask | relayRequest | getTimedOutUnfinishedTasks => exact hfailed

/-- A result is as the protocol says, and what its process learns from it is so. -/
theorem possible_exec (o : ShotOp) (known : Learned) :
    knowledge.possible known o (o.exec out s).2 := by
  cases o with
  | getTimedOutUnfinishedTasks taskTimeoutMinutes =>
    intro task htask
    simp only [exec] at htask
    split at htask
    · have hselected := Table.mem_select.1 (List.mem_of_mem_take htask)
      have hunfinished := (of_decide_eq_true hselected.2).1
      simp only [unfinished, Bool.and_eq_true, decide_eq_true_eq] at hunfinished
      exact hunfinished.1.2
    · cases htask
  | findShotOfTask projectID taskID =>
    intro shot hshot
    simp only [exec] at hshot
    split at hshot
    · have hnames := List.find?_some hshot
      simp only [Bool.and_eq_true, decide_eq_true_eq] at hnames
      exact hnames.2
    · cases hshot
  | _ => trivial

theorem failed_of_next (hmem : taskID ∈ (knowledge.next known o (o.exec out s).2).failed) :
    taskID ∈ known.failed ∨ FailedTask (o.exec out s).1 taskID := by
  cases o with
  | getByTaskId userID taskID' =>
    simp only [knowledge, exec, Outcome.orError] at hmem
    split at hmem
    · next task hread =>
      split at hmem
      · next hstatus =>
        rcases List.mem_cons.1 hmem with rfl | hmem
        · right
          split at hread
          · cases hread
          · split at hread
            · obtain ⟨hfind, -⟩ := Option.filter_eq_some_iff.1 (Except.ok.inj hread)
              exact ⟨task, hfind, hstatus⟩
            · cases hread
        · exact .inl hmem
      · exact .inl hmem
    · exact .inl hmem
  | _ => exact .inl hmem

/-- What the processes know stays true. -/
theorem knows_exec {ι : Type} [DecidableEq ι] {known : ι → Learned} (hknows : Knows s known)
    {i : ι} (hallowed : knowledge.allowed (known i) o) :
    Knows (o.exec out s).1
      (Function.update known i (knowledge.next (known i) o (o.exec out s).2)) := by
  intro j taskID hmem
  by_cases hj : j = i
  · subst hj
    rw [Function.update_self] at hmem
    rcases failed_of_next hmem with hmem | hfailed
    · exact failed_exec hallowed (hknows j taskID hmem)
    · exact hfailed
  · rw [Function.update_of_ne hj] at hmem
    exact failed_exec hallowed (hknows j taskID hmem)

/-! ## What one operation does -/

/-- An operation that leaves the shots alone. -/
theorem followsTask_of_shots (h : s'.shots = s.shots) : FollowsTask o s s' := by
  refine ⟨fun shotID shot hafter hchanged _ => ?_, fun _ _ shotID shot hbefore _ => ?_⟩
  · rw [h] at hafter
    exact absurd hafter hchanged
  · rw [h]
    exact hbefore

/-- An operation that changes one shot follows the tasks if it reports only to a shot that names the
task, and marks the shot as failed only when that task has failed. -/
theorem followsTask_of_modify {f : Shot → Shot} (hfind : s.shots.find? shotID = some shot)
    (hshots : s'.shots = s.shots.modify shotID f) (hf : ∀ shot, key (f shot) = key shot)
    (hfailed : (f shot).status = .failed → FailedTask s' (f shot).generationTaskId)
    (hreports : ∀ taskID, o.reports = some taskID → shot.generationTaskId = taskID) :
    FollowsTask o s s' := by
  constructor
  · intro shotID' shot' hafter hchanged hstatus
    rw [hshots, Table.find?_modify hf] at hafter
    split at hafter
    · rw [hfind] at hafter
      obtain rfl := Option.some.inj hafter
      exact hfailed hstatus
    · exact absurd hafter hchanged
  · intro taskID htask shotID' shot' hbefore hne
    have hapart : shotID' ≠ shotID := by
      rintro rfl
      obtain rfl := Option.mem_unique hbefore hfind
      exact hne (hreports taskID htask)
    rw [hshots, Table.find?_modify_ne hapart]
    exact hbefore

/-- **One operation follows the tasks**, if the shot of a poll names the task that it named. -/
theorem followsTask_exec (hallowed : knowledge.allowed known o)
    (hknown : ∀ taskID ∈ known.failed, FailedTask s taskID) (hpolls : NamesSame known s o) :
    FollowsTask o s (o.exec out s).1 := by
  cases o with
  | startGeneration userID projectID shotID modelID =>
    simp only [exec, execStart]
    split
    · split
      · next hfound =>
        obtain ⟨shot, hshot⟩ := Option.isSome_iff_exists.1 hfound
        obtain ⟨hfind, -⟩ := find?_of_shotWhere hshot
        exact followsTask_of_modify hfind rfl (fun _ => rfl) (fun hstatus => by cases hstatus)
          fun _ hreports => by cases hreports
      · exact followsTask_of_shots rfl
    · exact followsTask_of_shots rfl
  | finishImageTaskSuccess taskID shotID modelID resultURL =>
    simp only [exec, execSuccess]
    split
    · exact followsTask_of_shots rfl
    · next hfound =>
      obtain ⟨hfind, hnames⟩ := find?_of_shotWhere hfound
      refine followsTask_of_modify hfind rfl (fun _ => rfl) (fun hstatus => by cases hstatus) ?_
      intro taskID' hreports
      obtain rfl := Option.some.inj hreports
      exact of_decide_eq_true hnames
    · exact followsTask_of_shots rfl
  | finishImageTaskFailure taskID shotID reason =>
    simp only [exec, execFailure]
    split
    · next hrunning =>
      by_cases hfound : (shotWhere s shotID (·.generationTaskId = taskID)).isSome
      · obtain ⟨shot, hshot⟩ := Option.isSome_iff_exists.1 hfound
        obtain ⟨hfind, hnames⟩ := find?_of_shotWhere hshot
        have hnames : shot.generationTaskId = taskID := of_decide_eq_true hnames
        obtain ⟨htask, -⟩ := find?_of_running hrunning
        rw [if_pos hfound]
        refine followsTask_of_modify hfind rfl (fun _ => rfl) (fun _ => ?_) ?_
        · -- the task fails in the same transaction
          refine ⟨?row, ?_, ?_⟩
          rotate_left
          · change (s.tasks.modify taskID _).find? shot.generationTaskId = _
            rw [hnames, Table.find?_modify, if_pos rfl, htask]
            · rfl
            · exact fun _ => rfl
          · rfl
        · intro taskID' hreports
          obtain rfl := Option.some.inj hreports
          exact hnames
      · rw [if_neg hfound]
        exact followsTask_of_shots rfl
    · exact followsTask_of_shots rfl
  | failShot shotID taskID reason =>
    simp only [exec]
    split
    · next hwrites =>
      obtain ⟨shot, hshot⟩ := Option.isSome_iff_exists.1 hwrites.2
      obtain ⟨hfind, -⟩ := find?_of_shotWhere hshot
      obtain ⟨hfailed, read, hread, hpolled⟩ := hallowed
      have hnames : shot.generationTaskId = taskID := (hpolls read hread shot hfind).trans hpolled
      refine followsTask_of_modify hfind rfl (fun _ => rfl) (fun _ => ?_) ?_
      · change FailedTask s shot.generationTaskId
        rw [hnames]
        exact hknown taskID hfailed
      · intro taskID' hreports
        obtain rfl := Option.some.inj hreports
        exact hnames
    · exact followsTask_of_shots rfl
  | updateWithStatus task fromStatus =>
    simp only [exec, execUpdate]
    split <;> exact followsTask_of_shots rfl
  | getProject | findShot | getPreference | modelAvailableForUser | getByTaskId
  | findShotOfTask | findShotForTask | relayRequest | getTimedOutUnfinishedTasks =>
    exact followsTask_of_shots rfl

end ShotOp

/-! ## The programs -/

/-- A program that learns nothing that it does not need: it follows the protocol from anything that
it knows. -/
abbrev Follows {α : Type} (c : ShotProg α) (known : Learned) : Prop :=
  c.Follows knowledge (fun _ _ => True) known

theorem follows_generateShot (userID : ℤ) (projectID shotID modelID : String)
    (known : Learned) : Follows (generateShot userID projectID shotID modelID) known := by
  refine ⟨trivial, fun owned _ => ?_⟩
  cases owned with
  | error err => trivial
  | ok _ =>
    refine ⟨trivial, fun shot _ => ?_⟩
    cases shot with
    | none => trivial
    | some _ =>
      refine ⟨trivial, fun preference _ => ?_⟩
      cases preference with
      | error err => trivial
      | ok defaultImageModel =>
        refine ⟨trivial, fun available _ => ?_⟩
        rcases available with err | _ | _
        · trivial
        · trivial
        · refine ⟨trivial, fun started _ => ?_⟩
          cases started with
          | error | ok => trivial

/-- A poll writes only after it has read the task as failed and the shot with it. -/
theorem follows_replyImageTask {taskID : String} {task : ImageTask} {shot : Shot}
    {known : Learned} (hknown : task.status = .failure → taskID ∈ known.failed)
    (hshot : known.shot = some shot) (hnames : shot.generationTaskId = taskID) :
    Follows (replyImageTask taskID task shot) known := by
  unfold replyImageTask
  split
  · next hfailed =>
    refine ⟨⟨hknown hfailed.1, shot, hshot, hnames⟩, fun written _ => ?_⟩
    cases written with
    | error | ok => trivial
  · trivial

theorem follows_getImageTask (userID : ℤ) (projectID taskID : String) (known : Learned) :
    Follows (getImageTask userID projectID taskID) known := by
  refine ⟨trivial, fun owned _ => ?_⟩
  cases owned with
  | error err => trivial
  | ok _ =>
    refine ⟨trivial, fun read _ => ?_⟩
    rcases read with err | _ | task
    · trivial
    · trivial
    · change Follows (ite _ _ _) _
      split
      · refine ⟨trivial, fun shot hshot => ?_⟩
        cases shot with
        | none => trivial
        | some shot =>
          refine follows_replyImageTask (fun hstatus => ?_) rfl (hshot shot rfl)
          simp [knowledge, hstatus]
      · trivial

theorem follows_finishImageTask (userID : ℤ) (modelID taskID shotID : String) (shot : Shot)
    (known : Learned) : Follows (finishImageTask userID modelID taskID shotID shot) known := by
  refine ⟨trivial, fun response _ => ?_⟩
  cases response with
  | error err => exact ⟨trivial, fun _ _ => trivial⟩
  | ok resultURL =>
    refine ⟨trivial, fun stored _ => ?_⟩
    cases stored with
    | error err => exact ⟨trivial, fun _ _ => trivial⟩
    | ok _ => trivial

theorem follows_runImageTask (userID : ℤ) (projectID shotID modelID taskID : String)
    (known : Learned) :
    Follows (runImageTask userID projectID shotID modelID taskID) known := by
  refine ⟨trivial, fun read _ => ?_⟩
  rcases read with err | _ | task
  · trivial
  · trivial
  · change Follows (ite _ _ _) _
    split
    · next hsubmitted =>
      refine ⟨?_, fun won _ => ?_⟩
      · change task.status ≠ .failure
        rw [hsubmitted]
        decide
      · change Follows (ite _ _ _) _
        split
        · refine ⟨trivial, fun shot _ => ?_⟩
          cases shot with
          | none => exact ⟨trivial, fun _ _ => trivial⟩
          | some shot => exact follows_finishImageTask _ _ _ _ shot _
        · trivial
    · trivial

/-- The sweep overwrites only tasks that it has read as unfinished. -/
theorem follows_sweepTimedOutTasks (taskTimeoutMinutes : ℤ) (known : Learned) :
    Follows (sweepTimedOutTasks taskTimeoutMinutes) known := by
  unfold sweepTimedOutTasks
  split
  · trivial
  · refine ⟨trivial, fun tasks htasks => ?_⟩
    have hloop := Prog.follows_foldlM (D := knowledge) (m := known) (l := tasks) (g := ())
      (f := fun _ task => sweepTask taskTimeoutMinutes task)
      (I := fun rest _ _ => ∀ task ∈ rest, task.status ≠ .failure) ?_ htasks
    · exact hloop.mono fun _ _ _ => trivial
    · intro task rest _ known hrest
      exact ⟨hrest task List.mem_cons_self, fun _ _ task' htask' =>
        hrest task' (List.mem_cons_of_mem _ htask')⟩

theorem follows_program (request : Request) : Follows request.program knowledge.start := by
  cases request with
  | generate userID projectID shotID modelID =>
    exact (Prog.follows_bind _ _).2 ((follows_generateShot _ _ _ _ _).mono fun _ _ _ => trivial)
  | poll userID projectID taskID =>
    exact (Prog.follows_bind _ _).2 ((follows_getImageTask _ _ _ _).mono fun _ _ _ => trivial)
  | work userID projectID shotID modelID taskID =>
    exact (Prog.follows_bind _ _).2 ((follows_runImageTask _ _ _ _ _ _).mono fun _ _ _ => trivial)
  | sweep taskTimeoutMinutes =>
    exact (Prog.follows_bind _ _).2 ((follows_sweepTimedOutTasks _ _).mono fun _ _ _ => trivial)

/-- The processes at their beginning. -/
def begin {ι : Type} (s : Store) (request : ι → Request) :
    System ι Store ShotOp.Result (Option Reply) :=
  System.start s fun i => (request i).program

/-- **Shots follow their tasks**: if no shot gets another task between the read and the write of a
poll, every operation marks a shot as failed only if the task that the shot names has failed, and
reports a result only to shots that name the task. -/
theorem shot_follows_task {ι : Type} [DecidableEq ι] (s : Store) (request : ι → Request)
    (es : List (ι × ShotOp.Outcome))
    (hpolls : System.Meets ShotOp.exec (fun w i o _ => NamesSame (w.stages knowledge i) w.state o)
      (begin s request) es) :
    System.Meets ShotOp.exec (fun w _ o out => FollowsTask o w.state (o.exec out w.state).1)
      (begin s request) es := by
  have hstart : Knows s fun _ : ι => knowledge.start := by
    intro i taskID hmem
    cases hmem
  refine System.run_meets (fun w i o out hknows hallowed _ => ?_) (fun w i o out hknows hallowed
    hcurrent => ?_) hstart (fun i => follows_program _) hpolls
  · exact ⟨ShotOp.possible_exec o _, ShotOp.knows_exec hknows hallowed⟩
  · exact ShotOp.followsTask_exec hallowed (hknows i) hcurrent

/-! ## A poll that is too late -/

instance (learned : Learned) (s : Store) (o : ShotOp) : Decidable (NamesSame learned s o) := by
  cases o <;> dsimp only [NamesSame] <;> infer_instance

/-- The user, who generates twice, two polls and the sweep. -/
inductive Actor
  | first | second | poll | poll' | sweep
  deriving DecidableEq

def actorRequest : Actor → Request
  | .first | .second => .generate 1 "project" "shot" "model"
  | .poll | .poll' => .poll 1 "project" "task-1"
  | .sweep => .sweep 10

def drafted : Store where
  shots := ⟨[{
    id := "shot", projectId := "project", sceneId := "scene", shotType := "", prompt := "a door"
    seedance := "", aspectRatio := "16:9", model := "", resultUrl := "", resultObjectKey := none
    resultEtag := "", status := .draft, generationTaskId := "", generationError := ""
    version := 1, deleted := false }], List.nodup_singleton _⟩
  tasks := Table.empty

/-- A generation of five statements that starts a task. -/
def starts (actor : Actor) (taskID : String) (now : ℤ) : List (Actor × ShotOp.Outcome) :=
  [(actor, .fine), (actor, .fine), (actor, .fine), (actor, .fine),
    (actor, { text := taskID, time := now })]

/-- The first task is started and swept, and a poll has read it. -/
def sweptAndRead : List (Actor × ShotOp.Outcome) := starts .first "task-1" 2000000000 ++
    [(.sweep, { time := 2000001000 }), (.sweep, .fine), (.poll, .fine), (.poll, .fine),
      (.poll, .fine)]

/-- A run that meets the condition: the poll marks the shot as failed. -/
theorem swept_shot_follows_task :
    System.Meets ShotOp.exec (fun w _ o out => FollowsTask o w.state (o.exec out w.state).1)
      (begin drafted actorRequest) (sweptAndRead ++ [(.poll, .fine)]) :=
  shot_follows_task drafted actorRequest _ (by decide +kernel)

/-- Another poll marks the shot as failed and the user starts a second task, before the poll
writes. -/
theorem stale_poll_fails_newer_task :
    let before := (begin drafted actorRequest).run ShotOp.exec
      (sweptAndRead ++ [(.poll', .fine), (.poll', .fine), (.poll', .fine), (.poll', .fine)] ++
        starts .second "task-2" 2000002000)
    let after := before.step ShotOp.exec (.poll, .fine)
    (before.state.shots.find? "shot").map (fun shot => (shot.status, shot.generationTaskId)) =
        some (.generating, "task-2") ∧
      (after.state.shots.find? "shot").map (fun shot => (shot.status, shot.generationTaskId)) =
        some (.failed, "task-2") ∧
      (after.state.tasks.find? "task-2").map (·.status) = some .submitted := by decide +kernel

end Mujian.Studio.Shots
