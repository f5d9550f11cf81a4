import Mujian.Foundations.Text
import Mujian.Foundations.Transaction
import Mujian.Studio.Schema

/-!
# Applying and undoing proposals

`applyAgentMessage` writes the changed columns of one scene or shot, or creates a batch of scenes,
and records on the message what `undoAgentMessage` needs to take it back. `updateWorkspace` is the
ordinary edit of scenes. Each is one transaction, so here a function to `Except`. The ids that
`uuid.NewString` returns are a parameter `newID`, and the JSON text of dialogues is `marshal`.
-/

namespace Mujian.Studio

open Versioned

/-! ## Checks -/

section

variable {α : Type}

/-- The value of a read, or an error when there is none. -/
def require (o : Option α) (e : Error) : Except Error α :=
  match o with
  | some a => .ok a
  | none => .error e

/-- `if c { return e }`. -/
def refuseIf (c : Prop) [Decidable c] (e : Error) : Except Error Unit :=
  if c then .error e else .ok ()

@[simp] theorem require_eq_ok {o : Option α} {e : Error} {a : α} :
    require o e = .ok a ↔ o = some a := by
  cases o <;> simp [require]

@[simp] theorem refuseIf_eq_ok {c : Prop} [Decidable c] {e : Error} {u : Unit} :
    refuseIf c e = .ok u ↔ ¬c := by
  unfold refuseIf
  split <;> simp [*]

end

/-- `GetProject`. -/
def getProject (ws : Workspace) (userID : ℤ) (projectID : String) : Except Error Project :=
  require ((ws.projects.find? projectID).filter fun p => p.userId == userID && !p.deleted) .notFound

def createScenesProposalKind : String := "create_scenes"

def validateSceneBatchProposal (proposal : AgentProposal) : Except Error Unit := do
  refuseIf (trimSpace proposal.summary = "") (.other "Agent 提案缺少摘要")
  refuseIf (proposal.scenes.length < 1 ∨ 8 < proposal.scenes.length)
    (.other "Agent 场景提案数量必须为 1 到 8 个")
  proposal.scenes.forM fun scene => do
    refuseIf (trimSpace scene.title = "" ∨ trimSpace scene.environment = "" ∨
      trimSpace scene.action = "") (.other "Agent 场景提案内容不完整")
    let dialogues ← require scene.dialogues (.other "Agent 场景提案缺少对白数组")
    dialogues.forM fun dialogue =>
      refuseIf (trimSpace dialogue.character = "" ∨ trimSpace dialogue.line = "")
        (.other "Agent 场景对白内容不完整")

def liveScenes (ws : Workspace) (projectID : String) : List Scene :=
  ws.scenes.rows.filter fun scene => scene.projectId == projectID && !scene.deleted

section

variable {ρ : Type} [Versioned ρ]

section

variable (t : Table ρ) (projectID : String) (proposal : AgentProposal)

/-- The checks of `validateProposal` on the row a proposal changes; `forbidden` is the text for a
column it may not write. -/
def validateTarget (projectID forbidden : String) (proposal : AgentProposal) :
    Except Error Unit := do
  refuseIf ((select t proposal.targetId projectID).isNone = true) .notFound
  refuseIf (¬ ∀ cv ∈ proposal.changes, cv.1 ∈ columns ρ) (.other forbidden)

/-- Write the changes of a proposal to its row, and record how to take them back. -/
def applyTarget : Except Error (Table ρ × UndoState) := do
  let row ← require (select t proposal.targetId projectID) .database
  refuseIf (version row ≠ proposal.expectedVersion) .conflict
  let t' ← require (updateVersion t proposal.targetId projectID (version row) proposal.changes)
    .conflict
  .ok (t', ⟨previous proposal.changes row, version row + 1, []⟩)

/-- Write recorded values back to the row of a proposal. A name that is no column of the row makes
the statement fail. -/
def undoTarget (state : UndoState) : Except Error (Table ρ) := do
  refuseIf (¬ ∀ cv ∈ state.values, cv.1 ∈ columns ρ) .database
  require (updateVersion t proposal.targetId projectID state.appliedVersion state.values) .conflict

end

end

def validateProposal (ws : Workspace) (userID : ℤ) (projectID : String)
    (proposal : AgentProposal) : Except Error Unit := do
  if proposal.kind = createScenesProposalKind then
    validateSceneBatchProposal proposal
    let _ ← getProject ws userID projectID
    refuseIf ((liveScenes ws projectID).length ≠ 0) .conflict
  else
    refuseIf (proposal.kind ≠ "") (.other "Agent 提案类型无效")
    refuseIf (proposal.targetId = "" ∨ proposal.changes = []) (.other "Agent 提案缺少修改目标")
    refuseIf (proposal.expectedVersion < 1) (.other "Agent 提案缺少目标版本")
    let _ ← getProject ws userID projectID
    if proposal.targetType = "scene" then
      validateTarget ws.scenes projectID "Agent 提案包含不允许的场景字段" proposal
    else if proposal.targetType = "shot" then
      validateTarget ws.shots projectID "Agent 提案包含不允许的镜头字段" proposal
    else .error (.other "Agent 提案目标类型无效")

/-! ## Batches of scenes -/

section

variable (marshal : List AgentProposedDialogue → String) (newID : ℕ → String)

def proposedScene (projectID : String) (episode : ℤ) (index : ℕ) (input : AgentSceneProposal) :
    Scene where
  id := newID index
  projectId := projectID
  episode := episode
  sceneNumber := index + 1
  title := trimSpace input.title
  environment := trimSpace input.environment
  action := trimSpace input.action
  dialogues := marshal (input.dialogues.getD [])
  version := 1
  deleted := false

def createdIDs (proposal : AgentProposal) : List String :=
  (List.range proposal.scenes.length).map newID

/-- `applySceneBatchProposal`. -/
def applySceneBatchProposal (ws : Workspace) (userID : ℤ) (projectID : String)
    (proposal : AgentProposal) : Except Error (Table Scene × UndoState) := do
  validateSceneBatchProposal proposal
  let project ← getProject ws userID projectID
  refuseIf ((liveScenes ws projectID).length ≠ 0) .conflict
  let rows := proposal.scenes.mapIdx (proposedScene marshal newID projectID project.currentEpisode)
  let scenes ← require (ws.scenes.insertAll? rows) .database
  .ok (scenes, ⟨[], 0, createdIDs newID proposal⟩)

end

/-- The row is one of the batch and still as it was created, as far as the undo looks. -/
def untouched (projectID : String) (scene : Scene) : Bool :=
  scene.projectId == projectID && !scene.deleted && scene.version == 1

def Scene.removed (scene : Scene) : Scene := { scene with deleted := true }

theorem key_removed (scene : Scene) : Keyed.key scene.removed = Keyed.key scene := rfl

/-- `undoSceneBatchProposal`. -/
def undoSceneBatchProposal (ws : Workspace) (projectID : String) (sceneIDs : List String) :
    Except Error (Table Scene) := do
  refuseIf (sceneIDs = []) .conflict
  refuseIf ((ws.scenes.countWhere fun scene =>
    sceneIDs.contains scene.id && (scene.projectId == projectID && !scene.deleted)) ≠
      sceneIDs.length) .conflict
  refuseIf (∃ scene ∈ liveScenes ws projectID, scene.id ∈ sceneIDs ∧ scene.version ≠ 1) .conflict
  refuseIf (∃ shot ∈ ws.shots.rows,
    shot.projectId = projectID ∧ shot.deleted = false ∧ shot.sceneId ∈ sceneIDs) .conflict
  refuseIf ((ws.scenes.countWhere fun scene =>
    sceneIDs.contains scene.id && untouched projectID scene) ≠ sceneIDs.length) .conflict
  .ok (ws.scenes.modifyWhere (fun scene => sceneIDs.contains scene.id && untouched projectID scene)
    Scene.removed)

/-! ## Messages -/

/-- The message a call is about, in the status it must have. -/
def findMessage (ws : Workspace) (userID : ℤ) (projectID messageID : String)
    (status : ApplyStatus) : Except Error AgentMessage :=
  require ((ws.messages.find? messageID).filter fun message =>
    message.projectId == projectID && message.userId == userID && message.applyStatus == status)
    .notFound

def moveMessage (messages : Table AgentMessage) (messageID : String) (status : ApplyStatus)
    (f : AgentMessage → AgentMessage) : Except Error (Table AgentMessage) :=
  if (messages.find? messageID).any fun message => message.applyStatus == status then
    .ok (messages.modify messageID f)
  else .error .conflict

def AgentMessage.applied (state : UndoState) (message : AgentMessage) : AgentMessage :=
  { message with applyStatus := .applied, previousValues := some state }

def AgentMessage.undone (message : AgentMessage) : AgentMessage :=
  { message with applyStatus := .undone }

/-! ## The three operations -/

section

variable (marshal : List AgentProposedDialogue → String)

/-- `ApplyAgentMessage`. -/
def applyAgentMessage (newID : ℕ → String) (ws : Workspace) (userID : ℤ)
    (projectID messageID : String) : Except Error Workspace := do
  let message ← findMessage ws userID projectID messageID .pending
  let proposal ← require message.proposal .malformed
  if proposal.kind = createScenesProposalKind then
    refuseIf (message.mode ≠ "execute" ∨ message.skill ≠ "短剧编剧")
      (.other "场景创建提案的模式或职能无效")
    let (scenes, state) ← applySceneBatchProposal marshal newID ws userID projectID proposal
    let messages ← moveMessage ws.messages messageID .pending (·.applied state)
    .ok { ws with scenes, messages }
  else
    validateProposal ws userID projectID proposal
    if proposal.targetType = "scene" then
      let (scenes, state) ← applyTarget ws.scenes projectID proposal
      let messages ← moveMessage ws.messages messageID .pending (·.applied state)
      .ok { ws with scenes, messages }
    else
      let (shots, state) ← applyTarget ws.shots projectID proposal
      let messages ← moveMessage ws.messages messageID .pending (·.applied state)
      .ok { ws with shots, messages }

/-- `UndoAgentMessage`. -/
def undoAgentMessage (ws : Workspace) (userID : ℤ) (projectID messageID : String) :
    Except Error Workspace := do
  let message ← findMessage ws userID projectID messageID .applied
  let proposal ← require message.proposal .malformed
  let state ← require message.previousValues .malformed
  if proposal.kind = createScenesProposalKind then
    let scenes ← undoSceneBatchProposal ws projectID state.createdSceneIDs
    let messages ← moveMessage ws.messages messageID .applied (·.undone)
    .ok { ws with scenes, messages }
  else if proposal.targetType = "scene" then
    let scenes ← undoTarget ws.scenes projectID proposal state
    let messages ← moveMessage ws.messages messageID .applied (·.undone)
    .ok { ws with scenes, messages }
  else
    let shots ← undoTarget ws.shots projectID proposal state
    let messages ← moveMessage ws.messages messageID .applied (·.undone)
    .ok { ws with shots, messages }

def editedColumns (input : Scene) : List (String × String) :=
  [("title", input.title), ("environment", input.environment), ("action", input.action),
    ("dialogues", input.dialogues)]

def updateScene (projectID : String) (scenes : Table Scene) (input : Scene) :
    Except Error (Table Scene) := do
  let _ ← require (select scenes input.id projectID) .notFound
  require (updateVersion scenes input.id projectID input.version (editedColumns input)) .conflict

def updateWorkspace (ws : Workspace) (userID : ℤ) (projectID : String) (inputs : List Scene) :
    Except Error Workspace := do
  let _ ← getProject ws userID projectID
  let scenes ← inputs.foldlM (updateScene projectID) ws.scenes
  .ok { ws with scenes }

end

/-! ## What an accepted call has done -/

section

variable {ws ws' : Workspace} {userID : ℤ} {projectID messageID : String}
  {message : AgentMessage} {proposal : AgentProposal} {state : UndoState}

structure Found (ws : Workspace) (userID : ℤ) (projectID messageID : String)
    (status : ApplyStatus) (message : AgentMessage) : Prop where
  find : ws.messages.find? messageID = some message
  project : message.projectId = projectID
  user : message.userId = userID
  status : message.applyStatus = status

variable {status : ApplyStatus} {marshal : List AgentProposedDialogue → String} {newID : ℕ → String}
  {scenes : Table Scene} {inputs : List Scene}

theorem findMessage_ok_iff : findMessage ws userID projectID messageID status = .ok message ↔
      Found ws userID projectID messageID status message := by
  simp only [findMessage, require_eq_ok, Option.filter_eq_some_iff, Bool.and_eq_true, beq_iff_eq,
    and_assoc]
  constructor
  · rintro ⟨hfind, huser, hproject, hstatus⟩
    exact ⟨hfind, huser, hproject, hstatus⟩
  · intro h
    exact ⟨h.1, h.2, h.3, h.4⟩

theorem Found.moveMessage_ok_iff
    (h : Found ws userID projectID messageID status message) {f : AgentMessage → AgentMessage}
    {messages : Table AgentMessage} :
    moveMessage ws.messages messageID status f = .ok messages ↔
      messages = ws.messages.modify messageID f := by
  simp only [moveMessage, h.find, Option.any_some, h.status, beq_self_eq_true, if_true,
    Except.ok.injEq]
  exact eq_comm

/-- The changes of a proposal were written to the row of the given version, and `state` records
how to take them back. -/
structure AppliedTo {ρ : Type} [Versioned ρ] (t t' : Table ρ) (projectID : String)
    (proposal : AgentProposal) (state : UndoState) (row : ρ) : Prop where
  selected : select t proposal.targetId projectID = some row
  allowed : ∀ cv ∈ proposal.changes, cv.1 ∈ columns ρ
  update : updateVersion t proposal.targetId projectID (version row) proposal.changes = some t'
  recorded : state = ⟨previous proposal.changes row, version row + 1, []⟩

structure Created (t t' : Table Scene) (projectID : String) (ids : List String) : Prop where
  nonempty : ids ≠ []
  nodup : ids.Nodup
  fresh : ∀ k ∈ ids, t.find? k = none
  created : ∀ k ∈ ids, ∃ scene, t'.find? k = some scene ∧ untouched projectID scene = true
  kept : ∀ k, k ∉ ids → t'.find? k = t.find? k

/-- What an accepted application does to scenes and shots. -/
inductive Written (newID : ℕ → String) (ws ws' : Workspace) (projectID : String)
    (proposal : AgentProposal) (state : UndoState) : Prop
  | batch (hkind : proposal.kind = createScenesProposalKind)
      (hids : state.createdSceneIDs = createdIDs newID proposal)
      (hscenes : Created ws.scenes ws'.scenes projectID (createdIDs newID proposal))
      (hshots : ws'.shots = ws.shots)
  | scene (hkind : proposal.kind ≠ createScenesProposalKind) (htype : proposal.targetType = "scene")
      (row : Scene) (hscenes : AppliedTo ws.scenes ws'.scenes projectID proposal state row)
      (hshots : ws'.shots = ws.shots)
  | shot (hkind : proposal.kind ≠ createScenesProposalKind) (htype : proposal.targetType ≠ "scene")
      (row : Shot) (hshots : AppliedTo ws.shots ws'.shots projectID proposal state row)
      (hscenes : ws'.scenes = ws.scenes)

variable {ρ : Type}

theorem applyTarget_ok [Versioned ρ] {t t' : Table ρ}
    (hcolumns : ∀ cv ∈ proposal.changes, cv.1 ∈ columns ρ)
    (h : applyTarget t projectID proposal = .ok (t', state)) :
    ∃ row, AppliedTo t t' projectID proposal state row := by
  simp only [applyTarget, except_bind_eq_ok_iff, require_eq_ok] at h
  obtain ⟨row, hrow, -, -, t₁, hupdate, rfl, rfl⟩ := h
  exact ⟨row, hrow, hcolumns, hupdate, rfl⟩

theorem validateTarget_columns [Versioned ρ] {t : Table ρ} {forbidden : String}
    {u : Unit} (h : validateTarget t projectID forbidden proposal = .ok u) :
    ∀ cv ∈ proposal.changes, cv.1 ∈ columns ρ := by
  simp only [validateTarget, except_bind_eq_ok_iff, refuseIf_eq_ok, not_not] at h
  obtain ⟨-, -, hcolumns⟩ := h
  exact hcolumns

theorem applySceneBatchProposal_ok
    (h : applySceneBatchProposal marshal newID ws userID projectID proposal = .ok (scenes, state)) :
    state.createdSceneIDs = createdIDs newID proposal ∧
      Created ws.scenes scenes projectID (createdIDs newID proposal) := by
  simp only [applySceneBatchProposal, except_bind_eq_ok_iff, require_eq_ok] at h
  obtain ⟨_, hvalid, project, -, -, -, scenes', hinsert, rfl, rfl⟩ := h
  refine ⟨rfl, ?_⟩
  obtain ⟨hnodup, hnew, hkept⟩ := Table.insertAll?_eq_some hinsert
  set rows := proposal.scenes.mapIdx
    (proposedScene marshal newID projectID project.currentEpisode) with hrows
  have hkeys : rows.map Keyed.key = createdIDs newID proposal := by
    refine List.ext_getElem (by simp [hrows, createdIDs]) fun i h₁ h₂ => ?_
    simp only [hrows, List.getElem_map, List.getElem_mapIdx, createdIDs, List.getElem_range]
    rfl
  have hrow : ∀ k ∈ createdIDs newID proposal, ∃ scene ∈ rows,
      Keyed.key scene = k ∧ untouched projectID scene = true := by
    intro k hk
    obtain ⟨scene, hscene, rfl⟩ := List.mem_map.1 (hkeys ▸ hk)
    refine ⟨scene, hscene, rfl, ?_⟩
    obtain ⟨i, hi, rfl⟩ := List.mem_mapIdx.1 hscene
    simp [untouched, proposedScene]
  refine ⟨?_, hkeys ▸ hnodup, ?_, ?_, hkeys ▸ hkept⟩
  · -- a batch that passes its check has at least one scene
    have hlen : ¬ (proposal.scenes.length < 1 ∨ 8 < proposal.scenes.length) := by
      simp only [validateSceneBatchProposal, except_bind_eq_ok_iff, refuseIf_eq_ok] at hvalid
      obtain ⟨-, -, _, hlen, -⟩ := hvalid
      exact hlen
    simp only [createdIDs, ne_eq, List.map_eq_nil_iff, List.range_eq_nil]
    omega
  · intro k hk
    obtain ⟨scene, hscene, rfl, -⟩ := hrow k hk
    exact (hnew scene hscene).1
  · intro k hk
    obtain ⟨scene, hscene, rfl, huntouched⟩ := hrow k hk
    exact ⟨scene, (hnew scene hscene).2, huntouched⟩

/-- An accepted application found a pending message, wrote its proposal and marked it applied. -/
theorem applyAgentMessage_ok
    (h : applyAgentMessage marshal newID ws userID projectID messageID = .ok ws') :
    ∃ message proposal state, Found ws userID projectID messageID .pending message ∧
      message.proposal = some proposal ∧ Written newID ws ws' projectID proposal state ∧
      ws'.projects = ws.projects ∧
      ws'.messages = ws.messages.modify messageID (·.applied state) := by
  simp only [applyAgentMessage, except_bind_eq_ok_iff, require_eq_ok, findMessage_ok_iff] at h
  obtain ⟨message, hfound, proposal, hproposal, h⟩ := h
  split at h
  · rename_i hkind
    simp only [except_bind_eq_ok_iff, hfound.moveMessage_ok_iff] at h
    obtain ⟨-, -, ⟨scenes, state⟩, hbatch, messages, rfl, ⟨⟩⟩ := h
    obtain ⟨hids, hcreated⟩ := applySceneBatchProposal_ok hbatch
    exact ⟨message, proposal, state, hfound, hproposal, .batch hkind hids hcreated rfl, rfl, rfl⟩
  · rename_i hkind
    simp only [except_bind_eq_ok_iff, validateProposal, if_neg hkind] at h
    obtain ⟨_, ⟨_, -, _, -, _, -, _, -, hvalid⟩, h⟩ := h
    split at h
    · rename_i htype
      rw [if_pos htype] at hvalid
      simp only [except_bind_eq_ok_iff, hfound.moveMessage_ok_iff] at h
      obtain ⟨⟨scenes, state⟩, happly, messages, rfl, ⟨⟩⟩ := h
      obtain ⟨row, happlied⟩ := applyTarget_ok (validateTarget_columns hvalid) happly
      exact ⟨message, proposal, state, hfound, hproposal, .scene hkind htype row happlied rfl, rfl,
        rfl⟩
    · rename_i htype
      rw [if_neg htype] at hvalid
      split at hvalid
      · simp only [except_bind_eq_ok_iff, hfound.moveMessage_ok_iff] at h
        obtain ⟨⟨shots, state⟩, happly, messages, rfl, ⟨⟩⟩ := h
        obtain ⟨row, happlied⟩ := applyTarget_ok (validateTarget_columns hvalid) happly
        exact ⟨message, proposal, state, hfound, hproposal, .shot hkind htype row happlied rfl, rfl,
          rfl⟩
      · cases hvalid

structure Removed (ws : Workspace) (t' : Table Scene) (projectID : String) (ids : List String) :
    Prop where
  nonempty : ids ≠ []
  found : ∀ k ∈ ids, ∃ scene, ws.scenes.find? k = some scene ∧ untouched projectID scene = true
  unused : ∀ shot ∈ ws.shots.rows,
    shot.projectId = projectID → shot.deleted = false → shot.sceneId ∉ ids
  removed : t' = ws.scenes.modifyWhere
    (fun scene => ids.contains scene.id && untouched projectID scene) Scene.removed

theorem undoSceneBatchProposal_ok_iff {ids : List String} (hnodup : ids.Nodup) :
    undoSceneBatchProposal ws projectID ids = .ok scenes ↔ Removed ws scenes projectID ids := by
  have hlive := Table.countWhere_keys ws.scenes hnodup
    fun scene => scene.projectId == projectID && !scene.deleted
  have huntouched := Table.countWhere_keys ws.scenes hnodup (untouched projectID)
  simp only [undoSceneBatchProposal, except_bind_eq_ok_iff, refuseIf_eq_ok, Except.ok.injEq,
    not_not, exists_const]
  constructor
  · rintro ⟨hne, -, -, hshots, hcount, rfl⟩
    refine ⟨hne, huntouched.1 hcount, ?_, rfl⟩
    intro shot hshot hproject hdeleted hmem
    exact hshots ⟨shot, hshot, hproject, hdeleted, hmem⟩
  · rintro ⟨hne, hfound, hunused, rfl⟩
    refine ⟨hne, hlive.2 ?_, ?_, ?_, huntouched.2 hfound, rfl⟩
    · intro k hk
      obtain ⟨scene, hscene, h⟩ := hfound k hk
      simp only [untouched, Bool.and_eq_true] at h
      exact ⟨scene, hscene, Bool.and_eq_true_iff.2 h.1⟩
    · rintro ⟨scene, hscene, hid, hversion⟩
      -- the live scene with this id is the one that was found untouched
      obtain ⟨scene', hscene', h⟩ := hfound scene.id hid
      have hmem : scene ∈ ws.scenes.rows := (List.mem_filter.1 hscene).1
      obtain rfl : scene = scene' := Option.mem_unique (Table.find?_key_of_mem hmem) hscene'
      simp only [untouched, Bool.and_eq_true, beq_iff_eq] at h
      exact hversion h.2
    · rintro ⟨shot, hshot, hproject, hdeleted, hmem⟩
      exact hunused shot hshot hproject hdeleted hmem

inductive TakenBack (ws ws' : Workspace) (projectID : String) (proposal : AgentProposal)
    (state : UndoState) : Prop
  | batch (hkind : proposal.kind = createScenesProposalKind)
      (hscenes : undoSceneBatchProposal ws projectID state.createdSceneIDs = .ok ws'.scenes)
      (hshots : ws'.shots = ws.shots)
  | scene (hkind : proposal.kind ≠ createScenesProposalKind) (htype : proposal.targetType = "scene")
      (hallowed : ∀ cv ∈ state.values, cv.1 ∈ columns Scene)
      (hscenes : updateVersion ws.scenes proposal.targetId projectID state.appliedVersion
        state.values = some ws'.scenes) (hshots : ws'.shots = ws.shots)
  | shot (hkind : proposal.kind ≠ createScenesProposalKind) (htype : proposal.targetType ≠ "scene")
      (hallowed : ∀ cv ∈ state.values, cv.1 ∈ columns Shot)
      (hshots : updateVersion ws.shots proposal.targetId projectID state.appliedVersion
        state.values = some ws'.shots) (hscenes : ws'.scenes = ws.scenes)

theorem undoTarget_ok_iff [Versioned ρ] {t t' : Table ρ} :
    undoTarget t projectID proposal state = .ok t' ↔ (∀ cv ∈ state.values, cv.1 ∈ columns ρ) ∧
        updateVersion t proposal.targetId projectID state.appliedVersion state.values =
          some t' := by
  simp only [undoTarget, except_bind_eq_ok_iff, refuseIf_eq_ok, not_not, require_eq_ok,
    exists_const]

/-- An undo is accepted if and only if it finds an applied message whose changes it can take back;
it then marks the message undone. -/
theorem undoAgentMessage_ok_iff : undoAgentMessage ws userID projectID messageID = .ok ws' ↔
      ∃ message proposal state, Found ws userID projectID messageID .applied message ∧
        message.proposal = some proposal ∧ message.previousValues = some state ∧
        TakenBack ws ws' projectID proposal state ∧ ws'.projects = ws.projects ∧
        ws'.messages = ws.messages.modify messageID (·.undone) := by
  simp only [undoAgentMessage, except_bind_eq_ok_iff, require_eq_ok, findMessage_ok_iff]
  constructor
  · rintro ⟨message, hfound, proposal, hproposal, state, hstate, h⟩
    refine ⟨message, proposal, state, hfound, hproposal, hstate, ?_⟩
    split at h
    · simp only [except_bind_eq_ok_iff, hfound.moveMessage_ok_iff] at h
      obtain ⟨scenes, hscenes, messages, rfl, ⟨⟩⟩ := h
      exact ⟨.batch ‹_› hscenes rfl, rfl, rfl⟩
    · split at h
      · simp only [except_bind_eq_ok_iff, undoTarget_ok_iff, hfound.moveMessage_ok_iff] at h
        obtain ⟨scenes, ⟨hallowed, hscenes⟩, messages, rfl, ⟨⟩⟩ := h
        exact ⟨.scene ‹_› ‹_› hallowed hscenes rfl, rfl, rfl⟩
      · simp only [except_bind_eq_ok_iff, undoTarget_ok_iff, hfound.moveMessage_ok_iff] at h
        obtain ⟨shots, ⟨hallowed, hshots⟩, messages, rfl, ⟨⟩⟩ := h
        exact ⟨.shot ‹_› ‹_› hallowed hshots rfl, rfl, rfl⟩
  · rintro ⟨message, proposal, state, hfound, hproposal, hstate, htaken, hprojects, hmessages⟩
    refine ⟨message, hfound, proposal, hproposal, state, hstate, ?_⟩
    obtain ⟨projects', scenes', shots', messages'⟩ := ws'
    subst hprojects hmessages
    cases htaken with
    | batch hkind hscenes hshots =>
      subst hshots
      rw [if_pos hkind]
      simp only [except_bind_eq_ok_iff, hfound.moveMessage_ok_iff]
      exact ⟨scenes', hscenes, _, rfl, rfl⟩
    | scene hkind htype hallowed hscenes hshots =>
      subst hshots
      rw [if_neg hkind, if_pos htype]
      simp only [except_bind_eq_ok_iff, undoTarget_ok_iff, hfound.moveMessage_ok_iff]
      exact ⟨scenes', ⟨hallowed, hscenes⟩, _, rfl, rfl⟩
    | shot hkind htype hallowed hshots hscenes =>
      subst hscenes
      rw [if_neg hkind, if_neg htype]
      simp only [except_bind_eq_ok_iff, undoTarget_ok_iff, hfound.moveMessage_ok_iff]
      exact ⟨shots', ⟨hallowed, hshots⟩, _, rfl, rfl⟩

/-- An accepted edit moves scenes forward, the edited ones to a greater version. -/
theorem foldlM_updateScene_ok {t t' : Table Scene}
    (h : inputs.foldlM (updateScene projectID) t = .ok t') :
    Advances t t' ∧ ∀ input ∈ inputs, ∃ row row', t.find? input.id = some row ∧
      t'.find? input.id = some row' ∧ row.version < row'.version := by
  induction inputs generalizing t with
  | nil =>
    cases h
    exact ⟨Advances.refl _, fun input hinput => absurd hinput List.not_mem_nil⟩
  | cons input inputs ih =>
    simp only [List.foldlM_cons, except_bind_eq_ok_iff, updateScene, require_eq_ok] at h
    obtain ⟨t₁, ⟨row, hrow, hupdate⟩, hrest⟩ := h
    obtain ⟨hadvances, hgreater⟩ := ih hrest
    have hfirst := updateVersion_advances hupdate
    refine ⟨hfirst.trans hadvances, ?_⟩
    intro input' hinput'
    rcases List.mem_cons.1 hinput' with rfl | hinput'
    · have hrow₁ : t₁.find? input'.id = some (bump (writes (editedColumns input') row)) := by
        rw [find?_updateVersion hupdate hrow, if_pos rfl]
      obtain ⟨row', hrow', hlater⟩ := hadvances _ _ hrow₁
      refine ⟨row, row', (select_eq_some_iff.1 hrow).1, hrow', ?_⟩
      have hversion : version (bump (writes (editedColumns input') row)) = version row + 1 := by
        rw [version_bump, version_writes]
      have hle := hlater.version_le
      change version row < version row'
      omega
    · obtain ⟨row₁, row', hrow₁, hrow', hlt⟩ := hgreater input' hinput'
      -- the row was there before the first update, with at most this version
      obtain ⟨row₀, hrow₀⟩ := find?_of_updateVersion hupdate hrow₁
      obtain ⟨row₂, hrow₂, hlater⟩ := hfirst _ _ hrow₀
      obtain rfl : row₂ = row₁ := Option.mem_unique hrow₂ hrow₁
      have hle := hlater.version_le
      refine ⟨row₀, row', hrow₀, hrow', ?_⟩
      change version row₀ < version row'
      change version row₂ < version row' at hlt
      omega

theorem updateWorkspace_ok (h : updateWorkspace ws userID projectID inputs = .ok ws') :
    ∃ scenes, inputs.foldlM (updateScene projectID) ws.scenes = .ok scenes ∧
      ws' = { ws with scenes } := by
  simp only [updateWorkspace, except_bind_eq_ok_iff, Except.ok.injEq] at h
  obtain ⟨-, -, scenes, hscenes, rfl⟩ := h
  exact ⟨scenes, hscenes, rfl⟩

end

end Mujian.Studio
