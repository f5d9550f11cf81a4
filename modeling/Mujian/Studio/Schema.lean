import Mujian.Foundations.Columns

/-!
# The tables of the studio

The rows the studio keeps for a project (`model/mujian.go`): its scenes and shots, and the agent
messages with the proposals they carry. The statements of the source see only the rows that are not
soft-deleted, unless they say `Unscoped`. Scenes and shots are versioned rows.
-/

namespace Mujian.Studio

/-- The errors of the studio's operations; `other` carries the text of an error built in place. -/
inductive Error
  /-- `ErrNotFound`, 资源不存在. -/
  | notFound
  /-- `ErrConflict`, 内容已被更新，请刷新后重试. -/
  | conflict
  /-- `ErrSessionChanged`, 会话已被清空，请在当前会话重新发送. -/
  | sessionChanged
  /-- `ErrMujianObjectStateConflict`, mujian object state conflict. -/
  | objectStateConflict
  /-- `ErrMujianImageGenerationActive`, 生图任务正在进行中，请稍后再删除. -/
  | imageGenerationActive
  /-- `ErrObjectNotFound`, object not found. -/
  | objectNotFound
  /-- A stored JSON text that does not decode. -/
  | malformed
  | database
  | other (text : String)

structure Project where
  id : String
  (userId currentEpisode : ℤ)
  deleted : Bool

instance : Keyed Project String := ⟨Project.id⟩

/-! ## Objects

An image is kept outside of the database, under a key that `BuildObjectKey` makes from what the
image is, the id of its row and its content type. -/

inductive ObjectKind
  | generation | reference | shot

structure ObjectKey where
  kind : ObjectKind
  (id contentType : String)

structure Scene where
  (id projectId : String)
  (episode sceneNumber : ℤ)
  (title environment action dialogues : String)
  version : ℤ
  deleted : Bool
  deriving DecidableEq

/-- `sceneValue`. -/
def sceneValue (scene : Scene) (key : String) : String :=
  if key = "title" then scene.title
  else if key = "environment" then scene.environment
  else if key = "action" then scene.action
  else if key = "dialogues" then scene.dialogues
  else ""

/-- Write one of the columns that `sceneValue` reads. -/
def writeScene (key value : String) (scene : Scene) : Scene :=
  if key = "title" then { scene with title := value }
  else if key = "environment" then { scene with environment := value }
  else if key = "action" then { scene with action := value }
  else if key = "dialogues" then { scene with dialogues := value }
  else scene

instance : Versioned Scene where
  key := Scene.id
  owner := Scene.projectId
  version := Scene.version
  deleted := Scene.deleted
  columns := ["title", "environment", "action", "dialogues"]
  value := sceneValue
  write := writeScene
  blank scene := { scene with title := "", environment := "", action := "", dialogues := "" }
  bump scene := { scene with version := scene.version + 1 }
  key_write c v r := by unfold writeScene; split_ifs <;> rfl
  key_bump r := rfl
  owner_write c v r := by unfold writeScene; split_ifs <;> rfl
  owner_bump r := rfl
  version_write c v r := by unfold writeScene; split_ifs <;> rfl
  version_bump r := rfl
  deleted_write c v r := by unfold writeScene; split_ifs <;> rfl
  deleted_bump r := rfl
  value_write_self c v r hc := by
    simp only [List.mem_cons, List.not_mem_nil, or_false] at hc
    rcases hc with rfl | rfl | rfl | rfl <;> rfl
  value_write_ne c d v r hd := by
    unfold writeScene
    split_ifs with h₁ h₂ h₃ h₄
    · simp [sceneValue, h₁ ▸ hd]
    · simp [sceneValue, h₂ ▸ hd]
    · simp [sceneValue, h₃ ▸ hd]
    · simp [sceneValue, h₄ ▸ hd]
    · rfl
  blank_write c v r := by unfold writeScene; split_ifs <;> rfl
  bump_write c v r := by unfold writeScene; split_ifs <;> rfl
  value_bump c r := rfl
  ext r r' hblank hvalue := by
    have h₁ : r.title = r'.title := hvalue "title" (by simp)
    have h₂ : r.environment = r'.environment := hvalue "environment" (by simp)
    have h₃ : r.action = r'.action := hvalue "action" (by simp)
    have h₄ : r.dialogues = r'.dialogues := hvalue "dialogues" (by simp)
    cases r
    cases r'
    simp_all

inductive ShotStatus
  | draft | generating | completed | failed
  deriving DecidableEq

structure Shot where
  (id projectId sceneId shotType prompt seedance aspectRatio model resultUrl : String)
  resultObjectKey : Option ObjectKey
  resultEtag : String
  status : ShotStatus
  (generationTaskId generationError : String)
  version : ℤ
  deleted : Bool

/-- `shotValue`. -/
def shotValue (shot : Shot) (key : String) : String :=
  if key = "shot_type" then shot.shotType
  else if key = "prompt" then shot.prompt
  else if key = "seedance" then shot.seedance
  else if key = "aspect_ratio" then shot.aspectRatio
  else if key = "model" then shot.model
  else ""

/-- Write one of the columns that `shotValue` reads. -/
def writeShot (key value : String) (shot : Shot) : Shot :=
  if key = "shot_type" then { shot with shotType := value }
  else if key = "prompt" then { shot with prompt := value }
  else if key = "seedance" then { shot with seedance := value }
  else if key = "aspect_ratio" then { shot with aspectRatio := value }
  else if key = "model" then { shot with model := value }
  else shot

instance : Versioned Shot where
  key := Shot.id
  owner := Shot.projectId
  version := Shot.version
  deleted := Shot.deleted
  columns := ["shot_type", "prompt", "seedance", "aspect_ratio", "model"]
  value := shotValue
  write := writeShot
  blank shot :=
    { shot with shotType := "", prompt := "", seedance := "", aspectRatio := "", model := "" }
  bump shot := { shot with version := shot.version + 1 }
  key_write c v r := by unfold writeShot; split_ifs <;> rfl
  key_bump r := rfl
  owner_write c v r := by unfold writeShot; split_ifs <;> rfl
  owner_bump r := rfl
  version_write c v r := by unfold writeShot; split_ifs <;> rfl
  version_bump r := rfl
  deleted_write c v r := by unfold writeShot; split_ifs <;> rfl
  deleted_bump r := rfl
  value_write_self c v r hc := by
    simp only [List.mem_cons, List.not_mem_nil, or_false] at hc
    rcases hc with rfl | rfl | rfl | rfl | rfl <;> rfl
  value_write_ne c d v r hd := by
    unfold writeShot
    split_ifs with h₁ h₂ h₃ h₄ h₅
    · simp [shotValue, h₁ ▸ hd]
    · simp [shotValue, h₂ ▸ hd]
    · simp [shotValue, h₃ ▸ hd]
    · simp [shotValue, h₄ ▸ hd]
    · simp [shotValue, h₅ ▸ hd]
    · rfl
  blank_write c v r := by unfold writeShot; split_ifs <;> rfl
  bump_write c v r := by unfold writeShot; split_ifs <;> rfl
  value_bump c r := rfl
  ext r r' hblank hvalue := by
    have h₁ : r.shotType = r'.shotType := hvalue "shot_type" (by simp)
    have h₂ : r.prompt = r'.prompt := hvalue "prompt" (by simp)
    have h₃ : r.seedance = r'.seedance := hvalue "seedance" (by simp)
    have h₄ : r.aspectRatio = r'.aspectRatio := hvalue "aspect_ratio" (by simp)
    have h₅ : r.model = r'.model := hvalue "model" (by simp)
    cases r
    cases r'
    simp_all

structure AgentProposedDialogue where
  (character line : String)
  deriving DecidableEq

/-- A proposed scene; `dialogues` is `none` when the JSON has no array there. -/
structure AgentSceneProposal where
  (title environment action : String)
  dialogues : Option (List AgentProposedDialogue)
  deriving DecidableEq

/-- A proposal of the agent: a batch of scenes to create, or changes to one scene or shot. -/
structure AgentProposal where
  (kind summary : String)
  scenes : List AgentSceneProposal
  (targetType targetId : String)
  expectedVersion : ℤ
  changes : List (String × String)
  deriving DecidableEq

/-- What an application records so that it can be undone. -/
structure UndoState where
  values : List (String × String)
  appliedVersion : ℤ
  createdSceneIDs : List String
  deriving DecidableEq

/-- Where a proposal stands; `none` is the status of a message without one. -/
inductive ApplyStatus
  | none | pending | applied | undone
  deriving DecidableEq

/-- Who wrote a message. -/
inductive Role
  | user
  | assistant
  deriving DecidableEq

/-- An agent message. The two JSON columns are kept as what they decode to, `none` for a text that
does not decode. -/
structure AgentMessage where
  (id projectId : String)
  userId : ℤ
  sessionId : String
  role : Role
  content : String
  createdAt : ℤ
  (skill mode : String)
  proposal : Option AgentProposal
  previousValues : Option UndoState
  applyStatus : ApplyStatus
  deriving DecidableEq

instance : Keyed AgentMessage String := ⟨AgentMessage.id⟩

/-- The tables that proposals and edits work on. -/
structure Workspace where
  projects : Table Project
  scenes : Table Scene
  shots : Table Shot
  messages : Table AgentMessage

end Mujian.Studio
