import Mujian.Studio.Proposals

/-!
# Runs of proposals and edits

A run is a sequence of applications, undos and edits, in any order and by any users. In every run
each message is applied and undone at most once, and rows only become later (`advances_run`); an
undo directly after its application gives back every scene and shot (`undo_of_apply`), and one whose
target has changed since is refused (`undo_of_changed`).
-/

namespace Mujian.Studio

open Versioned

/-- An operation of a user on the workspace. -/
inductive Op
  | apply (newID : ℕ → String) (userID : ℤ) (projectID messageID : String)
  | undo (userID : ℤ) (projectID messageID : String)
  | edit (userID : ℤ) (projectID : String) (inputs : List Scene)

section

variable (marshal : List AgentProposedDialogue → String)

/-- Run the transaction of an operation. -/
def Op.exec : Op → Workspace → Except Error Workspace
  | .apply newID userID projectID messageID, ws =>
    applyAgentMessage marshal newID ws userID projectID messageID
  | .undo userID projectID messageID, ws => undoAgentMessage ws userID projectID messageID
  | .edit userID projectID inputs, ws => updateWorkspace ws userID projectID inputs

/-- The workspace after an operation; one that fails is rolled back. -/
def step (ws : Workspace) (op : Op) : Workspace :=
  match op.exec marshal ws with
  | .ok ws' => ws'
  | .error _ => ws

def run (ws : Workspace) (ops : List Op) : Workspace := ops.foldl (step marshal) ws

/-- The number of accepted operations of a kind in a run. -/
def accepted (p : Op → Bool) : Workspace → List Op → ℕ
  | _, [] => 0
  | ws, op :: ops =>
    (if p op && (op.exec marshal ws).isOk then 1 else 0) + accepted p (step marshal ws op) ops

end

def Op.applies (messageID : String) : Op → Bool
  | .apply _ _ _ id => id == messageID
  | _ => false

def Op.undoes (messageID : String) : Op → Bool
  | .undo _ _ id => id == messageID
  | _ => false

variable {marshal : List AgentProposedDialogue → String} {ws ws' : Workspace}

theorem step_cases (marshal : List AgentProposedDialogue → String) (ws : Workspace) (op : Op) :
    op.exec marshal ws = .ok (step marshal ws op) ∨
      (op.exec marshal ws).isOk = false ∧ step marshal ws op = ws := by
  unfold step
  cases op.exec marshal ws with
  | ok ws' => exact Or.inl rfl
  | error e => exact Or.inr ⟨rfl, rfl⟩

/-! ## The status of a message -/

/-- The messages after an accepted operation: as before, or with one message moved on. -/
inductive MessagesMove (op : Op) (ws ws' : Workspace) : Prop
  | same (happlies : ∀ id, op.applies id = false) (hundoes : ∀ id, op.undoes id = false)
      (h : ws'.messages = ws.messages)
  | applied {id : String} {message : AgentMessage} (state : UndoState)
      (happlies : ∀ id', op.applies id' = (id == id')) (hundoes : ∀ id', op.undoes id' = false)
      (hfind : ws.messages.find? id = some message) (hstatus : message.applyStatus = .pending)
      (h : ws'.messages = ws.messages.modify id (·.applied state))
  | undone {id : String} {message : AgentMessage}
      (happlies : ∀ id', op.applies id' = false) (hundoes : ∀ id', op.undoes id' = (id == id'))
      (hfind : ws.messages.find? id = some message) (hstatus : message.applyStatus = .applied)
      (h : ws'.messages = ws.messages.modify id (·.undone))

variable {op : Op} {userID : ℤ} {projectID messageID id o : String} {message : AgentMessage}
  {t : Table Scene} {ids : List String} {state : UndoState} {proposal : AgentProposal}
  {newID : ℕ → String}

theorem messagesMove_of_ok (h : op.exec marshal ws = .ok ws') : MessagesMove op ws ws' := by
  cases op with
  | apply newID userID projectID messageID =>
    obtain ⟨message, proposal, state, hfound, -, -, -, hmessages⟩ := applyAgentMessage_ok h
    exact .applied state (fun _ => rfl) (fun _ => rfl) hfound.find hfound.status hmessages
  | undo userID projectID messageID =>
    obtain ⟨message, proposal, state, hfound, -, -, -, -, hmessages⟩ := undoAgentMessage_ok_iff.1 h
    exact .undone (fun _ => rfl) (fun _ => rfl) hfound.find hfound.status hmessages
  | edit userID projectID inputs =>
    obtain ⟨scenes, -, rfl⟩ := updateWorkspace_ok h
    exact .same (fun _ => rfl) (fun _ => rfl) rfl

theorem key_applied (state : UndoState) (message : AgentMessage) :
    Keyed.key (message.applied state) = Keyed.key message := rfl

theorem key_undone (message : AgentMessage) : Keyed.key message.undone = Keyed.key message := rfl

def statusOf (ws : Workspace) (messageID : String) : Option ApplyStatus :=
  (ws.messages.find? messageID).map (·.applyStatus)

theorem MessagesMove.statusOf (h : MessagesMove op ws ws') (messageID : String) :
    (op.applies messageID = true ∧ op.undoes messageID = false ∧
        statusOf ws messageID = some .pending ∧ statusOf ws' messageID = some .applied) ∨
      (op.applies messageID = false ∧ op.undoes messageID = true ∧
        statusOf ws messageID = some .applied ∧ statusOf ws' messageID = some .undone) ∨
      (op.applies messageID = false ∧ op.undoes messageID = false ∧
        statusOf ws' messageID = statusOf ws messageID) := by
  cases h with
  | same happlies hundoes h =>
    refine Or.inr (Or.inr ⟨happlies _, hundoes _, ?_⟩)
    rw [Studio.statusOf, h, Studio.statusOf]
  | @applied id message state happlies hundoes hfind hstatus h =>
    by_cases hid : messageID = id
    · subst hid
      refine Or.inl ⟨by simp [happlies], hundoes _, by simp [Studio.statusOf, hfind, hstatus], ?_⟩
      rw [Studio.statusOf, h, Table.find?_modify (key_applied state), if_pos rfl, hfind]
      rfl
    · refine Or.inr (Or.inr ⟨by simp [happlies, Ne.symm hid], hundoes _, ?_⟩)
      rw [Studio.statusOf, h, Table.find?_modify (key_applied state), if_neg hid, Studio.statusOf]
  | @undone id message happlies hundoes hfind hstatus h =>
    by_cases hid : messageID = id
    · subst hid
      refine Or.inr (Or.inl ⟨happlies _, by simp [hundoes],
        by simp [Studio.statusOf, hfind, hstatus], ?_⟩)
      rw [Studio.statusOf, h, Table.find?_modify key_undone, if_pos rfl, hfind]
      rfl
    · refine Or.inr (Or.inr ⟨happlies _, by simp [hundoes, Ne.symm hid], ?_⟩)
      rw [Studio.statusOf, h, Table.find?_modify key_undone, if_neg hid, Studio.statusOf]

/-- Operations that are accepted only while a condition holds, and end it, are accepted once. -/
theorem accepted_le_one (p : Op → Bool) (q : Workspace → Bool)
    (hstep : ∀ ws ws' op, op.exec marshal ws = .ok ws' →
      (if p op then 1 else 0) + (q ws').toNat ≤ (q ws).toNat) (ws : Workspace) (ops : List Op) :
    accepted marshal p ws ops ≤ 1 := by
  suffices hle : accepted marshal p ws ops ≤ (q ws).toNat from hle.trans (Bool.toNat_le _)
  induction ops generalizing ws with
  | nil => exact Nat.zero_le _
  | cons op ops ih =>
    rw [accepted]
    have hrest := ih (step marshal ws op)
    rcases step_cases marshal ws op with hok | ⟨hok, hstay⟩
    · have hone := hstep ws _ op hok
      rw [hok]
      simp only [Except.toBool, Bool.and_true]
      omega
    · rw [hstay] at hrest ⊢
      simp only [hok, Bool.and_false, Bool.false_eq_true, if_false]
      omega

theorem accepted_applies_le (messageID : String) (ws : Workspace) (ops : List Op) :
    accepted marshal (Op.applies messageID) ws ops ≤ 1 := by
  refine accepted_le_one _ (fun ws => statusOf ws messageID = some .pending) ?_ ws ops
  intro ws ws' op hok
  rcases (messagesMove_of_ok hok).statusOf messageID with
    ⟨hop, -, h, h'⟩ | ⟨hop, -, h, h'⟩ | ⟨hop, -, h'⟩
  · simp [hop, h, h']
  · simp [hop, h']
  · simp [hop, h']

/-- A message is undone at most once. -/
theorem accepted_undoes_le (messageID : String) (ws : Workspace) (ops : List Op) :
    accepted marshal (Op.undoes messageID) ws ops ≤ 1 := by
  refine accepted_le_one _ (fun ws => statusOf ws messageID = some .pending ∨
    statusOf ws messageID = some .applied) ?_ ws ops
  intro ws ws' op hok
  rcases (messagesMove_of_ok hok).statusOf messageID with
    ⟨-, hop, h, h'⟩ | ⟨-, hop, h, h'⟩ | ⟨-, hop, h'⟩
  · simp [hop, h, h']
  · simp [hop, h, h']
  · simp [hop, h']

/-! ## Versions -/

section

variable (proposal : AgentProposal) (ws : Workspace) (id : String)

def proposalOf (messageID : String) : Option AgentProposal :=
  (ws.messages.find? messageID).bind (·.proposal)

def AgentProposal.targetsScene : Prop :=
  proposal.kind ≠ createScenesProposalKind ∧ proposal.targetType = "scene" ∧ proposal.targetId = id

def AgentProposal.targetsShot : Prop :=
  proposal.kind ≠ createScenesProposalKind ∧ proposal.targetType ≠ "scene" ∧ proposal.targetId = id

def Op.writesScene : Op → Prop
  | .apply _ _ _ messageID => ∃ p, proposalOf ws messageID = some p ∧ p.targetsScene id
  | .undo _ _ messageID => ∃ p, proposalOf ws messageID = some p ∧ p.targetsScene id
  | .edit _ _ inputs => id ∈ inputs.map (·.id)

def Op.writesShot : Op → Prop
  | .apply _ _ _ messageID => ∃ p, proposalOf ws messageID = some p ∧ p.targetsShot id
  | .undo _ _ messageID => ∃ p, proposalOf ws messageID = some p ∧ p.targetsShot id
  | .edit _ _ _ => False

end

theorem Found.proposalOf {status : ApplyStatus}
    (h : Found ws userID projectID messageID status message) :
    proposalOf ws messageID = message.proposal := by
  rw [Studio.proposalOf, h.find, Option.bind_some]

/-- The row `id` is in both tables, with a greater version in the second. -/
def Greater {ρ : Type} [Versioned ρ] (t t' : Table ρ) (id : String) : Prop :=
  ∃ r r', t.find? id = some r ∧ t'.find? id = some r' ∧ version r < version r'

theorem greater_of_updateVersion {ρ : Type} [Versioned ρ] {t t' : Table ρ} {v : ℤ}
    {values : List (String × String)} (h : updateVersion t id o v values = some t') :
    Greater t t' id := by
  obtain ⟨r, hr, -⟩ := updateVersion_eq_some_iff.1 h
  refine ⟨r, bump (writes values r), (select_eq_some_iff.1 hr).1, ?_, ?_⟩
  · rw [find?_updateVersion h hr, if_pos rfl]
  · rw [version_bump, version_writes]
    omega

theorem Created.advances {t' : Table Scene} (h : Created t t' projectID ids) : Advances t t' := by
  intro k r hr
  refine ⟨r, ?_, Later.refl r⟩
  rw [h.kept k ?_, hr]
  intro hk
  rw [h.fresh k hk] at hr
  cases hr

theorem undoSceneBatchProposal_advances
    {scenes : Table Scene} (h : undoSceneBatchProposal ws projectID ids = .ok scenes) :
    Advances ws.scenes scenes := by
  simp only [undoSceneBatchProposal, except_bind_eq_ok_iff, Except.ok.injEq] at h
  obtain ⟨-, -, -, -, -, -, -, -, -, -, rfl⟩ := h
  intro k r hr
  rw [Table.find?_modifyWhere key_removed, hr]
  refine ⟨_, rfl, ?_⟩
  dsimp only
  split
  · rename_i hremoved
    simp only [untouched, Bool.and_eq_true, Bool.not_eq_true'] at hremoved
    exact Or.inr (Or.inr ⟨le_rfl, hremoved.2.1.2, rfl⟩)
  · exact Later.refl r

/-- An accepted operation only moves rows on, and those it writes to a greater version. -/
theorem advances_of_ok (h : op.exec marshal ws = .ok ws') :
    (Advances ws.scenes ws'.scenes ∧ Advances ws.shots ws'.shots) ∧
      (∀ id, op.writesScene ws id → Greater ws.scenes ws'.scenes id) ∧
      ∀ id, op.writesShot ws id → Greater ws.shots ws'.shots id := by
  cases op with
  | apply newID userID projectID messageID =>
    obtain ⟨message, proposal, state, hfound, hproposal, hwritten, -⟩ := applyAgentMessage_ok h
    simp only [Op.writesScene, Op.writesShot, hfound.proposalOf, hproposal, Option.some.injEq,
      exists_eq_left']
    cases hwritten with
    | batch hkind hids hscenes hshots =>
      rw [hshots]
      exact ⟨⟨hscenes.advances, Advances.refl _⟩, fun _ ht => absurd hkind ht.1,
        fun _ ht => absurd hkind ht.1⟩
    | scene hkind htype row hscenes hshots =>
      rw [hshots]
      refine ⟨⟨updateVersion_advances hscenes.update, Advances.refl _⟩, ?_,
        fun _ ht => absurd htype ht.2.1⟩
      rintro _ ⟨-, -, rfl⟩
      exact greater_of_updateVersion hscenes.update
    | shot hkind htype row hshots hscenes =>
      rw [hscenes]
      refine ⟨⟨Advances.refl _, updateVersion_advances hshots.update⟩,
        fun _ ht => absurd ht.2.1 htype, ?_⟩
      rintro _ ⟨-, -, rfl⟩
      exact greater_of_updateVersion hshots.update
  | undo userID projectID messageID =>
    obtain ⟨message, proposal, state, hfound, hproposal, -, htaken, -⟩ :=
      undoAgentMessage_ok_iff.1 h
    simp only [Op.writesScene, Op.writesShot, hfound.proposalOf, hproposal, Option.some.injEq,
      exists_eq_left']
    cases htaken with
    | batch hkind hscenes hshots =>
      rw [hshots]
      exact ⟨⟨undoSceneBatchProposal_advances hscenes, Advances.refl _⟩,
        fun _ ht => absurd hkind ht.1, fun _ ht => absurd hkind ht.1⟩
    | scene hkind htype hallowed hscenes hshots =>
      rw [hshots]
      refine ⟨⟨updateVersion_advances hscenes, Advances.refl _⟩, ?_,
        fun _ ht => absurd htype ht.2.1⟩
      rintro _ ⟨-, -, rfl⟩
      exact greater_of_updateVersion hscenes
    | shot hkind htype hallowed hshots hscenes =>
      rw [hscenes]
      refine ⟨⟨Advances.refl _, updateVersion_advances hshots⟩,
        fun _ ht => absurd ht.2.1 htype, ?_⟩
      rintro _ ⟨-, -, rfl⟩
      exact greater_of_updateVersion hshots
  | edit userID projectID inputs =>
    obtain ⟨scenes, hscenes, rfl⟩ := updateWorkspace_ok h
    obtain ⟨hadvances, hgreater⟩ := foldlM_updateScene_ok hscenes
    refine ⟨⟨hadvances, Advances.refl _⟩, ?_, fun _ ht => ht.elim⟩
    rintro id hid
    obtain ⟨input, hinput, rfl⟩ := List.mem_map.1 hid
    exact hgreater input hinput

theorem advances_run (marshal : List AgentProposedDialogue → String) (ws : Workspace)
    (ops : List Op) :
    Advances ws.scenes (run marshal ws ops).scenes ∧
      Advances ws.shots (run marshal ws ops).shots := by
  induction ops generalizing ws with
  | nil => exact ⟨Advances.refl _, Advances.refl _⟩
  | cons op ops ih =>
    obtain ⟨hscenes, hshots⟩ := ih (step marshal ws op)
    rcases step_cases marshal ws op with hok | ⟨-, hstay⟩
    · obtain ⟨⟨hscenes', hshots'⟩, -⟩ := advances_of_ok hok
      exact ⟨hscenes'.trans hscenes, hshots'.trans hshots⟩
    · rw [hstay] at hscenes hshots
      change Advances _ (run marshal (step marshal ws op) ops).scenes ∧
        Advances _ (run marshal (step marshal ws op) ops).shots
      rw [hstay]
      exact ⟨hscenes, hshots⟩

/-! ## An undo directly after its application -/

def liveScene? (ws : Workspace) (id : String) : Option Scene :=
  (ws.scenes.find? id).filter fun scene => !scene.deleted

/-- The workspace is as it was before a proposal was applied, up to two steps of the version of
the row that the proposal changes. -/
structure Restored (proposal : AgentProposal) (ws ws' : Workspace) : Prop where
  projects : ws'.projects = ws.projects
  target : ∀ id scene, proposal.targetsScene id → ws.scenes.find? id = some scene →
    ws'.scenes.find? id = some { scene with version := scene.version + 2 }
  scenes : ∀ id, ¬ proposal.targetsScene id → liveScene? ws' id = liveScene? ws id
  targetShot : ∀ id shot, proposal.targetsShot id → ws.shots.find? id = some shot →
    ws'.shots.find? id = some { shot with version := shot.version + 2 }
  shots : ∀ id, ¬ proposal.targetsShot id → ws'.shots.find? id = ws.shots.find? id

/-- What an application leaves on its message. -/
theorem find?_applied (hfound : Found ws userID projectID messageID .pending message)
    (hmessages : ws'.messages = ws.messages.modify messageID (·.applied state)) :
    ws'.messages.find? messageID = some (message.applied state) := by
  rw [hmessages, Table.find?_modify (key_applied state), if_pos rfl, hfound.find, Option.map_some]

/-- Removing the scenes of a batch that has just been created gives back the live scenes. -/
theorem Created.undo (h : Created ws.scenes ws'.scenes projectID ids)
    (hunused : ∀ shot ∈ ws'.shots.rows, shot.sceneId ∉ ids) :
    ∃ scenes, undoSceneBatchProposal ws' projectID ids = .ok scenes ∧
      ∀ k, (scenes.find? k).filter (fun scene => !scene.deleted) = liveScene? ws k := by
  refine ⟨_, (undoSceneBatchProposal_ok_iff h.nodup).2
    ⟨h.nonempty, h.created, fun shot hshot _ _ => hunused shot hshot, rfl⟩, ?_⟩
  intro k
  rw [Table.find?_modifyWhere key_removed, liveScene?]
  by_cases hk : k ∈ ids
  · obtain ⟨scene, hscene, huntouched⟩ := h.created k hk
    have hid : scene.id = k := Table.key_of_find? hscene
    rw [hscene, h.fresh k hk]
    simp [hid, hk, huntouched, Scene.removed]
  · rw [h.kept k hk]
    cases hfind : ws.scenes.find? k with
    | none => rfl
    | some scene =>
      have hid : scene.id = k := Table.key_of_find? hfind
      simp [hid, hk]

/-- Taking back what was written to one row. -/
theorem AppliedTo.undo {ρ : Type} [Versioned ρ] {t t' : Table ρ} {row : ρ}
    (h : AppliedTo t t' projectID proposal state row) :
    (∀ cv ∈ state.values, cv.1 ∈ columns ρ) ∧
      ∃ t'', updateVersion t' proposal.targetId projectID state.appliedVersion state.values =
        some t'' ∧ ∀ k, t''.find? k =
          if k = proposal.targetId then some (bump (bump row)) else t.find? k := by
  rw [h.recorded]
  refine ⟨?_, updateVersion_previous h.update h.selected h.allowed⟩
  intro cv hcv
  obtain ⟨cv', hcv', rfl⟩ := List.mem_map.1 hcv
  exact h.allowed cv' hcv'

/-- An undo directly after its application is accepted and gives everything back. -/
theorem undo_of_apply (hproposal : proposalOf ws messageID = some proposal)
    (hfresh : ∀ shot ∈ ws.shots.rows, shot.sceneId ∉ createdIDs newID proposal)
    (h : applyAgentMessage marshal newID ws userID projectID messageID = .ok ws') :
    ∃ ws'', undoAgentMessage ws' userID projectID messageID = .ok ws'' ∧
      Restored proposal ws ws'' := by
  obtain ⟨message, proposal', state, hfound, hmessage, hwritten, hprojects, hmessages⟩ :=
    applyAgentMessage_ok h
  obtain rfl : proposal' = proposal :=
    Option.some.inj ((hmessage.symm.trans hfound.proposalOf.symm).trans hproposal)
  have hfind := find?_applied hfound hmessages
  -- the undo finds the message the application has left
  have hundo : ∀ ws'', TakenBack ws' ws'' projectID proposal' state → ws''.projects = ws'.projects →
      ws''.messages = ws'.messages.modify messageID (·.undone) →
      undoAgentMessage ws' userID projectID messageID = .ok ws'' := fun ws'' htaken h₁ h₂ =>
    undoAgentMessage_ok_iff.2 ⟨_, proposal', state,
      ⟨hfind, hfound.project, hfound.user, rfl⟩, hmessage, rfl, htaken, h₁, h₂⟩
  cases hwritten with
  | batch hkind hids hscenes hshots =>
    obtain ⟨scenes, hok, hlive⟩ := hscenes.undo (hshots ▸ hfresh)
    refine ⟨{ ws' with scenes, messages := ws'.messages.modify messageID (·.undone) },
      hundo _ (.batch hkind (hids ▸ hok) rfl) rfl rfl, ?_⟩
    exact ⟨hprojects, fun _ _ ht => absurd hkind ht.1, fun id _ => hlive id,
      fun _ _ ht => absurd hkind ht.1, fun id _ => congrArg (·.find? id) hshots⟩
  | scene hkind htype row hscenes hshots =>
    obtain ⟨hallowed, scenes, hok, hrows⟩ := hscenes.undo
    refine ⟨{ ws' with scenes, messages := ws'.messages.modify messageID (·.undone) },
      hundo _ (.scene hkind htype hallowed hok rfl) rfl rfl, ?_⟩
    refine ⟨hprojects, ?_, ?_, fun _ _ ht => absurd htype ht.2.1,
      fun id _ => congrArg (·.find? id) hshots⟩
    · rintro id scene ⟨-, -, rfl⟩ hscene
      obtain rfl : row = scene :=
        Option.some.inj ((select_eq_some_iff.1 hscenes.selected).1.symm.trans hscene)
      refine (hrows _).trans ((if_pos rfl).trans (congrArg some ?_))
      change ({ row with version := row.version + 1 + 1 } : Scene) = _
      rw [add_assoc]
      rfl
    · intro id hid
      have hne : id ≠ proposal'.targetId := fun heq => hid ⟨hkind, htype, heq.symm⟩
      change (scenes.find? id).filter _ = _
      rw [hrows, if_neg hne, liveScene?]
  | shot hkind htype row hshots hscenes =>
    obtain ⟨hallowed, shots, hok, hrows⟩ := hshots.undo
    refine ⟨{ ws' with shots, messages := ws'.messages.modify messageID (·.undone) },
      hundo _ (.shot hkind htype hallowed hok rfl) rfl rfl, ?_⟩
    refine ⟨hprojects, fun _ _ ht => absurd ht.2.1 htype, ?_, ?_, ?_⟩
    · intro id _
      change (ws'.scenes.find? id).filter _ = _
      rw [hscenes, liveScene?]
    · rintro id shot ⟨-, -, rfl⟩ hshot
      obtain rfl : row = shot :=
        Option.some.inj ((select_eq_some_iff.1 hshots.selected).1.symm.trans hshot)
      refine (hrows _).trans ((if_pos rfl).trans (congrArg some ?_))
      change ({ row with version := row.version + 1 + 1 } : Shot) = _
      rw [add_assoc]
      rfl
    · intro id hid
      have hne : id ≠ proposal'.targetId := fun heq => hid ⟨hkind, htype, heq.symm⟩
      rw [hrows, if_neg hne]

/-! ## An undo after the target has changed -/

/-- What an application leaves on its message: the proposal, and until the undo the record of what
to take back. -/
def Recorded (proposal : AgentProposal) (state : UndoState) (messageID : String)
    (ws : Workspace) : Prop :=
  ∃ message, ws.messages.find? messageID = some message ∧ message.proposal = some proposal ∧
    (message.applyStatus = .undone ∨
      message.applyStatus = .applied ∧ message.previousValues = some state)

theorem recorded_step (h : Recorded proposal state messageID ws) (op : Op) :
    Recorded proposal state messageID (step marshal ws op) := by
  rcases step_cases marshal ws op with hok | ⟨-, hstay⟩
  swap
  · rw [hstay]
    exact h
  obtain ⟨message, hfind, hproposal, hstatus⟩ := h
  cases messagesMove_of_ok hok with
  | same _ _ heq => exact ⟨message, by rw [heq, hfind], hproposal, hstatus⟩
  | @applied id message' state' _ _ hfind' hpending heq =>
    -- the message is no longer pending, so another one was applied
    have hne : messageID ≠ id := by
      rintro rfl
      obtain rfl : message = message' := Option.mem_unique hfind hfind'
      rw [hpending] at hstatus
      simp at hstatus
    refine ⟨message, ?_, hproposal, hstatus⟩
    rw [heq, Table.find?_modify (key_applied state'), if_neg hne, hfind]
  | @undone id message' _ _ hfind' _ heq =>
    by_cases hid : messageID = id
    · subst hid
      refine ⟨message.undone, ?_, hproposal, Or.inl rfl⟩
      rw [heq, Table.find?_modify key_undone, if_pos rfl, hfind, Option.map_some]
    · refine ⟨message, ?_, hproposal, hstatus⟩
      rw [heq, Table.find?_modify key_undone, if_neg hid, hfind]

theorem recorded_run (h : Recorded proposal state messageID ws) (ops : List Op) :
    Recorded proposal state messageID (run marshal ws ops) := by
  induction ops generalizing ws with
  | nil => exact h
  | cons op ops ih => exact ih (recorded_step h op)

/-- The scene or shot that a proposal changes, or one of the scenes it created, differs between two
workspaces. -/
def TargetChanged (messageID : String) (ws ws' : Workspace) : Prop :=
  ∃ message proposal state, ws.messages.find? messageID = some message ∧
    message.proposal = some proposal ∧ message.previousValues = some state ∧
    ∃ id, ((proposal.targetsScene id ∨
          proposal.kind = createScenesProposalKind ∧ id ∈ state.createdSceneIDs) ∧
        ws'.scenes.find? id ≠ ws.scenes.find? id) ∨
      proposal.targetsShot id ∧ ws'.shots.find? id ≠ ws.shots.find? id

/-- A versioned statement that expects the version an application made finds the row as the
application left it. -/
theorem AppliedTo.unchanged {ρ : Type} [Versioned ρ] {t t₁ t₂ t₃ : Table ρ} {row : ρ}
    (h : AppliedTo t t₁ projectID proposal state row) (hadvances : Advances t₁ t₂)
    (hundo : updateVersion t₂ proposal.targetId o state.appliedVersion state.values = some t₃) :
    t₂.find? proposal.targetId = t₁.find? proposal.targetId := by
  have hrow : t₁.find? proposal.targetId = some (bump (writes proposal.changes row)) := by
    rw [find?_updateVersion h.update h.selected, if_pos rfl]
  obtain ⟨row₂, hrow₂, hlater⟩ := hadvances _ _ hrow
  obtain ⟨row', hselect, hversion, -⟩ := updateVersion_eq_some_iff.1 hundo
  obtain ⟨hfind, -, hlive⟩ := select_eq_some_iff.1 hselect
  obtain rfl : row₂ = row' := Option.mem_unique hrow₂ hfind
  rw [h.recorded] at hversion
  by_contra hne
  refine hlater.changed (fun heq => hne (by rw [hrow₂, hrow, heq])) ⟨hlive, ?_⟩
  rw [hversion, version_bump, version_writes]

/-- The undo of a batch finds the created scenes as the application left them. -/
theorem Created.unchanged {ws₂ : Workspace} {t₁ t₃ : Table Scene}
    (h : Created t t₁ projectID ids) (hadvances : Advances t₁ ws₂.scenes)
    (hundo : undoSceneBatchProposal ws₂ o ids = .ok t₃) (hid : id ∈ ids) :
    ws₂.scenes.find? id = t₁.find? id := by
  obtain ⟨scene, hscene, huntouched⟩ := h.created id hid
  obtain ⟨scene₂, hscene₂, hlater⟩ := hadvances _ _ hscene
  obtain ⟨scene', hscene', huntouched'⟩ :=
    ((undoSceneBatchProposal_ok_iff h.nodup).1 hundo).found id hid
  obtain rfl : scene₂ = scene' := Option.mem_unique hscene₂ hscene'
  simp only [untouched, Bool.and_eq_true, Bool.not_eq_true', beq_iff_eq] at huntouched huntouched'
  by_contra hne
  refine hlater.changed (fun heq => hne (by rw [hscene₂, hscene, heq])) ⟨huntouched'.1.2, ?_⟩
  exact huntouched'.2.trans huntouched.2.symm

/-- An undo is refused when its target has changed since the application, whatever happened in
between. -/
theorem undo_of_changed
    (h : applyAgentMessage marshal newID ws userID projectID messageID = .ok ws')
    (ops : List Op) (hchanged : TargetChanged messageID ws' (run marshal ws' ops))
    (userID' : ℤ) (projectID' : String) :
    ∃ e, undoAgentMessage (run marshal ws' ops) userID' projectID' messageID = .error e := by
  obtain ⟨message, proposal, state, hfound, hmessage, hwritten, -, hmessages⟩ :=
    applyAgentMessage_ok h
  have hfind := find?_applied hfound hmessages
  obtain ⟨message₁, proposal₁, state₁, hfind₁, hproposal₁, hstate₁, id, hdiff⟩ := hchanged
  obtain rfl : message.applied state = message₁ := Option.mem_unique hfind hfind₁
  obtain rfl : proposal = proposal₁ := Option.mem_unique hmessage hproposal₁
  obtain rfl : state = state₁ := Option.some.inj hstate₁
  have hrecorded : Recorded proposal state messageID (run marshal ws' ops) :=
    recorded_run ⟨_, hfind, hmessage, Or.inr ⟨rfl, rfl⟩⟩ ops
  obtain ⟨message₂, hfind₂, hproposal₂, hstatus⟩ := hrecorded
  obtain ⟨hscenes, hshots⟩ := advances_run marshal ws' ops
  cases hresult : undoAgentMessage (run marshal ws' ops) userID' projectID' messageID with
  | error e => exact ⟨e, rfl⟩
  | ok ws₃ =>
    exfalso
    obtain ⟨message', proposal', state', hfound', hp', hs', htaken, -⟩ :=
      undoAgentMessage_ok_iff.1 hresult
    obtain rfl : message₂ = message' := Option.mem_unique hfind₂ hfound'.find
    obtain rfl : proposal = proposal' := Option.mem_unique hproposal₂ hp'
    rw [hfound'.status] at hstatus
    obtain ⟨⟨⟩⟩ | ⟨-, hs₂⟩ := hstatus
    obtain rfl : state = state' := Option.mem_unique hs₂ hs'
    cases hwritten with
    | batch hkind hids hcreated _ =>
      obtain ⟨⟨hne, -⟩ | ⟨-, hmem⟩, hdiff⟩ | ⟨⟨hne, -⟩, -⟩ := hdiff
      · exact hne hkind
      · cases htaken with
        | batch _ hok _ =>
          rw [hids] at hok hmem
          exact hdiff (hcreated.unchanged hscenes hok hmem)
        | scene hne _ _ _ _ => exact hne hkind
        | shot hne _ _ _ _ => exact hne hkind
      · exact hne hkind
    | scene hkind htype row happlied _ =>
      obtain ⟨⟨-, -, rfl⟩ | ⟨heq, -⟩, hdiff⟩ | ⟨⟨-, hne, -⟩, -⟩ := hdiff
      · cases htaken with
        | batch heq _ _ => exact hkind heq
        | scene _ _ _ hok _ => exact hdiff (happlied.unchanged hscenes hok)
        | shot _ hne _ _ _ => exact hne htype
      · exact hkind heq
      · exact hne htype
    | shot hkind htype row happlied _ =>
      obtain ⟨⟨-, heq, -⟩ | ⟨heq, -⟩, -⟩ | ⟨⟨-, -, rfl⟩, hdiff⟩ := hdiff
      · exact htype heq
      · exact hkind heq
      · cases htaken with
        | batch heq _ _ => exact hkind heq
        | scene _ heq _ _ _ => exact htype heq
        | shot _ _ _ hok _ => exact hdiff (happlied.unchanged hshots hok)

/-! ## Summary -/

/-- Each message is applied at most once and undone at most once; an undo directly after its
application gives every scene and shot back; no operation lowers a version, and an accepted one
moves the rows it writes to a greater version; and an undo whose target has changed since the
application is refused and changes nothing. -/
theorem proposals_applied_and_undone (marshal : List AgentProposedDialogue → String) :
    (∀ ws ops messageID, accepted marshal (Op.applies messageID) ws ops ≤ 1 ∧
      accepted marshal (Op.undoes messageID) ws ops ≤ 1) ∧
    (∀ ws ws' newID userID projectID messageID proposal, proposalOf ws messageID = some proposal →
      (∀ shot ∈ ws.shots.rows, shot.sceneId ∉ createdIDs newID proposal) →
      applyAgentMessage marshal newID ws userID projectID messageID = .ok ws' →
      ∃ ws'', undoAgentMessage ws' userID projectID messageID = .ok ws'' ∧
        Restored proposal ws ws'') ∧
    (∀ ws ws' op, Op.exec marshal op ws = .ok ws' →
      (Advances ws.scenes ws'.scenes ∧ Advances ws.shots ws'.shots) ∧
      (∀ id, op.writesScene ws id → Greater ws.scenes ws'.scenes id) ∧
      ∀ id, op.writesShot ws id → Greater ws.shots ws'.shots id) ∧
    (∀ ws ops, Advances ws.scenes (run marshal ws ops).scenes ∧
      Advances ws.shots (run marshal ws ops).shots) ∧
    ∀ ws ws' newID userID projectID messageID ops,
      applyAgentMessage marshal newID ws userID projectID messageID = .ok ws' →
      TargetChanged messageID ws' (run marshal ws' ops) → ∀ userID' projectID',
      (∃ e, undoAgentMessage (run marshal ws' ops) userID' projectID' messageID = .error e) ∧
        step marshal (run marshal ws' ops) (.undo userID' projectID' messageID) =
          run marshal ws' ops := by
  refine ⟨fun ws ops messageID => ⟨accepted_applies_le messageID ws ops,
    accepted_undoes_le messageID ws ops⟩, ?_, fun ws ws' op h => advances_of_ok h,
    fun ws ops => advances_run marshal ws ops, ?_⟩
  · intro ws ws' newID userID projectID messageID proposal hproposal hfresh h
    exact undo_of_apply hproposal hfresh h
  · intro ws ws' newID userID projectID messageID ops h hchanged userID' projectID'
    obtain ⟨e, he⟩ := undo_of_changed h ops hchanged userID' projectID'
    refine ⟨⟨e, he⟩, ?_⟩
    change (match undoAgentMessage (run marshal ws' ops) userID' projectID' messageID with
      | .ok ws'' => ws''
      | .error _ => run marshal ws' ops) = _
    rw [he]

def sampleProposal : AgentProposal :=
  { kind := "", summary := "", scenes := [], targetType := "scene", targetId := "scene"
    expectedVersion := 1, changes := [("title", "Dawn")] }

def sampleMessage : AgentMessage where
  id := "message"
  projectId := "project"
  userId := 7
  sessionId := "session"
  role := .assistant
  content := "A better title."
  createdAt := 1
  skill := "短剧编剧"
  mode := "consult"
  proposal := some sampleProposal
  previousValues := none
  applyStatus := .pending

def sampleScene : Scene := ⟨"scene", "project", 1, 1, "Night", "street", "walks", "[]", 1, false⟩

def sampleWorkspace : Workspace where
  projects := Table.empty.add ⟨"project", 7, 1, false⟩
  scenes := Table.empty.add sampleScene
  shots := Table.empty
  messages := Table.empty.add sampleMessage

def sampleApply : Op := .apply (fun _ => "new") 7 "project" "message"

def sampleEdit : Op := .edit 7 "project" [{ sampleScene with version := 2, title := "Noon" }]

theorem exec_of_isOk (h : (op.exec marshal ws).isOk = true) :
    op.exec marshal ws = .ok (step marshal ws op) := by
  rcases step_cases marshal ws op with hok | ⟨hok, -⟩
  · exact hok
  · rw [hok] at h
    cases h

/-- The only message proposes a title: it is applied, its undo gives the scene back, and after an
edit of the scene the undo is refused. -/
theorem proposals_applied_and_undone_sample :
    (∃ ws', undoAgentMessage (step (fun _ => "[]") sampleWorkspace sampleApply) 7 "project"
        "message" = .ok ws' ∧
      ws'.scenes.find? "scene" = some { sampleScene with version := 3 }) ∧
    ∃ e, undoAgentMessage (run (fun _ => "[]") sampleWorkspace [sampleApply, sampleEdit]) 7
      "project" "message" = .error e := by
  have happly : sampleApply.exec (fun _ => "[]") sampleWorkspace = .ok _ :=
    exec_of_isOk (by decide +kernel)
  obtain ⟨-, hundo, -, -, hstale⟩ := proposals_applied_and_undone fun _ => "[]"
  constructor
  · obtain ⟨ws', hok, hrestored⟩ := hundo sampleWorkspace _ (fun _ => "new") 7 "project" "message"
      sampleProposal (by decide +kernel) (by decide +kernel) happly
    exact ⟨ws', hok, hrestored.target "scene" sampleScene ⟨by decide, rfl, rfl⟩ (by decide +kernel)⟩
  · refine (hstale sampleWorkspace _ _ _ _ _ [sampleEdit] happly ?_ 7 "project").1
    exact ⟨sampleMessage.applied ⟨[("title", "Night")], 2, []⟩, _, _, by decide +kernel, rfl, rfl,
      "scene", Or.inl ⟨Or.inl ⟨by decide, rfl, rfl⟩, by decide +kernel⟩⟩

variable {inputs : List Scene}

/-- Every input of an accepted edit was checked against a later state of the scenes. -/
theorem exists_select_of_foldlM {t t' : Table Scene} {input : Scene}
    (h : inputs.foldlM (updateScene projectID) t = .ok t') (hinput : input ∈ inputs) :
    ∃ t₁ row, Advances t t₁ ∧ select t₁ input.id projectID = some row ∧
      version row = input.version := by
  induction inputs generalizing t with
  | nil => cases hinput
  | cons first inputs ih =>
    simp only [List.foldlM_cons, except_bind_eq_ok_iff, updateScene, require_eq_ok] at h
    obtain ⟨t₂, ⟨-, -, hupdate⟩, hrest⟩ := h
    rcases List.mem_cons.1 hinput with rfl | hinput
    · obtain ⟨row, hrow, hversion, -⟩ := updateVersion_eq_some_iff.1 hupdate
      exact ⟨t, row, Advances.refl t, hrow, hversion⟩
    · obtain ⟨t₁, row, hadvances, hrow⟩ := ih hrest hinput
      exact ⟨t₁, row, (updateVersion_advances hupdate).trans hadvances, hrow⟩

/-- **No edit overwrites a change that it has not seen.** If a scene has changed in a run since the
version that an edit expects of it, the edit is refused as a whole. -/
theorem stale_edit_refused (marshal : List AgentProposedDialogue → String) (ws : Workspace)
    (ops : List Op) (userID : ℤ) (projectID : String) (inputs : List Scene) :
    (∀ input ∈ inputs, ∀ scene, ws.scenes.find? input.id = some scene →
        scene.version = input.version → (run marshal ws ops).scenes.find? input.id = some scene) ∨
      step marshal (run marshal ws ops) (.edit userID projectID inputs) = run marshal ws ops := by
  rcases step_cases marshal (run marshal ws ops) (.edit userID projectID inputs) with
    hok | ⟨-, hstay⟩
  · refine .inl fun input hinput scene hscene hversion => ?_
    obtain ⟨scenes, hscenes, -⟩ := updateWorkspace_ok hok
    obtain ⟨t₁, row, hadvances, hrow, hexpected⟩ := exists_select_of_foldlM hscenes hinput
    obtain ⟨hfind, -, hlive⟩ := select_eq_some_iff.1 hrow
    obtain ⟨now, hnow, hlater⟩ := (advances_run marshal ws ops).1 _ _ hscene
    obtain ⟨row', hrow', hlater'⟩ := hadvances _ _ hnow
    obtain rfl := Option.some.inj (hfind.symm.trans hrow')
    -- the version is the same at both ends, so the scene was neither changed nor removed
    have hsame : version row = version scene := hexpected.trans hversion.symm
    have hle := hlater'.version_le
    rcases hlater with rfl | hgreater | ⟨hge, -, hremoved⟩
    · exact hnow
    · omega
    · rcases hlater' with rfl | hgreater | ⟨-, hkept, -⟩
      · exact absurd (hlive.symm.trans hremoved) nofun
      · omega
      · exact absurd (hkept.symm.trans hremoved) nofun
  · exact .inr hstay

end Mujian.Studio
