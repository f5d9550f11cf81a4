import Mujian.Tasks.VideoBilling

/-!
# Unknown ids in the answer of a Suno provider

`updateSunoTasks` looks up every entry of an answer in the map of the unfinished tasks, but not
whether there is a task, nor whether it was asked for. `harmless_iff` says which answers an update
survives without changing other tasks.
-/

namespace Mujian.Tasks

open Protocols (Prog Protocol)
open Protocols.Prog

/-- The protocol of an update that gets this answer, never breaks off, and changes only tasks that
were asked for. -/
def askedFor (m₀ : TaskMap) (taskIds : List String) (items : List SunoDataResponse) :
    Protocol TaskOp.Result Unit where
  start := ()
  allowed _ o :=
    match o with
    | .updateWithStatus task _ | .update task | .taskAdjustFunding task _
    | .taskAdjustTokenQuota task _ => task.getUpstreamTaskID ∈ taskIds
    | .taskBulkUpdateByID ids _ => ids ⊆ m₀.ids taskIds
    | _ => True
  possible _ o r :=
    match o, r with
    | .fetchSuno _ _, r => ∀ l ∈ r, l = items
    | _, _ => True
  next _ _ _ := ()
  final _ := False

def Harmless (m₀ : TaskMap) (channelId : ℤ) (taskIds : List String)
    (items : List SunoDataResponse) : Prop :=
  (updateSunoTasks channelId taskIds m₀).Follows (askedFor m₀ taskIds items) (fun _ _ => True) ()

/-- The entry is about a task in memory, and one that was asked for if it brings anything new. -/
def Expected (m₀ : TaskMap) (taskIds : List String) (item : SunoDataResponse) : Prop :=
  ∃ task, m₀ item.taskID = some task ∧ (item.taskID ∈ taskIds ∨ taskNeedsUpdate task item = false)

/-- The tasks in memory after some entries: only those that were asked for have changed. -/
structure Reached (m₀ : TaskMap) (taskIds : List String) (m : TaskMap) : Prop where
  ids : ∀ v, (m v).map Task.getUpstreamTaskID = (m₀ v).map Task.getUpstreamTaskID
  other : ∀ v ∉ taskIds, m v = m₀ v

section

variable {m₀ m : TaskMap} {taskIds : List String} {items rest : List SunoDataResponse} {task : Task}
  {item : SunoDataResponse}

theorem follows_refund (h : task.getUpstreamTaskID ∈ taskIds) {Q : Unit → Unit → Prop}
    (hQ : Q () ()) : (refundTaskQuota task).Follows (askedFor m₀ taskIds items) Q () := by
  unfold refundTaskQuota
  split
  · exact hQ
  refine ⟨h, fun ok _ => ?_⟩
  cases ok with
  | false => exact hQ
  | true =>
    change (taskAdjustTokenQuota task (-task.quota)).Follows _ _ _
    unfold taskAdjustTokenQuota
    split
    · exact hQ
    · exact ⟨h, fun _ _ => hQ⟩

/-- An entry is applied to the task that the map holds under its id. -/
theorem follows_updateSunoTask_iff {Q : TaskMap → Unit → Prop} :
    (updateSunoTask m item).Follows (askedFor m₀ taskIds items) Q () ↔
      ∃ task, m item.taskID = some task ∧
        if taskNeedsUpdate task item then task.getUpstreamTaskID ∈ taskIds ∧
          Q (Function.update m item.taskID (some (task.updated item))) ()
        else Q m () := by
  unfold updateSunoTask
  cases m item.taskID with
  | none => exact iff_of_false id (by simp)
  | some task =>
    simp only [Option.some.injEq, exists_eq_left']
    split
    · refine ⟨fun hfollows => ?_, fun hasked => (follows_bind _ _).2 ?_⟩
      · unfold refundSunoTask refundTaskQuota at hfollows
        split at hfollows
        · split at hfollows
          · exact ⟨hfollows.1, hfollows.2 true trivial⟩
          · exact ⟨hfollows.1, (hfollows.2 false trivial).2 true trivial⟩
        · exact ⟨hfollows.1, hfollows.2 true trivial⟩
      · have hsaved : (update (task.updated item) >>= fun _ =>
            pure (Function.update m item.taskID (some (task.updated item)))).Follows
              (askedFor m₀ taskIds items) Q () := ⟨hasked.1, fun _ _ => hasked.2⟩
        unfold refundSunoTask
        split
        · have hupdated : (task.updated item).getUpstreamTaskID ∈ taskIds := hasked.1
          exact follows_refund hupdated hsaved
        · exact hsaved
    · exact Iff.rfl

theorem Reached.put (h : Reached m₀ taskIds m) (hm : m item.taskID = some task)
    (hasked : item.taskID ∈ taskIds) :
    Reached m₀ taskIds (Function.update m item.taskID (some (task.updated item))) := by
  refine ⟨fun v => ?_, fun v hv => ?_⟩
  all_goals by_cases heq : v = item.taskID
  · rw [heq, Function.update_self, ← h.ids, hm]
    rfl
  · rw [Function.update_of_ne heq, h.ids]
  · exact absurd (heq ▸ hasked) hv
  · rw [Function.update_of_ne heq, h.other v hv]

theorem follows_items_iff (hkey : ∀ v task, m₀ v = some task → task.getUpstreamTaskID = v)
    (h : Reached m₀ taskIds m) :
    (rest.foldlM updateSunoTask m).Follows (askedFor m₀ taskIds items) (fun _ _ => True) () ↔
      ∀ item ∈ rest, Expected m₀ taskIds item := by
  induction rest generalizing m with
  | nil => exact iff_of_true trivial fun _ h => absurd h List.not_mem_nil
  | cons item rest ih =>
    rw [List.foldlM_cons, follows_bind, follows_updateSunoTask_iff, List.forall_mem_cons]
    have hids := h.ids item.taskID
    cases hm : m item.taskID with
    | none =>
      rw [hm] at hids
      simp [Expected, Option.map_eq_none_iff.1 hids.symm]
    | some task =>
      rw [hm] at hids
      obtain ⟨task₀, hm₀, hid⟩ := Option.map_eq_some_iff.1 hids.symm
      rw [hkey _ _ hm₀] at hid
      have hexpected : Expected m₀ taskIds item ↔
          item.taskID ∈ taskIds ∨ taskNeedsUpdate task item = false := by
        by_cases hin : item.taskID ∈ taskIds
        · exact iff_of_true ⟨task₀, hm₀, .inl hin⟩ (.inl hin)
        · simp [Expected, ← h.other _ hin, hm]
      rw [hexpected]
      simp only [Option.some.injEq, exists_eq_left']
      split
      next hneeds =>
        simp only [hneeds, Bool.true_eq_false, or_false, ← hid]
        exact and_congr_right fun hin => ih (h.put hm hin)
      next hneeds =>
        rw [ih h]
        simp [hneeds]

/-- **An update survives an answer and changes only tasks that were asked for exactly if every
entry is expected, or nothing was asked.** -/
theorem harmless_iff (tasks : List Task) (channelId : ℤ) (taskIds : List String)
    (items : List SunoDataResponse) :
    Harmless (taskM tasks) channelId taskIds items ↔
      taskIds = [] ∨ ∀ item ∈ items, Expected (taskM tasks) taskIds item := by
  unfold Harmless updateSunoTasks withChannel
  split
  · exact iff_of_true trivial (.inl ‹_›)
  next hasked =>
    rw [or_iff_right hasked, ← follows_items_iff (fun _ _ h => (taskM_eq_some h).2)
      ⟨fun _ => rfl, fun _ _ => rfl⟩]
    refine ⟨fun h => ((h.2 true trivial).2 true trivial).2 (some items) ?_, fun h => ?_⟩
    · rintro _ ⟨⟩
      rfl
    refine ⟨trivial, fun found _ => ?_⟩
    cases found with
    | false => exact ⟨List.Subset.refl _, fun _ _ => trivial⟩
    | true =>
      refine ⟨trivial, fun adaptor _ => ?_⟩
      cases adaptor with
      | false => trivial
      | true =>
        refine ⟨trivial, fun answer hanswer => ?_⟩
        cases answer with
        | none => trivial
        | some l =>
          obtain rfl := hanswer l rfl
          exact h

end

/-- An id that is in no map is dereferenced. -/
theorem not_harmless_of_unknown_id :
    ¬Harmless (taskM [sampleVideo 1 "s1"]) 3 ["s1"] [⟨"s2", "SUCCESS", "", 0, 0, 0, ""⟩] := by
  intro h
  exact ((h.2 true trivial).2 true trivial).2 (some _) (by rintro _ ⟨⟩; rfl)

end Mujian.Tasks
