import Mujian.Tasks.Discipline
import Mathlib.Data.List.Induction

/-!
# A pass keeps the discipline

`follows_pollOnce` says that a pass of the polling loop keeps the discipline towards a task, if no
other task that is read with it has the same platform and upstream id, and if an answer of a Suno
provider mentions the task at most once. The invariant of its loops (`Holds`) is that the task in
memory is untouched as long as its id is still to come.
-/

namespace Mujian.Tasks

open Protocols (Prog)
open Protocols.Prog

theorem taskM_append (tasks : List Task) (task : Task) :
    taskM (tasks ++ [task]) = Function.update (taskM tasks) task.getUpstreamTaskID (some task) := by
  rw [taskM, List.foldl_append]
  rfl

variable {tasks : List Task}

theorem taskM_eq_some {v : String} {task : Task}
    (h : taskM tasks v = some task) : task ∈ tasks ∧ task.getUpstreamTaskID = v := by
  induction tasks using List.reverseRecOn with
  | nil => cases h
  | append_singleton tasks a ih =>
    rw [taskM_append] at h
    by_cases hv : v = a.getUpstreamTaskID
    · rw [hv, Function.update_self, Option.some.injEq] at h
      exact ⟨by simp [h], by rw [hv, h]⟩
    · rw [Function.update_of_ne hv] at h
      exact ⟨List.mem_append_left _ (ih h).1, (ih h).2⟩

/-- The memory of a pass over a platform, entered in the stage `m₀`: the task is untouched as long
as it is still to come, and by a pass over another platform. -/
structure Holds (ref : TaskRef) (platform : TaskPlatform) (m₀ : Stage) (todo : Prop)
    (mem : TaskMap) (m : Stage) : Prop where
  calm : m.Calm
  here : ∀ v task, mem v = some task → task.platform = platform
  known : ∀ v task, mem v = some task → task.id = ref.id → v = ref.upstreamID ∧ ref.Is task
  untouched : todo → ∀ task, mem ref.upstreamID = some task → task.id = ref.id →
    Untouched ref m task
  away : platform ≠ ref.platform → m = m₀

namespace Holds

variable {ref : TaskRef} {platform : TaskPlatform} {m₀ m m' : Stage} {todo todo' : Prop}
  {mem : TaskMap} {v : String} {task task' : Task}

section

variable (h : Holds ref platform m₀ todo mem m)
include h

theorem platform_eq (hv : mem v = some task) (hid : task.id = ref.id) : platform = ref.platform :=
  (h.here v task hv).symm.trans (h.known v task hv hid).2.2.2.1

theorem imp (hto : platform = ref.platform → todo' → todo) : Holds ref platform m₀ todo' mem m where
  calm := h.calm
  here := h.here
  known := h.known
  untouched htodo task hv hid := h.untouched (hto (h.platform_eq hv hid) htodo) task hv hid
  away := h.away

/-- The task is untouched when its turn has come. -/
theorem own (hto : platform = ref.platform → v = ref.upstreamID → todo) (hv : mem v = some task)
    (hid : task.id = ref.id) : Untouched ref m task := by
  have hkey := (h.known v task hv hid).1
  exact h.untouched (hto (h.platform_eq hv hid) hkey) task (hkey ▸ hv) hid

/-- A task has been dealt with, and its turn does not come again. -/
theorem put (hv : mem v = some task)
    (hsame : task'.Same task) (hcalm : m'.Calm) (hne : task.id ≠ ref.id → m' = m)
    (honce : platform = ref.platform → v = ref.upstreamID → ¬todo) :
    Holds ref platform m₀ todo (Function.update mem v (some task')) m' where
  calm := hcalm
  here w x hw := by
    by_cases hwv : w = v
    · rw [hwv, Function.update_self, Option.some.injEq] at hw
      rw [← hw, hsame.platform]
      exact h.here v task hv
    · rw [Function.update_of_ne hwv] at hw
      exact h.here w x hw
  known w x hw hid := by
    by_cases hwv : w = v
    · rw [hwv, Function.update_self, Option.some.injEq] at hw
      subst hw
      obtain ⟨hkey, his⟩ := h.known v task hv (hsame.id.symm.trans hid)
      exact ⟨hwv.trans hkey, his.of_same hsame⟩
    · rw [Function.update_of_ne hwv] at hw
      exact h.known w x hw hid
  untouched htodo x hx hid := by
    by_cases hwv : ref.upstreamID = v
    · rw [hwv, Function.update_self, Option.some.injEq] at hx
      subst hx
      have hid' := hsame.id.symm.trans hid
      exact absurd htodo (honce (h.platform_eq hv hid') hwv.symm)
    · rw [Function.update_of_ne hwv] at hx
      have hm : m' = m := hne fun hid' => hwv (h.known v task hv hid').1.symm
      rw [hm]
      exact h.untouched htodo x hx hid
  away hplatform := by
    rw [hne fun hid => hplatform (h.platform_eq hv hid)]
    exact h.away hplatform

end

end Holds

section

variable {ref : TaskRef} {asks : Demands} {platform : TaskPlatform} {m₀ m : Stage} {mem : TaskMap}
  {todo : Prop}

variable {v : String} {channelId : ℤ} {taskIds later : List String}

theorem follows_updateVideoSingleTask (hplatform : platform ≠ .suno)
    (h : Holds ref platform m₀ (v = ref.upstreamID ∨ todo) mem m)
    (honce : platform = ref.platform → v = ref.upstreamID → ¬todo) (settings : Settings) :
    (updateVideoSingleTask settings mem v).Follows (discipline ref asks)
      (Holds ref platform m₀ todo) m := by
  have hrest : Holds ref platform m₀ todo mem m := h.imp fun _ => .inr
  unfold updateVideoSingleTask
  cases hv : mem v with
  | none => exact hrest
  | some task =>
    rw [follows_bind]
    refine (follows_perform _).2 ⟨h.calm, fun answer _ => ?_⟩
    cases answer with
    | failed => exact hrest
    | parsed info body error =>
      rw [follows_bind]
      refine (follows_perform _).2 ⟨h.calm, fun now _ => ?_⟩
      cases resolveInfo info error with
      | none => exact hrest.put hv ⟨rfl, rfl, rfl, rfl⟩ h.calm (fun _ => rfl) honce
      | some info =>
        dsimp only
        cases hpolled : Task.polled { task with data := body } settings now info with
        | none => exact hrest.put hv ⟨rfl, rfl, rfl, rfl⟩ h.calm (fun _ => rfl) honce
        | some task' =>
          obtain ⟨hread, hquota⟩ := Task.same_polled hpolled
          have hsame : task'.Same task :=
            ⟨hread.id, hread.upstreamID, hread.platform, hread.channelId⟩
          rw [follows_bind]
          refine (follows_finishVideoTask h.calm (fun hid => ?_) info).mono fun task'' m' hs => ?_
          · have hid' : task.id = ref.id := hsame.id.symm.trans hid
            obtain ⟨hfresh, his, hq, hstatus⟩ := h.own (fun _ => .inl) hv hid'
            refine ⟨hfresh, his.of_same hsame, hquota.trans hq, hstatus, ?_⟩
            exact h.platform_eq hv hid' ▸ hplatform
          · refine hrest.put hv (hs.2.2.trans hsame) hs.1 (fun hid => hs.2.1 ?_) honce
            rwa [hsame.id]

/-- The number of times that the task's upstream id is still to come. -/
theorem count_cons_le {u : String} {l : List String} (h : (v :: l).count u ≤ 1) :
    (v = u → u ∉ l) ∧ l.count u ≤ 1 := by
  rw [List.count_cons] at h
  constructor
  · intro hv hmem
    have hpos := List.count_pos_iff.2 hmem
    rw [if_pos (beq_iff_eq.2 hv)] at h
    omega
  · omega

/-- The part that the updates of Suno and of video tasks have in common. -/
theorem follows_withChannel {failReason : String} {poll : TaskProg TaskMap}
    (h : Holds ref platform m₀ (ref.upstreamID ∈ taskIds ++ later) mem m)
    (hchannel : platform = ref.platform → ref.upstreamID ∈ taskIds → channelId = ref.channelId)
    (hpoll : poll.Follows (discipline ref asks)
      (Holds ref platform m₀ (ref.upstreamID ∈ later)) m) :
    (withChannel platform channelId taskIds failReason mem poll).Follows (discipline ref asks)
      (Holds ref platform m₀ (ref.upstreamID ∈ later)) m := by
  have hlater : Holds ref platform m₀ (ref.upstreamID ∈ later) mem m :=
    h.imp fun _ => List.mem_append_right _
  unfold withChannel
  split
  · exact hlater
  refine ⟨h.calm, fun found hfound => ?_⟩
  cases found with
  | false =>
    refine (follows_bind _ _).2 ((follows_perform _).2
      ⟨⟨h.calm, fun hs hmem => ?_⟩, fun _ _ => hlater⟩)
    -- the bulk update for a missing channel does not concern a task with another channel
    obtain ⟨task, htask, hid⟩ := List.mem_map.1 hmem
    obtain ⟨v, hv, hmemv⟩ := List.mem_filterMap.1 htask
    have hkey := (h.known v task hmemv hid).1
    cases hfound hs (hchannel (h.platform_eq hmemv hid) (hkey ▸ hv))
  | true =>
    refine ⟨h.calm, fun adaptor _ => ?_⟩
    cases adaptor with
    | false => exact hlater
    | true => exact hpoll

theorem follows_updateVideoTasks (hplatform : platform ≠ .suno)
    (h : Holds ref platform m₀ (ref.upstreamID ∈ taskIds ++ later) mem m)
    (honce : platform = ref.platform → (taskIds ++ later).count ref.upstreamID ≤ 1)
    (hchannel : platform = ref.platform → ref.upstreamID ∈ taskIds → channelId = ref.channelId)
    (settings : Settings) :
    (updateVideoTasks settings platform channelId taskIds mem).Follows (discipline ref asks)
      (Holds ref platform m₀ (ref.upstreamID ∈ later)) m := by
  refine follows_withChannel h hchannel ?_
  refine (follows_foldlM (I := fun l mem m =>
    Holds ref platform m₀ (ref.upstreamID ∈ l ++ later) mem m ∧
      (platform = ref.platform → (l ++ later).count ref.upstreamID ≤ 1))
    (fun v l mem m hI => ?_) ⟨h, honce⟩).mono fun _ _ hI => hI.1
  have hI' : Holds ref platform m₀ (v = ref.upstreamID ∨ ref.upstreamID ∈ l ++ later) mem m :=
    hI.1.imp fun _ hor => List.mem_cons.2 (hor.imp_left Eq.symm)
  refine (follows_updateVideoSingleTask hplatform hI' (fun hp hv => ?_) settings).mono
    fun mem' m' hH => ⟨hH, fun hp => (count_cons_le (hI.2 hp)).2⟩
  exact (count_cons_le (hI.2 hp)).1 hv

/-- The number of times that an answer mentions the task. -/
theorem count_items (u : String) (items : List SunoDataResponse) :
    (items.map SunoDataResponse.taskID).count u = items.countP fun item => item.taskID = u := by
  rw [List.count_eq_countP, List.countP_map]
  refine List.countP_congr fun item _ => ?_
  simp only [Function.comp_apply, beq_iff_eq, decide_eq_true_eq]

/-- One entry of an answer. -/
theorem follows_updateSunoTask {item : SunoDataResponse}
    (hexplained : item.taskID = ref.upstreamID → asks.reasons → item.failReason ≠ "" →
      item.status = "FAILURE")
    (h : Holds ref .suno m₀ (item.taskID = ref.upstreamID ∨ todo) mem m)
    (honce : .suno = ref.platform → item.taskID = ref.upstreamID → ¬todo) :
    (updateSunoTask mem item).Follows (discipline ref asks) (Holds ref .suno m₀ todo) m := by
  have hrest : Holds ref .suno m₀ todo mem m := h.imp fun _ => .inr
  unfold updateSunoTask
  cases hv : mem item.taskID with
  | none => exact h.calm
  | some task =>
    dsimp only
    split
    · rw [follows_bind]
      have hown : task.id = ref.id → Untouched ref m task ∧ ref.platform = .suno := fun hid =>
        ⟨h.own (fun _ => .inl) hv hid, (h.platform_eq hv hid).symm⟩
      have hsave : (refundSunoTask task item >>= fun _ => update (task.updated item)).Follows
          (discipline ref asks) (fun _ m' => Holds ref .suno m₀ todo
            (Function.update mem item.taskID (some (task.updated item))) m') m :=
        follows_saveSunoTask h.calm hown (fun hid => hexplained (h.known _ _ hv hid).1)
          fun _ m' hcalm hne => hrest.put hv ⟨rfl, rfl, rfl, rfl⟩ hcalm hne honce
      exact ((follows_bind _ _).1 hsave).mono fun _ m' h' => (follows_bind _ _).2 h'
    · exact hrest

theorem follows_updateSunoTasks (h : Holds ref .suno m₀ (ref.upstreamID ∈ taskIds ++ later) mem m)
    (honce : .suno = ref.platform → (taskIds ++ later).count ref.upstreamID ≤ 1)
    (hchannel : .suno = ref.platform → ref.upstreamID ∈ taskIds → channelId = ref.channelId) :
    (updateSunoTasks channelId taskIds mem).Follows (discipline ref asks)
      (Holds ref .suno m₀ (ref.upstreamID ∈ later)) m := by
  refine follows_withChannel h hchannel ?_
  refine ⟨h.calm, fun answer hanswer => ?_⟩
  cases answer with
  | none => exact h.imp fun _ => List.mem_append_right _
  | some items =>
    obtain ⟨hmentions, hexplained⟩ := hanswer items rfl
    -- the answer mentions the task only if its id was asked for
    have hstart : Holds ref .suno m₀
        (ref.upstreamID ∈ items.map SunoDataResponse.taskID ++ later) mem m := by
      refine h.imp fun hp hmem => ?_
      rcases List.mem_append.1 hmem with hmem | hmem
      · refine List.mem_append_left _ (by_contra fun hnot => ?_)
        have hcount := hmentions hp.symm
        rw [if_neg hnot, ← count_items] at hcount
        exact absurd (List.count_pos_iff.2 hmem) (by omega)
      · exact List.mem_append_right _ hmem
    have hcount : .suno = ref.platform →
        (items.map SunoDataResponse.taskID ++ later).count ref.upstreamID ≤ 1 := by
      intro hp
      have hasked := honce hp
      have hitems := hmentions hp.symm
      rw [← count_items] at hitems
      rw [List.count_append] at hasked ⊢
      split at hitems
      · rename_i hmem
        have := List.count_pos_iff.2 hmem
        omega
      · omega
    refine (follows_foldlM (I := fun l mem m =>
      Holds ref .suno m₀ (ref.upstreamID ∈ l.map SunoDataResponse.taskID ++ later) mem m ∧
        (.suno = ref.platform →
          (l.map SunoDataResponse.taskID ++ later).count ref.upstreamID ≤ 1) ∧
        (asks.reasons → Explained ref l))
      (fun item l mem m hI => ?_) ⟨hstart, hcount, hexplained⟩).mono fun _ _ hI => hI.1
    have hI' : Holds ref .suno m₀ (item.taskID = ref.upstreamID ∨
        ref.upstreamID ∈ l.map SunoDataResponse.taskID ++ later) mem m :=
      hI.1.imp fun _ hor => List.mem_cons.2 (hor.imp_left Eq.symm)
    refine (follows_updateSunoTask (fun hv hreasons => ?_) hI' fun hp hv => ?_).mono
      fun mem' m' hH => ⟨hH, fun hp => (count_cons_le (hI.2.1 hp)).2, fun hreasons x hx =>
        hI.2.2 hreasons x (List.mem_cons_of_mem _ hx)⟩
    · exact hI.2.2 hreasons item List.mem_cons_self hv
    · exact (count_cons_le (hI.2.1 hp)).1 hv

/-- The ids that are still to come. -/
def idsOf (channels : List (ℤ × List String)) : List String := channels.flatMap Prod.snd

theorem follows_dispatchPlatformUpdate {channels : List (ℤ × List String)}
    (h : Holds ref platform m₀ (ref.upstreamID ∈ idsOf channels) mem m)
    (honce : platform = ref.platform → (idsOf channels).count ref.upstreamID ≤ 1)
    (hchannel : ∀ c ∈ channels, platform = ref.platform → ref.upstreamID ∈ c.2 →
      c.1 = ref.channelId) (settings : Settings) :
    (dispatchPlatformUpdate settings platform channels mem).Follows (discipline ref asks)
      (fun _ m' => m'.Calm ∧ (platform ≠ ref.platform → m' = m₀)) m := by
  have hloop : ∀ f : TaskMap → ℤ × List String → TaskProg TaskMap,
      (∀ c cs mem m, Holds ref platform m₀ (ref.upstreamID ∈ c.2 ++ idsOf cs) mem m →
        (platform = ref.platform → (c.2 ++ idsOf cs).count ref.upstreamID ≤ 1) →
        (platform = ref.platform → ref.upstreamID ∈ c.2 → c.1 = ref.channelId) →
        (f mem c).Follows (discipline ref asks)
          (Holds ref platform m₀ (ref.upstreamID ∈ idsOf cs)) m) →
      (channels.foldlM f mem).Follows (discipline ref asks)
        (fun _ m' => m'.Calm ∧ (platform ≠ ref.platform → m' = m₀)) m := by
    intro f hf
    refine (follows_foldlM (I := fun cs mem m =>
      Holds ref platform m₀ (ref.upstreamID ∈ idsOf cs) mem m ∧
        (platform = ref.platform → (idsOf cs).count ref.upstreamID ≤ 1) ∧
        ∀ c ∈ cs, platform = ref.platform → ref.upstreamID ∈ c.2 → c.1 = ref.channelId)
      (fun c cs mem m hI => ?_) ⟨h, honce, hchannel⟩).mono fun _ _ hI => ⟨hI.1.calm, hI.1.away⟩
    obtain ⟨hH, honce, hchannel⟩ := hI
    refine (hf c cs mem m hH honce (hchannel c List.mem_cons_self)).mono fun mem' m' hH =>
      ⟨hH, fun hp => ?_, fun c' hc' => hchannel c' (List.mem_cons_of_mem _ hc')⟩
    have hcount := honce hp
    rw [idsOf, List.flatMap_cons, List.count_append] at hcount
    change (cs.flatMap Prod.snd).count ref.upstreamID ≤ 1
    omega
  cases platform with
  | midjourney | mujianImage => exact ⟨h.calm, h.away⟩
  | suno => exact hloop _ fun c cs mem m hH hcount hc => follows_updateSunoTasks hH hcount hc
  | other name =>
    refine hloop _ fun c cs mem m hH hcount hc => ?_
    exact follows_updateVideoTasks (fun hp => by cases hp) hH hcount hc settings

theorem count_group_le (tasks : List Task) (u : String) {channels : List ℤ}
    (hnodup : channels.Nodup) :
    (channels.flatMap fun c =>
        (tasks.filter fun task => task.channelId = c).map Task.getUpstreamTaskID).count u ≤
      tasks.countP fun task => task.getUpstreamTaskID = u ∧ task.channelId ∈ channels := by
  induction channels with
  | nil => exact Nat.zero_le _
  | cons c channels ih =>
    obtain ⟨hc, hnodup⟩ := List.nodup_cons.1 hnodup
    have hgroup : ((tasks.filter fun task => task.channelId = c).map
          Task.getUpstreamTaskID).count u =
        tasks.countP fun task => task.getUpstreamTaskID = u ∧ task.channelId = c := by
      rw [List.count_eq_countP, List.countP_map, List.countP_filter]
      refine List.countP_congr fun task _ => ?_
      simp only [Function.comp_apply, Bool.and_eq_true, beq_iff_eq, decide_eq_true_eq]
    have hsplit : (tasks.countP fun task => task.getUpstreamTaskID = u ∧ task.channelId = c) +
        (tasks.countP fun task => task.getUpstreamTaskID = u ∧ task.channelId ∈ channels) =
        tasks.countP fun task => task.getUpstreamTaskID = u ∧ task.channelId ∈ c :: channels := by
      clear hgroup ih
      induction tasks with
      | nil => rfl
      | cons task tasks ih =>
        simp only [List.countP_cons, decide_eq_true_eq, List.mem_cons] at ih ⊢
        by_cases hu : task.getUpstreamTaskID = u
        · by_cases hch : task.channelId = c
          · simp only [hu, hch, hc, true_and, true_or, if_true, if_false]
            omega
          · simp only [hu, hch, true_and, false_or, if_false]
            omega
        · simp only [hu, false_and, if_false]
          omega
    rw [List.flatMap_cons, List.count_append]
    have := ih hnodup
    omega

/-- The task's id comes at most once in a pass over its platform. -/
theorem count_idsOf_le (hnodup : (tasks.map Task.id).Nodup)
    (hown : ∀ task ∈ tasks, task.getUpstreamTaskID = ref.upstreamID → task.id = ref.id) :
    (idsOf (taskChannelM tasks)).count ref.upstreamID ≤ 1 := by
  have hid : (tasks.map Task.id).count ref.id ≤ 1 := List.nodup_iff_count_le_one.1 hnodup _
  rw [List.count_eq_countP, List.countP_map] at hid
  rw [idsOf, taskChannelM, List.flatMap_map]
  refine (count_group_le tasks _ (List.nodup_dedup _)).trans (le_trans ?_ hid)
  refine List.countP_mono_left fun task hmem h => ?_
  rw [decide_eq_true_eq] at h
  exact beq_iff_eq.2 (hown task hmem h.1)

end

section

variable {ref : TaskRef} {asks : Demands} {m : Stage}

section

variable (hm : m.Calm)
include hm

theorem follows_failNullTasks (hknown : ∀ task ∈ tasks, task.id = ref.id → ref.Is task)
    (hasked : asks.channel → ref.upstreamID ≠ "") :
    (failNullTasks tasks).Follows (discipline ref asks) (fun _ m' => m' = m) m := by
  unfold failNullTasks
  split
  · exact (follows_pure _).2 rfl
  refine ⟨⟨hm, fun hs hmem => ?_⟩, fun _ _ => rfl⟩
  obtain ⟨task, htask, hid⟩ := List.mem_map.1 hmem
  obtain ⟨htask, hnull⟩ := List.mem_filter.1 htask
  exact hasked hs ((hknown task htask hid).2.1.symm.trans (of_decide_eq_true hnull))

/-- A platform's update. It touches the task only if it is the task's platform. -/
theorem follows_pollPlatform {platform : TaskPlatform}
    (hread : Read ref tasks) (hplatform : ∀ task ∈ tasks, task.platform = platform)
    (hown : OwnUpstreamID ref tasks) (hfresh : ∀ task ∈ tasks, task.id = ref.id → m = .fresh)
    (hasked : asks.channel → ref.upstreamID ≠ "") (settings : Settings) :
    (pollPlatform settings platform tasks).Follows (discipline ref asks)
      (fun _ m' => m'.Calm ∧ (platform ≠ ref.platform → m' = m)) m := by
  have hsub : ∀ task ∈ submittedTasks tasks, task ∈ tasks := fun task h => (List.mem_filter.1 h).1
  have hholds : Holds ref platform m (ref.upstreamID ∈ idsOf (taskChannelM (submittedTasks tasks)))
      (taskM (submittedTasks tasks)) m := by
    refine ⟨hm, fun v task hv => ?_, fun v task hv hid => ?_, fun _ task hv hid => ?_, fun _ => rfl⟩
    · exact hplatform task (hsub task (taskM_eq_some hv).1)
    · obtain ⟨hmem, hkey⟩ := taskM_eq_some hv
      have his := (hread.known task (hsub task hmem) hid).1
      exact ⟨hkey.symm.trans his.2.1, his⟩
    · have hmem := hsub task (taskM_eq_some hv).1
      obtain ⟨his, hquota⟩ := hread.known task hmem hid
      exact ⟨hfresh task hmem hid, his, hquota, (hread.unfinished task hmem).2⟩
  unfold pollPlatform
  rw [follows_bind]
  refine (follows_failNullTasks hm (fun task h hid => (hread.known task h hid).1) hasked).mono ?_
  rintro - _ rfl
  rw [follows_bind]
  have hunique : platform = ref.platform → ∀ task ∈ submittedTasks tasks,
      task.getUpstreamTaskID = ref.upstreamID → task.id = ref.id := fun hp task h hu =>
    hown task (hsub task h) ((hplatform task (hsub task h)).trans hp) hu
  refine (follows_dispatchPlatformUpdate hholds (fun hp => ?_) (fun c hc hp hu => ?_)
    settings).mono fun _ _ h => h
  · exact count_idsOf_le (hread.nodup.sublist (List.filter_sublist.map _)) (hunique hp)
  · obtain ⟨channelId, -, rfl⟩ := List.mem_map.1 hc
    obtain ⟨task, htask, hu⟩ := List.mem_map.1 hu
    obtain ⟨htask, hchannel⟩ := List.mem_filter.1 htask
    have his := (hread.known task (hsub task htask) (hunique hp task htask hu)).1
    exact (of_decide_eq_true hchannel).symm.trans his.2.2.2

theorem follows_sweepTimedOutTasks (settings : Settings) :
    (sweepTimedOutTasks settings).Follows (discipline ref asks) (fun _ m' => m'.Calm) m := by
  unfold sweepTimedOutTasks
  split
  · exact hm
  rw [follows_bind]
  refine (follows_perform _).2 ⟨hm, fun start _ => ?_⟩
  rw [follows_bind]
  refine (follows_perform _).2 ⟨hm, fun tasks hread => ?_⟩
  have hcalm := Stage.calm_afterRead ref.id tasks
  split
  · exact hcalm
  refine ⟨hcalm, fun now _ => ?_⟩
  -- as long as the task is still to come, the run has not touched it
  refine (follows_foldlM (I := fun l _ m => m.Calm ∧ Read ref l ∧
    (ref.id ∈ l.map Task.id → m = .fresh)) (fun task l _ m hI => ?_)
    ⟨hcalm, hread, fun hmem => if_pos hmem⟩).mono fun _ _ h => h.1
  obtain ⟨hcalm, hread, hfresh⟩ := hI
  obtain ⟨hnot, hnodup⟩ := List.nodup_cons.1 hread.nodup
  have hown : task.id = ref.id → Untouched ref m task := by
    intro hid
    obtain ⟨his, hquota⟩ := hread.known task List.mem_cons_self hid
    exact ⟨hfresh (hid ▸ List.mem_cons_self), his, hquota,
      (hread.unfinished task List.mem_cons_self).2⟩
  refine (follows_sweepTask hcalm hown settings now).mono fun _ m' h => ⟨h.1, ?_, fun hmem => ?_⟩
  · exact ⟨hnodup, fun x hx => hread.unfinished x (List.mem_cons_of_mem _ hx),
      fun x hx => hread.known x (List.mem_cons_of_mem _ hx)⟩
  · have hne : task.id ≠ ref.id := fun hid => hnot (hid ▸ hmem)
    rw [h.2 hne]
    exact hfresh (List.mem_cons_of_mem _ hmem)

/-- **A pass of the polling loop keeps the discipline.** -/
theorem follows_pollOnce (hasked : asks.channel → ref.upstreamID ≠ "") (settings : Settings) :
    (pollOnce settings).Follows (discipline ref asks) (fun _ m' => m'.Calm) m := by
  unfold pollOnce
  rw [follows_bind]
  refine (follows_sweepTimedOutTasks hm settings).mono fun _ m hm => ?_
  refine ⟨hm, fun tasks hposs => ?_⟩
  obtain ⟨hread, hown⟩ := hposs
  have hcalm := Stage.calm_afterRead ref.id tasks
  refine (follows_foldlM (I := fun l _ m => m.Calm ∧ l.Nodup ∧
    (ref.platform ∈ l → ref.id ∈ tasks.map Task.id → m = .fresh)) (fun platform l _ m hI => ?_)
    ⟨hcalm, List.nodup_dedup _, fun _ hmem => if_pos hmem⟩).mono fun _ _ h => h.1
  obtain ⟨hcalm, hnodup, hfresh⟩ := hI
  obtain ⟨hnot, hnodup⟩ := List.nodup_cons.1 hnodup
  have hsub : ∀ task ∈ tasks.filter (fun task => task.platform = platform), task ∈ tasks :=
    fun task h => (List.mem_filter.1 h).1
  have hplatform : ∀ task ∈ tasks.filter (fun task => task.platform = platform),
      task.platform = platform := fun task h => of_decide_eq_true (List.mem_filter.1 h).2
  have hread' : Read ref (tasks.filter fun task => task.platform = platform) :=
    ⟨hread.nodup.sublist (List.filter_sublist.map _), fun x hx => hread.unfinished x (hsub x hx),
      fun x hx => hread.known x (hsub x hx)⟩
  refine (follows_pollPlatform hcalm hread' hplatform (fun x hx => hown x (hsub x hx))
    (fun task h hid => ?_) hasked settings).mono fun _ m' h => ⟨h.1, hnodup, fun hmem hid => ?_⟩
  · have hp := (hread'.known task h hid).1.2.2.1.symm.trans (hplatform task h)
    exact hfresh (hp ▸ List.mem_cons_self) (List.mem_map.2 ⟨task, hsub task h, hid⟩)
  · have hp : platform ≠ ref.platform := fun hp => hnot (hp ▸ hmem)
    rw [h.2 hp]
    exact hfresh (List.mem_cons_of_mem _ hmem) hid

theorem follows_taskPollingLoop (hasked : asks.channel → ref.upstreamID ≠ "")
    (settings : Settings) (n : ℕ) :
    (taskPollingLoop settings n).Follows (discipline ref asks) (fun _ m' => m'.Calm) m := by
  induction n generalizing m with
  | zero => exact hm
  | succ n ih =>
    rw [taskPollingLoop, follows_bind]
    exact (follows_pollOnce hm hasked settings).mono fun _ _ hm' => ih hm'

end

end

end Mujian.Tasks
