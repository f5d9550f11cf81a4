import Mujian.Tasks.Submission

/-!
# The group ratio of a recalculation

A task that reports its tokens is charged anew when it has succeeded. The price helper looked up
the ratio that the user's group has in the group in use, but the task keeps only the latter, and
the recalculation looks up the ratio that it has in itself (`keepsGroupRatio_iff`).
-/

namespace Mujian.Tasks

open Pricing Relay

def finalGroupRatio (S : Pricing.Settings) (userGroup usingGroup : String) : ℚ :=
  (S.getGroupGroupRatio userGroup usingGroup).getD (S.getGroupRatio usingGroup)

theorem groupRatio_groupRatioInfo (S : Pricing.Settings) (userGroup usingGroup : String) :
    (groupRatioInfo S userGroup usingGroup).groupRatio =
      finalGroupRatio S userGroup usingGroup := by
  unfold groupRatioInfo finalGroupRatio
  cases S.getGroupGroupRatio userGroup usingGroup <;> rfl

/-- The columns of a task that the recalculation reads. -/
structure BilledTask where
  userId : ℤ
  (group originModelName : String)
  billingContext : Option TaskBillingContext

variable {env : SubmitEnv}

/-- The task that is inserted after its submission. -/
def initTask (env : SubmitEnv) (info : RelayInfo) (data : PriceData) : BilledTask where
  userId := info.userId
  group := info.usingGroup
  originModelName := info.originModelName
  billingContext := some
    { modelPrice := data.modelPrice, groupRatio := data.groupRatioInfo.groupRatio
      modelRatio := data.modelRatio, otherRatios := data.otherRatios
      originModelName := info.originModelName
      perCallBilling := info.originModelName ∈ env.taskPricePatches ∨ data.usePrice }

namespace BilledTask

variable (S : Pricing.Settings) (userGroup : ℤ → Option String) (task : BilledTask)

def taskModelName : String :=
  match task.billingContext with
  | some context =>
    if context.originModelName ≠ "" then context.originModelName else task.originModelName
  | none => task.originModelName

def ratioGroup : String := if task.group = "" then (userGroup task.userId).getD "" else task.group

/-- The group ratio that `RecalculateTaskQuotaByTokens` multiplies with, if it comes to that. -/
def tokenGroupRatio (totalTokens : ℤ) : Option ℚ :=
  let (modelRatio, hasRatioSetting, _) := S.getModelRatio task.taskModelName
  let group := task.ratioGroup userGroup
  if totalTokens ≤ 0 ∨ hasRatioSetting = false ∨ modelRatio ≤ 0 ∨ group = "" then none
  else some (finalGroupRatio S group group)

/-- A recalculation uses the group ratio that is stored with the task. -/
def KeepsGroupRatio (totalTokens : ℤ) : Prop :=
  ∀ ratio ∈ task.tokenGroupRatio S userGroup totalTokens,
    task.billingContext.map (·.groupRatio) = some ratio

end BilledTask

/-- **A recalculation uses the group ratio of the submission exactly if the group in use has the
same ratio for its own users as for the user**, where there is one: tokens were used, the model has
a positive ratio, and a group is known. -/
theorem keepsGroupRatio_iff {info info' : RelayInfo} {data : PriceData} {quota : ℤ}
    (h : modelPriceHelperPerCall env info = .ok (info', data, quota))
    (userGroup : ℤ → Option String) (totalTokens : ℤ) :
    let task := initTask env info' data
    let group := task.ratioGroup userGroup
    task.KeepsGroupRatio env.settings userGroup totalTokens ↔
      (0 < totalTokens → (env.settings.getModelRatio task.taskModelName).2.1 = true →
        0 < (env.settings.getModelRatio task.taskModelName).1 → group ≠ "" →
        finalGroupRatio env.settings info'.userGroup info'.usingGroup =
          finalGroupRatio env.settings group group) := by
  obtain ⟨rfl, usePrice, price, ratio, rfl⟩ := modelPriceHelperPerCall_cases h
  intro task group
  have hratio : task.billingContext.map (·.groupRatio) = some (finalGroupRatio env.settings
      (handleGroupRatio env.settings env.context info).1.userGroup
      (handleGroupRatio env.settings env.context info).1.usingGroup) :=
    congrArg some (groupRatio_groupRatioInfo ..)
  unfold BilledTask.KeepsGroupRatio BilledTask.tokenGroupRatio
  rw [hratio]
  dsimp only
  split
  · rename_i hnone
    refine iff_of_true (fun _ hmem => by cases hmem) fun htokens hset hpos hgroup => ?_
    rcases hnone with h | h | h | h
    · omega
    · exact absurd (h.symm.trans hset) (by decide)
    · exact absurd hpos (not_lt.2 h)
    · exact absurd h hgroup
  · rename_i hsome
    simp only [not_or, not_le, Bool.not_eq_false] at hsome
    simp [group, hsome]

def vipRequest : RelayInfo := { sampleRemix.info with userGroup := "vip", usingGroup := "default" }

def halfRatioEnv : SubmitEnv :=
  { sampleSubmitEnv with
    settings := { Pricing.sampleSettings with
      getGroupGroupRatio := fun userGroup _ => if userGroup = "vip" then some (1 / 2) else none } }

theorem recalculated_at_other_ratio : ∃ data quota,
    modelPriceHelperPerCall halfRatioEnv vipRequest = .ok (vipRequest, data, quota) ∧
      data.groupRatioInfo.groupRatio = 1 / 2 ∧
      (initTask halfRatioEnv vipRequest data).tokenGroupRatio halfRatioEnv.settings
        (fun _ => none) 100 = some 1 :=
  ⟨_, _, rfl, rfl, by decide +kernel⟩

theorem keepsGroupRatio_sample :
    (initTask sampleSubmitEnv vipRequest samplePrice).KeepsGroupRatio sampleSubmitEnv.settings
      (fun _ => none) 100 := by
  have hprice : modelPriceHelperPerCall sampleSubmitEnv vipRequest =
      .ok (vipRequest, samplePrice, 100) := by decide +kernel
  exact (keepsGroupRatio_iff hprice _ _).2 fun _ _ _ _ => rfl

end Mujian.Tasks
