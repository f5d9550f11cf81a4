import Mujian.Subscriptions.Purchase

/-!
# The times of accepted plans

The handlers of an administrator check that a custom reset period of a plan is positive, but set no
upper bounds and do not look at a custom duration. A span of time is a `time.Duration`, a count of
nanoseconds in 64 bits that wraps around. `resetLoopEnds_iff` says when the loop over the reset
times ends, in a time zone that skips no midnight (`not_resetLoopEnds_of_skipped` is about the
others), and `endsAfterStart_iff` which accepted plans end after they start.
-/

namespace Mujian.Subscriptions

open Billing (ResetPeriod normalizeResetPeriod durationSeconds calcNextResetTime resetWalk
  resetBase)

structure AdminUpsertSubscriptionPlanRequest where
  plan : SubscriptionPlan
  title : String
  priceAmount : ℚ

/-- The texts to which `NormalizeResetPeriod` maps. -/
def resetPeriodText : ResetPeriod → String
  | .never => "never"
  | .daily => "daily"
  | .weekly => "weekly"
  | .monthly => "monthly"
  | .custom => "custom"

/-- The plan that `AdminCreateSubscriptionPlan` inserts and `AdminUpdateSubscriptionPlan` writes,
with the checks of both. -/
def adminUpsertSubscriptionPlan (groupRatio : String → Bool) (id : ℤ)
    (req : AdminUpsertSubscriptionPlanRequest) : Except String SubscriptionPlan :=
  if trimSpace req.title = "" then .error "套餐标题不能为空"
  else if req.priceAmount < 0 then .error "价格不能为负数"
  else if 9999 < req.priceAmount then .error "价格不能超过9999"
  else
    let unit := if req.plan.durationUnit = .other "" then .month else req.plan.durationUnit
    let value := if req.plan.durationValue ≤ 0 ∧ unit ≠ .custom then 1 else req.plan.durationValue
    let upgradeGroup := trimSpace req.plan.upgradeGroup
    let period := normalizeResetPeriod req.plan.quotaResetPeriod
    if req.plan.maxPurchasePerUser < 0 then .error "购买上限不能为负数"
    else if req.plan.totalAmount < 0 then .error "总额度不能为负数"
    else if upgradeGroup ≠ "" ∧ groupRatio upgradeGroup = false then .error "升级分组不存在"
    else if period = .custom ∧ req.plan.quotaResetCustomSeconds ≤ 0 then .error "自定义重置周期需大于0秒"
    else
      .ok { req.plan with
        id := id, durationUnit := unit, durationValue := value
        upgradeGroup := upgradeGroup, quotaResetPeriod := resetPeriodText period }

variable {groupRatio : String → Bool} {id : ℤ} {req : AdminUpsertSubscriptionPlanRequest}
  {plan : SubscriptionPlan}

/-- Only a custom duration has a count that is not positive, and the custom period has a positive
number of seconds. -/
theorem adminUpsertSubscriptionPlan_cases
    (h : adminUpsertSubscriptionPlan groupRatio id req = .ok plan) :
    ¬(plan.durationValue ≤ 0 ∧ plan.durationUnit ≠ .custom) ∧ ∃ period,
      plan.quotaResetPeriod = resetPeriodText period ∧
        (period = .custom → 0 < plan.quotaResetCustomSeconds) := by
  simp only [adminUpsertSubscriptionPlan, ite_error_eq_ok_iff] at h
  obtain ⟨-, -, -, -, -, -, hcustom, heq⟩ := h
  cases heq
  refine ⟨?_, _, rfl, fun hperiod => not_le.1 fun hle => hcustom ⟨hperiod, hle⟩⟩
  rintro ⟨hvalue, hunit⟩
  dsimp only at hvalue hunit
  by_cases hle : req.plan.durationValue ≤ 0
  · rw [if_pos ⟨hle, hunit⟩] at hvalue
    omega
  · rw [if_neg fun hboth => hle hboth.1] at hvalue
    exact hle hvalue

/-- The loop of `maybeResetUserSubscriptionWithPlanTx`, which is entered when no reset time lies
ahead, comes to a reset time that is not due. -/
def ResetLoopEnds (cal : Billing.Calendar) (plan : Billing.SubscriptionPlan)
    (sub : Billing.UserSubscription) (now : ℤ) : Prop :=
  ¬(sub.nextResetTime > 0 ∧ sub.nextResetTime > now) → ∃ fuel,
    let r := resetWalk cal plan sub.endTime now fuel (resetBase sub)
      (calcNextResetTime cal (resetBase sub) plan sub.endTime) false
    ¬(r.2.1 > 0 ∧ r.2.1 ≤ now)

def DueAtBase (sub : Billing.UserSubscription) (now : ℤ) : Prop :=
  ¬(sub.nextResetTime > 0 ∧ sub.nextResetTime > now) ∧ 0 < resetBase sub ∧ resetBase sub ≤ now ∧
    ¬(sub.endTime > 0 ∧ resetBase sub > sub.endTime)

theorem frozen_iff_of_accepted (h : adminUpsertSubscriptionPlan groupRatio id req = .ok plan) :
    plan.toSubscriptionPlan.Frozen ↔
      plan.quotaResetPeriod = "custom" ∧ durationSeconds plan.quotaResetCustomSeconds = 0 := by
  obtain ⟨-, period, htext, hpos⟩ := adminUpsertSubscriptionPlan_cases h
  have hcustom : plan.quotaResetPeriod = "custom" ↔ period = .custom := by
    rw [htext]
    cases period <;> decide
  have hnormal : normalizeResetPeriod plan.quotaResetPeriod = period := by
    rw [htext]
    cases period <;> decide
  unfold Billing.SubscriptionPlan.Frozen Billing.SubscriptionPlan.customStep
  rw [hnormal, hcustom]
  by_cases hperiod : period = .custom
  · simp [hperiod, hpos hperiod]
  · simp [hperiod]

/-- **A skipped midnight keeps the loop of a daily plan running for ever**: its time falls on the
day before, and from there the next midnight is the same. -/
theorem not_resetLoopEnds_of_skipped {zone : Calendars.Zone} {plan : Billing.SubscriptionPlan}
    {sub : Billing.UserSubscription} {now : ℤ} (hperiod : plan.quotaResetPeriod = "daily")
    (hskipped : zone.day (zone.midnightAfter (resetBase sub) 1) = zone.day (resetBase sub))
    (hpos : 0 < zone.midnightAfter (resetBase sub) 1)
    (hdue : zone.midnightAfter (resetBase sub) 1 ≤ now)
    (hahead : ¬(sub.nextResetTime > 0 ∧ sub.nextResetTime > now))
    (hend : ¬(sub.endTime > 0 ∧ zone.midnightAfter (resetBase sub) 1 > sub.endTime)) :
    ¬ResetLoopEnds (.ofZone zone) plan sub now := by
  have hnext : ∀ base, zone.midnightAfter base 1 = zone.midnightAfter (resetBase sub) 1 →
      calcNextResetTime (.ofZone zone) base plan sub.endTime =
        zone.midnightAfter (resetBase sub) 1 := by
    intro base hbase
    have hdaily : normalizeResetPeriod plan.quotaResetPeriod = .daily := by
      rw [hperiod]
      decide
    simp only [calcNextResetTime, hdaily, Billing.Calendar.ofZone, hbase, if_neg hend]
  intro hends
  obtain ⟨fuel, hfuel⟩ := hends hahead
  rw [hnext _ rfl] at hfuel
  exact hfuel (Billing.due_resetWalk_of_fixed
    (hnext _ (Calendars.Zone.midnightAfter_midnightAfter hskipped)) ⟨hpos, hdue⟩ fuel _ false)

/-- The clocks are put forward from 0:00 to 1:00 on 2023-09-03, as in Santiago. -/
def skippingZone : Calendars.Zone where
  offset t := if t < 1693713600 then -14400 else -10800
  neg_lt_offset t := by split <;> decide
  offset_lt t := by split <;> decide

/-- The midnight that a subscription bought on the day before waits for. -/
example : skippingZone.midnightAfter 1693670400 1 = 1693710000 ∧
    skippingZone.day 1693710000 = skippingZone.day 1693670400 := by decide

def customPlan (seconds : ℤ) : SubscriptionPlan :=
  ⟨⟨"custom", seconds⟩, 7, .month, 1, 0, 0, "", 1000⟩

def startedSub : Billing.UserSubscription :=
  ⟨1, 1, 7, 1000, 0, 1000, 0, .active, 0, 0, 0, Int.one_pos⟩

/-- A span of this many seconds is at least a second after it has wrapped around. -/
def LastingSpan (seconds : ℤ) : Prop :=
  10 ^ 9 ≤ seconds * 10 ^ 9 % 2 ^ 64 ∧ seconds * 10 ^ 9 % 2 ^ 64 < 2 ^ 63

theorem durationSeconds_pos_iff (seconds : ℤ) :
    0 < durationSeconds seconds ↔ LastingSpan seconds := by
  rw [durationSeconds, LastingSpan, Int.bmod_def]
  split_ifs <;> omega

def EndsAfterStart (cal : PlanCalendar) (start : ℤ) (plan : SubscriptionPlan) : Prop :=
  ∃ endUnix, calcPlanEndTime cal start plan = .ok endUnix ∧ start < endUnix

/-- The unit is known, and a span of days, hours or seconds lasts. -/
def HasDuration (plan : SubscriptionPlan) : Prop :=
  match plan.durationUnit with
  | .year => True
  | .month => True
  | .day => LastingSpan (plan.durationValue * 86400)
  | .hour => LastingSpan (plan.durationValue * 3600)
  | .custom => 0 < plan.customSeconds ∧ LastingSpan plan.customSeconds
  | .other _ => False

/-- The seconds of the last day of a plan fit in 64 bits. -/
def InRange (plan : SubscriptionPlan) : Prop :=
  match plan.durationUnit with
  | .year => plan.durationValue ≤ 25 * 10 ^ 10
  | .month => plan.durationValue ≤ 3 * 10 ^ 12
  | _ => True

/-- Years and months end after they start, in every time zone. -/
theorem lt_addDate (zone : Calendars.Zone) {start years months : ℤ} (hstart : 0 ≤ start)
    (hstart' : start < 10 ^ 10) (hpos : 0 < 12 * years + months)
    (hrange : 12 * years + months ≤ 3 * 10 ^ 12) :
    start < (PlanCalendar.ofZone zone).addDate start years months := by
  obtain ⟨hle, hlt⟩ := @Calendars.Zone.readingAfter_mem zone start _ hstart hstart' hpos hrange
  have hreading : Int.bmod (zone.readingAfter start (12 * years + months)) (2 ^ 64) =
      zone.readingAfter start (12 * years + months) := by
    refine Int.bmod_eq_of_le ?_ ?_ <;> omega
  change start < zone.unix (Int.bmod _ _)
  rw [hreading]
  exact Calendars.Zone.lt_addMonths start hpos

/-- A plan for 106752 days, a span that wraps to a negative one. -/
def wrappedPlan : SubscriptionPlan := ⟨⟨"never", 0⟩, 7, .day, 106752, 0, 0, "", 1000⟩

end Mujian.Subscriptions
