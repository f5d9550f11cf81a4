import Mujian.Billing.Schema
import Mujian.Foundations.Calendar
import Mujian.Foundations.Text

/-!
# The quota reset of a subscription

`resetRow` computes what `maybeResetUserSubscriptionWithPlanTx` saves: it walks the reset times
of the plan from the last reset up to the present, and clears the usage when it has passed one. The
calendar of the `time` package is a parameter, `Calendar`; `Calendar.ofZone` is that of a time zone.
A custom period is a count of nanoseconds in 64 bits, which may wrap around; the walk ends where the
boundaries of the calendar lie ahead (`Calendar.Forward`), unless the period wraps to 0
(`SubscriptionPlan.Frozen`). `ResetFrom` is all that billing needs to know of a reset.
-/

namespace Mujian.Billing

inductive ResetPeriod
  | never | daily | weekly | monthly | custom
  deriving DecidableEq

/-- Unknown periods never reset. -/
def normalizeResetPeriod (period : String) : ResetPeriod :=
  if trimSpace period = "daily" then .daily
  else if trimSpace period = "weekly" then .weekly
  else if trimSpace period = "monthly" then .monthly
  else if trimSpace period = "custom" then .custom
  else .never

/-- The calendar of the server's time zone, on Unix times. -/
structure Calendar where
  /-- `base.Weekday()`, with Sunday = 0. -/
  weekday : ℤ → ℤ
  /-- `time.Date(year, month, day, 0, 0, 0, 0, location).AddDate(0, 0, days)` for the date of the
  given time. -/
  midnightAfter : ℤ → ℤ → ℤ
  /-- `time.Date(year, month, 1, 0, 0, 0, 0, location).AddDate(0, months, 0)` for the month of the
  given time. -/
  monthStartAfter : ℤ → ℤ → ℤ
  weekday_lt : ∀ base, weekday base < 7

namespace Calendar

def ofZone (zone : Calendars.Zone) : Calendar where
  weekday := zone.weekday
  midnightAfter := zone.midnightAfter
  monthStartAfter := zone.monthStartAfter
  weekday_lt base := by
    unfold Calendars.Zone.weekday
    omega

def utc : Calendar := ofZone Calendars.utc

/-- The midnights and the starts of months to come lie ahead. -/
structure Forward (cal : Calendar) : Prop where
  lt_midnightAfter : ∀ base days, 0 < days → base < cal.midnightAfter base days
  lt_monthStartAfter : ∀ base months, 0 < months → base < cal.monthStartAfter base months

theorem forward_ofZone {zone : Calendars.Zone} (h : zone.Steady) : (ofZone zone).Forward where
  lt_midnightAfter base _ hdays := h.lt_midnightAfter base hdays
  lt_monthStartAfter base _ hmonths := h.lt_monthStartAfter base hmonths

end Calendar

/-- The seconds of `time.Duration(seconds) * time.Second`, a product in 64 bits. -/
def durationSeconds (seconds : ℤ) : ℤ := Int.bmod (seconds * 10 ^ 9) (2 ^ 64) / 10 ^ 9

/-- The reset time after `base`, or 0 when there is none before the subscription ends. -/
def calcNextResetTime (cal : Calendar) (base : ℤ) (plan : SubscriptionPlan) (endUnix : ℤ) : ℤ :=
  let upTo (next : ℤ) : ℤ := if endUnix > 0 ∧ next > endUnix then 0 else next
  match normalizeResetPeriod plan.quotaResetPeriod with
  | .never => 0
  | .daily => upTo (cal.midnightAfter base 1)
  | .weekly =>
    -- Monday = 1, …, Sunday = 7
    let weekday := if cal.weekday base = 0 then 7 else cal.weekday base
    upTo (cal.midnightAfter base (8 - weekday))
  | .monthly => upTo (cal.monthStartAfter base 1)
  | .custom =>
    if plan.quotaResetCustomSeconds ≤ 0 then 0
    else upTo (base + durationSeconds plan.quotaResetCustomSeconds)

def SubscriptionPlan.customStep (plan : SubscriptionPlan) : Option ℤ :=
  if normalizeResetPeriod plan.quotaResetPeriod = .custom ∧ 0 < plan.quotaResetCustomSeconds then
    some (durationSeconds plan.quotaResetCustomSeconds)
  else none

/-- A custom period that wraps to 0. -/
def SubscriptionPlan.Frozen (plan : SubscriptionPlan) : Prop := plan.customStep = some 0

instance (plan : SubscriptionPlan) : Decidable plan.Frozen := inferInstanceAs (Decidable (_ = _))

section

variable {cal : Calendar} {base : ℤ} {plan : SubscriptionPlan} {endUnix : ℤ}

theorem calcNextResetTime_of_customStep {step : ℤ} (hstep : plan.customStep = some step) :
    calcNextResetTime cal base plan endUnix =
      if endUnix > 0 ∧ base + step > endUnix then 0 else base + step := by
  unfold SubscriptionPlan.customStep at hstep
  split at hstep
  · rename_i h
    obtain rfl := Option.some.inj hstep
    simp only [calcNextResetTime, h.1, if_neg (not_le.2 h.2)]
  · cases hstep

/-- A reset time lies after the time it is computed from, unless a custom period has wrapped
around. -/
theorem lt_calcNextResetTime
    (hcal : normalizeResetPeriod plan.quotaResetPeriod ≠ .custom → cal.Forward)
    (hplan : ∀ step, plan.customStep = some step → 0 < step)
    (h : 0 < calcNextResetTime cal base plan endUnix) :
    base < calcNextResetTime cal base plan endUnix := by
  -- cutting off at the end of the subscription yields 0, which is not a reset time
  have hcut : ∀ next : ℤ, base < next → 0 < (if endUnix > 0 ∧ next > endUnix then 0 else next) →
      base < (if endUnix > 0 ∧ next > endUnix then 0 else next) := by
    intro next hnext hpos
    split at hpos
    · omega
    · rwa [if_neg ‹_›]
  unfold calcNextResetTime at h ⊢
  cases hperiod : normalizeResetPeriod plan.quotaResetPeriod with
  | never => simp [hperiod] at h
  | daily =>
    simp only [hperiod] at h ⊢
    exact hcut _ ((hcal (by simp [hperiod])).lt_midnightAfter base 1 (by omega)) h
  | weekly =>
    simp only [hperiod] at h ⊢
    refine hcut _ ((hcal (by simp [hperiod])).lt_midnightAfter base _ ?_) h
    have := cal.weekday_lt base
    split <;> omega
  | monthly =>
    simp only [hperiod] at h ⊢
    exact hcut _ ((hcal (by simp [hperiod])).lt_monthStartAfter base 1 (by omega)) h
  | custom =>
    simp only [hperiod] at h ⊢
    split at h
    · omega
    · rename_i hseconds
      rw [if_neg hseconds]
      have hstep := hplan (durationSeconds plan.quotaResetCustomSeconds) (by
        rw [SubscriptionPlan.customStep, if_pos ⟨hperiod, not_le.1 hseconds⟩])
      exact hcut _ (by omega) h

end

/-- The loop `for next > 0 && next <= now`, returning `base`, `next` and `advanced`. -/
def resetWalk (cal : Calendar) (plan : SubscriptionPlan) (endUnix now : ℤ) :
    ℕ → ℤ → ℤ → Bool → ℤ × ℤ × Bool
  | 0, base, next, advanced => (base, next, advanced)
  | fuel + 1, base, next, advanced =>
    if next > 0 ∧ next ≤ now then
      resetWalk cal plan endUnix now fuel next (calcNextResetTime cal next plan endUnix) true
    else (base, next, advanced)

section

variable {cal : Calendar} {plan : SubscriptionPlan} {endUnix now : ℤ}

/-- The walk ends for the reason the loop ends, the next reset time is not due, when the reset
times go forward. -/
theorem not_due_resetWalk_of_lt
    (hcal : normalizeResetPeriod plan.quotaResetPeriod ≠ .custom → cal.Forward)
    (hplan : ∀ step, plan.customStep = some step → 0 < step)
    (fuel : ℕ) {base : ℤ} (advanced : Bool) (hfuel : now - base < fuel) :
    let r := resetWalk cal plan endUnix now fuel base (calcNextResetTime cal base plan endUnix)
      advanced
    ¬(r.2.1 > 0 ∧ r.2.1 ≤ now) := by
  induction fuel generalizing base advanced with
  | zero =>
    simp only [resetWalk]
    rintro ⟨hpos, hdue⟩
    have := lt_calcNextResetTime hcal hplan hpos
    omega
  | succ fuel ih =>
    simp only [resetWalk]
    split
    · rename_i h
      -- one reset time further, the remaining span is shorter
      have := lt_calcNextResetTime hcal hplan h.1
      exact ih true (by omega)
    · assumption

/-- The same when they go back. -/
theorem not_due_resetWalk_of_gt {step : ℤ} (hplan : plan.customStep = some step)
    (hstep : step < 0) (fuel : ℕ) {base next : ℤ} (advanced : Bool)
    (hfuel : next ≤ now → next < fuel) :
    let r := resetWalk cal plan endUnix now fuel base next advanced
    ¬(r.2.1 > 0 ∧ r.2.1 ≤ now) := by
  induction fuel generalizing base next advanced with
  | zero =>
    simp only [resetWalk]
    omega
  | succ fuel ih =>
    simp only [resetWalk]
    split
    · refine ih true fun _ => ?_
      by_cases hpos : 0 < calcNextResetTime cal next plan endUnix
      · -- a custom period that has wrapped to a negative one goes back in time
        rw [calcNextResetTime_of_customStep hplan] at hpos ⊢
        split at hpos
        · omega
        · omega
      · omega
    · assumption

/-- From a reset time that is due and its own successor the loop goes on for ever: whatever the
fuel, the next reset time is still due when it is used up. -/
theorem due_resetWalk_of_fixed {next : ℤ} (hnext : calcNextResetTime cal next plan endUnix = next)
    (hdue : next > 0 ∧ next ≤ now) (fuel : ℕ) (base : ℤ) (advanced : Bool) :
    let r := resetWalk cal plan endUnix now fuel base next advanced
    r.2.1 > 0 ∧ r.2.1 ≤ now := by
  induction fuel generalizing base advanced with
  | zero => exact hdue
  | succ fuel ih =>
    simp only [resetWalk]
    rw [if_pos hdue, hnext]
    exact ih next true

/-- With a frozen plan every reset time is its own successor. -/
theorem due_resetWalk_of_frozen (hplan : plan.Frozen) (fuel : ℕ) {base : ℤ} (advanced : Bool)
    (hdue : calcNextResetTime cal base plan endUnix > 0 ∧
      calcNextResetTime cal base plan endUnix ≤ now) :
    let r := resetWalk cal plan endUnix now fuel base (calcNextResetTime cal base plan endUnix)
      advanced
    r.2.1 > 0 ∧ r.2.1 ≤ now := by
  have hnext : calcNextResetTime cal base plan endUnix = base := by
    rw [calcNextResetTime_of_customStep hplan] at hdue ⊢
    split at hdue
    · omega
    · rw [if_neg ‹_›, add_zero]
  exact due_resetWalk_of_fixed (by rw [hnext, hnext]) hdue fuel base advanced

end

/-- The time from which the reset times are computed. -/
def resetBase (sub : UserSubscription) : ℤ :=
  if sub.lastResetTime ≤ 0 then sub.startTime else sub.lastResetTime

def resetTimes (cal : Calendar) (sub : UserSubscription) (plan : SubscriptionPlan) (now : ℤ) :
    ℤ × ℤ × Bool :=
  resetWalk cal plan sub.endTime now ((now - resetBase sub).toNat + now.toNat + 1) (resetBase sub)
    (calcNextResetTime cal (resetBase sub) plan sub.endTime) false

variable {plan : SubscriptionPlan} {cal : Calendar} {sub sub' : UserSubscription} {now : ℤ}

/-- The fuel suffices: the walk ends at a reset time that is not due. -/
theorem not_due_resetTimes
    (hcal : normalizeResetPeriod plan.quotaResetPeriod ≠ .custom → cal.Forward)
    (sub : UserSubscription) (now : ℤ) (hplan : ¬plan.Frozen) :
    ¬((resetTimes cal sub plan now).2.1 > 0 ∧ (resetTimes cal sub plan now).2.1 ≤ now) := by
  by_cases hback : ∃ step, plan.customStep = some step ∧ step < 0
  · obtain ⟨step, hcustom, hstep⟩ := hback
    exact not_due_resetWalk_of_gt hcustom hstep _ false fun _ => by omega
  · refine not_due_resetWalk_of_lt hcal (fun step hcustom => ?_) _ false (by omega)
    have hne : step ≠ 0 := by
      rintro rfl
      exact hplan hcustom
    have hnonneg : ¬step < 0 := fun hneg => hback ⟨step, hcustom, hneg⟩
    omega

def resetRow (cal : Calendar) (sub : UserSubscription) (plan : SubscriptionPlan) (now : ℤ) :
    Option UserSubscription :=
  if sub.nextResetTime > 0 ∧ sub.nextResetTime > now then none
  else if normalizeResetPeriod plan.quotaResetPeriod = .never then none
  else
    match resetTimes cal sub plan now with
    | (base, next, true) =>
      some { sub with
        amountUsed := 0, lastResetTime := base, nextResetTime := next, resets := sub.resets + 1 }
    | (base, next, false) =>
      if sub.nextResetTime = 0 ∧ next > 0 then
        some { sub with nextResetTime := next, lastResetTime := base }
      else none

/-- What a reset saves: a new period, or only the times of the first one. -/
theorem resetRow_cases (h : resetRow cal sub plan now = some sub') :
    ∃ base next advanced, resetTimes cal sub plan now = (base, next, advanced) ∧
      (sub' = { sub with
          amountUsed := 0, lastResetTime := base, nextResetTime := next,
          resets := sub.resets + 1 } ∨
        sub' = { sub with nextResetTime := next, lastResetTime := base }) := by
  unfold resetRow at h
  split at h
  · cases h
  split at h
  · cases h
  split at h
  · rename_i base next htimes
    exact ⟨base, next, true, htimes, .inl (Option.some.inj h).symm⟩
  · rename_i base next htimes
    split at h
    · exact ⟨base, next, false, htimes, .inr (Option.some.inj h).symm⟩
    · cases h

theorem not_due_resetRow (hcal : cal.Forward) (hplan : ¬plan.Frozen)
    (h : resetRow cal sub plan now = some sub') :
    ¬(sub'.nextResetTime > 0 ∧ sub'.nextResetTime ≤ now) := by
  obtain ⟨base, next, advanced, htimes, hsub'⟩ := resetRow_cases h
  have hwalk : ¬(next > 0 ∧ next ≤ now) := by
    have := not_due_resetTimes (fun _ => hcal) sub now hplan
    rwa [htimes] at this
  rcases hsub' with rfl | rfl <;> exact hwalk

/-- The row `s'` is the row `s` after any number of resets. -/
structure ResetFrom (s s' : UserSubscription) : Prop where
  id : s'.id = s.id
  userId : s'.userId = s.userId
  amountTotal : s'.amountTotal = s.amountTotal
  resets : s.resets ≤ s'.resets
  amountUsed : s'.resets = s.resets → s'.amountUsed = s.amountUsed
  amountUsed_zero : s.resets < s'.resets → s'.amountUsed = 0

namespace ResetFrom

theorem refl (s : UserSubscription) : ResetFrom s s :=
  ⟨rfl, rfl, rfl, le_refl _, fun _ => rfl, fun h => absurd h (lt_irrefl _)⟩

theorem trans {s₁ s₂ s₃ : UserSubscription} (h : ResetFrom s₁ s₂) (h' : ResetFrom s₂ s₃) :
    ResetFrom s₁ s₃ where
  id := h'.id.trans h.id
  userId := h'.userId.trans h.userId
  amountTotal := h'.amountTotal.trans h.amountTotal
  resets := h.resets.trans h'.resets
  amountUsed heq := by
    have := h.resets
    have := h'.resets
    rw [h'.amountUsed (by omega), h.amountUsed (by omega)]
  amountUsed_zero hlt := by
    rcases h'.resets.lt_or_eq with hlt' | heq
    · exact h'.amountUsed_zero hlt'
    · rw [h'.amountUsed heq.symm]
      exact h.amountUsed_zero (by omega)

end ResetFrom

theorem resetFrom_resetRow (h : resetRow cal sub plan now = some sub') : ResetFrom sub sub' := by
  obtain ⟨base, next, advanced, -, rfl | rfl⟩ := resetRow_cases h
  · exact ⟨rfl, rfl, rfl, Nat.le_succ _, fun h => absurd h (Nat.succ_ne_self _), fun _ => rfl⟩
  · exact ⟨rfl, rfl, rfl, le_refl _, fun _ => rfl, fun h => absurd h (lt_irrefl _)⟩

end Mujian.Billing
