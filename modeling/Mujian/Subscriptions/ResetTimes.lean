import Mujian.Subscriptions.Purchase
import Mathlib.Tactic.Linarith
import Mathlib.Tactic.Ring

/-!
# The resets of a subscription

Where the offset of the local time is fixed, the quota of a subscription is due to be reset at the
midnights, at the first midnights of the weeks, at those of the months, or at the multiples of a
custom period since the purchase: `Boundary`. The next reset time is the first of them after the
last reset (`calcNextResetTime_spec`), and a reset goes on to the last one that has passed.
-/

namespace Mujian.Billing

/-- The calendar of a zone with a fixed offset. The Unix time starts on a Thursday, and the months
start at the times `monthStart`. -/
structure FixedOffset (cal : Calendar) (offset : ℤ) (monthStart : ℤ → ℤ) : Prop where
  weekday : ∀ base, cal.weekday base = ((base + offset) / 86400 + 4) % 7
  midnightAfter : ∀ base days,
    cal.midnightAfter base days = ((base + offset) / 86400 + days) * 86400 - offset
  lt_of_lt : ∀ month month' : ℤ, month < month' → monthStart month < monthStart month'
  monthStartAfter : ∀ base, ∃ month, monthStart month ≤ base ∧ base < monthStart (month + 1) ∧
    ∀ months, cal.monthStartAfter base months = monthStart (month + months)

/-- The reset times of a plan for a subscription that was bought at `start`. -/
def Boundary (offset : ℤ) (monthStart : ℤ → ℤ) (plan : SubscriptionPlan) (start t : ℤ) : Prop :=
  match normalizeResetPeriod plan.quotaResetPeriod with
  | .never => False
  | .daily => ∃ day : ℤ, t = day * 86400 - offset
  | .weekly => ∃ week : ℤ, t = (week * 7 + 4) * 86400 - offset
  | .monthly => ∃ month, t = monthStart month
  | .custom => 0 < plan.quotaResetCustomSeconds ∧
    ∃ n : ℕ, t = start + n * plan.quotaResetCustomSeconds

/-- A custom period is counted from the purchase. -/
def Aligned (plan : SubscriptionPlan) (start base : ℤ) : Prop :=
  normalizeResetPeriod plan.quotaResetPeriod = .custom →
    ∃ n : ℕ, base = start + n * plan.quotaResetCustomSeconds

/-- The first time after `base` with the property `B`, or 0 if that comes after the end. -/
structure FirstAfter (B : ℤ → Prop) (endUnix base next : ℤ) : Prop where
  first : next = 0 ∨ B next ∧ base < next ∧ (0 < endUnix → next ≤ endUnix)
  le : ∀ t, B t → base < t → (0 < endUnix → t ≤ endUnix) → next ≤ t ∧ base < next

variable {cal : Calendar} {offset : ℤ} {monthStart : ℤ → ℤ} {plan : SubscriptionPlan}
  {start base endUnix now clock : ℤ} {sub : UserSubscription}

theorem FirstAfter.cut {B : ℤ → Prop} {next : ℤ} (hnext : B next) (hlt : base < next)
    (hle : ∀ t, B t → base < t → next ≤ t) :
    FirstAfter B endUnix base (if endUnix > 0 ∧ next > endUnix then 0 else next) := by
  split_ifs with hend
  · refine ⟨.inl rfl, fun t ht hbt hin => ?_⟩
    have := hle t ht hbt
    have := hin hend.1
    omega
  · exact ⟨.inr ⟨hnext, hlt, by omega⟩, fun t ht hbt _ => ⟨hle t ht hbt, hlt⟩⟩

theorem aligned_of_boundary (h : Boundary offset monthStart plan start base) :
    Aligned plan start base := by
  intro hcustom
  simp only [Boundary, hcustom] at h
  exact h.2

theorem durationSeconds_eq {seconds : ℤ} (hpos : 0 < seconds)
    (hsmall : seconds * 10 ^ 9 < 2 ^ 63) : durationSeconds seconds = seconds := by
  rw [durationSeconds, Int.bmod_eq_of_le (by omega) (by omega), Int.mul_ediv_cancel _ (by decide)]

theorem resetWalk_spec {P : ℤ → Prop} (hstep : ∀ base, P base →
      0 < calcNextResetTime cal base plan endUnix →
      calcNextResetTime cal base plan endUnix ≤ now → P (calcNextResetTime cal base plan endUnix))
    (fuel : ℕ) (hbase : P base) :
    ∃ base', P base' ∧
      resetWalk cal plan endUnix now fuel base (calcNextResetTime cal base plan endUnix) true =
        (base', calcNextResetTime cal base' plan endUnix, true) := by
  induction fuel generalizing base with
  | zero => exact ⟨base, hbase, rfl⟩
  | succ fuel ih =>
    unfold resetWalk
    split_ifs with hdue
    · exact ih (hstep base hbase hdue.1 hdue.2)
    · exact ⟨base, hbase, rfl⟩

/-- What is kept between the resets: the next reset time belongs to the last one, which lies in the
past. -/
structure Kept (cal : Calendar) (plan : SubscriptionPlan) (sub : UserSubscription) (clock : ℤ) :
    Prop where
  next : sub.nextResetTime = calcNextResetTime cal (resetBase sub) plan sub.endTime
  aligned : Aligned plan sub.startTime (resetBase sub)
  pos : 0 < resetBase sub
  le : resetBase sub ≤ clock

theorem resetRow_eq_none (h : Kept cal plan sub clock)
    (hnext : ¬(0 < sub.nextResetTime ∧ sub.nextResetTime ≤ now)) :
    resetRow cal sub plan now = none := by
  unfold resetRow
  split_ifs
  · rfl
  · rfl
  · rw [resetTimes, resetWalk, if_neg (by rw [← h.next]; exact hnext)]
    dsimp only
    rw [← h.next, if_neg (by omega)]

/-- A boundary up to the end has been passed since the last reset or, if there was none, since the
purchase. -/
def Passed (offset : ℤ) (monthStart : ℤ → ℤ) (plan : SubscriptionPlan) (sub : UserSubscription)
    (now : ℤ) : Prop :=
  ∃ t, Boundary offset monthStart plan sub.startTime t ∧ (0 < sub.endTime → t ≤ sub.endTime) ∧
    resetBase sub < t ∧ t ≤ now

structure ResetsRight (cal : Calendar) (offset : ℤ) (monthStart : ℤ → ℤ) (plan : SubscriptionPlan)
    (sub sub' : UserSubscription) (now : ℤ) : Prop where
  next : sub'.nextResetTime = 0 ∨ now < sub'.nextResetTime
  last : sub'.lastResetTime ≤ now
  cleared : Passed offset monthStart plan sub now →
    sub'.amountUsed = 0 ∧ sub'.resets = sub.resets + 1
  uncleared : ¬Passed offset monthStart plan sub now →
    sub'.amountUsed = sub.amountUsed ∧ sub'.resets = sub.resets
  again : resetRow cal sub' plan now = none

theorem FixedOffset.forward (hcal : FixedOffset cal offset monthStart) : cal.Forward where
  lt_midnightAfter base days hdays := by
    rw [hcal.midnightAfter]
    omega
  lt_monthStartAfter base months hmonths := by
    obtain ⟨month, -, hlt, hafter⟩ := hcal.monthStartAfter base
    have hmono : StrictMono monthStart := hcal.lt_of_lt
    rw [hafter]
    exact hlt.trans_le (hmono.monotone (by omega))

section

variable (hcal : FixedOffset cal offset monthStart)
  (hplan : plan.quotaResetCustomSeconds * 10 ^ 9 < 2 ^ 63)
include hcal hplan

theorem calcNextResetTime_spec (hbase : Aligned plan start base) :
    FirstAfter (Boundary offset monthStart plan start) endUnix base
      (calcNextResetTime cal base plan endUnix) := by
  unfold calcNextResetTime
  cases hperiod : normalizeResetPeriod plan.quotaResetPeriod with
  | never => exact ⟨.inl rfl, by simp [Boundary, hperiod]⟩
  | daily =>
    simp only [hcal.midnightAfter]
    refine .cut (by simp [Boundary, hperiod]) (by omega) fun t ht hlt => ?_
    simp only [Boundary, hperiod] at ht
    omega
  | weekly =>
    simp only [hcal.midnightAfter, hcal.weekday]
    refine .cut ?_ ?_ fun t ht hlt => ?_
    · -- Sunday is the last day of a week
      simp only [Boundary, hperiod]
      refine ⟨((base + offset) / 86400 + 3) / 7, ?_⟩
      split_ifs <;> omega
    · split_ifs <;> omega
    · simp only [Boundary, hperiod] at ht
      split_ifs <;> omega
  | monthly =>
    obtain ⟨month, hle, hlt, hafter⟩ := hcal.monthStartAfter base
    simp only [hafter]
    refine .cut (by simp [Boundary, hperiod]) hlt fun t ht hbt => ?_
    simp only [Boundary, hperiod] at ht
    obtain ⟨month', rfl⟩ := ht
    have hmono : StrictMono monthStart := hcal.lt_of_lt
    exact hmono.monotone (hmono.lt_iff_lt.1 (hle.trans_lt hbt))
  | custom =>
    dsimp only
    by_cases hneg : plan.quotaResetCustomSeconds ≤ 0
    · rw [if_pos hneg]
      exact ⟨.inl rfl, by simp [Boundary, hperiod, hneg]⟩
    · obtain ⟨n, rfl⟩ := hbase hperiod
      rw [if_neg hneg, durationSeconds_eq (by omega) hplan]
      refine .cut ?_ (by omega) fun t ht hlt => ?_
      · simp only [Boundary, hperiod]
        exact ⟨by omega, n + 1, by push_cast; ring⟩
      · simp only [Boundary, hperiod] at ht
        obtain ⟨hpos, n', rfl⟩ := ht
        have hn : (n : ℤ) < n' := lt_of_mul_lt_mul_right (by omega) hpos.le
        have := mul_le_mul_of_nonneg_right (show (n : ℤ) + 1 ≤ n' by omega) hpos.le
        linarith

/-- A reset that is due clears the usage and goes on to the last boundary that has passed. -/
theorem resetRow_of_due (h : Kept cal plan sub clock)
    (hnext : 0 < sub.nextResetTime ∧ sub.nextResetTime ≤ now) :
    ∃ sub', resetRow cal sub plan now = some sub' ∧ Kept cal plan sub' now ∧
      sub'.lastResetTime ≤ now ∧ (sub'.nextResetTime = 0 ∨ now < sub'.nextResetTime) ∧
      sub'.amountUsed = 0 ∧ sub'.resets = sub.resets + 1 := by
  have haligned : ∀ base, Aligned plan sub.startTime base →
      0 < calcNextResetTime cal base plan sub.endTime →
      Aligned plan sub.startTime (calcNextResetTime cal base plan sub.endTime) :=
    fun base hbase hpos => aligned_of_boundary
      ((calcNextResetTime_spec hcal hplan hbase).first.resolve_left hpos.ne').1
  obtain ⟨last, ⟨hlast, hpos, hle⟩, hwalk⟩ := resetWalk_spec
    (P := fun base => Aligned plan sub.startTime base ∧ 0 < base ∧ base ≤ now)
    (fun base hbase hpos hle => ⟨haligned base hbase.1 hpos, hpos, hle⟩)
    ((now - resetBase sub).toNat + now.toNat)
    ⟨h.next ▸ haligned _ h.aligned (h.next ▸ hnext.1), hnext⟩
  have htimes : resetTimes cal sub plan now =
      (last, calcNextResetTime cal last plan sub.endTime, true) := by
    rw [resetTimes, resetWalk, ← h.next, if_pos hnext, hwalk]
  have hfrozen : ¬plan.Frozen := by
    unfold SubscriptionPlan.Frozen SubscriptionPlan.customStep
    split_ifs with hcustom
    · rw [durationSeconds_eq hcustom.2 hplan, Option.some_inj]
      omega
    · simp
  have hdue := not_due_resetTimes (fun _ => hcal.forward) sub now hfrozen
  rw [htimes] at hdue
  refine ⟨{ sub with
      amountUsed := 0, lastResetTime := last, resets := sub.resets + 1
      nextResetTime := calcNextResetTime cal last plan sub.endTime }, ?_, ?_, hle, ?_, rfl, rfl⟩
  · rw [resetRow, if_neg (by omega), if_neg, htimes]
    intro hnever
    rw [h.next, calcNextResetTime, hnever] at hnext
    exact absurd hnext.1 (lt_irrefl 0)
  · have hbase : ∀ s : UserSubscription, s.lastResetTime = last → resetBase s = last :=
      fun s hs => by rw [resetBase, hs, if_neg (by omega)]
    refine ⟨?_, ?_, ?_, ?_⟩ <;> rw [hbase _ rfl]
    · exact hlast
    · exact hpos
    · exact hle
  · obtain hzero | ⟨-, hlt, -⟩ := (calcNextResetTime_spec hcal hplan hlast).first
    · exact .inl hzero
    · dsimp only at hdue ⊢
      omega

theorem resetsRight_of_kept (h : Kept cal plan sub clock) (hclock : clock ≤ now) :
    Kept cal plan ((resetRow cal sub plan now).getD sub) now ∧
      ResetsRight cal offset monthStart plan sub ((resetRow cal sub plan now).getD sub) now := by
  have hpos := h.pos
  have hfirst : FirstAfter (Boundary offset monthStart plan sub.startTime) sub.endTime
      (resetBase sub) sub.nextResetTime := by
    rw [h.next]
    exact calcNextResetTime_spec hcal hplan h.aligned
  by_cases hdue : 0 < sub.nextResetTime ∧ sub.nextResetTime ≤ now
  · obtain ⟨sub', hrow, hkept, hlast, hnext, hcleared⟩ := resetRow_of_due hcal hplan h hdue
    obtain ⟨hboundary, hlt, hend⟩ := hfirst.first.resolve_left hdue.1.ne'
    rw [hrow, Option.getD_some]
    exact ⟨hkept, hnext, hlast, fun _ => hcleared,
      fun hnot => absurd ⟨_, hboundary, hend, hlt, hdue.2⟩ hnot,
      resetRow_eq_none hkept (by omega)⟩
  · have hrow := resetRow_eq_none h hdue
    have hle := h.le.trans hclock
    rw [hrow, Option.getD_none]
    refine ⟨⟨h.next, h.aligned, hpos, hle⟩, ?_, ?_, ?_, fun _ => ⟨rfl, rfl⟩, hrow⟩
    · obtain hzero | ⟨-, hlt, -⟩ := hfirst.first
      · exact .inl hzero
      · omega
    · unfold resetBase at hle hpos
      split_ifs at hle <;> omega
    · rintro ⟨t, ht, hend, hlt, htnow⟩
      have := hfirst.le t ht hlt hend
      omega

end

/-- The usage changes in some way, then a reset runs. The second component is the time of the last
run. -/
def resetStep (cal : Calendar) (plan : SubscriptionPlan) (s : UserSubscription × ℤ) (e : ℤ × ℤ) :
    UserSubscription × ℤ :=
  let sub := { s.1 with amountUsed := e.1 }
  ((resetRow cal sub plan e.2).getD sub, e.2)

end Mujian.Billing

namespace Mujian.Subscriptions

open Billing
open Runs (Meets)

/-- **In every run of resets of a new subscription each of them does what it should**, provided that
the offset of the local time is fixed, the plan stays as it is and its period does not overflow. -/
theorem resets_at_boundaries (cal : PlanCalendar) (offset : ℤ) (monthStart : ℤ → ℤ)
    (hcal : FixedOffset cal.toCalendar offset monthStart) (plan : SubscriptionPlan)
    (hplan : plan.quotaResetCustomSeconds * 10 ^ 9 < 2 ^ 63) (now userId : ℤ) (hnow : 0 < now)
    (source : String) (endUnix : ℤ) (prevGroup : String) (id : ℤ) (hid : 0 < id)
    (runs : List (ℤ × ℤ)) :
    let row := (newSubscription cal now userId plan source endUnix prevGroup).row id hid
    let step := resetStep cal.toCalendar plan.toSubscriptionPlan
    Meets step (fun s e => s.2 ≤ e.2) (row.toUserSubscription, now) runs →
      Meets step (fun s e => ResetsRight cal.toCalendar offset monthStart plan.toSubscriptionPlan
          { s.1 with amountUsed := e.1 } (step s e).1 e.2)
        (row.toUserSubscription, now) runs := by
  intro row step hruns
  have hbase : resetBase row.toUserSubscription = now := by
    simp only [row, resetBase, NewSubscription.row, newSubscription]
    split_ifs <;> omega
  have hused : ∀ (s : Billing.UserSubscription × ℤ) (used : ℤ),
      Kept cal.toCalendar plan.toSubscriptionPlan s.1 s.2 →
      Kept cal.toCalendar plan.toSubscriptionPlan { s.1 with amountUsed := used } s.2 :=
    fun s used h => ⟨h.next, h.aligned, h.pos, h.le⟩
  refine hruns.imp (P := fun s => Kept cal.toCalendar plan.toSubscriptionPlan s.1 s.2)
    (fun s e h hclock => (resetsRight_of_kept hcal hplan (hused s e.1 h) hclock).1)
    (fun s e h hclock => (resetsRight_of_kept hcal hplan (hused s e.1 h) hclock).2) ⟨?_, ?_, ?_, ?_⟩
  · rw [hbase]
    simp only [row, NewSubscription.row, newSubscription]
  · rw [hbase]
    exact fun _ => ⟨0, by simp [row, NewSubscription.row, newSubscription]⟩
  · rwa [hbase]
  · rw [hbase]

def dailyPlan : SubscriptionPlan := ⟨⟨"daily", 0⟩, 5, .month, 1, 0, 1, "vip", 1000⟩

theorem resets_at_boundaries_sample :
    FixedOffset utcCalendar.toCalendar 0 (fun month => 86400 * Calendars.firstDay month) ∧
      Meets (resetStep .utc ⟨"daily", 0⟩) (fun s e =>
          ResetsRight .utc 0 (fun month => 86400 * Calendars.firstDay month) ⟨"daily", 0⟩
            { s.1 with amountUsed := e.1 } (resetStep .utc ⟨"daily", 0⟩ s e).1 e.2)
        (((newSubscription utcCalendar 1000 1 dailyPlan "order" 2592000 "").row 1
          (by decide)).toUserSubscription, 1000) [(5, 80000), (7, 180000)] := by
  have hcal : FixedOffset utcCalendar.toCalendar 0
      (fun month => 86400 * Calendars.firstDay month) := by
    have hkeeps := Calendars.Zone.steady_utc.keepsMidnights
    have hunix : ∀ day, Calendars.utc.midnight day = 86400 * day := by
      simp [Calendars.Zone.midnight, Calendars.Zone.unix, Calendars.utc]
    have hday : ∀ base, Calendars.utc.day base = base / 86400 := by
      simp [Calendars.Zone.day, Calendars.Zone.wall, Calendars.utc]
    refine ⟨fun base => ?_, fun base days => ?_, fun month month' h => ?_, fun base =>
      ⟨Calendars.monthOf (base / 86400), ?_, ?_, fun months => ?_⟩⟩
    · rw [add_zero, ← hday]
      rfl
    · refine (hkeeps.midnightAfter_eq base days).trans ?_
      rw [hunix, hday, add_zero, sub_zero, mul_comm]
    · have := Calendars.firstDay_mono (show month + 1 ≤ month' by omega)
      have := Calendars.firstDay_succ month
      omega
    · have := (Calendars.monthOf_spec (base / 86400)).1
      omega
    · have := (Calendars.monthOf_spec (base / 86400)).2
      omega
    · refine (hkeeps.monthStartAfter_eq base months).trans ?_
      rw [hunix, hday]
  exact ⟨hcal, resets_at_boundaries utcCalendar 0 _ hcal dailyPlan (by decide) 1000 1 (by decide)
    "order" 2592000 "" 1 (by decide) _ ⟨by decide, by decide, trivial⟩⟩

end Mujian.Subscriptions
