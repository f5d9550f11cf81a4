import Mathlib.Algebra.Order.Ring.Int
import Mathlib.Data.Int.ModEq
import Mathlib.Order.Monotone.Basic
import Mathlib.Tactic.Linarith

/-!
# The calendar of a time zone

Times are counted in seconds from 1970-01-01 UTC, days from 1970-01-01 and months from March of the
year 0 in the proleptic Gregorian calendar. A `Zone` says by how much its clocks are ahead of UTC at
each time. `unix` is the time at which the clocks of the zone show a given reading, found in two
lookups of the offset, as `time.Date` of Go does; a reading that is skipped when clocks are put
forward has no such time. Where no midnight is skipped and the date never goes back, the next
midnights and starts of months lie ahead (`lt_midnightAfter`, `lt_monthStartAfter`).
-/

namespace Mujian.Calendars

/-- The first day of a month. The year begins in March, so that a leap day ends it. -/
def firstDay (month : ℤ) : ℤ :=
  let year := month / 12
  365 * year + year / 4 - year / 100 + year / 400 + (153 * (month % 12) + 2) / 5 - 719468

-- January 1970, and March 2024 after a leap day
example : firstDay 23638 = 0 ∧ firstDay 24288 = 19783 ∧ firstDay 24287 = 19754 := by decide

/-- Every month has 28 days at least. -/
theorem firstDay_succ (month : ℤ) : firstDay month + 28 ≤ firstDay (month + 1) := by
  dsimp only [firstDay]
  by_cases hlast : month % 12 = 11
  · -- the year changes, and with it the count of leap days
    rw [show (month + 1) / 12 = month / 12 + 1 by omega, show (month + 1) % 12 = 0 by omega, hlast]
    omega
  · rw [show (month + 1) / 12 = month / 12 by omega,
      show (month + 1) % 12 = month % 12 + 1 by omega]
    omega

theorem firstDay_add (month : ℤ) (n : ℕ) : firstDay month + 28 * n ≤ firstDay (month + n) := by
  induction n with
  | zero => simp
  | succ n ih =>
    have := firstDay_succ (month + n)
    push_cast
    rw [← add_assoc]
    omega

theorem firstDay_mono {month month' : ℤ} (h : month ≤ month') : firstDay month ≤ firstDay month' :=
  monotone_int_of_le_succ (fun month => by
    have := firstDay_succ month
    omega) h

/-- The months are spread evenly, up to a few days. -/
theorem firstDay_bounds (month : ℤ) :
    146097 * month - 4800 * 3 ≤ 4800 * (firstDay month + 719468) ∧
      4800 * (firstDay month + 719468) ≤ 146097 * month + 4800 * 5 := by
  dsimp only [firstDay]
  omega

/-- The month of a day: 400 years have 4800 months and 146097 days, and a month that is estimated
from this is next to the right one. -/
def monthOf (day : ℤ) : ℤ :=
  let estimate := (day + 719468) * 4800 / 146097
  if day < firstDay estimate then estimate - 1
  else if firstDay (estimate + 1) ≤ day then estimate + 1
  else estimate

theorem monthOf_spec (day : ℤ) :
    firstDay (monthOf day) ≤ day ∧ day < firstDay (monthOf day + 1) := by
  unfold monthOf
  set estimate := (day + 719468) * 4800 / 146097 with hestimate
  have hbelow : firstDay (estimate - 1) ≤ day := by
    have := (firstDay_bounds (estimate - 1)).2
    omega
  have habove : day < firstDay (estimate + 1 + 1) := by
    have := (firstDay_bounds (estimate + 1 + 1)).1
    omega
  dsimp only
  split_ifs with hlt hle
  · exact ⟨hbelow, by rwa [sub_add_cancel]⟩
  · exact ⟨hle, habove⟩
  · exact ⟨not_lt.1 hlt, not_le.1 hle⟩

theorem monthOf_eq {day month : ℤ} (h : firstDay month ≤ day) (h' : day < firstDay (month + 1)) :
    monthOf day = month := by
  obtain ⟨hle, hlt⟩ := monthOf_spec day
  by_contra hne
  rcases lt_or_gt_of_ne hne with hbefore | hafter
  · have := firstDay_mono (show monthOf day + 1 ≤ month by omega)
    omega
  · have := firstDay_mono (show month + 1 ≤ monthOf day by omega)
    omega

@[simp]
theorem monthOf_firstDay (month : ℤ) : monthOf (firstDay month) = month :=
  monthOf_eq le_rfl (by have := firstDay_succ month; omega)

/-- A time zone, by how many seconds its clocks are ahead of UTC; less than a day either way. -/
structure Zone where
  offset : ℤ → ℤ
  neg_lt_offset : ∀ t, -86400 < offset t
  offset_lt : ∀ t, offset t < 86400

def utc : Zone := ⟨fun _ => 0, by simp, by simp⟩

namespace Zone

section

variable (zone : Zone) (t : ℤ)

/-- What the clocks show, as a count of seconds. -/
def wall : ℤ := t + zone.offset t

/-- The time of a reading of the clocks: the offset is looked up at the reading, and once more at
the time this leads to. -/
def unix (reading : ℤ) : ℤ := reading - zone.offset (reading - zone.offset reading)

def day : ℤ := zone.wall t / 86400

/-- Sunday is 0. -/
def weekday : ℤ := (zone.day t + 4) % 7

def midnight (day : ℤ) : ℤ := zone.unix (86400 * day)

/-- The same time of day some days later. -/
def addDays (days : ℤ) : ℤ := zone.unix (zone.wall t + 86400 * days)

/-- The reading of the clocks at the same day of the month and time of day some months later; the
days that this month does not have are counted into the next one. -/
def readingAfter (months : ℤ) : ℤ :=
  let month := monthOf (zone.day t)
  86400 * (firstDay (month + months) + (zone.day t - firstDay month)) + zone.wall t % 86400

def addMonths (months : ℤ) : ℤ := zone.unix (zone.readingAfter t months)

def midnightAfter (days : ℤ) : ℤ := zone.addDays (zone.midnight (zone.day t)) days

def monthStartAfter (months : ℤ) : ℤ :=
  zone.addMonths (zone.midnight (firstDay (monthOf (zone.day t)))) months

/-- No midnight is skipped. -/
def KeepsMidnights : Prop := ∀ day, zone.wall (zone.midnight day) = 86400 * day

/-- No midnight is skipped, and clocks are never turned back over midnight. -/
structure Steady : Prop where
  keepsMidnights : zone.KeepsMidnights
  day_mono {s t : ℤ} : s ≤ t → zone.day s ≤ zone.day t

end

theorem steady_utc : utc.Steady where
  keepsMidnights day := by simp [wall, midnight, unix, utc]
  day_mono h := by
    simp only [day, wall, utc]
    omega

variable {zone : Zone}

/-- **Months later is later**, whatever the clocks do in between. -/
theorem lt_addMonths (t : ℤ) {months : ℤ} (h : 0 < months) : t < zone.addMonths t months := by
  obtain ⟨n, rfl⟩ := Int.eq_ofNat_of_zero_le h.le
  have hdays := firstDay_add (monthOf (zone.day t)) n
  have hwall : zone.wall t = t + zone.offset t := rfl
  have hday : zone.day t = zone.wall t / 86400 := rfl
  have hoffset := zone.neg_lt_offset t
  have hreading : zone.wall t + 2 * 86400 ≤ zone.readingAfter t n := by
    dsimp only [readingAfter]
    omega
  have hoffset' := zone.offset_lt (zone.readingAfter t n - zone.offset (zone.readingAfter t n))
  dsimp only [addMonths, unix]
  omega

/-- A time up to the year 2286 and three million million months stay far below `2 ^ 63` seconds. -/
theorem readingAfter_mem {t months : ℤ} (ht : 0 ≤ t) (ht' : t < 10 ^ 10) (hmonths : 0 < months)
    (hmonths' : months ≤ 3 * 10 ^ 12) :
    -2 ^ 63 ≤ zone.readingAfter t months ∧ zone.readingAfter t months < 2 ^ 63 := by
  have hwall : zone.wall t = t + zone.offset t := rfl
  have hday : zone.day t = zone.wall t / 86400 := rfl
  have hoffset := zone.neg_lt_offset t
  have hoffset' := zone.offset_lt t
  have hmonth := monthOf_spec (zone.day t)
  have hbelow := firstDay_bounds (monthOf (zone.day t))
  have habove := firstDay_bounds (monthOf (zone.day t) + 1)
  have hlater := firstDay_bounds (monthOf (zone.day t) + months)
  dsimp only [readingAfter]
  omega

theorem KeepsMidnights.day_midnight (h : zone.KeepsMidnights) (day : ℤ) :
    zone.day (zone.midnight day) = day := by
  rw [Zone.day, h day]
  omega

theorem KeepsMidnights.midnightAfter_eq (h : zone.KeepsMidnights) (t days : ℤ) :
    zone.midnightAfter t days = zone.midnight (zone.day t + days) := by
  rw [midnightAfter, addDays, h, midnight, mul_add]

theorem KeepsMidnights.monthStartAfter_eq (h : zone.KeepsMidnights) (t months : ℤ) :
    zone.monthStartAfter t months = zone.midnight (firstDay (monthOf (zone.day t) + months)) := by
  dsimp only [monthStartAfter, addMonths, readingAfter]
  rw [h.day_midnight, h, monthOf_firstDay, midnight, sub_self, add_zero, Int.mul_emod_right,
    add_zero]

/-- A midnight that is skipped, so that its time falls on the day before, is its own successor. -/
theorem midnightAfter_midnightAfter {t days : ℤ}
    (h : zone.day (zone.midnightAfter t days) = zone.day t) :
    zone.midnightAfter (zone.midnightAfter t days) days = zone.midnightAfter t days := by
  rw [midnightAfter, h]
  rfl

theorem Steady.lt_of_day_lt (h : zone.Steady) {s t : ℤ} (hlt : zone.day s < zone.day t) : s < t :=
  not_le.1 fun hle => not_le.2 hlt (h.day_mono hle)

/-- **The next midnights lie ahead.** -/
theorem Steady.lt_midnightAfter (h : zone.Steady) (t : ℤ) {days : ℤ} (hdays : 0 < days) :
    t < zone.midnightAfter t days := by
  refine h.lt_of_day_lt ?_
  rw [h.keepsMidnights.midnightAfter_eq, h.keepsMidnights.day_midnight]
  omega

/-- **The next starts of months lie ahead.** -/
theorem Steady.lt_monthStartAfter (h : zone.Steady) (t : ℤ) {months : ℤ} (hmonths : 0 < months) :
    t < zone.monthStartAfter t months := by
  refine h.lt_of_day_lt ?_
  rw [h.keepsMidnights.monthStartAfter_eq, h.keepsMidnights.day_midnight]
  have hlt := (monthOf_spec (zone.day t)).2
  have := firstDay_mono (show monthOf (zone.day t) + 1 ≤ monthOf (zone.day t) + months by omega)
  omega

end Zone

end Mujian.Calendars
