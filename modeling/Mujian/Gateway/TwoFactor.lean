import Mujian.Foundations.Runs
import Mathlib.Algebra.Order.Ring.Int
import Mathlib.Data.List.Nodup

/-!
# Two-factor verification

A verification saves the row of the user with the failures counted on the copy that it has read, so
several can check a code before one has saved (`six_codes_checked`). `wrong_codes_le` is about
verifications that do not overlap. Two that have selected the same backup code both succeed
(`code_works_twice`, `backupCode_works_once`).
-/

namespace Mujian.Gateway

open Runs (Meets)
open Function (update)

/-- The columns of the row that count failures. -/
structure TwoFA where
  failedAttempts : ℕ
  lockedUntil : Option ℤ
  deriving DecidableEq

def maxFailAttempts : ℕ := 5

def lockoutDuration : ℤ := 300

def TwoFA.isLocked (t : TwoFA) (now : ℤ) : Bool := t.lockedUntil.any fun until_ => now < until_

def TwoFA.incrementFailedAttempts (t : TwoFA) (now : ℤ) : TwoFA :=
  if t.failedAttempts + 1 ≥ maxFailAttempts then
    ⟨t.failedAttempts + 1, some (now + lockoutDuration)⟩
  else { t with failedAttempts := t.failedAttempts + 1 }

/-- What comparing a code gives. A malformed code, or an error of a statement, ends in an error:
then no failure is counted. -/
inductive Verdict
  | right | wrong | error

/-- How far a verification has got, with its copy of the row. After a wrong code it may go on from
there: a login first tries the code as a TOTP code, then as a backup code. -/
inductive Stage
  | idle
  | read (t : TwoFA)
  | failing (t : TwoFA)
  | passing (t : TwoFA)
  deriving DecidableEq

def Stage.Unsaved : Stage → Prop
  | failing _ | passing _ => True
  | _ => False

structure Lockout where
  now : ℤ
  row : TwoFA
  stage : ℕ → Stage

namespace Lockout

/-- A step of the verification `i`, or of the clock. -/
inductive Event
  | read (i : ℕ)
  | check (i : ℕ) (verdict : Verdict)
  | save (i : ℕ) (fails : Bool)
  | tick (seconds : ℕ)

section

variable (s : Lockout)

/-- The steps of `ValidateTOTPAndUpdateUsage` and `ValidateBackupCodeAndUpdateUsage`. The error of
the update is only logged. -/
def step : Event → Lockout
  | .read i => if s.stage i = .idle then { s with stage := update s.stage i (.read s.row) } else s
  | .check i verdict =>
    match s.stage i with
    | .read t =>
      if t.isLocked s.now then { s with stage := update s.stage i .idle }
      else
        match verdict with
        | .right => { s with stage := update s.stage i (.passing t) }
        | .wrong => { s with stage := update s.stage i (.failing t) }
        | .error => { s with stage := update s.stage i .idle }
    | _ => s
  | .save i fails =>
    match s.stage i with
    | .failing t =>
      let t := t.incrementFailedAttempts s.now
      { s with row := if fails then s.row else t, stage := update s.stage i (.read t) }
    | .passing _ =>
      { s with row := if fails then s.row else ⟨0, none⟩, stage := update s.stage i .idle }
    | _ => s
  | .tick seconds => { s with now := s.now + seconds }

/-- A code is compared with the secret or with the backup codes. -/
def Compares (i : ℕ) : Prop := ∃ t, s.stage i = .read t ∧ t.isLocked s.now = false

instance (s : Lockout) (i : ℕ) : Decidable (s.Compares i) :=
  match h : s.stage i with
  | .read t => decidable_of_iff (t.isLocked s.now = false) (by simp [Compares, h])
  | .idle | .failing _ | .passing _ => .isFalse (by simp [Compares, h])

def wrongCode : Event → ℕ
  | .check i .wrong => if s.Compares i then 1 else 0
  | _ => 0

def wrongCodes (s : Lockout) : List Event → ℕ
  | [] => 0
  | e :: es => s.wrongCode e + wrongCodes (s.step e) es

/-- No verification succeeds and no lockout ends. -/
def Quiet : Event → Prop
  | .check i .right => ¬s.Compares i
  | .tick seconds => s.row.isLocked s.now → s.row.isLocked (s.now + seconds)
  | _ => True

/-- Verifications do not overlap from check to save, and saves succeed. -/
def Exclusive : Event → Prop
  | .check i _ => s.Compares i → s.stage i = .read s.row ∧ ∀ j, ¬(s.stage j).Unsaved
  | .save _ fails => fails = false
  | _ => True

end

/-- At most `n` more wrong codes can be compared. -/
inductive Allows (s : Lockout) (n : ℕ) : Prop
  | saved (hnone : ∀ j, ¬(s.stage j).Unsaved)
      (h : s.row.isLocked s.now ∨ 1 ≤ n ∧ maxFailAttempts ≤ s.row.failedAttempts + n)
  | failing (i : ℕ) (hi : s.stage i = .failing s.row) (honly : ∀ j ≠ i, ¬(s.stage j).Unsaved)
      (h : maxFailAttempts ≤ s.row.failedAttempts + 1 + n)
  | passing (i : ℕ) (t : TwoFA) (hi : s.stage i = .passing t)
      (honly : ∀ j ≠ i, ¬(s.stage j).Unsaved) (h : maxFailAttempts ≤ n)

variable {s : Lockout} {e : Event} {n : ℕ}

theorem Allows.mono {m : ℕ} (h : s.Allows n) (hle : n ≤ m) : s.Allows m := by
  cases h with
  | saved hnone h => exact .saved hnone (h.imp_right fun h => ⟨by omega, by omega⟩)
  | failing i hi honly h => exact .failing i hi honly (by omega)
  | passing i t hi honly h => exact .passing i t hi honly (by omega)

theorem not_unsaved_update {i j : ℕ} {x : Stage} (hx : ¬x.Unsaved)
    (hj : j ≠ i → ¬(s.stage j).Unsaved) : ¬(update s.stage i x j).Unsaved := by
  by_cases h : j = i
  · rwa [h, Function.update_self]
  · rw [Function.update_of_ne h]
    exact hj h

section

variable (h : s.Allows n)
include h

/-- A verification that has nothing to save goes on to a stage with nothing to save. -/
theorem Allows.update {i : ℕ} {x : Stage} (hi : ¬(s.stage i).Unsaved)
    (hx : ¬x.Unsaved) : ({ s with stage := update s.stage i x } : Lockout).Allows n := by
  have hne {k : ℕ} (hk : (s.stage k).Unsaved) : k ≠ i := fun hki => hi (hki ▸ hk)
  cases h with
  | saved hnone h => exact .saved (fun j => not_unsaved_update hx fun _ => hnone j) h
  | failing k hk honly h =>
    have hki := hne (by rw [hk]; trivial)
    exact .failing k (by rw [← hk]; exact Function.update_of_ne hki _ _)
      (fun j hj => not_unsaved_update hx fun _ => honly j hj) h
  | passing k t hk honly h =>
    have hki := hne (by rw [hk]; trivial)
    exact .passing k t (by rw [← hk]; exact Function.update_of_ne hki _ _)
      (fun j hj => not_unsaved_update hx fun _ => honly j hj) h

/-- What is left when a save is due. -/
theorem Allows.of_unsaved {i : ℕ} (hi : (s.stage i).Unsaved) : (∀ j ≠ i, ¬(s.stage j).Unsaved) ∧
      (s.stage i = .failing s.row ∧ maxFailAttempts ≤ s.row.failedAttempts + 1 + n ∨
        (∃ t, s.stage i = .passing t) ∧ maxFailAttempts ≤ n) := by
  cases h with
  | saved hnone => exact absurd hi (hnone i)
  | failing k hk honly h =>
    obtain rfl : i = k := by_contra fun hne => honly i hne hi
    exact ⟨honly, .inl ⟨hk, h⟩⟩
  | passing k t hk honly h =>
    obtain rfl : i = k := by_contra fun hne => honly i hne hi
    exact ⟨honly, .inr ⟨⟨t, hk⟩, h⟩⟩

theorem allows_save {i : ℕ} : (s.step (.save i false)).Allows n := by
  by_cases hi : (s.stage i).Unsaved
  · obtain ⟨honly, ⟨hi, h⟩ | ⟨⟨t, hi⟩, h⟩⟩ := h.of_unsaved hi <;>
      simp only [step, hi, Bool.false_eq_true, if_false] <;>
      refine .saved (fun j => not_unsaved_update (by simp [Stage.Unsaved]) (honly j)) ?_
    · unfold TwoFA.incrementFailedAttempts
      split_ifs with hlock
      · exact .inl (by simp [TwoFA.isLocked, lockoutDuration])
      · exact .inr ⟨by omega, h⟩
    · exact .inr ⟨le_trans (by decide) h, by simpa using h⟩
  · cases hstage : s.stage i with
    | idle | read => simpa only [step, hstage] using h
    | failing | passing => exact absurd (by rw [hstage]; trivial) hi

/-- Comparing a wrong code uses up one of those that are left. -/
theorem allows_step (hexclusive : Exclusive s e) (hquiet : Quiet s e ∨ maxFailAttempts ≤ n) :
    s.wrongCode e ≤ n ∧ (s.step e).Allows (n - s.wrongCode e) := by
  cases e with
  | read i =>
    refine ⟨Nat.zero_le _, ?_⟩
    simp only [step]
    split_ifs with hi
    · exact h.update (by simp [hi, Stage.Unsaved]) (by simp [Stage.Unsaved])
    · exact h
  | save i fails =>
    obtain rfl : fails = false := hexclusive
    exact ⟨Nat.zero_le _, allows_save h⟩
  | tick seconds =>
    refine ⟨Nat.zero_le _, ?_⟩
    cases h with
    | saved hnone h =>
      refine .saved hnone ?_
      obtain hquiet | hmax := hquiet
      · exact h.imp_left hquiet
      · exact .inr ⟨le_trans (by decide) hmax, by simp [step, wrongCode]; omega⟩
    | failing i hi honly h => exact .failing i hi honly h
    | passing i t hi honly h => exact .passing i t hi honly h
  | check i verdict =>
    by_cases hcompares : s.Compares i
    · obtain ⟨hi, hnone⟩ := hexclusive hcompares
      obtain ⟨t, ht, hlocked⟩ := hcompares
      obtain rfl : s.row = t := by simpa [hi] using ht
      obtain ⟨hn, hmax⟩ : 1 ≤ n ∧ maxFailAttempts ≤ s.row.failedAttempts + n := by
        cases h with
        | saved _ h => exact h.resolve_left (by simp [hlocked])
        | failing j hj | passing j t hj => exact absurd (by rw [hj]; trivial) (hnone j)
      have hother : ∀ {x : Stage} (j : ℕ), j ≠ i → ¬(update s.stage i x j).Unsaved :=
        fun j hj => by rw [Function.update_of_ne hj]; exact hnone j
      cases verdict with
      | right =>
        refine ⟨Nat.zero_le _, ?_⟩
        have hmax := hquiet.resolve_left fun hquiet => hquiet ⟨_, hi, hlocked⟩
        simp only [step, hi, hlocked, Bool.false_eq_true, if_false]
        exact .passing i s.row (Function.update_self ..) hother hmax
      | wrong =>
        have hone : s.wrongCode (.check i .wrong) = 1 := if_pos ⟨_, hi, hlocked⟩
        simp only [hone, step, hi, hlocked, Bool.false_eq_true, if_false]
        exact ⟨hn, .failing i (Function.update_self ..) hother (by simp only; omega)⟩
      | error =>
        refine ⟨Nat.zero_le _, ?_⟩
        simp only [step, hi, hlocked, Bool.false_eq_true, if_false]
        exact h.update (by simp [hi, Stage.Unsaved]) (by simp [Stage.Unsaved])
    · have hzero : s.wrongCode (.check i verdict) = 0 := by
        cases verdict <;> simp [wrongCode, hcompares]
      rw [hzero]
      refine ⟨Nat.zero_le _, ?_⟩
      simp only [step]
      split
      · rename_i t hi
        rw [if_pos (by simpa [Compares, hi] using hcompares)]
        exact h.update (by simp [hi, Stage.Unsaved]) (by simp [Stage.Unsaved])
      · exact h

theorem wrongCodes_le_of_allows {es : List Event}
    (hexclusive : Meets step Exclusive s es) (hquiet : Meets step Quiet s es) :
    s.wrongCodes es ≤ n := by
  induction es generalizing s n with
  | nil => exact Nat.zero_le _
  | cons e es ih =>
    obtain ⟨hle, hallows⟩ := allows_step h hexclusive.1 (.inl hquiet.1)
    have hrest := ih hallows hexclusive.2 hquiet.2
    simp only [wrongCodes]
    omega

end

/-- **If verifications do not overlap from check to save and no save fails, at most
`maxFailAttempts` wrong codes are compared in any period without a success and without the end of a
lockout.** -/
theorem wrong_codes_le (now : ℤ) (row : TwoFA) (before period : List Event)
    (hexclusive : Meets step Exclusive ⟨now, row, fun _ => .idle⟩ (before ++ period))
    (hquiet : Meets step Quiet (before.foldl step ⟨now, row, fun _ => .idle⟩) period) :
    wrongCodes (before.foldl step ⟨now, row, fun _ => .idle⟩) period ≤ maxFailAttempts := by
  have hstart : Allows ⟨now, row, fun _ => .idle⟩ maxFailAttempts :=
    .saved (fun _ => id) (.inr ⟨by decide, by simp⟩)
  rw [Runs.meets_append] at hexclusive
  have hallows := Runs.induction (P := fun s => s.Allows maxFailAttempts) (fun s e h hx => ?_)
    hstart hexclusive.1
  · refine wrongCodes_le_of_allows hallows hexclusive.2 hquiet
  · exact (allows_step h hx (.inr le_rfl)).2.mono (Nat.sub_le _ _)

/-- One verification, which has read the row. -/
def trying (row : TwoFA) : Lockout := ⟨0, row, update (fun _ => .idle) 0 (.read row)⟩

theorem meets_trying {row : TwoFA} {es : List Event} (hlocked : row.isLocked 0 = false)
    (h : Meets step Exclusive (trying (row.incrementFailedAttempts 0)) es) :
    Meets step Exclusive (trying row) (.check 0 .wrong :: .save 0 false :: es) := by
  have hstep : ((trying row).step (.check 0 .wrong)).step (.save 0 false) =
      trying (row.incrementFailedAttempts 0) := by
    simp [step, trying, hlocked]
  refine ⟨fun _ => ⟨by simp [trying], fun j => ?_⟩, rfl, ?_⟩
  · by_cases hj : j = 0 <;> simp [trying, hj, Stage.Unsaved]
  · rw [hstep]
    exact h

/-- Six wrong codes in a row: the fifth locks the user out, and the sixth is not compared. -/
def sixCodes : List Event :=
  .read 0 :: (List.replicate 6 [.check 0 .wrong, .save 0 false]).flatten

theorem wrong_codes_le_sample :
    wrongCodes ⟨0, ⟨0, none⟩, fun _ => .idle⟩ sixCodes = 5 ∧
      wrongCodes ⟨0, ⟨0, none⟩, fun _ => .idle⟩ sixCodes ≤ maxFailAttempts := by
  refine ⟨by decide, wrong_codes_le 0 ⟨0, none⟩ [] _ ⟨trivial, ?_⟩ ?_⟩
  · change Meets step Exclusive (trying ⟨0, none⟩) _
    iterate 5 refine meets_trying (by decide) ?_
    exact ⟨fun h => absurd h (by decide), rfl, trivial⟩
  · exact ⟨trivial, trivial, trivial, trivial, trivial, trivial, trivial, trivial, trivial, trivial,
      trivial, trivial, trivial, trivial⟩

/-- Six verifications have read the row before one of them has saved it. -/
theorem six_codes_checked :
    wrongCodes ⟨0, ⟨0, none⟩, fun _ => .idle⟩ ((List.range 6).map .read ++
      (List.range 6).map fun i => .check i .wrong) = 6 := by decide

end Lockout

structure TwoFABackupCode where
  id : ℕ
  codeHash : String
  (isUsed deleted : Bool)

/-- The backup codes of a user, the codes that verifications have selected and not yet saved, and
the codes of the successful verifications. -/
structure BackupCodes where
  rows : List TwoFABackupCode
  nextId : ℕ
  held : ℕ → Option TwoFABackupCode
  succeeded : List ℕ

namespace BackupCodes

/-- A statement of the verification `i`, or the transaction of a regeneration. -/
inductive Event
  | select (i : ℕ) (normalizedCode : String)
  | save (i : ℕ) (fails : Bool)
  | createBackupCodes (hashes : List String)

variable (validatePasswordAndHash : String → String → Bool)

/-- The first unused code that the given one matches. -/
def find (s : BackupCodes) (normalizedCode : String) : Option TwoFABackupCode :=
  s.rows.find? fun bc =>
    !bc.isUsed && !bc.deleted && validatePasswordAndHash normalizedCode bc.codeHash

/-- The statements of `ValidateBackupCode` and `CreateBackupCodes`. The update of `Save` inserts a
code that was deleted since it was selected. -/
def step (s : BackupCodes) : Event → BackupCodes
  | .select i normalizedCode =>
    { s with held := update s.held i (s.find validatePasswordAndHash normalizedCode) }
  | .save i fails =>
    match s.held i with
    | none => s
    | some bc =>
      if fails then { s with held := update s.held i none }
      else
        { s with
          rows := s.rows.map fun r => if r.id = bc.id then { bc with isUsed := true } else r
          held := update s.held i none, succeeded := bc.id :: s.succeeded }
  | .createBackupCodes hashes =>
    { s with
      rows := s.rows.map (fun r => { r with deleted := true }) ++
        hashes.mapIdx fun k hash => ⟨s.nextId + k, hash, false, false⟩
      nextId := s.nextId + hashes.length }

/-- No other verification holds the code that is selected. -/
def Unheld (s : BackupCodes) : Event → Prop
  | .select i normalizedCode => ∀ bc ∈ s.find validatePasswordAndHash normalizedCode,
    ∀ j ≠ i, ∀ bc' ∈ s.held j, bc'.id ≠ bc.id
  | _ => True

/-- A code that has worked is used, and not held. -/
structure Inv (s : BackupCodes) : Prop where
  rows : ∀ r ∈ s.rows, r.id < s.nextId ∧ (r.id ∈ s.succeeded → r.isUsed = true)
  held : ∀ i, ∀ bc ∈ s.held i, bc.id < s.nextId ∧ bc.id ∉ s.succeeded
  apart : ∀ i j, ∀ bc ∈ s.held i, ∀ bc' ∈ s.held j, bc.id = bc'.id → i = j
  succeeded : ∀ id ∈ s.succeeded, id < s.nextId
  nodup : s.succeeded.Nodup

variable {validatePasswordAndHash} {s : BackupCodes} {e : Event}

theorem mem_update {i j : ℕ} {x : Option TwoFABackupCode} {bc : TwoFABackupCode}
    (h : bc ∈ update s.held i x j) : j = i ∧ bc ∈ x ∨ j ≠ i ∧ bc ∈ s.held j := by
  by_cases hj : j = i
  · exact .inl ⟨hj, by rwa [hj, Function.update_self] at h⟩
  · exact .inr ⟨hj, by rwa [Function.update_of_ne hj] at h⟩

theorem inv_step (h : s.Inv) (hcond : Unheld validatePasswordAndHash s e) :
    (s.step validatePasswordAndHash e).Inv := by
  cases e with
  | select i code =>
    refine ⟨h.rows, fun j bc hbc => ?_, fun j k bc hbc bc' hbc' heq => ?_, h.succeeded, h.nodup⟩
    · obtain ⟨-, hfound⟩ | ⟨-, hold⟩ := mem_update hbc
      · obtain ⟨hlt, hused⟩ := h.rows bc (List.mem_of_find?_eq_some hfound)
        have hunused := List.find?_some hfound
        exact ⟨hlt, fun hmem => by simp [hused hmem] at hunused⟩
      · exact h.held j bc hold
    · obtain ⟨hj, hnew⟩ | ⟨hj, hold⟩ := mem_update hbc <;>
        obtain ⟨hk, hnew'⟩ | ⟨hk, hold'⟩ := mem_update hbc'
      · exact hj.trans hk.symm
      · exact absurd heq.symm (hcond bc hnew k hk bc' hold')
      · exact absurd heq (hcond bc' hnew' j hj bc hold)
      · exact h.apart j k bc hold bc' hold' heq
  | save i fails =>
    simp only [step]
    split
    · exact h
    · rename_i bc hbc
      have hheld {j : ℕ} {bc' : TwoFABackupCode} (hbc' : bc' ∈ update s.held i none j) :
          j ≠ i ∧ bc' ∈ s.held j := by simpa using mem_update hbc'
      split_ifs
      · exact ⟨h.rows, fun j bc' hbc' => h.held j bc' (hheld hbc').2,
          fun j k b hb b' hb' => h.apart j k b (hheld hb).2 b' (hheld hb').2, h.succeeded, h.nodup⟩
      · obtain ⟨hlt, hnew⟩ := h.held i bc hbc
        refine ⟨List.forall_mem_map.2 fun r hr => ?_, fun j bc' hbc' => ?_,
          fun j k b hb b' hb' => h.apart j k b (hheld hb).2 b' (hheld hb').2,
          List.forall_mem_cons.2 ⟨hlt, h.succeeded⟩, List.nodup_cons.2 ⟨hnew, h.nodup⟩⟩
        · split_ifs with hid
          · exact ⟨hlt, fun _ => rfl⟩
          · exact ⟨(h.rows r hr).1, fun hmem => (h.rows r hr).2
              ((List.mem_cons.1 hmem).resolve_left hid)⟩
        · obtain ⟨hj, hbc'⟩ := hheld hbc'
          refine ⟨(h.held j bc' hbc').1, fun hmem => ?_⟩
          obtain heq | hmem := List.mem_cons.1 hmem
          · exact hj (h.apart j i bc' hbc' bc hbc heq)
          · exact (h.held j bc' hbc').2 hmem
  | createBackupCodes hashes =>
    refine ⟨fun r hr => ?_, fun j bc hbc => ?_, h.apart,
      fun id hid => Nat.lt_add_right _ (h.succeeded id hid), h.nodup⟩
    · obtain hr | hr := List.mem_append.1 hr
      · obtain ⟨old, hold, rfl⟩ := List.mem_map.1 hr
        exact ⟨Nat.lt_add_right _ (h.rows old hold).1, (h.rows old hold).2⟩
      · -- a new code has a new id
        obtain ⟨k, hk, rfl⟩ := List.mem_mapIdx.1 hr
        exact ⟨Nat.add_lt_add_left hk _,
          fun hmem => absurd (h.succeeded _ hmem) (Nat.not_lt.2 (Nat.le_add_right _ _))⟩
    · exact ⟨Nat.lt_add_right _ (h.held j bc hbc).1, (h.held j bc hbc).2⟩

/-- **If no verification selects a code that another one holds, every backup code leads to at most
one successful verification.** -/
theorem backupCode_works_once (validatePasswordAndHash : String → String → Bool)
    (rows : List TwoFABackupCode) (nextId : ℕ) (hids : ∀ r ∈ rows, r.id < nextId)
    (events : List Event)
    (h : Meets (step validatePasswordAndHash) (Unheld validatePasswordAndHash)
      ⟨rows, nextId, fun _ => none, []⟩ events) (id : ℕ) :
    (events.foldl (step validatePasswordAndHash)
      ⟨rows, nextId, fun _ => none, []⟩).succeeded.count id ≤ 1 := by
  have hstart : Inv ⟨rows, nextId, fun _ => none, []⟩ :=
    ⟨fun r hr => ⟨hids r hr, by simp⟩, by simp, by simp, by simp, List.nodup_nil⟩
  exact List.nodup_iff_count_le_one.1 (Runs.induction (fun _ _ => inv_step) hstart h).nodup id

/-- A user with one code, whose hash is the code itself. -/
def oneCode : BackupCodes := ⟨[⟨0, "AAAA-0000", false, false⟩], 1, fun _ => none, []⟩

theorem backupCode_works_once_sample :
    ([.select 0 "AAAA-0000", .save 0 false, .select 1 "AAAA-0000", .save 1 false].foldl
        (step (· == ·)) oneCode).succeeded = [0] ∧
      ([.select 0 "AAAA-0000", .save 0 false, .select 1 "AAAA-0000", .save 1 false].foldl
        (step (· == ·)) oneCode).succeeded.count 0 ≤ 1 := by
  refine ⟨by decide +kernel, backupCode_works_once (· == ·) _ _ (by decide) _ ?_ 0⟩
  refine ⟨?_, trivial, ?_, trivial, trivial⟩
  · simp [Unheld]
  · have hnone : find (· == ·) ([.select 0 "AAAA-0000", .save 0 false].foldl
        (step (· == ·)) oneCode)
        "AAAA-0000" = none := by decide +kernel
    intro bc hbc
    exact absurd (hnone.symm.trans hbc) (by simp)

/-- Both verifications have selected the code before one of them has saved it. -/
theorem code_works_twice :
    ([.select 0 "AAAA-0000", .select 1 "AAAA-0000", .save 0 false, .save 1 false].foldl
      (step (· == ·)) oneCode).succeeded = [0, 0] := by decide +kernel

end BackupCodes

end Mujian.Gateway
