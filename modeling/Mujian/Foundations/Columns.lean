import Mujian.Foundations.Table

/-!
# Rows with a version and with columns

Optimistic concurrency on a table: an `UPDATE` of some text columns of a row names the version it
expects and adds one to it. `Versioned` has the laws of independent columns. Writing the previous
values takes the changes back (`updateVersion_previous`). A row only ever becomes `Later`, so one
that has changed is not affected by a statement that expects its old version (`Later.changed`).
-/

namespace Mujian

/-- Rows with a version and with text columns that can be written one by one. -/
class Versioned (ρ : Type) extends Keyed ρ String where
  owner : ρ → String
  version : ρ → ℤ
  deleted : ρ → Bool
  columns : List String
  value : ρ → String → String
  write : String → String → ρ → ρ
  /-- The row with its written columns emptied: what a write keeps. -/
  blank : ρ → ρ
  bump : ρ → ρ
  key_write : ∀ c v r, key (write c v r) = key r
  key_bump : ∀ r, key (bump r) = key r
  owner_write : ∀ c v r, owner (write c v r) = owner r
  owner_bump : ∀ r, owner (bump r) = owner r
  version_write : ∀ c v r, version (write c v r) = version r
  version_bump : ∀ r, version (bump r) = version r + 1
  deleted_write : ∀ c v r, deleted (write c v r) = deleted r
  deleted_bump : ∀ r, deleted (bump r) = deleted r
  value_write_self : ∀ c v r, c ∈ columns → value (write c v r) c = v
  value_write_ne : ∀ c d v r, d ≠ c → value (write c v r) d = value r d
  blank_write : ∀ c v r, blank (write c v r) = blank r
  bump_write : ∀ c v r, bump (write c v r) = write c v (bump r)
  value_bump : ∀ c r, value (bump r) c = value r c
  ext : ∀ r r', blank r = blank r' → (∀ c ∈ columns, value r c = value r' c) → r = r'

namespace Versioned

variable {ρ : Type} [Versioned ρ]

/-- `Updates` with a map of columns, without the version. -/
def writes (values : List (String × String)) (r : ρ) : ρ :=
  values.foldl (fun r cv => write cv.1 cv.2 r) r

@[simp] theorem writes_cons (cv : String × String) (values : List (String × String)) (r : ρ) :
    writes (cv :: values) r = writes values (write cv.1 cv.2 r) := rfl

section

variable (values : List (String × String)) (r : ρ)

@[simp] theorem key_writes : Keyed.key (writes values r) = Keyed.key r := by
  induction values generalizing r with
  | nil => rfl
  | cons cv values ih => rw [writes_cons, ih, key_write]

@[simp] theorem owner_writes : owner (writes values r) = owner r := by
  induction values generalizing r with
  | nil => rfl
  | cons cv values ih => rw [writes_cons, ih, owner_write]

@[simp] theorem version_writes : version (writes values r) = version r := by
  induction values generalizing r with
  | nil => rfl
  | cons cv values ih => rw [writes_cons, ih, version_write]

@[simp] theorem deleted_writes : deleted (writes values r) = deleted r := by
  induction values generalizing r with
  | nil => rfl
  | cons cv values ih => rw [writes_cons, ih, deleted_write]

theorem blank_writes : blank (writes values r) = blank r := by
  induction values generalizing r with
  | nil => rfl
  | cons cv values ih => rw [writes_cons, ih, blank_write]

theorem bump_writes : bump (writes values r) = writes values (bump r) := by
  induction values generalizing r with
  | nil => rfl
  | cons cv values ih => rw [writes_cons, ih, bump_write, writes_cons]

theorem value_writes {c : String} (h : ∀ cv ∈ values, c ≠ cv.1) :
    value (writes values r) c = value r c := by
  induction values generalizing r with
  | nil => rfl
  | cons cv values ih =>
    rw [writes_cons, ih _ fun cv' hcv' => h cv' (List.mem_cons_of_mem _ hcv'),
      value_write_ne _ _ _ _ (h cv List.mem_cons_self)]

end

/-- The values a row has in the columns of a list of changes. -/
def previous (changes : List (String × String)) (r : ρ) : List (String × String) :=
  changes.map fun cv => (cv.1, value r cv.1)

/-- Writing the values of `r` in some columns makes a row that agrees with `r` everywhere else
equal to `r`. -/
theorem writes_previous_of_agree {changes : List (String × String)} {r s : ρ}
    (hcolumns : ∀ cv ∈ changes, cv.1 ∈ columns ρ) (hblank : blank s = blank r)
    (hagree : ∀ c ∈ columns ρ, (∀ cv ∈ changes, c ≠ cv.1) → value s c = value r c) :
    writes (previous changes r) s = r := by
  induction changes generalizing s with
  | nil => exact ext s r hblank fun c hc => hagree c hc fun cv hcv => absurd hcv List.not_mem_nil
  | cons cv changes ih =>
    apply ih
    · exact fun cv' hcv' => hcolumns cv' (List.mem_cons_of_mem _ hcv')
    · rw [blank_write, hblank]
    · intro c hc hne
      -- the column just written has its value of `r`, the others keep theirs
      by_cases hcv : c = cv.1
      · rw [hcv, value_write_self _ _ _ (hcolumns cv List.mem_cons_self)]
      · rw [value_write_ne _ _ _ _ hcv]
        apply hagree c hc
        intro cv' hcv'
        rcases List.mem_cons.1 hcv' with rfl | hcv'
        · exact hcv
        · exact hne cv' hcv'

/-- Writing the previous values of the changed columns takes the changes back. -/
theorem writes_previous_writes {changes : List (String × String)} {r : ρ}
    (hcolumns : ∀ cv ∈ changes, cv.1 ∈ columns ρ) :
    writes (previous changes r) (writes changes r) = r :=
  writes_previous_of_agree hcolumns (blank_writes changes r) fun _ _ hne =>
    value_writes changes r hne

section

variable {t t' : Table ρ} {id o : String} {v : ℤ} {values : List (String × String)} {r : ρ}

/-- The row that a statement on an owner's rows addresses. -/
def select (t : Table ρ) (id o : String) : Option ρ :=
  (t.find? id).filter fun r => owner r == o && !deleted r

theorem select_eq_some_iff :
    select t id o = some r ↔ t.find? id = some r ∧ owner r = o ∧ deleted r = false := by
  simp [select]

/-- `UPDATE … SET values, version = version + 1 WHERE id AND owner AND version`, refused when it
affects no row. -/
def updateVersion (t : Table ρ) (id o : String) (v : ℤ) (values : List (String × String)) :
    Option (Table ρ) :=
  if (select t id o).any fun r => version r == v then
    some (t.modify id fun r => bump (writes values r))
  else none

theorem updateVersion_eq_some_iff : updateVersion t id o v values = some t' ↔
      ∃ r, select t id o = some r ∧ version r = v ∧
        t' = t.modify id fun r => bump (writes values r) := by
  unfold updateVersion
  cases select t id o with
  | none => simp
  | some r =>
    simp only [Option.any_some, beq_iff_eq, Option.some.injEq, exists_eq_left']
    split
    · rename_i hv
      simp only [Option.some.injEq, hv, true_and]
      exact eq_comm
    · rename_i hv
      simp [hv]

section

variable (h : updateVersion t id o v values = some t')
include h

/-- The row that a versioned update affects, afterwards. -/
theorem find?_updateVersion (hr : select t id o = some r) (k : String) :
    t'.find? k = if k = id then some (bump (writes values r)) else t.find? k := by
  obtain ⟨_, -, -, rfl⟩ := updateVersion_eq_some_iff.1 h
  rw [Table.find?_modify fun r => (key_bump _).trans (key_writes values r),
    (select_eq_some_iff.1 hr).1, Option.map_some]

theorem find?_of_updateVersion {k : String} {r' : ρ}
    (hr' : t'.find? k = some r') : ∃ r, t.find? k = some r := by
  obtain ⟨r, hr, -⟩ := updateVersion_eq_some_iff.1 h
  rw [find?_updateVersion h hr] at hr'
  split at hr'
  · rename_i hk
    exact ⟨r, hk ▸ (select_eq_some_iff.1 hr).1⟩
  · exact ⟨r', hr'⟩

/-- A versioned update can be taken back by one that expects the version it made. -/
theorem updateVersion_previous
    (hr : select t id o = some r) (hcolumns : ∀ cv ∈ values, cv.1 ∈ columns ρ) :
    ∃ t'', updateVersion t' id o (v + 1) (previous values r) = some t'' ∧
      ∀ k, t''.find? k = if k = id then some (bump (bump r)) else t.find? k := by
  obtain ⟨r', hr', hv, -⟩ := updateVersion_eq_some_iff.1 h
  obtain rfl : r = r' := Option.mem_unique hr hr'
  obtain ⟨hfind, howner, hlive⟩ := select_eq_some_iff.1 hr
  have hsel : select t' id o = some (bump (writes values r)) := by
    apply select_eq_some_iff.2
    refine ⟨by rw [find?_updateVersion h hr, if_pos rfl], ?_, ?_⟩
    · rw [owner_bump, owner_writes, howner]
    · rw [deleted_bump, deleted_writes, hlive]
  have hversion : version (bump (writes values r)) = v + 1 := by
    rw [version_bump, version_writes, hv]
  have hundo : updateVersion t' id o (v + 1) (previous values r) = some _ :=
    updateVersion_eq_some_iff.2 ⟨_, hsel, hversion, rfl⟩
  refine ⟨_, hundo, fun k => ?_⟩
  rw [find?_updateVersion hundo hsel, find?_updateVersion h hr]
  split
  · rw [← bump_writes, writes_previous_writes hcolumns]
  · rfl

end

end

/-- What a row can become: itself, a row of a greater version, or a removed row. -/
def Later (r r' : ρ) : Prop :=
  r' = r ∨ version r < version r' ∨ version r ≤ version r' ∧ deleted r = false ∧ deleted r' = true

theorem Later.refl (r : ρ) : Later r r := Or.inl rfl

theorem Later.trans {r r' r'' : ρ} (h : Later r r') (h' : Later r' r'') : Later r r'' := by
  rcases h with rfl | h | ⟨h, hlive, hdel⟩
  · exact h'
  · rcases h' with rfl | h' | ⟨h', -⟩
    · exact Or.inr (Or.inl h)
    · exact Or.inr (Or.inl (h.trans h'))
    · exact Or.inr (Or.inl (h.trans_le h'))
  · rcases h' with rfl | h' | ⟨-, hlive', -⟩
    · exact Or.inr (Or.inr ⟨h, hlive, hdel⟩)
    · exact Or.inr (Or.inl (h.trans_lt h'))
    · rw [hdel] at hlive'
      cases hlive'

theorem Later.version_le {r r' : ρ} (h : Later r r') : version r ≤ version r' := by
  rcases h with rfl | h | ⟨h, -⟩
  · exact le_rfl
  · exact h.le
  · exact h

/-- A row that has changed is gone or has another version. -/
theorem Later.changed {r r' : ρ} (h : Later r r') (hne : r' ≠ r) :
    ¬ (deleted r' = false ∧ version r' = version r) := by
  rintro ⟨hlive, hversion⟩
  rcases h with rfl | h | ⟨-, -, hdel⟩
  · exact hne rfl
  · omega
  · rw [hdel] at hlive
    cases hlive

/-- Every row of `t` is still in `t'`, as it was or later. -/
def Advances (t t' : Table ρ) : Prop :=
  ∀ k r, t.find? k = some r → ∃ r', t'.find? k = some r' ∧ Later r r'

theorem Advances.refl (t : Table ρ) : Advances t t := fun _ r hr => ⟨r, hr, Later.refl r⟩

theorem Advances.trans {t t' t'' : Table ρ} (h : Advances t t') (h' : Advances t' t'') :
    Advances t t'' := by
  intro k r hr
  obtain ⟨r', hr', hlater⟩ := h k r hr
  obtain ⟨r'', hr'', hlater'⟩ := h' k r' hr'
  exact ⟨r'', hr'', hlater.trans hlater'⟩

theorem updateVersion_advances {t t' : Table ρ} {id o : String} {v : ℤ}
    {values : List (String × String)} (h : updateVersion t id o v values = some t') :
    Advances t t' := by
  obtain ⟨r, hr, -⟩ := updateVersion_eq_some_iff.1 h
  intro k s hs
  rw [find?_updateVersion h hr]
  split
  · rename_i hk
    obtain rfl : s = r := Option.some.inj (hs.symm.trans (hk ▸ (select_eq_some_iff.1 hr).1))
    refine ⟨_, rfl, Or.inr (Or.inl ?_)⟩
    rw [version_bump, version_writes]
    omega
  · exact ⟨s, hs, Later.refl s⟩

end Versioned

end Mujian
