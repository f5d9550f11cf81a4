import Mathlib.Algebra.BigOperators.Group.List.Basic
import Mathlib.Algebra.Order.Ring.Int
import Mathlib.Data.List.Sort

/-!
# Tables with a unique key

A relational table as the list of its rows, with the uniqueness of the key carried by the type. The
operations are those of the SQL statements a program issues: `find?` and `select`; `updateWhere`,
with the number `countWhere` of affected rows; `insert?`, refused when the key is taken, and
`deleteWhere`; and `modifyWhere`, `modify` and `add`, without a side condition. Each comes with its
effect on `find?` and on `sumBy`, the sum of a quantity over the rows.
-/

namespace Mujian

/-- Rows of type `ρ` are identified by a key of type `κ`. -/
class Keyed (ρ : Type*) (κ : outParam Type*) where
  key : ρ → κ

open Keyed (key)

/-- A table: a list of rows with pairwise different keys. -/
structure Table (ρ : Type*) {κ : Type*} [Keyed ρ κ] where
  rows : List ρ
  nodup_keys : (rows.map key).Nodup

namespace Table

variable {ρ κ : Type*} [Keyed ρ κ]

variable {t t' : Table ρ} {r : ρ} {p : ρ → Bool} {k : κ} {f : ρ → ρ}

@[ext] theorem ext (h : t.rows = t'.rows) : t = t' := by
  cases t; cases t'; cases h; rfl

instance [DecidableEq ρ] : DecidableEq (Table ρ) := fun t t' =>
  decidable_of_iff (t.rows = t'.rows) ⟨ext, fun h => h ▸ rfl⟩

/-- The table without rows. -/
def empty : Table ρ := ⟨[], by simp⟩

theorem eq_of_key_eq (t : Table ρ) {r' : ρ} (h : r ∈ t.rows) (h' : r' ∈ t.rows)
    (hk : key r = key r') : r = r' :=
  List.inj_on_of_nodup_map t.nodup_keys h h' hk

def find? [DecidableEq κ] (t : Table ρ) (k : κ) : Option ρ := t.rows.find? fun r => key r == k

section

variable [DecidableEq κ]

variable {t : Table ρ} {k : κ} {r : ρ}

theorem find?_eq_none_iff : t.find? k = none ↔ ∀ r ∈ t.rows, key r ≠ k := by simp [find?]

theorem key_of_find? (h : t.find? k = some r) : key r = k := by simpa using List.find?_some h

theorem mem_of_find? (h : t.find? k = some r) : r ∈ t.rows := List.mem_of_find?_eq_some h

theorem find?_key_of_mem (h : r ∈ t.rows) : t.find? (key r) = some r := by
  cases hfind : t.find? (key r) with
  | none => exact absurd rfl (find?_eq_none_iff.1 hfind r h)
  | some r' => rw [t.eq_of_key_eq (mem_of_find? hfind) h (key_of_find? hfind)]

theorem find?_eq_some_iff : t.find? k = some r ↔ r ∈ t.rows ∧ key r = k :=
  ⟨fun h => ⟨mem_of_find? h, key_of_find? h⟩, fun ⟨h, hk⟩ => hk ▸ find?_key_of_mem h⟩

end

def select (t : Table ρ) (p : ρ → Bool) (le : ρ → ρ → Prop) [DecidableRel le] : List ρ :=
  (t.rows.filter p).insertionSort le

theorem mem_select {le : ρ → ρ → Prop} [DecidableRel le] :
    r ∈ t.select p le ↔ r ∈ t.rows ∧ p r = true := by
  rw [select, List.mem_insertionSort, List.mem_filter]

/-- `UPDATE … SET f WHERE p`; the update keeps the key of every row it touches. -/
def updateWhere (t : Table ρ) (p : ρ → Bool) (f : ρ → ρ)
    (hf : ∀ r, p r = true → key (f r) = key r) : Table ρ where
  rows := t.rows.map fun r => if p r then f r else r
  nodup_keys := by
    have h : (key ∘ fun r => if p r then f r else r) = key := by
      funext r
      simp only [Function.comp]
      split
      · exact hf r ‹_›
      · rfl
    rw [List.map_map, h]
    exact t.nodup_keys

/-- The number of rows an `UPDATE … WHERE p` affects. -/
def countWhere (t : Table ρ) (p : ρ → Bool) : ℕ := t.rows.countP p

/-- A predicate that forces the key selects at most the row with that key. -/
theorem countWhere_of_key [DecidableEq κ] (t : Table ρ) (hp : ∀ r, p r = true → key r = k) :
    t.countWhere p = if (t.find? k).any p then 1 else 0 := by
  have hnd := t.nodup_keys
  rw [countWhere, find?]
  generalize t.rows = l at hnd ⊢
  induction l with
  | nil => rfl
  | cons r l ih =>
    rw [List.map_cons, List.nodup_cons] at hnd
    rw [List.countP_cons]
    by_cases hk : key r = k
    · -- no later row has this key, so the rest of the table contributes nothing
      have hrest : List.countP p l = 0 := by
        rw [List.countP_eq_zero]
        intro r' hr' hpr'
        exact hnd.1 (List.mem_map.2 ⟨r', hr', (hp r' hpr').trans hk.symm⟩)
      simp [hk, hrest]
    · have hbeq : (key r == k) = false := by simpa using hk
      have hpr : p r = false := by
        cases h : p r with
        | false => rfl
        | true => exact absurd (hp r h) hk
      simp [hbeq, hpr, ih hnd.2]

/-- Change the row with key `k`, if there is one. -/
def update [DecidableEq κ] (t : Table ρ) (k : κ) (f : ρ → ρ)
    (hf : ∀ r, key r = k → key (f r) = k) : Table ρ :=
  t.updateWhere (fun r => key r == k) f fun r hr => by
    have hk : key r = k := by simpa using hr
    rw [hf r hk, hk]

/-- An update whose condition holds of the row with key `k` and of no other row changes that
row. -/
theorem updateWhere_eq_update [DecidableEq κ]
    {hf : ∀ r, p r = true → key (f r) = key r} (hf' : ∀ r, key r = k → key (f r) = k)
    (hp : ∀ r, p r = true → key r = k) (hr : t.find? k = some r) (hpr : p r = true) :
    t.updateWhere p f hf = t.update k f hf' := by
  apply ext
  refine List.map_congr_left fun r' hr' => ?_
  by_cases hk : key r' = k
  · obtain rfl := t.eq_of_key_eq hr' (mem_of_find? hr) (hk.trans (key_of_find? hr).symm)
    simp [hpr, hk]
  · have hpr' : p r' = false := by
      cases h : p r' with
      | false => rfl
      | true => exact absurd (hp r' h) hk
    simp [hpr', hk]

/-- An update whose condition holds of no row changes nothing. -/
theorem updateWhere_eq_self
    {hf : ∀ r, p r = true → key (f r) = key r} (h : ∀ r ∈ t.rows, p r = false) :
    t.updateWhere p f hf = t := by
  apply ext
  refine (List.map_congr_left fun r hr => ?_).trans (List.map_id _)
  simp [h r hr]

section

variable [DecidableEq κ] {t : Table ρ} {k : κ} {f : ρ → ρ} {hf : ∀ r, key r = k → key (f r) = k}

theorem find?_updateWhere {hf : ∀ r, p r = true → key (f r) = key r} (k' : κ) :
    (t.updateWhere p f hf).find? k' = (t.find? k').map fun r => if p r then f r else r := by
  have hkey : ∀ r, key (if p r then f r else r) = key r := by
    intro r
    split
    · exact hf r ‹_›
    · rfl
  rw [find?, updateWhere, List.find?_map]
  congr 2
  funext r
  simp only [Function.comp, hkey r]

/-- A change to the row with key `k`, as a lookup sees it. -/
theorem map_find?_key (k k' : κ) : ((t.find? k').map fun r => if key r == k then f r else r) =
      if k' = k then (t.find? k).map f else t.find? k' := by
  split
  · subst k'
    cases h : t.find? k with
    | none => rfl
    | some r => simp [key_of_find? h]
  · rename_i hk
    cases h : t.find? k' with
    | none => rfl
    | some r => simp [key_of_find? h, hk]

theorem find?_update (k' : κ) :
    (t.update k f hf).find? k' = if k' = k then (t.find? k).map f else t.find? k' :=
  (find?_updateWhere k').trans (map_find?_key k k')

theorem find?_update_self (h : t.find? k = some r) :
    (t.update k f hf).find? k = some (f r) := by rw [find?_update, if_pos rfl, h, Option.map_some]

theorem update_update {g : ρ → ρ} {hg : ∀ r, key r = k → key (g r) = k} :
    (t.update k f hf).update k g hg = t.update k (g ∘ f) fun r h => hg _ (hf r h) := by
  apply ext
  change List.map _ (List.map _ t.rows) = List.map _ t.rows
  rw [List.map_map]
  refine List.map_congr_left fun r _ => ?_
  by_cases h : key r = k
  · simp [h, hf r h]
  · simp [h]

theorem update_eq_self (h : ∀ r, f r = r) : t.update k f hf = t := by
  apply ext
  refine (List.map_congr_left fun r _ => ?_).trans (List.map_id _)
  simp [h r]

theorem update_of_find?_eq_none (h : t.find? k = none) : t.update k f hf = t :=
  updateWhere_eq_self fun r hr => by simpa using find?_eq_none_iff.1 h r hr

end

/-- `INSERT`, refused when the key is taken. -/
def insert? [DecidableEq κ] (t : Table ρ) (r : ρ) : Option (Table ρ) :=
  if h : t.find? (key r) = none then
    some ⟨r :: t.rows, by
      rw [List.map_cons, List.nodup_cons]
      refine ⟨fun hmem => ?_, t.nodup_keys⟩
      obtain ⟨r', hr', hk⟩ := List.mem_map.1 hmem
      exact find?_eq_none_iff.1 h r' hr' hk⟩
  else none

theorem insert?_eq_some_iff [DecidableEq κ] :
    t.insert? r = some t' ↔ t.find? (key r) = none ∧ t'.rows = r :: t.rows := by
  unfold insert?
  split
  · rename_i h
    constructor
    · rintro ⟨⟩
      exact ⟨h, rfl⟩
    · rintro ⟨-, h'⟩
      exact congrArg some (ext h'.symm)
  · rename_i h
    simp [h]

theorem find?_insert [DecidableEq κ] (h : t.insert? r = some t') (k : κ) :
    t'.find? k = if k = key r then some r else t.find? k := by
  obtain ⟨-, hrows⟩ := insert?_eq_some_iff.1 h
  rw [find?, hrows]
  by_cases hk : key r = k
  · simp [hk]
  · have hbeq : (key r == k) = false := by simpa using hk
    simp [hbeq, Ne.symm hk, find?]

/-- `DELETE … WHERE p`. -/
def deleteWhere (t : Table ρ) (p : ρ → Bool) : Table ρ where
  rows := t.rows.filter fun r => !p r
  nodup_keys := t.nodup_keys.sublist (List.filter_sublist.map _)

theorem find?_deleteWhere [DecidableEq κ] (t : Table ρ) (p : ρ → Bool) (k : κ) :
    (t.deleteWhere p).find? k = (t.find? k).filter fun r => !p r := by
  cases hfind : t.find? k with
  | none =>
    refine find?_eq_none_iff.2 fun r hr => ?_
    exact find?_eq_none_iff.1 hfind r (List.mem_filter.1 hr).1
  | some r =>
    obtain ⟨hr, hk⟩ := find?_eq_some_iff.1 hfind
    cases hp : p r with
    | false =>
      simp only [Option.filter, hp]
      exact find?_eq_some_iff.2 ⟨List.mem_filter.2 ⟨hr, by simp [hp]⟩, hk⟩
    | true =>
      simp only [Option.filter, hp]
      refine find?_eq_none_iff.2 fun r' hr' hk' => ?_
      obtain ⟨hmem, hp'⟩ := List.mem_filter.1 hr'
      obtain rfl := t.eq_of_key_eq hmem hr (hk'.trans hk.symm)
      simp [hp] at hp'

/-! ## Statements without a side condition

An `UPDATE` that does not write the key column needs no proof that it keeps the keys when the
change is applied through `keepKey`, and an `INSERT` none that the key is free when a refused one
leaves the table as it is. -/

section

variable [DecidableEq κ]

/-- Apply a change to a row, unless it would change the key of the row. -/
def keepKey (f : ρ → ρ) (r : ρ) : ρ := if key (f r) = key r then f r else r

theorem key_keepKey (f : ρ → ρ) (r : ρ) : key (keepKey f r) = key r := by
  unfold keepKey
  split
  · assumption
  · rfl

theorem keepKey_eq (hf : ∀ r, key (f r) = key r) : keepKey f = f := by
  funext r
  exact if_pos (hf r)

/-- `UPDATE … SET f WHERE p`, for a change that leaves the key column alone. -/
def modifyWhere (t : Table ρ) (p : ρ → Bool) (f : ρ → ρ) : Table ρ :=
  t.updateWhere p (keepKey f) fun r _ => key_keepKey f r

/-- Change the row with key `k`, if there is one. -/
def modify (t : Table ρ) (k : κ) (f : ρ → ρ) : Table ρ := t.modifyWhere (fun r => key r == k) f

/-- Add a row, if its key is free. -/
def add (t : Table ρ) (r : ρ) : Table ρ := (t.insert? r).getD t

variable {t : Table ρ} {f : ρ → ρ}

theorem find?_modifyWhere (hf : ∀ r, key (f r) = key r) (p : ρ → Bool) (k : κ) :
    (t.modifyWhere p f).find? k = (t.find? k).map fun r => if p r then f r else r := by
  rw [modifyWhere, find?_updateWhere, keepKey_eq hf]

theorem find?_modify (hf : ∀ r, key (f r) = key r) (k k' : κ) :
    (t.modify k f).find? k' = if k' = k then (t.find? k).map f else t.find? k' :=
  (find?_modifyWhere hf _ k').trans (map_find?_key k k')

theorem rows_add (h : t.find? (key r) = none) : (t.add r).rows = r :: t.rows := by
  simp [add, insert?, h]

theorem add_of_taken (h : t.find? (key r) ≠ none) : t.add r = t := by simp [add, insert?, h]

theorem find?_add (h : t.find? (key r) = none) (k : κ) :
    (t.add r).find? k = if k = key r then some r else t.find? k := by
  have hins : t.insert? r = some (t.add r) := insert?_eq_some_iff.2 ⟨h, rows_add h⟩
  exact find?_insert hins k

theorem find?_modify_ne {k' : κ} (h : k' ≠ k) : (t.modify k f).find? k' = t.find? k' := by
  rw [modify, modifyWhere, find?_updateWhere]
  cases hr : t.find? k' with
  | none => rfl
  | some r => simp [key_of_find? hr, h]

end

section

variable [DecidableEq κ]

/-- An `INSERT` of several rows, refused when one of the keys is taken. -/
def insertAll? (t : Table ρ) (rs : List ρ) : Option (Table ρ) := rs.foldlM insert? t

theorem insertAll?_eq_some {rs : List ρ} (h : t.insertAll? rs = some t') :
    (rs.map key).Nodup ∧ (∀ r ∈ rs, t.find? (key r) = none ∧ t'.find? (key r) = some r) ∧
      ∀ k, k ∉ rs.map key → t'.find? k = t.find? k := by
  induction rs generalizing t with
  | nil =>
    cases h
    simp
  | cons r rs ih =>
    obtain ⟨t₁, hins, hrest⟩ := Option.bind_eq_some_iff.1 h
    obtain ⟨hnd, hnew, hkept⟩ := ih hrest
    have hfree := (insert?_eq_some_iff.1 hins).1
    -- the key just inserted is not free for the rows after it
    have hr : key r ∉ rs.map key := by
      intro hmem
      obtain ⟨r', hr', hk⟩ := List.mem_map.1 hmem
      have := (hnew r' hr').1
      rw [find?_insert hins, hk, if_pos rfl] at this
      cases this
    refine ⟨List.nodup_cons.2 ⟨hr, hnd⟩, ?_, ?_⟩
    · intro r' hr'
      rcases List.mem_cons.1 hr' with rfl | hr'
      · refine ⟨hfree, ?_⟩
        rw [hkept _ hr, find?_insert hins, if_pos rfl]
      · obtain ⟨hnone, hsome⟩ := hnew r' hr'
        rw [find?_insert hins] at hnone
        split at hnone
        · cases hnone
        · exact ⟨hnone, hsome⟩
    · intro k hk
      rw [List.map_cons, List.mem_cons, not_or] at hk
      rw [hkept k hk.2, find?_insert hins, if_neg hk.1]

/-- A statement on the rows with one of several keys affects that many rows if and only if it
affects each of them. -/
theorem countWhere_keys (t : Table ρ) {ks : List κ} (hks : ks.Nodup) (q : ρ → Bool) :
    t.countWhere (fun r => ks.contains (key r) && q r) = ks.length ↔
      ∀ k ∈ ks, ∃ r, t.find? k = some r ∧ q r = true := by
  rw [countWhere, List.countP_eq_length_filter]
  set l := t.rows.filter fun r => ks.contains (key r) && q r with hl
  have hnd : (l.map key).Nodup := t.nodup_keys.sublist (List.filter_sublist.map _)
  have hsub : l.map key ⊆ ks := by
    intro k hk
    obtain ⟨r, hr, rfl⟩ := List.mem_map.1 hk
    rw [List.mem_filter] at hr
    exact List.contains_iff_mem.1 (Bool.and_eq_true_iff.1 hr.2).1
  constructor
  · intro hlen k hk
    have hperm : (l.map key).Perm ks :=
      (List.subperm_of_subset hnd hsub).perm_of_length_le (by rw [List.length_map, hlen])
    obtain ⟨r, hr, rfl⟩ := List.mem_map.1 (hperm.mem_iff.2 hk)
    rw [List.mem_filter] at hr
    exact ⟨r, find?_key_of_mem hr.1, (Bool.and_eq_true_iff.1 hr.2).2⟩
  · intro hall
    have hperm : (l.map key).Perm ks := by
      refine (List.perm_ext_iff_of_nodup hnd hks).2 fun k => ⟨fun hk => hsub hk, fun hk => ?_⟩
      obtain ⟨r, hr, hq⟩ := hall k hk
      refine List.mem_map.2 ⟨r, ?_, key_of_find? hr⟩
      rw [List.mem_filter]
      refine ⟨mem_of_find? hr, ?_⟩
      simp [key_of_find? hr, hk, hq]
    rw [← hperm.length_eq, List.length_map]

end

def sumBy (t : Table ρ) (g : ρ → ℤ) : ℤ := (t.rows.map g).sum

theorem sumBy_insert [DecidableEq κ] (h : t.insert? r = some t')
    (g : ρ → ℤ) : t'.sumBy g = t.sumBy g + g r := by
  obtain ⟨-, hrows⟩ := insert?_eq_some_iff.1 h
  rw [sumBy, hrows, List.map_cons, List.sum_cons, sumBy, add_comm]

theorem sumBy_update [DecidableEq κ]
    {hf : ∀ r, key r = k → key (f r) = k} (hr : t.find? k = some r) (g : ρ → ℤ) :
    (t.update k f hf).sumBy g = t.sumBy g + (g (f r) - g r) := by
  have hnd := t.nodup_keys
  obtain ⟨hmem, hk⟩ := find?_eq_some_iff.1 hr
  rw [sumBy, sumBy, update, updateWhere, List.map_map]
  generalize t.rows = l at hnd hmem ⊢
  induction l with
  | nil => simp at hmem
  | cons a l ih =>
    rw [List.map_cons, List.nodup_cons] at hnd
    simp only [List.map_cons, List.sum_cons, Function.comp]
    rcases List.mem_cons.1 hmem with rfl | hmem
    · -- the rows after the updated one have other keys, hence stay
      have hrest : l.map (g ∘ fun a => if key a == k then f a else a) = l.map g := by
        refine List.map_congr_left fun a ha => ?_
        have hne : key a ≠ k := fun h => hnd.1 (List.mem_map.2 ⟨a, ha, h.trans hk.symm⟩)
        simp [hne]
      rw [hrest]
      simp only [hk, beq_self_eq_true, if_true]
      omega
    · have hne : key a ≠ k := fun h => hnd.1 (List.mem_map.2 ⟨r, hmem, hk.trans h.symm⟩)
      rw [ih hnd.2 hmem]
      simp only [beq_iff_eq, hne, if_false]
      omega

theorem sumBy_congr {g g' : ρ → ℤ} (h : ∀ r ∈ t.rows, g r = g' r) :
    t.sumBy g = t.sumBy g' := by rw [sumBy, sumBy, List.map_congr_left h]

end Table

end Mujian
