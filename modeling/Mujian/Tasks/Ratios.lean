import Mathlib.Algebra.Order.BigOperators.GroupWithZero.List
import Mujian.Foundations.Rounding

/-!
# The arithmetic of task ratios

A submission multiplies its quota by one ratio after the other, in the order in which the map of
the ratios is ranged over, and drops the fraction each time; `recalcQuotaFromRatios` divides by
them in the same way. On exact numbers, neither the order nor the division matters if every product
of some of the ratios makes a whole number of the quota; where no ratio is below 1, only then
(`keepsCharge_iff`).
-/

namespace Mujian.Tasks

/-- The loop of `RelayTaskSubmit` over the ratios, in the order of the iteration. -/
def applyRatios (quota : ℤ) (order : List ℚ) : ℤ :=
  order.foldl (fun q r => if r ≠ 1 then truncate (q * r : ℚ) else q) quota

/-- `recalcQuotaFromRatios`, with the orders of its two loops. -/
def recalcQuota (quota : ℤ) (applied adjusted : List ℚ) : ℤ :=
  let base := applied.foldl (fun q r =>
    if r ≠ 1 ∧ 0 < r then truncate ((q : ℚ) / r) else q) quota
  truncate (adjusted.foldl (fun x r => if r ≠ 1 then x * r else x) (base : ℚ))

/-- The order of the ratios does not matter, and with the same ratios the quota is the one that
was charged. -/
def KeepsCharge (quota : ℤ) (ratios : List ℚ) : Prop :=
  ∀ order order' applied adjusted : List ℚ, order.Perm ratios → order'.Perm ratios →
    applied.Perm ratios → adjusted.Perm ratios →
    applyRatios quota order = applyRatios quota order' ∧
      recalcQuota (applyRatios quota order) applied adjusted = applyRatios quota order

/-- No product of some of the ratios leaves a fraction of the quota. -/
def Whole (quota : ℤ) (ratios : List ℚ) : Prop :=
  ∀ part rest : List ℚ, (part ++ rest).Perm ratios → ∃ n : ℤ, quota * part.prod = n

variable {q q' : ℤ} {r : ℚ} {l ratios : List ℚ}

theorem applyRatios_cons (hq : 0 ≤ q) (hr : 0 < r) :
    applyRatios q (r :: l) = applyRatios ⌊q * r⌋ l := by
  have hpos : 0 ≤ q * r := mul_nonneg (Int.cast_nonneg hq) hr.le
  by_cases h : r = 1
  · simp [applyRatios, h]
  · simp [applyRatios, h, truncate, hpos]

/-- The quota is at most the exact product, and equal to it exactly if there was nothing to drop. -/
theorem applyRatios_spec (hl : ∀ r ∈ l, 0 < r) (hq : 0 ≤ q) :
    0 ≤ applyRatios q l ∧ applyRatios q l ≤ q * l.prod ∧ (applyRatios q l = q * l.prod ↔
      ∀ part rest, l = part ++ rest → ∃ n : ℤ, q * part.prod = n) := by
  induction l generalizing q with
  | nil =>
    refine ⟨hq, by simp [applyRatios], iff_of_true (by simp [applyRatios]) fun part rest h => ?_⟩
    exact ⟨q, by simp [(List.append_eq_nil_iff.1 h.symm).1]⟩
  | cons r l ih =>
    obtain ⟨hr, hl⟩ := List.forall_mem_cons.1 hl
    have hprod : 0 < l.prod := List.prod_pos hl
    have hfloor := Int.floor_le (q * r)
    obtain ⟨hnonneg, hle, hiff⟩ :=
      ih hl (Int.floor_nonneg.2 (mul_nonneg (Int.cast_nonneg hq) hr.le))
    rw [applyRatios_cons hq hr, List.prod_cons, ← mul_assoc]
    have hmul := mul_le_mul_of_nonneg_right hfloor hprod.le
    refine ⟨hnonneg, hle.trans hmul, fun h => ?_, fun h => ?_⟩
    · have hexact : (⌊q * r⌋ : ℚ) = q * r :=
        hfloor.antisymm (le_of_mul_le_mul_right (h ▸ hle) hprod)
      rintro (_ | ⟨_, part⟩) rest hsplit
      · exact ⟨q, by simp⟩
      · obtain rfl := (List.cons.inj hsplit).1
        rw [List.prod_cons, ← mul_assoc, ← hexact]
        exact hiff.1 (by rw [h, hexact]) part rest (List.cons.inj hsplit).2
    · obtain ⟨n, hn⟩ := h [r] l rfl
      rw [List.prod_singleton] at hn
      rw [hn, Int.floor_intCast] at hiff ⊢
      refine hiff.2 fun part rest hsplit => ?_
      rw [← hn, mul_assoc, ← List.prod_cons]
      exact h (r :: part) rest (congrArg (r :: ·) hsplit)

theorem applyRatios_mono (hl : ∀ r ∈ l, 0 < r) (hq : 0 ≤ q) (h : q ≤ q') :
    applyRatios q l ≤ applyRatios q' l := by
  induction l generalizing q q' with
  | nil => simpa [applyRatios] using h
  | cons r l ih =>
    obtain ⟨hr, hl⟩ := List.forall_mem_cons.1 hl
    rw [applyRatios_cons hq hr, applyRatios_cons (hq.trans h) hr]
    refine ih hl (Int.floor_nonneg.2 (mul_nonneg (Int.cast_nonneg hq) hr.le)) ?_
    gcongr

/-- Where no ratio is below 1, a larger quota is charged more. -/
theorem applyRatios_lt (hl : ∀ r ∈ l, 1 ≤ r) (hq : 0 ≤ q) (h : q < q') :
    applyRatios q l < applyRatios q' l := by
  induction l generalizing q q' with
  | nil => simpa [applyRatios] using h
  | cons r l ih =>
    obtain ⟨hr, hl⟩ := List.forall_mem_cons.1 hl
    have hpos : 0 < r := by linarith
    rw [applyRatios_cons hq hpos, applyRatios_cons (hq.trans h.le) hpos]
    refine ih hl (Int.floor_nonneg.2 (mul_nonneg (Int.cast_nonneg hq) hpos.le)) ?_
    have hnext : (q : ℚ) + 1 ≤ q' := by exact_mod_cast h
    have hstep : q * r + 1 ≤ q' * r := by nlinarith
    rw [← Int.add_one_le_iff, ← Int.floor_add_one]
    exact Int.floor_le_floor hstep

/-- The division is the multiplication by the inverse ratios. -/
theorem recalcQuota_eq {applied adjusted : List ℚ} (hl : ∀ r ∈ applied, 0 < r)
    (h : adjusted.Perm applied) : recalcQuota q applied adjusted =
      truncate (applyRatios q (applied.map (·⁻¹)) * applied.prod) := by
  have hmul (x : ℚ) : adjusted.foldl (fun x r => if r ≠ 1 then x * r else x) x =
      x * adjusted.prod := by
    clear h
    induction adjusted generalizing x with
    | nil => simp
    | cons r l ih =>
      rw [List.foldl_cons, ih, List.prod_cons]
      by_cases hr : r = 1 <;> simp [hr, mul_assoc]
  have hbase : applied.foldl (fun q r =>
      if r ≠ 1 ∧ 0 < r then truncate ((q : ℚ) / r) else q) q =
        applyRatios q (applied.map (·⁻¹)) := by
    rw [applyRatios, List.foldl_map]
    refine List.foldl_ext _ _ _ fun q r hr => ?_
    simp [hl r hr, div_eq_mul_inv]
  rw [recalcQuota, hmul, hbase, h.prod_eq]

theorem recalcQuota_eq_self_iff {applied adjusted : List ℚ} (hq : 0 ≤ q)
    (hpos : ∀ r ∈ applied, 0 < r) (h : adjusted.Perm applied) :
    recalcQuota q applied adjusted = q ↔
      ∀ part rest, applied = part ++ rest → ∃ n : ℤ, q / part.prod = n := by
  have hinv : ∀ r ∈ applied.map (·⁻¹), 0 < r :=
    List.forall_mem_map.2 fun r hr => inv_pos.2 (hpos r hr)
  have hprod : 0 < applied.prod := List.prod_pos hpos
  obtain ⟨hbase, hle, hiff⟩ := applyRatios_spec hinv hq
  rw [← List.prod_inv, ← div_eq_mul_inv] at hle hiff
  rw [le_div_iff₀ hprod] at hle
  rw [eq_div_iff hprod.ne'] at hiff
  have hkept {x y : ℚ} (h : x ≤ y) : (y ≤ x ∧ x < y + 1) ↔ x = y :=
    ⟨fun hy => h.antisymm hy.1, fun hxy => ⟨hxy.ge, hxy ▸ lt_add_one x⟩⟩
  rw [recalcQuota_eq hpos h, truncate, if_pos (mul_nonneg (Int.cast_nonneg hbase) hprod.le),
    Int.floor_eq_iff, hkept hle, hiff]
  refine ⟨fun h part rest hsplit => ?_, fun h part rest hsplit => ?_⟩
  · rw [div_eq_mul_inv, List.prod_inv]
    exact h _ (rest.map (·⁻¹)) (by rw [hsplit, List.map_append])
  · obtain ⟨part, rest, happlied, rfl, rfl⟩ := List.map_eq_append_iff.1 hsplit
    rw [← List.prod_inv, ← div_eq_mul_inv]
    exact h part rest happlied

/-- What is charged in one order, if the ratios divide it, is what some quota, not above the given
one, is charged in every order. -/
theorem exists_applyRatios_eq (hq : 0 ≤ q) (hl : ∀ r ∈ l, 0 < r)
    (h : ∀ part rest : List ℚ, (part ++ rest).Perm l →
      ∃ n : ℤ, applyRatios q l / part.prod = n) :
    ∃ n : ℤ, 0 ≤ n ∧ n ≤ q ∧ n * l.prod = applyRatios q l ∧
      ∀ l' : List ℚ, l'.Perm l → applyRatios n l' = applyRatios q l := by
  obtain ⟨hnonneg, hle, -⟩ := applyRatios_spec hl hq
  have hprod : 0 < l.prod := List.prod_pos hl
  obtain ⟨n, hn⟩ := h l [] (by simp)
  have hn0 : 0 ≤ n := by
    rw [← Int.cast_nonneg_iff (R := ℚ), ← hn]
    exact div_nonneg (Int.cast_nonneg hnonneg) hprod.le
  have hcharge : n * l.prod = applyRatios q l := by rw [← hn, div_mul_cancel₀ _ hprod.ne']
  refine ⟨n, hn0, Int.cast_le (R := ℚ).1 ?_, hcharge, fun l' hperm => ?_⟩
  · rw [← hn]
    exact (div_le_iff₀ hprod).2 hle
  have hl' : ∀ r ∈ l', 0 < r := fun r hr => hl r (hperm.subset hr)
  have hexact : applyRatios n l' = n * l'.prod := by
    refine (applyRatios_spec hl' hn0).2.2.2 fun part rest hsplit => ?_
    obtain ⟨m, hm⟩ := h rest part (List.perm_append_comm.trans (hsplit ▸ hperm))
    have hpart : part.prod ≠ 0 := (List.prod_pos fun r hr => hl' r (by simp [hsplit, hr])).ne'
    refine ⟨m, ?_⟩
    rw [← hm, ← hn, ← hperm.prod_eq, hsplit, List.prod_append, div_mul_eq_mul_div, mul_comm,
      mul_div_mul_left _ _ hpart]
  rwa [hperm.prod_eq, hcharge, Int.cast_inj] at hexact

/-- The charge is kept exactly if every product of ratios divides it. -/
theorem keepsCharge_iff_divides (hq : 0 ≤ q) (hpos : ∀ r ∈ ratios, 0 < r) :
    KeepsCharge q ratios ↔ ∀ order part rest : List ℚ, order.Perm ratios →
      (part ++ rest).Perm ratios → ∃ n : ℤ, applyRatios q order / part.prod = n := by
  have hall {l : List ℚ} (h : l.Perm ratios) : ∀ r ∈ l, 0 < r := fun r hr => hpos r (h.subset hr)
  have hrecalc {order applied adjusted : List ℚ} (ho : order.Perm ratios)
      (ha : applied.Perm ratios) (hb : adjusted.Perm ratios) :=
    recalcQuota_eq_self_iff (applyRatios_spec (hall ho) hq).1 (hall ha) (hb.trans ha.symm)
  constructor
  · intro h order part rest ho hparts
    exact (hrecalc ho hparts hparts).1 (h order order _ _ ho ho hparts hparts).2 part rest rfl
  · intro h order order' applied adjusted ho ho' ha hb
    have hle {l l' : List ℚ} (hl : l.Perm ratios) (hl' : l'.Perm ratios) :
        applyRatios q l ≤ applyRatios q l' := by
      obtain ⟨n, hn0, hnq, -, hn⟩ := exists_applyRatios_eq hq (hall hl) fun part rest hparts =>
        h l part rest hl (hparts.trans hl)
      rw [← hn l' (hl'.trans hl.symm)]
      exact applyRatios_mono (hall hl') hn0 hnq
    refine ⟨(hle ho ho').antisymm (hle ho' ho), (hrecalc ho ha hb).2 fun part rest hsplit => ?_⟩
    exact h order part rest ho (hsplit ▸ ha)

/-- **Neither the order of the ratios nor dividing by them matters if no product of some of them
leaves a fraction of the quota**, and where no ratio is below 1, only then. -/
theorem keepsCharge_iff (hq : 0 ≤ q) (hpos : ∀ r ∈ ratios, 0 < r) :
    (Whole q ratios → KeepsCharge q ratios) ∧
      ((∀ r ∈ ratios, 1 ≤ r) → KeepsCharge q ratios → Whole q ratios) := by
  -- what is left of the exact charge after a division is the product of the other ratios
  have hrest {part rest : List ℚ} (h : (part ++ rest).Perm ratios) :
      q * ratios.prod / part.prod = q * rest.prod := by
    have hpart : part.prod ≠ 0 :=
      (List.prod_pos fun r hr => hpos r (h.subset (List.mem_append_left _ hr))).ne'
    rw [← h.prod_eq, List.prod_append, mul_div_assoc, mul_div_cancel_left₀ _ hpart]
  constructor
  · refine fun hwhole => (keepsCharge_iff_divides hq hpos).2 fun order part rest ho hparts => ?_
    have hexact : applyRatios q order = q * order.prod :=
      (applyRatios_spec (fun r hr => hpos r (ho.subset hr)) hq).2.2.2 fun part rest hsplit =>
        hwhole part rest (hsplit ▸ ho)
    rw [hexact, ho.prod_eq, hrest hparts]
    exact hwhole rest part (List.perm_append_comm.trans hparts)
  · intro hone hkeeps part rest hparts
    have hdivides := (keepsCharge_iff_divides hq hpos).1 hkeeps
    obtain ⟨n, hn0, hnq, hcharge, hn⟩ := exists_applyRatios_eq hq hpos (hdivides ratios · · .rfl)
    -- a quota above `n` would be charged more
    have heq : n = q := by
      refine hnq.eq_or_lt.resolve_right fun hlt => ?_
      exact (hn ratios .rfl).not_lt (applyRatios_lt hone hn0 hlt)
    obtain ⟨m, hm⟩ := hdivides ratios rest part .rfl (List.perm_append_comm.trans hparts)
    refine ⟨m, ?_⟩
    rw [← hm, ← hcharge, heq, hrest (List.perm_append_comm.trans hparts)]

theorem keepsCharge_sample : KeepsCharge 3 [2] := by
  refine (keepsCharge_iff (by decide) (by decide)).1 fun part rest hparts => ?_
  rw [List.perm_singleton] at hparts
  obtain ⟨rfl, -⟩ | ⟨rfl, -⟩ := List.append_eq_singleton_iff.1 hparts
  · exact ⟨3, by simp⟩
  · exact ⟨6, by norm_num⟩

/-- Three by a half and by two are two, in the other order three, and from there again two. -/
theorem charge_not_kept : applyRatios 3 [1 / 2, 2] = 2 ∧ applyRatios 3 [2, 1 / 2] = 3 ∧
      recalcQuota 3 [2, 1 / 2] [2, 1 / 2] = 2 := by
  decide +kernel

end Mujian.Tasks
