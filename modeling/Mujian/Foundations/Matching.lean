import Mathlib.Data.List.Infix
import Mathlib.Data.List.Flatten

/-!
# Looking for a pattern in a text that arrives in pieces

A matcher that sees a text piece by piece has to remember the longest suffix that the pattern could
still continue (`overlap`). `scan` keeps exactly that: a text that it lets through does not contain
the pattern (`Seen.scan`), however it was cut. Of several texts in one stream, one whose pieces
arrive one after the other is a part of the whole (`assembled_infix`).
-/

namespace Mujian.Matching

variable {α ι : Type*} [DecidableEq α] [DecidableEq ι]

/-- The longest suffix of a text that is a proper prefix of the pattern. -/
def overlap (pattern : List α) : List α → List α
  | [] => []
  | c :: text =>
    if (c :: text).length < pattern.length ∧ c :: text <+: pattern then c :: text
    else overlap pattern text

variable {pattern text x suffix piece : List α} {label : ι} {pieces : List (ι × List α)}

/-- Every suffix of the text that the pattern could continue is a suffix of the overlap. -/
theorem suffix_overlap (hx : x <:+ text) (hp : x <+: pattern)
    (hlt : x.length < pattern.length) : x <:+ overlap pattern text := by
  induction text with
  | nil => exact hx
  | cons c text ih =>
    rw [overlap]
    split
    · exact hx
    · next hno =>
      rcases List.suffix_cons_iff.mp hx with rfl | htail
      · exact absurd ⟨hlt, hp⟩ hno
      · exact ih htail

/-- `suffix` is an end of the text that the pattern could continue. -/
def Ends (pattern text suffix : List α) : Prop :=
  suffix <:+ text ∧ suffix <+: pattern ∧ suffix.length < pattern.length

theorem ends_overlap (hpattern : pattern ≠ []) (text : List α) :
    Ends pattern text (overlap pattern text) := by
  induction text with
  | nil => exact ⟨List.suffix_rfl, List.nil_prefix, List.length_pos_iff.mpr hpattern⟩
  | cons c text ih =>
    rw [overlap]
    split
    · next hfits => exact ⟨List.suffix_rfl, hfits.2, hfits.1⟩
    · exact ⟨ih.1.trans (List.suffix_cons c text), ih.2⟩

/-- The text seen so far does not contain the pattern, and `suffix` holds every end of it that the
pattern could continue. -/
structure Seen (pattern text suffix : List α) : Prop where
  absent : ¬ pattern <:+: text
  covers : ∀ x, x <:+ text → x <+: pattern → x.length < pattern.length → x <:+ suffix

omit [DecidableEq α] in
theorem Seen.start (h : pattern ≠ []) : Seen pattern [] [] := by
  constructor
  · intro hin
    exact h (List.infix_nil.mp hin)
  · intro x hx _ _
    exact hx

omit [DecidableEq α] in
/-- An end of the longer text that the pattern could continue is seen from the suffix on. -/
theorem Seen.covers_append (h : Seen pattern text suffix)
    (piece : List α) (hx : x <:+ text ++ piece) (hp : x <+: pattern)
    (hlt : x.length < pattern.length) : x <:+ suffix ++ piece := by
  obtain ⟨front, hfront⟩ := hx
  rcases List.append_eq_append_iff.mp hfront with ⟨y, rfl, rfl⟩ | ⟨y, rfl, rfl⟩
  · -- the end reaches back into the text seen, by `y`
    have hyp : y <+: pattern := (List.prefix_append y piece).trans hp
    have hylt : y.length < pattern.length := by
      rw [List.length_append] at hlt
      omega
    obtain ⟨rest, hrest⟩ := h.covers y (List.suffix_append _ _) hyp hylt
    exact ⟨rest, by rw [← hrest, List.append_assoc]⟩
  · exact ⟨suffix ++ y, by rw [List.append_assoc]⟩

omit [DecidableEq α] in
/-- An occurrence of the pattern that ends in the new piece starts in the suffix or later. -/
theorem Seen.absent_append (h : Seen pattern text suffix)
    (hno : ¬ pattern <:+: suffix ++ piece) : ¬ pattern <:+: text ++ piece := by
  rintro ⟨front, back, hocc⟩
  rw [List.append_assoc] at hocc
  rcases List.append_eq_append_iff.mp hocc with ⟨x, rfl, hx⟩ | ⟨x, rfl, hx⟩
  · -- the occurrence starts in the text seen, at `x`
    rcases List.append_eq_append_iff.mp hx with ⟨y, rfl, -⟩ | ⟨y, rfl, rfl⟩
    · exact h.absent ⟨front, y, by rw [List.append_assoc]⟩
    · by_cases hy : y = []
      · subst hy
        exact h.absent ⟨front, [], by simp⟩
      · have hlt : x.length < (x ++ y).length := by
          rw [List.length_append]
          exact Nat.lt_add_of_pos_right (List.length_pos_iff.mpr hy)
        obtain ⟨z, rfl⟩ := h.covers x (List.suffix_append _ _) (List.prefix_append _ _) hlt
        exact hno ⟨z, back, by simp only [List.append_assoc]⟩
  · -- the occurrence lies in the new piece
    subst hx
    exact hno ⟨suffix ++ x, back, by simp only [List.append_assoc]⟩

theorem Seen.append (h : Seen pattern text suffix) (hno : ¬ pattern <:+: suffix ++ piece) :
    Seen pattern (text ++ piece) (overlap pattern (suffix ++ piece)) where
  absent := h.absent_append hno
  covers := by
    intro x hx hp hlt
    exact suffix_overlap (h.covers_append piece hx hp hlt) hp hlt

/-- The pieces are read one after the other; the result is the suffix kept and whether the pattern
was found. -/
def scan (pattern : List α) : List α → List (List α) → List α × Bool
  | suffix, [] => (suffix, false)
  | suffix, piece :: pieces =>
    if pattern <:+: suffix ++ piece then (suffix, true)
    else scan pattern (overlap pattern (suffix ++ piece)) pieces

/-- A text that the scan lets through does not contain the pattern. -/
theorem Seen.scan (pieces : List (List α))
    (h : Seen pattern text suffix) (hfound : (scan pattern suffix pieces).2 = false) :
    Seen pattern (text ++ pieces.flatten) (Matching.scan pattern suffix pieces).1 := by
  induction pieces generalizing text suffix with
  | nil => simpa [Matching.scan] using h
  | cons piece pieces ih =>
    rw [Matching.scan] at hfound ⊢
    split at hfound
    · exact absurd hfound (by simp)
    · next hno =>
      rw [if_neg hno, List.flatten_cons, ← List.append_assoc]
      exact ih (h.append hno) hfound

theorem scan_append (suffix : List α) (pieces more : List (List α)) :
    scan pattern suffix (pieces ++ more) =
      if (scan pattern suffix pieces).2 then scan pattern suffix pieces
      else scan pattern (scan pattern suffix pieces).1 more := by
  induction pieces generalizing suffix with
  | nil => rfl
  | cons piece pieces ih =>
    rw [List.cons_append, scan, scan]
    split
    · rfl
    · exact ih _

/-- What the scan finds is in the text; what it keeps is an end of the text. -/
theorem Ends.scan (pieces : List (List α)) (h : Ends pattern text suffix) :
    if (scan pattern suffix pieces).2 then pattern <:+: text ++ pieces.flatten
    else Ends pattern (text ++ pieces.flatten) (Matching.scan pattern suffix pieces).1 := by
  induction pieces generalizing text suffix with
  | nil => simpa [Matching.scan] using h
  | cons piece pieces ih =>
    obtain ⟨front, rfl⟩ := h.1
    rw [Matching.scan, List.flatten_cons, ← List.append_assoc]
    split
    · next hin => exact hin.trans ⟨front, pieces.flatten, by simp only [List.append_assoc]⟩
    · have hnil : pattern ≠ [] := List.ne_nil_of_length_pos (Nat.zero_lt_of_lt h.2.2)
      obtain ⟨hends, hproper⟩ := ends_overlap hnil (suffix ++ piece)
      exact ih ⟨hends.trans ⟨front, (List.append_assoc ..).symm⟩, hproper⟩

/-- The text of one label. -/
def assembled (label : ι) (pieces : List (ι × List α)) : List α :=
  ((pieces.filter fun piece => piece.1 = label).map Prod.snd).flatten

/-- The pieces of one label arrive one after the other: there is no text of another label between
them. -/
def Consecutive (label : ι) (pieces : List (ι × List α)) : Prop :=
  ∃ before run after, pieces = before ++ run ++ after ∧
    (∀ piece ∈ before, piece.1 = label → piece.2 = []) ∧
    (∀ piece ∈ after, piece.1 = label → piece.2 = []) ∧
    ∀ piece ∈ run, piece.1 ≠ label → piece.2 = []

omit [DecidableEq α] in
theorem assembled_append (label : ι) (pieces pieces' : List (ι × List α)) :
    assembled label (pieces ++ pieces') = assembled label pieces ++ assembled label pieces' := by
  rw [assembled, List.filter_append, List.map_append, List.flatten_append]
  rfl

omit [DecidableEq α] in
theorem assembled_of_nil
    (h : ∀ piece ∈ pieces, piece.1 = label → piece.2 = []) : assembled label pieces = [] := by
  rw [assembled, List.flatten_eq_nil_iff]
  intro text htext
  obtain ⟨piece, hpiece, rfl⟩ := List.mem_map.mp htext
  obtain ⟨hmem, hlabel⟩ := List.mem_filter.mp hpiece
  exact h piece hmem (by simpa using hlabel)

omit [DecidableEq α] in
/-- Where every other piece is empty, the text of the label is the whole text. -/
theorem assembled_of_others_nil (h : ∀ piece ∈ pieces, piece.1 ≠ label → piece.2 = []) :
    assembled label pieces = (pieces.map Prod.snd).flatten := by
  induction pieces with
  | nil => rfl
  | cons piece pieces ih =>
    have htail := ih fun other hother => h other (List.mem_cons_of_mem _ hother)
    rw [← List.singleton_append, assembled_append, htail, List.map_append, List.flatten_append]
    congr 1
    by_cases heq : piece.1 = label
    · simp [assembled, heq]
    · simp [assembled, heq, h piece List.mem_cons_self heq]

omit [DecidableEq α] in
/-- A text whose pieces arrive one after the other is a part of the whole. -/
theorem assembled_infix (h : Consecutive label pieces) :
    assembled label pieces <:+: (pieces.map Prod.snd).flatten := by
  obtain ⟨before, run, after, rfl, hbefore, hafter, hrun⟩ := h
  rw [assembled_append, assembled_append, assembled_of_nil hbefore, assembled_of_nil hafter,
    assembled_of_others_nil hrun, List.nil_append, List.append_nil, List.map_append,
    List.map_append, List.flatten_append, List.flatten_append]
  exact ⟨_, _, rfl⟩

omit [DecidableEq α] [DecidableEq ι] in
/-- The pieces that have arrived so far are consecutive if all pieces are. -/
theorem Consecutive.of_arrived {arrived : List (ι × List α)}
    (h : Consecutive label pieces) (harrived : arrived <+: pieces) : Consecutive label arrived := by
  obtain ⟨rest, rfl⟩ := harrived
  obtain ⟨before, run, after, heq, hbefore, hafter, hrun⟩ := h
  rw [List.append_assoc] at heq
  rcases List.append_eq_append_iff.mp heq with ⟨x, rfl, -⟩ | ⟨x, rfl, hx⟩
  · -- the run has not started yet
    refine ⟨arrived, [], [], by simp, ?_, by simp, by simp⟩
    intro piece hmem
    exact hbefore piece (List.mem_append_left x hmem)
  · rcases List.append_eq_append_iff.mp hx with ⟨y, rfl, rfl⟩ | ⟨y, rfl, -⟩
    · -- the run is over, with `y` after it
      refine ⟨before, run, y, (List.append_assoc _ _ _).symm, hbefore, ?_, hrun⟩
      intro piece hmem
      exact hafter piece (List.mem_append_left rest hmem)
    · refine ⟨before, x, [], by simp, hbefore, by simp, ?_⟩
      intro piece hmem
      exact hrun piece (List.mem_append_left y hmem)

end Mujian.Matching
