import Mujian.Foundations.Runs
import Mathlib.Algebra.Order.BigOperators.Group.List
import Mathlib.Algebra.Order.Group.Nat
import Mathlib.Algebra.Order.Ring.Int
import Mathlib.Data.List.Nodup

/-!
# The disk cache of request bodies

`currentDiskUsageBytes` is the counter that decides whether another file fits. Closing a storage and
a cleanup pass both remove a file and take its size off the counter, so a storage that is closed
after its file was cleaned up is taken off twice (`close_after_cleanup`, `diskUsage_accounted`).
-/

namespace Mujian.Gateway

open Runs (Meets)

structure DiskCacheConfig where
  enabled : Bool
  (thresholdMB maxSizeMB : ℤ)

def DiskCacheConfig.getDiskCacheThresholdBytes (c : DiskCacheConfig) : ℤ := c.thresholdMB * 2 ^ 20

def DiskCacheConfig.getDiskCacheMaxSizeBytes (c : DiskCacheConfig) : ℤ := c.maxSizeMB * 2 ^ 20

structure CacheFile where
  (name size : ℕ)
  modTime : ℤ

structure DiskStorage where
  (filePath size : ℕ)

/-- The cache directory, the storages that are not closed and the statistics. No file name is used
twice: the names are numbered. -/
structure DiskCache where
  files : List CacheFile
  storages : List DiskStorage
  names : ℕ
  (activeDiskFiles currentDiskUsageBytes : ℤ)

def DiskCache.empty : DiskCache := ⟨[], [], 0, 0, 0⟩

namespace DiskCache

section

variable (c : DiskCacheConfig) (s : DiskCache) (size : ℕ) (now : ℤ)

def incrementDiskFiles : DiskCache :=
  { s with
    activeDiskFiles := s.activeDiskFiles + 1
    currentDiskUsageBytes := s.currentDiskUsageBytes + size }

def decrementDiskFiles : DiskCache :=
  { s with
    activeDiskFiles := max 0 (s.activeDiskFiles - 1)
    currentDiskUsageBytes := max 0 (s.currentDiskUsageBytes - size) }

def isDiskCacheAvailable (requestSize : ℤ) : Bool :=
  c.enabled ∧ s.currentDiskUsageBytes + requestSize ≤ c.getDiskCacheMaxSizeBytes

/-- `newDiskStorage` and `newDiskStorageFromReader`. When they fail they remove the file again, so
that nothing has happened. -/
def newDiskStorage : DiskCache := incrementDiskFiles
    { s with
      files := ⟨s.names, size, now⟩ :: s.files, storages := ⟨s.names, size⟩ :: s.storages
      names := s.names + 1 } size

/-- What does not go to the disk is kept in memory. -/
def createBodyStorage : DiskCache :=
  if c.enabled ∧ c.getDiskCacheThresholdBytes ≤ size ∧ isDiskCacheAvailable c s size then
    newDiskStorage s size now
  else s

/-- The reader gives `length` bytes, of which at most one more than `maxBytes` are read. -/
def createBodyStorageFromReader (contentLength maxBytes : ℤ) (length : ℕ) (now : ℤ) : DiskCache :=
  if min (length : ℤ) (max 0 (maxBytes + 1)) > maxBytes then s
  else if c.enabled ∧ 0 < contentLength ∧ c.getDiskCacheThresholdBytes ≤ contentLength ∧
      isDiskCacheAvailable c s contentLength then
    newDiskStorage s length now
  else createBodyStorage c s length now

/-- `diskStorage.Close`, which ignores the error of `os.Remove`: there is no file, or `fails`. A
second call does nothing. -/
def close (filePath : ℕ) (fails : Bool) : DiskCache :=
  match s.storages.find? fun d => d.filePath = filePath with
  | none => s
  | some d =>
    decrementDiskFiles
      { s with
        storages := s.storages.filter fun d => d.filePath ≠ filePath
        files := if fails then s.files else s.files.eraseP fun f => f.name = filePath } d.size

/-- The files that `os.Remove` fails to remove, by their names, stay and are not taken off. -/
def cleanupOldDiskCacheFiles (now maxAge : ℤ) (fails : ℕ → Bool) : DiskCache :=
  let removed (f : CacheFile) : Bool := now - f.modTime > maxAge && !fails f.name
  (s.files.filter removed).foldl (fun s f => s.decrementDiskFiles f.size)
    { s with files := s.files.filter fun f => ¬removed f }

end

end DiskCache

open DiskCache

inductive DiskOp
  | createBodyStorage (size : ℕ) (now : ℤ)
  | createBodyStorageFromReader (contentLength maxBytes : ℤ) (length : ℕ) (now : ℤ)
  | close (filePath : ℕ) (fails : Bool)
  | cleanup (now maxAge : ℤ) (fails : ℕ → Bool)

def DiskOp.step (c : DiskCacheConfig) (s : DiskCache) : DiskOp → DiskCache
  | createBodyStorage size now => s.createBodyStorage c size now
  | createBodyStorageFromReader contentLength maxBytes length now =>
    s.createBodyStorageFromReader c contentLength maxBytes length now
  | close filePath fails => s.close filePath fails
  | cleanup now maxAge fails => s.cleanupOldDiskCacheFiles now maxAge fails

def totalSize (files : List CacheFile) : ℕ := (files.map (·.size)).sum

def DiskCache.Accounted (s : DiskCache) : Prop := s.currentDiskUsageBytes = totalSize s.files

/-- The files fit in the configured size; a negative one leaves no room for any. -/
def DiskCache.Fits (c : DiskCacheConfig) (s : DiskCache) : Prop :=
  (totalSize s.files : ℤ) ≤ max 0 c.getDiskCacheMaxSizeBytes

/-- Closing a storage removes its file, unless what is taken off makes no difference. -/
def ClosesAccounted (s : DiskCache) : DiskOp → Prop
  | .close filePath fails => ∀ d ∈ s.storages, d.filePath = filePath →
    (fails = false ∧ ∃ f ∈ s.files, f.name = filePath) ∨ d.size = 0 ∨ totalSize s.files = 0
  | _ => True

def Announced : DiskOp → Prop
  | .createBodyStorageFromReader contentLength _ length _ => (length : ℤ) ≤ contentLength
  | _ => True

/-- The counter is right, a storage knows the size of its file, and names are new. -/
structure DiskCache.Inv (s : DiskCache) : Prop where
  accounted : s.Accounted
  files : ∀ f ∈ s.files, f.name < s.names
  storages : ∀ d ∈ s.storages, d.filePath < s.names
  size : ∀ f ∈ s.files, ∀ d ∈ s.storages, f.name = d.filePath → f.size = d.size
  unique : (s.storages.map (·.filePath)).Nodup

variable {c : DiskCacheConfig} {s s' : DiskCache} {o : DiskOp} {filePath : ℕ} {fails : Bool}

theorem DiskCache.Inv.newDiskStorage (h : s.Inv) (size : ℕ) (now : ℤ) :
    (s.newDiskStorage size now).Inv := by
  have hf : ∀ f ∈ s.files, f.name ≠ s.names := fun f hf => (h.files f hf).ne
  have hd : ∀ d ∈ s.storages, d.filePath ≠ s.names := fun d hd => (h.storages d hd).ne
  have hsum := h.accounted
  refine ⟨?_, ?_, ?_, ?_, ?_⟩ <;>
    simp only [DiskCache.newDiskStorage, incrementDiskFiles, DiskCache.Accounted, totalSize,
      List.sum_cons, Nat.cast_add, List.forall_mem_cons, List.map_cons, List.nodup_cons,
      List.mem_map] at hsum ⊢
  · omega
  · exact ⟨Nat.lt_succ_self _, fun f hf => Nat.lt_succ_of_lt (h.files f hf)⟩
  · exact ⟨Nat.lt_succ_self _, fun d hd => Nat.lt_succ_of_lt (h.storages d hd)⟩
  · exact ⟨⟨fun _ => trivial, fun d hmem heq => absurd heq.symm (hd d hmem)⟩,
      fun f hmem => ⟨fun heq => absurd heq (hf f hmem), h.size f hmem⟩⟩
  · exact ⟨fun ⟨d, hmem, heq⟩ => hd d hmem heq, h.unique⟩

/-- Nothing is added. -/
structure DiskCache.Shrinks (s s' : DiskCache) : Prop where
  files : s'.files.Sublist s.files
  storages : s'.storages.Sublist s.storages
  names : s'.names = s.names

theorem DiskCache.Inv.shrinks (h : s.Inv) (hs : s.Shrinks s') (haccounted : s'.Accounted) :
    s'.Inv := by
  refine ⟨haccounted, fun f hf => ?_, fun d hd => ?_, fun f hf d hd => ?_, ?_⟩
  · exact hs.names ▸ h.files f (hs.files.subset hf)
  · exact hs.names ▸ h.storages d (hs.storages.subset hd)
  · exact h.size f (hs.files.subset hf) d (hs.storages.subset hd)
  · exact h.unique.sublist (hs.storages.map _)

theorem totalSize_eraseP {files : List CacheFile} (h : ∃ f ∈ files, f.name = filePath) :
    ∃ f ∈ files, f.name = filePath ∧
      totalSize (files.eraseP fun f => f.name = filePath) + f.size = totalSize files := by
  obtain ⟨f, hf, hname⟩ := h
  obtain ⟨g, l₁, l₂, -, hg, hfiles, herase⟩ :=
    List.exists_of_eraseP (p := fun f => f.name = filePath) hf (decide_eq_true hname)
  refine ⟨g, by simp [hfiles], of_decide_eq_true hg, ?_⟩
  rw [herase, hfiles]
  simp only [totalSize, List.map_append, List.map_cons, List.sum_append, List.sum_cons]
  omega

theorem close_cases (h : s.Inv) : s.Shrinks (s.close filePath fails) ∧
    ((s.close filePath fails).Accounted ↔ ClosesAccounted s (.close filePath fails)) := by
  unfold DiskCache.close
  split
  · rename_i hnone
    simp only [List.find?_eq_none, decide_eq_true_eq] at hnone
    exact ⟨⟨.refl _, .refl _, rfl⟩,
      iff_of_true h.accounted fun d hd hpath => absurd hpath (hnone d hd)⟩
  · rename_i d hfind
    have hd := List.mem_of_find?_eq_some hfind
    have hpath : d.filePath = filePath := by simpa using List.find?_some hfind
    have hcond : ClosesAccounted s (.close filePath fails) ↔
        (fails = false ∧ ∃ f ∈ s.files, f.name = filePath) ∨ d.size = 0 ∨
          totalSize s.files = 0 := by
      refine ⟨fun hall => hall d hd hpath, fun hone d' hd' hpath' => ?_⟩
      exact List.inj_on_of_nodup_map h.unique hd hd' (hpath.trans hpath'.symm) ▸ hone
    have hsum : s.currentDiskUsageBytes = totalSize s.files := h.accounted
    rw [hcond]
    simp only [DiskCache.Accounted, decrementDiskFiles, hsum]
    by_cases hremoved : fails = false ∧ ∃ f ∈ s.files, f.name = filePath
    · obtain ⟨rfl, hfile⟩ := hremoved
      obtain ⟨f, hf, hname, htotal⟩ := totalSize_eraseP hfile
      have hsize : f.size = d.size := h.size f hf d hd (hname.trans hpath.symm)
      refine ⟨⟨List.eraseP_sublist, List.filter_sublist, rfl⟩,
        iff_of_true ?_ (.inl ⟨rfl, hfile⟩)⟩
      simp only [Bool.false_eq_true, if_false]
      omega
    · -- the file stays, or was not there
      have hkept : (if fails then s.files else s.files.eraseP fun f => f.name = filePath) =
          s.files := by
        split_ifs with hfails
        · rfl
        · exact List.eraseP_of_forall_not fun f hf hname =>
            hremoved ⟨by simpa using hfails, f, hf, of_decide_eq_true hname⟩
      rw [hkept, or_iff_right hremoved]
      exact ⟨⟨.refl _, List.filter_sublist, rfl⟩, by omega⟩

theorem foldl_decrementDiskFiles {removed : List CacheFile} {n : ℕ}
    (h : s.currentDiskUsageBytes = totalSize removed + n) :
    let s' := removed.foldl (fun s f => s.decrementDiskFiles f.size) s
    s'.currentDiskUsageBytes = n ∧ s'.files = s.files ∧ s'.storages = s.storages ∧
      s'.names = s.names := by
  induction removed generalizing s with
  | nil => simpa [totalSize] using h
  | cons f removed ih =>
    refine ih (s := s.decrementDiskFiles f.size) ?_
    simp only [totalSize, List.map_cons, List.sum_cons, decrementDiskFiles] at h ⊢
    omega

theorem totalSize_filter (files : List CacheFile) (p : CacheFile → Bool) :
    totalSize (files.filter p) + totalSize (files.filter fun f => ¬p f) = totalSize files := by
  induction files with
  | nil => rfl
  | cons f files ih =>
    simp only [totalSize] at ih ⊢
    cases hp : p f <;> simp [hp] at ih ⊢ <;> omega

theorem cleanup_cases (h : s.Inv) (now maxAge : ℤ) (fails : ℕ → Bool) :
    s.Shrinks (s.cleanupOldDiskCacheFiles now maxAge fails) ∧
      (s.cleanupOldDiskCacheFiles now maxAge fails).Accounted := by
  set removed : CacheFile → Bool := fun f => now - f.modTime > maxAge && !fails f.name
  have hsum : s.currentDiskUsageBytes = totalSize s.files := h.accounted
  rw [← totalSize_filter s.files removed, Nat.cast_add] at hsum
  obtain ⟨husage, hfiles, hstorages, hnames⟩ := foldl_decrementDiskFiles
    (s := { s with files := s.files.filter fun f => ¬removed f }) hsum
  unfold cleanupOldDiskCacheFiles
  refine ⟨⟨?_, ?_, hnames⟩, ?_⟩
  · exact hfiles ▸ List.filter_sublist
  · exact hstorages.symm ▸ .refl _
  · rw [DiskCache.Accounted, husage, hfiles]

/-- An operation adds a file, which fits if the body is as long as announced, or adds nothing. -/
theorem step_cases (h : s.Inv) :
    (s.Shrinks (o.step c s) ∧ ((o.step c s).Accounted ↔ ClosesAccounted s o)) ∨
      ∃ size now, o.step c s = s.newDiskStorage size now ∧ ClosesAccounted s o ∧
        (Announced o → s.currentDiskUsageBytes + size ≤ c.getDiskCacheMaxSizeBytes) := by
  have hsame : s.Shrinks s := ⟨.refl _, .refl _, rfl⟩
  cases o with
  | createBodyStorage size now =>
    simp only [DiskOp.step, DiskCache.createBodyStorage, isDiskCacheAvailable, decide_eq_true_eq]
    split_ifs with hdisk
    · exact .inr ⟨size, now, rfl, trivial, fun _ => hdisk.2.2.2⟩
    · exact .inl ⟨hsame, iff_of_true h.accounted trivial⟩
  | createBodyStorageFromReader contentLength maxBytes length now =>
    simp only [DiskOp.step, DiskCache.createBodyStorageFromReader, DiskCache.createBodyStorage,
      isDiskCacheAvailable, decide_eq_true_eq]
    split_ifs with hlong hdisk hdisk'
    · exact .inl ⟨hsame, iff_of_true h.accounted trivial⟩
    · refine .inr ⟨length, now, rfl, trivial, fun hle => ?_⟩
      exact (Int.add_le_add_left hle _).trans hdisk.2.2.2.2
    · exact .inr ⟨length, now, rfl, trivial, fun _ => hdisk'.2.2.2⟩
    · exact .inl ⟨hsame, iff_of_true h.accounted trivial⟩
  | close filePath fails => exact .inl (close_cases h)
  | cleanup now maxAge fails =>
    obtain ⟨hshrinks, haccounted⟩ := cleanup_cases h now maxAge fails
    exact .inl ⟨hshrinks, iff_of_true haccounted trivial⟩

theorem accounted_step (h : s.Inv) : (o.step c s).Accounted ↔ ClosesAccounted s o := by
  obtain ⟨-, hiff⟩ | ⟨size, now, hstep, hcloses, -⟩ := step_cases (c := c) (o := o) h
  · exact hiff
  · exact iff_of_true (hstep ▸ (h.newDiskStorage size now).accounted) hcloses

theorem inv_step (h : s.Inv) (haccounted : (o.step c s).Accounted) : (o.step c s).Inv := by
  obtain ⟨hshrinks, -⟩ | ⟨size, now, hstep, -⟩ := step_cases (c := c) (o := o) h
  · exact h.shrinks hshrinks haccounted
  · exact hstep ▸ h.newDiskStorage size now

theorem fits_step (h : s.Inv) (hfits : s.Fits c) (hannounced : Announced o) :
    (o.step c s).Fits c := by
  obtain ⟨hshrinks, -⟩ | ⟨size, now, hstep, -, hroom⟩ := step_cases (c := c) (o := o) h
  · exact (Int.ofNat_le.2 ((hshrinks.files.map _).sum_le_sum fun _ _ => Nat.zero_le _)).trans hfits
  · have hsum : (o.step c s).currentDiskUsageBytes = totalSize (o.step c s).files :=
      hstep ▸ (h.newDiskStorage size now).accounted
    rw [DiskCache.Fits, ← hsum, hstep]
    exact (hroom hannounced).trans (le_max_right _ _)

/-- **The counter is the total size of the files after each operation exactly if every storage is
closed with its file there, or nothing is taken off. Then the files always fit in the configured
size, if no body is longer than announced.** -/
theorem diskUsage_accounted (c : DiskCacheConfig) (ops : List DiskOp) :
    (Meets (DiskOp.step c) (fun s o => (o.step c s).Accounted) .empty ops ↔
        Meets (DiskOp.step c) ClosesAccounted .empty ops) ∧
      (Meets (DiskOp.step c) (fun s o => ClosesAccounted s o ∧ Announced o) .empty ops →
        Meets (DiskOp.step c) (fun s o => (o.step c s).Fits c) .empty ops) := by
  have hempty : DiskCache.empty.Inv := by
    constructor <;> simp [DiskCache.empty, DiskCache.Accounted, totalSize]
  refine ⟨⟨?_, ?_⟩, ?_⟩
  · exact Meets.imp (fun s o h hnext => inv_step h hnext)
      (fun s o h hnext => (accounted_step h).1 hnext) hempty
  · exact Meets.imp (fun s o h hcloses => inv_step h ((accounted_step h).2 hcloses))
      (fun s o h hcloses => (accounted_step h).2 hcloses) hempty
  · refine Meets.imp (P := fun s => s.Inv ∧ s.Fits c) (fun s o h hcond => ?_)
      (fun s o h hcond => fits_step h.1 h.2 hcond.2) ⟨hempty, le_max_left _ _⟩
    exact ⟨inv_step h.1 ((accounted_step h.1).2 hcond.1), fits_step h.1 h.2 hcond.2⟩

/-- Two bodies of a megabyte; the first file is cleaned up while its storage is open, and closing
the storage takes the second file off the counter. -/
theorem close_after_cleanup :
    let s := [DiskOp.createBodyStorage (2 ^ 20) 0, .createBodyStorage (2 ^ 20) 200,
      .cleanup 301 300 fun _ => false, .close 0 false].foldl (DiskOp.step ⟨true, 1, 1024⟩) .empty
    s.currentDiskUsageBytes = 0 ∧ totalSize s.files = 2 ^ 20 ∧ ¬s.Accounted := by
  unfold DiskCache.Accounted
  decide +kernel

end Mujian.Gateway
