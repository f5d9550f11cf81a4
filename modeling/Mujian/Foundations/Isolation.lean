import Mujian.Foundations.Runs
import Mathlib.Algebra.BigOperators.Group.Finset.Basic
import Mathlib.Data.Fintype.Basic
import Mathlib.Tactic.Abel

/-!
# Transactions under read-committed isolation

`Code σ κ ε α` is the code of a process that issues statements on a database `σ`. `Sys` interleaves
processes statement by statement: a statement sees what is committed and what its own transaction
has written; a row that a transaction has locked or written is closed to the writes and locking
reads of the others until it ends; and a transaction that fails, or that the environment aborts,
leaves nothing behind. `Sys.run_induction` and `Sys.Staged.step` are the rules for invariants of
runs, and `Sys.Staged.account` is the rule for quantities.
-/

namespace Mujian

/-- The code of a process over a database `σ` with row keys `κ`. -/
inductive Code (σ κ ε α : Type)
  | ret (a : α)
  /-- The process has failed; what its transaction wrote is rolled back. -/
  | fail (e : ε)
  | query (k : σ → Code σ κ ε α)
  | lock (row : κ) (k : σ → Code σ κ ε α)
  /-- A write that locks rows; what follows may depend on what it found. -/
  | write (rows : List κ) (f : σ → σ) (k : σ → Code σ κ ε α)
  | commit (k : Code σ κ ε α)

namespace Code

variable {σ κ ε α β : Type}

def bind : Code σ κ ε α → (α → Code σ κ ε β) → Code σ κ ε β
  | ret a, g => g a
  | fail e, _ => fail e
  | query k, g => query fun s => (k s).bind g
  | lock row k, g => lock row fun s => (k s).bind g
  | write rows f k, g => write rows f fun s => (k s).bind g
  | commit k, g => commit (k.bind g)

instance : Monad (Code σ κ ε) where
  pure := ret
  bind := bind

/-- `if c { return e }`. -/
def failIf (c : Prop) [Decidable c] (e : ε) : Code σ κ ε Unit := if c then fail e else ret ()

/-- The value of an optional read, or an error when there is none. -/
def orElse (o : Option α) (e : ε) : Code σ κ ε α :=
  match o with
  | some a => ret a
  | none => fail e

/-- The value of a computation that may fail. -/
def ofExcept (x : Except ε α) : Code σ κ ε α :=
  match x with
  | .ok a => ret a
  | .error e => fail e

/-- A query of a function of the database. -/
def select (f : σ → α) : Code σ κ ε α := query fun s => ret (f s)

def selectForUpdate (row : κ) (f : σ → α) : Code σ κ ε α := lock row fun s => ret (f s)

/-- A write of some rows, returning a function of what it found. -/
def update (rows : List κ) (f : σ → σ) (found : σ → α) : Code σ κ ε α :=
  write rows f fun s => ret (found s)

/-- Commit the transaction and return. -/
def done (a : α) : Code σ κ ε α := commit (ret a)

/-- Commit the transaction and go on with another one. -/
def commitTx : Code σ κ ε Unit := commit (ret ())

/-! ## The code in normal form

Rewriting with these brings the code of a process to its next statement. -/

section

variable {e : ε} {g : α → Code σ κ ε β}

theorem bind_eq (c : Code σ κ ε α) (g : α → Code σ κ ε β) : c >>= g = c.bind g := rfl

theorem bind_assoc {γ : Type} (c : Code σ κ ε α) (g : α → Code σ κ ε β) (h : β → Code σ κ ε γ) :
    (c.bind g).bind h = c.bind fun a => (g a).bind h := by
  induction c with
  | ret | fail => rfl
  | query k ih => exact congrArg query (funext ih)
  | lock row k ih => exact congrArg (lock row) (funext ih)
  | write rows f k ih => exact congrArg (write rows f) (funext ih)
  | commit k ih => exact congrArg commit ih

theorem failIf_bind (c : Prop) [Decidable c] (g : Unit → Code σ κ ε β) :
    (failIf c e).bind g = if c then fail e else g () := by
  unfold failIf
  split <;> rfl

theorem orElse_some_bind (a : α) : (orElse (some a) e).bind g = g a := rfl

theorem select_bind (f : σ → α) : (select f).bind g = query fun s => g (f s) := rfl

theorem selectForUpdate_bind (row : κ) (f : σ → α) :
    (selectForUpdate row f).bind g = lock row fun s => g (f s) := rfl

theorem lock_bind (row : κ) (k : σ → Code σ κ ε α) :
    (lock row k).bind g = lock row fun s => (k s).bind g := rfl

theorem update_bind (rows : List κ) (f : σ → σ) (found : σ → α) :
    (update rows f found).bind g = write rows f fun s => g (found s) := rfl

theorem commitTx_bind (g : Unit → Code σ κ ε β) : commitTx.bind g = commit (g ()) := rfl

end

/-! ## Code that keeps a part of the database -/

section

variable {τ : Type} {R : σ → τ}

/-- The code does not commit, and none of its writes changes the part `R` of the database. -/
inductive Keeps (R : σ → τ) : Code σ κ ε α → Prop
  | ret (a : α) : Keeps R (ret a)
  | fail (e : ε) : Keeps R (fail e)
  | query (k : σ → Code σ κ ε α) (hk : ∀ s, Keeps R (k s)) : Keeps R (query k)
  | lock (row : κ) (k : σ → Code σ κ ε α) (hk : ∀ s, Keeps R (k s)) : Keeps R (lock row k)
  | write (rows : List κ) (f : σ → σ) (k : σ → Code σ κ ε α) (hf : ∀ s, R (f s) = R s)
      (hk : ∀ s, Keeps R (k s)) : Keeps R (write rows f k)

namespace Keeps

theorem bind {c : Code σ κ ε α} {g : α → Code σ κ ε β} (h : Keeps R c) (hg : ∀ a, Keeps R (g a)) :
    Keeps R (c.bind g) := by
  induction h with
  | ret a => exact hg a
  | fail e => exact .fail e
  | query k _ ih => exact .query _ ih
  | lock row k _ ih => exact .lock row _ ih
  | write rows f k hf _ ih => exact .write rows f _ hf ih

theorem failIf (c : Prop) [Decidable c] (e : ε) : Keeps R (failIf c e : Code σ κ ε Unit) := by
  unfold Code.failIf
  split
  · exact .fail e
  · exact .ret ()

theorem ofExcept (x : Except ε α) : Keeps R (ofExcept x : Code σ κ ε α) := by
  cases x with
  | error e => exact .fail e
  | ok a => exact .ret a

theorem select (f : σ → α) : Keeps R (select f : Code σ κ ε α) := .query _ fun s => .ret (f s)

theorem update (rows : List κ) {f : σ → σ} (hf : ∀ s, R (f s) = R s) (found : σ → α) :
    Keeps R (update rows f found : Code σ κ ε α) := .write rows f _ hf fun s => .ret (found s)

end Keeps

end

/-! ## Running alone -/

/-- Run the code alone. Of the two databases the first is the committed one and the second the
one that the transaction sees. -/
def run : Code σ κ ε α → σ → σ → Except ε α × σ × σ
  | ret a, db, view => (.ok a, db, view)
  | fail e, db, _ => (.error e, db, db)
  | query k, db, view => (k view).run db view
  | lock _ k, db, view => (k view).run db view
  | write _ f k, db, view => (k view).run db (f view)
  | commit k, _, view => k.run view view

/-- The committed database after the code has run alone. -/
def exec (c : Code σ κ ε α) (db : σ) : σ := (c.run db db).2.1

section

variable {db view : σ}

@[simp] theorem run_bind (c : Code σ κ ε α) (g : α → Code σ κ ε β) :
    (c >>= g).run db view = match c.run db view with
      | (.ok a, db', view') => (g a).run db' view'
      | (.error e, db', view') => (.error e, db', view') := by
  induction c generalizing db view with
  | ret | fail => rfl
  | query k ih => exact ih view
  | lock row k ih => exact ih view
  | write rows f k ih => exact ih view
  | commit k ih => exact ih

/-- Code without a commit leaves the database alone, and keeps its part of the view. -/
theorem Keeps.run {τ : Type} {R : σ → τ} {c : Code σ κ ε α} (h : Keeps R c) (db view : σ) :
    (c.run db view).2.1 = db ∧ ∀ a, (c.run db view).1 = .ok a → R (c.run db view).2.2 = R view := by
  induction h generalizing view with
  | ret a => exact ⟨rfl, fun _ _ => rfl⟩
  | fail e => exact ⟨rfl, fun _ ha => by cases ha⟩
  | query k _ ih => exact ih view view
  | lock row k _ ih => exact ih view view
  | write rows f k hf _ ih =>
    obtain ⟨hdb, hview⟩ := ih view (f view)
    exact ⟨hdb, fun a ha => (hview a ha).trans (hf view)⟩

end

/-! ## Preconditions

`c.wp D Q view` is what has to hold of the view of a transaction so that running `c` alone
establishes `D` at every commit, and `Q` when it returns. A failure owes nothing, since what is
pending is rolled back. -/

section

def wp (D : σ → Prop) : Code σ κ ε α → (α → σ → Prop) → σ → Prop
  | ret a, Q, view => Q a view
  | fail _, _, _ => True
  | query k, Q, view => (k view).wp D Q view
  | lock _ k, Q, view => (k view).wp D Q view
  | write _ f k, Q, view => (k view).wp D Q (f view)
  | commit k, Q, view => D view ∧ k.wp D Q view

variable {D : σ → Prop} {Q : β → σ → Prop} {view : σ}

theorem wp_bind (c : Code σ κ ε α) (g : α → Code σ κ ε β) :
    (c >>= g).wp D Q view ↔ c.wp D (fun a v => (g a).wp D Q v) view := by
  induction c generalizing view with
  | ret | fail => rfl
  | query k ih => exact ih view
  | lock row k ih => exact ih view
  | write rows f k ih => exact ih view
  | commit k ih => exact and_congr_right fun _ => ih

variable {Q : α → σ → Prop}

theorem wp_pure (a : α) : (pure a : Code σ κ ε α).wp D Q view ↔ Q a view := Iff.rfl

theorem wp_ret (a : α) : (ret a : Code σ κ ε α).wp D Q view ↔ Q a view := Iff.rfl

theorem wp_done (a : α) : (done a : Code σ κ ε α).wp D Q view ↔ D view ∧ Q a view := Iff.rfl

theorem wp_commitTx {Q : Unit → σ → Prop} :
    (commitTx : Code σ κ ε Unit).wp D Q view ↔ D view ∧ Q () view := Iff.rfl

theorem wp_failIf {c : Prop} [Decidable c] {e : ε} {Q : Unit → σ → Prop} :
    (failIf c e : Code σ κ ε Unit).wp D Q view ↔ (¬c → Q () view) := by
  unfold failIf
  split
  · exact iff_of_true trivial fun h => absurd ‹_› h
  · exact ⟨fun h _ => h, fun h => h ‹_›⟩

theorem wp_orElse {o : Option α} {e : ε} :
    (orElse o e : Code σ κ ε α).wp D Q view ↔ ∀ a, o = some a → Q a view := by
  cases o with
  | none => exact iff_of_true trivial fun a ha => by cases ha
  | some b => exact ⟨fun h a ha => Option.some.inj ha ▸ h, fun h => h b rfl⟩

theorem wp_ofExcept {x : Except ε α} :
    (ofExcept x : Code σ κ ε α).wp D Q view ↔ ∀ a, x = .ok a → Q a view := by
  cases x with
  | error e => exact iff_of_true trivial fun a ha => by cases ha
  | ok b => exact ⟨fun h a ha => Except.ok.inj ha ▸ h, fun h => h b rfl⟩

theorem wp_select (f : σ → α) : (select f : Code σ κ ε α).wp D Q view ↔ Q (f view) view := Iff.rfl

theorem wp_selectForUpdate (row : κ) (f : σ → α) :
    (selectForUpdate row f : Code σ κ ε α).wp D Q view ↔ Q (f view) view := Iff.rfl

theorem wp_update (rows : List κ) (f : σ → σ) (found : σ → α) :
    (update rows f found : Code σ κ ε α).wp D Q view ↔ Q (found view) (f view) := Iff.rfl

variable {c : Code σ κ ε α}

/-- Code that keeps a part of the database. -/
theorem Keeps.wp {τ : Type} {R : σ → τ} (h : Keeps R c)
    (hQ : ∀ a v, R v = R view → Q a v) : c.wp D Q view := by
  induction h generalizing view with
  | ret a => exact hQ a view rfl
  | fail e => trivial
  | query k _ ih => exact ih view hQ
  | lock row k _ ih => exact ih view hQ
  | write rows f k hf _ ih => exact ih view fun a v hv => hQ a v (hv.trans (hf view))

theorem of_run {db : σ} (hdb : D db) (h : c.wp D Q view) : D (c.run db view).2.1 := by
  induction c generalizing db view with
  | ret | fail => exact hdb
  | query k ih => exact ih view hdb h
  | lock row k ih => exact ih view hdb h
  | write rows f k ih => exact ih view hdb h
  | commit k ih => exact ih h.1 h.2

theorem of_exec {db : σ} (hdb : D db) (h : c.wp D Q db) : D (c.exec db) := of_run hdb h

end

-- from here on preconditions are computed by the rules above
attribute [irreducible] wp

end Code

/-! ## Interleaved processes -/

/-- A process: the code still to run, the writes of its open transaction, and the views that its
statements have had so far, the latest first, which the code never reads. -/
structure Proc (σ κ ε α : Type) where
  code : Code σ κ ε α
  pending : σ → σ
  seen : List σ

namespace Proc

variable {σ κ ε α : Type}

def start (code : Code σ κ ε α) : Proc σ κ ε α := ⟨code, id, []⟩

section

variable (p : Proc σ κ ε α) (db : σ)

/-- What the first statement of the process saw. -/
def firstSeen : Option σ := p.seen.getLast?

def needs : List κ :=
  match p.code with
  | .lock row _ => [row]
  | .write rows _ _ => rows
  | _ => []

/-- Whether the next step is a commit. -/
def commits : Bool :=
  match p.code with
  | .commit _ => true
  | _ => false

/-- Whether the next step ends the transaction. -/
def closes : Bool :=
  match p.code with
  | .commit _ | .fail _ => true
  | _ => false

/-- The process after its next step, from the committed database `db`. -/
def next : Proc σ κ ε α :=
  match p.code with
  | .ret _ => p
  | .fail e => ⟨.fail e, id, p.seen⟩
  | .query k => ⟨k (p.pending db), p.pending, p.pending db :: p.seen⟩
  | .lock _ k => ⟨k (p.pending db), p.pending, p.pending db :: p.seen⟩
  | .write _ f k => ⟨k (p.pending db), f ∘ p.pending, p.pending db :: p.seen⟩
  | .commit k => ⟨k, id, p.seen⟩

/-- The committed database after the next step of the process. -/
def commitTo : σ :=
  match p.code with
  | .commit _ => p.pending db
  | _ => db

def returned : Bool :=
  match p.code with
  | .ret _ => true
  | _ => false

def abort (e : ε) : Proc σ κ ε α := ⟨.fail e, id, p.seen⟩

end

end Proc

/-- What a schedule consists of. -/
inductive Event (ι ε : Type)
  | step (i : ι)
  /-- The environment aborts a process (a lost connection, a deadlock, a refused statement). -/
  | abort (i : ι) (e : ε)

/-- Interleaved processes over one database. -/
structure Sys (ι σ κ ε α : Type) where
  db : σ
  procs : ι → Proc σ κ ε α
  owner : κ → Option ι

namespace Sys

variable {ι σ κ ε α : Type}

def start (db : σ) (code : ι → Code σ κ ε α) : Sys ι σ κ ε α :=
  ⟨db, fun i => .start (code i), fun _ => none⟩

/-- No other process holds the row. -/
def Free (s : Sys ι σ κ ε α) (i : ι) (row : κ) : Prop := s.owner row = none ∨ s.owner row = some i

instance [DecidableEq ι] (s : Sys ι σ κ ε α) (i : ι) (row : κ) : Decidable (s.Free i row) :=
  inferInstanceAs (Decidable (_ ∨ _))

def Held (s : Sys ι σ κ ε α) (i : ι) (row : κ) : Prop := s.owner row = some i

variable {s : Sys ι σ κ ε α}

theorem Held.ne {i j : ι} {row row' : κ} (hi : s.Held i row)
    (hj : s.Held j row') (hne : i ≠ j) : row ≠ row' := by
  rintro rfl
  exact hne (Option.mem_unique hi hj)

section

variable [DecidableEq ι]

/-- The lock table after process `i` has let go of its rows. -/
def release (owner : κ → Option ι) (i : ι) : κ → Option ι := fun row =>
  if owner row = some i then none else owner row

variable {s : Sys ι σ κ ε α} {i j : ι}

theorem held_release_self : (fun row => release s.owner i row = some i) = fun _ => False := by
  funext row
  by_cases h : s.owner row = some i <;> simp [release]

theorem held_release_of_ne (hne : j ≠ i) :
    (fun row => release s.owner i row = some j) = s.Held j := by
  funext row
  by_cases h : s.owner row = some i
  · simp [release, Held, h, Ne.symm hne]
  · simp [release, Held, h]

end

section

variable [DecidableEq κ]

/-- The lock table after process `i` has locked some rows. -/
def acquire (owner : κ → Option ι) (i : ι) (rows : List κ) : κ → Option ι := fun row =>
  if row ∈ rows then some i else owner row

variable {s : Sys ι σ κ ε α} {i j : ι} {rows : List κ}

theorem held_acquire_self :
    (fun row => acquire s.owner i rows row = some i) = fun row => s.Held i row ∨ row ∈ rows := by
  funext row
  by_cases h : row ∈ rows <;> simp [acquire, Held, h]

/-- Locking free rows takes none away from the others. -/
theorem held_acquire_of_ne (hfree : ∀ row ∈ rows, s.Free i row) (hne : j ≠ i) :
    (fun row => acquire s.owner i rows row = some j) = s.Held j := by
  funext row
  by_cases h : row ∈ rows
  · rcases hfree row h with hnone | hown
    · simp [acquire, Held, hnone, Ne.symm hne]
    · simp [acquire, Held, hown]
  · simp [acquire, Held, h]

end

variable [DecidableEq ι] [DecidableEq κ]

/-- The next step of process `i`, unless it has to wait for a row. -/
def advance (s : Sys ι σ κ ε α) (i : ι) : Sys ι σ κ ε α :=
  let p := s.procs i
  if ∀ row ∈ p.needs, s.Free i row then
    { db := p.commitTo s.db
      procs := Function.update s.procs i (p.next s.db)
      owner := if p.closes then release s.owner i else acquire s.owner i p.needs }
  else s

/-- A step of the system; an abort does not reach a process that has returned. -/
def step (s : Sys ι σ κ ε α) : Event ι ε → Sys ι σ κ ε α
  | .step i => s.advance i
  | .abort i e =>
    if (s.procs i).returned then s
    else
      { s with
        procs := Function.update s.procs i ((s.procs i).abort e), owner := release s.owner i }

def run (s : Sys ι σ κ ε α) (es : List (Event ι ε)) : Sys ι σ κ ε α := es.foldl step s

/-- Every event of the schedule meets a condition in the state in which it happens. -/
abbrev Meets (cond : Sys ι σ κ ε α → Event ι ε → Prop) : Sys ι σ κ ε α → List (Event ι ε) → Prop :=
  Runs.Meets step cond

variable {cond : Sys ι σ κ ε α → Event ι ε → Prop}

/-- What holds at the start and is kept by every step that meets the condition holds after every
schedule whose steps all meet it. -/
theorem run_induction {P : Sys ι σ κ ε α → Prop}
    (hstep : ∀ s e, P s → cond s e → P (s.step e)) (h : P s)
    {es : List (Event ι ε)} (hmeets : Meets cond s es) : P (s.run es) :=
  Runs.induction hstep h hmeets

/-! ## Stages

Most invariants say of every process at which stage of its code it is, what it has pending there
and which rows it holds. `Staged.step` reduces such an invariant to three facts about the code of
one process. -/

section

/-- The database satisfies `P`, and every process is at one of the stages `J`. -/
structure Staged (P : σ → Prop) (J : ι → σ → (κ → Prop) → Proc σ κ ε α → Prop)
    (s : Sys ι σ κ ε α) : Prop where
  db : P s.db
  procs : ∀ i, J i s.db (s.Held i) (s.procs i)

variable {s : Sys ι σ κ ε α} {i j : ι}

omit [DecidableEq κ] in
/-- The stages after a change of process `i` that leaves the others' rows and stages alone. -/
theorem Staged.update {P : σ → Prop} {J : ι → σ → (κ → Prop) → Proc σ κ ε α → Prop}
    {db : σ} {p : Proc σ κ ε α} {owner : κ → Option ι} (hP : P db)
    (hself : J i db (fun row => owner row = some i) p)
    (hheld : ∀ j, j ≠ i → (fun row => owner row = some j) = s.Held j)
    (hothers : ∀ j, j ≠ i → J j db (s.Held j) (s.procs j)) :
    Staged P J ⟨db, Function.update s.procs i p, owner⟩ := by
  refine ⟨hP, fun j => ?_⟩
  change J j db (fun row => owner row = some j) (Function.update s.procs i p j)
  by_cases hji : j = i
  · subst hji
    rw [Function.update_self]
    exact hself
  · rw [Function.update_of_ne hji]
    have hj := hothers j hji
    rwa [← hheld j hji] at hj

/-- A step keeps the stages, if a statement leads to the next stage, a failure is a stage, and a
commit that meets the condition keeps `P` and the stages of everyone. -/
theorem Staged.step {P : σ → Prop} {J : ι → σ → (κ → Prop) → Proc σ κ ε α → Prop}
    (hnext : ∀ i db held p, P db → J i db held p → p.closes = false →
      J i db (fun row => held row ∨ row ∈ p.needs) (p.next db))
    (hfail : ∀ i db held p e, J i db held p → J i db (fun _ => False) (p.abort e))
    (hcommit : ∀ s i k, Staged P J s → cond s (.step i) → (s.procs i).code = .commit k →
      P ((s.procs i).pending s.db) ∧
        J i ((s.procs i).pending s.db) (fun _ => False) ⟨k, id, (s.procs i).seen⟩ ∧
        ∀ j, j ≠ i → J j ((s.procs i).pending s.db) (s.Held j) (s.procs j))
    (s : Sys ι σ κ ε α) (e : Event ι ε) (h : Staged P J s) (hcond : cond s e) :
    Staged P J (s.step e) := by
  cases e with
  | abort i e =>
    simp only [Sys.step]
    split
    · exact h
    · refine .update h.db ?_ (fun j hj => held_release_of_ne hj) fun j _ => h.procs j
      rw [held_release_self]
      exact hfail i s.db _ _ e (h.procs i)
  | step i =>
    simp only [Sys.step, advance]
    split
    · rename_i hfree
      cases hcode : (s.procs i).code with
      | commit k =>
        obtain ⟨hP, hself, hothers⟩ := hcommit s i k h hcond hcode
        simp only [Proc.commitTo, Proc.closes, Proc.next, hcode, if_true]
        refine .update hP ?_ (fun j hj => held_release_of_ne hj) hothers
        rwa [held_release_self]
      | fail e =>
        simp only [Proc.commitTo, Proc.closes, Proc.next, hcode, if_true]
        refine .update h.db ?_ (fun j hj => held_release_of_ne hj) fun j _ => h.procs j
        rw [held_release_self]
        exact hfail i s.db _ _ e (h.procs i)
      | _ =>
        have hcloses : (s.procs i).closes = false := by simp [Proc.closes, hcode]
        have hdb : (s.procs i).commitTo s.db = s.db := by simp [Proc.commitTo, hcode]
        rw [hdb, hcloses, if_neg Bool.false_ne_true]
        refine .update h.db ?_ (fun j hj => held_acquire_of_ne hfree hj) fun j _ => h.procs j
        rw [held_acquire_self]
        exact hnext i s.db _ _ h.db (h.procs i) hcloses
    · exact h

/-! ## Accounts -/

variable {M : Type} [AddCommGroup M] [Fintype ι]

def contributed (s : Sys ι σ κ ε α) (v : ι → M) : M := ∑ i, if (s.procs i).returned then v i else 0

omit [DecidableEq κ] in
theorem contributed_update (s : Sys ι σ κ ε α) (v : ι → M) (i : ι) (db : σ) (p : Proc σ κ ε α)
    (owner : κ → Option ι) :
    (if (s.procs i).returned then v i else 0) +
        contributed ⟨db, Function.update s.procs i p, owner⟩ v =
      (if p.returned then v i else 0) + s.contributed v := by
  have hrest : ∑ j ∈ Finset.univ.erase i,
      (if (Function.update s.procs i p j).returned then v j else 0) =
      ∑ j ∈ Finset.univ.erase i, if (s.procs j).returned then v j else 0 := by
    apply Finset.sum_congr rfl
    intro j hj
    rw [Function.update_of_ne (Finset.ne_of_mem_erase hj)]
  have hnew : contributed ⟨db, Function.update s.procs i p, owner⟩ v =
      (if p.returned then v i else 0) + ∑ j ∈ Finset.univ.erase i,
        if (s.procs j).returned then v j else 0 := by
    rw [contributed, ← Finset.add_sum_erase _ _ (Finset.mem_univ i), hrest]
    simp only [Function.update_self]
  rw [hnew, contributed, ← Finset.add_sum_erase _ _ (Finset.mem_univ i)]
  abel

omit [DecidableEq κ] in
/-- A step of a process that leaves its contribution alone. -/
theorem contributed_update_of_eq (s : Sys ι σ κ ε α) (v : ι → M) (i : ι) (db : σ)
    (p : Proc σ κ ε α) (owner : κ → Option ι)
    (h : p.returned = true → (s.procs i).returned = false → v i = 0)
    (hold : (s.procs i).returned = true → p.returned = true) :
    contributed ⟨db, Function.update s.procs i p, owner⟩ v = s.contributed v := by
  have hsum := contributed_update s v i db p owner
  cases hnew : p.returned <;> cases hprev : (s.procs i).returned <;>
    simp_all

/-- The account of a step: a process contributes when a commit makes it return, and nothing else
changes the quantity. -/
theorem Staged.account {P : σ → Prop}
    {J : ι → σ → (κ → Prop) → Proc σ κ ε α → Prop} {m : σ → M} {v : ι → M}
    (hnext : ∀ i db held p, P db → J i db held p → p.closes = false → p.returned = false →
      (p.next db).returned = true → v i = 0)
    (hcommit : ∀ s i k, Staged P J s → cond s (.step i) → (s.procs i).code = .commit k →
      m ((s.procs i).pending s.db) =
        m s.db + if (⟨k, id, (s.procs i).seen⟩ : Proc σ κ ε α).returned then v i else 0)
    (s : Sys ι σ κ ε α) (e : Event ι ε) (h : Staged P J s) (hcond : cond s e) :
    m (s.step e).db - (s.step e).contributed v = m s.db - s.contributed v := by
  cases e with
  | abort i e =>
    simp only [Sys.step]
    split
    · rfl
    · rename_i hreturned
      rw [contributed_update_of_eq s v i s.db _ _ (fun hnew => by cases hnew)
        fun hold => absurd hold hreturned]
  | step i =>
    simp only [Sys.step, advance]
    split
    · cases hcode : (s.procs i).code with
      | commit k =>
        have hold : (s.procs i).returned = false := by simp [Proc.returned, hcode]
        have hsum := contributed_update s v i ((s.procs i).commitTo s.db) ((s.procs i).next s.db)
          (if (s.procs i).closes then release s.owner i else acquire s.owner i (s.procs i).needs)
        have hm := hcommit s i k h hcond hcode
        rw [hold, if_neg Bool.false_ne_true, zero_add] at hsum
        rw [hsum]
        simp only [Proc.commitTo, Proc.next, hcode, hm]
        abel
      | ret a =>
        have hdb : (s.procs i).commitTo s.db = s.db := by simp [Proc.commitTo, hcode]
        have hp : (s.procs i).next s.db = s.procs i := by simp [Proc.next, hcode]
        rw [hdb, hp, contributed_update_of_eq s v i s.db _ _
          (fun hnew hold => by rw [hnew] at hold; cases hold) id]
      | fail e =>
        have hdb : (s.procs i).commitTo s.db = s.db := by simp [Proc.commitTo, hcode]
        rw [hdb, contributed_update_of_eq s v i s.db _ _
          (fun hnew => by simp [Proc.next, Proc.returned, hcode] at hnew)
          fun hold => by simp [Proc.returned, hcode] at hold]
      | _ =>
        have hdb : (s.procs i).commitTo s.db = s.db := by simp [Proc.commitTo, hcode]
        rw [hdb, contributed_update_of_eq s v i s.db _ _
          (fun hnew hold => hnext i s.db _ _ h.db (h.procs i) (by simp [Proc.closes, hcode]) hold
            hnew)
          fun hold => by simp [Proc.returned, hcode] at hold]
    · rfl

end

end Sys

end Mujian
