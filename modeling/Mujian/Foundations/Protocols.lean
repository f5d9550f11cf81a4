import Mujian.Foundations.Runs

/-!
# Interleaved programs that follow a protocol

Several programs perform atomic operations on a shared state. A protocol says, by the stage that a
program has reached, which operation it may perform next. `Prog.Follows` is the precondition under
which a program follows a protocol, with one rule for each way of composing programs.
`System.run_sound` carries an invariant of the state and of the stages through every schedule.
-/

namespace Mujian.Protocols

variable {ω : Type} {ρ : ω → Type} {α β γ τ : Type}

/-- A program over operations `ω` with results `ρ`. It ends, breaks off, or performs an operation
and goes on. -/
inductive Prog (ρ : ω → Type) (α : Type) : Type
  | ret (a : α)
  | stop
  | op (o : ω) (k : ρ o → Prog ρ α)

namespace Prog

def bind : Prog ρ α → (α → Prog ρ β) → Prog ρ β
  | ret a, g => g a
  | stop, _ => stop
  | op o k, g => op o fun r => (k r).bind g

instance : Monad (Prog ρ) where
  pure := ret
  bind := bind

def perform (o : ω) : Prog ρ (ρ o) := op o ret

end Prog

/-- A protocol over stages `τ`. -/
structure Protocol (ρ : ω → Type) (τ : Type) where
  start : τ
  /-- The operations that a program may perform. -/
  allowed : τ → ω → Prop
  /-- The results that a program may rely on. -/
  possible : τ → (o : ω) → ρ o → Prop
  next : τ → (o : ω) → ρ o → τ
  /-- The stages in which a program may break off. -/
  final : τ → Prop

/-- What has to hold of the stage so that the program follows the protocol from there on and, if
it ends, establishes `Q`. -/
def Prog.Follows (D : Protocol ρ τ) : Prog ρ α → (α → τ → Prop) → τ → Prop
  | .ret a, Q, m => Q a m
  | .stop, _, m => D.final m
  | .op o k, Q, m => D.allowed m o ∧ ∀ r, D.possible m o r → (k r).Follows D Q (D.next m o r)

namespace Prog

variable {D : Protocol ρ τ} {m : τ}

theorem follows_bind (c : Prog ρ α) (g : α → Prog ρ β) {Q : β → τ → Prop} :
    (c >>= g).Follows D Q m ↔ c.Follows D (fun a m' => (g a).Follows D Q m') m := by
  induction c generalizing m with
  | ret | stop => exact Iff.rfl
  | op o k ih => exact and_congr_right fun _ => forall₂_congr fun r _ => ih r

theorem follows_pure (a : α) {Q : α → τ → Prop} :
    (pure a : Prog ρ α).Follows D Q m ↔ Q a m := Iff.rfl

theorem follows_perform (o : ω) {Q : ρ o → τ → Prop} : (perform o).Follows D Q m ↔
      D.allowed m o ∧ ∀ r, D.possible m o r → Q r (D.next m o r) := Iff.rfl

theorem Follows.mono {c : Prog ρ α} {Q Q' : α → τ → Prop} (h : c.Follows D Q m)
    (hQ : ∀ a m', Q a m' → Q' a m') : c.Follows D Q' m := by
  induction c generalizing m with
  | ret a => exact hQ a m h
  | stop => exact h
  | op o k ih => exact ⟨h.1, fun r hr => ih r (h.2 r hr)⟩

/-- A protocol that only keeps a record is followed by every program. -/
theorem follows_of_unrestricted (hallowed : ∀ m o, D.allowed m o) (hfinal : ∀ m, D.final m)
    (c : Prog ρ α) : c.Follows D (fun _ m => D.final m) m := by
  induction c generalizing m with
  | ret | stop => exact hfinal m
  | op o k ih => exact ⟨hallowed m o, fun r _ => ih r⟩

/-- A loop over a list, with an invariant on what is left of the list. -/
theorem follows_foldlM {f : γ → β → Prog ρ γ} {I : List β → γ → τ → Prop}
    (hstep : ∀ b rest g m, I (b :: rest) g m → (f g b).Follows D (I rest) m) {l : List β} {g : γ}
    (h : I l g m) : (l.foldlM f g).Follows D (I []) m := by
  induction l generalizing g m with
  | nil => exact h
  | cons b rest ih =>
    rw [List.foldlM_cons, follows_bind]
    exact (hstep b rest g m h).mono fun g' m' h' => ih h'

end Prog

/-- A running program with the operations that it has performed and their results, the latest first,
which the program never reads. -/
structure Proc (ρ : ω → Type) (α : Type) where
  code : Prog ρ α
  history : List (Sigma ρ)

/-- The stage that a program has reached. -/
def Protocol.stage (D : Protocol ρ τ) (p : Proc ρ α) : τ :=
  p.history.foldr (fun x m => D.next m x.1 x.2) D.start

/-- Running programs over a shared state. -/
structure System (ι σ : Type) (ρ : ω → Type) (α : Type) where
  state : σ
  procs : ι → Proc ρ α

namespace System

variable {ι σ ε : Type} [DecidableEq ι]

/-- All programs are at their beginning. -/
def start (state : σ) (code : ι → Prog ρ α) : System ι σ ρ α := ⟨state, fun i => ⟨code i, []⟩⟩

def stages (D : Protocol ρ τ) (s : System ι σ ρ α) (i : ι) : τ := D.stage (s.procs i)

section

variable (exec : (o : ω) → ε → σ → σ × ρ o) (s : System ι σ ρ α)

/-- One program performs its next operation. -/
def step (e : ι × ε) : System ι σ ρ α :=
  match (s.procs e.1).code with
  | .ret _ | .stop => s
  | .op o k =>
    let done := exec o e.2 s.state
    { state := done.1
      procs := Function.update s.procs e.1 ⟨k done.2, ⟨o, done.2⟩ :: (s.procs e.1).history⟩ }

def run (es : List (ι × ε)) : System ι σ ρ α := es.foldl (step exec) s

end

/-- The operation that a step performs meets a condition. -/
def StepMeets (cond : System ι σ ρ α → ι → ω → ε → Prop) (s : System ι σ ρ α) (e : ι × ε) : Prop :=
  match (s.procs e.1).code with
  | .ret _ | .stop => True
  | .op o _ => cond s e.1 o e.2

instance (cond : System ι σ ρ α → ι → ω → ε → Prop) [h : ∀ s i o e, Decidable (cond s i o e)]
    (s : System ι σ ρ α) (e : ι × ε) : Decidable (StepMeets cond s e) :=
  match hcode : (s.procs e.1).code with
  | .ret _ | .stop => .isTrue (by rw [StepMeets, hcode]; trivial)
  | .op o _ => decidable_of_iff (cond s e.1 o e.2) (by rw [StepMeets, hcode])

abbrev Meets (exec : (o : ω) → ε → σ → σ × ρ o) (cond : System ι σ ρ α → ι → ω → ε → Prop) :
    System ι σ ρ α → List (ι × ε) → Prop :=
  Runs.Meets (step exec) (StepMeets cond)

variable {goal : System ι σ ρ α → ι → ω → ε → Prop} {es : List (ι × ε)} {state : σ}
  {code : ι → Prog ρ α}

/-- What the condition says of an operation, it says of every one of a run. -/
theorem Meets.mono {exec : (o : ω) → ε → σ → σ × ρ o} {cond : System ι σ ρ α → ι → ω → ε → Prop}
    (hgoal : ∀ s i o e, cond s i o e → goal s i o e) {s : System ι σ ρ α}
    (hmeets : Meets exec cond s es) : Meets exec goal s es := by
  refine Runs.Meets.imp (P := fun _ => True) (fun _ _ _ _ => trivial) (fun s e _ he => ?_) trivial
    hmeets
  unfold StepMeets at he ⊢
  cases hcode : (s.procs e.1).code with
  | ret | stop => trivial
  | op o k =>
    rw [hcode] at he
    exact hgoal s e.1 o e.2 he

/-- An invariant of the state and the stages holds, and every program follows the protocol. -/
structure Sound (D : Protocol ρ τ) (Inv : σ → (ι → τ) → Prop) (s : System ι σ ρ α) : Prop where
  inv : Inv s.state (s.stages D)
  follows : ∀ i, (s.procs i).code.Follows D (fun _ m => D.final m) (s.stages D i)

variable {exec : (o : ω) → ε → σ → σ × ρ o} {D : Protocol ρ τ} {Inv : σ → (ι → τ) → Prop}
  {cond : System ι σ ρ α → ι → ω → ε → Prop} {s : System ι σ ρ α}

/-- An operation moves the stage of the program that performs it. -/
theorem stages_update (i : ι) (code : Prog ρ α) (x : Sigma ρ) (state : σ) :
    System.stages D ⟨state, Function.update s.procs i ⟨code, x :: (s.procs i).history⟩⟩ =
      Function.update (s.stages D) i (D.next (s.stages D i) x.1 x.2) := by
  funext j
  unfold stages
  by_cases hj : j = i
  · subst hj
    dsimp only
    rw [Function.update_self, Function.update_self]
    rfl
  · dsimp only
    rw [Function.update_of_ne hj, Function.update_of_ne hj]

/-- Under a condition, an allowed operation keeps an invariant and has a result on which programs
may rely. -/
def Keeps (exec : (o : ω) → ε → σ → σ × ρ o) (D : Protocol ρ τ) (Inv : σ → (ι → τ) → Prop)
    (cond : System ι σ ρ α → ι → ω → ε → Prop) : Prop :=
  ∀ (s : System ι σ ρ α) i o e, Inv s.state (s.stages D) → D.allowed (s.stages D i) o →
    cond s i o e → D.possible (s.stages D i) o (exec o e s.state).2 ∧ Inv (exec o e s.state).1
        (Function.update (s.stages D) i (D.next (s.stages D i) o (exec o e s.state).2))

section

variable (hstep : Keeps exec D Inv cond)
include hstep

/-- Such an operation keeps the system sound. -/
theorem Sound.step (h : s.Sound D Inv) {e : ι × ε} (hmeets : StepMeets cond s e) :
    (System.step exec s e).Sound D Inv := by
  have hfollows := h.follows e.1
  unfold System.step
  unfold StepMeets at hmeets
  cases hcode : (s.procs e.1).code with
  | ret | stop => exact h
  | op o k =>
    rw [hcode] at hfollows hmeets
    obtain ⟨hpossible, hinv⟩ := hstep s e.1 o e.2 h.inv hfollows.1 hmeets
    refine ⟨?_, fun j => ?_⟩
    · rw [stages_update]
      exact hinv
    · rw [stages_update]
      by_cases hj : j = e.1
      · subst hj
        rw [Function.update_self]
        dsimp only
        rw [Function.update_self]
        exact hfollows.2 _ hpossible
      · rw [Function.update_of_ne hj]
        dsimp only
        rw [Function.update_of_ne hj]
        exact h.follows j

/-- **An invariant that allowed operations keep holds after every run** of programs that follow
the protocol. -/
theorem run_sound (hinv : Inv state fun _ => D.start)
    (hcode : ∀ i, (code i).Follows D (fun _ m => D.final m) D.start)
    (hmeets : Meets exec cond (start state code) es) :
    ((start state code).run exec es).Sound D Inv :=
  Runs.induction (fun _ _ h he => h.step hstep he) ⟨hinv, hcode⟩ hmeets

/-- What an allowed operation does under the invariant, it does in every run. -/
theorem run_meets (hgoal : ∀ (s : System ι σ ρ α) i o e, Inv s.state (s.stages D) →
      D.allowed (s.stages D i) o → cond s i o e → goal s i o e)
    (hinv : Inv state fun _ => D.start)
    (hcode : ∀ i, (code i).Follows D (fun _ m => D.final m) D.start)
    (hmeets : Meets exec cond (start state code) es) :
    Meets exec goal (start state code) es := by
  have hstart : (start state code).Sound D Inv := ⟨hinv, hcode⟩
  refine Runs.Meets.imp (P := System.Sound D Inv) (fun s e h he => h.step hstep he) ?_ hstart hmeets
  intro s e h he
  have hfollows := h.follows e.1
  unfold StepMeets at he ⊢
  cases hcode : (s.procs e.1).code with
  | ret | stop => trivial
  | op o k =>
    rw [hcode] at hfollows he
    exact hgoal s e.1 o e.2 h.inv hfollows.1 he

end

end System

end Mujian.Protocols
