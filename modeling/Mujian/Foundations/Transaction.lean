import Mujian.Foundations.Table

/-!
# Transactions

A transaction body of type `Tx σ ε α` reads and writes a state `σ` and either returns an `α` or
fails with an `ε`. `Tx.commit` runs a body as one atomic step: the writes of a body that fails are
rolled back, and the environment may refuse the transaction altogether. The inversion lemmas
`run_bind_eq_ok`, … turn a successful run into what its statements found and did, and `changes_le`
bounds the number of effective steps of a run by a rank.
-/

namespace Mujian

section

variable {ε α β : Type} {x : Except ε α}

/-- A sequence succeeds if and only if both parts do. -/
@[simp] theorem except_bind_eq_ok_iff {f : α → Except ε β} {b : β} :
    (x >>= f) = .ok b ↔ ∃ a, x = .ok a ∧ f a = .ok b := by
  rcases x with e | a <;> simp [bind, Except.bind]

/-- A guard that fails with an error lets a computation succeed only when it does not hold. -/
@[simp] theorem ite_error_eq_ok_iff {c : Prop} [Decidable c] {e : ε} {a : α} :
    (if c then .error e else x) = .ok a ↔ ¬c ∧ x = .ok a := by
  by_cases hc : c <;> simp [hc]

end

/-- Transaction bodies over the state `σ` with errors `ε`. -/
def Tx (σ ε α : Type) : Type := σ → Except ε (α × σ)

namespace Tx

variable {σ ε α β : Type}

/-- The outcome of a body in a state: an error, or the result and the state it leaves. -/
def run (m : Tx σ ε α) (s : σ) : Except ε (α × σ) := m s

instance : Monad (Tx σ ε) where
  pure a := fun s => .ok (a, s)
  bind m f := fun s =>
    match m s with
    | .ok (a, s') => f a s'
    | .error e => .error e

def throw (e : ε) : Tx σ ε α := fun _ => .error e

/-- Read a function of the state. -/
def gets (f : σ → α) : Tx σ ε α := fun s => .ok (f s, s)

/-- Change the state and return a value computed from the old one. -/
def modifyGet (f : σ → α × σ) : Tx σ ε α := fun s => .ok (f s)

/-- `if c { return e }`. -/
def failIf (c : Prop) [Decidable c] (e : ε) : Tx σ ε Unit := if c then throw e else pure ()

/-- The value of an optional read, or an error when there is none. -/
def orElse (o : Option α) (e : ε) : Tx σ ε α :=
  match o with
  | some a => pure a
  | none => throw e

variable {s s' : σ} {a b : α}

theorem run_bind (m : Tx σ ε α) (f : α → Tx σ ε β) (s : σ) : (m >>= f).run s = match m.run s with
      | .ok (a, s') => (f a).run s'
      | .error e => .error e := rfl

variable {f : α → Tx σ ε β} {m : Tx σ ε α}

@[simp] theorem run_bind_eq_ok {b : β} :
    (m >>= f).run s = .ok (b, s') ↔ ∃ a s₁, m.run s = .ok (a, s₁) ∧ (f a).run s₁ = .ok (b, s') := by
  rw [run_bind]
  cases m.run s with
  | error e => simp
  | ok r =>
    obtain ⟨a, s₁⟩ := r
    simp [and_assoc]

@[simp] theorem run_pure_eq_ok : (pure a : Tx σ ε α).run s = .ok (b, s') ↔ a = b ∧ s = s' := by
  change Except.ok (a, s) = .ok (b, s') ↔ _
  simp

variable {e : ε}

@[simp] theorem run_throw_eq_ok : (throw e : Tx σ ε α).run s = .ok (b, s') ↔ False := by
  simp [run, throw]

@[simp] theorem run_gets_eq_ok {f : σ → α} :
    (gets f : Tx σ ε α).run s = .ok (b, s') ↔ f s = b ∧ s = s' := by simp [run, gets]

@[simp] theorem run_modifyGet_eq_ok {f : σ → α × σ} :
    (modifyGet f : Tx σ ε α).run s = .ok (b, s') ↔ f s = (b, s') := by simp [run, modifyGet]

@[simp] theorem run_failIf_eq_ok {c : Prop} [Decidable c] {u : Unit} :
    (failIf c e : Tx σ ε Unit).run s = .ok (u, s') ↔ ¬c ∧ s = s' := by
  unfold failIf
  split <;> simp [*]

@[simp] theorem run_orElse_eq_ok {o : Option α} :
    (orElse o e : Tx σ ε α).run s = .ok (b, s') ↔ o = some b ∧ s = s' := by
  cases o <;> simp [orElse]

theorem run_bind_eq_error : (m >>= f).run s = .error e ↔ m.run s = .error e ∨
      ∃ a s₁, m.run s = .ok (a, s₁) ∧ (f a).run s₁ = .error e := by
  rw [run_bind]
  cases m.run s with
  | error e' => simp
  | ok r =>
    obtain ⟨a, s₁⟩ := r
    simp

/-- Every error that the body can end with satisfies `P`. -/
def Raises (P : ε → Prop) (m : Tx σ ε α) : Prop := ∀ s e, m.run s = .error e → P e

namespace Raises

variable {P : ε → Prop}

theorem bind (hm : Raises P m) (hf : ∀ a, Raises P (f a)) : Raises P (m >>= f) := by
  intro s e h
  obtain h | ⟨a, s₁, -, h⟩ := run_bind_eq_error.1 h
  · exact hm s e h
  · exact hf a s₁ e h

theorem pure (a : α) : Raises P (pure a : Tx σ ε α) := fun _ _ h => by cases h

theorem gets (f : σ → α) : Raises P (gets f : Tx σ ε α) := fun _ _ h => by cases h

theorem failIf {c : Prop} [Decidable c] (he : P e) : Raises P (failIf c e : Tx σ ε Unit) := by
  intro s e' h
  unfold Tx.failIf at h
  split at h <;> cases h
  exact he

theorem orElse {o : Option α} (he : P e) : Raises P (orElse o e : Tx σ ε α) := by
  intro s e' h
  cases o <;> cases h
  exact he

end Raises

end Tx

/-- A table of the state: how it is read and written. -/
structure TableOf (σ ρ : Type) {κ : Type} [Keyed ρ κ] where
  get : σ → Table ρ
  set : Table ρ → σ → σ
  set_get : ∀ s, set (get s) s = s

namespace TableOf

open Keyed (key)

variable {σ ε ρ κ : Type} [Keyed ρ κ] [DecidableEq κ] (T : TableOf σ ρ)

/-- `UPDATE … SET f WHERE key = k AND c`, returning the number of rows affected. -/
def update (k : κ) (c : ρ → Bool) (f : ρ → ρ) (hf : ∀ r, key (f r) = key r) : Tx σ ε ℕ :=
  Tx.modifyGet fun s =>
    ((T.get s).countWhere fun r => key r == k && c r,
      T.set ((T.get s).updateWhere (fun r => key r == k && c r) f fun r _ => hf r) s)

/-- An `UPDATE` that must affect exactly one row. -/
def updateOne (k : κ) (c : ρ → Bool) (f : ρ → ρ) (hf : ∀ r, key (f r) = key r) (e : ε) :
    Tx σ ε Unit := do
  let rowsAffected ← T.update k c f hf
  Tx.failIf (rowsAffected ≠ 1) e

variable {T} {k : κ} {c : ρ → Bool} {f : ρ → ρ} {hf : ∀ r, key (f r) = key r} {s s' : σ}

/-- An `UPDATE` addressed by key affects the row with that key when it satisfies the condition,
and otherwise leaves the state as it is. -/
theorem run_update_eq_ok {n : ℕ} : (T.update k c f hf : Tx σ ε ℕ).run s = .ok (n, s') ↔
      (n = 1 ∧ ∃ r, (T.get s).find? k = some r ∧ c r = true ∧
        s' = T.set ((T.get s).update k f fun r h => (hf r).trans h) s) ∨
      (n = 0 ∧ (∀ r, (T.get s).find? k = some r → c r = false) ∧ s' = s) := by
  have hp : ∀ r : ρ, (key r == k && c r) = true → key r = k := by
    intro r hr
    simp only [Bool.and_eq_true, beq_iff_eq] at hr
    exact hr.1
  rw [update, Tx.run_modifyGet_eq_ok, Prod.mk.injEq, Table.countWhere_of_key _ hp]
  cases hfind : (T.get s).find? k with
  | none =>
    have hall : ∀ r ∈ (T.get s).rows, (key r == k && c r) = false := by
      intro r hr
      simp [Table.find?_eq_none_iff.1 hfind r hr]
    rw [Table.updateWhere_eq_self hall, T.set_get, eq_comm, @eq_comm _ s]
    simp
  | some r =>
    have hk : key r = k := Table.key_of_find? hfind
    cases hc : c r with
    | true =>
      have hpr : (key r == k && c r) = true := by simp [hk, hc]
      rw [Table.updateWhere_eq_update (fun r h => (hf r).trans h) hp hfind hpr, eq_comm,
        @eq_comm _ _ s']
      simp [hk, hc]
    | false =>
      have hall : ∀ r' ∈ (T.get s).rows, (key r' == k && c r') = false := by
        intro r' hr'
        by_cases hk' : key r' = k
        · rw [Table.eq_of_key_eq _ hr' (Table.mem_of_find? hfind) (hk'.trans hk.symm)]
          simp [hc]
        · simp [hk']
      rw [Table.updateWhere_eq_self hall, T.set_get, eq_comm, @eq_comm _ s]
      simp [hc]

theorem run_updateOne_eq_ok {e : ε} {u : Unit} : (T.updateOne k c f hf e).run s = .ok (u, s') ↔
      ∃ r, (T.get s).find? k = some r ∧ c r = true ∧
        s' = T.set ((T.get s).update k f fun r h => (hf r).trans h) s := by
  simp only [updateOne, Tx.run_bind_eq_ok, run_update_eq_ok, Tx.run_failIf_eq_ok, not_not]
  constructor
  · rintro ⟨n, s₁, ⟨-, h⟩ | ⟨rfl, -⟩, hn, rfl⟩
    · exact h
    · exact absurd hn (by decide)
  · intro h
    exact ⟨1, s', .inl ⟨rfl, h⟩, rfl, rfl⟩

theorem raises_updateOne {P : ε → Prop} {e : ε} (he : P e) : Tx.Raises P (T.updateOne k c f hf e) :=
  .bind (fun _ _ h => by cases h) fun _ => .failIf he

end TableOf

namespace Tx

variable {σ ε α : Type} {s s' : σ} {a : α}

/-- The body as one atomic step. After a `fault` of the environment or of the body the state is as
it was. -/
def commit (fault : Option ε) (m : Tx σ ε α) (s : σ) : Except ε α × σ :=
  match fault with
  | some e => (.error e, s)
  | none =>
    match m.run s with
    | .ok (a, s') => (.ok a, s')
    | .error e => (.error e, s)

variable {fault : Option ε} {m : Tx σ ε α}

/-- A failed transaction changes nothing. -/
theorem commit_error {e : ε} (h : (commit fault m s).1 = .error e) : (commit fault m s).2 = s := by
  unfold commit at h ⊢
  split
  · rfl
  · split
    · simp_all
    · rfl

theorem run_of_commit_ok (h : (commit fault m s).1 = .ok a) :
    m.run s = .ok (a, (commit fault m s).2) := by
  unfold commit at h ⊢
  cases fault with
  | some e => simp at h
  | none =>
    cases hrun : m.run s with
    | error e => simp [hrun] at h
    | ok r =>
      obtain ⟨a', s₁⟩ := r
      simp_all

/-- What a transaction leaves: the state as it was, or what a successful run of the body left. -/
theorem commit_cases (fault : Option ε) (m : Tx σ ε α) (s : σ) :
    (commit fault m s).2 = s ∨ ∃ a, m.run s = .ok (a, (commit fault m s).2) := by
  cases h : (commit fault m s).1 with
  | error e => exact .inl (commit_error h)
  | ok a => exact .inr ⟨a, run_of_commit_ok h⟩

end Tx

section

variable {σ ι : Type} (step : σ → ι → σ)

/-- The number of steps of a run, among those satisfying `p`, that change the state. -/
def changes [DecidableEq σ] (p : ι → Bool) : σ → List ι → ℕ
  | _, [] => 0
  | s, i :: is => (if p i ∧ step s i ≠ s then 1 else 0) + changes p (step s i) is

/-- If no step lowers a rank and every effective step among those satisfying `p` raises it, then
the number of these steps is at most what the rank gains over the run. -/
theorem changes_le [DecidableEq σ] (p : ι → Bool) (rank : σ → ℕ)
    (mono : ∀ s i, rank s ≤ rank (step s i))
    (strict : ∀ s i, p i = true → step s i ≠ s → rank s < rank (step s i)) (s : σ) (is : List ι) :
    rank s + changes step p s is ≤ rank (is.foldl step s) := by
  induction is generalizing s with
  | nil => simp [changes]
  | cons i is ih =>
    have hrest := ih (step s i)
    rw [changes, List.foldl_cons]
    split
    · rename_i h
      have := strict s i h.1 h.2
      omega
    · have := mono s i
      omega

end

end Mujian
