import Mathlib.Algebra.Order.Ring.Int
import Mathlib.Data.List.DropRight
import Mathlib.Data.List.Infix

/-!
# Text functions of the Go standard library

`strings.TrimSpace` with the notion of white space it uses, `strings.Contains` and `strconv.Atoi`.
-/

namespace Mujian

/-- `unicode.IsSpace`. -/
def isSpace (c : Char) : Bool :=
  let n := c.toNat
  (9 ≤ n && n ≤ 13) || n == 0x20 || n == 0x85 || n == 0xA0 || n == 0x1680 ||
    (0x2000 ≤ n && n ≤ 0x200A) || n == 0x2028 || n == 0x2029 || n == 0x202F || n == 0x205F ||
    n == 0x3000

/-- `strings.TrimSpace`. -/
def trimSpace (s : String) : String :=
  String.ofList ((s.toList.dropWhile isSpace).reverse.dropWhile isSpace).reverse

def textContains (s sub : String) : Bool := sub.toList <:+: s.toList

def atoi (s : String) : Option ℤ :=
  let (sign, digits) : ℤ × List Char :=
    match s.toList with
    | '-' :: rest => (-1, rest)
    | '+' :: rest => (1, rest)
    | rest => (1, rest)
  if digits = [] ∨ ¬digits.all Char.isDigit then none
  else
    let n := sign * digits.foldl (fun n c => 10 * n + (c.toNat - '0'.toNat : ℤ)) 0
    if -2 ^ 63 ≤ n ∧ n < 2 ^ 63 then some n else none

/-- Trimming twice is trimming once. -/
theorem trimSpace_trimSpace (s : String) : trimSpace (trimSpace s) = trimSpace s := by
  have htrim : ∀ l : List Char,
      (((l.dropWhile isSpace).rdropWhile isSpace).dropWhile isSpace).rdropWhile isSpace =
        (l.dropWhile isSpace).rdropWhile isSpace := by
    intro l
    -- the trimmed text starts as the text trimmed on the left does, if it is not empty
    have hleft : ((l.dropWhile isSpace).rdropWhile isSpace).dropWhile isSpace =
        (l.dropWhile isSpace).rdropWhile isSpace := by
      have hprefix := List.rdropWhile_prefix isSpace (l.dropWhile isSpace)
      cases ht : (l.dropWhile isSpace).rdropWhile isSpace with
      | nil => rfl
      | cons c t =>
        rw [ht] at hprefix
        obtain ⟨rest, hrest⟩ := hprefix
        have hc := List.head?_dropWhile_not isSpace l
        rw [← hrest] at hc
        rw [List.dropWhile_cons_of_neg (by simpa using hc)]
    rw [hleft, List.rdropWhile_idempotent]
  change String.ofList ((List.dropWhile isSpace (String.ofList _).toList).rdropWhile isSpace) = _
  rw [String.toList_ofList]
  exact congrArg String.ofList (htrim s.toList)

end Mujian
