/-!
# White space and trimming

Two properties of characters decide where a text begins and ends.
`Commissioning.Text.isWhiteSpace` is the `White_Space` property of Unicode.
`Commissioning.Text.isBlank` adds the four information separators U+001C to U+001F:
it is the property by which a form field counts as left empty, while the numerals
of `Commissioning.Number` are trimmed by the narrower one.

`Commissioning.Text.trimBy` cuts a text at both ends by either property, and
`Commissioning.Text.isEmptyText` is the test “nothing but blanks”, which is the
same as having an empty trim (`Commissioning.Text.trim_eq_nil_iff`).
-/

namespace Commissioning.Text

/-- The `White_Space` property of Unicode. -/
def isWhiteSpace (c : Char) : Bool :=
  let n := c.toNat
  (0x09 ≤ n && n ≤ 0x0d) || n == 0x20 || n == 0x85 || n == 0xa0 || n == 0x1680 ||
    (0x2000 ≤ n && n ≤ 0x200a) || n == 0x2028 || n == 0x2029 || n == 0x202f ||
    n == 0x205f || n == 0x3000

/-- White space, or one of the information separators U+001C to U+001F. -/
def isBlank (c : Char) : Bool :=
  isWhiteSpace c || (0x1c ≤ c.toNat && c.toNat ≤ 0x1f)

theorem isBlank_of_isWhiteSpace {c : Char} (h : isWhiteSpace c = true) : isBlank c = true := by
  simp [isBlank, h]

/-! ### Trimming -/

/-- The text without the characters of the property at its end. -/
def trimEndBy (p : Char → Bool) (cs : List Char) : List Char :=
  (cs.reverse.dropWhile p).reverse

/-- The text without the characters of the property at either end. -/
def trimBy (p : Char → Bool) (cs : List Char) : List Char :=
  trimEndBy p (cs.dropWhile p)

/-- The text without the blanks at either end. -/
def trim (cs : List Char) : List Char :=
  trimBy isBlank cs

/-- Whether a text holds nothing but blanks. -/
def isEmptyText (s : String) : Bool :=
  s.toList.all isBlank

theorem dropWhile_eq_nil_iff_all {p : Char → Bool} {cs : List Char} :
    cs.dropWhile p = [] ↔ cs.all p = true := by
  induction cs with
  | nil => simp
  | cons c cs ih => by_cases h : p c = true <;> simp_all

theorem trimEndBy_eq_nil_iff {p : Char → Bool} {cs : List Char} :
    trimEndBy p cs = [] ↔ cs.all p = true := by
  rw [trimEndBy, List.reverse_eq_nil_iff, dropWhile_eq_nil_iff_all, List.all_reverse]

theorem trimBy_eq_nil_iff {p : Char → Bool} {cs : List Char} :
    trimBy p cs = [] ↔ cs.all p = true := by
  rw [trimBy, trimEndBy_eq_nil_iff]
  induction cs with
  | nil => simp
  | cons c cs ih =>
    by_cases h : p c = true
    · simp_all
    · simp [h]

/-- **A text is empty exactly when trimming leaves nothing of it.** -/
theorem trim_eq_nil_iff {s : String} : trim s.toList = [] ↔ isEmptyText s = true :=
  trimBy_eq_nil_iff

end Commissioning.Text
