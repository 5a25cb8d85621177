/-!
# Taking texts apart

Texts as lists of characters, cut at a character and put together again. Cutting loses
nothing (`Commissioning.Text.joinWith_splitOn`), and it cuts everywhere
(`Commissioning.Text.not_mem_of_mem_splitOn`).
-/

namespace Commissioning

namespace Text

/-- The parts of a text between the occurrences of a character. There is always one. -/
def splitOn (c : Char) : List Char → List (List Char)
  | [] => [[]]
  | d :: ds =>
    match splitOn c ds with
    | part :: parts => if d = c then [] :: part :: parts else (d :: part) :: parts
    | [] => [[d]]

/-- Texts with a character between them. -/
def joinWith (c : Char) : List (List Char) → List Char
  | [] => []
  | [part] => part
  | part :: parts => part ++ c :: joinWith c parts

/-- The text in front of the first occurrence of a character, and the text behind it if
there is one. -/
def cutFirst (c : Char) : List Char → List Char × Option (List Char)
  | [] => ([], none)
  | d :: ds =>
    if d = c then ([], some ds)
    else let (front, back) := cutFirst c ds; (d :: front, back)

/-- The text in front of the last occurrence of a character if there is one, and the text
behind it. -/
def cutLast (c : Char) : List Char → Option (List Char) × List Char
  | [] => (none, [])
  | d :: ds =>
    match cutLast c ds with
    | (some front, back) => (some (d :: front), back)
    | (none, back) => if d = c then (some [], back) else (none, d :: back)

/-- A text without the occurrences of a character at its end. -/
def dropAtEnd (c : Char) (cs : List Char) : List Char := (cs.reverse.dropWhile (· == c)).reverse

/-- Whether one text occurs in another. -/
def occursIn (part : List Char) : List Char → Bool
  | [] => part.isEmpty
  | c :: cs => part.isPrefixOf (c :: cs) || occursIn part cs

theorem splitOn_ne_nil (c : Char) (cs : List Char) : splitOn c cs ≠ [] := by
  induction cs with
  | nil => simp [splitOn]
  | cons d ds _ =>
    unfold splitOn
    split
    · split <;> simp
    · simp

/-- Cutting loses nothing. -/
theorem joinWith_splitOn (c : Char) (cs : List Char) : joinWith c (splitOn c cs) = cs := by
  induction cs with
  | nil => rfl
  | cons d ds ih =>
    unfold splitOn
    split
    · rename_i part parts h
      rw [h] at ih
      by_cases hd : d = c
      · simp [hd, joinWith, ih]
      · cases parts with
        | nil => simpa [hd, joinWith] using ih
        | cons p ps => simpa [hd, joinWith] using ih
    · rename_i h
      exact absurd h (splitOn_ne_nil c ds)

/-- No part holds the character at which the text is cut. -/
theorem not_mem_of_mem_splitOn {c : Char} {cs part : List Char} (h : part ∈ splitOn c cs) :
    c ∉ part := by
  induction cs generalizing part with
  | nil => simp_all [splitOn]
  | cons d ds ih =>
    simp only [splitOn] at h
    split at h
    · split at h <;> grind
    · rename_i hn
      exact absurd hn (splitOn_ne_nil c ds)

end Text

end Commissioning
