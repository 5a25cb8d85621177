/-!
# Labels in few letters

A label of a host name with characters beyond the first 128 is sent in letters, digits and
hyphens only (`Commissioning.HostName.Punycode.encode`). The characters that can be sent as
they are come first. Behind a hyphen follow the others in the order of their code points,
each as a number: how many steps it takes from the one before, where every place of the
label for every code point is a step.

A number is written from its lowest digit on. Whether a digit is the last one shows from a
threshold (`Commissioning.HostName.Punycode.threshold`) that depends on its place and on a
bias, and the bias follows the size of the numbers so far
(`Commissioning.HostName.Punycode.adapt`).
-/

namespace Commissioning

namespace HostName

namespace Punycode

/-- The number of digits. -/
def base : Nat := 36

/-- The letter or digit that stands for a digit. -/
def digitChar (d : Nat) : Char :=
  if d < 26 then Char.ofNat ('a'.toNat + d) else Char.ofNat ('0'.toNat + (d - 26))

/-- The threshold at a place: a digit below it is the last one. -/
def threshold (bias place : Nat) : Nat := max 1 (min 26 (place - bias))

theorem one_le_threshold (bias place : Nat) : 1 ≤ threshold bias place := by
  unfold threshold; omega

/-- The digits of a number from a place on. -/
def digits (bias place n : Nat) : List Char :=
  let t := threshold bias place
  if n < t then [digitChar n]
  else digitChar (t + (n - t) % (base - t)) ::
    digits bias (place + base) ((n - t) / (base - t))
termination_by n
decreasing_by
  have h := one_le_threshold bias place
  have := Nat.div_le_self (n - threshold bias place) (base - threshold bias place)
  omega

/-- The bias that goes with a number divided down to size, and what has been counted on the
way. -/
def settle (n count : Nat) : Nat :=
  if 455 < n then settle (n / 35) (count + base) else count + base * n / (n + 38)
termination_by n
decreasing_by omega

/-- The bias behind a number, the first or a later one, when so many characters have been
sent. -/
def adapt (n sent : Nat) (isFirst : Bool) : Nat :=
  let n := if isFirst then n / 700 else n / 2
  settle (n + n / sent) 0

/-- What is on the way between two characters. -/
structure State where
  /-- The steps since the last character. -/
  steps : Nat
  /-- The bias. -/
  bias : Nat
  /-- How many characters have been sent. -/
  sent : Nat
  /-- The digits so far, in order. -/
  out : List Char

/-- A round through a label for one code point: every character below it is a step, and
every one that is it is sent. -/
def round (plain code : Nat) (s : State) (c : Char) : State :=
  if c.toNat < code then { s with steps := s.steps + 1 }
  else if c.toNat = code then
    { steps := 0, bias := adapt s.steps (s.sent + 1) (s.sent == plain), sent := s.sent + 1
      out := s.out ++ digits s.bias base s.steps }
  else s

/-- The rounds for code points in ascending order, the first of them from a code point on. -/
def rounds (label : List Char) (plain : Nat) : Nat → List Nat → State → State
  | _, [], s => s
  | start, code :: codes, s =>
    let s := { s with steps := s.steps + (code - start) * (s.sent + 1) }
    let s := label.foldl (round plain code) s
    rounds label plain (code + 1) codes { s with steps := s.steps + 1 }

/-- Whether a character is sent as it is. -/
def isPlain (c : Char) : Bool := c.toNat < 0x80

/-- The code points of the other characters in ascending order, each of them once. -/
def codes (label : List Char) : List Nat :=
  ((label.filter (!isPlain ·)).map Char.toNat).mergeSort.eraseDups

/-- **A label in few letters.** -/
def encode (label : List Char) : List Char :=
  let plain := label.filter isPlain
  let front := if plain.isEmpty then [] else plain ++ ['-']
  front ++ (rounds label plain.length 0x80 (codes label) ⟨0, 72, plain.length, []⟩).out

end Punycode

end HostName

end Commissioning
