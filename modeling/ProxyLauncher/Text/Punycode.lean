/-!
# Length of the ASCII form of a text

A text of any characters has a form in ASCII alone. It begins with the ASCII
characters of the text; then follow, in ascending order of their code points,
the places at which the others stand, each as the distance from the one before
in digits to the base of thirty-six. How much a digit may hold follows from a
bias that adapts to the distances so far. Only the length of this form matters
here.
-/

namespace ProxyLauncher.Text.Punycode

/-- How much a digit at some place may hold, the last one excepted. -/
def threshold (bias place : Nat) : Nat :=
  if place ≤ bias then 1 else if bias + 26 ≤ place then 26 else place - bias

theorem threshold_pos (bias place : Nat) : 0 < threshold bias place := by
  unfold threshold
  split
  · omega
  · split <;> omega

theorem threshold_le (bias place : Nat) : threshold bias place ≤ 26 := by
  unfold threshold
  split
  · omega
  · split <;> omega

/-- How many digits a distance takes. -/
def digitCount (bias place distance : Nat) : Nat :=
  if distance < threshold bias place then 1
  else
    1 + digitCount bias (place + 36)
      ((distance - threshold bias place) / (36 - threshold bias place))
termination_by distance
decreasing_by
  have positive := threshold_pos bias place
  have bounded := threshold_le bias place
  calc (distance - threshold bias place) / (36 - threshold bias place)
      ≤ distance - threshold bias place := Nat.div_le_self _ _
    _ < distance := by omega

/-- Scales a distance down, and raises the bias for each division. -/
def scaleDown (distance raised : Nat) : Nat :=
  if 455 < distance then scaleDown (distance / 35) (raised + 36)
  else raised + 36 * distance / (distance + 38)
termination_by distance
decreasing_by exact Nat.div_lt_self (by omega) (by omega)

/-- The bias after a distance, given how many characters are placed by then. -/
def adaptedBias (isFirst : Bool) (placed distance : Nat) : Nat :=
  let damped := if isFirst then distance / 700 else distance / 2
  scaleDown (damped + damped / placed) 0

/-- How far the form of a text has come. -/
structure Progress where
  /-- The distance since the last character that was placed. -/
  distance : Nat
  bias : Nat
  /-- How many characters are placed. -/
  placed : Nat
  /-- How many digits were written. -/
  digits : Nat

/-- Goes past one character while those with some code point are placed. -/
def pass (plain point : Nat) (progress : Progress) (character : Char) : Progress :=
  if character.toNat < point then { progress with distance := progress.distance + 1 }
  else if character.toNat = point then
    { distance := 0
      bias := adaptedBias (progress.placed = plain) (progress.placed + 1) progress.distance
      placed := progress.placed + 1
      digits := progress.digits + digitCount progress.bias 36 progress.distance }
  else progress

/-- Places the characters of ascending code points, beginning at the least one that is left. -/
def placeAll (text : List Char) (plain : Nat) : Nat → List Nat → Progress → Progress
  | _, [], progress => progress
  | least, point :: rest, progress =>
    let before := { progress with
      distance := progress.distance + (point - least) * (progress.placed + 1) }
    let after := text.foldl (pass plain point) before
    placeAll text plain (point + 1) rest { after with distance := after.distance + 1 }

/-- A character of ASCII. -/
def isPlain (character : Char) : Bool := character.toNat < 0x80

/-- The code points beyond ASCII that a text holds, ascending. -/
def pointsBeyond (text : List Char) : List Nat :=
  ((text.filter (!isPlain ·)).map Char.toNat).mergeSort.eraseReps

/-- The length of the ASCII form of a text. -/
def encodedLength (text : List Char) : Nat :=
  let plain := (text.filter isPlain).length
  let progress := placeAll text plain 128 (pointsBeyond text) ⟨0, 72, plain, 0⟩
  (if plain = 0 then 0 else plain + 1) + progress.digits

end ProxyLauncher.Text.Punycode
