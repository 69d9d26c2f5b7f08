/-!
Letters beyond ASCII written with ASCII letters and digits alone.  The ASCII characters come first;
behind a hyphen stand the places and code points of the others, each as the distance from the one
before it in a number system whose digits stop at a threshold that follows the sizes seen so far.
-/

set_option autoImplicit false

namespace LoanDispatch.Url.Punycode

/-- A digit below thirty-six: the letters, then the ten digits. -/
def digit (n : Nat) : Char :=
  if n < 26 then Char.ofNat (97 + n) else Char.ofNat (22 + n)

/-- The least value of a digit that does not end a number, between one and twenty-six. -/
def threshold (place bias : Nat) : Nat := max 1 (min 26 (place - bias))

theorem threshold_pos (place bias : Nat) : 1 ≤ threshold place bias := by
  unfold threshold; omega

theorem threshold_le (place bias : Nat) : threshold place bias ≤ 26 := by
  unfold threshold; omega

/-- The digits of a number, least place first; only the last one is below its threshold. -/
def digits (bias place n : Nat) : List Char :=
  let least := threshold place bias
  if n < least then [digit n]
  else
    digit (least + (n - least) % (36 - least))
      :: digits bias (place + 36) ((n - least) / (36 - least))
termination_by n
decreasing_by
  have positive := threshold_pos place bias
  have bounded := threshold_le place bias
  have := Nat.div_le_self (n - threshold place bias) (36 - threshold place bias)
  omega

def biasOf (size : Nat) (places : Nat) : Nat :=
  if 455 < size then biasOf (size / 35) (places + 36) else places + 36 * size / (size + 38)
termination_by size
decreasing_by exact Nat.div_lt_self (by omega) (by omega)

/-- The bias after a distance: the first distance is damped more, and it is shared by the characters
written so far. -/
def nextBias (distance written : Nat) (isFirst : Bool) : Nat :=
  let size := if isFirst then distance / 700 else distance / 2
  biasOf (size + size / written) 0

/-- What is written, the distance since, the bias, and how many characters are written. -/
structure Progress where
  text : List Char
  distance : Nat
  bias : Nat
  written : Nat

/-- Passes one character while the places of a code point are written. -/
def Progress.pass (plain code : Nat) (progress : Progress) (c : Char) : Progress :=
  if c.toNat < code then { progress with distance := progress.distance + 1 }
  else if c.toNat = code then
    { text := progress.text ++ digits progress.bias 36 progress.distance
      distance := 0
      bias := nextBias progress.distance (progress.written + 1) (progress.written == plain)
      written := progress.written + 1 }
  else progress

/-- Writes the places of ascending code points; the codes below `next` are done. -/
def writeCodes (cs : List Char) (plain : Nat) : List Nat → Nat → Progress → Progress
  | [], _, progress => progress
  | code :: codes, next, progress =>
    let skipped := (code - next) * (progress.written + 1)
    let passed :=
      cs.foldl (Progress.pass plain code) { progress with distance := progress.distance + skipped }
    writeCodes cs plain codes (code + 1) { passed with distance := passed.distance + 1 }

def isAscii (c : Char) : Bool := c.toNat < 0x80

def encode (cs : List Char) : List Char :=
  let plain := cs.filter isAscii
  let codes := ((cs.filter fun c => !isAscii c).map Char.toNat).mergeSort.eraseDups
  let start : Progress := ⟨[], 0, 72, plain.length⟩
  (if plain = [] then [] else plain ++ ['-'])
    ++ (writeCodes cs plain.length codes 0x80 start).text

end LoanDispatch.Url.Punycode
