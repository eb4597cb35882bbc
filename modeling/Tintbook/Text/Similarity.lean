/-!
# Jaro similarity

The Jaro similarity of two words measures how many characters they share near the same
places. A character of the first word *matches* a character of the second when they are
equal, the second is not matched yet, and their positions differ by less than half the
longer length (less one). Scanning the first word left to right, each character takes the
first such partner. With `m` matches, `t` half the number of places where the matched
characters of the two words, read in order, differ, and lengths `a` and `b`, the similarity
is `(m / a + m / b + (m - t) / m) / 3`; it is 1 for two empty words and 0 when only one is
empty or nothing matches.

The value is kept as an exact fraction, so that comparisons between similarities, and with
a threshold, are exact.

## What this module delivers

- `Similarity`, its `jaro` value, the order `Similarity.lt` and the test `Similarity.exceeds`.
- `closeTo`: the candidates more similar to a word than a threshold, least similar first.
-/

set_option autoImplicit false

namespace Tintbook.Text

/-- A similarity as the fraction `num / den`, with `den > 0`. -/
structure Similarity where
  num : Nat
  den : Nat
  deriving DecidableEq, Repr

namespace Similarity

/-- Whether one similarity is below another. -/
def lt (x y : Similarity) : Bool := x.num * y.den < y.num * x.den

/-- Whether a similarity is above the fraction `p / q`. -/
def exceeds (x : Similarity) (p q : Nat) : Bool := x.num * q > p * x.den

end Similarity

namespace Jaro

/-- The first position from `j` on, below `hi` and not below `lo`, of an unmatched `c`. -/
def partner (c : Char) (lo hi : Nat) : Nat → List (Char × Bool) → Option Nat
  | _, [] => none
  | j, (d, taken) :: rest =>
    if j ≥ hi then none
    else if lo ≤ j && d == c && !taken then some j
    else partner c lo hi (j + 1) rest

/-- Marks the matches: for each character of the first word, in order, whether it found a
partner, and which characters of the second word are taken. -/
def mark (range : Nat) (b : List Char) : Nat → List Char → List Bool → List Bool × List Bool
  | _, [], taken => ([], taken)
  | i, c :: rest, taken =>
    let lo := i - range
    let hi := min b.length (i + range + 1)
    match partner c lo hi 0 (b.zip taken) with
    | some j =>
      let (flags, taken') := mark range b (i + 1) rest (taken.set j true)
      (true :: flags, taken')
    | none =>
      let (flags, taken') := mark range b (i + 1) rest taken
      (false :: flags, taken')

/-- The characters of a word whose flag is set, in order. -/
def chosen (cs : List Char) (flags : List Bool) : List Char :=
  ((cs.zip flags).filter (·.2)).map (·.1)

end Jaro

/-- The Jaro similarity of two words. -/
def jaro (x y : String) : Similarity :=
  let a := x.toList
  let b := y.toList
  if a.isEmpty && b.isEmpty then ⟨1, 1⟩
  else if a.isEmpty || b.isEmpty then ⟨0, 1⟩
  else
    let range := max a.length b.length / 2 - 1
    let (flagsA, flagsB) := Jaro.mark range b 0 a (List.replicate b.length false)
    let ma := Jaro.chosen a flagsA
    let mb := Jaro.chosen b flagsB
    let m := ma.length
    if m == 0 then ⟨0, 1⟩
    else
      let t := ((ma.zip mb).filter (fun p => p.1 != p.2)).length / 2
      let la := a.length
      let lb := b.length
      ⟨m * m * lb + m * m * la + (m - t) * la * lb, 3 * la * lb * m⟩

/-- Inserts a scored candidate after every candidate that is not more similar. -/
def insertScored (x : Similarity × String) : List (Similarity × String) → List (Similarity × String)
  | [] => [x]
  | y :: ys => if x.1.lt y.1 then x :: y :: ys else y :: insertScored x ys

/-- The candidates whose similarity to `word` is above `p / q`, least similar first; of two
equally similar ones the earlier candidate comes first. -/
def closeTo (p q : Nat) (word : String) (candidates : List String) : List String :=
  let scored := (candidates.map (fun c => (jaro word c, c))).filter (fun s => s.1.exceeds p q)
  (scored.foldl (fun acc s => insertScored s acc) []).map (·.2)

end Tintbook.Text
