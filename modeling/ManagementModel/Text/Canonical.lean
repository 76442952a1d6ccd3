import ManagementModel.Text.Canonical.Class
import ManagementModel.Text.Canonical.Pair
import ManagementModel.Text.Canonical.Singleton

/-!
# ManagementModel — the canonical form of a text

One text can be spelled in several ways: with a letter that holds its accent, or with the letter
and the accent as a mark behind it, and with marks in one order or another. The canonical form takes
every character apart, puts the marks behind a character in the order of their classes, and then
composes again what can be composed, so that all spellings have one form.
-/

namespace ManagementModel.Text.Canonical

/-! ## Syllables

A syllable of Hangul is numbered by its consonant, its vowel and its last consonant. -/

/-- What is composed to a syllable: one without its last consonant, and that consonant; or the
consonant and the vowel. -/
def syllableParts? (n : Nat) : Option (Nat × Nat) :=
  if 0xac00 ≤ n && n ≤ 0xd7a3 then
    let i := n - 0xac00
    if i % 28 == 0 then some (0x1100 + i / 588, 0x1161 + i % 588 / 28)
    else some (n - i % 28, 0x11a7 + i % 28)
  else none

/-- The syllable of two parts. -/
def syllable? (first second : Nat) : Option Nat :=
  if 0x1100 ≤ first && first ≤ 0x1112 && 0x1161 ≤ second && second ≤ 0x1175 then
    some (0xac00 + (first - 0x1100) * 588 + (second - 0x1161) * 28)
  else if 0xac00 ≤ first && first ≤ 0xd7a3 && (first - 0xac00) % 28 == 0 &&
      0x11a8 ≤ second && second ≤ 0x11c2 then
    some (first + (second - 0x11a7))
  else none

/-! ## Taking apart -/

/-- What a code point stands for, in one step. -/
def parts? (n : Nat) : Option (List Nat) :=
  match syllableParts? n <|> pairs.value? n <|> parted.value? n with
  | some (first, second) => some [first, second]
  | none => (singletons.value? n).map ([·])

/-- The code points that a code point stands for, in as many steps as are given. -/
def decompose : (steps : Nat) → Nat → List Nat
  | 0, n => [n]
  | steps + 1, n =>
    match parts? n with
    | some parts => parts.flatMap (decompose steps)
    | none => [n]

/-! ## The order of marks -/

/-- Marks in the order of their classes; marks of one class keep their order. -/
def sortMarks (marks : List Nat) : List Nat :=
  marks.mergeSort fun m n => combiningClass m ≤ combiningClass n

/-- Puts marks behind what stands before them; all is in reverse order. -/
def settle (done marks : List Nat) : List Nat :=
  (sortMarks marks.reverse).reverse ++ done

/-- Sorts the marks between any two characters of class 0. The text so far and the marks at its end
are in reverse order. -/
def reorderFrom (done marks : List Nat) : List Nat → List Nat
  | [] => (settle done marks).reverse
  | n :: rest =>
    if combiningClass n == 0 then reorderFrom (n :: settle done marks) [] rest
    else reorderFrom done (n :: marks) rest

/-- The text with its marks in order. -/
def reorder (s : List Nat) : List Nat := reorderFrom [] [] s

/-! ## Composition -/

/-- The code point that takes the place of two others. -/
def composite? (first second : Nat) : Option Nat :=
  if second < 0x300 then none
  else match syllable? first second with
    | some n => some n
    | none => pairs.codePoint? (first, second)

/-- Composes a character with those behind it. A mark that cannot be composed is held, and keeps
off whatever has no higher class than itself; `done` and `held` are in reverse order. -/
def composeFrom (done : List Nat) (starter : Nat) (held : List Nat) : List Nat → List Nat
  | [] => (held ++ starter :: done).reverse
  | n :: rest =>
    let isKeptOff := held.head?.any fun m => combiningClass n ≤ combiningClass m
    match if isKeptOff then none else composite? starter n with
    | some composite => composeFrom done composite held rest
    | none =>
      if combiningClass n == 0 then composeFrom (held ++ starter :: done) n [] rest
      else composeFrom done starter (n :: held) rest

/-- Composes what can be composed. -/
def compose : List Nat → List Nat
  | [] => []
  | n :: rest => composeFrom [] n [] rest

/-- No character has to be taken apart more often. -/
def steps : Nat := 3

/-- The canonical form of a text. -/
def form (s : List Char) : List Char :=
  (compose (reorder ((s.map Char.toNat).flatMap (decompose steps)))).map Char.ofNat

end ManagementModel.Text.Canonical
