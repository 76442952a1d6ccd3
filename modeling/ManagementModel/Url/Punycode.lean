/-!
# ManagementModel — Punycode

Labels of domain names that hold characters outside ASCII also have an ASCII form. It gives the
ASCII characters first and then, as numbers in a variable-length code, how far the insertion point
moves before each other character goes in, in the order of the code points.
-/

namespace ManagementModel.Url.Punycode

/-- The value of a digit: letters, then the digits of ASCII. -/
def digit? (c : Char) : Option Nat :=
  if 'a' ≤ c && c ≤ 'z' then some (c.toNat - 97)
  else if 'A' ≤ c && c ≤ 'Z' then some (c.toNat - 65)
  else if '0' ≤ c && c ≤ '9' then some (c.toNat - 48 + 26)
  else none

/-- The threshold of the digit at position `k`. -/
def threshold (k bias : Nat) : Nat :=
  max 1 (min 26 (k - bias))

/-- Divides `delta` by 35 until it is at most 455, counting by 36. -/
def shrink (k delta : Nat) : (fuel : Nat) → Nat × Nat
  | 0 => (k, delta)
  | fuel + 1 => if 455 < delta then shrink (k + 36) (delta / 35) fuel else (k, delta)

/-- The bias behind a number; `count` is the number of characters so far. -/
def adapt (delta count : Nat) (first : Bool) : Nat :=
  let delta := if first then delta / 700 else delta / 2
  let (k, delta) := shrink 0 (delta + delta / count) delta
  k + 36 * delta / (delta + 38)

/-- Where the reading of the numbers stands. -/
structure State where
  out : List Char
  /-- The code point that is inserted next. -/
  code : Nat
  /-- The insertion point. -/
  point : Nat
  bias : Nat
  /-- The insertion point before the number that is being read. -/
  start : Nat
  /-- The weight and the position of the next digit of that number. -/
  weight : Nat
  place : Nat

/-- Numbers and weights have to stay below this. -/
def limit : Nat := 0x100000000

/-- Takes one digit; the last digit of a number inserts a character. -/
def State.digit (s : State) (d : Nat) : Option State :=
  let i := s.point + d * s.weight
  let t := threshold s.place s.bias
  if limit ≤ i then none
  else if d < t then
    let count := s.out.length + 1
    let code := s.code + i / count
    let i := i % count
    if h : code.isValidChar then
      some { out := s.out.take i ++ Char.ofNatAux code h :: s.out.drop i
             code := code
             point := i + 1
             bias := adapt (s.point + d * s.weight - s.start) count (s.start == 0)
             start := i + 1
             weight := 1
             place := 36 }
    else none
  else if limit ≤ s.weight * (36 - t) then none
  else some { s with point := i, weight := s.weight * (36 - t), place := s.place + 36 }

/-- Reads digits to the end, which has to be the end of a number. -/
def numbers (s : State) : List Char → Option (List Char)
  | [] => if s.place == 36 then some s.out else none
  | c :: rest => do
    let d ← digit? c
    let s ← s.digit d
    numbers s rest

/-- The label of an ASCII form: what stands before the last hyphen, with what follows inserted.
A form does not begin with that hyphen. -/
def decode? (s : List Char) : Option (List Char) :=
  let tail := (s.reverse.takeWhile (· != '-')).reverse
  let ascii := s.take (s.length - tail.length - 1)
  if tail.length + 1 == s.length || ascii.any (0x80 ≤ ·.toNat) then none
  else numbers ⟨ascii, 0x80, 0, 72, 0, 1, 36⟩ tail

end ManagementModel.Url.Punycode
