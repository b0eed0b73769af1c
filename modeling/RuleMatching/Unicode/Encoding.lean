import RuleMatching.Unicode.Runs

/-!
Sets of code points as bytes.  A range of code points is cut into pieces whose encodings in UTF-8
are exactly the sequences of bytes that lie, place by place, in given ranges; `sequences` lists them
for a whole set, in ascending order.
-/

set_option autoImplicit false
set_option relaxedAutoImplicit false

namespace RuleMatching.Unicode

def encode (n : Nat) : List Nat :=
  if n < 0x80 then [n]
  else if n < 0x800 then [0xC0 + n / 0x40, 0x80 + n % 0x40]
  else if n < 0x10000 then [0xE0 + n / 0x1000, 0x80 + n / 0x40 % 0x40, 0x80 + n % 0x40]
  else [0xF0 + n / 0x40000, 0x80 + n / 0x1000 % 0x40, 0x80 + n / 0x40 % 0x40, 0x80 + n % 0x40]

abbrev ByteRange := Nat × Nat

def clip (low high : Nat) (r : Nat × Nat) : List (Nat × Nat) :=
  let first := max low r.1
  let last := min high r.2
  if first ≤ last then [(first, last)] else []

/-- The parts of a range of code points that are encoded in several bytes, the same number in each
part; surrogates have no encoding. -/
def longParts (r : Nat × Nat) : List (Nat × Nat) :=
  clip 0x80 0x7FF r ++ clip 0x800 0xD7FF r ++ clip 0xE000 0xFFFF r ++ clip 0x10000 0x10FFFF r

/-- Cuts a range of code points at the bounds of blocks, so that a piece either lies in a block or
fills blocks; then what fills blocks is cut likewise at the bounds of blocks 64 times as large. -/
def atBlocks : Nat → Nat → Nat × Nat → List (Nat × Nat)
  | 0, _, r => [r]
  | levels + 1, block, r =>
      if r.1 / block = r.2 / block then [r]
      else
        let inner := (r.1 + block - 1) / block * block
        let outer := (r.2 + 1) / block * block
        let front := if r.1 < inner then [(r.1, inner - 1)] else []
        let middle := if inner < outer then atBlocks levels (64 * block) (inner, outer - 1) else []
        let back := if outer ≤ r.2 then [(outer, r.2)] else []
        front ++ middle ++ back

/-- The sequences of byte ranges for a range of code points. -/
def rangeSequences (r : Nat × Nat) : List (List ByteRange) :=
  let pieces := clip 0 0x7F r ++ (longParts r).flatMap (atBlocks 3 64)
  pieces.map fun p => (encode p.1).zip (encode p.2)

/-- The sequences of byte ranges for a set of code points. -/
def sequences (rs : Runs) : List (List ByteRange) :=
  (Runs.ranges 0x110000 rs).flatMap rangeSequences

/-- The characters of a set, up to a number of them. -/
def firstMembers (count : Nat) (rs : Runs) : List Nat :=
  let parts := (Runs.ranges 0x110000 rs).flatMap fun r => clip 0 0x7F r ++ longParts r
  (parts.flatMap fun r => (List.range (min count (r.2 + 1 - r.1))).map (r.1 + ·)).take count

end RuleMatching.Unicode
