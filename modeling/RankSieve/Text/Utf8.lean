import RankSieve.Text.Blank

/-!
# `RankSieve.Text.Utf8` — texts as octets

## Contents
- **Writing.** `encode` gives the octets of a text, `octetCount` how many a character takes.
- **Reading.** `decode?` gives the text of a well-formed octet sequence: shortest forms only, no
  surrogates, nothing above U+10FFFF.
-/

namespace RankSieve

/-- The octets of a file, a stream or a written line. -/
abbrev Octets := List UInt8

namespace Utf8

/-- How many octets a character takes. -/
def octetCount (c : Char) : Nat :=
  if c.toNat < 0x80 then 1 else if c.toNat < 0x800 then 2 else if c.toNat < 0x10000 then 3 else 4

/-- The octet that holds the six bits of `n` above the lowest `6 * k`. -/
def tailOctet (n k : Nat) : UInt8 := UInt8.ofNat (0x80 + n / Nat.pow 64 k % 64)

/-- The octets of a character. -/
def encodeChar (c : Char) : Octets :=
  let n := c.toNat
  if n < 0x80 then [UInt8.ofNat n]
  else if n < 0x800 then [UInt8.ofNat (0xC0 + n / 64), tailOctet n 0]
  else if n < 0x10000 then [UInt8.ofNat (0xE0 + n / 4096), tailOctet n 1, tailOctet n 0]
  else [UInt8.ofNat (0xF0 + n / 262144), tailOctet n 2, tailOctet n 1, tailOctet n 0]

/-- The octets of a text. -/
def encode (t : Text) : Octets := t.flatMap encodeChar

/-- How many octets a text takes. -/
def size (t : Text) : Nat := t.foldl (fun n c => n + octetCount c) 0

/-- What an octet may begin: how many octets follow it, the bounds of the first of them, and the
    bits that it contributes itself. -/
def lead? (b : UInt8) : Option (Nat × Nat × Nat × Nat) :=
  let n := b.toNat
  if n < 0x80 then some (0, 0x80, 0xBF, n)
  else if 0xC2 ≤ n && n ≤ 0xDF then some (1, 0x80, 0xBF, n - 0xC0)
  else if n == 0xE0 then some (2, 0xA0, 0xBF, 0)
  else if n == 0xED then some (2, 0x80, 0x9F, 0xD)
  else if 0xE1 ≤ n && n ≤ 0xEF then some (2, 0x80, 0xBF, n - 0xE0)
  else if n == 0xF0 then some (3, 0x90, 0xBF, 0)
  else if 0xF1 ≤ n && n ≤ 0xF3 then some (3, 0x80, 0xBF, n - 0xF0)
  else if n == 0xF4 then some (3, 0x80, 0x8F, 4)
  else none

/-- Where a reader of octets stands: between characters, or inside one with so many octets to
    come, the bounds of the next and the bits so far. -/
inductive State where
  | between
  | inside (owed least greatest bits : Nat)
  deriving DecidableEq, Repr

/-- One octet read: the state after it and the character that it completed. None where no
    well-formed sequence goes on with it. -/
def step : State → UInt8 → Option (State × Option Char)
  | .between, b =>
    match lead? b with
    | none                     => none
    | some (0, _, _, n)        => some (.between, some (Char.ofNat n))
    | some (k, lo, hi, n)      => some (.inside k lo hi n, none)
  | .inside owed lo hi n, b =>
    if lo ≤ b.toNat && b.toNat ≤ hi then
      let bits := n * 64 + (b.toNat - 0x80)
      if owed ≤ 1 then some (.between, some (Char.ofNat bits))
      else some (.inside (owed - 1) 0x80 0xBF bits, none)
    else none

/-- The text that the remaining octets complete, from a state. -/
def decodeFrom? : State → Octets → Option Text
  | .between,        []      => some []
  | .inside _ _ _ _, []      => none
  | q,               b :: bs =>
    match step q b with
    | none                => none
    | some (q', some c)   => (decodeFrom? q' bs).map (c :: ·)
    | some (q', none)     => decodeFrom? q' bs

/-- The text of a well-formed octet sequence. -/
def decode? (bs : Octets) : Option Text := decodeFrom? .between bs

end Utf8

end RankSieve
