/-!
Reading bytes as text. A byte sequence that is not well-formed UTF-8 still has a text: every maximal
piece that starts like a character and cannot be continued reads as one U+FFFD.

The reader looks at one byte at a time and remembers the character that is under way, so a byte that
stands for itself never changes how the bytes before it are read.
-/

namespace StyleAudit.Text.Utf8

/-- A character under way: how many bytes are still to come, the range of the next one, and the bits
collected so far. -/
structure Pending where
  needed : Nat
  low : UInt8
  high : UInt8
  value : Nat

def replacement : Char := '\uFFFD'

/-- The first byte of a character. The range of the second byte excludes overlong forms, surrogates
and values above U+10FFFF. -/
def lead (b : UInt8) : List Char × Option Pending :=
  let n := b.toNat
  if n < 0x80 then ([Char.ofNat n], none)
  else if 0xC2 ≤ n ∧ n ≤ 0xDF then ([], some ⟨1, 0x80, 0xBF, n - 0xC0⟩)
  else if n = 0xE0 then ([], some ⟨2, 0xA0, 0xBF, 0⟩)
  else if n = 0xED then ([], some ⟨2, 0x80, 0x9F, 0xD⟩)
  else if 0xE1 ≤ n ∧ n ≤ 0xEF then ([], some ⟨2, 0x80, 0xBF, n - 0xE0⟩)
  else if n = 0xF0 then ([], some ⟨3, 0x90, 0xBF, 0⟩)
  else if 0xF1 ≤ n ∧ n ≤ 0xF3 then ([], some ⟨3, 0x80, 0xBF, n - 0xF0⟩)
  else if n = 0xF4 then ([], some ⟨3, 0x80, 0x8F, 4⟩)
  else ([replacement], none)

/-- One byte: the characters it completes and the character then under way. -/
def feed : Option Pending → UInt8 → List Char × Option Pending
  | none, b => lead b
  | some p, b =>
    if p.low ≤ b ∧ b ≤ p.high then
      let value := p.value * 64 + (b.toNat - 0x80)
      if p.needed = 1 then ([Char.ofNat value], none)
      else ([], some ⟨p.needed - 1, 0x80, 0xBF, value⟩)
    else
      let (chars, next) := lead b
      (replacement :: chars, next)

def decodeFrom (pending : Option Pending) : List UInt8 → List Char
  | [] => if pending.isSome then [replacement] else []
  | b :: rest =>
    let (chars, next) := feed pending b
    chars ++ decodeFrom next rest

def decode (bytes : List UInt8) : String :=
  String.ofList (decodeFrom none bytes)

def encode (text : String) : List UInt8 :=
  text.toUTF8.toList

end StyleAudit.Text.Utf8
