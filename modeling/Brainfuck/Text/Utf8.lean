/-!
# UTF-8 with replacements

Reads bytes as UTF-8 and writes the replacement character for what is none. A sequence is read as long as
the next byte can still be part of a character; a byte that cannot is looked at again as the first of the
next sequence. So every maximal part of a character that is broken off counts as one replacement.
-/

namespace Brainfuck.Text.Utf8

/-- A character whose first bytes have been read: its bits so far, how many bytes are missing, and the
range the next one must lie in. -/
structure Partial where
  bits : Nat
  missing : Nat
  low : UInt8
  high : UInt8
deriving DecidableEq

inductive Lead where
  | char (c : Char)
  | first (p : Partial)
  | broken

def replacement : Char := '\ufffd'

/-- What a byte is at the start of a sequence. The ranges leave out overlong forms, surrogates, and what
lies behind the last code point. -/
def lead (b : UInt8) : Lead :=
  let n := b.toNat
  if n < 0x80 then .char (Char.ofNat n)
  else if n < 0xC2 then .broken
  else if n < 0xE0 then .first ⟨n - 0xC0, 1, 0x80, 0xBF⟩
  else if n = 0xE0 then .first ⟨0, 2, 0xA0, 0xBF⟩
  else if n = 0xED then .first ⟨0xD, 2, 0x80, 0x9F⟩
  else if n < 0xF0 then .first ⟨n - 0xE0, 2, 0x80, 0xBF⟩
  else if n = 0xF0 then .first ⟨0, 3, 0x90, 0xBF⟩
  else if n < 0xF4 then .first ⟨n - 0xF0, 3, 0x80, 0xBF⟩
  else if n = 0xF4 then .first ⟨4, 3, 0x80, 0x8F⟩
  else .broken

/-- The characters read so far, newest first, and the one in progress. -/
structure State where
  chars : List Char
  current : Option Partial

def State.startWith (chars : List Char) (b : UInt8) : State :=
  match lead b with
  | .char c => ⟨c :: chars, none⟩
  | .first p => ⟨chars, some p⟩
  | .broken => ⟨replacement :: chars, none⟩

def State.step (s : State) (b : UInt8) : State :=
  match s.current with
  | none => .startWith s.chars b
  | some p =>
    if p.low ≤ b ∧ b ≤ p.high then
      let bits := p.bits * 64 + (b.toNat - 0x80)
      if p.missing = 1 then ⟨Char.ofNat bits :: s.chars, none⟩
      else ⟨s.chars, some ⟨bits, p.missing - 1, 0x80, 0xBF⟩⟩
    else .startWith (replacement :: s.chars) b

def State.finish (s : State) : List Char :=
  (match s.current with
    | none => s.chars
    | some _ => replacement :: s.chars).reverse

/-- The characters of a byte sequence. -/
def decode (bytes : List UInt8) : List Char :=
  (bytes.foldl State.step ⟨[], none⟩).finish

end Brainfuck.Text.Utf8
