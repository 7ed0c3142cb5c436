/-!
# StackPlaybook.Text.Utf8

Bytes as text.  `decode?` accepts exactly well-formed UTF-8; `decodeLossy` accepts
everything and writes U+FFFD for each longest run of bytes that begins a character
and cannot be continued.
-/

namespace StackPlaybook

/-- A sequence of bytes. -/
abbrev Bytes := List UInt8

namespace Bytes

/-- The UTF-8 form of a text. -/
def ofString (s : String) : Bytes := s.toUTF8.toList

/-- The text of well-formed UTF-8. -/
def decode? (bs : Bytes) : Option String := String.fromUTF8? ⟨bs.toArray⟩

/-- The bytes of a text are the bytes of that text. -/
theorem decode?_toUTF8 (s : String) : decode? s.toUTF8.data.toList = some s := by
  unfold decode? String.fromUTF8?
  rw [Array.toArray_toList]
  exact dif_pos s.isValidUTF8

/-- A character has a byte at least. -/
theorem length_le_utf8ByteSize (s : String) : s.length ≤ s.utf8ByteSize := by
  induction s using String.push_induction with
  | empty => simp
  | push s c ih =>
      have := c.utf8Size_pos
      rw [String.length_push, String.utf8ByteSize_push]
      omega

/-! ## Lossy decoding -/

/-- Where a decoder stands: between characters, or inside one with the bits read
so far, the number of bytes still missing and the range that the next must be in. -/
inductive Place where
  | between
  | inside (bits missing low high : Nat)

/-- U+FFFD, written for bytes that are no character. -/
def replacement : Char := Char.ofNat 0xFFFD

/-- Reads a byte that should begin a character. -/
def begin (b : Nat) : List Char × Place :=
  if b < 0x80 then ([Char.ofNat b], .between)
  else if b < 0xC2 then ([replacement], .between)
  else if b < 0xE0 then ([], .inside (b % 32) 1 0x80 0xBF)
  else if b = 0xE0 then ([], .inside 0 2 0xA0 0xBF)
  else if b = 0xED then ([], .inside 13 2 0x80 0x9F)
  else if b < 0xF0 then ([], .inside (b % 16) 2 0x80 0xBF)
  else if b = 0xF0 then ([], .inside 0 3 0x90 0xBF)
  else if b < 0xF4 then ([], .inside (b % 8) 3 0x80 0xBF)
  else if b = 0xF4 then ([], .inside 4 3 0x80 0x8F)
  else ([replacement], .between)

/-- Reads one byte: the characters that it completes, and the place after it. -/
def step : Place → Nat → List Char × Place
  | .between, b => begin b
  | .inside bits missing low high, b =>
    if low ≤ b ∧ b ≤ high then
      if missing ≤ 1 then ([Char.ofNat (bits * 64 + b % 64)], .between)
      else ([], .inside (bits * 64 + b % 64) (missing - 1) 0x80 0xBF)
    else
      let (cs, place) := begin b
      (replacement :: cs, place)

/-- The characters of bytes read from a place on. -/
def decodeFrom : Place → Bytes → List Char
  | .between, [] => []
  | .inside .., [] => [replacement]
  | place, b :: bs =>
    let (cs, place) := step place b.toNat
    cs ++ decodeFrom place bs

/-- The text of any bytes, with U+FFFD for what is not a character. -/
def decodeLossy (bs : Bytes) : String := String.ofList (decodeFrom .between bs)

/-! ## Hexadecimal text -/

/-- The value of a hexadecimal digit. -/
def hexDigit? (c : Char) : Option Nat :=
  if '0' ≤ c ∧ c ≤ '9' then some (c.toNat - 48)
  else if 'a' ≤ c ∧ c ≤ 'f' then some (c.toNat - 87)
  else if 'A' ≤ c ∧ c ≤ 'F' then some (c.toNat - 55)
  else none

/-- The bytes of an even number of hexadecimal digits. -/
def ofHex? : List Char → Option Bytes
  | [] => some []
  | [_] => none
  | a :: b :: cs => do
    let high ← hexDigit? a
    let low ← hexDigit? b
    let rest ← ofHex? cs
    return UInt8.ofNat (high * 16 + low) :: rest

/-- Two lower-case hexadecimal digits for each byte. -/
def toHex (bs : Bytes) : String :=
  String.ofList (bs.flatMap fun b =>
    [Nat.digitChar (b.toNat / 16), Nat.digitChar (b.toNat % 16)])

end Bytes

end StackPlaybook
