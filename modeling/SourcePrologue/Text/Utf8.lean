import SourcePrologue.Text.Glyph

/-!
# UTF-8 with stray bytes

`decode` reads bytes as a text. Wherever a well-formed sequence begins it is one character; any
other byte is carried along as a stray glyph, so no file is refused. `encode` writes a text back,
stray bytes as they are.
-/

namespace SourcePrologue.Utf8

/-- Whether a byte continues a sequence. -/
def isTail (b : UInt8) : Bool := 0x80 ≤ b && b ≤ 0xBF

/-- The six bits that a continuation byte contributes. -/
def payload (b : UInt8) : Nat := b.toNat % 64

/-- The character of a well-formed sequence that begins with `lead`, and how many of the bytes
after it belong to it. Overlong forms, surrogates and numbers beyond U+10FFFF are not well formed. -/
def sequence? (lead : UInt8) (bytes : List UInt8) : Option (Char × Nat) :=
  if lead < 0x80 then some (Char.ofNat lead.toNat, 0)
  else if lead < 0xC2 then none
  else if lead < 0xE0 then
    match bytes with
    | b :: _ =>
      if isTail b then some (Char.ofNat (lead.toNat % 32 * 64 + payload b), 1) else none
    | _ => none
  else if lead < 0xF0 then
    match bytes with
    | b :: c :: _ =>
      let n := (lead.toNat % 16 * 64 + payload b) * 64 + payload c
      if isTail b && isTail c && 0x800 ≤ n && (n < 0xD800 || 0xDFFF < n) then
        some (Char.ofNat n, 2)
      else none
    | _ => none
  else if lead < 0xF5 then
    match bytes with
    | b :: c :: d :: _ =>
      let n := ((lead.toNat % 8 * 64 + payload b) * 64 + payload c) * 64 + payload d
      if isTail b && isTail c && isTail d && 0x10000 ≤ n && n ≤ 0x10FFFF then
        some (Char.ofNat n, 3)
      else none
    | _ => none
  else none

/-- Reads bytes of which the first `skip` belong to a character that has been read already. -/
def decodeAfter : Nat → List UInt8 → Text
  | _, [] => []
  | skip + 1, _ :: bytes => decodeAfter skip bytes
  | 0, lead :: bytes =>
    match sequence? lead bytes with
    | some (c, rest) => .char c :: decodeAfter rest bytes
    | none => .stray (Fin.ofNat 128 lead.toNat) :: decodeAfter 0 bytes

/-- The text that bytes stand for. -/
def decode (bytes : List UInt8) : Text := decodeAfter 0 bytes

/-- The bytes of a character. -/
def encodeChar (c : Char) : List UInt8 :=
  let n := c.toNat
  if n < 0x80 then [.ofNat n]
  else if n < 0x800 then [.ofNat (0xC0 + n / 64), .ofNat (0x80 + n % 64)]
  else if n < 0x10000 then
    [.ofNat (0xE0 + n / 4096), .ofNat (0x80 + n / 64 % 64), .ofNat (0x80 + n % 64)]
  else
    [.ofNat (0xF0 + n / 262144), .ofNat (0x80 + n / 4096 % 64), .ofNat (0x80 + n / 64 % 64),
      .ofNat (0x80 + n % 64)]

/-- The bytes of a glyph. -/
def encodeGlyph : Glyph → List UInt8
  | .char c => encodeChar c
  | .stray high => [.ofNat (128 + high)]

/-- The bytes of a text. -/
def encode (t : Text) : List UInt8 := t.flatMap encodeGlyph

/-- Bytes that have been read with a character are passed over. -/
theorem decodeAfter_eq_drop (skip : Nat) (bytes : List UInt8) :
    decodeAfter skip bytes = decode (bytes.drop skip) := by
  induction bytes generalizing skip with
  | nil => simp [decodeAfter, decode]
  | cons b bytes ih =>
    cases skip with
    | zero => rfl
    | succ skip => simp [decodeAfter, ih]

end SourcePrologue.Utf8
