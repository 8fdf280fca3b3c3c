/-
UTF-8, read in two ways from one step.

A step looks at the first byte, which says how many continuation bytes must
follow and in what range the first of them lies; the narrowed ranges are what
rules out overlong forms, surrogates and values past the last code point. A step
that fails has read the longest stretch that could still have begun a character,
and at least one byte.

The tolerant reading puts one replacement character for each such stretch and
goes on after it, so it never fails. The strict reading stops at the first one
and says where it lies and why. Each step shortens what is left, which is why
both readings end.
-/
set_option autoImplicit false

namespace CodeSmell.Text.Utf8

/-- Why a stretch of bytes does not begin a character. -/
inductive Fault where
  /-- No character begins with this byte. -/
  | startByte
  /-- A continuation byte is missing where another byte stands. -/
  | continuationByte
  /-- The bytes end inside a character. -/
  | endOfData
  deriving DecidableEq, Repr

/-- What one step reads: a character, or a stretch of `width` bytes that begins
none. Both come with the bytes after them. -/
inductive Step where
  | char (c : Char) (rest : List UInt8)
  | broken (width : Nat) (fault : Fault) (rest : List UInt8)

/-- The bytes after a step. -/
def Step.rest : Step → List UInt8
  | .char _ rest => rest
  | .broken _ _ rest => rest

/-- Reads `count` continuation bytes, the first between `low` and `high`, onto the
bits in `acc`; `width` bytes of the character are read already. -/
def continuation : Nat → UInt8 → UInt8 → Nat → Nat → List UInt8 → Step
  | 0, _, _, acc, _, rest => .char (Char.ofNat acc) rest
  | _ + 1, _, _, _, width, [] => .broken width .endOfData []
  | count + 1, low, high, acc, width, b :: rest =>
    if low ≤ b ∧ b ≤ high then
      continuation count 0x80 0xBF (acc * 64 + (b.toNat - 0x80)) (width + 1) rest
    else
      .broken width .continuationByte (b :: rest)

/-- Reads the character that the byte `b` begins. -/
def step (b : UInt8) (rest : List UInt8) : Step :=
  if b < 0x80 then .char (Char.ofNat b.toNat) rest
  else if b < 0xC2 then .broken 1 .startByte rest
  else if b < 0xE0 then continuation 1 0x80 0xBF (b.toNat - 0xC0) 1 rest
  else if b < 0xF0 then
    -- Lower would be overlong, higher a surrogate.
    let low := if b = 0xE0 then 0xA0 else 0x80
    let high := if b = 0xED then 0x9F else 0xBF
    continuation 2 low high (b.toNat - 0xE0) 1 rest
  else if b < 0xF5 then
    -- Lower would be overlong, higher past the last code point.
    let low := if b = 0xF0 then 0x90 else 0x80
    let high := if b = 0xF4 then 0x8F else 0xBF
    continuation 3 low high (b.toNat - 0xF0) 1 rest
  else .broken 1 .startByte rest

theorem continuation_rest_suffix (count : Nat) (low high : UInt8) (acc width : Nat)
    (bytes : List UInt8) : (continuation count low high acc width bytes).rest <:+ bytes := by
  induction count generalizing low high acc width bytes with
  | zero => simp [continuation, Step.rest]
  | succ count ih =>
    cases bytes with
    | nil => simp [continuation, Step.rest]
    | cons b rest =>
      simp only [continuation]
      split
      · apply (ih ..).trans
        exact List.suffix_cons b rest
      · simp [Step.rest]

/-- What a step leaves is the end of the bytes. -/
theorem step_rest_suffix (b : UInt8) (rest : List UInt8) : (step b rest).rest <:+ rest := by
  unfold step
  repeat' split
  all_goals first
    | exact continuation_rest_suffix ..
    | simp [Step.rest]

/-- A step leaves no more than the bytes after its first one. -/
theorem step_rest_length (b : UInt8) (rest : List UInt8) :
    (step b rest).rest.length ≤ rest.length :=
  (step_rest_suffix b rest).length_le

/-- The replacement character, which stands for bytes that are no character. -/
def replacement : Char := '\ufffd'

/-- The tolerant reading, with the characters read so far in reverse. -/
def decodeOnto (acc : List Char) : List UInt8 → List Char
  | [] => acc.reverse
  | b :: rest =>
    match _h : step b rest with
    | .char c rest' => decodeOnto (c :: acc) rest'
    | .broken _ _ rest' => decodeOnto (replacement :: acc) rest'
termination_by bytes => bytes.length
decreasing_by
  all_goals
    have := step_rest_length b rest
    simp only [_h, Step.rest] at this
    simp only [List.length_cons]
    omega

/-- The characters of a byte sequence, with one replacement character for each
stretch that begins none. -/
def decode (bytes : List UInt8) : List Char := decodeOnto [] bytes

/-- Where a strict reading stops: `width` bytes from `position` on. -/
structure Malformed where
  position : Nat
  width : Nat
  fault : Fault
  deriving DecidableEq, Repr

/-- The strict reading, with the characters read so far in reverse and the number
of bytes read. -/
def readOnto (acc : List Char) (position : Nat) : List UInt8 → Except Malformed (List Char)
  | [] => .ok acc.reverse
  | b :: rest =>
    match _h : step b rest with
    | .char c rest' => readOnto (c :: acc) (position + c.utf8Size) rest'
    | .broken width fault _ => .error ⟨position, width, fault⟩
termination_by bytes => bytes.length
decreasing_by
  have := step_rest_length b rest
  simp only [_h, Step.rest] at this
  simp only [List.length_cons]
  omega

/-- The characters of a byte sequence that is UTF-8 throughout, else where it is
not. -/
def read (bytes : List UInt8) : Except Malformed (List Char) := readOnto [] 0 bytes

/-- The bytes of a text. -/
def encode (s : String) : List UInt8 := s.toUTF8.toList

example : decode [0x61, 0xE2, 0x82, 0x41] = ['a', replacement, 'A'] := by decide +kernel
example : decode [0xF4, 0x90, 0x80, 0x80] = List.replicate 4 replacement := by decide +kernel

end CodeSmell.Text.Utf8
