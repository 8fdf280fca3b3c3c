/-
From the bytes of a file to its text.

Four encodings are known by name: UTF-8, UTF-8 behind an optional byte order mark,
and the two encodings with a character for each byte, of which the smaller one
ends at 127. Bytes that an encoding does not allow are refused with their place;
where a mark was skipped, places are counted after it. In the text every line end
is a line feed.
-/
import CodeSmell.Text.Line
import CodeSmell.Text.Quoted
import CodeSmell.Text.Utf8

set_option autoImplicit false

namespace CodeSmell

/-- Why bytes have no text. -/
inductive DecodeError where
  | unknownEncoding (name : String)
  /-- The bytes at a place are not UTF-8; `first` is the first of them. -/
  | notUtf8 (place : Text.Utf8.Malformed) (first : UInt8)
  /-- The byte at a place is above 127. -/
  | notAscii (position : Nat) (byte : UInt8)
  deriving DecidableEq, Repr

namespace DecodeError

/-- A byte by its value. -/
def byteText (b : UInt8) : String := "0x" ++ String.ofList (Text.Quoted.hex 2 b.toNat)

/-- What is wrong with bytes that begin no character. -/
def faultText : Text.Utf8.Fault → String
  | .startByte => "invalid start byte"
  | .continuationByte => "invalid continuation byte"
  | .endOfData => "unexpected end of data"

/-- The wording of the error. -/
def message : DecodeError → String
  | unknownEncoding name => "unknown encoding: " ++ name
  | notUtf8 place first =>
    let bytes :=
      if place.width = 1 then s!"byte {byteText first} in position {place.position}"
      else s!"bytes in position {place.position}-{place.position + place.width - 1}"
    s!"'utf-8' codec can't decode {bytes}: {faultText place.fault}"
  | notAscii position byte =>
    s!"'ascii' codec can't decode byte {byteText byte} in position {position}: "
      ++ "ordinal not in range(128)"

end DecodeError

namespace Encoding

/-- The characters of UTF-8. -/
def readUtf8 (bytes : List UInt8) : Except DecodeError (List Char) :=
  match Text.Utf8.read bytes with
  | .ok cs => .ok cs
  | .error place => .error (.notUtf8 place (bytes.getD place.position 0))

/-- The byte order mark. -/
def byteOrderMark : List UInt8 := [0xEF, 0xBB, 0xBF]

/-- The bytes after a byte order mark. A mark that is cut short counts as one. -/
def afterMark (bytes : List UInt8) : List UInt8 :=
  if byteOrderMark.isPrefixOf bytes then bytes.drop 3
  else if bytes.isPrefixOf byteOrderMark then []
  else bytes

/-- The characters of bytes below 128, `position` bytes having been read. -/
def readAscii (position : Nat) : List UInt8 → Except DecodeError (List Char)
  | [] => .ok []
  | b :: rest =>
    if b < 0x80 then (readAscii (position + 1) rest).map (Char.ofNat b.toNat :: ·)
    else .error (.notAscii position b)

/-- The characters of bytes in a named encoding. -/
def read (encoding : String) (bytes : List UInt8) : Except DecodeError (List Char) :=
  if encoding = "utf-8" then readUtf8 bytes
  else if encoding = "utf-8-sig" then readUtf8 (afterMark bytes)
  else if encoding = "latin-1" then .ok (bytes.map fun b => Char.ofNat b.toNat)
  else if encoding = "ascii" then readAscii 0 bytes
  else .error (.unknownEncoding encoding)

/-- The text of bytes in a named encoding. -/
def text (encoding : String) (bytes : List UInt8) : Except DecodeError String :=
  (read encoding bytes).map fun cs => String.ofList (Text.unifyLineEnds cs)

end Encoding

end CodeSmell
