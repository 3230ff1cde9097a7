import StoryGraph.Json.Reader
import StoryGraph.Value.Literal

/-!
# Encodings of JSON bytes

A JSON document may arrive as bytes in one of the Unicode encodings.  A byte
order mark or the pattern of zero bytes at the start tells which one it is.
Decoding stops at the first bytes that the encoding does not allow.  Half
surrogate pairs are allowed, but no characters, so that what they stand for is
not read.
-/

namespace StoryGraph.Json

inductive ByteOrder where
  | little
  | big
  deriving DecidableEq

inductive Encoding where
  | utf8
  | utf16 (order : ByteOrder)
  | utf32 (order : ByteOrder)
  deriving DecidableEq

namespace Encoding

def name : Encoding → String
  | utf8 => "utf-8"
  | utf16 .little => "utf-16-le"
  | utf16 .big => "utf-16-be"
  | utf32 .little => "utf-32-le"
  | utf32 .big => "utf-32-be"

/-- The encoding of some bytes, and the length of their byte order mark. -/
def detect : List UInt8 → Encoding × Nat
  | 0x00 :: 0x00 :: 0xFE :: 0xFF :: _ => (utf32 .big, 4)
  | 0xFF :: 0xFE :: 0x00 :: 0x00 :: _ => (utf32 .little, 4)
  | 0xFE :: 0xFF :: _ => (utf16 .big, 2)
  | 0xFF :: 0xFE :: _ => (utf16 .little, 2)
  | 0xEF :: 0xBB :: 0xBF :: _ => (utf8, 3)
  | a :: b :: c :: d :: _ =>
    if a = 0 then (if b = 0 then (utf32 .big, 0) else (utf16 .big, 0))
    else if b = 0 then
      (if c = 0 && d = 0 then (utf32 .little, 0) else (utf16 .little, 0))
    else (utf8, 0)
  | [a, b] =>
    if a = 0 then (utf16 .big, 0)
    else if b = 0 then (utf16 .little, 0)
    else (utf8, 0)
  | _ => (utf8, 0)

end Encoding

inductive DecodingFault where
  | invalidStart
  | invalidContinuation
  | unexpectedEnd
  | truncated
  | outOfRange
  deriving DecidableEq

def DecodingFault.message : DecodingFault → String
  | invalidStart => "invalid start byte"
  | invalidContinuation => "invalid continuation byte"
  | unexpectedEnd => "unexpected end of data"
  | truncated => "truncated data"
  | outOfRange => "code point not in range(0x110000)"

/-- Bytes that an encoding does not allow: where they start, the first of them
and how many there are. -/
structure DecodingError where
  encoding : Encoding
  position : Nat
  first : UInt8
  length : Nat
  fault : DecodingFault
  deriving DecidableEq

def DecodingError.message (error : DecodingError) : String :=
  let place :=
    if error.length = 1 then
      "byte 0x" ++ hexadecimal 2 error.first.toNat ++ " in position " ++
        toString error.position
    else
      "bytes in position " ++ toString error.position ++ "-" ++
        toString (error.position + error.length - 1)
  "'" ++ error.encoding.name ++ "' codec can't decode " ++ place ++ ": " ++
    error.fault.message

/-- A character of several bytes that has not ended yet. -/
structure Sequence where
  start : Nat
  first : UInt8
  taken : Nat
  /-- Bytes that are still to come. -/
  needed : Nat
  /-- Bounds of the next byte. -/
  low : UInt8
  high : UInt8
  code : Nat
  /-- Whether it is half a surrogate pair, which fails as a whole. -/
  surrogate : Bool

/-- The sequence that a byte starts, if it is not a character by itself. -/
def Sequence.start? (position : Nat) (byte : UInt8) : Option Sequence :=
  let code := byte.toNat
  if 0xC2 ≤ code && code ≤ 0xDF then
    some ⟨position, byte, 1, 1, 0x80, 0xBF, code - 0xC0, false⟩
  else if code = 0xE0 then some ⟨position, byte, 1, 2, 0xA0, 0xBF, 0, false⟩
  else if 0xE1 ≤ code && code ≤ 0xEF then
    some ⟨position, byte, 1, 2, 0x80, 0xBF, code - 0xE0, false⟩
  else if code = 0xF0 then some ⟨position, byte, 1, 3, 0x90, 0xBF, 0, false⟩
  else if 0xF1 ≤ code && code ≤ 0xF3 then
    some ⟨position, byte, 1, 3, 0x80, 0xBF, code - 0xF0, false⟩
  else if code = 0xF4 then some ⟨position, byte, 1, 3, 0x80, 0x8F, 4, false⟩
  else none

/-- The error of a sequence that cannot go on. -/
def Sequence.error (sequence : Sequence)
    (fault : DecodingFault) : DecodingError :=
  if sequence.surrogate then
    ⟨.utf8, sequence.start, sequence.first, 1, .invalidContinuation⟩
  else ⟨.utf8, sequence.start, sequence.first, sequence.taken, fault⟩

/-- The codes of bytes in the eight-bit encoding. -/
def decodeUtf8 (position : Nat) (pending : Option Sequence) :
    List UInt8 → Except DecodingError (List Nat)
  | [] =>
    match pending with
    | none => .ok []
    | some sequence => .error (sequence.error .unexpectedEnd)
  | byte :: rest =>
    match pending with
    | none =>
      if byte < 0x80 then
        (decodeUtf8 (position + 1) none rest).map (byte.toNat :: ·)
      else
        match Sequence.start? position byte with
        | some sequence => decodeUtf8 (position + 1) (some sequence) rest
        | none => .error ⟨.utf8, position, byte, 1, .invalidStart⟩
    | some sequence =>
      if sequence.low ≤ byte && byte ≤ sequence.high then
        let code := sequence.code * 0x40 + (byte.toNat - 0x80)
        if sequence.needed = 1 then
          (decodeUtf8 (position + 1) none rest).map (code :: ·)
        else
          decodeUtf8 (position + 1)
            (some { sequence with
              taken := sequence.taken + 1
              needed := sequence.needed - 1
              low := 0x80
              high := 0xBF
              code := code
              surrogate := sequence.first = 0xED && 0xA0 ≤ byte }) rest
      else .error (sequence.error .invalidContinuation)

def unit16 (order : ByteOrder) (first second : UInt8) : Nat :=
  match order with
  | .little => first.toNat + 0x100 * second.toNat
  | .big => 0x100 * first.toNat + second.toNat

/-- The sixteen-bit units of some bytes. -/
def units16 (order : ByteOrder) (position : Nat) :
    List UInt8 → Except DecodingError (List Nat)
  | [] => .ok []
  | [byte] => .error ⟨.utf16 order, position, byte, 1, .truncated⟩
  | first :: second :: rest =>
    (units16 order (position + 2) rest).map (unit16 order first second :: ·)

/-- The codes of sixteen-bit units, pairs of surrogates joined. -/
def joinUnits : List Nat → List Nat
  | [] => []
  | [unit] => [unit]
  | high :: low :: rest =>
    if isHighSurrogate high && isLowSurrogate low then
      (joinSurrogates high low).toNat :: joinUnits rest
    else high :: joinUnits (low :: rest)

def unit32 (order : ByteOrder) (a b c d : UInt8) : Nat :=
  match order with
  | .little => unit16 .little a b + 0x10000 * unit16 .little c d
  | .big => 0x10000 * unit16 .big a b + unit16 .big c d

def decodeUtf32 (order : ByteOrder) (position : Nat) :
    List UInt8 → Except DecodingError (List Nat)
  | [] => .ok []
  | a :: b :: c :: d :: rest =>
    let code := unit32 order a b c d
    if code < 0x110000 then
      (decodeUtf32 order (position + 4) rest).map (code :: ·)
    else .error ⟨.utf32 order, position, a, 4, .outOfRange⟩
  | first :: rest =>
    .error ⟨.utf32 order, position, first, rest.length + 1, .truncated⟩

/-- The codes of some bytes.  Positions count the byte order mark, except in the
eight-bit encoding. -/
def decodeBytes (bytes : List UInt8) : Except DecodingError (List Nat) :=
  let (encoding, mark) := Encoding.detect bytes
  match encoding with
  | .utf8 => decodeUtf8 0 none (bytes.drop mark)
  | .utf16 order => (units16 order mark (bytes.drop mark)).map joinUnits
  | .utf32 order => decodeUtf32 order mark (bytes.drop mark)

/-- A JSON document before it is read. -/
inductive Source where
  | text (content : String)
  | bytes (content : List UInt8)

/-- Why a document is not read. -/
inductive ReadError where
  /-- The document is no JSON. -/
  | malformed (reason : String)
  /-- An integer has too many digits. -/
  | oversizedInteger (digits : Nat)
  /-- A text in the document is none of ours. -/
  | loneSurrogate
  deriving DecidableEq

/-- A failure to read a text as an error. -/
def ReadError.ofFailure (characters : List Char)
    (failure : Failure) : ReadError :=
  match failure.fault with
  | .oversizedInteger digits => .oversizedInteger digits
  | .loneSurrogate => .loneSurrogate
  | _ => .malformed (locate characters failure)

/-- Reads a document, or says why not. -/
def Source.read : Source → Except ReadError Value
  | .text content =>
    (readText content).mapError (.ofFailure content.toList)
  | .bytes content =>
    match decodeBytes content with
    | .error error => .error (.malformed error.message)
    | .ok codes =>
      match codes.mapM character? with
      | none => .error .loneSurrogate
      | some characters =>
        (readCharacters characters).mapError (.ofFailure characters)

end StoryGraph.Json
