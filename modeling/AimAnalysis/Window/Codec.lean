import AimAnalysis.Window.Tick

/-!
# Wire form of windows

A window goes to the endpoint as a count of eight bytes and that many records of eight fields of four
bytes, everything with the least significant byte first. Decoding accepts exactly the texts that
encoding produces: too few bytes for the count or for a field are a shortage, bytes after the last
record are refused.
-/

namespace AimAnalysis

/-- Why a window cannot be encoded or decoded. -/
inductive CodecFault where
  /-- Encoding failed. -/
  | encode (detail : String)
  /-- Decoding failed. -/
  | decode (detail : String)
  /-- Bytes are left after the last record. -/
  | trailing (consumed provided : Nat)
deriving DecidableEq, Repr

namespace CodecFault

/-- The text of a fault. -/
def message : CodecFault → String
  | .encode detail => "encoding failed while encoding classification window: " ++ detail
  | .decode detail => "decoding failed while decoding classification window: " ++ detail
  | .trailing consumed provided =>
    "window used " ++ toString consumed ++ " of " ++ toString provided
      ++ " bytes; trailing data rejected"

/-- Input that ends `missing` bytes short of the item being read. -/
def shortage (missing : Nat) : CodecFault :=
  .decode ("UnexpectedEnd \x7b additional: " ++ toString missing ++ " \x7d")

end CodecFault

namespace Codec

/-- Bytes of the count. -/
def headerLength : Nat := 8

/-- Bytes of a record. -/
def recordLength : Nat := 32

/-- The lowest `count` bytes of a number, the least significant first. -/
def littleEndian : Nat → Nat → List UInt8
  | 0, _ => []
  | count + 1, n => UInt8.ofNat (n % 256) :: littleEndian count (n / 256)

/-- The number that bytes stand for, the least significant first. -/
def ofLittleEndian : List UInt8 → Nat
  | [] => 0
  | b :: rest => b.toNat + 256 * ofLittleEndian rest

/-- The bytes of a field. -/
def encodeField (x : Binary32) : List UInt8 := littleEndian 4 x.bits.toNat

/-- The bytes of a record. -/
def encodeTick (t : Tick) : List UInt8 := t.fields.flatMap encodeField

/-- The bytes of a window. -/
def encode (ticks : List Tick) : List UInt8 :=
  littleEndian headerLength ticks.length ++ ticks.flatMap encodeTick

/-- Appends the bytes of a window to a buffer; the second component is the number of bytes added. -/
def append (ticks : List Tick) (buffer : List UInt8) : List UInt8 × Nat :=
  (buffer ++ encode ticks, (encode ticks).length)

/-- Takes a number of bytes off the front. -/
def take? (count : Nat) (bytes : List UInt8) : Except CodecFault (List UInt8 × List UInt8) :=
  let taken := bytes.take count
  if taken.length < count then .error (.shortage (count - taken.length))
  else .ok (taken, bytes.drop count)

/-- Takes a number of fields off the front. -/
def takeFields? : Nat → List UInt8 → Except CodecFault (List Binary32 × List UInt8)
  | 0, bytes => .ok ([], bytes)
  | count + 1, bytes =>
    match take? 4 bytes with
    | .error e => .error e
    | .ok (field, rest) =>
      match takeFields? count rest with
      | .error e => .error e
      | .ok (fields, rest) => .ok (⟨UInt32.ofNat (ofLittleEndian field)⟩ :: fields, rest)

/-- Takes a record off the front. -/
def takeTick? (bytes : List UInt8) : Except CodecFault (Tick × List UInt8) :=
  match takeFields? 8 bytes with
  | .error e => .error e
  | .ok (fields, rest) => .ok ((Tick.ofFields? fields).getD {}, rest)

/-- Takes a number of records off the front. The bytes run out long before a count that does not match
them does. -/
def takeTicks? : Nat → List UInt8 → Except CodecFault (List Tick × List UInt8)
  | 0, bytes => .ok ([], bytes)
  | count + 1, bytes =>
    match takeTick? bytes with
    | .error e => .error e
    | .ok (t, rest) =>
      match takeTicks? count rest with
      | .error e => .error e
      | .ok (ticks, rest) => .ok (t :: ticks, rest)

/-- Decodes a window. -/
def decode (bytes : List UInt8) : Except CodecFault (List Tick) :=
  match take? headerLength bytes with
  | .error e => .error e
  | .ok (header, rest) =>
    match takeTicks? (ofLittleEndian header) rest with
    | .error e => .error e
    | .ok (ticks, []) => .ok ticks
    | .ok (_, rest) => .error (.trailing (bytes.length - rest.length) bytes.length)

end Codec

end AimAnalysis
