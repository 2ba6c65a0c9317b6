/-
# The transfer protocol (`ble_transfer/transfer_protocol.h`)

What the robot and the beacons share: the message codes, the little-endian 16- and
32-bit fields of a packet, the packet sizes and the CRC-32 of a file.
-/
import Mathlib.Algebra.GroupWithZero.Nat
import Mathlib.Data.List.Basic
import Mathlib.Logic.Function.Iterate
import Mathlib.Tactic.Common

/-- A packet value or the content of a file. -/
abbrev Bytes := List UInt8

/-- The connection handles an HCI event can carry, `0x0000` to `0x0EFF`.  The marker
`HCI_CON_HANDLE_INVALID` (`0xFFFF`) is not one of them: a static `connection_handle` is
an `Option ConHandle`, and `none` is the marker. -/
abbrev ConHandle := Fin 0x0F00

-- Numerals are handles, in every module by the same instance.
instance ConHandle.neZero : NeZero 0x0F00 := ⟨by decide⟩

namespace TransferProtocol

/-- `BEACON_PROTOCOL_VERSION`. -/
def beaconProtocolVersion : UInt8 := 1

/-- `TRANSFER_MAX_FILE_SIZE`. -/
def transferMaxFileSize : ℕ := 256

/-- `TRANSFER_PACKET_SIZE`: every packet fits the default ATT MTU. -/
def transferPacketSize : ℕ := 20

/-- `TRANSFER_DATA_BYTES`: the file bytes one packet can carry. -/
def transferDataBytes : ℕ := 17

/-! ## Message codes -/

/-- `enum transfer_message_type`. -/
inductive MessageType
  | hello
  | helloAck
  | fileStart
  | fileReady
  | fileData
  | fileEnd
  | fileReceived
  | replyRequest
  | replyStart
  | replyNext
  | replyData
  | replyEnd
  | complete
  | completeAck
  | error
  deriving DecidableEq, Repr

namespace MessageType

/-- The first byte of a packet of this type. -/
def code : MessageType → UInt8
  | hello => 0x01
  | helloAck => 0x02
  | fileStart => 0x03
  | fileReady => 0x04
  | fileData => 0x05
  | fileEnd => 0x06
  | fileReceived => 0x07
  | replyRequest => 0x08
  | replyStart => 0x09
  | replyNext => 0x0A
  | replyData => 0x0B
  | replyEnd => 0x0C
  | complete => 0x0D
  | completeAck => 0x0E
  | error => 0x7F

/-- All the message types, in the order of the header. -/
def all : List MessageType :=
  [hello, helloAck, fileStart, fileReady, fileData, fileEnd, fileReceived, replyRequest,
    replyStart, replyNext, replyData, replyEnd, complete, completeAck, error]

/-- The type a first byte announces, if it is one of the codes. -/
def ofCode? (b : UInt8) : Option MessageType := all.find? fun m => m.code == b

@[simp] theorem ofCode?_code (m : MessageType) : ofCode? m.code = some m := by
  cases m <;> rfl

theorem code_of_ofCode? {b : UInt8} {m : MessageType} (h : ofCode? b = some m) : b = m.code := by
  have := List.find?_some h
  exact (eq_of_beq this).symm

end MessageType

/-! ## Little-endian fields -/

/-- The byte at position `i` of a packet (the callers check the length first). -/
def byteAt (p : Bytes) (i : ℕ) : UInt8 := p.getD i 0

/-- The two bytes `transfer_write_u16` stores. -/
def transferWriteU16 (value : UInt16) : Bytes := [value.toUInt8, (value >>> 8).toUInt8]

/-- `transfer_read_u16` at position `i` of a packet. -/
def transferReadU16 (p : Bytes) (i : ℕ) : UInt16 :=
  (byteAt p i).toUInt16 ||| ((byteAt p (i + 1)).toUInt16 <<< 8)

/-- The four bytes `transfer_write_u32` stores. -/
def transferWriteU32 (value : UInt32) : Bytes :=
  [value.toUInt8, (value >>> 8).toUInt8, (value >>> 16).toUInt8, (value >>> 24).toUInt8]

/-- `transfer_read_u32` at position `i` of a packet. -/
def transferReadU32 (p : Bytes) (i : ℕ) : UInt32 :=
  (byteAt p i).toUInt32 ||| ((byteAt p (i + 1)).toUInt32 <<< 8) |||
    ((byteAt p (i + 2)).toUInt32 <<< 16) ||| ((byteAt p (i + 3)).toUInt32 <<< 24)

theorem u16_of_bytes (value : UInt16) :
    value.toUInt8.toUInt16 ||| ((value >>> 8).toUInt8.toUInt16 <<< 8) = value := by
  apply UInt16.eq_of_toBitVec_eq
  ext i hi
  simp [-UInt16.toUInt16_toUInt8]
  grind

theorem u32_of_bytes (value : UInt32) :
    value.toUInt8.toUInt32 ||| ((value >>> 8).toUInt8.toUInt32 <<< 8) |||
      ((value >>> 16).toUInt8.toUInt32 <<< 16) ||| ((value >>> 24).toUInt8.toUInt32 <<< 24)
      = value := by
  apply UInt32.eq_of_toBitVec_eq
  ext i hi
  simp [-UInt32.toUInt32_toUInt8]
  grind

/-- A 16-bit field is read back where it was written. -/
theorem transferReadU16_write (pre post : Bytes) (value : UInt16) :
    transferReadU16 (pre ++ (transferWriteU16 value ++ post)) pre.length = value := by
  simpa [transferReadU16, transferWriteU16, byteAt, -UInt16.toUInt16_toUInt8]
    using u16_of_bytes value

/-- A 32-bit field is read back where it was written. -/
theorem transferReadU32_write (pre post : Bytes) (value : UInt32) :
    transferReadU32 (pre ++ (transferWriteU32 value ++ post)) pre.length = value := by
  simpa [transferReadU32, transferWriteU32, byteAt, -UInt32.toUInt32_toUInt8]
    using u32_of_bytes value

/-! ## CRC-32 -/

/-- One bit of the CRC loop: shift, and fold the polynomial in when a one fell out. -/
def crcBit (crc : UInt32) : UInt32 :=
  let mask := (-(crc &&& 1).toInt32).toUInt32
  (crc >>> 1) ^^^ (0xEDB88320 &&& mask)

/-- One byte of the CRC loop. -/
def crcByte (crc : UInt32) (b : UInt8) : UInt32 := crcBit^[8] (crc ^^^ b.toUInt32)

/-- `transfer_crc32` of a file. -/
def transferCrc32 (data : Bytes) : UInt32 := ~~~ (data.foldl crcByte 0xFFFFFFFF)

-- the check value of CRC-32: the nine ASCII digits "123456789"
example : transferCrc32 [0x31, 0x32, 0x33, 0x34, 0x35, 0x36, 0x37, 0x38, 0x39] = 0xCBF43926 := by
  decide +kernel

end TransferProtocol
