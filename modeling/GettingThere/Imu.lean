/-
# The gyro sensor (`getting_there/imu_mpu9250.c`)

The driver keeps a record of the sensor: which chip answers, the range it is set to, the scale of
that range and the bias of each axis.  The registers are in the chip, and every access to them is
two transfers on the I2C bus, either of which may fail.

Between two transfers the chip measures, and it may lose its settings (a brown-out, a reset):
`Transfer.upset` is what its registers are then.  A write that is reported to have failed may still
have reached the register.

The state also keeps notes that the code does not have: whether the settings of the chip were
confirmed, at which range the bias was measured, and every reading with the chip of that moment.
-/
import GettingThere.CrashLogic
import GettingThere.TransferProtocol
import Mathlib.Logic.Function.Basic

open CrashLogic

namespace Imu

/-! ## Sensor and bus -/

/-- The registers of the chip. -/
abbrev Registers := UInt8 → UInt8

/-- What the chip and the bus do at one transfer. -/
structure Transfer where
  /-- what the registers have become since the transfer before, if anything has happened -/
  upset : Option Registers
  /-- what the chip has measured -/
  sample : Registers
  /-- what `i2c_write_timeout_us` or `i2c_read_timeout_us` returns -/
  result : ℤ
  /-- a write that fails reaches its register nevertheless -/
  lands : Bool

/-- `mpu9250_t`. -/
structure Mpu9250 where
  i2c : Option ℕ
  address : UInt8
  whoAmI : UInt8
  gyroRangeDps : UInt16
  gyroLsbPerDps : Float32
  gyroBiasDps : Fin 3 → Float32

/-- `mpu9250_io_status_t`. -/
structure IoStatus where
  reg : UInt8
  selectResult : ℤ
  readResult : ℤ
  deriving DecidableEq, Repr

/-- A reading that was taken, with what is noted of the moment: the registers of the chip, the bias
of the record and the other two notes. -/
structure Reading where
  registers : Registers
  bias : Fin 3 → Float32
  confirmed : Bool
  biasRange : UInt16
  gyroDps : Fin 3 → Float32

/-- The driver and the chip. -/
structure Sys where
  imu : Mpu9250
  registers : Registers
  transfers : ℕ → Transfer
  tick : ℕ
  /-- note: the settings were confirmed, and nothing has happened to the chip since -/
  confirmed : Bool
  /-- note: the range at which the bias was measured -/
  biasRange : UInt16
  readings : List Reading

/-- `MPU9250_ADDRESS`, `MPU9250_WHO_AM_I`, `MPU9250_PWR_MGMT_1`, `MPU9250_GYRO_CONFIG` and
`MPU9250_GYRO_XOUT_H`. -/
def mpu9250Address : UInt8 := 0x68
def mpu9250WhoAmI : UInt8 := 0x75
def mpu9250PwrMgmt1 : UInt8 := 0x6B
def mpu9250GyroConfig : UInt8 := 0x1B
def mpu9250GyroXoutH : UInt8 := 0x43

/-- `MPU9250_GYRO_RANGE_MASK`. -/
def mpu9250GyroRangeMask : UInt8 := 0x18

/-! ## Transfers -/

/-- The registers after a measurement: the six of `MPU9250_GYRO_XOUT_H` are new. -/
def Registers.measured (registers sample : Registers) : Registers := fun reg =>
  if mpu9250GyroXoutH ≤ reg ∧ reg < mpu9250GyroXoutH + 6 then sample reg else registers reg

/-- The system when it comes to its next transfer. -/
def Sys.atTransfer (s : Sys) (t : Transfer) : Sys :=
  { s with
    tick := s.tick + 1
    registers := (t.upset.getD s.registers).measured t.sample
    confirmed := s.confirmed && t.upset.isNone }

/-- One transfer on the bus. -/
def transfer : Cmd Sys Transfer := do
  let s ← get
  modify fun s => s.atTransfer (s.transfers s.tick)
  return s.transfers s.tick

/-- `write_reg`. -/
def writeReg (reg value : UInt8) : Cmd Sys Bool := do
  let t ← transfer
  if t.result = 2 ∨ t.lands = true then
    modify fun s => { s with registers := Function.update s.registers reg value }
  return decide (t.result = 2)

/-- `read_regs_status`: the registers from `reg` on, if they could be read. -/
def readRegsStatus (reg : UInt8) (length : ℕ) :
    Cmd Sys (Option (Fin length → UInt8) × IoStatus) := do
  let select ← transfer
  if select.result ≠ 1 then
    return (none, ⟨reg, select.result, 0⟩)
  let t ← transfer
  let s ← get
  let data := fun k : Fin length => s.registers (reg + UInt8.ofNat k)
  return (if t.result = length then some data else none, ⟨reg, select.result, t.result⟩)

/-- `read_regs`. -/
def readRegs (reg : UInt8) (length : ℕ) : Cmd Sys (Option (Fin length → UInt8)) := do
  let (data, _) ← readRegsStatus reg length
  return data

/-- `read_regs` of one register. -/
def readReg (reg : UInt8) : Cmd Sys (Option UInt8) := do
  let data ← readRegs reg 1
  return data.map (· 0)

/-! ## Range -/

/-- The bits and the scale of a range. -/
def rangeSettings (rangeDps : UInt16) : Option (UInt8 × Float32) :=
  if rangeDps = 250 then some (0x00, 131.0)
  else if rangeDps = 500 then some (0x08, 65.5)
  else if rangeDps = 1000 then some (0x10, 32.8)
  else if rangeDps = 2000 then some (0x18, 16.4)
  else none

/-- The record after a range was set and verified. -/
def Mpu9250.setRange (imu : Mpu9250) (rangeDps : UInt16) (scale : Float32) : Mpu9250 :=
  { imu with
    gyroRangeDps := rangeDps
    gyroLsbPerDps := scale
    gyroBiasDps := if imu.gyroRangeDps ≠ rangeDps then fun _ => 0 else imu.gyroBiasDps }

/-- `mpu9250_set_gyro_range`, for a range that is supported. -/
def changeRange (rangeDps : UInt16) (rangeBits : UInt8) (scale : Float32) : Cmd Sys Bool := do
  let s ← get
  if s.imu.i2c = none then
    return false
  match ← readReg mpu9250GyroConfig with
  | none => return false
  | some config =>
    if !(← writeReg mpu9250GyroConfig ((config &&& ~~~mpu9250GyroRangeMask) ||| rangeBits)) then
      return false
    match ← readReg mpu9250GyroConfig with
    | none => return false
    | some verified =>
      if verified &&& mpu9250GyroRangeMask ≠ rangeBits then
        return false
      modify fun s => { s with imu := s.imu.setRange rangeDps scale }
      return true

/-- `mpu9250_set_gyro_range`. -/
def mpu9250SetGyroRange (rangeDps : UInt16) : Cmd Sys Bool :=
  match rangeSettings rangeDps with
  | none => return false
  | some (rangeBits, scale) => changeRange rangeDps rangeBits scale

/-! ## Initialisation and check -/

/-- The record at the start of `mpu9250_init`. -/
def Mpu9250.fresh (i2c : ℕ) : Mpu9250 where
  i2c := some i2c
  address := mpu9250Address
  whoAmI := 0
  gyroRangeDps := 250
  gyroLsbPerDps := 131.0
  gyroBiasDps := fun _ => 0

/-- `mpu9250_init`. -/
def mpu9250Init (i2c : ℕ) : Cmd Sys Bool := do
  modify fun s => { s with imu := .fresh i2c }
  match ← readReg mpu9250WhoAmI with
  | none => return false
  | some id =>
    if id ≠ 0x71 ∧ id ≠ 0x73 ∧ id ≠ 0x70 then
      return false
    if !(← writeReg mpu9250PwrMgmt1 0x00) then
      return false
    if !(← writeReg mpu9250GyroConfig 0x00) then
      return false
    if !(← mpu9250SetGyroRange 250) then
      return false
    modify fun s => { s with imu := { s.imu with whoAmI := id } }
    return true

/-- The bits `mpu9250_verify_config` expects. -/
def expectedBits (rangeDps : UInt16) : UInt8 :=
  if rangeDps = 1000 then 0x10
  else if rangeDps = 2000 then 0x18
  else if rangeDps = 500 then 0x08
  else 0

/-- `mpu9250_verify_config`. -/
def mpu9250VerifyConfig : Cmd Sys (Bool × IoStatus) := do
  let s ← get
  match ← readRegsStatus mpu9250WhoAmI 1 with
  | (none, status) => return (false, status)
  | (some value, status) =>
    if value 0 ≠ s.imu.whoAmI then
      return (false, status)
    match ← readRegsStatus mpu9250PwrMgmt1 1 with
    | (none, status) => return (false, status)
    | (some value, status) =>
      if value 0 &&& 0xC0 ≠ 0 then
        return (false, status)
      match ← readRegsStatus mpu9250GyroConfig 1 with
      | (none, status) => return (false, status)
      | (some value, status) =>
        return (decide (value 0 &&& mpu9250GyroRangeMask = expectedBits s.imu.gyroRangeDps), status)

/-! ## Readings -/

/-- `data[axis * 2]` and `data[axis * 2 + 1]`. -/
def highByte (data : Fin 6 → UInt8) (axis : Fin 3) : UInt8 := data ⟨2 * axis, by omega⟩
def lowByte (data : Fin 6 → UInt8) (axis : Fin 3) : UInt8 := data ⟨2 * axis + 1, by omega⟩

/-- An axis of the six data registers. -/
def rawAxis (data : Fin 6 → UInt8) (axis : Fin 3) : Int16 :=
  (((highByte data axis).toUInt16 <<< 8) ||| (lowByte data axis).toUInt16).toInt16

/-- A reading in degrees per second. -/
def gyroDps (scale : Float32) (bias : Fin 3 → Float32) (data : Fin 6 → UInt8) (axis : Fin 3) :
    Float32 := (rawAxis data axis).toFloat32 / scale - bias axis

/-- The note of a reading. -/
def Sys.noteReading (s : Sys) (value : Fin 3 → Float32) : Sys :=
  { s with readings :=
      ⟨s.registers, s.imu.gyroBiasDps, s.confirmed, s.biasRange, value⟩ :: s.readings }

/-- `mpu9250_read_gyro_dps_status`, with the note of the reading. -/
def mpu9250ReadGyroDpsStatus : Cmd Sys (Option (Fin 3 → Float32) × IoStatus) := do
  match ← readRegsStatus mpu9250GyroXoutH 6 with
  | (none, status) => return (none, status)
  | (some data, status) =>
    let s ← get
    let value := gyroDps s.imu.gyroLsbPerDps s.imu.gyroBiasDps data
    modify (·.noteReading value)
    return (some value, status)

end Imu
