/-
# RSSI codes (`getting_there/packed_bits.h`)

RSSI is stored as the magnitude of a negative dBm value in seven bits; code 127 marks a
missing reading.
-/
import Mathlib.Data.Int.Order.Basic

namespace PackedBits

/-- `RSSI_MISSING_CODE`. -/
def rssiMissingCode : ℕ := 127

/-- `rssi_encode`. -/
def rssiEncode (dbm : ℤ) : ℕ := if dbm < 0 ∧ -127 < dbm then (-dbm).toNat else rssiMissingCode

/-- `rssi_decode`. -/
def rssiDecode (code : ℕ) : ℤ := -(code : ℤ)

end PackedBits
