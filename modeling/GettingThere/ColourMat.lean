/-
# The colour mat (`colour_mat.c`, `colour_sensor.c`)

Around AP1 lies a mat of rings that get darker towards its centre.  A reading is classified by
its colour ratios, a stop takes three of them (`ColourSensor.check`), and a full turn of
readings gives the direction of the centre (`colourScanEstimate`).
-/
import Mathlib.Data.Int.Order.Basic
import Mathlib.Tactic.Common

/-! ## Zones -/

/-- `colour_reading_t`. -/
structure ColourReading where
  c : ℕ
  r : ℕ
  g : ℕ
  b : ℕ
  deriving DecidableEq, Repr

/-- `colour_zone_t`. -/
inductive Zone
  | unknown
  | floor
  | white
  | ring1
  | ring2
  | ring3
  | ring4
  | ring5
  deriving DecidableEq, Repr

namespace Zone

/-- The value of the enumeration. -/
def value : Zone → ℕ
  | unknown => 0
  | floor => 1
  | white => 2
  | ring1 => 3
  | ring2 => 4
  | ring3 => 5
  | ring4 => 6
  | ring5 => 7

/-- `colour_zone_depth`. -/
def depth (z : Zone) : ℤ := (z.value : ℤ) - 1

/-- `COLOUR_ARRIVAL_ZONE` or darker. -/
def arrival (z : Zone) : Bool := decide (ring4.value ≤ z.value)

/-- The mat: the white edge or any ring. -/
def mat (z : Zone) : Bool := decide (white.value ≤ z.value)

/-- `colour_lighter_mat_zone`. -/
def lighterMat (z : Zone) : Bool := z.mat && !z.arrival

/-- Arrival is on the mat. -/
theorem mat_of_arrival {z : Zone} (h : z.arrival = true) : z.mat = true := by
  cases z <;> first | rfl | cases h

end Zone

/-- `colour_gr_x1000`. -/
def colourGrX1000 (x : ColourReading) : ℕ :=
  if x.r = 0 then 0xFFFF else min 0xFFFF (x.g * 1000 / x.r)

/-- `colour_classify`. -/
def colourClassify (x : ColourReading) : Zone :=
  if x.c < 600 ∨ x.r = 0 then .unknown
  else
    let gr := colourGrX1000 x
    let matBlue := 842 ≤ x.b * 1000 / x.r
    if 968 ≤ gr then if matBlue then .white else .floor
    else if 856 ≤ gr then if 4660 < x.c ∧ matBlue then .ring1 else .floor
    else if 707 ≤ gr then .ring2
    else if 552 ≤ gr then .ring3
    else if 409 ≤ gr then .ring4
    else .ring5

/-! ## A stop -/

/-- The statics of `colour_sensor.c`. -/
structure ColourSensor where
  available : Bool
  lighterMatSeen : Bool
  onMat : Bool
  lastDepth : ℤ
  failedChecks : ℕ
  deriving DecidableEq, Repr

namespace ColourSensor

/-- `colour_arrival_reset`. -/
def reset (s : ColourSensor) : ColourSensor :=
  { s with lighterMatSeen := false, onMat := false, lastDepth := -1, failedChecks := 0 }

/-- `colour_on_mat`. -/
def colourOnMat (s : ColourSensor) : Bool := s.available && s.onMat

/-- `colour_last_depth`. -/
def colourLastDepth (s : ColourSensor) : ℤ := if s.available then s.lastDepth else -1

/-- `colour_note_lighter_mat`. -/
def noteLighterMat (s : ColourSensor) : ColourSensor := { s with lighterMatSeen := true }

/-- The start of `colour_arrival_check`, for a sensor that is available. -/
def startCheck (s : ColourSensor) : ColourSensor := { s with onMat := false, lastDepth := -1 }

/-- `colour_arrival_check` after a failed read; a sensor that fails three times is given up. -/
def failCheck (s : ColourSensor) : ColourSensor :=
  { s with failedChecks := s.failedChecks + 1, available := decide (s.failedChecks + 1 < 3) }

/-- `colour_arrival_check` after its readings: the sensor, and whether the robot has arrived.
One check cannot both introduce and satisfy the lighter ring. -/
def finishCheck (zones : List Zone) (s : ColourSensor) : ColourSensor × Bool :=
  ({ s with
      failedChecks := 0
      lighterMatSeen := s.lighterMatSeen || zones.any Zone.lighterMat
      onMat := s.onMat || zones.any Zone.mat
      lastDepth := (zones.getLast?.map Zone.depth).getD (-1) },
    zones.all Zone.arrival && s.lighterMatSeen)

/-- A check that finds the arrival sees the mat. -/
theorem onMat_finishCheck {zones : List Zone} {s : ColourSensor} (hne : zones ≠ [])
    (h : (s.finishCheck zones).2 = true) : (s.finishCheck zones).1.onMat = true := by
  obtain ⟨z, zs, rfl⟩ := List.exists_cons_of_ne_nil hne
  have hall : (z :: zs).all Zone.arrival = true := (Bool.and_eq_true _ _ ▸ h).1
  have hz : z.arrival = true := List.all_eq_true.mp hall z List.mem_cons_self
  have hany : (z :: zs).any Zone.mat = true :=
    List.any_eq_true.mpr ⟨z, List.mem_cons_self, Zone.mat_of_arrival hz⟩
  show (s.onMat || (z :: zs).any Zone.mat) = true
  rw [hany, Bool.or_true]

end ColourSensor

/-! ## A full turn -/

/-- `colour_scan_result_t`. -/
structure ColourScanResult where
  valid : Bool
  darkestAngle : ℤ
  vectorAngle : ℤ
  depthRange : ℤ
  maxDepth : ℤ
  deriving DecidableEq, Repr

/-- What the first loop of `colour_scan_estimate` keeps. -/
structure DepthRange where
  minDepth : ℤ
  maxDepth : ℤ
  darkestGr : ℕ
  darkestAngle : ℤ

/-- One round of the first loop of `colour_scan_estimate`. -/
def DepthRange.add (d : DepthRange) (x : ℤ × ColourReading) : DepthRange :=
  let depth := (colourClassify x.2).depth
  if depth < 0 then d
  else
    let gr := colourGrX1000 x.2
    let darker := d.maxDepth < depth ∨ (depth = d.maxDepth ∧ gr < d.darkestGr)
    { minDepth := min d.minDepth depth
      maxDepth := if darker then depth else d.maxDepth
      darkestGr := if darker then gr else d.darkestGr
      darkestAngle := if darker then x.1 else d.darkestAngle }

/-- One round of the second loop: each direction weighs as much as it is deeper than the
shallowest. -/
def addVector (minDepth : ℤ) (v : Float32 × Float32) (x : ℤ × ColourReading) : Float32 × Float32 :=
  let depth := (colourClassify x.2).depth
  if depth ≤ minDepth then v
  else
    let weight := (depth - minDepth).toInt32.toFloat32
    let radians := x.1.toInt32.toFloat32 * 3.14159265 / 180
    (v.1 + weight * radians.cos, v.2 + weight * radians.sin)

/-- The angle of a vector in whole degrees, from 0 to 359. -/
def vectorDegrees (v : Float32 × Float32) : ℤ :=
  (Float32.round (v.2.atan2 v.1 * 180 / 3.14159265)).toInt32.toInt % 360

/-- `colour_scan_estimate`. -/
def colourScanEstimate (readings : List (ℤ × ColourReading)) : ColourScanResult :=
  let d := readings.foldl DepthRange.add ⟨7, -1, 0xFFFF, 0⟩
  if d.maxDepth < 0 then ⟨false, 0, 0, 0, 0⟩
  else if d.maxDepth - d.minDepth < 1 then
    ⟨false, d.darkestAngle, 0, d.maxDepth - d.minDepth, d.maxDepth⟩
  else
    ⟨true, d.darkestAngle, vectorDegrees (readings.foldl (addVector d.minDepth) (0, 0)),
      d.maxDepth - d.minDepth, d.maxDepth⟩
