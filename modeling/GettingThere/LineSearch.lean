/-
# Comparing signal strengths (`getting_there/line_search.c`)

A position is measured by two Wi-Fi samples.  A code is the magnitude of a negative dBm value,
so a smaller code is a stronger signal; positions are compared beyond the noise of their
samples.
-/
import GettingThere.WifiSampler

open PackedBits

/-- `line_pair_t`. -/
structure LinePair where
  first : WifiSample
  second : WifiSample
  deriving DecidableEq, Repr

/-- `MIN_PROGRESS_DB`. -/
def minProgressDb : ℕ := 3

namespace LinePair

/-- `valid_pair`. -/
def valid (p : LinePair) : Bool :=
  decide (p.first.code ≠ rssiMissingCode) && decide (p.second.code ≠ rssiMissingCode)

/-- The stronger and the weaker code. -/
def strongest (p : LinePair) : ℕ := min p.first.code p.second.code
def weakest (p : LinePair) : ℕ := max p.first.code p.second.code

/-- The larger range. -/
def spread (p : LinePair) : ℕ := max p.first.spread p.second.spread

end LinePair

/-- `return_margin`. -/
def returnMargin (previous current : WifiSample) : ℕ :=
  max minProgressDb (previous.spread + current.spread + 1)

/-- `line_pair_margin`. -/
def linePairMargin (previous current : LinePair) : ℕ :=
  max minProgressDb (max previous.spread current.spread + 1)

/-- `line_reference`. -/
def lineReference (p : LinePair) : WifiSample :=
  if p.valid then ⟨p.weakest, min 125 (p.spread + (p.weakest - p.strongest))⟩ else .missing

/-- `line_confirmed_gain`: the strongest old batch against the weakest new one. -/
def lineConfirmedGain (previous current : LinePair) : ℤ :=
  if previous.valid && current.valid then (previous.strongest : ℤ) - (current.weakest : ℤ) else 0

/-- `line_compare`. -/
def lineCompare (previous current : LinePair) : ℤ :=
  if !(previous.valid && current.valid) then 0
  else if (linePairMargin previous current : ℤ) ≤ lineConfirmedGain previous current then 1
  else if (linePairMargin previous current : ℤ) ≤ lineConfirmedGain current previous then -1
  else 0

/-- `line_median_reference`: the position of median strength. -/
def lineMedianReference (samples : List LinePair) : LinePair :=
  if samples.all LinePair.valid then
    (samples.insertionSort fun p q => (lineReference p).code ≤ (lineReference q).code).getD 1
      ⟨.missing, .missing⟩
  else ⟨.missing, .missing⟩

/-- `line_reference_declined`. -/
def lineReferenceDeclined (reference current : LinePair) : Bool :=
  reference.valid && current.valid &&
    decide ((linePairMargin reference current : ℤ) < lineConfirmedGain current reference)

/-- `line_return_consistent`. -/
def lineReturnConsistent (best returned : LinePair) : Bool :=
  let reference := lineReference best
  let near (s : WifiSample) : Bool :=
    decide ((s.code : ℤ) - reference.code ≤ returnMargin reference s)
  best.valid && returned.valid &&
    decide (returned.weakest - returned.strongest ≤ returnMargin returned.first returned.second) &&
    near returned.first && near returned.second
