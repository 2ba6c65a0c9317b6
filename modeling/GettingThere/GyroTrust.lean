/-
# What a gyro reading means (`getting_there/imu_mpu9250.c`)

The driver scales a reading by its own record of the range, while the chip measures in the range of
its own register.  The two are changed one after the other over a bus that may fail in between, and
the chip may lose its register at any time.

The result: in every run of calls, whatever the bus and the chip do, the record names a supported
range with the scale of that range, and a bias other than zero was measured at it.  A reading taken
after the settings were confirmed (by a successful `mpu9250_init`, `mpu9250_set_gyro_range` or
`mpu9250_verify_config`, the chip undisturbed since) is in the range that the chip is set to.
-/
import GettingThere.CommandTriples
import GettingThere.Imu

open CrashLogic

namespace Imu

/-! ## Runs of calls -/

/-- What the robot does with the driver: a call of one of its functions, or the assignment to the
bias at the two ends of `calibrate_gyro`. -/
inductive Call
  | init (i2c : ℕ)
  | setGyroRange (rangeDps : UInt16)
  | verifyConfig
  | readGyroDps
  | calibrate (bias : Float32)

/-- The note that the settings were confirmed, or that they were not. -/
def Sys.note (s : Sys) (confirmed : Bool) : Sys := { s with confirmed }

/-- A change of the settings: they are confirmed if it succeeds. -/
def settle (change : Cmd Sys Bool) : Cmd Sys Unit := do
  modify (·.note false)
  let ok ← change
  modify (·.note ok)

/-- `imu.gyro_bias_dps[2] = bias`. -/
def Sys.setBias (s : Sys) (bias : Float32) : Sys :=
  { s with
    imu := { s.imu with gyroBiasDps := Function.update s.imu.gyroBiasDps 2 bias }
    biasRange := s.imu.gyroRangeDps }

/-- One call. -/
def perform : Call → Cmd Sys Unit
  | .init i2c => settle (mpu9250Init i2c)
  | .setGyroRange rangeDps => settle (mpu9250SetGyroRange rangeDps)
  | .verifyConfig => do
    let verified ← mpu9250VerifyConfig
    if verified.1 then
      modify (·.note true)
  | .readGyroDps => do
    let _ ← mpu9250ReadGyroDpsStatus
  | .calibrate bias => modify (·.setBias bias)

/-- One call after the other. -/
def performAll : List Call → Cmd Sys Unit
  | [] => pure ()
  | call :: calls => do
    perform call
    performAll calls

/-- A run: `mpu9250_init`, whether it succeeds or not, and any calls after it. -/
def run (i2c : ℕ) (calls : List Call) : Cmd Sys Unit := performAll (.init i2c :: calls)

/-- Before the run: any record, any registers, and no notes. -/
def Sys.start (imu : Mpu9250) (registers : Registers) (transfers : ℕ → Transfer) : Sys where
  imu := imu
  registers := registers
  transfers := transfers
  tick := 0
  confirmed := false
  biasRange := 0
  readings := []

/-! ## Soundness -/

/-- The reading is that of some supported range: its data registers, high byte first, as a signed
number in the scale of that range, less a bias that is zero or was measured at it.  If the settings
were confirmed, it is the range of the chip. -/
def Reading.Sound (r : Reading) : Prop :=
  ∃ range bits scale, rangeSettings range = some (bits, scale) ∧
    (r.confirmed = true → r.registers mpu9250GyroConfig &&& mpu9250GyroRangeMask = bits) ∧
    (r.bias = (fun _ => 0) ∨ r.biasRange = range) ∧
    ∀ axis : Fin 3, ∃ raw : Int16,
      raw.toInt =
        (256 * (r.registers (mpu9250GyroXoutH + UInt8.ofNat (2 * axis))).toNat +
          (r.registers (mpu9250GyroXoutH + UInt8.ofNat (2 * axis + 1))).toNat : ℤ).bmod (2 ^ 16) ∧
      r.gyroDps axis = raw.toFloat32 / scale - r.bias axis

/-- The chip is set to the range of the record. -/
def Sys.RangeSet (s : Sys) : Prop :=
  s.registers mpu9250GyroConfig &&& mpu9250GyroRangeMask = expectedBits s.imu.gyroRangeDps

/-- The invariant of a run. -/
structure Sys.Sound (s : Sys) : Prop where
  /-- the scale is that of the range -/
  supported : rangeSettings s.imu.gyroRangeDps =
    some (expectedBits s.imu.gyroRangeDps, s.imu.gyroLsbPerDps)
  bias : s.imu.gyroBiasDps = (fun _ => 0) ∨ s.biasRange = s.imu.gyroRangeDps
  confirmed : s.confirmed = true → s.RangeSet
  readings : ∀ r ∈ s.readings, r.Sound

/-- Sound while the settings are being changed: nothing is confirmed. -/
def Sys.Open (s : Sys) : Prop := s.Sound ∧ s.confirmed = false

/-- The bits `mpu9250_verify_config` expects are those that `mpu9250_set_gyro_range` sets. -/
theorem expectedBits_eq {range : UInt16} {bits : UInt8} {scale : Float32}
    (h : rangeSettings range = some (bits, scale)) : expectedBits range = bits := by
  unfold rangeSettings at h
  unfold expectedBits
  split_ifs at h with h250 h500 h1000 h2000
  · cases h
    subst h250
    decide
  · cases h
    subst h500
    decide
  · cases h
    subst h1000
    decide
  · cases h
    subst h2000
    decide

/-- Two bytes are one number, high byte first. -/
theorem toNat_word (high low : UInt8) :
    ((high.toUInt16 <<< 8) ||| low.toUInt16).toNat = 256 * high.toNat + low.toNat := by
  have hlow : low.toNat < 2 ^ 8 := low.toNat_lt
  have hhigh : high.toNat < 2 ^ 8 := high.toNat_lt
  have hshift : (high.toUInt16 <<< 8).toNat = high.toNat <<< 8 := by
    rw [UInt16.toNat_shiftLeft, UInt8.toNat_toUInt16]
    simp only [Nat.shiftLeft_eq]
    exact Nat.mod_eq_of_lt (by simp; omega)
  rw [UInt16.toNat_or, hshift, UInt8.toNat_toUInt16, ← Nat.shiftLeft_add_eq_or_of_lt hlow,
    Nat.shiftLeft_eq]
  omega

theorem rawAxis_toInt (data : Fin 6 → UInt8) (axis : Fin 3) :
    (rawAxis data axis).toInt =
      (256 * (highByte data axis).toNat + (lowByte data axis).toNat : ℤ).bmod (2 ^ 16) := by
  rw [rawAxis, Int16.toInt, UInt16.toBitVec_toInt16, BitVec.toInt_eq_toNat_bmod,
    UInt16.toNat_toBitVec, toNat_word, Int.natCast_add, Int.natCast_mul]
  rfl

/-! ## Transfers -/

/-- One system after another, with only transfers that read in between. -/
structure Watches (s t : Sys) : Prop where
  imu : t.imu = s.imu
  biasRange : t.biasRange = s.biasRange
  readings : t.readings = s.readings
  confirmed : t.confirmed = true → s.confirmed = true ∧
    t.registers mpu9250GyroConfig = s.registers mpu9250GyroConfig

/-- A measurement leaves the configuration alone. -/
theorem measured_config (registers sample : Registers) :
    registers.measured sample mpu9250GyroConfig = registers mpu9250GyroConfig := by
  unfold Registers.measured
  exact if_neg (by decide)

theorem atTransfer_watches (s : Sys) (t : Transfer) : Watches s (s.atTransfer t) := by
  refine ⟨rfl, rfl, rfl, fun h => ?_⟩
  obtain ⟨hs, hupset⟩ : s.confirmed = true ∧ t.upset.isNone = true := by
    simpa [Sys.atTransfer] using h
  refine ⟨hs, ?_⟩
  calc (s.atTransfer t).registers mpu9250GyroConfig
      = (t.upset.getD s.registers) mpu9250GyroConfig := measured_config _ t.sample
    _ = s.registers mpu9250GyroConfig := by rw [Option.isNone_iff_eq_none.mp hupset]; rfl

/-- A condition that reading does not touch. -/
def Watched (P : Sys → Prop) : Prop := ∀ s t, Watches s t → P s → P t

/-- The registers from `reg` on. -/
def Sys.data (s : Sys) (reg : UInt8) (length : ℕ) : Fin length → UInt8 :=
  fun k => s.registers (reg + UInt8.ofNat k)

variable {P : Sys → Prop}

theorem transfer_watched (hP : Watched P) : Triple (fun _ => False) P transfer fun _ => P :=
  fun s hs => hP s _ (atTransfer_watches s (s.transfers s.tick)) hs

/-- What was read is in the registers at the end. -/
theorem readRegsStatus_reads (hP : Watched P) (reg : UInt8) (length : ℕ) :
    Triple (fun _ => False) P (readRegsStatus reg length) fun a s =>
      P s ∧ ∀ data, a.1 = some data → data = s.data reg length := by
  refine Triple.bind (transfer_watched hP) fun select => Triple.ite (fun _ => ?_) fun _ => ?_
  · exact Triple.pure _ fun s hs => ⟨hs, by simp⟩
  refine Triple.bind (transfer_watched hP) fun t => Triple.look fun s _ => Triple.pure _ ?_
  rintro _ ⟨hs, rfl⟩
  refine ⟨hs, fun data hdata => ?_⟩
  split_ifs at hdata
  exact (Option.some.inj hdata).symm

theorem readReg_reads (hP : Watched P) (reg : UInt8) :
    Triple (fun _ => False) P (readReg reg) fun a s =>
      P s ∧ ∀ b, a = some b → b = s.registers reg := by
  refine Triple.bind (M := fun a s => P s ∧ ∀ data, a = some data → data = s.data reg 1)
    (Triple.bind (readRegsStatus_reads hP reg 1) fun a => Triple.pure _ fun _ hs => hs)
    fun a => Triple.pure _ ?_
  rintro s ⟨hs, ha⟩
  refine ⟨hs, fun b hb => ?_⟩
  obtain ⟨data, rfl, rfl⟩ := Option.map_eq_some_iff.mp hb
  rw [ha data rfl]
  simp [Sys.data]

/-! ## Changes of the settings -/

theorem Sys.Sound.watched : Watched Sys.Sound := by
  intro s t hst hs
  constructor
  · rw [hst.imu]
    exact hs.supported
  · rw [hst.imu, hst.biasRange]
    exact hs.bias
  · intro ht
    obtain ⟨hconfirmed, hconfig⟩ := hst.confirmed ht
    rw [Sys.RangeSet, hst.imu, hconfig]
    exact hs.confirmed hconfirmed
  · rw [hst.readings]
    exact hs.readings

theorem Sys.Open.watched : Watched Sys.Open := by
  rintro s t hst ⟨hs, hopen⟩
  refine ⟨hs.watched s t hst, ?_⟩
  cases ht : t.confirmed
  · rfl
  · rw [(hst.confirmed ht).1] at hopen
    exact hopen

/-- While nothing is confirmed, the registers do not matter. -/
theorem Sys.Open.registers {s : Sys} (hs : s.Open) (registers : Registers) :
    Sys.Open { s with registers } where
  left :=
    { supported := hs.1.supported
      bias := hs.1.bias
      confirmed := fun h => absurd (hs.2.symm.trans h) (by decide)
      readings := hs.1.readings }
  right := hs.2

theorem writeReg_open (reg value : UInt8) :
    Triple (fun _ => False) Sys.Open (writeReg reg value) fun _ => Sys.Open := by
  refine Triple.bind (transfer_watched Sys.Open.watched) fun t => ?_
  refine Triple.ite (fun _ => ?_) fun _ => Triple.pure _ fun _ hs => hs
  refine Triple.bind (M := fun _ => Sys.Open) ?_ fun _ => Triple.pure _ fun _ hs => hs
  intro s hs
  exact hs.registers _

/-- A verified range keeps the record sound: a bias measured at another range is gone. -/
theorem Sys.Open.setRange {s : Sys} (hs : s.Open) {range : UInt16} {bits : UInt8} {scale : Float32}
    (hrange : rangeSettings range = some (bits, scale)) :
    Sys.Open { s with imu := s.imu.setRange range scale } where
  left :=
    { supported := by
        show rangeSettings range = some (expectedBits range, scale)
        rw [expectedBits_eq hrange, hrange]
      bias := by
        show (if s.imu.gyroRangeDps ≠ range then fun _ => 0 else s.imu.gyroBiasDps) = _ ∨
          s.biasRange = range
        split_ifs with hchanged
        · exact Or.inl rfl
        · rw [← not_not.mp hchanged]
          exact hs.1.bias
      confirmed := fun h => absurd (hs.2.symm.trans h) (by decide)
      readings := hs.1.readings }
  right := hs.2

/-- A change of the range leaves the system sound whether it succeeds or not, and if it does the
chip is set to the range. -/
theorem mpu9250SetGyroRange_open (range : UInt16) :
    Triple (fun _ => False) Sys.Open (mpu9250SetGyroRange range) fun ok s =>
      s.Open ∧ (ok = true → s.RangeSet) := by
  have hfail : Triple (fun _ => False) Sys.Open (pure false : Cmd Sys Bool) fun ok s =>
      s.Open ∧ (ok = true → s.RangeSet) := Triple.pure _ fun _ hs => ⟨hs, by simp⟩
  unfold mpu9250SetGyroRange
  rcases hrange : rangeSettings range with _ | ⟨bits, scale⟩
  · exact hfail
  refine Triple.look fun s _ => Triple.before (fun _ hs => hs.1) (Triple.ite (fun _ => hfail) ?_)
  intro _
  refine Triple.bind (readReg_reads Sys.Open.watched _) fun config =>
    Triple.before (fun _ hs => hs.1) ?_
  rcases config with _ | config
  · exact hfail
  refine Triple.bind (writeReg_open _ _) fun written => Triple.ite (fun _ => hfail) fun _ => ?_
  refine Triple.bind (readReg_reads Sys.Open.watched _) fun verified => ?_
  rcases verified with _ | verified
  · exact Triple.before (fun _ hs => hs.1) hfail
  refine Triple.ite (fun _ => Triple.before (fun _ hs => hs.1) hfail) fun hverified => ?_
  rintro s ⟨hs, hread⟩
  refine ⟨hs.setRange hrange, fun _ => ?_⟩
  show s.registers mpu9250GyroConfig &&& mpu9250GyroRangeMask = expectedBits range
  rw [← hread verified rfl, not_not.mp hverified, expectedBits_eq hrange]

/-- After the record was set up anew, nothing that held before matters: `*imu = ...`. -/
theorem fresh_open {s : Sys} (hs : ∀ r ∈ s.readings, r.Sound) (hconfirmed : s.confirmed = false)
    (i2c : ℕ) : Sys.Open { s with imu := .fresh i2c } where
  left :=
    { supported := rfl
      bias := Or.inl rfl
      confirmed := fun h => absurd (hconfirmed.symm.trans h) (by decide)
      readings := hs }
  right := hconfirmed

/-- `mpu9250_init` needs no sound record to begin with. -/
theorem mpu9250Init_open (i2c : ℕ) :
    Triple (fun _ => False) (fun s => (∀ r ∈ s.readings, r.Sound) ∧ s.confirmed = false)
      (mpu9250Init i2c) fun ok s => s.Open ∧ (ok = true → s.RangeSet) := by
  have hfail : Triple (fun _ => False) Sys.Open (pure false : Cmd Sys Bool) fun ok s =>
      s.Open ∧ (ok = true → s.RangeSet) := Triple.pure _ fun _ hs => ⟨hs, by simp⟩
  refine Triple.bind (M := fun _ => Sys.Open) (fun s hs => fresh_open hs.1 hs.2 i2c) fun _ => ?_
  refine Triple.bind (readReg_reads Sys.Open.watched _) fun id =>
    Triple.before (fun _ hs => hs.1) ?_
  rcases id with _ | id
  · exact hfail
  refine Triple.ite (fun _ => hfail) fun _ => ?_
  refine Triple.bind (writeReg_open _ _) fun awake => Triple.ite (fun _ => hfail) fun _ => ?_
  refine Triple.bind (writeReg_open _ _) fun written => Triple.ite (fun _ => hfail) fun _ => ?_
  refine Triple.bind (mpu9250SetGyroRange_open 250) fun ok => ?_
  refine Triple.ite (fun _ => Triple.before (fun _ hs => hs.1) hfail) fun hok => ?_
  refine Triple.bind (M := fun _ s => s.Open ∧ s.RangeSet) ?_ fun _ =>
    Triple.pure _ fun _ hs => ⟨hs.1, fun _ => hs.2⟩
  rintro s ⟨⟨hs, hconfirmed⟩, hset⟩
  have hok' : ok = true := by simpa using hok
  exact ⟨⟨⟨hs.supported, hs.bias, hs.confirmed, hs.readings⟩, hconfirmed⟩, hset hok'⟩

/-! ## Calls -/

/-- A change of the settings is confirmed when it succeeds. -/
theorem settle_sound {Q : Sys → Prop} {change : Cmd Sys Bool} (hQ : ∀ s, P s → Q (s.note false))
    (h : Triple (fun _ => False) Q change fun ok s => s.Open ∧ (ok = true → s.RangeSet)) :
    Triple (fun _ => False) P (settle change) fun _ => Sys.Sound := by
  refine Triple.bind (M := fun _ => Q) hQ fun _ => Triple.bind h fun ok => ?_
  rintro s ⟨⟨hs, -⟩, hok⟩
  exact ⟨hs.supported, hs.bias, hok, hs.readings⟩

theorem init_sound (i2c : ℕ) :
    Triple (fun _ => False) (fun s => ∀ r ∈ s.readings, r.Sound) (perform (.init i2c)) fun _ =>
      Sys.Sound :=
  settle_sound (fun _ hs => ⟨hs, rfl⟩) (mpu9250Init_open i2c)

/-- A register is read for a comparison; the rest goes on with its content. -/
theorem mpu9250VerifyConfig_sound :
    Triple (fun _ => False) Sys.Sound mpu9250VerifyConfig fun verified s =>
      s.Sound ∧ (verified.1 = true → s.RangeSet) := by
  refine Triple.look fun s₀ _ => ?_
  have hP : Watched fun s => s.Sound ∧ s.imu = s₀.imu := fun s t hst hs =>
    ⟨hs.1.watched s t hst, hst.imu.trans hs.2⟩
  have hfail (status : IoStatus) : Triple (fun _ => False) (fun s => s.Sound ∧ s.imu = s₀.imu)
      (pure (false, status) : Cmd Sys (Bool × IoStatus)) fun verified s =>
        s.Sound ∧ (verified.1 = true → s.RangeSet) := Triple.pure _ fun _ hs => ⟨hs.1, by simp⟩
  refine Triple.before (P := fun s => s.Sound ∧ s.imu = s₀.imu) (fun s hs => ⟨hs.1, by rw [hs.2]⟩)
    ?_
  refine Triple.bind (readRegsStatus_reads hP _ _) fun id => ?_
  rcases id with ⟨_ | id, status⟩
  · exact Triple.before (fun _ hs => hs.1) (hfail status)
  refine Triple.ite (fun _ => Triple.before (fun _ hs => hs.1) (hfail status)) fun _ => ?_
  refine Triple.before (fun _ hs => hs.1) ?_
  refine Triple.bind (readRegsStatus_reads hP _ _) fun power => ?_
  rcases power with ⟨_ | power, status⟩
  · exact Triple.before (fun _ hs => hs.1) (hfail status)
  refine Triple.ite (fun _ => Triple.before (fun _ hs => hs.1) (hfail status)) fun _ => ?_
  refine Triple.before (fun _ hs => hs.1) ?_
  refine Triple.bind (readRegsStatus_reads hP _ _) fun config => ?_
  rcases config with ⟨_ | config, status⟩
  · exact Triple.before (fun _ hs => hs.1) (hfail status)
  refine Triple.pure _ ?_
  rintro s ⟨⟨hs, himu⟩, hread⟩
  refine ⟨hs, fun hverified => ?_⟩
  have hbits := of_decide_eq_true hverified
  rw [hread config rfl, ← himu] at hbits
  simpa [Sys.RangeSet, Sys.data] using hbits

/-- The note of a reading whose data are in the registers. -/
theorem Sys.Sound.noteReading {s : Sys} (hs : s.Sound) :
    Sys.Sound (s.noteReading
      (gyroDps s.imu.gyroLsbPerDps s.imu.gyroBiasDps (s.data mpu9250GyroXoutH 6))) where
  supported := hs.supported
  bias := hs.bias
  confirmed := hs.confirmed
  readings := by
    refine List.forall_mem_cons.mpr ⟨?_, hs.readings⟩
    refine ⟨_, _, _, hs.supported, hs.confirmed, hs.bias, fun axis => ?_⟩
    exact ⟨rawAxis (s.data mpu9250GyroXoutH 6) axis, rawAxis_toInt _ axis, rfl⟩

theorem mpu9250ReadGyroDpsStatus_sound :
    Triple (fun _ => False) Sys.Sound mpu9250ReadGyroDpsStatus fun _ => Sys.Sound := by
  refine Triple.bind (readRegsStatus_reads Sys.Sound.watched _ _) fun data => ?_
  rcases data with ⟨_ | data, status⟩
  · exact Triple.pure _ fun _ hs => hs.1
  refine Triple.look fun s₀ _ => Triple.bind (M := fun _ => Sys.Sound) ?_ fun _ =>
    Triple.pure _ fun _ hs => hs
  rintro s ⟨⟨hs, hdata⟩, rfl⟩
  rw [hdata data rfl]
  exact hs.noteReading

/-- One call keeps the system sound. -/
theorem perform_sound (call : Call) :
    Triple (fun _ => False) Sys.Sound (perform call) fun _ => Sys.Sound := by
  cases call with
  | init i2c => exact Triple.before (fun _ hs => hs.readings) (init_sound i2c)
  | setGyroRange range =>
    refine settle_sound (fun s hs => ?_) (mpu9250SetGyroRange_open range)
    exact ⟨⟨hs.supported, hs.bias, fun h => absurd h (by simp [Sys.note]), hs.readings⟩, rfl⟩
  | verifyConfig =>
    refine Triple.bind mpu9250VerifyConfig_sound fun verified => ?_
    refine Triple.ite (fun hverified => ?_) fun _ => Triple.pure _ fun _ hs => hs.1
    rintro s ⟨hs, hset⟩
    exact ⟨hs.supported, hs.bias, fun _ => hset hverified, hs.readings⟩
  | readGyroDps =>
    exact Triple.bind mpu9250ReadGyroDpsStatus_sound fun _ => Triple.pure _ fun _ hs => hs
  | calibrate bias =>
    intro s hs
    exact ⟨hs.supported, Or.inr rfl, hs.confirmed, hs.readings⟩

theorem performAll_sound (calls : List Call) :
    Triple (fun _ => False) Sys.Sound (performAll calls) fun _ => Sys.Sound := by
  induction calls with
  | nil => exact Triple.pure _ fun _ hs => hs
  | cons call calls ih => exact Triple.bind (perform_sound call) fun _ => ih

/-- In every run the record names a range with the scale of that range, and every reading is one of
a supported range, which is the range of the chip if the settings were confirmed. -/
theorem readings_sound (imu : Mpu9250) (registers : Registers) (transfers : ℕ → Transfer) (i2c : ℕ)
    (calls : List Call) :
    wp (run i2c calls) (fun _ s =>
      (∃ bits, rangeSettings s.imu.gyroRangeDps = some (bits, s.imu.gyroLsbPerDps)) ∧
      ∀ r ∈ s.readings, r.Sound) (fun _ => False) (.start imu registers transfers) := by
  have hrun : Triple (fun _ => False) (fun s => ∀ r ∈ s.readings, r.Sound) (run i2c calls) fun _ =>
      Sys.Sound := Triple.bind (init_sound i2c) fun _ => performAll_sound calls
  refine wp_mono (hrun _ ?_) (fun _ s hs => ⟨⟨_, hs.supported⟩, hs.readings⟩) fun _ h => h
  intro r hr
  exact absurd hr List.not_mem_nil

end Imu
