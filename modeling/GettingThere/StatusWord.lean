/-
# The status word of the BLE client (`payload_client.c`)

One word, shared by the main loop and the radio callbacks, holds the state of the attempt, two
results and eleven flags.  Each update masks the interrupts, so that the updates of the two
contexts come one after the other, in any order.

`Fields` are the same fourteen values as separate variables.  `decode` reads them from the word,
and every run of updates on the word is the run on the variables.
-/
import GettingThere.PackedWord
import GettingThere.PayloadClient

namespace StatusWord

open PackedBits
open PayloadClient (BleState PayloadResult)

/-! ## Layout -/

/-- `ST_STATE_SHIFT`, `ST_STATE_BITS`, `ST_RESULT_SHIFT`, `ST_CLOSING_SHIFT`, `ST_RESULT_BITS`. -/
def stateShift : UInt32 := 0
def stateBits : UInt32 := 5
def resultShift : UInt32 := 5
def closingShift : UInt32 := 7
def resultBits : UInt32 := 2

/-- The flags. -/
inductive Flag
  | bluetoothReady
  | attemptRunning
  | abortRequested
  | closeConfirmed
  | scanConfirmed
  | payloadVerified
  | listening
  | serviceFound
  | characteristicFound
  | startupFailed
  | reconnectRequested
  deriving DecidableEq, Repr

/-- The bit of a flag. -/
def Flag.position : Flag → UInt32
  | .bluetoothReady => 9
  | .attemptRunning => 10
  | .abortRequested => 11
  | .closeConfirmed => 12
  | .scanConfirmed => 13
  | .payloadVerified => 14
  | .listening => 15
  | .serviceFound => 16
  | .characteristicFound => 17
  | .startupFailed => 18
  | .reconnectRequested => 19

/-- `F_BLUETOOTH_READY` and the other masks. -/
def Flag.mask (f : Flag) : UInt32 := 1 <<< f.position

/-- The masks of several flags, joined by `|`. -/
def maskOf (flags : List Flag) : UInt32 := flags.foldr (fun f mask => f.mask ||| mask) 0

/-- The enumerators of `ble_state_t`. -/
def stateCode : BleState → UInt32
  | .idle => 0
  | .starting => 1
  | .scanning => 2
  | .stoppingForConnect => 3
  | .connecting => 4
  | .discoverService => 5
  | .discoverCharacteristic => 6
  | .enableNotifications => 7
  | .writeHello => 8
  | .waitHelloAck => 9
  | .writeFileStart => 10
  | .waitFileReady => 11
  | .writeFileData => 12
  | .writeFileEnd => 13
  | .waitFileReceived => 14
  | .writeReplyRequest => 15
  | .waitReplyStart => 16
  | .writeReplyNext => 17
  | .waitReplyPiece => 18
  | .writeComplete => 19
  | .waitCompleteAck => 20
  | .stoppingScan => 21
  | .closing => 22

/-- The enumerators of `payload_result_t`. -/
def resultCode : PayloadResult → UInt32
  | .notClose => 0
  | .retry => 1
  | .complete => 2
  | .fatal => 3

/-! ## Accessors -/

/-- `status` and `phase_started_ms`. -/
structure Statics where
  status : UInt32
  phaseStartedMs : UInt32
  deriving DecidableEq

/-- `current_state`. -/
def currentState (s : Statics) : UInt32 := packedGet s.status stateShift stateBits

/-- `result_get`. -/
def resultGet (shift : UInt32) (s : Statics) : UInt32 := packedGet s.status shift resultBits

/-- `result_put`. -/
def resultPut (shift : UInt32) (result : PayloadResult) (s : Statics) : Statics :=
  { s with status := packedPut s.status shift resultBits (resultCode result) }

/-- `flag`. -/
def flag (mask : UInt32) (s : Statics) : Bool := decide (s.status &&& mask ≠ 0)

/-- `flag_assign`. -/
def flagAssign (mask : UInt32) (value : Bool) (s : Statics) : Statics :=
  { s with status :=
      if value then packedSetBits s.status mask else packedClearBits s.status mask }

/-- `set_state`. -/
def setState (nowMs : UInt32) (state : BleState) (s : Statics) : Statics :=
  let s := { s with phaseStartedMs := nowMs }
  { s with status := packedPut s.status stateShift stateBits (stateCode state) }

/-! ## Updates -/

/-- The two result fields. -/
inductive ResultField
  | result
  | closing
  deriving DecidableEq, Repr

/-- The shift of a result field. -/
def ResultField.shift : ResultField → UInt32
  | .result => resultShift
  | .closing => closingShift

/-- An update of the word. -/
inductive Update
  | setState (nowMs : UInt32) (state : BleState)
  | resultPut (field : ResultField) (result : PayloadResult)
  | flagAssign (flags : List Flag) (value : Bool)

/-- Where an update is made. -/
inductive Context
  | main
  | callback
  deriving DecidableEq, Repr

/-- An update of the word, as one step. -/
def Update.perform : Update → Statics → Statics
  | .setState nowMs state => StatusWord.setState nowMs state
  | .resultPut field result => StatusWord.resultPut field.shift result
  | .flagAssign flags value => StatusWord.flagAssign (maskOf flags) value

/-- A run: the updates of both contexts, in the order in which they happen. -/
def perform (run : List (Context × Update)) (s : Statics) : Statics :=
  run.foldl (fun s step => step.2.perform s) s

/-! ## Separate variables -/

/-- The fields as separate variables. -/
@[ext]
structure Fields where
  state : UInt32
  result : UInt32
  closing : UInt32
  flags : Flag → Bool

/-- The fields of the word. -/
def decode (s : Statics) : Fields where
  state := currentState s
  result := resultGet resultShift s
  closing := resultGet closingShift s
  flags f := flag f.mask s

/-- The same update of the variables. -/
def Update.assign : Update → Fields → Fields
  | .setState _ state, r => { r with state := stateCode state }
  | .resultPut .result result, r => { r with result := resultCode result }
  | .resultPut .closing result, r => { r with closing := resultCode result }
  | .flagAssign flags value, r =>
    { r with flags := fun f => if f ∈ flags then value else r.flags f }

/-- The run on the variables. -/
def assign (run : List (Context × Update)) (r : Fields) : Fields :=
  run.foldl (fun r step => step.2.assign r) r

/-- The fourteen names. -/
inductive Name
  | state
  | result (field : ResultField)
  | flag (f : Flag)
  deriving DecidableEq, Repr

/-- The update names the field. -/
def Update.names : Update → Name → Prop
  | .setState _ _, name => name = .state
  | .resultPut field _, name => name = .result field
  | .flagAssign flags _, name => ∃ f ∈ flags, name = .flag f

/-- The value of a field; the one of a flag is 0 or 1. -/
def Fields.read (r : Fields) : Name → UInt32
  | .state => r.state
  | .result .result => r.result
  | .result .closing => r.closing
  | .flag f => if r.flags f then 1 else 0

/-! ## Bits of the layout -/

theorem proper_state : Proper stateShift stateBits := by decide

theorem proper_result (field : ResultField) : Proper field.shift resultBits := by
  cases field with
  | result => decide
  | closing => decide

theorem Flag.position_lt (f : Flag) : 8 < f.position.toNat ∧ f.position.toNat < 32 := by
  cases f <;> decide

theorem Flag.position_injective {f g : Flag} (h : f.position = g.position) : f = g := by
  cases f <;> cases g <;> first | rfl | (revert h; decide)

/-- The mask of a flag is its bit. -/
theorem Flag.bit_mask (f : Flag) (k : ℕ) : bit f.mask k = decide (k = f.position.toNat) := by
  have hlt := f.position_lt.2
  by_cases hk : k < 32
  · have hone : bit 1 (k - f.position.toNat) = decide (k - f.position.toNat = 0) := by
      show BitVec.getLsbD 1#32 _ = _
      rw [BitVec.getLsbD_one]
      simp
    unfold Flag.mask
    rw [bit_shiftLeft 1 hlt hk, hone, ← Bool.decide_and, decide_eq_decide]
    omega
  · rw [bit_of_le _ (by omega), decide_eq_false (by omega)]

theorem bit_maskOf (flags : List Flag) (k : ℕ) :
    bit (maskOf flags) k = decide (∃ f ∈ flags, k = f.position.toNat) := by
  induction flags with
  | nil =>
    rw [decide_eq_false (by simp)]
    exact bit_zero k
  | cons f flags ih =>
    have hcons : maskOf (f :: flags) = f.mask ||| maskOf flags := rfl
    rw [hcons, bit_or, ih, f.bit_mask, ← Bool.decide_or, decide_eq_decide]
    simp

/-- No flag lies in one of the other fields. -/
theorem bit_maskOf_low (flags : List Flag) {k : ℕ} (hk : k < 9) : bit (maskOf flags) k = false := by
  rw [bit_maskOf, decide_eq_false]
  rintro ⟨f, -, rfl⟩
  have := f.position_lt.1
  omega

/-- A flag is its bit of the word. -/
theorem flag_eq (s : Statics) (f : Flag) : flag f.mask s = bit s.status f.position.toNat := by
  unfold flag
  rw [Bool.eq_iff_iff, decide_eq_true_iff, and_ne_zero_iff]
  constructor
  · rintro ⟨k, -, hword, hmask⟩
    rw [f.bit_mask, decide_eq_true_iff] at hmask
    exact hmask ▸ hword
  · intro hword
    refine ⟨_, f.position_lt.2, hword, ?_⟩
    rw [f.bit_mask, decide_eq_true_iff]

/-- The mask of several flags asks whether one of them is set. -/
theorem flag_maskOf (s : Statics) (flags : List Flag) :
    flag (maskOf flags) s = flags.any fun f => flag f.mask s := by
  unfold flag
  rw [Bool.eq_iff_iff, decide_eq_true_iff, and_ne_zero_iff, List.any_eq_true]
  constructor
  · rintro ⟨k, -, hword, hmask⟩
    rw [bit_maskOf, decide_eq_true_iff] at hmask
    obtain ⟨f, hf, rfl⟩ := hmask
    refine ⟨f, hf, ?_⟩
    show flag f.mask s = true
    rw [flag_eq, hword]
  · rintro ⟨f, hf, hflag⟩
    have hword : flag f.mask s = true := hflag
    rw [flag_eq] at hword
    refine ⟨_, f.position_lt.2, hword, ?_⟩
    rw [bit_maskOf, decide_eq_true_iff]
    exact ⟨f, hf, rfl⟩

/-! ## One update -/

/-- A value put into one of the low fields leaves the flags alone. -/
theorem bit_put_high {shift bits : UInt32} (word value : UInt32) (h : Proper shift bits)
    (hlow : shift.toNat + bits.toNat ≤ 9) (f : Flag) :
    bit (packedPut word shift bits value) f.position.toNat = bit word f.position.toNat := by
  obtain ⟨hhigh, hlt⟩ := f.position_lt
  rw [bit_packedPut word value h hlt, if_neg]
  rintro ⟨-, hend⟩
  omega

/-- Every state fits into its field. -/
theorem stateCode_and (state : BleState) :
    stateCode state &&& fieldMax stateBits = stateCode state := by
  cases state <;> decide

theorem resultCode_and (result : PayloadResult) :
    resultCode result &&& fieldMax resultBits = resultCode result := by
  cases result <;> decide

/-- **A state** is set, and nothing else. -/
theorem decode_setState (s : Statics) (nowMs : UInt32) (state : BleState) :
    decode (setState nowMs state s) = { decode s with state := stateCode state } := by
  have hput : (setState nowMs state s).status =
      packedPut s.status stateShift stateBits (stateCode state) := rfl
  have hresult (field : ResultField) :
      resultGet field.shift (setState nowMs state s) = resultGet field.shift s := by
    unfold resultGet
    rw [hput]
    apply packedGet_put_of_disjoint _ _ proper_state (proper_result field)
    cases field with
    | result => decide
    | closing => decide
  refine Fields.ext ?_ ?_ ?_ (funext fun f => ?_)
  · show currentState (setState nowMs state s) = stateCode state
    unfold currentState
    rw [hput, packedGet_put_self _ _ proper_state, stateCode_and]
  · exact hresult .result
  · exact hresult .closing
  · show flag f.mask (setState nowMs state s) = flag f.mask s
    rw [flag_eq, flag_eq, hput]
    exact bit_put_high _ _ proper_state (by decide) f

/-- **A result** is put into its field, and nothing else. -/
theorem decode_resultPut (s : Statics) (field : ResultField) (result : PayloadResult) :
    decode (resultPut field.shift result s) =
      (Update.resultPut field result).assign (decode s) := by
  have hput : (resultPut field.shift result s).status =
      packedPut s.status field.shift resultBits (resultCode result) := rfl
  have hself : resultGet field.shift (resultPut field.shift result s) = resultCode result := by
    unfold resultGet
    rw [hput, packedGet_put_self _ _ (proper_result field), resultCode_and]
  have hstate : currentState (resultPut field.shift result s) = currentState s := by
    unfold currentState
    rw [hput]
    apply packedGet_put_of_disjoint _ _ (proper_result field) proper_state
    cases field with
    | result => decide
    | closing => decide
  have hflags (f : Flag) : flag f.mask (resultPut field.shift result s) = flag f.mask s := by
    rw [flag_eq, flag_eq, hput]
    apply bit_put_high _ _ (proper_result field)
    cases field with
    | result => decide
    | closing => decide
  have hother (other : ResultField) (hne : other ≠ field) :
      resultGet other.shift (resultPut field.shift result s) = resultGet other.shift s := by
    unfold resultGet
    rw [hput]
    apply packedGet_put_of_disjoint _ _ (proper_result field) (proper_result other)
    cases field with
    | result =>
      cases other with
      | result => exact absurd rfl hne
      | closing => decide
    | closing =>
      cases other with
      | result => decide
      | closing => exact absurd rfl hne
  cases field with
  | result => exact Fields.ext hstate hself (hother .closing (by decide)) (funext hflags)
  | closing => exact Fields.ext hstate (hother .result (by decide)) hself (funext hflags)

/-- A bit after `flag_assign`. -/
theorem bit_flagAssign (s : Statics) (mask : UInt32) (value : Bool) {k : ℕ} (hk : k < 32) :
    bit (flagAssign mask value s).status k = if bit mask k then value else bit s.status k := by
  cases value with
  | false =>
    show bit (packedClearBits s.status mask) k = _
    rw [bit_packedClearBits s.status mask hk]
    cases bit mask k <;> simp
  | true =>
    show bit (packedSetBits s.status mask) k = _
    rw [bit_packedSetBits]
    cases bit mask k <;> simp

/-- **Flags** are assigned, and nothing else. -/
theorem decode_flagAssign (s : Statics) (flags : List Flag) (value : Bool) :
    decode (flagAssign (maskOf flags) value s) =
      (Update.flagAssign flags value).assign (decode s) := by
  have hfield (shift bits : UInt32) (h : Proper shift bits) (hlow : shift.toNat + bits.toNat ≤ 9) :
      packedGet (flagAssign (maskOf flags) value s).status shift bits =
        packedGet s.status shift bits := by
    apply packedGet_congr h
    intro k hk hin
    have hbelow : k < 9 := Nat.lt_of_lt_of_le hin.2 hlow
    rw [bit_flagAssign s _ value hk, bit_maskOf_low flags hbelow]
    rfl
  refine Fields.ext ?_ ?_ ?_ (funext fun f => ?_)
  · exact hfield stateShift stateBits proper_state (by decide)
  · exact hfield resultShift resultBits (proper_result .result) (by decide)
  · exact hfield closingShift resultBits (proper_result .closing) (by decide)
  · show flag f.mask (flagAssign (maskOf flags) value s) =
      if f ∈ flags then value else flag f.mask s
    rw [flag_eq, flag_eq, bit_flagAssign s _ value f.position_lt.2, bit_maskOf]
    have hmem : (∃ g ∈ flags, f.position.toNat = g.position.toNat) ↔ f ∈ flags := by
      constructor
      · rintro ⟨g, hg, hposition⟩
        rw [Flag.position_injective (UInt32.toNat_inj.mp hposition)]
        exact hg
      · exact fun hf => ⟨f, hf, rfl⟩
    rw [decide_eq_decide.mpr hmem]
    by_cases hf : f ∈ flags
    · rw [decide_eq_true hf, if_pos rfl, if_pos hf]
    · rw [decide_eq_false hf, if_neg Bool.false_ne_true, if_neg hf]

/-- **One update** of the word is the update of the variables. -/
theorem decode_perform_update (s : Statics) (u : Update) :
    decode (u.perform s) = u.assign (decode s) := by
  cases u with
  | setState nowMs state => exact decode_setState s nowMs state
  | resultPut field result => exact decode_resultPut s field result
  | flagAssign flags value => exact decode_flagAssign s flags value

/-! ## Runs -/

theorem decode_perform (run : List (Context × Update)) (s : Statics) :
    decode (perform run s) = assign run (decode s) := by
  induction run generalizing s with
  | nil => rfl
  | cons step run ih =>
    have hstep := ih (step.2.perform s)
    rw [decode_perform_update] at hstep
    exact hstep

/-- An assignment leaves the variables alone that it does not name. -/
theorem read_assign (u : Update) (r : Fields) {name : Name} (h : ¬ u.names name) :
    (u.assign r).read name = r.read name := by
  cases u with
  | setState nowMs state =>
    cases name with
    | state => exact absurd rfl h
    | result field => cases field <;> rfl
    | flag f => rfl
  | resultPut field result =>
    cases name with
    | state => cases field <;> rfl
    | result other =>
      have hne : other ≠ field := fun heq => h (congrArg Name.result heq)
      cases field <;> cases other <;> first | rfl | exact absurd rfl hne
    | flag f => cases field <;> rfl
  | flagAssign flags value =>
    cases name with
    | state => rfl
    | result field => cases field <;> rfl
    | flag f =>
      have hnot : f ∉ flags := fun hf => h ⟨f, hf, rfl⟩
      show (if (if f ∈ flags then value else r.flags f) then (1 : UInt32) else 0) = _
      rw [if_neg hnot]
      rfl

theorem stateCode_injective : Function.Injective stateCode := by
  intro a b h
  cases a <;> cases b <;> first | rfl | (revert h; decide)

theorem resultCode_injective : Function.Injective resultCode := by
  intro a b h
  cases a <;> cases b <;> first | rfl | (revert h; decide)

/-- **The status word is a record of independent fields.**  From any word, after any updates by
the main loop and the callbacks in any order, the fields of the word are the variables after the
same updates; an update leaves every field it does not name as it was; the states and results
that were used come back unchanged; and a mask of several flags asks for one of them. -/
theorem status_refines (s : Statics) :
    (∀ run : List (Context × Update), decode (perform run s) = assign run (decode s)) ∧
    (∀ (u : Update) (name : Name), ¬ u.names name →
      (decode (u.perform s)).read name = (decode s).read name) ∧
    (∀ nowMs state, currentState (setState nowMs state s) = stateCode state) ∧
    (∀ field result, resultGet (ResultField.shift field) (resultPut field.shift result s) =
      resultCode result) ∧
    Function.Injective stateCode ∧ Function.Injective resultCode ∧
    ∀ flags, flag (maskOf flags) s = flags.any (decode s).flags := by
  refine ⟨fun run => decode_perform run s, ?_, ?_, ?_, stateCode_injective, resultCode_injective,
    flag_maskOf s⟩
  · intro u name hname
    rw [decode_perform_update]
    exact read_assign u (decode s) hname
  · intro nowMs state
    exact congrArg Fields.state (decode_setState s nowMs state)
  · intro field result
    have hput := decode_resultPut s field result
    cases field with
    | result => exact congrArg Fields.result hput
    | closing => exact congrArg Fields.closing hput

end StatusWord
