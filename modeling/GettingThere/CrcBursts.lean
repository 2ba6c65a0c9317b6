/-
# The CRC of files and pages (`transfer_crc32`, `crc_bytes`)

The CRC-32 is the remainder of a division of polynomials over the field of two elements; data
and registers are read with the least significant bit first (`reflectedCrc32`).  Both loops of
the firmware compute it, for data of any length.

So data that was changed only inside a window of 32 bits does not pass its check: a reply at the
client, a file at the beacon, and the text of a page at the replay.
-/
import GettingThere.BeaconServer
import GettingThere.CyclicCode
import GettingThere.LogPages
import GettingThere.PayloadClient

open CyclicCode Polynomial

namespace Crc

/-! ## Words and data as polynomials -/

/-- The bits of a word and of a byte, the least significant one first. -/
def wordBits (w : UInt32) : List Bool := (List.range 32).map w.toBitVec.getLsbD
def byteBits (b : UInt8) : List Bool := (List.range 8).map b.toBitVec.getLsbD

/-- The bits of data, in the order of the CRC. -/
def dataBits (data : Bytes) : List Bool := data.flatMap byteBits

/-- The CRC-32 polynomial. -/
noncomputable def crc32Poly : F2[X] :=
  X ^ 32 + X ^ 26 + X ^ 23 + X ^ 22 + X ^ 16 + X ^ 12 + X ^ 11 + X ^ 10 + X ^ 8 + X ^ 7 + X ^ 5 +
    X ^ 4 + X ^ 2 + X + 1

/-- The word whose bits, the least significant one first, are the coefficients below `X ^ 32`. -/
noncomputable def wordOf (p : F2[X]) : UInt32 :=
  ⟨(BitVec.ofBoolListLE ((List.range 32).map fun i => decide (p.coeff (31 - i) = 1))).setWidth 32⟩

/-- **The reflected CRC-32** of data, from a register: the remainder of the data behind the
register, shifted by 32. -/
noncomputable def reflectedCrc32 (init : UInt32) (data : Bytes) : UInt32 :=
  wordOf
    ((poly (wordBits init) * X ^ (8 * data.length) + poly (dataBits data) * X ^ 32) %ₘ crc32Poly)

/-- A word has 32 bits. -/
@[simp] theorem length_wordBits (w : UInt32) : (wordBits w).length = 32 := by
  unfold wordBits
  rw [List.length_map, List.length_range]

/-- A byte has eight. -/
@[simp] theorem length_byteBits (b : UInt8) : (byteBits b).length = 8 := by
  unfold byteBits
  rw [List.length_map, List.length_range]

/-- Data has eight for each byte. -/
@[simp] theorem length_dataBits (data : Bytes) : (dataBits data).length = 8 * data.length := by
  unfold dataBits
  rw [List.length_flatMap]
  simp [Nat.mul_comm]

/-- The bits of a word are read from the least significant one. -/
theorem getElem_wordBits (w : UInt32) {i : ℕ} (h : i < (wordBits w).length) :
    (wordBits w)[i] = w.toBitVec.getLsbD i := by
  simp [wordBits]

/-- A word is read back from its polynomial. -/
theorem wordOf_poly (w : UInt32) : wordOf (poly (wordBits w)) = w := by
  have hbits : ((List.range 32).map fun i => decide ((poly (wordBits w)).coeff (31 - i) = 1)) =
      wordBits w := by
    apply List.ext_getElem (by simp)
    intro i hi hi'
    have hcoeff := coeff_poly hi'
    rw [length_wordBits] at hcoeff
    rw [List.getElem_map, List.getElem_range, hcoeff]
    cases (wordBits w)[i] <;> decide
  unfold wordOf
  rw [hbits]
  refine UInt32.toBitVec_inj.mp (BitVec.eq_of_getLsbD_eq ?_)
  intro i hi
  show (BitVec.setWidth 32 (BitVec.ofBoolListLE (wordBits w))).getLsbD i = _
  have hlen : i < (wordBits w).length := by
    rw [length_wordBits]
    exact hi
  rw [BitVec.getLsbD_setWidth, BitVec.getLsbD_ofBoolListLE, List.getD_eq_getElem?_getD,
    List.getElem?_eq_getElem hlen, Option.getD_some, getElem_wordBits, decide_eq_true hi,
    Bool.true_and]

/-- The bits of an exclusive or are those of both words, one by one. -/
theorem wordBits_xor (v w : UInt32) :
    wordBits (v ^^^ w) = List.zipWith xor (wordBits v) (wordBits w) := by
  unfold wordBits
  rw [List.zipWith_map, List.zipWith_self]
  apply List.map_congr_left
  intro i _
  rw [UInt32.toBitVec_xor, BitVec.getLsbD_xor]

/-- A byte in the low part of a word. -/
theorem wordBits_toUInt32 (b : UInt8) :
    wordBits b.toUInt32 = byteBits b ++ List.replicate 24 false := by
  unfold wordBits byteBits
  apply List.ext_getElem (by simp)
  intro i hi _
  rw [List.length_map, List.length_range] at hi
  rw [List.getElem_map, List.getElem_range, UInt8.toBitVec_toUInt32, BitVec.getLsbD_setWidth]
  rw [List.getElem_append]
  split
  · rename_i hlow
    rw [List.getElem_map, List.getElem_range]
    simp [hi]
  · rename_i hhigh
    rw [List.length_map, List.length_range] at hhigh
    rw [List.getElem_replicate, BitVec.getLsbD_of_ge _ _ (by omega), Bool.and_false]

/-- The polynomial is the one in the constant of the loops, the leading coefficient apart. -/
theorem crc32Poly_eq : crc32Poly = generator (wordBits 0xEDB88320) := by
  have hbits : wordBits 0xEDB88320 =
      [false, false, false, false, false, true, false, false, true, true, false, false, false,
        false, false, true, false, false, false, true, true, true, false, true, true, false, true,
        true, false, true, true, true] := by decide
  unfold generator crc32Poly
  rw [length_wordBits, hbits]
  simp [poly_cons, bit]
  ring

/-! ## The loops -/

/-- A shift moves the bits down, and clears the highest one. -/
theorem wordBits_shift (w : UInt32) :
    wordBits w = w.toBitVec.getLsbD 0 :: (List.range 31).map (fun i => w.toBitVec.getLsbD (i + 1)) ∧
      wordBits (w >>> 1) =
        (List.range 31).map (fun i => w.toBitVec.getLsbD (i + 1)) ++ [false] := by
  constructor
  · unfold wordBits
    rw [List.range_succ_eq_map, List.map_cons, List.map_map]
    rfl
  · unfold wordBits
    rw [List.range_succ, List.map_append]
    have hlast : (w >>> 1).toBitVec.getLsbD 31 = false := by
      rw [UInt32.toBitVec_shiftRight]
      show (w.toBitVec >>> 1).getLsbD 31 = false
      rw [BitVec.getLsbD_ushiftRight]
      exact BitVec.getLsbD_of_ge _ _ (by decide)
    refine congrArg₂ (· ++ ·) (List.map_congr_left fun i _ => ?_) ?_
    · rw [UInt32.toBitVec_shiftRight]
      show (w.toBitVec >>> 1).getLsbD i = _
      rw [BitVec.getLsbD_ushiftRight, Nat.add_comm]
    · rw [List.map_singleton, hlast]

/-- The mask of the loops is all ones when the lowest bit is set. -/
theorem mask_eq (w : UInt32) :
    0 - (w &&& 1) = if w.toBitVec.getLsbD 0 then 0xFFFFFFFF else 0 := by
  apply UInt32.toBitVec_inj.mp
  rw [UInt32.toBitVec_sub, UInt32.toBitVec_and]
  show 0 - (w.toBitVec &&& 1#32) = _
  rw [BitVec.and_one_eq_setWidth_ofBool_getLsbD]
  cases w.toBitVec.getLsbD 0 <;> decide

/-- **One bit of the loop** is a step of the register. -/
theorem wordBits_crcStep (w : UInt32) :
    wordBits (ReportStore.crcStep w) = shiftOut (wordBits 0xEDB88320) (wordBits w) := by
  obtain ⟨hbits, hshift⟩ := wordBits_shift w
  unfold ReportStore.crcStep
  rw [mask_eq, hbits]
  cases w.toBitVec.getLsbD 0 with
  | false =>
    rw [if_neg Bool.false_ne_true, shiftOut_false, ← hshift]
    simp
  | true =>
    have hmask : (0xEDB88320 &&& 0xFFFFFFFF : UInt32) = 0xEDB88320 := by decide
    rw [if_pos rfl, shiftOut_true, ← hshift, ← wordBits_xor, hmask]

/-- The ring of remainders. -/
noncomputable def remainder : F2[X] →+* AdjoinRoot crc32Poly := AdjoinRoot.mk crc32Poly

/-- **One step** multiplies the register by `X` and divides. -/
theorem remainder_crcStep (w : UInt32) :
    remainder (poly (wordBits (ReportStore.crcStep w))) = remainder (poly (wordBits w) * X) := by
  have hstep := mk_shiftOut ((length_wordBits w).trans (length_wordBits 0xEDB88320).symm)
  rw [← crc32Poly_eq, ← wordBits_crcStep] at hstep
  exact hstep

/-- By induction `n` steps multiply it by `X ^ n`. -/
theorem remainder_iterate (n : ℕ) (w : UInt32) :
    remainder (poly (wordBits (ReportStore.crcStep^[n] w))) =
      remainder (poly (wordBits w) * X ^ n) := by
  induction n generalizing w with
  | zero => rw [Function.iterate_zero, id_eq, pow_zero, mul_one]
  | succ n ih =>
    rw [Function.iterate_succ_apply, ih, map_mul, remainder_crcStep, ← map_mul, pow_succ]
    exact congrArg remainder (by ring)

/-- One byte of the loop. -/
theorem remainder_byte (crc : UInt32) (b : UInt8) :
    remainder (poly (wordBits (ReportStore.crcStep^[8] (crc ^^^ b.toUInt32)))) =
      remainder (poly (wordBits crc) * X ^ 8 + poly (byteBits b) * X ^ 32) := by
  rw [remainder_iterate, wordBits_xor, poly_zipWith (by simp), wordBits_toUInt32, poly_append,
    poly_replicate_false, List.length_replicate]
  exact congrArg remainder (by ring)

/-- **The loop computes the remainder.** -/
theorem remainder_crcBytes (crc : UInt32) (data : Bytes) :
    remainder (poly (wordBits (ReportStore.crcBytes crc data))) =
      remainder (poly (wordBits crc) * X ^ (8 * data.length) + poly (dataBits data) * X ^ 32) := by
  induction data generalizing crc with
  | nil =>
    show remainder (poly (wordBits crc)) = _
    simp [dataBits]
  | cons b data ih =>
    have hbits : dataBits (b :: data) = byteBits b ++ dataBits data := List.flatMap_cons
    have hstep : ReportStore.crcBytes crc (b :: data) =
        ReportStore.crcBytes (ReportStore.crcStep^[8] (crc ^^^ b.toUInt32)) data := rfl
    rw [hstep, ih, map_add, map_mul, remainder_byte, ← map_mul, ← map_add, hbits, poly_append,
      length_dataBits, List.length_cons]
    exact congrArg remainder (by ring)

/-! ## The loops and the division -/

/-- The CRC-32 polynomial is monic. -/
theorem monic_crc32Poly : crc32Poly.Monic := by
  rw [crc32Poly_eq]
  exact monic_generator _

/-- The CRC-32 polynomial has degree 32. -/
theorem degree_crc32Poly : crc32Poly.degree = 32 := by
  rw [crc32Poly_eq, degree_generator, length_wordBits]
  rfl

/-- The CRC-32 polynomial is not a multiple of `X`. -/
theorem coeff_zero_crc32Poly : crc32Poly.coeff 0 ≠ 0 := by
  unfold crc32Poly
  simp

/-- **The loop is the division**: the register is the remainder. -/
theorem crcBytes_eq (crc : UInt32) (data : Bytes) :
    ReportStore.crcBytes crc data = reflectedCrc32 crc data := by
  have hdvd := AdjoinRoot.mk_eq_mk.mp (remainder_crcBytes crc data)
  have hsmall : poly (wordBits (ReportStore.crcBytes crc data)) %ₘ crc32Poly =
      poly (wordBits (ReportStore.crcBytes crc data)) := by
    rw [modByMonic_eq_self_iff monic_crc32Poly, degree_crc32Poly]
    have hdegree := degree_poly_lt (wordBits (ReportStore.crcBytes crc data))
    rwa [length_wordBits] at hdegree
  unfold reflectedCrc32
  rw [← modByMonic_eq_of_dvd_sub monic_crc32Poly hdvd, hsmall, wordOf_poly]

/-- Data can be given to the loop in pieces. -/
theorem crcBytes_append (crc : UInt32) (x y : Bytes) :
    ReportStore.crcBytes (ReportStore.crcBytes crc x) y = ReportStore.crcBytes crc (x ++ y) :=
  List.foldl_append.symm

/-- The mask that is made with a signed negation. -/
theorem signedMask_eq (crc : UInt32) :
    (-(crc &&& 1).toInt32).toUInt32 = 0 - (crc &&& 1) := by
  apply UInt32.toBitVec_inj.mp
  rw [UInt32.toBitVec_sub]
  exact (BitVec.zero_sub _).symm

/-- Both loops of the firmware make the same step. -/
theorem crcBit_eq (crc : UInt32) : TransferProtocol.crcBit crc = ReportStore.crcStep crc := by
  unfold TransferProtocol.crcBit ReportStore.crcStep
  rw [signedMask_eq]

/-- The two loops agree. -/
theorem transferCrc32_eq (data : Bytes) :
    TransferProtocol.transferCrc32 data = ~~~ ReportStore.crcBytes 0xFFFFFFFF data := by
  have hbit : TransferProtocol.crcBit = ReportStore.crcStep := funext crcBit_eq
  unfold TransferProtocol.transferCrc32 ReportStore.crcBytes TransferProtocol.crcByte
  rw [hbit]

/-! ## Bursts -/

/-- The data was changed, but only inside a window of 32 bits. -/
structure Corrupted (x y : Bytes) : Prop where
  length : x.length = y.length
  differ : x ≠ y
  window : ∃ k, ∀ i, i < k ∨ k + 32 ≤ i → (dataBits x)[i]? = (dataBits y)[i]?

/-- A byte is known by its bits. -/
theorem byteBits_injective : Function.Injective byteBits := by
  intro a b h
  refine UInt8.toBitVec_inj.mp (BitVec.eq_of_getLsbD_eq ?_)
  intro i hi
  have hbit : (byteBits a)[i]? = (byteBits b)[i]? := by rw [h]
  unfold byteBits at hbit
  rw [List.getElem?_map, List.getElem?_map, List.getElem?_range hi] at hbit
  exact Option.some.inj hbit

/-- Data is known by its bits. -/
theorem dataBits_injective : Function.Injective dataBits := by
  intro x
  induction x with
  | nil =>
    intro y h
    have hlen := congrArg List.length h
    rw [length_dataBits, length_dataBits, List.length_nil] at hlen
    exact (List.eq_nil_of_length_eq_zero (by omega)).symm
  | cons a x ih =>
    intro y h
    cases y with
    | nil =>
      have hlen := congrArg List.length h
      rw [length_dataBits, length_dataBits, List.length_nil, List.length_cons] at hlen
      omega
    | cons b y =>
      have hbits : byteBits a ++ dataBits x = byteBits b ++ dataBits y := h
      obtain ⟨hhead, htail⟩ := List.append_inj hbits (by simp)
      rw [byteBits_injective hhead, ih htail]

/-- Data changed inside the window is a burst of 32 bits. -/
theorem Corrupted.burst {x y : Bytes} (h : Corrupted x y) :
    Burst 32 (dataBits x) (dataBits y) where
  length := by rw [length_dataBits, length_dataBits, h.length]
  differ := fun heq => h.differ (dataBits_injective heq)
  window := h.window

/-- **A burst changes the register.** -/
theorem crcBytes_ne {x y : Bytes} (h : Corrupted x y) (crc : UInt32) :
    ReportStore.crcBytes crc x ≠ ReportStore.crcBytes crc y := by
  intro heq
  have hx := remainder_crcBytes crc x
  rw [heq, remainder_crcBytes crc y, h.length] at hx
  have hdvd := AdjoinRoot.mk_eq_mk.mp hx.symm
  rw [add_sub_add_left_eq_sub, ← sub_mul] at hdvd
  have hcoprime : IsCoprime crc32Poly (X ^ 32) := by
    refine IsCoprime.pow_right (IsCoprime.symm ?_)
    exact irreducible_X.coprime_iff_not_dvd.mpr fun hX => coeff_zero_crc32Poly (X_dvd_iff.mp hX)
  have hdegree : ((32 : ℕ) : WithBot ℕ) ≤ crc32Poly.degree := by
    rw [degree_crc32Poly]
    rfl
  exact not_dvd_burst coeff_zero_crc32Poly hdegree h.burst (hcoprime.dvd_of_dvd_mul_right hdvd)

/-- **Corrupted data has another CRC.** -/
theorem transferCrc32_ne {x y : Bytes} (h : Corrupted x y) :
    TransferProtocol.transferCrc32 x ≠ TransferProtocol.transferCrc32 y := by
  rw [transferCrc32_eq, transferCrc32_eq]
  exact fun heq => crcBytes_ne h _ (UInt32.not_inj.mp heq)

/-- A reply with a burst in it does not pass the checks of `MSG_REPLY_END`. -/
theorem replyVerified_burst {c : PayloadClient.Client} {reply : Bytes}
    (hcrc : c.replyCrc = TransferProtocol.transferCrc32 reply)
    (h : Corrupted reply (c.replyFile.prefixOf c.replyLength)) (value : Bytes) :
    PayloadClient.replyVerified value c = false := by
  have hne := transferCrc32_ne h
  rw [← hcrc] at hne
  unfold PayloadClient.replyVerified
  exact decide_eq_false fun hall => hne hall.2.2.1.symm

/-- A file with a burst in it does not pass the check of the beacon. -/
theorem fileVerified_burst {b : BeaconServer.Beacon} {file : Bytes}
    (hcrc : b.expectedFileCrc = TransferProtocol.transferCrc32 file)
    (h : Corrupted file (b.receivedFile.prefixOf b.receivedFileLength)) :
    BeaconServer.fileVerified b = false := by
  have hne := transferCrc32_ne h
  rw [← hcrc] at hne
  unfold BeaconServer.fileVerified
  exact decide_eq_false fun hall => hne hall.2.symm

/-- A page with a burst in its text does not pass the check of the replay. -/
theorem not_valid_burst {i : ℕ} {p q : ReportStore.LogPage} (hp : ReportStore.Valid i p)
    (hheader : q.header = p.header) (hcrc : q.crc = p.crc) (h : Corrupted p.text q.text) :
    ¬ ReportStore.Valid i q := by
  intro hq
  have hsame : ReportStore.pageCrc p = ReportStore.pageCrc q :=
    (hp.2.2.symm.trans hcrc.symm).trans hq.2.2
  unfold ReportStore.pageCrc at hsame
  rw [hheader] at hsame
  exact crcBytes_ne h _ (UInt32.not_inj.mp hsame)

/-- **The CRC of the firmware.**  The loop over pages takes data in pieces, the loop over files is
the same one, and both are the division.  Data with a burst of at most 32 bits in it has another
CRC, so it is refused. -/
theorem crc_correct :
    (∀ (crc : UInt32) (x y : Bytes),
      ReportStore.crcBytes (ReportStore.crcBytes crc x) y = ReportStore.crcBytes crc (x ++ y)) ∧
    (∀ x : Bytes, TransferProtocol.transferCrc32 x = ~~~ ReportStore.crcBytes 0xFFFFFFFF x) ∧
    (∀ (crc : UInt32) (x : Bytes), ReportStore.crcBytes crc x = reflectedCrc32 crc x) ∧
    (∀ x : Bytes, TransferProtocol.transferCrc32 x = ~~~ reflectedCrc32 0xFFFFFFFF x) ∧
    (∀ x y : Bytes, Corrupted x y →
      TransferProtocol.transferCrc32 x ≠ TransferProtocol.transferCrc32 y) ∧
    (∀ (c : PayloadClient.Client) (reply value : Bytes),
      c.replyCrc = TransferProtocol.transferCrc32 reply →
      Corrupted reply (c.replyFile.prefixOf c.replyLength) →
      PayloadClient.replyVerified value c = false) ∧
    (∀ (b : BeaconServer.Beacon) (file : Bytes),
      b.expectedFileCrc = TransferProtocol.transferCrc32 file →
      Corrupted file (b.receivedFile.prefixOf b.receivedFileLength) →
      BeaconServer.fileVerified b = false) ∧
    (∀ (i : ℕ) (p q : ReportStore.LogPage), ReportStore.Valid i p → q.header = p.header →
      q.crc = p.crc → Corrupted p.text q.text → ¬ ReportStore.Valid i q) := by
  refine ⟨crcBytes_append, transferCrc32_eq, crcBytes_eq, fun x => ?_, ?_, ?_, ?_, ?_⟩
  · rw [transferCrc32_eq, crcBytes_eq]
  · intro x y h
    exact transferCrc32_ne h
  · intro c reply value hcrc h
    exact replyVerified_burst hcrc h value
  · intro b file hcrc h
    exact fileVerified_burst hcrc h
  · intro i p q hp hheader hcrc h
    exact not_valid_burst hp hheader hcrc h

end Crc
