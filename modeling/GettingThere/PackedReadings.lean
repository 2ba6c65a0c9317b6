/-
# The readings as they are packed (`payload_client.c`: `rssi_samples`)

The client keeps twelve readings of seven bits each in eleven bytes, and sorts them in place for
the filter.  `PackedClient` is the client with these bytes, and its functions are the ones of the
source; `unpacked` is the client of `PayloadClient`, whose buffer holds the readings.  The three
functions that touch the bytes agree under it.
-/
import GettingThere.BitArray
import GettingThere.PayloadClient
import GettingThere.TrimmedMean

namespace PayloadClient

open PackedBits TrimmedMean

/-- `RSSI_BITS`. -/
def rssiBits : ℕ := 7

/-- The readings in the bytes. -/
def unpack (samples : Buffer UInt8 11) : Buffer ℕ 12 :=
  ⟨(List.range 12).map fun i => (bitarrayGet samples i rssiBits).toNat, by
    rw [List.length_map, List.length_range]⟩

/-- The end of `advertisement_received`, with the count of close averages: three of them stop the
scan for a connection to the beacon of the report. -/
def Client.confirm (env : Env) (report : Advertisement) (near : ℕ) (c : Client) : Client :=
  let c := { c with closeCount := near }
  if c.closeCount < 3 then c
  else
    (Client.setState env .stoppingForConnect { c with
      closeConfirmed := true
      beaconAddress := report.address
      beaconAddressType := report.addressType }).call .stopScan

/-- The client with `rssi_samples` as it is stored; the buffer of `client` is not used. -/
structure PackedClient where
  client : Client
  samples : Buffer UInt8 11

namespace PackedClient

variable (env : Env)

/-- The client without the packing. -/
def unpacked (p : PackedClient) : Client := { p.client with rssiSamples := unpack p.samples }

/-- `filtered_rssi`: the readings are decoded, sorted by insertion, and the middle ones averaged. -/
def filteredRssi (p : PackedClient) : ℤ :=
  let decoded (i : ℕ) : ℤ := rssiDecode (bitarrayGet p.samples i rssiBits).toNat
  let sorted := sortFrom 1 11 decoded
  let sum := ((List.range' 3 6).map sorted).sum
  (sum - 3).tdiv 6

/-- The part of `advertisement_received` that stores a reading. -/
def push (rssi : ℤ) (p : PackedClient) : PackedClient where
  client := { p.client with
    sampleIndex := (p.client.sampleIndex + 1) % 12 % 16
    sampleCount :=
      if p.client.sampleCount < 12 then (p.client.sampleCount + 1) % 16
      else p.client.sampleCount }
  samples := bitarrayPut p.samples p.client.sampleIndex rssiBits (UInt32.ofNat (rssiEncode rssi))

/-- The part that compares the average. -/
def judge (report : Advertisement) (p : PackedClient) : PackedClient :=
  if p.client.sampleCount < 12 then p
  else
    { p with client := p.client.confirm env report <|
        if p.client.closeRssiDbm ≤ p.filteredRssi then (p.client.closeCount + 1) % 4 else 0 }

/-- `advertisement_received`. -/
def advertisementReceived (report : Advertisement) (p : PackedClient) : PackedClient :=
  let rssi := report.rssi.toInt
  if p.client.abortRequested ∨ targetAdvertisement report = false then p
  else if 0 ≤ rssi ∨ rssi ≤ -127 then p
  else (p.push rssi).judge env report

/-- `start_attempt_callback`, with its `memset`. -/
def startAttemptCallback (p : PackedClient) : PackedClient where
  client := PayloadClient.startAttemptCallback env p.client
  samples := if p.client.abortRequested then p.samples else .filled 11 0

/-- `hci_handler`. -/
def hciHandler (event : Event) (p : PackedClient) : PackedClient :=
  match event with
  | .advertisingReport report =>
    if p.client.bleState = .scanning then p.advertisementReceived env report else p
  | _ => { p with client := PayloadClient.hciHandler env event p.client }

end PackedClient

/-! ## The bytes and the readings -/

theorem getElem?_unpack (samples : Buffer UInt8 11) (i : ℕ) :
    (unpack samples).cells[i]? =
      if i < 12 then some (bitarrayGet samples i rssiBits).toNat else none := by
  unfold unpack
  rw [List.getElem?_map]
  split
  · rename_i hi
    rw [List.getElem?_range hi]
    rfl
  · rename_i hi
    rw [List.getElem?_eq_none (by rw [List.length_range]; omega)]
    rfl

/-- A code that is put is a reading that is replaced. -/
theorem unpack_bitarrayPut (samples : Buffer UInt8 11) {index code : ℕ} (hindex : index < 12)
    (hcode : code < 128) :
    unpack (bitarrayPut samples index rssiBits (UInt32.ofNat code)) =
      (unpack samples).write index [code] := by
  have hroom : (index + 1) * rssiBits ≤ 8 * 11 := by
    unfold rssiBits
    omega
  have hlen : index < (unpack samples).cells.length := by
    rw [(unpack samples).length_cells]
    exact hindex
  apply Buffer.eq_of_cells
  rw [Buffer.cells_write_one _ hindex]
  apply List.ext_getElem?
  intro i
  rw [getElem?_unpack]
  by_cases hi : i = index
  · subst hi
    rw [if_pos hindex, List.getElem?_set_self hlen,
      bitarrayGet_put_self samples _ hroom (by decide)]
    congr 1
    show code % 2 ^ 32 % 2 ^ 7 = code
    omega
  · rw [List.getElem?_set_ne (Ne.symm hi), getElem?_unpack,
      bitarrayGet_put_of_ne samples _ hroom (by decide) hi]

/-- Every code that is stored has seven bits. -/
theorem rssiEncode_lt (dbm : ℤ) : rssiEncode dbm < 128 := by
  unfold rssiEncode rssiMissingCode
  split
  · omega
  · omega

namespace PackedClient

variable (env : Env) {p : PackedClient}

/-- **The loops of the filter compute the mean of the middle readings.** -/
theorem filteredRssi_eq (p : PackedClient) :
    p.filteredRssi = PayloadClient.filteredRssi p.unpacked := by
  unfold filteredRssi PayloadClient.filteredRssi
  dsimp only
  generalize hdecoded : (fun i => rssiDecode (bitarrayGet p.samples i rssiBits).toNat) = decoded
  have hfront : front decoded 12 = p.unpacked.rssiSamples.cells.map rssiDecode := by
    unfold front unpacked unpack
    rw [List.map_map, ← hdecoded]
    rfl
  have hone : (front decoded 1).Pairwise (· ≤ ·) := List.pairwise_singleton _ _
  obtain ⟨hsorted, hperm⟩ := front_sortFrom 11 1 decoded hone
  have hsort := eq_insertionSort hsorted hperm
  rw [hfront] at hsort
  have hmiddle : (List.range' 3 6).map (sortFrom 1 11 decoded) =
      ((front (sortFrom 1 11 decoded) 12).drop 3).take 6 := rfl
  rw [hmiddle, hsort]

/-- The counters are in their ranges. -/
structure Counters (p : PackedClient) : Prop where
  index : p.client.sampleIndex < 12
  count : p.client.sampleCount ≤ 12

theorem Counters.push (h : p.Counters) (rssi : ℤ) : (p.push rssi).Counters where
  index := by
    unfold PackedClient.push
    dsimp only
    omega
  count := by
    have hcount := h.count
    unfold PackedClient.push
    dsimp only
    split
    · omega
    · exact hcount

theorem confirm_counters (env : Env) (report : Advertisement) (near : ℕ) (c : Client) :
    (c.confirm env report near).sampleIndex = c.sampleIndex ∧
      (c.confirm env report near).sampleCount = c.sampleCount := by
  unfold Client.confirm
  dsimp only
  split
  · exact ⟨rfl, rfl⟩
  · exact ⟨rfl, rfl⟩

theorem Counters.judge (h : p.Counters) (report : Advertisement) :
    (p.judge env report).Counters := by
  unfold PackedClient.judge
  split
  · exact h
  · obtain ⟨hindex, hcount⟩ := confirm_counters env report
      (if p.client.closeRssiDbm ≤ p.filteredRssi then (p.client.closeCount + 1) % 4 else 0) p.client
    exact ⟨hindex.trans_lt h.index, hcount.trans_le h.count⟩

/-- A reading is stored. -/
theorem unpacked_push (h : p.Counters) (rssi : ℤ) :
    (p.push rssi).unpacked = { p.unpacked with
      rssiSamples := p.unpacked.rssiSamples.write p.unpacked.sampleIndex [rssiEncode rssi]
      sampleIndex := (p.unpacked.sampleIndex + 1) % 12
      sampleCount := if p.unpacked.sampleCount < 12 then p.unpacked.sampleCount + 1
        else p.unpacked.sampleCount } := by
  have hindex := h.index
  have hput := unpack_bitarrayPut p.samples hindex (rssiEncode_lt rssi)
  have hnext : (p.client.sampleIndex + 1) % 12 % 16 = (p.client.sampleIndex + 1) % 12 := by omega
  have hcounter : (if p.client.sampleCount < 12 then (p.client.sampleCount + 1) % 16
      else p.client.sampleCount) =
      if p.client.sampleCount < 12 then p.client.sampleCount + 1 else p.client.sampleCount := by
    split
    · omega
    · rfl
  unfold unpacked PackedClient.push
  dsimp only
  rw [hput, hnext, hcounter]

end PackedClient

/-- The average is compared, without the packing. -/
def Client.judge (env : Env) (report : Advertisement) (c : Client) : Client :=
  if c.sampleCount < 12 then c
  else
    c.confirm env report <|
      if c.closeRssiDbm ≤ filteredRssi c then (c.closeCount + 1) % 4 else 0

/-- A reading is stored, without the packing. -/
def Client.push (rssi : ℤ) (c : Client) : Client := { c with
  rssiSamples := c.rssiSamples.write c.sampleIndex [rssiEncode rssi]
  sampleIndex := (c.sampleIndex + 1) % 12
  sampleCount := if c.sampleCount < 12 then c.sampleCount + 1 else c.sampleCount }

theorem advertisementReceived_eq (env : Env) (report : Advertisement) (c : Client) :
    advertisementReceived env report c =
      if c.abortRequested ∨ targetAdvertisement report = false then c
      else if 0 ≤ report.rssi.toInt ∨ report.rssi.toInt ≤ -127 then c
      else (c.push report.rssi.toInt).judge env report := rfl

namespace PackedClient

variable (env : Env) {p : PackedClient}

theorem unpacked_confirm (report : Advertisement) (near : ℕ) (p : PackedClient) :
    unpacked { p with client := p.client.confirm env report near } =
      p.unpacked.confirm env report near := by
  unfold unpacked Client.confirm
  dsimp only
  split
  · rfl
  · rfl

theorem unpacked_judge (report : Advertisement) (p : PackedClient) :
    (p.judge env report).unpacked = p.unpacked.judge env report := by
  unfold PackedClient.judge Client.judge
  have hcount : p.unpacked.sampleCount = p.client.sampleCount := rfl
  have hclose : p.unpacked.closeCount = p.client.closeCount := rfl
  have hgate : p.unpacked.closeRssiDbm = p.client.closeRssiDbm := rfl
  rw [hcount, hclose, hgate, filteredRssi_eq]
  split
  · rfl
  · exact unpacked_confirm env report _ p

/-- **`advertisement_received` is the one of the client without the packing.** -/
theorem unpacked_advertisementReceived (h : p.Counters) (report : Advertisement) :
    (p.advertisementReceived env report).unpacked =
      PayloadClient.advertisementReceived env report p.unpacked ∧
    (p.advertisementReceived env report).Counters := by
  have habort : p.unpacked.abortRequested = p.client.abortRequested := rfl
  rw [advertisementReceived_eq, habort]
  unfold advertisementReceived
  dsimp only
  split
  · exact ⟨rfl, h⟩
  · split
    · exact ⟨rfl, h⟩
    · refine ⟨?_, (h.push _).judge env report⟩
      rw [unpacked_judge, unpacked_push h]
      rfl

end PackedClient

end PayloadClient
