/-
# What replay finds on a flash

* `Log pieces flash n` : the flash holds a start page, a data page for each of `pieces` and
  erased pages from page `n` on; replay emits `pieces` (`savedRun_log`).
* A damaged page ends the replay where it stands (`savedRun_damagedPage`), and an end page
  makes it complete (`savedRun_endPage`).
* `Worn old flash` : every page is the old one or fails its check, as in the middle of an
  erase; replay emits a beginning of what it emitted before (`savedRun_worn`).
-/
import Mathlib.Data.List.Infix
import GettingThere.LogPages

namespace ReportStore

open TransferProtocol

variable {flash old : Flash} {pieces : List Bytes} {n : ℕ}

/-! ## A run on the flash -/

/-- A start page, a data page for each piece, and erased pages behind them. -/
structure Log (pieces : List Bytes) (flash : Flash) (n : ℕ) : Prop where
  next : n = pieces.length + 1
  room : n ≤ pageCount
  start : flash 0 = makePage startMagic 0 []
  data : ∀ i (h : i < pieces.length), flash (i + 1) = makePage dataMagic (i + 1) pieces[i]
  fits : ∀ piece ∈ pieces, piece ≠ [] ∧ piece.length ≤ reportPageData
  erased : ∀ i, n ≤ i → i < pageCount → flash i = .erased

/-- The start page the store writes is one. -/
theorem isStart_makePage : IsStart (makePage startMagic 0 []) :=
  ⟨valid_makePage (by decide) (by simp [reportPageData]), rfl,
    (length_makePage_eq_zero (by simp [reportPageData])).mpr rfl⟩

/-- Replay emits a data page and goes on. -/
theorem replayPages_data {i : ℕ} {piece : Bytes} (hi : i < pageCount)
    (hpage : flash i = makePage dataMagic i piece) (hne : piece ≠ [])
    (hlen : piece.length ≤ reportPageData) :
    replayPages flash (n + 1) i =
      (piece :: (replayPages flash n (i + 1)).1, (replayPages flash n (i + 1)).2) := by
  have hlength : (makePage dataMagic i piece).length ≠ 0 := by
    rw [Ne, length_makePage_eq_zero hlen]
    exact hne
  have hmagic : (makePage dataMagic i piece).magic = dataMagic := rfl
  rw [replayPages]
  simp only
  rw [hpage, if_neg (not_not.mpr (valid_makePage hi hlen)), if_neg (fun h => hlength h.2),
    if_neg (not_or.mpr ⟨not_not.mpr hmagic, hlength⟩), text_makePage hlen]

/-- Replay emits a row of data pages and goes on behind them. -/
theorem replayPages_append :
    ∀ (pieces : List Bytes) (n i : ℕ), i + pieces.length ≤ pageCount →
      (∀ j (h : j < pieces.length), flash (i + j) = makePage dataMagic (i + j) pieces[j]) →
      (∀ piece ∈ pieces, piece ≠ [] ∧ piece.length ≤ reportPageData) →
      replayPages flash (pieces.length + n) i =
        (pieces ++ (replayPages flash n (i + pieces.length)).1,
          (replayPages flash n (i + pieces.length)).2) := by
  intro pieces
  induction pieces with
  | nil =>
    intro n i _ _ _
    simp
  | cons piece pieces ih =>
    intro n i hroom hdata hfits
    rw [List.length_cons] at hroom
    have hpage : flash i = makePage dataMagic i piece := hdata 0 (by simp)
    obtain ⟨hne, hlen⟩ := hfits piece List.mem_cons_self
    have hrest := ih n (i + 1) (by omega)
      (fun j hj => by
        have h := hdata (j + 1) (by simpa using hj)
        rw [show i + (j + 1) = i + 1 + j by omega] at h
        simpa using h)
      (fun q hq => hfits q (List.mem_cons_of_mem _ hq))
    rw [List.length_cons, show pieces.length + 1 + n = pieces.length + n + 1 by omega,
      replayPages_data (by omega) hpage hne hlen, hrest,
      show i + 1 + pieces.length = i + (pieces.length + 1) by omega]
    rfl

/-- Replay of a run, up to the page behind it. -/
theorem savedRun_eq (h : Log pieces flash n) {flash' : Flash}
    (hsame : ∀ i, i < n → flash' i = flash i) :
    savedRun flash' =
      some (pieces ++ (replayPages flash' (pageCount - n) n).1,
        (replayPages flash' (pageCount - n) n).2) := by
  have hnext := h.next
  have hroom := h.room
  have hstart : IsStart (flash' 0) := by
    rw [hsame 0 (by omega), h.start]
    exact isStart_makePage
  have hpages := @replayPages_append flash' pieces (pageCount - n) 1 (by omega)
    (fun j hj => by
      rw [Nat.add_comm, hsame (j + 1) (by omega)]
      exact h.data j hj)
    h.fits
  rw [savedRun, if_pos hstart, show pageCount - 1 = pieces.length + (pageCount - n) by omega, hpages,
    show 1 + pieces.length = n by omega]

/-- A page that fails its check ends the replay. -/
theorem replayPages_invalid {i : ℕ} (h : ¬ Valid i (flash i)) : replayPages flash n i = ([], false) := by
  cases n with
  | zero => rfl
  | succ n =>
    rw [replayPages]
    simp only
    rw [if_pos h]

/-- **Replay of a run** emits its pieces. -/
theorem savedRun_log (h : Log pieces flash n) : savedRun flash = some (pieces, false) := by
  rw [savedRun_eq h fun _ _ => rfl]
  by_cases hfull : n = pageCount
  · rw [hfull, Nat.sub_self]
    simp [replayPages]
  · have hroom := h.room
    have herased : ¬ Valid n (flash n) := by
      rw [h.erased n (Nat.le_refl n) (by omega)]
      exact not_valid_erased
    rw [replayPages_invalid herased, List.append_nil]

/-- **A damaged page** behind a run ends the replay there. -/
theorem savedRun_damagedPage (h : Log pieces flash n) {page : LogPage} (hpage : ¬ Valid n page) :
    savedRun (Function.update flash n page) = some (pieces, false) := by
  rw [savedRun_eq h fun i hi => Function.update_of_ne (by omega) page flash]
  have hinvalid : ¬ Valid n (Function.update flash n page n) := by
    rw [Function.update_self]
    exact hpage
  rw [replayPages_invalid hinvalid, List.append_nil]

/-- **An end page** behind a run makes it complete. -/
theorem savedRun_endPage (h : Log pieces flash n) (hroom : n < pageCount) :
    savedRun (Function.update flash n (makePage endMagic n [])) = some (pieces, true) := by
  have hempty : ([] : Bytes).length ≤ reportPageData := by simp [reportPageData]
  have hend : (makePage endMagic n []).magic = endMagic ∧ (makePage endMagic n []).length = 0 :=
    ⟨rfl, (length_makePage_eq_zero hempty).mpr rfl⟩
  rw [savedRun_eq h fun i hi => Function.update_of_ne (by omega) _ flash,
    show pageCount - n = (pageCount - n - 1) + 1 by omega, replayPages]
  simp only
  rw [Function.update_self, if_neg (not_not.mpr (valid_makePage hroom hempty)), if_pos hend]
  simp

/-- **A data page** behind a run makes it longer. -/
theorem Log.dataPage (h : Log pieces flash n) {piece : Bytes} (hroom : n < pageCount)
    (hne : piece ≠ []) (hlen : piece.length ≤ reportPageData) :
    Log (pieces ++ [piece]) (Function.update flash n (makePage dataMagic n piece)) (n + 1) := by
  have hnext := h.next
  refine ⟨by simp [hnext], hroom, ?_, ?_, ?_, ?_⟩
  · rw [Function.update_of_ne (by omega), h.start]
  · intro i hi
    rw [List.length_append, List.length_singleton] at hi
    by_cases hlast : i < pieces.length
    · rw [Function.update_of_ne (by omega), h.data i hlast, List.getElem_append_left hlast]
    · have heq : i = pieces.length := by omega
      subst heq
      rw [← hnext, Function.update_self, List.getElem_append_right (Nat.le_refl _)]
      simp
  · intro q hq
    rcases List.mem_append.mp hq with hq | hq
    · exact h.fits q hq
    · rw [List.mem_singleton.mp hq]
      exact ⟨hne, hlen⟩
  · intro i hle hlt
    rw [Function.update_of_ne (by omega)]
    exact h.erased i (by omega) hlt

/-- An erased flash with a start page holds an empty run. -/
theorem log_start (herased : ∀ i, i < pageCount → flash i = .erased) :
    Log [] (Function.update flash 0 (makePage startMagic 0 [])) 1 := by
  refine ⟨rfl, by decide, Function.update_self 0 _ flash, ?_, ?_, ?_⟩
  · intro i hi
    exact absurd hi (Nat.not_lt_zero i)
  · intro piece hpiece
    cases hpiece
  · intro i hle hlt
    rw [Function.update_of_ne (by omega)]
    exact herased i hlt

/-! ## A flash that is being erased -/

/-- Every page is the old one, or fails its check. -/
def Worn (old flash : Flash) : Prop := ∀ i, flash i = old i ∨ ¬ Valid i (flash i)

theorem Worn.refl (flash : Flash) : Worn flash flash := fun _ => .inl rfl

theorem Worn.trans {flash' : Flash} (h : Worn old flash) (h' : Worn flash flash') :
    Worn old flash' := by
  intro i
  rcases h' i with hsame | hinvalid
  · rw [hsame]
    exact h i
  · exact .inr hinvalid

/-- A replay of worn pages stops where the old one stopped, or earlier. -/
theorem replayPages_worn (h : Worn old flash) :
    ∀ n i, (replayPages flash n i).1 <+: (replayPages old n i).1 ∧
      ((replayPages flash n i).2 = true →
        (replayPages old n i).2 = true ∧ (replayPages flash n i).1 = (replayPages old n i).1) := by
  intro n
  induction n with
  | zero => exact fun i => ⟨List.prefix_refl _, fun hc => ⟨hc, rfl⟩⟩
  | succ n ih =>
    intro i
    rcases h i with hsame | hinvalid
    · rw [replayPages, replayPages]
      simp only [hsame]
      by_cases hvalid : Valid i (old i)
      · rw [if_neg (not_not.mpr hvalid), if_neg (not_not.mpr hvalid)]
        by_cases hend : (old i).magic = endMagic ∧ (old i).length = 0
        · rw [if_pos hend, if_pos hend]
          exact ⟨List.prefix_refl _, fun _ => ⟨rfl, rfl⟩⟩
        · rw [if_neg hend, if_neg hend]
          by_cases hother : (old i).magic ≠ dataMagic ∨ (old i).length = 0
          · rw [if_pos hother, if_pos hother]
            exact ⟨List.prefix_refl _, fun hc => ⟨hc, rfl⟩⟩
          · rw [if_neg hother, if_neg hother]
            obtain ⟨hpre, hcomplete⟩ := ih (i + 1)
            refine ⟨List.cons_prefix_cons.mpr ⟨rfl, hpre⟩, ?_⟩
            intro hc
            obtain ⟨hold, heq⟩ := hcomplete hc
            refine ⟨hold, ?_⟩
            show (old i).text :: _ = (old i).text :: _
            rw [heq]
      · rw [if_pos hvalid, if_pos hvalid]
        exact ⟨List.prefix_refl _, fun hc => ⟨hc, rfl⟩⟩
    · rw [replayPages_invalid hinvalid]
      exact ⟨List.nil_prefix, fun hc => absurd hc nofun⟩

/-- **Replay of worn pages**: nothing, or a beginning of what the old pages gave, and the old
start page is still there. -/
theorem savedRun_worn (h : Worn old flash) {found : List Bytes × Bool}
    (hfound : savedRun flash = some found) :
    flash 0 = old 0 ∧ ∃ found', savedRun old = some found' ∧ found.1 <+: found'.1 ∧
      (found.2 = true → found'.2 = true ∧ found.1 = found'.1) := by
  unfold savedRun at hfound
  split at hfound
  · rename_i hstart
    have hsame : flash 0 = old 0 := by
      rcases h 0 with hsame | hinvalid
      · exact hsame
      · exact absurd hstart.1 hinvalid
    cases hfound
    refine ⟨hsame, replayPages old (pageCount - 1) 1, ?_, replayPages_worn h _ _⟩
    rw [savedRun, if_pos (hsame ▸ hstart)]
  · cases hfound

end ReportStore
