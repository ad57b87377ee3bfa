import Mathlib.Algebra.Order.Archimedean.Basic
import AlphaTrade.Dashboard.MirrorFunding
import AlphaTrade.Library.Repeats

/-!
# Pages that overlap

Consecutive pages of a list may give a row again. A position's history is read by its id, an order
by its id and levels as a set, so repeated rows change nothing there. A funding bill has no identity
in the sum, and counts as often as it comes.
-/
namespace AlphaTrade.Dashboard
open Library

variable {runtime : MirrorRuntime} {raw again : RawInput}

/-- `again` is `raw` with rows of the paged lists repeated. -/
structure RawInput.Repeated (raw again : RawInput) : Prop where
  instruments : again.instruments = raw.instruments
  positions : again.positions = raw.positions
  windowBegin : again.windowBegin = raw.windowBegin
  /-- a repeated slice or fill comes after the one that it repeats -/
  history : Repeats [] raw.history again.history
  fills : Repeats [] raw.fills again.fills
  /-- bills and orders may be repeated anywhere -/
  funding : raw.funding.Sublist again.funding ∧ again.funding ⊆ raw.funding
  orders : raw.orders.Sublist again.orders ∧ again.orders ⊆ raw.orders

theorem mem_iff_of_repeated {rows more : List RawRow}
    (repeated : rows.Sublist more ∧ more ⊆ rows) (row : RawRow) : row ∈ more ↔ row ∈ rows :=
  ⟨fun mem => repeated.2 mem, fun mem => repeated.1.subset mem⟩

/-! ## Slices -/

def readSlice (instruments : Table String Instrument) (row : RawRow) : Option MirrorSlice :=
  match nameOf (row "historyId"), nameOf (row "positionId"), nameOf (row "instId"),
    nameOf (row "side") with
  | some historyId, some positionId, some instId, some side =>
    sliceOf instruments row historyId positionId instId side
  | _, _, _, _ => none

/-- A row adds its slice, unless its history id is known. -/
theorem slices_next (instruments : Table String Instrument) (parsed : Parsed) (row : RawRow) :
    (parsed.next instruments row).slices =
      addNew MirrorSlice.historyId (readSlice instruments) parsed.slices row := by
  unfold addNew readSlice Parsed.next
  cases nameOf (row "historyId") with
  | none => rfl
  | some historyId =>
    cases nameOf (row "positionId") with
    | none => rfl
    | some positionId =>
      cases nameOf (row "instId") with
      | none => rfl
      | some instId =>
        cases nameOf (row "side") with
        | none => rfl
        | some side =>
          dsimp only
          cases read : sliceOf instruments row historyId positionId instId side with
          | none => split <;> rfl
          | some sliver =>
            simp only [historyId_of_sliceOf read]
            split <;> rfl

theorem slices_foldl (instruments : Table String Instrument) (rows : List RawRow)
    (parsed : Parsed) : (rows.foldl (Parsed.next instruments) parsed).slices =
      rows.foldl (addNew MirrorSlice.historyId (readSlice instruments)) parsed.slices := by
  induction rows generalizing parsed with
  | nil => rfl
  | cons row rows ih => rw [List.foldl_cons, ih, slices_next, List.foldl_cons]

theorem slices_repeated (repeated : raw.Repeated again) :
    again.slices runtime = raw.slices runtime := by
  unfold RawInput.slices parseSlices
  rw [repeated.instruments, slices_foldl, slices_foldl]
  exact repeated.history.foldl_addNew []

/-! ## Orders -/

theorem fillOrders_eq (sliver : MirrorSlice) (fills : List RawRow) :
    fillOrders sliver fills = fills.foldl (addNew id (fillOrder sliver)) [] := by
  unfold fillOrders
  congr 1
  funext orderIds row
  unfold addNew
  cases fillOrder sliver row with
  | none => rfl
  | some orderId => simp

theorem orderLevels_repeated (repeated : raw.Repeated again) (sliver : MirrorSlice)
    (orderIds : Option (List String)) : orderLevels runtime sliver again.orders orderIds =
      orderLevels runtime sliver raw.orders orderIds := by
  have rows : ∀ row, row ∈ levelOrders runtime sliver again.orders orderIds ↔
      row ∈ levelOrders runtime sliver raw.orders orderIds := fun row => by
    unfold levelOrders
    rw [List.mem_filter, List.mem_filter, mem_iff_of_repeated repeated.orders]
  have levels : ∀ read : RawRow → Option ℚ,
      ((levelOrders runtime sliver again.orders orderIds).filterMap read).toFinset =
        ((levelOrders runtime sliver raw.orders orderIds).filterMap read).toFinset := fun read => by
    ext level
    simp only [List.mem_toFinset, List.mem_filterMap, rows]
  unfold orderLevels
  simp only [levels]

theorem attachOrders_repeated (repeated : raw.Repeated again) (sliver : MirrorSlice) :
    attachOrders runtime again.fills again.orders sliver =
      attachOrders runtime raw.fills raw.orders sliver := by
  have fills : fillOrders sliver again.fills = fillOrders sliver raw.fills := by
    rw [fillOrders_eq, fillOrders_eq]
    exact repeated.fills.foldl_addNew []
  unfold attachOrders
  simp only [fills, orderLevels_repeated repeated]

/-! ## Bills -/

theorem mem_parsedBills_repeated (repeated : raw.Repeated again) (bill : Bill) :
    bill ∈ parsedBills again.funding ↔ bill ∈ parsedBills raw.funding := by
  unfold parsedBills
  simp only [List.mem_filterMap, mem_iff_of_repeated repeated.funding]

theorem funded_repeated (repeated : raw.Repeated again) (sliver : MirrorSlice) :
    again.funded runtime sliver = raw.funded runtime sliver := by
  have bills := mem_parsedBills_repeated repeated
  have rows := mem_iff_of_repeated repeated.funding
  have shared : sliver.shared (raw.slices runtime) raw.windowBegin (parsedBills again.funding) =
      sliver.shared (raw.slices runtime) raw.windowBegin (parsedBills raw.funding) := by
    unfold MirrorSlice.shared
    rw [Bool.eq_iff_iff, List.any_eq_true, List.any_eq_true]
    simp only [bills]
  have unknown : unparsedUnknown again.funding = unparsedUnknown raw.funding := by
    unfold unparsedUnknown
    rw [Bool.eq_iff_iff, List.any_eq_true, List.any_eq_true]
    simp only [rows]
  have unparsed : sliver.instId ∉ unparsedInstruments again.funding ↔
      sliver.instId ∉ unparsedInstruments raw.funding := by
    unfold unparsedInstruments
    simp only [List.mem_filterMap, List.mem_filter, rows]
  unfold RawInput.funded MirrorSlice.funded
  rw [slices_repeated repeated, repeated.windowBegin, shared, unknown]
  simp only [unparsed]

variable {sliver : MirrorSlice} {row : RawRow}

theorem priced_repeated (repeated : raw.Repeated again) :
    again.Priced runtime sliver ↔ raw.Priced runtime sliver := by
  constructor
  · rintro ⟨matched, charged, funded⟩
    exact ⟨matched, charged, funded_repeated repeated sliver ▸ funded⟩
  · rintro ⟨matched, charged, funded⟩
    exact ⟨matched, charged, (funded_repeated repeated sliver).symm ▸ funded⟩

/-! ## Drafts -/

def RawInput.Quiet (runtime : MirrorRuntime) (raw : RawInput) : Prop :=
  ∀ sliver ∈ raw.slices runtime, raw.Priced runtime sliver →
    ∀ bill ∈ raw.windowBills runtime sliver, bill.amount = 0

theorem total_of_free {bills : List Bill} (free : ∀ bill ∈ bills, bill.amount = 0) :
    MirrorSlice.total runtime bills = 0 := by
  unfold MirrorSlice.total
  induction bills with
  | nil => rfl
  | cons bill bills ih =>
    rw [List.forall_mem_cons] at free
    rw [List.foldl_cons, free.1, neg_zero, runtime.rounded_zero, add_zero, runtime.rounded_zero]
    exact ih free.2

/-- The funding of a slice does not show in its draft while it is not verified. -/
theorem draft_of_unverified {funding funding' : Option ℚ} {known known' : Bool}
    (unverified : sliver.priceMatches runtime = false ∨ sliver.fee.isSome = false) :
    draftFromSlice runtime { sliver with funding := funding, fundingOk := known } =
      draftFromSlice runtime { sliver with funding := funding', fundingOk := known' } := by
  have never : ∀ funding known, MirrorSlice.verified runtime
      { sliver with funding := funding, fundingOk := known } = false := fun funding known => by
    change (sliver.priceMatches runtime && sliver.fee.isSome && known && funding.isSome) = false
    rcases unverified with mismatch | uncharged
    · rw [mismatch]
      rfl
    · rw [uncharged, Bool.and_false]
      rfl
  unfold draftFromSlice MirrorSlice.net MirrorSlice.risk MirrorSlice.reason
  simp only [never, Bool.false_eq_true, if_false, false_and]
  rfl

theorem draftOf_eq (sliver : MirrorSlice) : raw.draftOf runtime sliver =
    draftFromSlice runtime { attachOrders runtime raw.fills raw.orders sliver with
      funding := if raw.funded runtime sliver then
        some (money (MirrorSlice.total runtime (raw.windowBills runtime sliver))) else none
      fundingOk := raw.funded runtime sliver } := by
  unfold RawInput.draftOf MirrorSlice.withFunding
  rw [← billsOf_eq]
  by_cases known : raw.funded runtime sliver
  · rw [if_pos (show sliver.funded _ _ _ = true from known), known]
    rfl
  · rw [if_neg (show ¬sliver.funded _ _ _ = true from known), Bool.eq_false_of_not_eq_true known]
    rfl

theorem windowBills_free (repeated : raw.Repeated again)
    (free : ∀ bill ∈ raw.windowBills runtime sliver, bill.amount = 0) :
    ∀ bill ∈ again.windowBills runtime sliver, bill.amount = 0 := by
  intro bill mem
  refine free bill (mem_windowBills.mpr ?_)
  rwa [mem_windowBills, slices_repeated repeated, mem_parsedBills_repeated repeated] at mem

theorem draftOf_repeated (repeated : raw.Repeated again)
    (free : raw.Priced runtime sliver → ∀ bill ∈ raw.windowBills runtime sliver, bill.amount = 0) :
    again.draftOf runtime sliver = raw.draftOf runtime sliver := by
  rw [draftOf_eq, draftOf_eq, attachOrders_repeated repeated, funded_repeated repeated]
  by_cases priced : sliver.priceMatches runtime = true ∧ sliver.fee.isSome = true
  · by_cases known : raw.funded runtime sliver
    · have quiet := free ⟨priced.1, priced.2, known⟩
      rw [total_of_free quiet, total_of_free (windowBills_free repeated quiet)]
    · simp only [if_neg known]
  · refine draft_of_unverified ?_
    change sliver.priceMatches runtime = false ∨ sliver.fee.isSome = false
    rcases Decidable.not_and_iff_not_or_not.mp priced with mismatch | uncharged
    · exact .inl (Bool.eq_false_of_not_eq_true mismatch)
    · exact .inr (Bool.eq_false_of_not_eq_true uncharged)

theorem closed_repeated (quiet : raw.Quiet runtime) (repeated : raw.Repeated again) :
    (draftsFromRaw runtime again).closed = (draftsFromRaw runtime raw).closed := by
  rw [closed_draftsFromRaw, closed_draftsFromRaw, slices_repeated repeated]
  exact List.map_congr_left fun sliver mem => draftOf_repeated repeated (quiet sliver mem)

/-! ## A bill that comes again -/

def RawInput.repeatBill (raw : RawInput) (row : RawRow) (times : Nat) : RawInput :=
  { raw with funding := raw.funding ++ List.replicate times row }

theorem repeats_self {α : Type} (items : List α) : Repeats [] items items := by
  have all : Repeats [] items (items ++ []) := Repeats.of_append (by simp)
  rwa [List.append_nil] at all

theorem repeated_repeatBill (listed : row ∈ raw.funding) (times : Nat) :
    raw.Repeated (raw.repeatBill row times) where
  instruments := rfl
  positions := rfl
  windowBegin := rfl
  history := repeats_self _
  fills := repeats_self _
  funding := by
    refine ⟨List.sublist_append_left _ _, fun other mem => ?_⟩
    rcases List.mem_append.mp mem with old | new
    · exact old
    · exact List.eq_of_mem_replicate new ▸ listed
  orders := ⟨List.Sublist.refl _, List.Subset.refl _⟩

theorem total_exact (exact : ∀ x, runtime.rounded x = x) (bills : List Bill) :
    MirrorSlice.total runtime bills = -(bills.map Bill.amount).sum := by
  unfold MirrorSlice.total
  have run : ∀ start, bills.foldl (fun total bill =>
      runtime.rounded (total + runtime.rounded (-bill.amount))) start =
        start - (bills.map Bill.amount).sum := by
    induction bills with
    | nil => simp
    | cons bill bills ih =>
      intro start
      rw [List.foldl_cons, ih, exact, exact, List.map_cons, List.sum_cons]
      ring
  rw [run, zero_sub]

theorem windowBills_repeatBill {bill : Bill} (listed : row ∈ raw.funding)
    (read : billOf row = some bill) (counted : bill ∈ raw.windowBills runtime sliver) (times :
      Nat) :
    (raw.repeatBill row times).windowBills runtime sliver =
      raw.windowBills runtime sliver ++ List.replicate times bill := by
  have window := (mem_windowBills.mp counted).2
  have bills : parsedBills (raw.repeatBill row times).funding =
      parsedBills raw.funding ++ List.replicate times bill := by
    unfold parsedBills RawInput.repeatBill
    rw [List.filterMap_append, List.filterMap_replicate_of_some read]
  unfold RawInput.windowBills
  rw [slices_repeated (repeated_repeatBill listed times), bills, List.filter_append,
    List.filter_replicate_of_pos (by simpa using window)]

/-- A bill with a cost changes a verified draft, if it is repeated often enough. -/
theorem quiet_of_unchanged (exact : ∀ x, runtime.rounded x = x)
    (unchanged : ∀ again, raw.Repeated again →
      (draftsFromRaw runtime again).closed = (draftsFromRaw runtime raw).closed) :
    raw.Quiet runtime := by
  intro sliver mem priced bill counted
  by_contra costs
  obtain ⟨row, listed, read⟩ := List.mem_filterMap.mp (mem_windowBills.mp counted).1
  obtain ⟨times, enough⟩ := exists_nat_gt ((10 ^ 8 : ℚ)⁻¹ / |bill.amount|)
  have repeated := repeated_repeatBill listed times
  have same := unchanged _ repeated
  rw [closed_draftsFromRaw, closed_draftsFromRaw, slices_repeated repeated] at same
  have drafts := List.map_inj_left.mp same sliver mem
  have funding := congrArg MirrorDraft.funding drafts
  rw [funding_draftOf (verified_draftOf_iff.mpr ((priced_repeated repeated).mpr priced)),
    funding_draftOf (verified_draftOf_iff.mpr priced), billsOf_eq, billsOf_eq,
    windowBills_repeatBill listed read counted, total_exact exact, total_exact exact] at funding
  have close := abs_sub_le_of_quantize_eq (Option.some.inj funding)
  rw [List.map_append, List.map_replicate, List.sum_append, List.sum_replicate, nsmul_eq_mul,
    neg_sub_neg, sub_add_cancel_left, abs_neg, abs_mul, Nat.abs_cast] at close
  rw [div_lt_iff₀ (abs_pos.mpr costs)] at enough
  linarith

/-- **Repeated rows.** They leave the closed drafts as they are if no bill with a cost counts to a
verified slice, and, where the sums are exact, only then. -/
theorem repeated_rows_iff (runtime : MirrorRuntime) (raw : RawInput) :
    (raw.Quiet runtime → ∀ again, raw.Repeated again →
      (draftsFromRaw runtime again).closed = (draftsFromRaw runtime raw).closed) ∧
    ((∀ x, runtime.rounded x = x) → (∀ again, raw.Repeated again →
      (draftsFromRaw runtime again).closed = (draftsFromRaw runtime raw).closed) →
      raw.Quiet runtime) :=
  ⟨fun quiet _ repeated => closed_repeated quiet repeated, quiet_of_unchanged⟩

/-- The bill of the long counts twice if its row comes twice. -/
theorem hedgedInput_repeated : ∃ again, hedgedInput.Repeated again ∧
    (draftsFromRaw exactRuntime again).closed ≠
      (draftsFromRaw exactRuntime hedgedInput).closed := by
  have listed : (hedgedInput.funding.head (by decide)) ∈ hedgedInput.funding := List.head_mem _
  exact ⟨hedgedInput.repeatBill (hedgedInput.funding.head (by decide)) 1,
    repeated_repeatBill listed 1, by decide +kernel⟩

end AlphaTrade.Dashboard
