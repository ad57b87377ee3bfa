import AlphaTrade.Dashboard.ManualMirror

/-!
# Whose funding a slice has

A slice has a window of the bills of its instrument. Slices of other positions that overlap it take
its funding away, and so does a bill in two windows, so a verified slice has its bills for itself.
What the windows do not look at are the positions that are still open, and what other positions were
held as the slice was opened, at its close, and before its open where an earlier close of its
position stands.
-/
namespace AlphaTrade.Dashboard
open Library

variable {runtime : MirrorRuntime} {raw : RawInput}

/-! ## The drafts -/

def RawInput.draftOf (runtime : MirrorRuntime) (raw : RawInput) (sliver : MirrorSlice) :
    MirrorDraft :=
  draftFromSlice runtime (attachOrders runtime raw.fills raw.orders
    (sliver.withFunding runtime (raw.slices runtime) raw.funding raw.windowBegin))

theorem closed_draftsFromRaw (runtime : MirrorRuntime) (raw : RawInput) :
    (draftsFromRaw runtime raw).closed = (raw.slices runtime).map (raw.draftOf runtime) := by
  simp only [draftsFromRaw, assignFunding, List.map_map]
  rfl

def RawInput.funded (runtime : MirrorRuntime) (raw : RawInput) (sliver : MirrorSlice) : Bool :=
  sliver.funded (raw.slices runtime) raw.funding raw.windowBegin

def RawInput.billsOf (runtime : MirrorRuntime) (raw : RawInput) (sliver : MirrorSlice) :
    List Bill :=
  (parsedBills raw.funding).filter (sliver.covers (raw.slices runtime))

theorem verified_draftOf (sliver : MirrorSlice) : (raw.draftOf runtime sliver).verified =
    (sliver.priceMatches runtime && sliver.fee.isSome && raw.funded runtime sliver) := by
  change (attachOrders runtime raw.fills raw.orders (sliver.withFunding runtime _ _ _)).verified
    runtime = _
  unfold RawInput.funded MirrorSlice.withFunding
  split
  · rename_i known
    rw [known, Bool.and_true]
    exact (Bool.and_true _).trans (Bool.and_true _)
  · rename_i unknown
    rw [Bool.eq_false_of_not_eq_true unknown, Bool.and_false]
    exact (Bool.and_false _)

variable {sliver : MirrorSlice} {instruments : Table String Instrument}

theorem funding_draftOf (verified : (raw.draftOf runtime sliver).verified = true) :
    (raw.draftOf runtime sliver).funding =
      some (money (MirrorSlice.total runtime (raw.billsOf runtime sliver))) := by
  have known := verified
  rw [verified_draftOf] at known
  have funded : sliver.funded (raw.slices runtime) raw.funding raw.windowBegin = true :=
    ((Bool.and_eq_true _ _).mp known).2
  refine (if_pos verified).trans ?_
  change (sliver.withFunding runtime _ _ _).funding = _
  rw [MirrorSlice.withFunding, if_pos funded]
  rfl

/-! ## Distinct slices -/

theorem historyId_of_sliceOf {row : RawRow} {historyId positionId instId side : String}
    (read : sliceOf instruments row historyId positionId instId side = some sliver) :
    sliver.historyId = historyId := by
  simp only [sliceOf, Option.bind_eq_bind, Option.bind_eq_some_iff] at read
  obtain ⟨_, -, _, -, _, -, _, -, _, -, _, -, _, -, made⟩ := read
  rw [← Option.some.inj made]

theorem distinct_next {parsed : Parsed} (distinct : (parsed.slices.map MirrorSlice.historyId).Nodup)
    (row : RawRow) : ((parsed.next instruments row).slices.map MirrorSlice.historyId).Nodup := by
  unfold Parsed.next
  split
  · rename_i historyId positionId instId side _ _ _ _
    split
    · exact distinct
    · rename_i fresh
      split
      · rename_i sliver read
        rw [List.map_append, List.map_singleton, historyId_of_sliceOf read]
        refine distinct.append (List.nodup_singleton _) ?_
        simpa using fresh
      · exact distinct
  · exact distinct

/-- No history id is read twice. -/
theorem distinct_slices (runtime : MirrorRuntime) (raw : RawInput) :
    ((raw.slices runtime).map MirrorSlice.historyId).Nodup := by
  unfold RawInput.slices parseSlices
  generalize (readInstruments runtime raw.instruments).1 = instruments
  have run : ∀ (rows : List RawRow) (parsed : Parsed),
      (parsed.slices.map MirrorSlice.historyId).Nodup →
      ((rows.foldl (Parsed.next instruments) parsed).slices.map
        MirrorSlice.historyId).Nodup := by
    intro rows
    induction rows with
    | nil => exact fun _ => id
    | cons row rows ih => exact fun parsed distinct => ih _ (distinct_next distinct row)
  exact run raw.history _ List.nodup_nil

theorem slice_eq {other : MirrorSlice} (mem : sliver ∈ raw.slices runtime)
    (mem' : other ∈ raw.slices runtime) (same : sliver.historyId = other.historyId) :
    sliver = other :=
  List.inj_on_of_nodup_map (distinct_slices runtime raw) mem mem' same

/-! ## Windows -/

namespace MirrorSlice

/-- A time after the previous close of the position, or from its own open, up to its own close. -/
def InWindow (slices : List MirrorSlice) (sliver : MirrorSlice) (time : Int) : Prop :=
  (∀ close ∈ sliver.previous slices, close < time) ∧
  (sliver.previous slices = [] → sliver.openedAt ≤ time) ∧ time ≤ sliver.closedAt

instance (slices : List MirrorSlice) (sliver : MirrorSlice) (time : Int) :
    Decidable (sliver.InWindow slices time) := inferInstanceAs (Decidable (_ ∧ _ ∧ _))

def Held (sliver : MirrorSlice) (time : Int) : Prop :=
  sliver.openedAt ≤ time ∧ time ≤ sliver.closedAt

variable {slices : List MirrorSlice} {sliver other : MirrorSlice} {bill : Bill}

variable {time : Int}

theorem start_lt_iff (some : sliver.previous slices ≠ []) :
    sliver.start slices < time ↔ ∀ close ∈ sliver.previous slices, close < time := by
  unfold start
  cases most : (sliver.previous slices).max? with
  | none => exact absurd (List.max?_eq_none_iff.mp most) some
  | some last =>
    obtain ⟨mem, largest⟩ := List.max?_eq_some_iff.mp most
    exact ⟨fun after close listed => (largest close listed).trans_lt after, fun all => all last mem⟩

theorem covers_iff : sliver.covers slices bill = true ↔
    bill.instId = sliver.instId ∧ sliver.InWindow slices bill.time := by
  unfold covers InWindow
  rw [Bool.and_eq_true, decide_eq_true_eq]
  refine and_congr_right fun _ => ?_
  by_cases none : sliver.previous slices = []
  · have start : sliver.start slices = sliver.openedAt := by rw [MirrorSlice.start, none]; rfl
    simp only [start, none]
    simp
    omega
  · simp [start_lt_iff none, none]

/-- A position held strictly between the ends of another's is seen to overlap it. -/
theorem overlaps_of_held (within : sliver.openedAt < time ∧ time < sliver.closedAt)
    (held : other.Held time) : sliver.overlaps other = true := by
  simp only [overlaps, Bool.and_eq_true, decide_eq_true_eq]
  exact ⟨within.1.trans_le held.2, held.1.trans_lt within.2⟩

/-- The windows of funded slices have no bill in common. -/
theorem eq_of_covers {rows : List RawRow} {windowBegin : Int}
    (mem : sliver ∈ slices) (mem' : other ∈ slices)
    (funded : sliver.funded slices rows windowBegin)
    (funded' : other.funded slices rows windowBegin)
    (listed : bill ∈ parsedBills rows) (covered : sliver.covers slices bill)
    (covered' : other.covers slices bill) : sliver = other := by
  simp only [MirrorSlice.funded, Bool.and_eq_true, Bool.not_eq_true'] at funded funded'
  have owns : sliver ∈ owners slices windowBegin bill :=
    List.mem_filter.mpr ⟨mem, by simp [funded.1.1.1, covered]⟩
  have owns' : other ∈ owners slices windowBegin bill :=
    List.mem_filter.mpr ⟨mem', by simp [funded'.1.1.1, covered']⟩
  have alone := funded.1.1.2
  simp only [shared, List.any_eq_false] at alone
  have single : ¬1 < (owners slices windowBegin bill).length := by
    have := alone bill listed
    simpa [owns] using this
  obtain ⟨only, list⟩ := List.length_eq_one_iff.mp
    (le_antisymm (not_lt.mp single) (List.length_pos_of_mem owns))
  rw [list, List.mem_singleton] at owns owns'
  rw [owns, owns']

end MirrorSlice

/-! ## Positions -/

/-- A position of the positions input. -/
structure OpenPosition where
  positionId : String
  instId : String
  openedAt : Int

def openPositionOf (row : RawRow) : Option OpenPosition := do
  let positionId ← nameOf (row "positionId")
  let instId ← nameOf (row "instId")
  let quantity ← decimalOf (row "positions")
  if quantity = 0 then none else some ⟨positionId, instId, ← timeOf (row "createTime")⟩

def RawInput.openPositions (raw : RawInput) : List OpenPosition :=
  raw.positions.filterMap openPositionOf

def RawInput.HeldByClosed (runtime : MirrorRuntime) (raw : RawInput) (sliver : MirrorSlice)
    (time : Int) : Prop :=
  ∃ other ∈ raw.slices runtime, other.instId = sliver.instId ∧
    other.positionId ≠ sliver.positionId ∧ other.Held time

def RawInput.HeldByOpen (raw : RawInput) (sliver : MirrorSlice) (time : Int) : Prop :=
  ∃ other ∈ raw.openPositions, other.instId = sliver.instId ∧
    other.positionId ≠ sliver.positionId ∧ other.openedAt ≤ time

def RawInput.windowBills (runtime : MirrorRuntime) (raw : RawInput) (sliver : MirrorSlice) :
    List Bill :=
  (parsedBills raw.funding).filter fun bill =>
    bill.instId = sliver.instId ∧ sliver.InWindow (raw.slices runtime) bill.time

theorem billsOf_eq (sliver : MirrorSlice) :
    raw.billsOf runtime sliver = raw.windowBills runtime sliver :=
  List.filter_congr fun _ _ =>
    Bool.eq_iff_iff.mpr (MirrorSlice.covers_iff.trans decide_eq_true_iff.symm)

theorem mem_windowBills {bill : Bill} :
    bill ∈ raw.windowBills runtime sliver ↔ bill ∈ parsedBills raw.funding ∧
      bill.instId = sliver.instId ∧ sliver.InWindow (raw.slices runtime) bill.time := by
  simp [RawInput.windowBills]

/-- Verified funding belongs to one position. -/
structure RawInput.FundingBelongs (runtime : MirrorRuntime) (raw : RawInput) : Prop where
  /-- Every bill of the instrument could be read. -/
  readable : ∀ sliver ∈ raw.slices runtime, (raw.draftOf runtime sliver).verified = true →
    ∀ row ∈ raw.funding, nameOf (row "instId") = some sliver.instId → (billOf row).isSome
  /-- The funding is the cost of the bills of the window. -/
  exact : ∀ sliver ∈ raw.slices runtime, (raw.draftOf runtime sliver).verified = true →
    (raw.draftOf runtime sliver).funding =
      some (money (MirrorSlice.total runtime (raw.windowBills runtime sliver)))
  /-- No bill counts twice. -/
  once : ∀ sliver ∈ raw.slices runtime, (raw.draftOf runtime sliver).verified = true →
    ∀ other ∈ raw.slices runtime, (raw.draftOf runtime other).verified = true →
    ∀ bill ∈ raw.windowBills runtime sliver, bill ∈ raw.windowBills runtime other → sliver = other
  /-- No other position was held. -/
  alone : ∀ sliver ∈ raw.slices runtime, (raw.draftOf runtime sliver).verified = true →
    ∀ bill ∈ raw.windowBills runtime sliver,
      ¬raw.HeldByClosed runtime sliver bill.time ∧ ¬raw.HeldByOpen sliver bill.time

/-- What a slice and the bills say of the funding, without the drafts. -/
structure RawInput.Priced (runtime : MirrorRuntime) (raw : RawInput) (sliver : MirrorSlice) :
    Prop where
  matched : sliver.priceMatches runtime = true
  charged : sliver.fee.isSome
  funded : raw.funded runtime sliver = true

theorem verified_draftOf_iff :
    (raw.draftOf runtime sliver).verified = true ↔ raw.Priced runtime sliver := by
  rw [verified_draftOf, Bool.and_eq_true, Bool.and_eq_true]
  exact ⟨fun ⟨⟨matched, charged⟩, funded⟩ => ⟨matched, charged, funded⟩,
    fun priced => ⟨⟨priced.matched, priced.charged⟩, priced.funded⟩⟩

/-- What the windows do not look at: the open positions, and the closed ones at a bill that comes
with the open of a slice, before it or with its close. -/
def RawInput.Unshared (runtime : MirrorRuntime) (raw : RawInput) : Prop :=
  ∀ sliver ∈ raw.slices runtime, raw.Priced runtime sliver →
    ∀ bill ∈ raw.windowBills runtime sliver, ¬raw.HeldByOpen sliver bill.time ∧
      (bill.time ≤ sliver.openedAt ∨ bill.time = sliver.closedAt →
        ¬raw.HeldByClosed runtime sliver bill.time)

theorem not_ambiguous (priced : raw.Priced runtime sliver) :
    sliver.ambiguous (raw.slices runtime) = false := by
  have funded := priced.funded
  simp only [RawInput.funded, MirrorSlice.funded, MirrorSlice.windowed, Bool.and_eq_true,
    Bool.not_eq_true', Bool.or_eq_false_iff] at funded
  exact funded.1.1.1.1

/-- Strictly within the life of a slice no other closed position of its instrument was held. -/
theorem not_heldByClosed (mem : sliver ∈ raw.slices runtime) (priced : raw.Priced runtime sliver)
    {time : Int} (within : sliver.openedAt < time ∧ time < sliver.closedAt) :
    ¬raw.HeldByClosed runtime sliver time := by
  rintro ⟨other, mem', sameInst, differ, held⟩
  have clear := not_ambiguous priced
  simp only [MirrorSlice.ambiguous, List.any_eq_false] at clear
  refine clear other mem' ?_
  have apart : other.historyId ≠ sliver.historyId := fun same =>
    differ (congrArg MirrorSlice.positionId (slice_eq mem' mem same))
  simp [apart, sameInst, differ, MirrorSlice.overlaps_of_held within held]

/-- **Whose funding it is.** Verified funding belongs to one position exactly if no other was held
at the bills that the windows do not look at. -/
theorem funding_belongs_iff (runtime : MirrorRuntime) (raw : RawInput) :
    raw.FundingBelongs runtime ↔ raw.Unshared runtime := by
  constructor
  · intro belongs sliver mem priced bill counted
    have alone := belongs.alone sliver mem (verified_draftOf_iff.mpr priced) bill counted
    exact ⟨alone.2, fun _ => alone.1⟩
  · intro unshared
    refine ⟨fun sliver mem verified row listed named => ?_, fun sliver mem verified => ?_,
      fun sliver mem verified other mem' verified' bill counted counted' => ?_,
      fun sliver mem verified bill counted => ?_⟩
    · have funded := (verified_draftOf_iff.mp verified).funded
      simp only [RawInput.funded, MirrorSlice.funded, Bool.and_eq_true, decide_eq_true_eq] at funded
      by_contra unread
      refine funded.2 (List.mem_filterMap.mpr ⟨row, List.mem_filter.mpr ⟨listed, ?_⟩, named⟩)
      simpa using unread
    · rw [← billsOf_eq]
      exact funding_draftOf verified
    · have covered := mem_windowBills.mp counted
      have covered' := mem_windowBills.mp counted'
      exact MirrorSlice.eq_of_covers mem mem' (verified_draftOf_iff.mp verified).funded
        (verified_draftOf_iff.mp verified').funded covered.1
        (MirrorSlice.covers_iff.mpr covered.2) (MirrorSlice.covers_iff.mpr covered'.2)
    · have priced := verified_draftOf_iff.mp verified
      have blind := unshared sliver mem priced bill counted
      refine ⟨?_, blind.1⟩
      by_cases within : sliver.openedAt < bill.time ∧ bill.time < sliver.closedAt
      · exact not_heldByClosed mem priced within
      · have upTo := (mem_windowBills.mp counted).2.2.2.2
        exact blind.2 (by omega)

def rowOfTexts (fields : List (String × String)) : RawRow := fun name =>
  (fields.lookup name).map .text

/-- A long held from 1 to 3, another opened at 1 and still open, and a bill at 2. -/
def hedgedInput : RawInput where
  instruments := [rowOfTexts [("instId", "BTC-USDT"), ("contractValue", "1"),
    ("settleCurrency", "USDT")]]
  positions := [rowOfTexts [("positionId", "p2"), ("instId", "BTC-USDT"), ("positions", "1"),
    ("positionSide", "short"), ("createTime", "1")]]
  history := [rowOfTexts [("historyId", "h1"), ("positionId", "p1"), ("instId", "BTC-USDT"),
    ("side", "buy"), ("closePositions", "1"), ("maxPositions", "1"), ("openAveragePrice", "10"),
    ("closeAveragePrice", "12"), ("createTime", "1"), ("updateTime", "3"), ("realizedPnl", "2"),
    ("fee", "0")]]
  fills := []
  funding := [rowOfTexts [("instId", "BTC-USDT"), ("fundingTime", "2"), ("fundingFee", "-1")]]
  orders := []
  windowBegin := 0

/-- The bill counts to the long, and the short was held when it came. -/
theorem hedgedInput_shared : ¬hedgedInput.FundingBelongs exactRuntime := by
  have found : ∃ sliver ∈ hedgedInput.slices exactRuntime,
      (hedgedInput.draftOf exactRuntime sliver).verified = true ∧
      ∃ bill ∈ hedgedInput.windowBills exactRuntime sliver, ∃ other ∈ hedgedInput.openPositions,
        other.instId = sliver.instId ∧ other.positionId ≠ sliver.positionId ∧
        other.openedAt ≤ bill.time := by
    decide +kernel
  obtain ⟨sliver, mem, verified, bill, counted, other, held⟩ := found
  intro belongs
  exact (belongs.alone sliver mem verified bill counted).2 ⟨other, held⟩

end AlphaTrade.Dashboard
