import AlphaTrade.Dashboard.ManualMirror

/-!
# The rows of the mirror

`_apply_venue` writes a draft into a journal row, and `_verified_row` says of a stored row whether
the headline figures may count it. The writer prices the move with the exact size and the reader
with the stored one, which has eight places.
-/
namespace AlphaTrade.Dashboard
open Library
open Journal (TradeDirection TradeResult PlannedTarget)
open Risk (JournalTradeSource JournalTradeStatus)

/-- The columns of `JournalTrade` that the mirror writes or reads. -/
structure JournalTrade where
  source : JournalTradeSource
  status : JournalTradeStatus
  symbol : String
  timeframe : String
  direction : TradeDirection
  exchange : Option String := none
  marketRegime : Option String := none
  entryMethod : Option String := none
  executionLifecycleId : Option Nat := none
  externalRef : Option String := none
  tags : List String := []
  plannedStopPrice : Option ℚ := none
  plannedRiskAmount : Option ℚ := none
  plannedTargets : List PlannedTarget := []
  entryPrice : Option ℚ := none
  entryTime : Option Int := none
  exitPrice : Option ℚ := none
  exitTime : Option Int := none
  exitReason : Option String := none
  size : Option ℚ := none
  leverage : Option ℚ := none
  fees : Option ℚ := none
  funding : Option ℚ := none
  slippage : Option ℚ := none
  grossPnl : Option ℚ := none
  netPnl : Option ℚ := none
  result : Option TradeResult := none

/-- `text.startswith(head)` -/
def startsWith (text head : String) : Bool := head.toList.isPrefixOf text.toList

def verifiedTag : String := "pnl-verified"
def unverifiedTag : String := "pnl-unverified"
def reconciledTag : String := "blofin-reconciled"
def cycleRef : String := "blofin-demo-mirror-cycle"

/-- `_tags` -/
def tagsOf (draft : MirrorDraft) (existing : List String) (reconciled : Bool) : List String :=
  let kept := existing.filter fun tag =>
    !startsWith tag "blofin-" && tag ∉ [verifiedTag, unverifiedTag]
  let mirror := draft.historyIds.map ("blofin-history:" ++ ·) ++
    draft.orderIds.map ("blofin-order:" ++ ·) ++
    [if draft.verified then verifiedTag else unverifiedTag]
  let mirror := if draft.openTracker then mirror.filter (· ≠ unverifiedTag) else mirror
  kept ++ mirror ++ if reconciled then [reconciledTag] else []

/-- The row that `_persist` makes for a draft. -/
def newRow (draft : MirrorDraft) (status : JournalTradeStatus) : JournalTrade where
  source := .blofinDemoManual
  status
  symbol := draft.symbol
  timeframe := "manual"
  direction := draft.direction

/-- `_apply_venue` -/
def applyVenue (row : JournalTrade) (draft : MirrorDraft) (fresh : Bool) : JournalTrade :=
  let row : JournalTrade :=
    if fresh then
      { row with
        symbol := draft.symbol
        exchange := some "BLOFIN_DEMO"
        timeframe := "manual"
        direction := draft.direction
        marketRegime := some "unknown"
        entryMethod := some "auto"
        source := .blofinDemoManual
        tags := []
        plannedTargets := [] }
    else row
  -- a lifecycle-backed book keeps the entry it has counted
  let backed := row.executionLifecycleId.isSome
  let newStop := row.plannedStopPrice.isNone && draft.stop.isSome
  let reconciled := row.source = .manual || row.source = .manualDemoTest
  { row with
    externalRef := some draft.externalRef
    status := draft.status
    entryPrice := if backed then row.entryPrice else draft.entryPrice
    entryTime := if backed then row.entryTime else draft.entryTime
    exitPrice := draft.exitPrice
    exitTime := draft.exitTime
    exitReason := draft.exitReason
    size := if backed then row.size else draft.size
    leverage := draft.leverage
    fees := draft.fees
    funding := draft.funding
    slippage := draft.slippage
    grossPnl := draft.grossPnl
    netPnl := draft.netPnl
    result := some draft.result
    plannedStopPrice := if newStop then draft.stop else row.plannedStopPrice
    plannedRiskAmount :=
      if newStop && draft.plannedRisk.isSome then draft.plannedRisk else row.plannedRiskAmount
    plannedTargets :=
      match row.plannedTargets, draft.target with
      | [], some target => [⟨target, 1, some "tp"⟩]
      | targets, _ => targets
    tags := tagsOf draft row.tags reconciled }

/-- `_formula_net` -/
def formulaNet (runtime : MirrorRuntime) (row : JournalTrade) : Option ℚ := do
  let entry ← row.entryPrice
  let exit ← row.exitPrice
  let size ← row.size
  let fees ← row.fees
  let funding ← row.funding
  let stored ← row.grossPnl
  let _ ← row.netPnl
  let gross := money (runtime.rounded (priceMove runtime row.direction entry exit * size))
  if gross ≠ money stored then none else some (netOf runtime gross fees funding)

/-- `without_annotation_grade` -/
def withoutGrade (tags : List String) : List String := tags.filter fun tag =>
  !startsWith tag "grade:"

/-- `_verified_row` -/
def verifiedRow (runtime : MirrorRuntime) (row : JournalTrade) : Bool :=
  let tags := withoutGrade row.tags
  let ref := row.externalRef.getD ""
  match formulaNet runtime row with
  | none => false
  | some net =>
    money (row.netPnl.getD 0) = net &&
      row.status = .closed && row.source = .blofinDemoManual &&
      startsWith ref "blofin-demo-history:" && ref ≠ cycleRef &&
      verifiedTag ∈ tags && unverifiedTag ∉ tags && row.result = some (resultOf net)

/-! ## What the writer writes -/

variable {runtime : MirrorRuntime} {sliver : MirrorSlice}

def rowOf (runtime : MirrorRuntime) (sliver : MirrorSlice) : JournalTrade :=
  applyVenue (newRow (draftFromSlice runtime sliver) .closed) (draftFromSlice runtime sliver) true

/-- What is known of a slice proves the venue's figure and the net. -/
structure MirrorSlice.Provable (runtime : MirrorRuntime) (sliver : MirrorSlice)
    (size figure fee funding : ℚ) : Prop where
  sized : sliver.exactSize runtime = some size
  realized : sliver.realized = some figure
  figured : money (runtime.rounded
    (priceMove runtime sliver.direction sliver.openPrice sliver.closePrice * size)) = money figure
  agreed : sliver.sideConflict = false
  settled : sliver.settle = some "USDT"
  charged : sliver.fee = some fee
  known : sliver.fundingOk = true
  funded : sliver.funding = some funding

theorem priceMatches_iff : sliver.priceMatches runtime = true ↔
    ∃ size figure, sliver.exactSize runtime = some size ∧ sliver.realized = some figure ∧
      money (runtime.rounded (priceMove runtime sliver.direction sliver.openPrice
        sliver.closePrice * size)) = money figure ∧
      sliver.sideConflict = false ∧ sliver.settle = some "USDT" := by
  unfold MirrorSlice.priceMatches MirrorSlice.pricePnl
  cases sliver.exactSize runtime with
  | none => simp
  | some size =>
    cases sliver.realized with
    | none => simp
    | some figure => simp [and_assoc]

theorem verified_iff : sliver.verified runtime = true ↔
    ∃ size figure fee funding, sliver.Provable runtime size figure fee funding := by
  unfold MirrorSlice.verified
  simp only [Bool.and_eq_true, Option.isSome_iff_exists, priceMatches_iff]
  constructor
  · rintro ⟨⟨⟨⟨size, figure, sized, realized, figured, agreed, settled⟩, fee, charged⟩, known⟩,
      funding, funded⟩
    exact ⟨size, figure, fee, funding, sized, realized, figured, agreed, settled, charged, known,
      funded⟩
  · rintro ⟨size, figure, fee, funding, proof⟩
    exact ⟨⟨⟨⟨size, figure, proof.sized, proof.realized, proof.figured, proof.agreed,
      proof.settled⟩, fee, proof.charged⟩, proof.known⟩, funding, proof.funded⟩

/-! ## What the reader reads -/

variable {size figure fee funding : ℚ}

theorem verified_of_provable (proof : sliver.Provable runtime size figure fee funding) :
    sliver.verified runtime = true :=
  verified_iff.mpr ⟨size, figure, fee, funding, proof⟩

theorem pricePnl_of_provable (proof : sliver.Provable runtime size figure fee funding) :
    sliver.pricePnl runtime = some (money figure) := by
  rw [MirrorSlice.pricePnl, proof.sized, Option.map_some, proof.figured]

theorem net_of_provable (proof : sliver.Provable runtime size figure fee funding) :
    sliver.net runtime = some (netOf runtime (money figure) fee funding) := by
  rw [MirrorSlice.net, if_pos (verified_of_provable proof), pricePnl_of_provable proof,
    proof.charged, proof.funded]
  rfl

theorem net_of_unverified (unverified : ¬sliver.verified runtime) : sliver.net runtime = none :=
  if_neg unverified

def MirrorSlice.StoredAlike (runtime : MirrorRuntime) (sliver : MirrorSlice) (size : ℚ) : Prop :=
  money (runtime.rounded
      (priceMove runtime sliver.direction sliver.openPrice sliver.closePrice * money size)) =
    money (runtime.rounded
      (priceMove runtime sliver.direction sliver.openPrice sliver.closePrice * size))

instance : Decidable (sliver.StoredAlike runtime size) := inferInstanceAs (Decidable (_ = _))

theorem formulaNet_of_unverified (unverified : ¬sliver.verified runtime) :
    formulaNet runtime (rowOf runtime sliver) = none := by
  have fees : (rowOf runtime sliver).fees = none := if_neg unverified
  unfold formulaNet
  rw [fees]
  cases (rowOf runtime sliver).entryPrice <;> cases (rowOf runtime sliver).exitPrice <;>
    cases (rowOf runtime sliver).size <;> rfl

/-- The formula reads a verified row back if the stored size prices it alike, and else refuses. -/
theorem formulaNet_of_provable (proof : sliver.Provable runtime size figure fee funding) :
    formulaNet runtime (rowOf runtime sliver) =
      if sliver.StoredAlike runtime size then some (netOf runtime (money figure) fee funding)
      else none := by
  have verified := verified_of_provable proof
  have stored : (rowOf runtime sliver).size = some (money size) := by
    exact congrArg (Option.map money) proof.sized
  have fees : (rowOf runtime sliver).fees = some fee := (if_pos verified).trans proof.charged
  have funds : (rowOf runtime sliver).funding = some funding :=
    (if_pos verified).trans proof.funded
  have gross : (rowOf runtime sliver).grossPnl = some (money figure) :=
    (if_pos verified).trans (pricePnl_of_provable proof)
  have net : (rowOf runtime sliver).netPnl = _ := net_of_provable proof
  unfold formulaNet
  rw [stored, fees, funds, gross, net]
  change (if money (runtime.rounded (priceMove runtime sliver.direction sliver.openPrice
    sliver.closePrice * money size)) ≠ money (money figure) then none else some _) = _
  rw [show money (money figure) = money figure from quantize_quantize 8 figure, ← proof.figured,
    ite_not]
  by_cases alike : sliver.StoredAlike runtime size
  · rw [if_pos alike]
    refine (if_pos alike).trans ?_
    exact congrArg (fun gross => some (netOf runtime gross fee funding)) alike
  · rw [if_neg alike]
    exact if_neg alike

theorem ne_of_head {head other : String} (rest : String) (differ : head.toList.head? ≠
    other.toList.head?) (some : head.toList ≠ []) : head ++ rest ≠ other := by
  intro same
  refine differ ?_
  rw [← same, String.toList_append]
  cases list : head.toList with
  | nil => exact absurd list some
  | cons c cs => rfl

/-- The tags of a new row say whether its draft was verified. -/
theorem tags_rowOf : withoutGrade (rowOf runtime sliver).tags =
    ["blofin-history:" ++ sliver.historyId] ++ sliver.orderIds.map ("blofin-order:" ++ ·) ++
      [if sliver.verified runtime then verifiedTag else unverifiedTag] := by
  have tags : (rowOf runtime sliver).tags =
      ["blofin-history:" ++ sliver.historyId] ++ sliver.orderIds.map ("blofin-order:" ++ ·) ++
        [if sliver.verified runtime then verifiedTag else unverifiedTag] :=
    List.append_nil _
  have ungraded : ∀ head rest, head = "blofin-history:" ∨ head = "blofin-order:" →
      startsWith (head ++ rest) "grade:" = false := by
    rintro head rest (rfl | rfl) <;> simp [startsWith, String.toList_append, List.isPrefixOf]
  rw [tags]
  refine List.filter_eq_self.mpr fun tag mem => ?_
  simp only [List.mem_append, List.mem_singleton, List.mem_map] at mem
  rcases mem with (rfl | ⟨id, -, rfl⟩) | rfl
  · rw [ungraded _ _ (.inl rfl)]
    rfl
  · rw [ungraded _ _ (.inr rfl)]
    rfl
  · split <;> rfl

theorem verifiedTag_mem : verifiedTag ∈ withoutGrade (rowOf runtime sliver).tags ∧
    unverifiedTag ∉ withoutGrade (rowOf runtime sliver).tags ↔ sliver.verified runtime := by
  have foreign : ∀ head rest tag, head = "blofin-history:" ∨ head = "blofin-order:" →
      tag = verifiedTag ∨ tag = unverifiedTag → tag ≠ head ++ rest := by
    rintro head rest tag (rfl | rfl) (rfl | rfl) <;>
      exact (ne_of_head rest (by decide) (by decide)).symm
  rw [tags_rowOf]
  simp only [List.mem_append, List.mem_singleton, List.mem_map]
  constructor
  · rintro ⟨-, absent⟩
    by_contra unverified
    exact absent (.inr (if_neg unverified).symm)
  · intro verified
    refine ⟨.inr (if_pos verified).symm, ?_⟩
    rintro ((same | ⟨id, -, same⟩) | same)
    · exact foreign _ _ _ (.inl rfl) (.inr rfl) same
    · exact foreign _ id _ (.inr rfl) (.inr rfl) same.symm
    · rw [if_pos verified] at same
      exact absurd same (by decide)

theorem startsWith_append (head rest : String) : startsWith (head ++ rest) head = true := by
  simp [startsWith, String.toList_append]

theorem ref_ne_cycle (historyId : String) : "blofin-demo-history:" ++ historyId ≠ cycleRef := by
  intro same
  have started := startsWith_append "blofin-demo-history:" historyId
  rw [same] at started
  exact absurd started (by decide)

/-- A verified row is accepted if its stored size prices it alike. -/
theorem verifiedRow_of_provable (proof : sliver.Provable runtime size figure fee funding) :
    verifiedRow runtime (rowOf runtime sliver) = true ↔ sliver.StoredAlike runtime size := by
  have net : (rowOf runtime sliver).netPnl = some (netOf runtime (money figure) fee funding) :=
    net_of_provable proof
  have result : (rowOf runtime sliver).result =
      some (resultOf (netOf runtime (money figure) fee funding)) :=
    congrArg (fun net => some (Option.elim net TradeResult.open resultOf)) (net_of_provable proof)
  have ref : (rowOf runtime sliver).externalRef =
      some ("blofin-demo-history:" ++ sliver.historyId) := rfl
  have tags := verifiedTag_mem.mpr (verified_of_provable proof)
  have stored : money (netOf runtime (money figure) fee funding) =
      netOf runtime (money figure) fee funding := quantize_quantize 8 _
  unfold verifiedRow
  rw [formulaNet_of_provable proof, net, result, ref, Option.getD_some, Option.getD_some, stored]
  by_cases alike : sliver.StoredAlike runtime size
  · have status : (rowOf runtime sliver).status = .closed := rfl
    have source : (rowOf runtime sliver).source = .blofinDemoManual := rfl
    simp [alike, status, source, startsWith_append, ref_ne_cycle, tags]
  · simp [alike]

theorem verifiedRow_of_unverified (unverified : ¬sliver.verified runtime) :
    verifiedRow runtime (rowOf runtime sliver) = false := by
  rw [verifiedRow, formulaNet_of_unverified unverified]

/-- **Writer and reader.** A first row is read as it was written exactly if its slice does not
prove the venue's figure, or the size that is stored prices the move as the exact one does. -/
theorem row_reads_back_iff (runtime : MirrorRuntime) (sliver : MirrorSlice) :
    (verifiedRow runtime (rowOf runtime sliver) = (draftFromSlice runtime sliver).verified ∧
      (rowOf runtime sliver).netPnl = formulaNet runtime (rowOf runtime sliver)) ↔
    ∀ size figure fee funding, sliver.Provable runtime size figure fee funding →
      sliver.StoredAlike runtime size := by
  change (verifiedRow runtime (rowOf runtime sliver) = sliver.verified runtime ∧
    sliver.net runtime = _) ↔ _
  constructor
  · rintro ⟨same, -⟩ size figure fee funding proof
    rw [verified_of_provable proof] at same
    exact (verifiedRow_of_provable proof).mp same
  · intro alike
    by_cases verified : sliver.verified runtime
    · obtain ⟨size, figure, fee, funding, proof⟩ := verified_iff.mp verified
      have stored := alike size figure fee funding proof
      rw [verified, net_of_provable proof, formulaNet_of_provable proof, if_pos stored]
      exact ⟨(verifiedRow_of_provable proof).mpr stored, rfl⟩
    · rw [verifiedRow_of_unverified verified, net_of_unverified verified,
        formulaNet_of_unverified verified]
      exact ⟨(Bool.eq_false_of_not_eq_true verified).symm, rfl⟩

/-- A long of one contract worth 0.000000015 that moved from 10 to 20. -/
def finestSlice : MirrorSlice where
  historyId := "h1"
  positionId := "p1"
  instId := "BTC-USDT"
  side := "buy"
  direction := .long
  contracts := 1
  maxContracts := 1
  openPrice := 10
  closePrice := 20
  openedAt := 1
  closedAt := 2
  leverage := none
  realized := some (15 / 100000000)
  fee := some 0
  contractValue := some (15 / 1000000000)
  settle := some "USDT"
  sideConflict := false
  funding := some 0
  fundingOk := true

/-- The stored size is a third more than the exact one, so a verified row is refused. -/
theorem finestSlice_refused : (draftFromSlice exactRuntime finestSlice).verified = true ∧
    verifiedRow exactRuntime (rowOf exactRuntime finestSlice) = false ∧
    formulaNet exactRuntime (rowOf exactRuntime finestSlice) = none := by
  decide +kernel

end AlphaTrade.Dashboard
