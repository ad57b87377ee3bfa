import Mathlib.Data.Finset.Sort
import AlphaTrade.Dashboard.ActivityRoundTrips
import AlphaTrade.Journal.Projector
import AlphaTrade.Library.DecimalText
import AlphaTrade.Risk.Accounting

/-!
# The mirror of hand-traded positions

`drafts_from_raw` reads the venue's rows into slices, one for each close of a position, gives each
slice its funding bills and its orders, and drafts a journal row of each. A slice is verified if its
price move times its size is the venue's figure and its fee and its funding are known.

Times are milliseconds. The slices that are read have distinct history ids, which stand for their
identity.
-/
namespace AlphaTrade.Dashboard
open Library
open Journal (TradeDirection TradeResult)
open Risk (JournalTradeStatus)

/-- The case mapping of texts, and the rounding of a decimal operation to the digits that its
context has. -/
structure MirrorRuntime where
  upper : String → String
  lower : String → String
  rounded : ℚ → ℚ
  rounded_zero : rounded 0 = 0

def exactRuntime : MirrorRuntime := ⟨id, id, id, rfl⟩

/-- A value of a venue's row: a text, or what `str` makes of another value. -/
inductive RawValue where
  | text (value : String)
  | other (str : String)
  deriving DecidableEq

/-- `row.get` of a venue's row. -/
abbrev RawRow := String → Option RawValue

def textOf : Option RawValue → Option String
  | some (.text value) => some value
  | _ => none

def nameOf (value : Option RawValue) : Option String := (textOf value).filter (· ≠ "")

/-- `_decimal` -/
def decimalOf (value : Option RawValue) : Option ℚ :=
  match textOf value with
  | none => none
  | some text =>
    if isBlank text then none
    else match PyDecimal.ofText text with
      | some (.finite negative coefficient exponent) =>
        some (PyDecimal.finite negative coefficient exponent).toRat
      | _ => none

/-- `_time` -/
def timeOf (value : Option RawValue) : Option Int :=
  (decimalOf value).bind fun number =>
    if number < 0 ∨ number ≠ ⌊number⌋ then none else some ⌊number⌋

/-- `_symbol` -/
def symbolOf (runtime : MirrorRuntime) (instId : String) : String :=
  let text := (runtime.upper (strip instId)).toList
  let text := if "-SWAP".toList.isSuffixOf text then text.take (text.length - 5) else text
  String.ofList (text.filter fun c => c ≠ '-' ∧ c ≠ '_')

/-- `_direction_from_side` -/
def directionFromSide (side positionSide : String) : Option TradeDirection × Bool :=
  let direction : Option TradeDirection :=
    if side = "buy" then some .long else if side = "sell" then some .short else none
  match direction with
  | none => (none, false)
  | some direction =>
    if positionSide = "" ∨ positionSide = "net" then (some direction, false)
    else
      let expected := match direction with
        | .long => "long"
        | .short => "short"
      (some direction, positionSide ≠ expected)

structure Instrument where
  contractValue : ℚ
  settle : String
  deriving DecidableEq

/-- `_instruments`: of two rows the later counts, and rows that differ are a conflict. -/
def readInstruments (runtime : MirrorRuntime) (rows : List RawRow) :
    Table String Instrument × Bool :=
  rows.foldl (fun (found, conflict) row =>
    match textOf (row "instId"), decimalOf (row "contractValue"), textOf (row "settleCurrency") with
    | some instId, some value, some settle =>
      if value ≤ 0 then (found, conflict)
      else
        let current : Instrument := ⟨value, runtime.upper settle⟩
        let differs := (found.find instId).any fun previous => previous ≠ current
        (found.put instId current, conflict || differs)
    | _, _, _ => (found, conflict)) (.empty, false)

/-! ## Slices -/

/-- One close of a position, `_Slice`. -/
structure MirrorSlice where
  historyId : String
  positionId : String
  instId : String
  side : String
  direction : TradeDirection
  contracts : ℚ
  maxContracts : ℚ
  openPrice : ℚ
  closePrice : ℚ
  openedAt : Int
  closedAt : Int
  leverage : Option ℚ
  realized : Option ℚ
  fee : Option ℚ
  contractValue : Option ℚ
  settle : Option String
  sideConflict : Bool
  funding : Option ℚ := none
  fundingOk : Bool := false
  stop : Option ℚ := none
  target : Option ℚ := none
  orderIds : List String := []
  deriving DecidableEq

def positive (value : Option ℚ) : Option ℚ := value.filter (0 < ·)

/-- The slice of a row whose identity is known. -/
def sliceOf (instruments : Table String Instrument) (row : RawRow)
    (historyId positionId instId side : String) : Option MirrorSlice := do
  let contracts ← positive (decimalOf (row "closePositions"))
  let maxContracts ← positive (decimalOf (row "maxPositions"))
  let openPrice ← positive (decimalOf (row "openAveragePrice"))
  let closePrice ← positive (decimalOf (row "closeAveragePrice"))
  let openedAt ← timeOf (row "createTime")
  let closedAt ← timeOf (row "updateTime")
  let (direction, conflict) := directionFromSide side ((textOf (row "positionSide")).getD "")
  let direction ← direction
  let listed := instruments.find instId
  some {
    historyId, positionId, instId, side, direction, contracts, maxContracts, openPrice, closePrice
    openedAt, closedAt
    leverage := positive (decimalOf (row "leverage"))
    realized := decimalOf (row "realizedPnl")
    fee := decimalOf (row "fee")
    contractValue := listed.map Instrument.contractValue
    settle := listed.map Instrument.settle
    sideConflict := conflict }

/-- The variables of `_parse_slices`. Its `seen` are the history ids of its slices. -/
structure Parsed where
  slices : List MirrorSlice
  skipped : Nat
  incomplete : Bool

def Parsed.next (instruments : Table String Instrument) (parsed : Parsed) (row : RawRow) :
    Parsed :=
  match nameOf (row "historyId"), nameOf (row "positionId"), nameOf (row "instId"),
    nameOf (row "side") with
  | some historyId, some positionId, some instId, some side =>
    if parsed.slices.any (·.historyId = historyId) then
      { parsed with skipped := parsed.skipped + 1 }
    else match sliceOf instruments row historyId positionId instId side with
      | some sliver => { parsed with slices := parsed.slices ++ [sliver] }
      | none => { parsed with skipped := parsed.skipped + 1, incomplete := true }
  | _, _, _, _ => { parsed with skipped := parsed.skipped + 1, incomplete := true }

def parseSlices (instruments : Table String Instrument) (history : List RawRow) : Parsed :=
  history.foldl (Parsed.next instruments) ⟨[], 0, false⟩

/-! ## Funding -/

/-- `left.opened_at < right.closed_at and right.opened_at < left.closed_at` -/
def MirrorSlice.overlaps (left right : MirrorSlice) : Bool :=
  left.openedAt < right.closedAt && right.openedAt < left.closedAt

structure Bill where
  instId : String
  time : Int
  amount : ℚ
  deriving DecidableEq

def billOf (row : RawRow) : Option Bill := do
  some ⟨← nameOf (row "instId"), ← timeOf (row "fundingTime"), ← decimalOf (row "fundingFee")⟩

def parsedBills (rows : List RawRow) : List Bill := rows.filterMap billOf

def unparsedUnknown (rows : List RawRow) : Bool :=
  rows.any fun row => (billOf row).isNone && (nameOf (row "instId")).isNone

def unparsedInstruments (rows : List RawRow) : List String :=
  (rows.filter fun row => (billOf row).isNone).filterMap fun row => nameOf (row "instId")

namespace MirrorSlice

def ambiguous (slices : List MirrorSlice) (sliver : MirrorSlice) : Bool :=
  slices.any fun other =>
    other.historyId ≠ sliver.historyId && other.instId = sliver.instId &&
      if other.positionId = sliver.positionId then other.closedAt = sliver.closedAt
      else sliver.overlaps other

def previous (slices : List MirrorSlice) (sliver : MirrorSlice) : List Int :=
  (slices.filter fun other => other.positionId = sliver.positionId &&
    other.historyId ≠ sliver.historyId && other.closedAt ≤ sliver.closedAt).map closedAt

/-- `max(previous) if previous else sliver.opened_at` -/
def start (slices : List MirrorSlice) (sliver : MirrorSlice) : Int :=
  (sliver.previous slices).max?.getD sliver.openedAt

def windowed (slices : List MirrorSlice) (windowBegin : Int) (sliver : MirrorSlice) : Bool :=
  !(sliver.ambiguous slices || sliver.openedAt < windowBegin)

def covers (slices : List MirrorSlice) (sliver : MirrorSlice) (bill : Bill) : Bool :=
  bill.instId = sliver.instId &&
    ((sliver.start slices < bill.time && bill.time ≤ sliver.closedAt) ||
      ((sliver.previous slices).isEmpty && sliver.openedAt ≤ bill.time &&
        bill.time ≤ sliver.closedAt))

def owners (slices : List MirrorSlice) (windowBegin : Int) (bill : Bill) : List MirrorSlice :=
  slices.filter fun sliver => sliver.windowed slices windowBegin && sliver.covers slices bill

def shared (slices : List MirrorSlice) (windowBegin : Int) (bills : List Bill)
    (sliver : MirrorSlice) : Bool :=
  bills.any fun bill =>
    1 < (owners slices windowBegin bill).length && sliver ∈ owners slices windowBegin bill

def total (runtime : MirrorRuntime) (bills : List Bill) : ℚ :=
  bills.foldl (fun total bill => runtime.rounded (total + runtime.rounded (-bill.amount))) 0

def funded (slices : List MirrorSlice) (rows : List RawRow) (windowBegin : Int)
    (sliver : MirrorSlice) : Bool :=
  sliver.windowed slices windowBegin && !sliver.shared slices windowBegin (parsedBills rows) &&
    !unparsedUnknown rows && sliver.instId ∉ unparsedInstruments rows

def withFunding (runtime : MirrorRuntime) (slices : List MirrorSlice) (rows : List RawRow)
    (windowBegin : Int) (sliver : MirrorSlice) : MirrorSlice :=
  if sliver.funded slices rows windowBegin then
    { sliver with
      funding := some (money (total runtime ((parsedBills rows).filter (sliver.covers slices))))
      fundingOk := true }
  else { sliver with funding := none, fundingOk := false }

end MirrorSlice

/-- `_assign_funding` -/
def assignFunding (runtime : MirrorRuntime) (slices : List MirrorSlice) (rows : List RawRow)
    (windowBegin : Int) : List MirrorSlice × Bool :=
  (slices.map (·.withFunding runtime slices rows windowBegin),
    !(unparsedInstruments rows).isEmpty || unparsedUnknown rows)

/-! ## Orders -/

/-- The orders that may have set the levels of a slice. -/
def levelOrders (runtime : MirrorRuntime) (sliver : MirrorSlice) (orders : List RawRow)
    (orderIds : Option (List String)) : List RawRow :=
  orders.filter fun row =>
    row "instId" = some (.text sliver.instId) && row "side" = some (.text sliver.side) &&
    runtime.lower (match row "reduceOnly" with
      | none => "false"
      | some (.text value) => value
      | some (.other str) => str) ≠ "true" &&
    (timeOf (row "createTime")).any (fun time =>
      sliver.openedAt - 60000 ≤ time && time ≤ sliver.closedAt) &&
    orderIds.all fun orderIds => (textOf (row "orderId")).any (· ∈ orderIds)

/-- `_order_levels` -/
def orderLevels (runtime : MirrorRuntime) (sliver : MirrorSlice) (orders : List RawRow)
    (orderIds : Option (List String)) : Finset ℚ × Finset ℚ :=
  let rows := levelOrders runtime sliver orders orderIds
  ((rows.filterMap fun row => positive (decimalOf (row "slTriggerPrice"))).toFinset,
    (rows.filterMap fun row => positive (decimalOf (row "tpTriggerPrice"))).toFinset)

def fillOrder (sliver : MirrorSlice) (row : RawRow) : Option String :=
  if row "instId" = some (.text sliver.instId) ∧
      (timeOf (row "ts")).any (fun time => sliver.openedAt ≤ time && time ≤ sliver.closedAt) then
    nameOf (row "orderId")
  else none

def fillOrders (sliver : MirrorSlice) (fills : List RawRow) : List String :=
  fills.foldl (fun orderIds row =>
    match fillOrder sliver row with
    | some orderId => if orderId ∈ orderIds then orderIds else orderIds ++ [orderId]
    | none => orderIds) []

def theOnly (levels : Finset ℚ) : Option ℚ :=
  if levels.card = 1 then (levels.sort (· ≤ ·)).head? else none

/-- `_attach_orders` -/
def attachOrders (runtime : MirrorRuntime) (fills orders : List RawRow) (sliver : MirrorSlice) :
    MirrorSlice :=
  let orderIds := fillOrders sliver fills
  let levels := orderLevels runtime sliver orders (if orderIds = [] then none else some orderIds)
  let levels := if levels.1 = ∅ ∧ levels.2 = ∅ then orderLevels runtime sliver orders none
    else levels
  { sliver with
    orderIds := orderIds.take 8
    stop := theOnly levels.1
    target := theOnly levels.2 }

/-! ## Drafts -/

/-- One journal upsert. -/
structure MirrorDraft where
  externalRef : String
  positionId : String
  historyIds : List String
  symbol : String
  direction : TradeDirection
  status : JournalTradeStatus
  entryPrice : Option ℚ
  exitPrice : Option ℚ
  entryTime : Option Int
  exitTime : Option Int
  size : Option ℚ
  leverage : Option ℚ
  fees : Option ℚ
  funding : Option ℚ
  slippage : Option ℚ
  grossPnl : Option ℚ
  netPnl : Option ℚ
  result : TradeResult
  exitReason : Option String
  stop : Option ℚ
  target : Option ℚ
  plannedRisk : Option ℚ
  verified : Bool
  priceMatches : Bool
  orderIds : List String
  openTracker : Bool
  deriving DecidableEq

def priceMove (runtime : MirrorRuntime) (direction : TradeDirection) (entry exit : ℚ) : ℚ :=
  let delta := runtime.rounded (exit - entry)
  match direction with
  | .long => delta
  | .short => runtime.rounded (-delta)

namespace MirrorSlice

/-- `sliver.contracts * sliver.contract_value` -/
def exactSize (runtime : MirrorRuntime) (sliver : MirrorSlice) : Option ℚ :=
  sliver.contractValue.map fun value => runtime.rounded (sliver.contracts * value)

/-- `_price_pnl` -/
def pricePnl (runtime : MirrorRuntime) (sliver : MirrorSlice) : Option ℚ :=
  (sliver.exactSize runtime).map fun size =>
    money (runtime.rounded
      (priceMove runtime sliver.direction sliver.openPrice sliver.closePrice * size))

def priceMatches (runtime : MirrorRuntime) (sliver : MirrorSlice) : Bool :=
  (sliver.pricePnl runtime).isSome && sliver.pricePnl runtime = sliver.realized.map money &&
    !sliver.sideConflict && sliver.settle = some "USDT"

/-- `_protective` -/
def protective (sliver : MirrorSlice) : Bool :=
  sliver.stop.any fun stop =>
    match sliver.direction with
    | .long => stop < sliver.openPrice
    | .short => sliver.openPrice < stop

def verified (runtime : MirrorRuntime) (sliver : MirrorSlice) : Bool :=
  sliver.priceMatches runtime && sliver.fee.isSome && sliver.fundingOk && sliver.funding.isSome

end MirrorSlice

def netOf (runtime : MirrorRuntime) (gross fees funding : ℚ) : ℚ :=
  money (runtime.rounded (runtime.rounded (gross - fees) - funding))

def resultOf (net : ℚ) : TradeResult :=
  if 0 < net then .win else if net < 0 then .loss else .breakeven

namespace MirrorSlice

def net (runtime : MirrorRuntime) (sliver : MirrorSlice) : Option ℚ :=
  if sliver.verified runtime then do
    some (netOf runtime (← sliver.pricePnl runtime) (← sliver.fee) (← sliver.funding))
  else none

def risk (runtime : MirrorRuntime) (sliver : MirrorSlice) : Option ℚ :=
  if sliver.verified runtime ∧ sliver.protective then do
    let size ← (sliver.exactSize runtime).map money
    let stop ← sliver.stop
    positive (some (money (runtime.rounded
      (runtime.rounded |runtime.rounded (sliver.openPrice - stop)| * size))))
  else none

def reason (runtime : MirrorRuntime) (sliver : MirrorSlice) : String :=
  if sliver.verified runtime then
    if sliver.contracts = sliver.maxContracts then "closed" else "partially_closed"
  else "unverified"

end MirrorSlice

/-- `_draft_from_slice` -/
def draftFromSlice (runtime : MirrorRuntime) (sliver : MirrorSlice) : MirrorDraft where
  externalRef := "blofin-demo-history:" ++ sliver.historyId
  positionId := sliver.positionId
  historyIds := [sliver.historyId]
  symbol := symbolOf runtime sliver.instId
  direction := sliver.direction
  status := .closed
  entryPrice := some sliver.openPrice
  exitPrice := some sliver.closePrice
  entryTime := some sliver.openedAt
  exitTime := some sliver.closedAt
  size := (sliver.exactSize runtime).map money
  leverage := sliver.leverage
  fees := if sliver.verified runtime then sliver.fee else none
  funding := if sliver.verified runtime then sliver.funding else none
  slippage := if sliver.verified runtime then some 0 else none
  grossPnl := if sliver.verified runtime then sliver.pricePnl runtime else none
  netPnl := sliver.net runtime
  result := (sliver.net runtime).elim .open resultOf
  exitReason := some (sliver.reason runtime)
  stop := if sliver.protective then sliver.stop else none
  target := sliver.target
  plannedRisk := sliver.risk runtime
  verified := sliver.verified runtime
  priceMatches := sliver.priceMatches runtime
  orderIds := sliver.orderIds
  openTracker := false

/-- `_open_direction` -/
def openDirection (row : RawRow) (quantity : ℚ) : Option TradeDirection :=
  match textOf (row "positionSide") with
  | some "long" => some .long
  | some "short" => some .short
  | some "net" => if 0 < quantity then some .long else if quantity < 0 then some .short else none
  | _ => none

/-- The variables of `_open_drafts`. -/
structure OpenDrafts where
  drafts : List MirrorDraft
  skipped : Nat
  complete : Bool

def OpenDrafts.next (runtime : MirrorRuntime) (instruments : Table String Instrument)
    (opens : OpenDrafts) (row : RawRow) : OpenDrafts :=
  match nameOf (row "positionId"), nameOf (row "instId"), decimalOf (row "positions") with
  | some positionId, some instId, some quantity =>
    if quantity = 0 then { opens with skipped := opens.skipped + 1 }
    else match openDirection row quantity with
      | none => { opens with skipped := opens.skipped + 1, complete := false }
      | some direction =>
        let stamp := (textOf (row "createTime")).getD "na"
        { opens with drafts := opens.drafts ++ [{
            externalRef := "blofin-demo-open:" ++ positionId ++ ":" ++ stamp
            positionId
            historyIds := []
            symbol := symbolOf runtime instId
            direction
            status := .open
            entryPrice := positive (decimalOf (row "averagePrice"))
            exitPrice := none
            entryTime := timeOf (row "createTime")
            exitTime := none
            size := (instruments.find instId).map fun listed =>
              money (runtime.rounded (runtime.rounded |quantity| * listed.contractValue))
            leverage := positive (decimalOf (row "leverage"))
            fees := none
            funding := none
            slippage := none
            grossPnl := none
            netPnl := none
            result := .open
            exitReason := none
            stop := none
            target := none
            plannedRisk := none
            verified := false
            priceMatches := false
            orderIds := []
            openTracker := true }] }
  | _, _, _ => { opens with skipped := opens.skipped + 1, complete := false }

/-- The arguments of `drafts_from_raw`. -/
structure RawInput where
  instruments : List RawRow
  positions : List RawRow
  history : List RawRow
  fills : List RawRow
  funding : List RawRow
  orders : List RawRow
  windowBegin : Int

structure BuildResult where
  closed : List MirrorDraft
  opens : List MirrorDraft
  skipped : Nat
  historyIncomplete : Bool
  fundingIncomplete : Bool
  positionsComplete : Bool
  instrumentsIncomplete : Bool

/-- The slices of an input, as `_parse_slices` reads them. -/
def RawInput.slices (runtime : MirrorRuntime) (raw : RawInput) : List MirrorSlice :=
  (parseSlices (readInstruments runtime raw.instruments).1 raw.history).slices

/-- `drafts_from_raw` -/
def draftsFromRaw (runtime : MirrorRuntime) (raw : RawInput) : BuildResult :=
  let (instruments, instrumentsIncomplete) := readInstruments runtime raw.instruments
  let parsed := parseSlices instruments raw.history
  let (funded, fundingIncomplete) :=
    assignFunding runtime parsed.slices raw.funding raw.windowBegin
  let attached := funded.map (attachOrders runtime raw.fills raw.orders)
  let opens := raw.positions.foldl (OpenDrafts.next runtime instruments) ⟨[], 0, true⟩
  { closed := attached.map (draftFromSlice runtime)
    opens := opens.drafts
    skipped := parsed.skipped + opens.skipped
    historyIncomplete := parsed.incomplete
    fundingIncomplete
    positionsComplete := opens.complete
    instrumentsIncomplete }

end AlphaTrade.Dashboard
