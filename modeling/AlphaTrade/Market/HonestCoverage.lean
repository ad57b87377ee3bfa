import AlphaTrade.Market.RetainedTrades
import AlphaTrade.Market.ServedWindows
import AlphaTrade.Market.TradeVenue

/-!
# Complete coverage against a growing tape

Every batch of `fetch_ordered_trades` claims complete coverage. It has each print of the window
once exactly when the prints at the ends of what the lineage saw are settled: a print that
arrives with the time of the last proven print and a smaller execution id is never proven, and
the batch that misses it is returned all the same.
-/
namespace AlphaTrade.Market
open Library
open Execution (Instant)

variable {runtime : PyRuntime} {settings : BybitSettings} {hashing : Hashing}
  {tape : PrintTape runtime} {request : TradeRequest} {rows : List (Print × Nat)}
  {batch : OrderedTradeBatch} {p : Print} {n : Nat} {proof proof' : LineageProof}

/-! ## Batches -/

def ContainsOnce (runtime : PyRuntime) (settings : BybitSettings) (hashing : Hashing)
    (request : TradeRequest) (batch : OrderedTradeBatch) (p : Print) : Prop :=
  ∃ trade rank, batch.trades.filter (·.venueTradeId = p.execId) = [trade] ∧
    parseTrade runtime settings hashing request.instrument request.sourceConnectionId
      request.receiveAt (p, rank) = .ok trade

variable {instrument : InstrumentIdentity} {connection : ConnectionId} {trade : TradeEvent}

theorem buildTradeEvent_content {venueTradeId : String} {sequence : Nat} {price quantity : ℚ}
    {buyerIsMaker : Bool} {eventTimestamp receiveTimestamp : Instant}
    {adapterVersion aggressorConvention : String}
    (built : buildTradeEvent hashing instrument venueTradeId sequence price quantity buyerIsMaker
      eventTimestamp receiveTimestamp connection adapterVersion aggressorConvention = .ok trade) :
    trade.toTradeContent =
        { venueTradeId, sequence, instrument, marketType := .perpetual, price, quantity
          quoteQuantity := quoteQuantity price quantity instrument.contractMultiplier
          aggressorSide := aggressorFromBuyerIsMaker buyerIsMaker
          aggressorConvention, eventTimestamp, adapterVersion } ∧
      trade.contentHash = hashing.trade trade.toTradeContent ∧
      trade.receiveTimestamp = receiveTimestamp ∧ trade.sourceConnectionId = connection := by
  obtain ⟨_, -, built⟩ := bind_eq_ok.mp built
  dsimp only at built
  split at built
  · obtain rfl := Except.ok.inj built
    exact ⟨rfl, rfl, rfl, rfl⟩
  · cases built

/-- A parsed print keeps its execution id, its rank and its time. -/
theorem parseTrade_ok {receiveAt : Instant} {row : Print × Nat}
    (parsed : parseTrade runtime settings hashing instrument connection receiveAt row = .ok trade) :
    trade.venueTradeId = row.1.execId ∧ trade.sequence = row.2 ∧
      trade.eventTimestamp = row.1.timeMs * 1000 := by
  obtain ⟨item, rank⟩ := row
  obtain ⟨_, -, parsed⟩ := bind_eq_ok.mp parsed
  obtain ⟨_, -, parsed⟩ := bind_eq_ok.mp parsed
  obtain ⟨_, -, parsed⟩ := bind_eq_ok.mp parsed
  obtain ⟨price, -, parsed⟩ := bind_eq_ok.mp parsed
  obtain ⟨quantity, -, parsed⟩ := bind_eq_ok.mp parsed
  obtain ⟨content, -⟩ := buildTradeEvent_content parsed
  exact ⟨congrArg TradeContent.venueTradeId content, congrArg TradeContent.sequence content,
    congrArg TradeContent.eventTimestamp content⟩

/-- A batch is the rows, parsed and in order, under a claim of complete coverage. -/
theorem batchOf_ok (made : batchOf runtime settings hashing request rows = .ok batch) :
    (∃ raw, rows.mapM (parseTrade runtime settings hashing request.instrument
        request.sourceConnectionId request.receiveAt) = .ok raw ∧
      batch.trades = orderTrades raw) ∧ batch.coverage.completeness = .complete := by
  obtain ⟨raw, parsed, made⟩ := bind_eq_ok.mp made
  obtain ⟨_, -, made⟩ := bind_eq_ok.mp made
  obtain ⟨coverage, covered, made⟩ := bind_eq_ok.mp made
  obtain ⟨_, -, made⟩ := bind_eq_ok.mp made
  obtain ⟨_, -, made⟩ := bind_eq_ok.mp made
  obtain ⟨_, -, made⟩ := bind_eq_ok.mp made
  obtain ⟨_, -, made⟩ := bind_eq_ok.mp made
  obtain rfl := Except.ok.inj made
  refine ⟨⟨raw, parsed, rfl⟩, ?_⟩
  obtain ⟨_, -, covered⟩ := bind_eq_ok.mp covered
  obtain ⟨_, -, covered⟩ := bind_eq_ok.mp covered
  obtain ⟨_, -, covered⟩ := bind_eq_ok.mp covered
  obtain rfl := Except.ok.inj covered
  rfl

/-- Where no name is repeated, one entry has the name of an entry. -/
theorem filter_eq_singleton {α β : Type*} [DecidableEq β] {name : α → β} {items : List α} {a : α}
    (unique : (items.map name).Nodup) (listed : a ∈ items) :
    items.filter (name · = name a) = [a] := by
  induction items with
  | nil => cases listed
  | cons first rest ih =>
    rw [List.map_cons, List.nodup_cons] at unique
    rcases List.mem_cons.mp listed with rfl | later
    · have none : rest.filter (name · = name a) = [] := by
        simp only [List.filter_eq_nil_iff, decide_eq_true_eq]
        exact fun b is same => unique.1 (same ▸ List.mem_map_of_mem is)
      simp [none]
    · have other : name first ≠ name a :=
        fun same => unique.1 (same ▸ List.mem_map_of_mem later)
      simp [other, ih unique.2 later]

/-- A print is in the batch once when it is in the window that was served. -/
theorem containsOnce_iff {startMs endMs : Int}
    (served : ServesWindow tape n request.receiveAt startMs endMs proof proof' rows)
    (made : batchOf runtime settings hashing request rows = .ok batch) (held : p ∈ tape.held n) :
    ContainsOnce runtime settings hashing request batch p ↔ p ∈ rows.map Prod.fst := by
  obtain ⟨⟨raw, parsed, ordered⟩, -⟩ := batchOf_ok made
  have perm : batch.trades.Perm raw := ordered ▸ List.perm_insertionSort _ raw
  have ids : raw.map (·.venueTradeId) = (rows.map Prod.fst).map Print.execId := by
    rw [List.map_map]
    exact map_eq_map_of_mapM (fun _ _ parsed => (parseTrade_ok parsed).1) parsed
  have unique : (batch.trades.map (·.venueTradeId)).Nodup := by
    rw [(perm.map _).nodup_iff, ids]
    exact served.unique
  constructor
  · rintro ⟨trade, rank, once, -⟩
    have listed : trade ∈ batch.trades.filter (·.venueTradeId = p.execId) := by simp [once]
    obtain ⟨listed, named⟩ := List.mem_filter.mp listed
    obtain ⟨row, is, own⟩ := (mem_of_mapM parsed trade).mp (perm.mem_iff.mp listed)
    have shown := List.mem_map_of_mem (f := Prod.fst) is
    have same : row.1.execId = p.execId :=
      (parseTrade_ok own).1.symm.trans (of_decide_eq_true named)
    rwa [eq_of_execId (served.held _ shown) held same] at shown
  · intro shown
    obtain ⟨row, is, rfl⟩ := List.mem_map.mp shown
    have own := List.mem_map_of_mem (f := parseTrade runtime settings hashing request.instrument
      request.sourceConnectionId request.receiveAt) is
    rw [map_of_mapM parsed] at own
    obtain ⟨trade, listed, own⟩ := List.mem_map.mp own
    refine ⟨trade, row.2, ?_, own.symm⟩
    rw [← (parseTrade_ok own.symm).1]
    exact filter_eq_singleton unique (perm.mem_iff.mpr listed)

/-! ## Every call -/

section Calls
variable {actions : List TapeAction} {reading : PageReading} {world : TapeWorld}

/-- A batch is made of what a window of the page is served. -/
theorem Sound.served (sound : Sound settings tape world)
    (answers : tape.Answers world.arrived reading.payload)
    (fetched : (fetchOrderedTrades runtime settings hashing request reading world.source).1 =
      .ok batch) :
    ∃ proof' rows, (fetchOrderedTrades runtime settings hashing request reading
          world.source).2.lineages.lookup request.sourceConnectionId = some proof' ∧
      ServesWindow tape (world.pageMoment settings request reading) request.receiveAt
        (runtime.timestampMs request.start) (runtime.timestampMs request.stop)
        ((world.source.lineages.lookup request.sourceConnectionId).getD .new) proof' rows ∧
      batchOf runtime settings hashing request rows = .ok batch := by
  unfold fetchOrderedTrades at fetched ⊢
  cases reads : world.source.readPage runtime settings request reading with
  | error refused =>
    rw [reads] at fetched
    cases fetched
  | ok page =>
    obtain ⟨prints, cache⟩ := page
    rw [reads] at fetched
    obtain ⟨history, ledger⟩ := sound.opened answers reads
    obtain ⟨-, -, rfl, -⟩ := sound.readPage answers reads
    obtain ⟨rows, served, made⟩ := bind_eq_ok.mp fetched
    obtain ⟨proof', known, window⟩ := (recentTradesCovering_outcome ledger).2 rows served
    exact ⟨proof', rows, known, window, made⟩

/-- A print is in a window of whole milliseconds when its millisecond is. -/
theorem inWindow_iff {start stop startMs endMs timeMs : Int} (first : startMs * 1000 = start)
    (last : endMs * 1000 = stop) : (start ≤ timeMs * 1000 ∧ timeMs * 1000 < stop) ↔
      (startMs ≤ timeMs ∧ timeMs < endMs) := by
  omega

/-- Whatever was read before, a batch that is returned claims complete coverage, and it has every
print of the window once exactly when those at the ends of what the lineage saw are settled. -/
theorem complete_coverage_honest_iff
    (answered : Along (TapeWorld.step runtime settings hashing)
      (fun world action => action.Answered tape world.arrived) .start actions)
    (ran : run (TapeWorld.step runtime settings hashing) .start actions = world)
    (answers : tape.Answers world.arrived reading.payload)
    (startExact : runtime.timestampMs request.start * 1000 = request.start)
    (stopExact : runtime.timestampMs request.stop * 1000 = request.stop)
    (past : request.stop ≤ request.receiveAt)
    (fetched : (fetchOrderedTrades runtime settings hashing request reading world.source).1 =
      .ok batch) :
    batch.coverage.completeness = .complete ∧
    ((∀ p ∈ tape.held (world.pageMoment settings request reading),
        request.start ≤ p.timeMs * 1000 → p.timeMs * 1000 < request.stop →
          ContainsOnce runtime settings hashing request batch p) ↔
      EndsSettled tape (world.pageMoment settings request reading) request.receiveAt
        (runtime.timestampMs request.start) (runtime.timestampMs request.stop)
        ((world.source.lineages.lookup request.sourceConnectionId).getD .new)) := by
  have sound : Sound settings tape world := ran ▸ sound_run answered
  obtain ⟨proof', rows, -, served, made⟩ := sound.served answers fetched
  refine ⟨(batchOf_ok made).2, ?_⟩
  rw [← served.whole_iff (runtime.timestampMs_mono _ _ past)]
  constructor
  · intro whole p held late early
    obtain ⟨after, before⟩ := (inWindow_iff startExact stopExact).mpr ⟨late, early⟩
    exact (containsOnce_iff served made held).mp (whole p held after before)
  · intro whole p held after before
    obtain ⟨late, early⟩ := (inWindow_iff startExact stopExact).mp ⟨after, before⟩
    exact (containsOnce_iff served made held).mpr (whole p held late early)

end Calls

/-! ## A late print -/

def readDigits (text : String) : Except PyRaised Nat :=
  if text.toList ≠ [] ∧ text.toList.all Char.isDigit then
    .ok (text.toList.foldl (fun n c => 10 * n + (c.toNat - '0'.toNat)) 0)
  else .error .valueError

def readInt (text : String) : Except PyRaised Int :=
  match text.toList with
  | '-' :: digits => (readDigits (String.ofList digits)).map fun n => -(n : Int)
  | _ => (readDigits text).map Int.ofNat

theorem milliseconds_mono {m n : Int} (le : m ≤ n) : m.tdiv 1000 ≤ n.tdiv 1000 :=
  Int.tdiv_le_tdiv (by decide) le

theorem milliseconds_seconds (seconds : Int) :
    (seconds * 1000000).tdiv 1000 = seconds * 1000 := by
  rw [show seconds * 1000000 = seconds * 1000 * 1000 by ring]
  exact Int.mul_tdiv_cancel _ (by decide)

/-- Clock readings in whole milliseconds, and numbers and decimals of digits. -/
def sampleRuntime : PyRuntime where
  int
    | .int n => .ok n
    | .bool b => .ok b.toNat
    | .str s => readInt s
    | _ => .error .typeError
  str := sampleBuiltins.str
  eq := sampleBuiltins.eq
  int_int _ := rfl
  eq_bool := sampleBuiltins.eq_bool
  upper := String.toUpper
  lower := String.toLower
  decimal text := (readDigits text).map Nat.cast
  timestampMs instant := instant.tdiv 1000
  timestampMs_mono _ _ := milliseconds_mono
  timestampMs_seconds := milliseconds_seconds

def samplePrint (execId : String) (timeMs : Int) : Print where
  execId := execId
  timeMs := timeMs
  symbol := .str "BTCUSDT"
  price := .str "100"
  size := .str "1"
  side := .str "Buy"
  time := .int timeMs

def sampleRow (p : Print) : PyDict :=
  [("execId", .str p.execId), ("time", p.time), ("symbol", p.symbol), ("price", p.price),
    ("size", p.size), ("side", p.side)]

theorem sampleTimeline :
    Timeline Print.timeMs Print.execId [samplePrint "b" 100, samplePrint "a" 100] where
  ordered := by simp [Ordered, samplePrint]
  unique := by simp [samplePrint]

def sampleTape : PrintTape sampleRuntime where
  prints := [samplePrint "b" 100, samplePrint "a" 100]
  row := sampleRow
  timeline := sampleTimeline
  shown := by decide

def sampleBybitInstrument : InstrumentIdentity :=
  { sampleInstrument with venue := .bybit, instrumentId := "BYBIT:BTCUSDT:PERPETUAL" }

def sampleBybitIdentity : EvidenceMarketIdentity where
  venue := .bybit
  marketType := .perpetual
  instrument := sampleBybitInstrument
  timeframe := some .m5
  source := ⟨.bybitUsdtPerpetualPublic, bybitName, bybitAdapterVersion, bybitAggressorConvention⟩
  provenance := ⟨bybitName, .bybitUsdtPerpetualPublic, bybitAdapterVersion, true, false, false,
    false, none⟩
  sameVenue := rfl
  sameMarket := rfl

def sampleSettings : BybitSettings := ⟨sampleBybitInstrument, false⟩

def sampleRequest : TradeRequest where
  identity := sampleBybitIdentity
  instrument := sampleBybitInstrument
  start := 100000
  stop := 1000000
  sourceConnectionId := 0
  receiveAt := 1000000

def readingOf (tape : PrintTape sampleRuntime) (arrived : Nat) : PageReading :=
  ⟨.ok (.list ((tape.held arrived).map fun p => some (tape.row p))), false⟩

theorem readingOf_answers {tape : PrintTape sampleRuntime} (few : tape.prints.length ≤ 1000)
    (arrived : Nat) : tape.Answers arrived (readingOf tape arrived).payload := by
  intro rows read
  obtain rfl := PyPayload.list.inj (Except.ok.inj read)
  have all : newest recentTradeLimit (tape.held arrived) = tape.held arrived := by
    have : (tape.held arrived).length ≤ 1000 := by
      simp only [PrintTape.held, List.length_take]
      omega
    simp [newest, recentTradeLimit, show (tape.held arrived).length - 1000 = 0 by omega]
  rw [all]

def sampleActions : List TapeAction :=
  [.arrive, .fetchOrderedTrades sampleRequest (readingOf sampleTape 1), .arrive]

theorem sampleActions_answered :
    Along (TapeWorld.step sampleRuntime sampleSettings sampleHashing)
      (fun world action => action.Answered sampleTape world.arrived) .start sampleActions :=
  ⟨trivial, readingOf_answers (by decide) 1, trivial, trivial⟩

def sampleWorld : TapeWorld :=
  run (TapeWorld.step sampleRuntime sampleSettings sampleHashing) .start sampleActions

theorem sampleWorld_fetched :
    ((fetchOrderedTrades sampleRuntime sampleSettings sampleHashing sampleRequest
      (readingOf sampleTape 2) sampleWorld.source).1.map fun batch =>
        (batch.coverage.completeness, batch.trades.map (·.venueTradeId))) =
      .ok (.complete, ["b"]) := by
  decide +kernel

/-- The second print is in the window of a batch that claims complete coverage without it. -/
theorem late_print_is_missed :
    Along (TapeWorld.step sampleRuntime sampleSettings sampleHashing)
        (fun world action => action.Answered sampleTape world.arrived) .start sampleActions ∧
      sampleTape.Answers sampleWorld.arrived (readingOf sampleTape 2).payload ∧
      ∃ batch, (fetchOrderedTrades sampleRuntime sampleSettings sampleHashing sampleRequest
          (readingOf sampleTape 2) sampleWorld.source).1 = .ok batch ∧
        batch.coverage.completeness = .complete ∧
        samplePrint "a" 100 ∈ sampleTape.held
          (sampleWorld.pageMoment sampleSettings sampleRequest (readingOf sampleTape 2)) ∧
        sampleRequest.start ≤ 100 * 1000 ∧ 100 * 1000 < sampleRequest.stop ∧
        ¬ ContainsOnce sampleRuntime sampleSettings sampleHashing sampleRequest batch
          (samplePrint "a" 100) := by
  obtain ⟨batch, fetched, shown⟩ := map_eq_ok.mp sampleWorld_fetched
  obtain ⟨complete, ids⟩ := Prod.mk.inj shown
  refine ⟨sampleActions_answered, readingOf_answers (by decide) 2, batch, fetched, complete,
    by decide, by decide, by decide, ?_⟩
  rintro ⟨trade, rank, once, -⟩
  have listed : trade ∈ batch.trades.filter (·.venueTradeId = "a") := by
    rw [show "a" = (samplePrint "a" 100).execId from rfl, once]
    exact List.mem_singleton_self trade
  obtain ⟨listed, named⟩ := List.mem_filter.mp listed
  have here := List.mem_map_of_mem (f := fun trade : TradeEvent => trade.venueTradeId) listed
  rw [ids, List.mem_singleton, of_decide_eq_true named] at here
  exact absurd here (by decide)

/-- The first page has the only print that had arrived. -/
theorem first_page_honest :
    ∃ batch, (fetchOrderedTrades sampleRuntime sampleSettings sampleHashing sampleRequest
        (readingOf sampleTape 1) (TapeWorld.mk 1 0 .new).source).1 = .ok batch ∧
      batch.coverage.completeness = .complete ∧
      ((∀ p ∈ sampleTape.held 1, sampleRequest.start ≤ p.timeMs * 1000 →
          p.timeMs * 1000 < sampleRequest.stop →
            ContainsOnce sampleRuntime sampleSettings sampleHashing sampleRequest batch p) ↔
        EndsSettled sampleTape 1 sampleRequest.receiveAt 100 1000 .new) := by
  have read : ((fetchOrderedTrades sampleRuntime sampleSettings sampleHashing sampleRequest
      (readingOf sampleTape 1) (TapeWorld.mk 1 0 .new).source).1.map fun batch =>
        batch.coverage.completeness) = .ok .complete := by decide +kernel
  obtain ⟨batch, fetched, -⟩ := map_eq_ok.mp read
  have answered : Along (TapeWorld.step sampleRuntime sampleSettings sampleHashing)
      (fun world action => action.Answered sampleTape world.arrived) .start [.arrive] :=
    ⟨trivial, trivial⟩
  have ran : run (TapeWorld.step sampleRuntime sampleSettings sampleHashing) .start [.arrive] =
      ⟨1, 0, .new⟩ := rfl
  exact ⟨batch, fetched, complete_coverage_honest_iff answered ran
    (readingOf_answers (by decide) 1) (by decide) (by decide) (by decide) fetched⟩

end AlphaTrade.Market
