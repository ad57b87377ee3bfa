import AlphaTrade.Market.HonestCoverage
import AlphaTrade.Market.ReducedBars

/-!
# Exact order flow

A snapshot is returned when the lineage started before the window and has a proven print at or
behind its end. Between the two nothing is missing, so the reduced trades are the prints of the
tape in the window, in the order of their stamps, and numbering them from zero hides which reads
they were proven by.
-/
namespace AlphaTrade.Market
open Library
open Execution (Instant)

variable {runtime : PyRuntime} {settings : BybitSettings} {hashing : Hashing}
  {tape : PrintTape runtime} {request : TradeRequest} {rows : List (Print × Nat)}
  {batch : OrderedTradeBatch} {n : Nat} {receiveAt : Instant} {startMs endMs : Int}
  {proof proof' : LineageProof} {instrument : InstrumentIdentity}

/-! ## The prints of a window -/

def PrintTape.window (tape : PrintTape runtime) (startMs endMs : Int) : List Print :=
  (tape.prints.filter fun p => startMs ≤ p.timeMs ∧ p.timeMs < endMs).insertionSort
    fun left right => stamp Print.timeMs Print.execId left ≤ stamp Print.timeMs Print.execId right

theorem mem_window {p : Print} : p ∈ tape.window startMs endMs ↔
    p ∈ tape.prints ∧ startMs ≤ p.timeMs ∧ p.timeMs < endMs := by
  simp [PrintTape.window, List.mem_filter]

/-- Where the lineage starts before the window and ends behind it, the window is exact. -/
theorem ServesWindow.exact (served : ServesWindow tape n receiveAt startMs endMs proof proof' rows)
    (before : ∃ oldest ∈ proof'.initialOldestMs, oldest < startMs)
    (behind : ∃ newest ∈ proof'.proven.getLast?, endMs ≤ newest.timeMs) :
    rows.map Prod.fst = tape.window startMs endMs := by
  obtain ⟨_, _, fromMs, oldestMs, anchor, place, advanced, within, -⟩ := served.advanced
  have tail := advanced.tail
  have aged : oldestMs < startMs := by simpa [tail.oldest] using before
  have ended : endMs ≤ anchor.timeMs := by simpa [tail.last] using behind
  have anchored := tail.held anchor tail.anchor_proven
  have alive : Alive tape n anchor :=
    (tape.mem_page.mp (List.mem_of_getLast? advanced.last)).1
  have members : ∀ p, p ∈ rows.map Prod.fst ↔
      p ∈ tape.prints.filter fun p => startMs ≤ p.timeMs ∧ p.timeMs < endMs := by
    intro p
    rw [served.mem_rows, List.mem_filter, decide_eq_true_eq]
    constructor
    · rintro ⟨proven, inside⟩
      exact ⟨List.mem_of_mem_take (tail.held p proven), inside⟩
    · rintro ⟨logged, late, early⟩
      refine ⟨?_, late, early⟩
      -- what arrives behind the last proven print is no earlier than it
      have held : p ∈ tape.held n := by
        by_contra arrives
        have first := (mem_take_iff (List.mem_of_mem_take anchored)).mp anchored
        have later : n ≤ tape.prints.idxOf p :=
          not_lt.mp fun h => arrives ((mem_take_iff logged).mpr h)
        have := tape.timeline.ordered.le_of_idxOf_le (List.mem_of_mem_take anchored) logged
          (by omega)
        omega
      refine (tail.whole alive p held (within.trans late) (by omega) (by omega)).resolve_right
        fun isLate => ?_
      have := isLate.level
      omega
  have total : Std.Total fun left right : Print =>
      stamp Print.timeMs Print.execId left ≤ stamp Print.timeMs Print.execId right :=
    ⟨fun _ _ => le_total _ _⟩
  have trans : IsTrans Print fun left right =>
      stamp Print.timeMs Print.execId left ≤ stamp Print.timeMs Print.execId right :=
    ⟨fun _ _ _ => le_trans⟩
  have sorted : (rows.map Prod.fst).insertionSort (fun left right =>
      stamp Print.timeMs Print.execId left ≤ stamp Print.timeMs Print.execId right) =
        rows.map Prod.fst :=
    List.Pairwise.insertionSort_eq (served.rising.imp fun lower => lower.le)
  have unique : ((tape.prints.filter fun p => startMs ≤ p.timeMs ∧ p.timeMs < endMs).map
      Print.execId).Nodup := tape.timeline.unique.sublist (List.filter_sublist.map _)
  have perm := (List.perm_ext_iff_of_nodup served.unique.of_map unique.of_map).mpr members
  rw [← sorted, insertionSort_eq_of_perm perm unique]
  rfl

/-- Along a window the ranks rise. -/
theorem ServesWindow.ranks_rise
    (served : ServesWindow tape n receiveAt startMs endMs proof proof' rows) :
    rows.Pairwise fun left right => left.2 < right.2 := by
  obtain ⟨_, ranks, fromMs, oldestMs, anchor, place, advanced, -, known⟩ := served.advanced
  obtain ⟨first, row⟩ := advanced.tail.row
  have rises : proof'.proven.Pairwise fun left right => ∀ i j,
      ranks.rank left.execId = some i → ranks.rank right.execId = some j → i < j := by
    refine List.pairwise_iff_getElem.mpr fun a b inside inside' lower i j here there => ?_
    rw [row.rank_getElem (List.getElem?_eq_getElem inside)] at here
    rw [row.rank_getElem (List.getElem?_eq_getElem inside')] at there
    simp only [Option.some.injEq] at here there
    omega
  have window := rises.sublist (List.filter_sublist (p := fun p =>
    decide (startMs ≤ p.timeMs ∧ p.timeMs < endMs)))
  rw [← served.window] at window
  refine (List.Pairwise.and_mem.mp (List.pairwise_map.mp window)).imp ?_
  exact fun ⟨left, right, lower⟩ => lower _ _ (known _ left) (known _ right)

/-! ## What a print is parsed to -/

def amount (runtime : PyRuntime) (value : PyJson) : ℚ :=
  match runtime.decimal (runtime.str value) with
  | .ok amount => amount
  | .error _ => 0

namespace Print

def base (runtime : PyRuntime) (p : Print) : ℚ := amount runtime p.size

def quote (runtime : PyRuntime) (instrument : InstrumentIdentity) (p : Print) : ℚ :=
  quoteQuantity (amount runtime p.price) (p.base runtime) instrument.contractMultiplier

def taker (runtime : PyRuntime) (p : Print) : AggressorSide :=
  if runtime.lower (runtime.str p.side) = "sell" then .sell else .buy

def content (runtime : PyRuntime) (instrument : InstrumentIdentity) (p : Print)
    (sequence : Nat) : TradeContent where
  venueTradeId := p.execId
  sequence := sequence
  instrument := instrument
  marketType := .perpetual
  price := amount runtime p.price
  quantity := p.base runtime
  quoteQuantity := p.quote runtime instrument
  aggressorSide := p.taker runtime
  aggressorConvention := bybitAggressorConvention
  eventTimestamp := p.timeMs * 1000
  adapterVersion := bybitAdapterVersion

end Print

theorem amount_of_decimal {value : PyJson} {read : ℚ}
    (decimal : (runtime.decimal (runtime.str value)).mapError MarketError.raised = .ok read) :
    amount runtime value = read := by
  unfold amount
  cases result : runtime.decimal (runtime.str value) with
  | error raised =>
    rw [result] at decimal
    cases decimal
  | ok _ =>
    rw [result] at decimal
    exact Except.ok.inj decimal

theorem parseTrade_content {connection : ConnectionId} {row : Print × Nat} {trade : TradeEvent}
    (parsed : parseTrade runtime settings hashing instrument connection receiveAt row =
      .ok trade) : trade.toTradeContent = row.1.content runtime instrument row.2 := by
  obtain ⟨item, rank⟩ := row
  obtain ⟨_, -, parsed⟩ := bind_eq_ok.mp parsed
  obtain ⟨_, -, parsed⟩ := bind_eq_ok.mp parsed
  obtain ⟨_, -, parsed⟩ := bind_eq_ok.mp parsed
  obtain ⟨price, priced, parsed⟩ := bind_eq_ok.mp parsed
  obtain ⟨quantity, sized, parsed⟩ := bind_eq_ok.mp parsed
  rw [(buildTradeEvent_content parsed).1, ← amount_of_decimal priced, ← amount_of_decimal sized]
  simp only [Print.content, Print.quote, Print.base, Print.taker, aggressorFromBuyerIsMaker,
    decide_eq_true_eq]

def renumbered (hashing : Hashing) (trades : List TradeEvent) : List TradeEvent :=
  trades.mapIdx fun index trade => (trade.withSequence index).withContentHash hashing

def TradeEvent.hashed (trade : TradeEvent) : TradeContent × String :=
  (trade.toTradeContent, trade.contentHash)

def hashedWindow (runtime : PyRuntime) (hashing : Hashing) (instrument : InstrumentIdentity)
    (prints : List Print) : List (TradeContent × String) :=
  prints.mapIdx fun index p =>
    (p.content runtime instrument index, hashing.trade (p.content runtime instrument index))

/-- The trades that are reduced are the prints of the window. -/
theorem renumbered_window
    (served : ServesWindow tape n receiveAt startMs endMs proof proof' rows)
    (made : batchOf runtime settings hashing request rows = .ok batch) :
    (renumbered hashing batch.trades).map TradeEvent.hashed =
      hashedWindow runtime hashing request.instrument (rows.map Prod.fst) := by
  obtain ⟨⟨raw, parsed, ordered⟩, -⟩ := batchOf_ok made
  have contents : raw.map (·.toTradeContent) =
      rows.map fun row => row.1.content runtime request.instrument row.2 :=
    map_eq_map_of_mapM (fun _ _ parsed => parseTrade_content parsed) parsed
  have rises : raw.Pairwise fun left right => left.sequence < right.sequence := by
    have sequences : raw.map (·.sequence) = rows.map Prod.snd :=
      map_eq_map_of_mapM (fun _ _ parsed => (parseTrade_ok parsed).2.1) parsed
    have := List.pairwise_map.mpr served.ranks_rise
    rw [← sequences] at this
    exact List.pairwise_map.mp this
  have sorted : orderTrades raw = raw := List.Pairwise.insertionSort_eq
    (rises.imp fun lower => (Prod.Lex.toLex_lt_toLex.mpr (.inl lower)).le)
  rw [ordered, sorted]
  apply List.ext_getElem?
  intro i
  have here := congrArg (·[i]?) contents
  simp only [List.getElem?_map] at here
  simp only [renumbered, hashedWindow, List.getElem?_map, List.getElem?_mapIdx]
  cases served : rows[i]? with
  | none => simp_all
  | some row =>
    cases reduced : raw[i]? with
    | none => simp_all
    | some trade =>
      rw [served, reduced] at here
      have same : (trade.withSequence i).toTradeContent =
          row.1.content runtime request.instrument i := by
        have := Option.some.inj here
        simp only [TradeEvent.withSequence, this]
        rfl
      simp only [Option.map_some, TradeEvent.hashed, TradeEvent.withContentHash, same]

/-! ## What a snapshot is of -/

section Flow

variable {trades : List TradeEvent} {prints : List Print} {barSeconds : Int}

def windowHash (runtime : PyRuntime) (hashing : Hashing) (instrument : InstrumentIdentity)
    (prints : List Print) : String :=
  ((hashedWindow runtime hashing instrument prints).foldl (fun hasher trade =>
    TradeSetHasher.add hashing.toTextHashing hasher trade.1.venueTradeId trade.1.sequence trade.2)
      TradeSetHasher.new).hexdigest hashing.toTextHashing

def execIdsHash (hashing : Hashing) (prints : List Print) : String :=
  (prints.foldl (fun hasher p => VenueIdSetHasher.add hashing.toTextHashing hasher p.execId)
    VenueIdSetHasher.new).hexdigest hashing.toTextHashing

def sumOn (runtime : PyRuntime) (side : AggressorSide) (amount : Print → ℚ)
    (prints : List Print) : ℚ :=
  ((prints.filter (·.taker runtime = side)).map amount).sum

def inside (start stop : Instant) (prints : List Print) : List Print :=
  prints.filter fun p => start ≤ p.timeMs * 1000 ∧ p.timeMs * 1000 < stop

/-- A bar has the sums of some prints. -/
structure ExactBar (runtime : PyRuntime) (instrument : InstrumentIdentity) (prints : List Print)
    (bar : ClosedBarFlow) : Prop where
  count : bar.eventCount = prints.length
  total : bar.totalQuoteVolume = (prints.map (·.quote runtime instrument)).sum
  buyQuote : bar.buyQuoteVolume = sumOn runtime .buy (·.quote runtime instrument) prints
  sellQuote : bar.sellQuoteVolume = sumOn runtime .sell (·.quote runtime instrument) prints
  buyBase : bar.buyBaseVolume = some (sumOn runtime .buy (·.base runtime) prints)
  sellBase : bar.sellBaseVolume = some (sumOn runtime .sell (·.base runtime) prints)

/-- A tape is of some prints: it counts them, names them in their order, and splits them into
bars that have their sums. -/
structure ExactFlow (runtime : PyRuntime) (hashing : Hashing) (instrument : InstrumentIdentity)
    (prints : List Print) (released : ReleasedTradeTape) : Prop where
  count : released.eventCount = prints.length
  ids : released.eventSetHash = execIdsHash hashing prints
  first : prints.head?.map Print.execId = some released.firstTradeId
  last : prints.getLast?.map Print.execId = some released.lastTradeId
  bars : ∀ bar ∈ released.bars,
    ExactBar runtime instrument (inside bar.intervalStart bar.intervalEnd prints) bar
  covered : ∀ p ∈ prints, ∃ bar ∈ released.bars,
    p ∈ inside bar.intervalStart bar.intervalEnd prints
  apart : (released.bars.map (·.intervalStart)).Nodup

/-- A print is in the bar that `_bar_bounds` puts it in. -/
def InOwnBar (barSeconds : Int) (p : Print) : Prop :=
  (barBounds (p.timeMs * 1000) barSeconds).1 ≤ p.timeMs * 1000

theorem sum_on (side : AggressorSide) (amount : TradeContent → ℚ) (trades : List TradeEvent) :
    (trades.map fun trade => trade.on side (amount trade.toTradeContent)).sum =
      (((trades.map (·.toTradeContent)).filter (·.aggressorSide = side)).map amount).sum := by
  induction trades with
  | nil => rfl
  | cons trade trades ih =>
    simp only [List.map_cons, List.sum_cons, ih]
    by_cases own : trade.aggressorSide = side
    · simp [TradeEvent.on, own]
    · simp [TradeEvent.on, own]

/-- What is told alike of prints and of the trades they are parsed to is told alike of the two
lists. -/
theorem map_content (flow : trades.map TradeEvent.hashed =
      hashedWindow runtime hashing instrument prints) {β : Type*} {f : TradeContent → β}
    {g : Print → β} (alike : ∀ p i, f (p.content runtime instrument i) = g p) :
    (trades.map (·.toTradeContent)).map f = prints.map g := by
  have contents := congrArg (List.map fun trade : TradeContent × String => f trade.1) flow
  simp only [hashedWindow, List.map_map] at contents
  rw [List.map_map]
  refine Eq.trans contents (List.ext_getElem? fun i => ?_)
  cases at' : prints[i]? <;> simp [at', alike]

/-- The same of the trades that are chosen. -/
theorem map_filter_content (flow : trades.map TradeEvent.hashed =
      hashedWindow runtime hashing instrument prints) {β : Type*} {f : TradeContent → β}
    {g : Print → β} (chosen : TradeContent → Bool) (shown : Print → Bool)
    (alike : ∀ p i, f (p.content runtime instrument i) = g p)
    (chooses : ∀ p i, chosen (p.content runtime instrument i) = shown p) :
    ((trades.map (·.toTradeContent)).filter chosen).map f = (prints.filter shown).map g := by
  have both := map_content flow (f := fun c => (chosen c, f c)) (g := fun p => (shown p, g p))
    fun p i => Prod.ext (chooses p i) (alike p i)
  have := congrArg (fun pairs => (pairs.filter (·.1)).map (·.2)) both
  simpa [List.filter_map, Function.comp_def] using this

theorem lt_barBounds (moment : Int) (positive : 0 < barSeconds) :
    moment < (barBounds moment barSeconds).1 + barSeconds * 1000000 := by
  have remainder := Int.emod_lt_of_pos (moment.tdiv 1000000) positive
  have whole : moment < moment.tdiv 1000000 * 1000000 + 1000000 := by
    have := Int.tmod_add_mul_tdiv moment 1000000
    have := Int.tmod_lt_of_pos moment (show (0 : Int) < 1000000 by decide)
    omega
  show moment < (moment.tdiv 1000000 - moment.tdiv 1000000 % barSeconds) * 1000000 +
    barSeconds * 1000000
  omega

/-- The bar of a print is the one interval of the grid that has it. -/
theorem barBounds_eq_iff {p : Print} {key : Int} (positive : 0 < barSeconds)
    (own : InOwnBar barSeconds p) (grid : barSeconds * 1000000 ∣ key) :
    (barBounds (p.timeMs * 1000) barSeconds).1 = key ↔
      key ≤ p.timeMs * 1000 ∧ p.timeMs * 1000 < key + barSeconds * 1000000 := by
  have above := lt_barBounds (p.timeMs * 1000) positive
  constructor
  · rintro rfl
    exact ⟨own, above⟩
  · rintro ⟨late, early⟩
    refine sub_eq_zero.mp (Int.eq_zero_of_abs_lt_dvd
      (Int.dvd_sub (dvd_barBounds (p.timeMs * 1000) barSeconds) grid) ?_)
    unfold InOwnBar at own
    rw [abs_lt]
    constructor <;> linarith

/-- The trades of a bar are the prints of its interval. -/
theorem map_inside (flow : trades.map TradeEvent.hashed =
      hashedWindow runtime hashing instrument prints) (positive : 0 < barSeconds)
    (own : ∀ p ∈ prints, InOwnBar barSeconds p) {key : Int} (grid : barSeconds * 1000000 ∣ key)
    {β : Type*} {f : TradeContent → β} {g : Print → β} (chosen : TradeContent → Bool)
    (shown : Print → Bool) (alike : ∀ p i, f (p.content runtime instrument i) = g p)
    (chooses : ∀ p i, chosen (p.content runtime instrument i) = shown p) :
    (((trades.filter (barKey barSeconds · = key)).map (·.toTradeContent)).filter chosen).map f =
      ((inside key (key + barSeconds * 1000000) prints).filter shown).map g := by
  have inBar := map_filter_content flow
    (fun c => (barBounds c.eventTimestamp barSeconds).1 = key && chosen c)
    (fun p => (barBounds (p.timeMs * 1000) barSeconds).1 = key && shown p) alike
    fun p i => congrArg (_ && ·) (chooses p i)
  have interval : prints.filter (fun p => (barBounds (p.timeMs * 1000) barSeconds).1 = key &&
      shown p) = (inside key (key + barSeconds * 1000000) prints).filter shown := by
    rw [inside, List.filter_filter]
    refine List.filter_congr fun p listed => ?_
    rw [Bool.and_comm, decide_eq_decide.mpr (barBounds_eq_iff positive (own p listed) grid)]
  rw [← interval, ← inBar]
  simp only [List.filter_map, List.filter_filter, Function.comp_def, barKey, Bool.and_comm]
  rfl

/-- What the loop leaves of the prints of a window is exact when each of them is in its bar. -/
theorem exactFlow_of_reduced (flow : trades.map TradeEvent.hashed =
      hashedWindow runtime hashing instrument prints) (positive : 0 < barSeconds)
    (own : ∀ p ∈ prints, InOwnBar barSeconds p) {first last : TradeEvent}
    (starts : trades.head? = some first) (ends : trades.getLast? = some last)
    (start stop : Instant) :
    ExactFlow runtime hashing instrument prints
      ((Reduction.of hashing barSeconds trades).tape hashing start stop first last) := by
  have ids : trades.map (·.venueTradeId) = prints.map Print.execId := by
    rw [← map_content flow (f := TradeContent.venueTradeId) fun _ _ => rfl, List.map_map]
    rfl
  exact {
    count := by
      have length := congrArg List.length ids
      rw [List.length_map, List.length_map] at length
      exact length
    ids := by
      have fed := congrArg (List.foldl (VenueIdSetHasher.add hashing.toTextHashing)
        VenueIdSetHasher.new) ids
      rw [List.foldl_map, List.foldl_map] at fed
      exact congrArg (SetHasher.hexdigest hashing.toTextHashing) fed
    first := by
      rw [← List.head?_map, ← ids, List.head?_map, starts]
      rfl
    last := by
      rw [← List.getLast?_map, ← ids, List.getLast?_map, ends]
      rfl
    bars := fun bar listed => by
      obtain ⟨⟨key, bar⟩, found, rfl⟩ := List.mem_map.mp listed
      obtain ⟨sums, begins, ended, grid⟩ := sums_of_mem found
      have all : ∀ {β : Type} {f : TradeContent → β} {g : Print → β},
          (∀ p i, f (p.content runtime instrument i) = g p) →
            (trades.filter (barKey barSeconds · = key)).map (fun trade => f trade.toTradeContent) =
              (inside key (key + barSeconds * 1000000) prints).map g := by
        intro β f g alike
        have := map_inside flow positive own grid (fun _ => true) (fun _ => true) alike
          fun _ _ => rfl
        simpa [Function.comp_def] using this
      have side : ∀ (side : AggressorSide) {f : TradeContent → ℚ} {g : Print → ℚ},
          (∀ p i, f (p.content runtime instrument i) = g p) →
            ((trades.filter (barKey barSeconds · = key)).map fun trade =>
              trade.on side (f trade.toTradeContent)).sum =
                sumOn runtime side g (inside key (key + barSeconds * 1000000) prints) := by
        intro side f g alike
        rw [sum_on, map_inside flow positive own grid _ (fun p => p.taker runtime = side) alike
          fun _ _ => rfl]
        rfl
      simp only [BarAccum.closed, begins, ended]
      exact {
        count := by
          rw [sums.count]
          simpa using congrArg List.length (all (f := fun _ => ()) (g := fun _ => ())
            fun _ _ => rfl)
        total := sums.total.trans (congrArg List.sum (all fun _ _ => rfl))
        buyQuote := sums.buy.trans (side .buy (f := TradeContent.quoteQuantity) fun _ _ => rfl)
        sellQuote := sums.sell.trans (side .sell (f := TradeContent.quoteQuantity) fun _ _ => rfl)
        buyBase := congrArg some
          (sums.buyBase.trans (side .buy (f := TradeContent.quantity) fun _ _ => rfl))
        sellBase := congrArg some
          (sums.sellBase.trans (side .sell (f := TradeContent.quantity) fun _ _ => rfl)) }
    covered := fun p listed => by
      obtain ⟨i, below, rfl⟩ := List.mem_iff_getElem.mp listed
      have content := congrArg (·[i]?) flow
      simp only [hashedWindow, List.getElem?_map, List.getElem?_mapIdx,
        List.getElem?_eq_getElem below, Option.map_some, Option.map_eq_some_iff] at content
      obtain ⟨trade, at', same⟩ := content
      obtain ⟨bar, found⟩ := exists_bar barSeconds (List.mem_of_getElem? at')
      obtain ⟨-, begins, ended, -⟩ := sums_of_mem found
      refine ⟨bar.closed, List.mem_map.mpr ⟨_, found, rfl⟩, ?_⟩
      have moment : trade.eventTimestamp = prints[i].timeMs * 1000 :=
        congrArg (fun hashed : TradeContent × String => hashed.1.eventTimestamp) same
      have isKey : barKey barSeconds trade =
          (barBounds (prints[i].timeMs * 1000) barSeconds).1 := by
        rw [barKey, moment]
      simp only [BarAccum.closed, begins, ended, isKey, inside, List.mem_filter, decide_eq_true_eq]
      exact ⟨listed, own _ listed, lt_barBounds _ positive⟩
    apart := by
      have keys : (Reduction.of hashing barSeconds trades).bars.rows.map (·.2.intervalStart) =
          (Reduction.of hashing barSeconds trades).bars.rows.map (·.1) :=
        List.map_congr_left fun row listed => (sums_of_mem listed).2.1
      simp only [Reduction.tape, List.map_map, Function.comp_def, BarAccum.closed]
      rw [keys]
      exact Table.nodup_rows _ }

end Flow

/-! ## Every call -/

section Snapshots
variable {actions : List TapeAction} {reading : PageReading} {world : TapeWorld}
  {contract : Except MarketError Unit} {snapshot : TradeStreamSnapshot}

theorem requireOrderFlow_ok (asked : requireOrderFlow settings request contract = .ok ()) :
    request.identity.timeframe = some .m5 ∧ request.stop - request.start = fiveMinutes * 2 ∧
      request.stop % 1000000 = 0 := by
  obtain ⟨_, flow, -⟩ := bind_eq_ok.mp asked
  have aligned := ensure_eq_ok.mp flow
  exact ⟨aligned.1, aligned.2.2.1, aligned.2.2.2.1⟩

/-- Bounds on whole seconds are read exactly. -/
theorem timestampMs_exact {moment : Int} (whole : moment % 1000000 = 0) :
    runtime.timestampMs moment * 1000 = moment := by
  have := runtime.timestampMs_seconds (moment / 1000000)
  rw [Int.ediv_mul_cancel (Int.dvd_of_emod_eq_zero whole)] at this
  omega

theorem start_whole {start stop : Int} (length : stop - start = fiveMinutes * 2)
    (whole : stop % 1000000 = 0) : start % 1000000 = 0 := by
  simp only [fiveMinutes] at length
  omega

/-- A snapshot is the reduction of the prints of its window. -/
theorem Sound.reduced (sound : Sound settings tape world)
    (answers : tape.Answers world.arrived reading.payload)
    (fetched : (fetchOrderFlowSnapshot runtime settings hashing request contract reading
      world.source).1 = .ok snapshot) :
    runtime.timestampMs request.start * 1000 = request.start ∧
      runtime.timestampMs request.stop * 1000 = request.stop ∧
      ∃ trades, trades.map TradeEvent.hashed = hashedWindow runtime hashing request.instrument
          (tape.window (runtime.timestampMs request.start) (runtime.timestampMs request.stop)) ∧
        buildReleasedTradeSnapshot hashing trades request.identity request.sourceConnectionId
          request.start request.stop = .ok snapshot ∧ barSecondsOf request.identity = 300 := by
  unfold fetchOrderFlowSnapshot at fetched
  split at fetched
  · cases fetched
  rename_i asked
  obtain ⟨timeframe, length, whole⟩ := requireOrderFlow_ok asked
  dsimp only at fetched
  obtain ⟨batch, made, fetched⟩ := bind_eq_ok.mp fetched
  obtain ⟨proof', rows, known, served, parsed⟩ := sound.served answers made
  rw [known] at fetched
  obtain ⟨_, before, fetched⟩ := bind_eq_ok.mp fetched
  obtain ⟨_, behind, fetched⟩ := bind_eq_ok.mp fetched
  refine ⟨timestampMs_exact (start_whole length whole), timestampMs_exact whole,
    renumbered hashing batch.trades, ?_,
    fetched, by rw [barSecondsOf, timeframe]; rfl⟩
  rw [renumbered_window served parsed,
    served.exact (ensure_eq_ok.mp before) (ensure_eq_ok.mp behind)]

/-- The hash of the reduced trades is that of the window. -/
theorem tradeSetHash_of_reduced {trades : List TradeEvent} {prints : List Print}
    {instrument : InstrumentIdentity} (flow : trades.map TradeEvent.hashed =
      hashedWindow runtime hashing instrument prints) (barSeconds : Int) (start stop : Instant)
    (first last : TradeEvent) :
    ((Reduction.of hashing barSeconds trades).tape hashing start stop first last).tradeSetHash =
      windowHash runtime hashing instrument prints := by
  unfold windowHash
  rw [← flow, List.foldl_map]
  rfl

end Snapshots

/-! ## Windows of two bars -/

def flowPrints (sinceMs : Int) : List Print :=
  [samplePrint "a" (sinceMs - 1000), samplePrint "b" (sinceMs + 299500),
    samplePrint "c" (sinceMs + 600000)]

theorem flowTimeline (sinceMs : Int) :
    Timeline Print.timeMs Print.execId (flowPrints sinceMs) where
  ordered := by
    simp only [Ordered, flowPrints, samplePrint, List.pairwise_cons, List.mem_cons,
      List.not_mem_nil, or_false, forall_eq_or_imp, forall_eq]
    grind
  unique := by simp [flowPrints, samplePrint]

def flowTape (sinceMs : Int) (shown : ∀ p ∈ flowPrints sinceMs,
    normalizePrint sampleRuntime (some (sampleRow p)) = .ok p) : PrintTape sampleRuntime where
  prints := flowPrints sinceMs
  row := sampleRow
  timeline := flowTimeline sinceMs
  shown := shown

def flowRequest (since : Int) : TradeRequest where
  identity := sampleBybitIdentity
  instrument := sampleBybitInstrument
  start := since
  stop := since + 600000000
  sourceConnectionId := 0
  receiveAt := max 0 (since + 600000000)

/-- The window from a quarter of an hour to five minutes before 1970. -/
theorem earlyPrints_shown : ∀ p ∈ flowPrints (-900000),
    normalizePrint sampleRuntime (some (sampleRow p)) = .ok p := by decide

def earlyTape : PrintTape sampleRuntime := flowTape (-900000) earlyPrints_shown

/-- The window from five minutes to a quarter of an hour of 1970. -/
theorem firstPrints_shown : ∀ p ∈ flowPrints 300000,
    normalizePrint sampleRuntime (some (sampleRow p)) = .ok p := by decide

def firstTape : PrintTape sampleRuntime := flowTape 300000 firstPrints_shown

def flowActions : List TapeAction := [.arrive, .arrive, .arrive]

theorem flowActions_answered (tape : PrintTape sampleRuntime) :
    Along (TapeWorld.step sampleRuntime sampleSettings sampleHashing)
      (fun world action => action.Answered tape world.arrived) .start flowActions :=
  ⟨trivial, trivial, trivial, trivial⟩

end AlphaTrade.Market
