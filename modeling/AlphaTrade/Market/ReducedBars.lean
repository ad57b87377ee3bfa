import Mathlib.Algebra.BigOperators.Group.List.Basic
import AlphaTrade.Market.TradeReduction

/-!
# What the reduction keeps

The loop of `build_released_trade_snapshot` in closed form. After the trades it has accepted, its
sums are those of the trades, its hashers have been fed them in order, and each of its bars has
the sums of the trades that `_bar_bounds` puts in it.
-/
namespace AlphaTrade.Market
open Library
open Execution (Instant)

variable {hashing : Hashing} {identity : EvidenceMarketIdentity} {lineageId : ConnectionId}
  {start stop : Instant} {barSeconds : Int} {trades : List TradeEvent} {trade : TradeEvent}

/-! ## Bars -/

def TradeEvent.signedQuote (trade : TradeEvent) : ℚ :=
  match trade.aggressorSide with
  | .buy => trade.quoteQuantity
  | .sell => -trade.quoteQuantity

theorem signedQuoteValue_ok {delta : ℚ} (valued : signedQuoteValue trade = .ok delta) :
    delta = trade.signedQuote := by
  unfold signedQuoteValue at valued
  unfold TradeEvent.signedQuote
  split at valued
  · cases valued
  · cases side : trade.aggressorSide <;> simp only [side, Except.ok.injEq] at valued <;>
      simp [valued]

/-- The bar of a first trade. -/
def BarAccum.first (barSeconds : Int) (trade : TradeEvent) : BarAccum where
  intervalStart := (barBounds trade.eventTimestamp barSeconds).1
  intervalEnd := (barBounds trade.eventTimestamp barSeconds).2
  signed := trade.signedQuote
  total := trade.quoteQuantity
  buy := trade.on .buy trade.quoteQuantity
  sell := trade.on .sell trade.quoteQuantity
  buyBase := trade.on .buy trade.quantity
  sellBase := trade.on .sell trade.quantity
  count := 1
  eventTimeMax := trade.eventTimestamp
  terminalPrice := trade.price

/-- A bar with one more trade. -/
def BarAccum.add (bar : BarAccum) (trade : TradeEvent) : BarAccum :=
  { bar with
    signed := bar.signed + trade.signedQuote
    total := bar.total + trade.quoteQuantity
    buy := bar.buy + trade.on .buy trade.quoteQuantity
    sell := bar.sell + trade.on .sell trade.quoteQuantity
    buyBase := bar.buyBase + trade.on .buy trade.quantity
    sellBase := bar.sellBase + trade.on .sell trade.quantity
    count := bar.count + 1
    eventTimeMax := trade.eventTimestamp
    terminalPrice := trade.price }

def barKey (barSeconds : Int) (trade : TradeEvent) : Instant :=
  (barBounds trade.eventTimestamp barSeconds).1

theorem addBar_eq (bars : Table Instant BarAccum) (trade : TradeEvent) (barSeconds : Int) :
    addBar bars trade barSeconds trade.signedQuote trade.quoteQuantity =
      bars.put (barKey barSeconds trade)
        (((bars.find (barKey barSeconds trade)).map (·.add trade)).getD
          (.first barSeconds trade)) := by
  unfold addBar
  dsimp only
  split
  · rename_i absent
    rw [barKey, absent]
    rfl
  · rename_i current found
    rw [barKey, found]
    rfl

def barsOf (barSeconds : Int) (trades : List TradeEvent) : Table Instant BarAccum :=
  Table.group (barKey barSeconds) (.first barSeconds) .add trades

/-- A bar has the sums of the trades. -/
structure BarAccum.Sums (bar : BarAccum) (trades : List TradeEvent) : Prop where
  signed : bar.signed = (trades.map (·.signedQuote)).sum
  total : bar.total = (trades.map (·.quoteQuantity)).sum
  buy : bar.buy = (trades.map fun trade => trade.on .buy trade.quoteQuantity).sum
  sell : bar.sell = (trades.map fun trade => trade.on .sell trade.quoteQuantity).sum
  buyBase : bar.buyBase = (trades.map fun trade => trade.on .buy trade.quantity).sum
  sellBase : bar.sellBase = (trades.map fun trade => trade.on .sell trade.quantity).sum
  count : bar.count = trades.length
  last : trades.getLast?.map (fun trade => (trade.eventTimestamp, trade.price)) =
    some (bar.eventTimeMax, bar.terminalPrice)

variable {bar : BarAccum} {state : Reduction}

theorem BarAccum.Sums.add (sums : bar.Sums trades) (trade : TradeEvent) :
    (bar.add trade).Sums (trades ++ [trade]) := by
  constructor <;> simp [BarAccum.add, sums.signed, sums.total, sums.buy, sums.sell, sums.buyBase,
    sums.sellBase, sums.count]

theorem sums_first (barSeconds : Int) (trade : TradeEvent) :
    (BarAccum.first barSeconds trade).Sums [trade] := by
  constructor <;> simp [BarAccum.first]

/-- What trades fold to has their sums, and the bounds of the first one. -/
theorem sums_of_folded (folded : Table.folded (.first barSeconds) BarAccum.add trades = some bar) :
    bar.Sums trades ∧ ∃ first ∈ trades,
      (bar.intervalStart, bar.intervalEnd) = barBounds first.eventTimestamp barSeconds := by
  induction trades using List.reverseRecOn generalizing bar with
  | nil => cases folded
  | append_singleton trades trade ih =>
    rw [Table.folded_append] at folded
    obtain rfl := Option.some.inj folded
    cases before : Table.folded (.first barSeconds) BarAccum.add trades with
    | none =>
      have none : trades = [] := by
        cases trades with
        | nil => rfl
        | cons first rest => cases before
      subst none
      exact ⟨sums_first barSeconds trade, trade, by simp, rfl⟩
    | some bar =>
      obtain ⟨sums, first, listed, bounds⟩ := ih before
      exact ⟨sums.add trade, first, by simp [listed], bounds⟩

theorem barBounds_snd (moment : Instant) (barSeconds : Int) :
    (barBounds moment barSeconds).2 =
      (barBounds moment barSeconds).1 + barSeconds * 1000000 := by
  simp only [barBounds, Int.add_mul]

theorem dvd_barBounds (moment : Instant) (barSeconds : Int) :
    barSeconds * 1000000 ∣ (barBounds moment barSeconds).1 := by
  refine Int.mul_dvd_mul ?_ dvd_rfl
  rw [Int.dvd_iff_emod_eq_zero, Int.sub_emod, Int.emod_emod, sub_self, Int.zero_emod]

/-- A bar has the sums of the trades that are put in it. -/
theorem sums_of_mem {key : Instant} (listed : (key, bar) ∈ (barsOf barSeconds trades).rows) :
    bar.Sums (trades.filter (barKey barSeconds · = key)) ∧ bar.intervalStart = key ∧
      bar.intervalEnd = key + barSeconds * 1000000 ∧ barSeconds * 1000000 ∣ key := by
  rw [Table.mem_rows, barsOf, Table.find_group] at listed
  obtain ⟨sums, first, own, bounds⟩ := sums_of_folded listed
  have isKey : barKey barSeconds first = key := by simpa using (List.mem_filter.mp own).2
  refine ⟨sums, (congrArg Prod.fst bounds).trans isKey, ?_⟩
  rw [← isKey]
  exact ⟨(congrArg Prod.snd bounds).trans (barBounds_snd ..), dvd_barBounds ..⟩

/-- Every trade is in a bar. -/
theorem exists_bar (barSeconds : Int) (listed : trade ∈ trades) :
    ∃ bar, (barKey barSeconds trade, bar) ∈ (barsOf barSeconds trades).rows := by
  have own : trade ∈ trades.filter (barKey barSeconds · = barKey barSeconds trade) :=
    List.mem_filter.mpr ⟨listed, by simp⟩
  cases inBar : trades.filter (barKey barSeconds · = barKey barSeconds trade) with
  | nil => simp [inBar] at own
  | cons first rest =>
    refine ⟨rest.foldl .add (.first barSeconds first), ?_⟩
    rw [Table.mem_rows, barsOf, Table.find_group, inBar]
    rfl

/-! ## The loop -/

/-- The variables of the loop after some trades. -/
def Reduction.of (hashing : Hashing) (barSeconds : Int) (trades : List TradeEvent) :
    Reduction where
  tradeHasher := trades.foldl (fun hasher trade => TradeSetHasher.add hashing.toTextHashing hasher
    trade.venueTradeId trade.sequence trade.contentHash) TradeSetHasher.new
  idHasher := trades.foldl (fun hasher trade =>
    VenueIdSetHasher.add hashing.toTextHashing hasher trade.venueTradeId) VenueIdSetHasher.new
  bars := barsOf barSeconds trades
  signed := (trades.map (·.signedQuote)).sum
  total := (trades.map (·.quoteQuantity)).sum
  count := trades.length
  first := trades.head?
  last := trades.getLast?

/-- What the loop asks of a trade behind the others. -/
structure Admitted (identity : EvidenceMarketIdentity) (lineageId : ConnectionId)
    (start stop : Instant) (trades : List TradeEvent) (trade : TradeEvent) : Prop where
  inWindow : requireTradeInWindow identity lineageId start stop outsideRequestedWindow trade =
    .ok ()
  next : requireNext trade trades.getLast? = .ok ()
  valued : signedQuoteValue trade = .ok trade.signedQuote

/-- A turn accepts a trade exactly when it is admitted, and leaves the closed form. -/
theorem reduceTrade_eq_ok :
    reduceTrade hashing identity lineageId start stop barSeconds (.of hashing barSeconds trades)
        trade = .ok state ↔
      Admitted identity lineageId start stop trades trade ∧
        state = .of hashing barSeconds (trades ++ [trade]) := by
  have grown : ({
      tradeHasher := TradeSetHasher.add hashing.toTextHashing
        (Reduction.of hashing barSeconds trades).tradeHasher trade.venueTradeId trade.sequence
        trade.contentHash
      idHasher := VenueIdSetHasher.add hashing.toTextHashing
        (Reduction.of hashing barSeconds trades).idHasher trade.venueTradeId
      bars := addBar (barsOf barSeconds trades) trade barSeconds trade.signedQuote
        trade.quoteQuantity
      signed := (trades.map (·.signedQuote)).sum + trade.signedQuote
      total := (trades.map (·.quoteQuantity)).sum + trade.quoteQuantity
      count := trades.length + 1
      first := trades.head? <|> some trade
      last := some trade } : Reduction) = .of hashing barSeconds (trades ++ [trade]) := by
    have first : (trades.head? <|> some trade) = (trades ++ [trade]).head? := by
      cases trades <;> rfl
    rw [addBar_eq, barsOf, ← Table.group_append, first]
    simp [Reduction.of, barsOf]
  constructor
  · intro reduced
    obtain ⟨_, inWindow, reduced⟩ := bind_eq_ok.mp reduced
    obtain ⟨_, next, reduced⟩ := bind_eq_ok.mp reduced
    obtain ⟨delta, valued, reduced⟩ := bind_eq_ok.mp reduced
    obtain rfl := signedQuoteValue_ok valued
    exact ⟨⟨inWindow, next, valued⟩, (Except.ok.inj reduced).symm.trans grown⟩
  · rintro ⟨admitted, rfl⟩
    rw [← grown]
    unfold reduceTrade
    rw [admitted.inWindow, ok_bind]
    exact bind_eq_ok.mpr ⟨(), admitted.next, bind_eq_ok.mpr ⟨_, admitted.valued, rfl⟩⟩

/-- The loop ends exactly when every trade is admitted behind those before it, in the closed
form. -/
theorem foldlM_reduceTrade :
    trades.foldlM (reduceTrade hashing identity lineageId start stop barSeconds) .empty =
        .ok state ↔
      (∀ before trade after, trades = before ++ trade :: after →
        Admitted identity lineageId start stop before trade) ∧
      state = .of hashing barSeconds trades := by
  induction trades using List.reverseRecOn generalizing state with
  | nil =>
    refine ⟨fun ended => ⟨by simp, (Except.ok.inj ended).symm⟩, ?_⟩
    rintro ⟨-, rfl⟩
    rfl
  | append_singleton trades trade ih =>
    simp only [List.foldlM_append, List.foldlM_cons, List.foldlM_nil, bind_pure]
    constructor
    · intro folded
      obtain ⟨middle, first, last⟩ := bind_eq_ok.mp folded
      obtain ⟨admitted, rfl⟩ := ih.mp first
      obtain ⟨own, rfl⟩ := reduceTrade_eq_ok.mp last
      refine ⟨fun before item after split => ?_, rfl⟩
      rcases after.eq_nil_or_concat with rfl | ⟨later, final, rfl⟩
      · obtain ⟨rfl, rfl⟩ : trades = before ∧ trade = item := by simpa using split
        exact own
      · rw [List.concat_eq_append, ← List.cons_append, ← List.append_assoc] at split
        exact admitted before item later (List.append_inj_left' split rfl)
    · rintro ⟨admitted, rfl⟩
      have first := ih.mpr ⟨fun before item after split =>
        admitted before item (after ++ [trade]) (by simp [split]), rfl⟩
      exact bind_eq_ok.mpr ⟨_, first, reduceTrade_eq_ok.mpr ⟨admitted trades trade [] rfl, rfl⟩⟩

/-! ## The snapshot -/

theorem buildCompleteTradeWindowCoverageFromHash_ok {tradeSetHash firstTradeId lastTradeId : String}
    {firstSequence lastSequence : Nat} {coverage : TradeWindowCoverageProof}
    (built : buildCompleteTradeWindowCoverageFromHash hashing identity lineageId start stop
      tradeSetHash firstTradeId lastTradeId firstSequence lastSequence = .ok coverage) :
    coverage.tradeSetHash = tradeSetHash := by
  obtain ⟨_, -, built⟩ := bind_eq_ok.mp built
  obtain rfl := Except.ok.inj built
  rfl

/-- A snapshot has the tape of the loop, bound to its hash. -/
theorem buildReleasedTradeSnapshot_ok {snapshot : TradeStreamSnapshot}
    (built : buildReleasedTradeSnapshot hashing trades identity lineageId start stop =
      .ok snapshot) :
    ∃ first last, trades.head? = some first ∧ trades.getLast? = some last ∧
      snapshot.releasedTape =
        some ((Reduction.of hashing (barSecondsOf identity) trades).tape hashing start stop first
          last) ∧
      snapshot.coverage.tradeSetHash = ((Reduction.of hashing (barSecondsOf identity)
        trades).tape hashing start stop first last).tradeSetHash ∧
      ∀ before trade after, trades = before ++ trade :: after →
        Admitted identity lineageId start stop before trade := by
  obtain ⟨_, -, built⟩ := bind_eq_ok.mp built
  obtain ⟨state, reduced, built⟩ := bind_eq_ok.mp built
  obtain ⟨admitted, rfl⟩ := foldlM_reduceTrade.mp reduced
  cases first : trades.head? with
  | none =>
    have empty : (Reduction.of hashing (barSecondsOf identity) trades).first = none := first
    rw [empty] at built
    cases built
  | some head =>
    cases last : trades.getLast? with
    | none =>
      rw [List.getLast?_eq_none_iff.mp last] at first
      cases first
    | some final =>
      have starts : (Reduction.of hashing (barSecondsOf identity) trades).first = some head :=
        first
      have ends : (Reduction.of hashing (barSecondsOf identity) trades).last = some final := last
      rw [starts, ends] at built
      obtain ⟨_, -, built⟩ := bind_eq_ok.mp built
      obtain ⟨_, -, built⟩ := bind_eq_ok.mp built
      obtain ⟨coverage, covered, built⟩ := bind_eq_ok.mp built
      obtain ⟨cursor, -, built⟩ := bind_eq_ok.mp built
      obtain ⟨_, -, built⟩ := bind_eq_ok.mp built
      obtain ⟨_, -, built⟩ := bind_eq_ok.mp built
      obtain rfl := Except.ok.inj built
      exact ⟨head, final, rfl, rfl, rfl, buildCompleteTradeWindowCoverageFromHash_ok covered,
        admitted⟩

end AlphaTrade.Market
