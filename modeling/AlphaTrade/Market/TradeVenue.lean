import AlphaTrade.Market.TradeWindows

/-!
# Windows of consecutive trades are complete or refused

A venue that holds consecutive trades answers with a stretch of its tape. What the pages of a
slice have not covered yet is a final part of the tape, and a row behind the slice, or a
short page, says that nothing of the slice is left.
-/
namespace AlphaTrade.Market
open Library
open Execution (Instant)

/-! ## The tape -/

structure AggTrade where
  aggId : Int
  price : String
  quantity : String
  firstId : Int
  lastId : Int
  time : Int
  isBuyerMaker : Bool
  deriving DecidableEq, Repr

def AggTrade.row (trade : AggTrade) : PyDict :=
  [("a", .int trade.aggId), ("p", .str trade.price), ("q", .str trade.quantity),
    ("f", .int trade.firstId), ("l", .int trade.lastId), ("T", .int trade.time),
    ("m", .bool trade.isBuyerMaker)]

/-- Consecutive ids, and times in milliseconds that do not fall. -/
structure Tape where
  trades : List AggTrade
  consecutive : Consecutive AggTrade.aggId trades
  ordered : Ordered AggTrade.time trades

namespace Tape

def page (tape : Tape) (query : AggTradeQuery) : List AggTrade :=
  match query.fromId, query.startTimeMs, query.endTimeMs with
  | some fromId, _, _ => (tape.trades.filter (fromId ≤ ·.aggId)).take query.limit
  | none, some start, some stop =>
    (tape.trades.filter fun trade => start ≤ trade.time ∧ trade.time ≤ stop).take query.limit
  | none, _, _ => []

def respond (tape : Tape) : JsonGetter := fun query =>
  .ok (.list ((tape.page query).map fun trade => some trade.row))

def between (tape : Tape) (startMs lastMs : Int) : List AggTrade :=
  tape.trades.filter fun trade => startMs ≤ trade.time ∧ trade.time < lastMs + 1

def window (tape : Tape) (start stop : Instant) : List AggTrade :=
  tape.trades.filter fun trade => start ≤ trade.time * 1000 ∧ trade.time * 1000 < stop

end Tape

/-! ## Reading a trade -/

variable {builtins : PyBuiltins}

@[simp] theorem rowId_row (trade : AggTrade) : rowId builtins trade.row = .ok trade.aggId := by
  have read : trade.row.item "a" = .ok (.int trade.aggId) := rfl
  rw [rowId, rowInt, read, ok_bind, builtins.int_int]

@[simp] theorem rowEventMs_row (trade : AggTrade) :
    rowEventMs builtins trade.row = .ok trade.time := by
  have read : trade.row.item "T" = .ok (.int trade.time) := rfl
  rw [rowEventMs, rowInt, read, ok_bind, builtins.int_int]

theorem rowSignature_row (trade : AggTrade) :
    rowSignature builtins trade.row = .ok (builtins.str (.str trade.price),
      builtins.str (.str trade.quantity), trade.time, trade.isBuyerMaker) := by
  have flag : trade.row.get "m" = .bool trade.isBuyerMaker := rfl
  rw [rowSignature, flag]
  dsimp only
  rw [rowEventMs_row]
  rfl

variable {trades : List AggTrade} {symbol : String}

/-- Rows in the order of their ids are sorted already. -/
theorem sortRows_rows (rising : Ordered AggTrade.aggId trades) :
    sortRows builtins (trades.map AggTrade.row) = .ok (trades.map AggTrade.row) := by
  have keyed : (trades.map AggTrade.row).mapM (fun row => (rowId builtins row).map
      fun aggId => (aggId, row)) = .ok (trades.map fun trade => (trade.aggId, trade.row)) := by
    clear rising
    induction trades with
    | nil => rfl
    | cons trade trades ih =>
      rw [List.map_cons, List.mapM_cons, ih, rowId_row]
      rfl
  unfold sortRows
  rw [keyed, ok_bind, List.Pairwise.insertionSort_eq]
  · rw [List.map_map]
    rfl
  · exact List.pairwise_map.mpr rising

variable {overallLastMs : Int} {chunk : Int × Int} {fromId : Option Int}

/-- The collection of a page keeps the rows up to the end of the slice, and reports a row
behind it. -/
theorem scanRows_collect (last : chunk.2 ≤ overallLastMs)
    (within : fromId = none → ∀ trade ∈ trades, chunk.1 ≤ trade.time ∧ trade.time ≤ chunk.2)
    (crossed : Bool) (collected : List PyDict) :
    scanRows builtins overallLastMs (fun collected _ row => .ok (collected ++ [row])) chunk fromId
        (trades.map AggTrade.row) crossed collected =
      .ok (crossed || trades.any (chunk.2 < ·.time),
        collected ++ (trades.filter (·.time ≤ chunk.2)).map AggTrade.row) := by
  induction trades generalizing crossed collected with
  | nil => simp [scanRows]
  | cons trade trades ih =>
    have rest := fun timed later listed => within timed later (List.mem_cons_of_mem trade listed)
    rw [List.map_cons]
    unfold scanRows
    rw [rowEventMs_row, ok_bind]
    by_cases behind : chunk.2 < trade.time
    · have cursor : fromId.isSome := by
        cases fromId with
        | some _ => rfl
        | none =>
          have := (within rfl trade (List.mem_cons_self ..)).2
          omega
      by_cases far : overallLastMs < trade.time
      · rw [if_pos far, ih rest]
        simp [behind]
      · rw [if_neg far, if_pos ⟨cursor, behind⟩, ih rest]
        simp [behind]
    · have started : ¬(trade.time < chunk.1 ∧ fromId.isNone) := by
        rintro ⟨before, timed⟩
        have := (within (Option.isNone_iff_eq_none.mp timed) trade (List.mem_cons_self ..)).1
        omega
      rw [if_neg (by omega), if_neg (fun h => behind h.2), if_neg started, ok_bind, ih rest]
      simp [behind, not_lt.mp behind]

/-! ## One slice -/

def Yields {α : Type} (tape : Tape) (result : Except MarketError α) (value : α) : Prop :=
  result = .ok value ∨ (∃ error, result = .error error) ∧ aggtradePageLimit ≤ tape.trades.length

/-- What a page leaves of the pending trades: nothing of the slice, when the page is short or
has a row behind the slice. -/
structure Turns (chunk : Int × Int) (pending page rest : List AggTrade) : Prop where
  cut : pending = page ++ rest
  covered : page.length < aggtradePageLimit ∨ page.any (chunk.2 < ·.time) = true →
    rest.filter (·.time ≤ chunk.2) = []

/-- Where a walk of a slice stands: the tape is cut where the next page begins. -/
structure Stands (tape : Tape) (chunk : Int × Int) (fromId : Option Int)
    (done pending : List AggTrade) : Prop where
  cut : tape.trades = done ++ pending
  timed : fromId = none →
    (∀ trade ∈ done, trade.time < chunk.1) ∧ ∀ trade ∈ pending, chunk.1 ≤ trade.time
  cursor : ∀ aggId, fromId = some aggId →
    (∀ trade ∈ done, trade.aggId < aggId) ∧ ∀ trade ∈ pending, aggId ≤ trade.aggId

namespace Stands

variable {tape : Tape} {chunk : Int × Int} {fromId : Option Int} {done pending : List AggTrade}

theorem ordered (stands : Stands tape chunk fromId done pending) :
    Ordered AggTrade.time pending :=
  tape.ordered.sublist (stands.cut ▸ List.sublist_append_right done pending)

theorem consecutive (stands : Stands tape chunk fromId done pending) :
    Consecutive AggTrade.aggId pending :=
  List.IsChain.right_of_append (stands.cut ▸ tape.consecutive)

/-- The page that the venue sends. -/
theorem page_eq (stands : Stands tape chunk fromId done pending) (symbol : String) :
    tape.page (pageQuery symbol chunk fromId) =
      match fromId with
      | some _ => pending.take aggtradePageLimit
      | none => (pending.filter (·.time ≤ chunk.2)).take aggtradePageLimit := by
  cases fromId with
  | some aggId =>
    obtain ⟨before, behind⟩ := stands.cursor aggId rfl
    have skipped : done.filter (aggId ≤ ·.aggId) = [] :=
      List.filter_eq_nil_iff.mpr fun trade listed => by simpa using before trade listed
    have kept : pending.filter (aggId ≤ ·.aggId) = pending :=
      List.filter_eq_self.mpr fun trade listed => by simpa using behind trade listed
    simp only [Tape.page, pageQuery, stands.cut, List.filter_append, skipped, kept,
      List.nil_append]
  | none =>
    obtain ⟨before, behind⟩ := stands.timed rfl
    have skipped : done.filter (fun trade => chunk.1 ≤ trade.time ∧ trade.time ≤ chunk.2) = [] :=
      List.filter_eq_nil_iff.mpr fun trade listed => by
        have := before trade listed
        simp only [decide_eq_true_eq]
        omega
    have kept : pending.filter (fun trade => chunk.1 ≤ trade.time ∧ trade.time ≤ chunk.2) =
        pending.filter (·.time ≤ chunk.2) :=
      List.filter_congr fun trade listed => by simp [behind trade listed]
    simp only [Tape.page, pageQuery, stands.cut, List.filter_append, skipped, kept,
      List.nil_append]

/-- A page turns the pending trades. -/
theorem turns (stands : Stands tape chunk fromId done pending) (symbol : String) :
    ∃ rest, Turns chunk pending (tape.page (pageQuery symbol chunk fromId)) rest := by
  have split : pending.filter (·.time ≤ chunk.2) ++ pending.filter (chunk.2 + 1 ≤ ·.time) =
      pending := by
    simpa only [Int.lt_add_one_iff] using stands.ordered.filter_lt_append (chunk.2 + 1)
  have behind : (pending.filter (chunk.2 + 1 ≤ ·.time)).filter (·.time ≤ chunk.2) = [] :=
    List.filter_eq_nil_iff.mpr fun trade listed => by
      have := of_decide_eq_true (List.mem_filter.mp listed).2
      simp only [decide_eq_true_eq]
      omega
  rw [stands.page_eq]
  cases fromId with
  | some aggId =>
    refine ⟨pending.drop aggtradePageLimit, (List.take_append_drop ..).symm, ?_⟩
    rintro (short | crossed)
    · rw [List.length_take] at short
      rw [List.drop_of_length_le (by omega), List.filter_nil]
    · obtain ⟨trade, listed, later⟩ := List.any_eq_true.mp crossed
      have pairs := stands.ordered
      rw [← List.take_append_drop aggtradePageLimit pending] at pairs
      refine List.filter_eq_nil_iff.mpr fun other dropped => ?_
      have := (List.pairwise_append.mp pairs).2.2 trade listed other dropped
      have := of_decide_eq_true later
      simp only [decide_eq_true_eq]
      omega
  | none =>
    dsimp only
    generalize slice : pending.filter (·.time ≤ chunk.2) = inside at split
    refine ⟨inside.drop aggtradePageLimit ++ pending.filter (chunk.2 + 1 ≤ ·.time), ?_, ?_⟩
    · rw [← List.append_assoc, List.take_append_drop, split]
    · rintro (short | crossed)
      · rw [List.length_take] at short
        rw [List.drop_of_length_le (by omega), List.nil_append, behind]
      · obtain ⟨trade, listed, later⟩ := List.any_eq_true.mp crossed
        have inSlice := List.mem_of_mem_take listed
        rw [← slice] at inSlice
        have := of_decide_eq_true (List.mem_filter.mp inSlice).2
        have := of_decide_eq_true later
        omega

/-- A page by time lies within the slice. -/
theorem within (stands : Stands tape chunk fromId done pending) (symbol : String)
    (timed : fromId = none) : ∀ trade ∈ tape.page (pageQuery symbol chunk fromId),
      chunk.1 ≤ trade.time ∧ trade.time ≤ chunk.2 := by
  subst timed
  intro trade listed
  rw [stands.page_eq] at listed
  obtain ⟨member, before⟩ := List.mem_filter.mp (List.mem_of_mem_take listed)
  exact ⟨(stands.timed rfl).2 trade member, of_decide_eq_true before⟩

end Stands

variable {tape : Tape}

/-- The walk goes on behind a page that is full and lies within the slice. -/
theorem Stands.next {done pending page rest : List AggTrade}
    (stands : Stands tape chunk fromId done pending) (cut : pending = page ++ rest)
    {last : AggTrade} (ends : page.getLast? = some last) :
    Stands tape chunk (some (last.aggId + 1)) (done ++ page) rest where
  cut := by rw [stands.cut, cut, List.append_assoc]
  timed := nofun
  cursor := by
    rintro _ ⟨⟩
    have whole : tape.trades = (done ++ page) ++ rest := by
      rw [stands.cut, cut, List.append_assoc]
    have rising := whole ▸ tape.consecutive.rising
    have listed : last ∈ done ++ page :=
      List.mem_append_right done (List.mem_of_getLast? ends)
    have front : Consecutive AggTrade.aggId (done ++ page) :=
      List.IsChain.left_of_append (whole ▸ tape.consecutive)
    have largest : (done ++ page).getLast? = some last := by
      rw [List.getLast?_append, ends]
      rfl
    constructor
    · intro trade member
      have := front.le_last largest trade member
      omega
    · intro trade member
      have := (List.pairwise_append.mp rising).2.2 last listed trade member
      omega

/-- What is read on a page of the venue. -/
theorem readPage_respond {query : AggTradeQuery} (accepted : query.check = .ok ())
    (limit : query.limit = aggtradePageLimit) :
    readPage tape.respond query = .ok ((tape.page query).map AggTrade.row) := by
  have short : (tape.page query).length ≤ aggtradePageLimit := by
    rw [← limit]
    unfold Tape.page
    split
    · exact List.length_take_le ..
    · exact List.length_take_le ..
    · exact Nat.zero_le _
  unfold readPage
  rw [accepted, ok_bind]
  dsimp only [Tape.respond]
  rw [ok_bind]
  dsimp only
  rw [ensure_of (by simpa using short), ok_bind]
  generalize tape.page query = trades
  induction trades with
  | nil => rfl
  | cons trade trades ih =>
    rw [List.map_cons, List.mapM_cons, ok_bind, ih]
    rfl

/-- A slice that is a window of less than an hour. -/
theorem pageQuery_check (forward : chunk.1 ≤ chunk.2) (span : chunk.2 - chunk.1 < oneHourMs)
    (fromId : Option Int) : (pageQuery symbol chunk fromId).check = .ok () := by
  cases fromId with
  | some aggId => simp [pageQuery, AggTradeQuery.check, aggtradePageLimit, ensure, ok_bind]
  | none =>
    simp [pageQuery, AggTradeQuery.check, aggtradePageLimit, ensure, ok_bind, forward, span]

/-- The pages of a slice collect what is pending of it. -/
theorem drain_respond (forward : chunk.1 ≤ chunk.2) (span : chunk.2 - chunk.1 < oneHourMs)
    (last : chunk.2 ≤ overallLastMs) {pages : Nat}
    (open' : pages ≠ 0 ∨ aggtradePageLimit ≤ tape.trades.length) {done pending : List AggTrade}
    (stands : Stands tape chunk fromId done pending) (collected : List PyDict) :
    Yields tape
      (drain builtins tape.respond symbol overallLastMs
        (fun collected _ row => .ok (collected ++ [row])) chunk pages fromId collected)
      (collected ++ (pending.filter (·.time ≤ chunk.2)).map AggTrade.row) := by
  induction pages generalizing fromId done pending collected with
  | zero => exact .inr ⟨⟨_, rfl⟩, open'.resolve_left (by simp)⟩
  | succ pages ih =>
    obtain ⟨rest, turns⟩ := stands.turns symbol
    have read : readPage tape.respond (pageQuery symbol chunk fromId) = _ :=
      readPage_respond (pageQuery_check forward span fromId) (by cases fromId <;> rfl)
    have within := stands.within symbol
    generalize tape.page (pageQuery symbol chunk fromId) = page at turns read within
    have sorted : sortRows builtins (page.map AggTrade.row) = .ok (page.map AggTrade.row) :=
      sortRows_rows (stands.consecutive.ordered.sublist
        (turns.cut ▸ List.sublist_append_left page rest))
    have pages' : pending.filter (·.time ≤ chunk.2) =
        page.filter (·.time ≤ chunk.2) ++ rest.filter (·.time ≤ chunk.2) := by
      rw [turns.cut, List.filter_append]
    unfold drain
    rw [read, ok_bind, sorted, ok_bind, List.getLast?_map]
    cases ends : page.getLast? with
    | none =>
      obtain rfl := List.getLast?_eq_none_iff.mp ends
      rw [pages', turns.covered (.inl (by decide))]
      exact .inl (by simp; rfl)
    | some final =>
      dsimp only [Option.map_some]
      rw [scanRows_collect last within, ok_bind]
      dsimp only
      rw [Bool.false_or, List.length_map]
      by_cases stops : page.any (chunk.2 < ·.time) = true ∨ page.length < aggtradePageLimit
      · rw [if_pos stops, pages', turns.covered stops.symm, List.append_nil]
        exact .inl rfl
      · rw [if_neg stops, rowId_row, ok_bind, pages', List.map_append, ← List.append_assoc]
        have full : aggtradePageLimit ≤ tape.trades.length := by
          have : page.length ≤ tape.trades.length := by
            rw [stands.cut, turns.cut]
            simp only [List.length_append]
            omega
          have := not_lt.mp (not_or.mp stops).2
          omega
        exact ih (.inr full) (stands.next turns.cut ends) _

/-! ## The window -/

theorem Yields.bind {α β : Type} {first : Except MarketError α} {rest : α → Except MarketError β}
    {a : α} {b : β} (yields : Yields tape first a) (later : Yields tape (rest a) b) :
    Yields tape (first >>= rest) b := by
  obtain rfl | ⟨⟨error, rfl⟩, filled⟩ := yields
  · exact later
  · exact .inr ⟨⟨error, rfl⟩, filled⟩

/-- A slice begins where the tape reaches it. -/
theorem stands_first (tape : Tape) (chunk : Int × Int) :
    Stands tape chunk none (tape.trades.filter (·.time < chunk.1))
      (tape.trades.filter (chunk.1 ≤ ·.time)) where
  cut := (tape.ordered.filter_lt_append chunk.1).symm
  timed _ := ⟨fun _ listed => of_decide_eq_true (List.mem_filter.mp listed).2,
    fun _ listed => of_decide_eq_true (List.mem_filter.mp listed).2⟩
  cursor := nofun

/-- The slices of a window stay under an hour, so they are cut without a refusal. -/
theorem exists_chunksFrom (lastMs : Int) (fuel : Nat) (cursor : Int) :
    ∃ chunks, chunksFrom lastMs fuel cursor = .ok chunks := by
  induction fuel generalizing cursor with
  | zero => exact ⟨[], rfl⟩
  | succ fuel ih =>
    unfold chunksFrom
    split
    · have under : ¬oneHourMs ≤ min (cursor + aggtradeMaxInclusiveSpanMs) lastMs - cursor := by
        simp only [oneHourMs, aggtradeMaxInclusiveSpanMs]
        omega
      obtain ⟨rest, later⟩ := ih (min (cursor + aggtradeMaxInclusiveSpanMs) lastMs + 1)
      exact ⟨_, by rw [if_neg under, later]; rfl⟩
    · exact ⟨[], rfl⟩

/-- The slices cover the window one behind the other. -/
theorem walk_respond {lastMs : Int} {fuel : Nat} {cursor : Int}
    (enough : lastMs + 1 - cursor ≤ fuel) {chunks : List (Int × Int)}
    (cut : chunksFrom lastMs fuel cursor = .ok chunks) (collected : List PyDict) :
    Yields tape
      (walk builtins tape.respond symbol lastMs
        (fun collected _ row => .ok (collected ++ [row])) chunks collected)
      (collected ++ (tape.between cursor lastMs).map AggTrade.row) := by
  have over' : lastMs < cursor → tape.between cursor lastMs = [] := fun ended =>
    List.filter_eq_nil_iff.mpr fun trade _ => by
      simp only [decide_eq_true_eq]
      omega
  induction fuel generalizing cursor chunks collected with
  | zero =>
    obtain rfl := Except.ok.inj cut
    rw [over' (by omega)]
    exact .inl (by simp [walk]; rfl)
  | succ fuel ih =>
    unfold chunksFrom at cut
    split at cut
    · rename_i more
      dsimp only at cut
      split at cut
      · cases cut
      rename_i short
      obtain ⟨rest, later, rfl⟩ := map_eq_ok.mp cut
      generalize bound : min (cursor + aggtradeMaxInclusiveSpanMs) lastMs = chunkEnd at *
      have forward : cursor ≤ chunkEnd := by
        simp only [aggtradeMaxInclusiveSpanMs] at bound
        omega
      have inside : chunkEnd ≤ lastMs := by omega
      have slice : Yields tape (drain builtins tape.respond symbol lastMs _ (cursor, chunkEnd)
          aggtradeMaxPagesPerChunk none collected) _ :=
        drain_respond forward (not_le.mp short) inside (.inl (by decide))
          (stands_first tape (cursor, chunkEnd)) collected
      have drained : (tape.trades.filter (cursor ≤ ·.time)).filter (·.time ≤ chunkEnd) =
          tape.between cursor chunkEnd := by
        rw [List.filter_filter]
        refine List.filter_congr fun trade _ => ?_
        simp [Bool.and_comm]
      have joined : tape.between cursor chunkEnd ++ tape.between (chunkEnd + 1) lastMs =
          tape.between cursor lastMs :=
        tape.ordered.filter_join (by omega) (by omega)
      rw [← joined, List.map_append, ← List.append_assoc]
      unfold walk
      rw [List.foldlM_cons]
      refine Yields.bind (drained ▸ slice) (ih (by omega) later _ ?_)
      exact fun ended => List.filter_eq_nil_iff.mpr fun trade _ => by
        simp only [decide_eq_true_eq]
        omega
    · rename_i ended
      obtain rfl := Except.ok.inj cut
      rw [over' (by omega)]
      exact .inl (by simp [walk]; rfl)

/-- Consecutive trades of the window are all kept, each once. -/
theorem index_rows {startMs lastMs : Int} (consecutive : Consecutive AggTrade.aggId trades)
    (inside : ∀ trade ∈ trades, startMs ≤ trade.time ∧ trade.time ≤ lastMs)
    {byId : Table Int PyDict} {stream : RowStream} (indexed : Indexed builtins byId stream)
    (next : ∀ last ∈ byId.keys.getLast?, ∀ first ∈ trades.head?, first.aggId = last + 1) :
    ∃ byId' stream',
      (trades.map AggTrade.row).foldlM (indexRow builtins startMs lastMs) byId = .ok byId' ∧
        Indexed builtins byId' stream' ∧
          stream'.yielded = stream.yielded ++ trades.map AggTrade.row := by
  induction trades generalizing byId stream with
  | nil => exact ⟨byId, stream, rfl, indexed, by simp⟩
  | cons trade trades ih =>
    obtain ⟨absent, joined⟩ := indexed.put
      (fun last ends => next last ends trade rfl) (rowSignature_row trade)
    have kept : indexRow builtins startMs lastMs byId trade.row =
        .ok (byId.put trade.aggId trade.row) := by
      obtain ⟨started, ended⟩ := inside trade (List.mem_cons_self ..)
      unfold indexRow
      rw [rowId_row, ok_bind, rowEventMs_row, ok_bind, if_neg (by omega), absent]
      rfl
    obtain ⟨byId', stream', rest, indexed', yielded⟩ := ih (List.IsChain.tail consecutive)
      (fun later listed => inside later (List.mem_cons_of_mem trade listed)) joined (by
        rintro last ends first begins
        have own : (byId.put trade.aggId trade.row).keys.getLast? = some trade.aggId := by
          simp [Table.put, absent]
        obtain rfl := Option.some.inj (own.symm.trans ends)
        exact (List.isChain_cons.mp consecutive).1 first begins)
    refine ⟨byId', stream', ?_, indexed', ?_⟩
    · rw [List.map_cons, List.foldlM_cons, kept]
      exact rest
    · rw [yielded, List.map_cons, List.append_assoc]
      rfl

/-- The trades of a window are consecutive. -/
theorem Tape.between_consecutive (tape : Tape) (startMs lastMs : Int) :
    Consecutive AggTrade.aggId (tape.between startMs lastMs) :=
  List.IsChain.infix tape.consecutive (tape.ordered.window_infix startMs (lastMs + 1))

/-- The collection of a venue's window is the trades of the window. -/
theorem fetch_respond {start stop : Instant} {startMs lastMs : Int}
    (window : inclusiveMsWindow start stop = .ok (startMs, lastMs)) :
    Yields tape (fetchCompleteAggTradeRows builtins tape.respond symbol start stop)
      ((tape.between startMs lastMs).map AggTrade.row) := by
  obtain ⟨chunks, cut⟩ := exists_chunksFrom lastMs (lastMs + 1 - startMs).toNat startMs
  have slices : iterAggtradeTimeChunks start stop = .ok chunks := by
    rw [iterAggtradeTimeChunks, window, ok_bind]
    exact cut
  unfold fetchCompleteAggTradeRows
  rw [slices, ok_bind, window, ok_bind]
  dsimp only
  refine Yields.bind (walk_respond (by omega) cut []) (.inl ?_)
  have inside : ∀ trade ∈ tape.between startMs lastMs,
      startMs ≤ trade.time ∧ trade.time ≤ lastMs := fun trade listed => by
    have := of_decide_eq_true (List.mem_filter.mp listed).2
    exact ⟨this.1, Int.lt_add_one_iff.mp this.2⟩
  have empty : Indexed builtins .empty ⟨none, []⟩ := indexed_empty
  obtain ⟨byId, stream, kept, indexed, yielded⟩ :=
    index_rows (tape.between_consecutive startMs lastMs) inside empty nofun
  rw [List.nil_append, indexed.proved window kept, yielded, List.nil_append]

/-! ## Complete or refused -/

def ReadExactly (value : Instant) : Prop := 0 ≤ value ∨ value % 1000000 = 0

/-- A bound on a whole millisecond is read exactly, or a second late. -/
theorem datetimeToMs_of_whole {value : Int} (whole : value % 1000 = 0) :
    ReadExactly value ∧ datetimeToMs value * 1000 = value ∨
      ¬ReadExactly value ∧ datetimeToMs value * 1000 = value + 1000000 := by
  have truncated := Int.tdiv_eq_ediv (a := value) (b := 1000000)
  unfold ReadExactly datetimeToMs
  rw [truncated]
  split
  · rename_i exactly
    have floor : 0 ≤ value ∨ value % 1000000 = 0 := by omega
    exact .inl ⟨floor, by omega⟩
  · rename_i late
    have ceiling : ¬(0 ≤ value ∨ value % 1000000 = 0) := by omega
    exact .inr ⟨ceiling, by rw [Int.sign_eq_one_of_pos (by omega)]; omega⟩

/-- Where a window is read exactly, its milliseconds are the window. -/
theorem Tape.between_eq_window (tape : Tape) {start stop startMs stopMs : Int}
    (first : startMs * 1000 = start) (last : stopMs * 1000 = stop) :
    tape.between startMs (stopMs - 1) = tape.window start stop := by
  have same : ∀ time : Int, (startMs ≤ time ∧ time < stopMs - 1 + 1) ↔
      (start ≤ time * 1000 ∧ time * 1000 < stop) := by omega
  exact List.filter_congr fun trade _ => decide_eq_decide.mpr (same trade.time)

def Tape.single (time : Int) : Tape where
  trades := [⟨1, "1", "1", 1, 1, time, false⟩]
  consecutive := .singleton _
  ordered := List.pairwise_singleton _ _

def CompleteOrRefused (builtins : PyBuiltins) (start stop : Instant) : Prop :=
  ∀ (tape : Tape) symbol rows,
    fetchCompleteAggTradeRows builtins tape.respond symbol start stop = .ok rows →
      rows = (tape.window start stop).map AggTrade.row

/-- A venue that does not fill a page is never refused inside a window. -/
theorem fetch_single {time : Int} {start stop : Instant}
    (window : datetimeToMs start < datetimeToMs stop) :
    fetchCompleteAggTradeRows builtins (Tape.single time).respond symbol start stop =
      .ok (((Tape.single time).between (datetimeToMs start) (datetimeToMs stop - 1)).map
        AggTrade.row) :=
  (fetch_respond (if_neg (not_le.mpr window))).resolve_right fun filled =>
    absurd filled.2 (by simp [Tape.single, aggtradePageLimit])

/-- Conversions of numbers, flags and decimal texts. -/
def sampleBuiltins : PyBuiltins where
  int
    | .int n => .ok n
    | .bool b => .ok b.toNat
    | .str s => match s.toInt? with
      | some n => .ok n
      | none => .error .valueError
    | _ => .error .typeError
  str
    | .none => "None"
    | .bool b => if b then "True" else "False"
    | .int n => toString n
    | .float text | .str text | .list text | .dict text => text
  eq left right := left = right
  int_int _ := rfl
  eq_bool _ := decide_eq_true rfl

end AlphaTrade.Market
