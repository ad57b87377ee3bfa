import AlphaTrade.Library.Run
import AlphaTrade.Market.TradeStream
import AlphaTrade.Market.TradeWindows

/-!
# The retained trades are a contiguous run

Every method of the assembler keeps the retained trades in order, without a gap and without a
repeated id, whether it returns or raises. Outside a reconnect the cursor is at the last of
them, and all are of its connection.
-/
namespace AlphaTrade.Market
open Library Library.Attempt
open Execution (Instant)

/-! ## Pure parts -/

theorem consecutive_of_contiguousFrom {first : Int} {rest : List Int}
    (passed : contiguousFrom first rest = .ok ()) : Consecutive id (first :: rest) := by
  induction rest generalizing first with
  | nil => exact .singleton first
  | cons next rest ih =>
    unfold contiguousFrom at passed
    by_cases same : next = first
    · simp [same] at passed
    by_cases step : next = first + 1
    · rw [if_neg same, if_neg (not_not.mpr step)] at passed
      exact .cons_cons step (ih passed)
    · simp [same, step] at passed

theorem consecutive_of_require {ids : List Int} (passed : requireContiguousSequences ids = .ok ()) :
    Consecutive id ids := by
  cases ids with
  | nil => exact .nil
  | cons first rest => exact consecutive_of_contiguousFrom passed

variable {identity : EvidenceMarketIdentity}

/-- What is kept of some trades has ids that are new, and none twice. -/
theorem dedupeFrom_spec {seen : List (String × String)} {trades kept : List TradeEvent}
    (deduped : dedupeFrom identity seen trades = .ok kept) :
    (kept.map (·.venueTradeId)).Nodup ∧
      ∀ trade ∈ kept, trade ∈ trades ∧ seen.lookup trade.venueTradeId = none := by
  induction trades generalizing seen kept with
  | nil =>
    obtain rfl := Except.ok.inj deduped
    simp
  | cons trade trades ih =>
    unfold dedupeFrom at deduped
    obtain ⟨-, -, deduped⟩ := bind_eq_ok.mp deduped
    cases listed : seen.lookup trade.venueTradeId with
    | none =>
      rw [listed] at deduped
      obtain ⟨rest, later, deduped⟩ := bind_eq_ok.mp deduped
      obtain rfl := Except.ok.inj deduped
      obtain ⟨distinct, fresh⟩ := ih later
      have unseen : ∀ other ∈ rest, other.venueTradeId ≠ trade.venueTradeId ∧
          seen.lookup other.venueTradeId = none := by
        intro other kept
        have := (fresh other kept).2
        rw [List.lookup_cons] at this
        by_cases same : other.venueTradeId = trade.venueTradeId
        · simp [same] at this
        · have apart : (other.venueTradeId == trade.venueTradeId) = false := by simpa using same
          rw [apart] at this
          exact ⟨same, this⟩
      refine ⟨?_, List.forall_mem_cons.mpr ⟨⟨List.mem_cons_self .., listed⟩, ?_⟩⟩
      · rw [List.map_cons, List.nodup_cons]
        refine ⟨fun repeated => ?_, distinct⟩
        obtain ⟨other, kept, same⟩ := List.mem_map.mp repeated
        exact (unseen other kept).1 same
      · exact fun other kept =>
          ⟨List.mem_cons_of_mem _ (fresh other kept).1, (unseen other kept).2⟩
    | some prior =>
      by_cases same : prior = trade.contentHash
      · have deduped : dedupeFrom identity seen trades = .ok kept := by
          simpa [listed, same] using deduped
        obtain ⟨distinct, fresh⟩ := ih deduped
        exact ⟨distinct, fun other kept =>
          ⟨List.mem_cons_of_mem _ (fresh other kept).1, (fresh other kept).2⟩⟩
      · simp [listed, same] at deduped

/-- The trades of a backfill that passed: in order, without a gap, each one given. -/
structure Backfilled (given combined : List TradeEvent) : Prop where
  rising : Consecutive (fun trade : TradeEvent => (trade.sequence : Int)) combined
  named : (combined.map (·.venueTradeId)).Nodup
  given : ∀ trade ∈ combined, trade ∈ given

theorem backfilled {given combined : List TradeEvent} {watermark : Option Nat}
    (deduped : dedupeOrdered identity given = .ok combined)
    (passed : assertBackfill watermark combined = .ok ()) : Backfilled given combined := by
  obtain ⟨distinct, fresh⟩ := dedupeFrom_spec deduped
  obtain ⟨⟨⟩, contiguous, -⟩ := bind_eq_ok.mp passed
  refine ⟨?_, distinct, fun trade kept => List.mem_insertionSort _ |>.mp (fresh trade kept).1⟩
  have chain := consecutive_of_require contiguous
  unfold Consecutive at chain ⊢
  exact (List.isChain_map _).mp chain

/-! ## The invariant -/

/-- The retained trades, each of them a trade that was fed. -/
structure Held (fed : Nat → Instant → Prop) (assembler : TradeStreamAssembler) : Prop where
  rising : Consecutive (fun trade : TradeEvent => (trade.sequence : Int)) assembler.ordered
  named : (assembler.ordered.map (·.venueTradeId)).Nodup
  indexed : ∀ trade ∈ assembler.ordered, (assembler.byId.find trade.venueTradeId).isSome
  fed : ∀ trade ∈ assembler.ordered, fed trade.sequence trade.eventTimestamp

/-- The cursor is at the last retained trade, and all are of its connection. -/
structure Current (assembler : TradeStreamAssembler) : Prop where
  last : ∀ trade ∈ assembler.ordered.getLast?,
    assembler.cursor.lastSequence = some trade.sequence
  connection : ∀ trade ∈ assembler.ordered,
    trade.sourceConnectionId = assembler.cursor.connectionIdentity

/-- The invariant of the assembler. -/
structure Retained (fed : Nat → Instant → Prop) (assembler : TradeStreamAssembler) : Prop where
  held : Held fed assembler
  current : assembler.cursor.reconnectState ≠ .reconnecting → Current assembler

/-- While live trades are accepted the cursor is at the last one, in every state. -/
structure Live (fed : Nat → Instant → Prop) (connection : ConnectionId)
    (assembler : TradeStreamAssembler) : Prop where
  held : Held fed assembler
  current : Current assembler
  connected : assembler.cursor.connectionIdentity = connection

section Invariant

variable {hashing : Hashing} {fed : Nat → Instant → Prop} {assembler after : TradeStreamAssembler}
  {connection : ConnectionId} {observedAt : Instant}

theorem Live.retained (live : Live fed connection assembler) : Retained fed assembler :=
  ⟨live.held, fun _ => live.current⟩

/-- What the invariant reads of the assembler. -/
structure SameTrades (assembler after : TradeStreamAssembler) : Prop where
  ordered : after.ordered = assembler.ordered
  byId : after.byId = assembler.byId
  lastSequence : after.cursor.lastSequence = assembler.cursor.lastSequence
  connection : after.cursor.connectionIdentity = assembler.cursor.connectionIdentity

theorem Held.of_same (held : Held fed assembler) (same : SameTrades assembler after) :
    Held fed after := by
  refine ⟨?_, ?_, ?_, ?_⟩
  · rw [same.ordered]
    exact held.rising
  · rw [same.ordered]
    exact held.named
  · rw [same.ordered, same.byId]
    exact held.indexed
  · rw [same.ordered]
    exact held.fed

theorem Current.of_same (current : Current assembler) (same : SameTrades assembler after) :
    Current after := by
  refine ⟨?_, ?_⟩
  · rw [same.ordered, same.lastSequence]
    exact current.last
  · rw [same.ordered, same.connection]
    exact current.connection

theorem Live.of_same (live : Live fed connection assembler) (same : SameTrades assembler after) :
    Live fed connection after :=
  ⟨live.held.of_same same, live.current.of_same same, same.connection.trans live.connected⟩

/-! ## Edits -/

theorem sequence_lt_next {previous : Option Nat} {next : Nat}
    (behind : ∀ last ∈ previous, last ≤ next) (apart : ∀ last ∈ previous, next ≠ last)
    (gapless : detectSequenceGap previous next = none) : ∀ last ∈ previous, next = last + 1 := by
  rintro last ⟨⟩
  have := behind last rfl
  have := apart last rfl
  unfold detectSequenceGap at gapless
  grind

variable {trade : TradeEvent}

/-- A trade that goes on where the cursor is. -/
theorem Live.append (live : Live fed connection assembler)
    (fresh : assembler.byId.find trade.venueTradeId = none)
    (next : ∀ last ∈ assembler.cursor.lastSequence, trade.sequence = last + 1)
    (own : trade.sourceConnectionId = connection)
    (given : fed trade.sequence trade.eventTimestamp) :
    Live fed connection (assembler.append trade observedAt) := by
  refine ⟨⟨?_, ?_, ?_, ?_⟩, ⟨?_, ?_⟩, live.connected⟩
  · refine live.held.rising.concat fun last ends => ?_
    have := next last.sequence (live.current.last last ends)
    omega
  · change ((assembler.ordered ++ [trade]).map (·.venueTradeId)).Nodup
    rw [List.map_append, List.map_singleton]
    refine live.held.named.append (List.nodup_singleton _) fun name listed same => ?_
    obtain ⟨other, held, rfl⟩ := List.mem_map.mp listed
    have indexed := live.held.indexed other held
    rw [List.mem_singleton.mp same, fresh] at indexed
    exact absurd indexed (by simp)
  · intro other held
    change ((assembler.byId.put trade.venueTradeId trade).find other.venueTradeId).isSome
    by_cases same : other.venueTradeId = trade.venueTradeId
    · rw [same, Table.find_put_self]
      rfl
    · rw [Table.find_put_of_ne _ same]
      refine live.held.indexed other ?_
      rcases List.mem_append.mp held with old | new
      · exact old
      · exact absurd (congrArg (·.venueTradeId) (List.mem_singleton.mp new)) same
  · exact List.forall_mem_append.mpr ⟨live.held.fed, by simpa using given⟩
  · intro last ends
    have : last = trade := by
      simpa [TradeStreamAssembler.append, eq_comm] using ends
    rw [this]
    rfl
  · refine List.forall_mem_append.mpr ⟨live.current.connection, fun other new => ?_⟩
    rw [List.mem_singleton.mp new, own]
    exact live.connected.symm

/-- Along trades in order the event times do not fall. -/
theorem Held.timely (held : Held fed assembler)
    (timely : ∀ n m s t, fed n s → fed m t → n < m → s ≤ t) :
    Ordered (·.eventTimestamp) assembler.ordered := by
  refine List.Pairwise.imp_of_mem (fun first second before => ?_) held.rising.rising
  exact timely _ _ _ _ (held.fed _ first) (held.fed _ second) (by omega)

/-- What is kept is the end of what was retained. -/
theorem keptTrades_suffix {ordered : List TradeEvent} {last : TradeEvent}
    (timely : Ordered (·.eventTimestamp) ordered) (ends : ordered.getLast? = some last)
    (cutoff : Instant) :
    TradeStreamAssembler.keptTrades ordered last cutoff <:+ ordered ∧
      (TradeStreamAssembler.keptTrades ordered last cutoff).getLast? = some last := by
  have cut := timely.filter_lt_append cutoff
  unfold TradeStreamAssembler.keptTrades
  by_cases none : ordered.filter (cutoff ≤ ·.eventTimestamp) = []
  · obtain ⟨before, split⟩ := List.getLast?_eq_some_iff.mp ends
    simp only [none, if_true]
    exact ⟨⟨before, split.symm⟩, rfl⟩
  · simp only [none, if_false]
    refine ⟨⟨_, cut⟩, ?_⟩
    rw [← cut, List.getLast?_append_of_ne_nil _ none] at ends
    exact ends

/-- The end of the retained trades, with their index. -/
theorem Retained.suffix (retained : Retained fed assembler) {kept : List TradeEvent}
    (suffix : kept <:+ assembler.ordered) (ends : kept.getLast? = assembler.ordered.getLast?) :
    Retained fed { assembler with
      ordered := kept
      byId := assembler.byId.restrict fun tradeId => tradeId ∈ kept.map (·.venueTradeId) } := by
  refine ⟨⟨?_, ?_, ?_, ?_⟩, fun state => ⟨?_, ?_⟩⟩
  · obtain ⟨dropped, split⟩ := suffix
    have rising := retained.held.rising
    rw [← split] at rising
    exact (List.isChain_append.mp rising).2.1
  · exact retained.held.named.sublist (suffix.sublist.map _)
  · intro trade listed
    have named : trade.venueTradeId ∈ kept.map (·.venueTradeId) := List.mem_map_of_mem listed
    dsimp only
    rw [Table.find_restrict, if_pos (decide_eq_true named)]
    exact retained.held.indexed trade (suffix.subset listed)
  · exact fun trade listed => retained.held.fed trade (suffix.subset listed)
  · exact fun trade final => (retained.current state).last trade (ends ▸ final)
  · exact fun trade listed => (retained.current state).connection trade (suffix.subset listed)

/-- Trades that are forgotten from the front. -/
theorem Retained.forget (retained : Retained fed assembler)
    (timely : ∀ n m s t, fed n s → fed m t → n < m → s ≤ t) (cutoff : Instant) :
    Retained fed (assembler.forgetTradesBefore cutoff) := by
  unfold TradeStreamAssembler.forgetTradesBefore
  cases ends : assembler.ordered.getLast? with
  | none => exact retained
  | some last =>
    obtain ⟨suffix, kept⟩ := keptTrades_suffix (retained.held.timely timely) ends cutoff
    by_cases all : (TradeStreamAssembler.keptTrades assembler.ordered last cutoff).length =
        assembler.ordered.length
    · simpa only [all, if_true] using retained
    · simpa only [all, if_false] using retained.suffix suffix (kept.trans ends.symm)

theorem retained_drop : Retained fed assembler.dropRetainedTrades := by
  have dropped : assembler.dropRetainedTrades.ordered = [] := rfl
  refine ⟨⟨?_, ?_, ?_, ?_⟩, fun _ => ⟨?_, ?_⟩⟩
  · exact dropped ▸ .nil
  all_goals simp [dropped]

theorem Retained.reconnect (retained : Retained fed assembler) :
    Retained fed (assembler.beginReconnect connection observedAt) :=
  ⟨⟨retained.held.rising, retained.held.named, retained.held.indexed, retained.held.fed⟩,
    fun live => absurd rfl live⟩

theorem Retained.note (retained : Retained fed assembler) (gap : Option (Nat × Nat)) :
    Retained fed (assembler.noteIncompleteBackfill observedAt gap) :=
  ⟨⟨retained.held.rising, retained.held.named, retained.held.indexed, retained.held.fed⟩,
    fun live => absurd rfl live⟩

theorem Retained.release (retained : Retained fed assembler) :
    Retained fed assembler.releaseUnrecoverableForRetry := by
  unfold TradeStreamAssembler.releaseUnrecoverableForRetry
  split
  · exact retained
  · exact ⟨⟨retained.held.rising, retained.held.named, retained.held.indexed, retained.held.fed⟩,
      fun live => absurd rfl live⟩

/-! ## A backfill -/

@[simp] theorem retagConnection_sequence (trade : TradeEvent) :
    (retagConnection hashing connection trade).sequence = trade.sequence := by
  unfold retagConnection
  split <;> rfl

@[simp] theorem retagConnection_venueTradeId (trade : TradeEvent) :
    (retagConnection hashing connection trade).venueTradeId = trade.venueTradeId := by
  unfold retagConnection
  split <;> rfl

@[simp] theorem retagConnection_eventTimestamp (trade : TradeEvent) :
    (retagConnection hashing connection trade).eventTimestamp = trade.eventTimestamp := by
  unfold retagConnection
  split <;> rfl

@[simp] theorem retagConnection_sourceConnectionId (trade : TradeEvent) :
    (retagConnection hashing connection trade).sourceConnectionId = connection := by
  unfold retagConnection
  split
  · assumption
  · rfl

variable {trades : List TradeEvent}

theorem isSome_foldl_put (byId : Table String TradeEvent) {name : String}
    (listed : (∃ trade ∈ trades, trade.venueTradeId = name) ∨ (byId.find name).isSome) :
    ((trades.foldl (fun byId trade => byId.put trade.venueTradeId trade) byId).find
      name).isSome := by
  induction trades generalizing byId with
  | nil => simpa using listed
  | cons trade trades ih =>
    refine ih _ ?_
    by_cases own : trade.venueTradeId = name
    · exact .inr (by simp [own])
    · obtain ⟨other, listed, same⟩ | held := listed
      · rcases List.mem_cons.mp listed with rfl | later
        · exact absurd same own
        · exact .inl ⟨other, later, same⟩
      · exact .inr (by rw [Table.find_put_of_ne _ (Ne.symm own)]; exact held)

theorem Backfilled.live {given combined : List TradeEvent} (backfilled : Backfilled given combined)
    (feed : ∀ trade ∈ given, fed trade.sequence trade.eventTimestamp) :
    Live fed assembler.cursor.connectionIdentity
      (assembler.recovered hashing combined observedAt) := by
  refine ⟨⟨?_, ?_, ?_, ?_⟩, ⟨?_, ?_⟩, rfl⟩
  · have rising := backfilled.rising
    unfold Consecutive at rising ⊢
    refine (List.isChain_map _).mpr ?_
    simpa using rising
  · simpa [TradeStreamAssembler.recovered, Function.comp_def] using backfilled.named
  · exact fun trade listed => isSome_foldl_put _ (.inl ⟨trade, listed, rfl⟩)
  · intro trade listed
    obtain ⟨original, kept, rfl⟩ := List.mem_map.mp listed
    simpa using feed original (backfilled.given original kept)
  · rintro trade ends
    simp only [TradeStreamAssembler.recovered] at ends ⊢
    rw [ends]
    rfl
  · intro trade listed
    obtain ⟨original, -, rfl⟩ := List.mem_map.mp listed
    simp [TradeStreamAssembler.recovered]

/-! ## Methods -/

theorem acceptTrade_live (own : trade.sourceConnectionId = connection)
    (given : fed trade.sequence trade.eventTimestamp) :
    Triple (Live fed connection) (acceptTrade observedAt trade) (fun _ => Live fed connection)
      (Live fed connection) := by
  unfold acceptTrade
  refine .reads fun assembler live => ?_
  have kept : ∀ t, t = assembler → Live fed connection t := fun t same => same ▸ live
  cases found : assembler.byId.find trade.venueTradeId with
  | some existing => exact .requires_last kept fun t same _ => kept t same
  | none =>
    refine .requires kept fun behind => .requires kept fun apart => ?_
    cases gap : detectSequenceGap assembler.cursor.lastSequence trade.sequence with
    | some bounds =>
      -- The gap is noted in the cursor before it is raised.
      refine .edits (fun t same => ?_) (.raises fun _ => id)
      exact (kept t same).of_same ⟨rfl, rfl, rfl, rfl⟩
    | none =>
      refine .updates fun t same => ?_
      subst same
      exact live.append found (sequence_lt_next behind apart gap) own given

theorem acceptLive_live (feed : ∀ trade ∈ trades, fed trade.sequence trade.eventTimestamp) :
    Triple (Live fed connection) (acceptLive trades observedAt) (fun _ => Live fed connection)
      (Live fed connection) := by
  unfold acceptLive
  refine .reads fun assembler live => ?_
  have kept : ∀ t, t = assembler → Live fed connection t := fun t same => same ▸ live
  refine .checks kept fun _ passed => ?_
  have loop : Triple (Live fed connection) (trades.forM (acceptTrade observedAt))
      (fun _ => Live fed connection) (Live fed connection) := .loops fun trade listed => by
    obtain ⟨-, -, epoch⟩ := bind_eq_ok.mp (forM_eq_ok.mp passed trade listed)
    exact acceptTrade_live ((ensure_eq_ok.mp epoch).trans live.connected) (feed trade listed)
  exact loop.weaken kept

/-- A verified proof binds the trades that it was verified with. -/
theorem tradeSetHash_of_verify {proof : TradeWindowCoverageProof}
    {identity : EvidenceMarketIdentity}
    (verified : verifyTradeWindowCoverage hashing proof identity connection trades = .ok ()) :
    proof.tradeSetHash = tradeSetContentHash hashing (orderTrades trades) := by
  unfold verifyTradeWindowCoverage at verified
  obtain ⟨-, -, verified⟩ := bind_eq_ok.mp verified
  obtain ⟨-, -, verified⟩ := bind_eq_ok.mp verified
  by_cases complete : proof.completeness = .complete
  · simp only [complete, if_true] at verified
    obtain ⟨-, -, verified⟩ := bind_eq_ok.mp verified
    obtain ⟨_, binds, _⟩ := bind_eq_ok.mp verified
    exact ensure_eq_ok.mp binds
  · simp only [complete, if_false] at verified
    obtain ⟨_, binds, _⟩ := bind_eq_ok.mp verified
    exact ensure_eq_ok.mp binds

/-- A snapshot shows the retained trades, and is usable only with their complete coverage. -/
structure Shows (hashing : Hashing) (snapshot : TradeStreamSnapshot)
    (assembler : TradeStreamAssembler) : Prop where
  trades : snapshot.trades = assembler.ordered
  cursor : snapshot.cursor = assembler.cursor.toTradeStreamCursor
  covered : snapshot.usable → snapshot.coverage.completeness = .complete ∧
    snapshot.coverage.gapState = .none
  bound : snapshot.coverage.tradeSetHash =
    tradeSetContentHash hashing (orderTrades snapshot.trades)

section Coverage

variable {inv : TradeStreamAssembler → Prop}
  (stays : ∀ assembler proof, inv assembler → inv { assembler with coverage := some proof })

include stays

theorem refreshPartialCoverage_keeps :
    Triple inv (refreshPartialCoverage hashing observedAt) (fun _ => inv) inv := by
  unfold refreshPartialCoverage
  refine .reads fun assembler holds => .checks (fun t same => same ▸ holds) fun proof _ =>
    .updates fun t same => ?_
  subst same
  exact stays t proof holds

theorem requireCoverage_keeps : Triple inv (requireCoverage hashing) (fun _ => inv) inv := by
  unfold requireCoverage
  refine .reads fun assembler holds => ?_
  split
  · exact (refreshPartialCoverage_keeps stays).weaken fun t same => same ▸ holds
  · exact .returns fun t same => same ▸ holds

theorem snapshot_shows :
    Triple inv (snapshot hashing)
      (fun snapshot assembler => inv assembler ∧ Shows hashing snapshot assembler) inv := by
  unfold snapshot
  refine (requireCoverage_keeps stays).bind fun _ => .reads fun assembler holds => ?_
  have kept : ∀ t, t = assembler → inv t := fun t same => same ▸ holds
  cases covered : assembler.coverage with
  | none => exact .raises kept
  | some coverage =>
    refine .checks_last kept fun t snapshot same passed => ⟨kept t same, ?_⟩
    obtain ⟨⟨⟩, verified, passed⟩ := bind_eq_ok.mp passed
    obtain ⟨⟨⟩, -, passed⟩ := bind_eq_ok.mp passed
    obtain rfl := Except.ok.inj passed
    subst same
    refine ⟨rfl, rfl, fun usable => ?_, ?_⟩
    · obtain ⟨-, -, -, gapless, complete⟩ := of_decide_eq_true usable
      exact ⟨complete, gapless⟩
    · exact tradeSetHash_of_verify verified

end Coverage

section Methods

variable {trades : List TradeEvent}

def Serves (hashing : Hashing) (inv : TradeStreamAssembler → Prop) (snapshot : TradeStreamSnapshot)
    (assembler : TradeStreamAssembler) : Prop := inv assembler ∧ Shows hashing snapshot assembler

variable {method : Method TradeStreamSnapshot}

theorem Triple.served {pre : TradeStreamAssembler → Prop}
    (triple : Triple pre method (Serves hashing (Live fed connection)) (Live fed connection)) :
    Triple pre method (Serves hashing (Retained fed)) (Retained fed) :=
  triple.strengthen (fun _ _ done => ⟨done.1.retained, done.2⟩) fun _ held => held.retained

/-- A method on a live stream is one on a retained stream. -/
theorem Triple.of_live
    (triple : Triple (Live fed connection) method (Serves hashing (Live fed connection))
      (Live fed connection))
    (live : Live fed connection assembler) :
    Triple (fun t => t = assembler) method (Serves hashing (Retained fed)) (Retained fed) := by
  refine Triple.served (triple.weaken ?_)
  rintro _ rfl
  exact live

theorem Live.withCoverage (assembler : TradeStreamAssembler) (proof : TradeWindowCoverageProof)
    (live : Live fed connection assembler) :
    Live fed connection { assembler with coverage := some proof } :=
  live.of_same ⟨rfl, rfl, rfl, rfl⟩

theorem Live.warm (assembler : TradeStreamAssembler) (live : Live fed connection assembler) :
    Live fed connection (assembler.refreshWarmUp observedAt) :=
  live.of_same ⟨rfl, rfl, rfl, rfl⟩

theorem Live.continued (assembler : TradeStreamAssembler) (live : Live fed connection assembler) :
    Live fed connection (assembler.continued observedAt) := by
  unfold TradeStreamAssembler.continued
  split
  · exact live.of_same ⟨rfl, rfl, rfl, rfl⟩
  · exact live

theorem ingest_retained (allowEmpty : Bool)
    (feed : ∀ trade ∈ trades, fed trade.sequence trade.eventTimestamp) :
    Triple (Retained fed) (ingest hashing trades observedAt allowEmpty)
      (Serves hashing (Retained fed)) (Retained fed) := by
  unfold ingest
  refine .reads fun assembler retained => ?_
  have kept : ∀ t, t = assembler → Retained fed t := fun t same => same ▸ retained
  refine .requires kept fun _ => .requires kept fun state => .requires kept fun _ => ?_
  refine Triple.of_live ?_ ⟨retained.held, retained.current state, rfl⟩
  have sorted : ∀ trade ∈ orderTrades trades, fed trade.sequence trade.eventTimestamp :=
    fun trade listed => feed trade (List.mem_insertionSort _ |>.mp listed)
  exact (acceptLive_live sorted).bind fun _ => .edits Live.warm <|
    (refreshPartialCoverage_keeps Live.withCoverage).bind fun _ =>
      snapshot_shows Live.withCoverage

theorem ingestBatch_retained {batch : OrderedTradeBatch}
    (feed : ∀ trade ∈ batch.trades, fed trade.sequence trade.eventTimestamp) :
    Triple (Retained fed) (ingestBatch hashing batch observedAt) (Serves hashing (Retained fed))
      (Retained fed) := by
  unfold ingestBatch
  refine .reads fun assembler retained => ?_
  have kept : ∀ t, t = assembler → Retained fed t := fun t same => same ▸ retained
  refine .requires kept fun none => .requires kept fun _ => .requires kept fun _ =>
    .checks kept fun _ _ => ?_
  have current : Current assembler := ⟨by simp [none], by simp [none]⟩
  refine Triple.of_live ?_ ⟨retained.held, current, rfl⟩
  exact (acceptLive_live feed).bind fun _ => .edits Live.warm <|
    .edits (fun t live => live.withCoverage t batch.coverage) <| snapshot_shows Live.withCoverage

theorem refuseBackfill_retained (gap : Option (Nat × Nat)) (message : String) :
    Triple (Retained fed) (refuseBackfill observedAt gap message) (Serves hashing (Retained fed))
      (Retained fed) := by
  unfold refuseBackfill
  exact .edits (fun t retained => retained.note gap) (.raises fun _ => id)

theorem recoverFromBackfill_retained {backfill liveResume : List TradeEvent}
    (feed : ∀ trade ∈ backfill ++ liveResume, fed trade.sequence trade.eventTimestamp) :
    Triple (Retained fed) (recoverFromBackfill hashing backfill observedAt liveResume)
      (Serves hashing (Retained fed)) (Retained fed) := by
  unfold recoverFromBackfill
  refine .reads fun assembler retained => ?_
  have kept : ∀ t, t = assembler → Retained fed t := fun t same => same ▸ retained
  refine .requires kept fun _ => ?_
  split
  · exact (refuseBackfill_retained _ _).weaken kept
  · exact .raises kept
  · exact (refuseBackfill_retained _ _).weaken kept
  · rename_i combined _ deduped
    split
    · exact (refuseBackfill_retained _ _).weaken kept
    · exact (refuseBackfill_retained _ _).weaken kept
    · exact .raises kept
    · rename_i passed
      have begins : ∀ t, t = assembler →
          Live fed assembler.cursor.connectionIdentity
            (t.recovered hashing combined observedAt) := by
        rintro _ rfl
        exact (backfilled deduped passed).live feed
      exact Triple.served (.edits begins <| .edits Live.warm <| .edits Live.continued <|
        (refreshPartialCoverage_keeps Live.withCoverage).bind fun _ =>
          snapshot_shows Live.withCoverage)

end Methods

end Invariant

/-! ## Runs -/

section Runs

variable (hashing : Hashing) {fed : Nat → Instant → Prop} {assembler : TradeStreamAssembler}

theorem StreamCall.method_retained (timely : ∀ n m s t, fed n s → fed m t → n < m → s ≤ t)
    (call : StreamCall) (feed : ∀ trade ∈ call.trades, fed trade.sequence trade.eventTimestamp) :
    Triple (Retained fed) (call.method hashing)
      (fun snapshot after => Retained fed after ∧ ∀ shown ∈ snapshot, Shows hashing shown after)
      (Retained fed) := by
  have silent : ∀ edit : TradeStreamAssembler → TradeStreamAssembler,
      (∀ t, Retained fed t → Retained fed (edit t)) →
      Triple (Retained fed) (modify edit >>= fun _ => pure none
        : Method (Option TradeStreamSnapshot))
        (fun snapshot after => Retained fed after ∧ ∀ shown ∈ snapshot, Shows hashing shown after)
        (Retained fed) := fun edit keeps =>
    .edits keeps <| .returns fun t retained => ⟨retained, by simp⟩
  have shown : ∀ snapshot after, Serves hashing (Retained fed) snapshot after →
      Retained fed after ∧ ∀ shown ∈ some snapshot, Shows hashing shown after := by
    rintro snapshot after ⟨retained, shows⟩
    exact ⟨retained, by simpa using shows⟩
  cases call with
  | ingest trades observedAt allowEmpty =>
    exact .maps ((ingest_retained allowEmpty feed).strengthen shown fun _ => id)
  | ingestBatch batch observedAt =>
    exact .maps ((ingestBatch_retained feed).strengthen shown fun _ => id)
  | recoverFromBackfill backfill observedAt liveResume =>
    exact .maps ((recoverFromBackfill_retained feed).strengthen shown fun _ => id)
  | beginReconnect connection observedAt => exact silent _ fun _ retained => retained.reconnect
  | releaseUnrecoverableForRetry => exact silent _ fun _ retained => retained.release
  | forgetTradesBefore cutoff => exact silent _ fun _ retained => retained.forget timely cutoff
  | dropRetainedTrades => exact silent _ fun _ _ => retained_drop

/-- What holds behind a call, returned or raised, holds behind a step. -/
theorem TradeStreamAssembler.step_of_triple {pre inv : TradeStreamAssembler → Prop}
    {call : StreamCall} (triple : Triple pre (call.method hashing) (fun _ => inv) inv)
    (start : pre assembler) : inv (assembler.step hashing call) := by
  unfold TradeStreamAssembler.step
  cases result : call.method hashing assembler with
  | ok snapshot after => exact triple.of_ok start result
  | error raised after => exact triple.of_error start result

theorem retained_new {identity : EvidenceMarketIdentity} {connectedAt : Instant}
    {connection : ConnectionId} {count : Option Int}
    (created : TradeStreamAssembler.new identity connectedAt connection count = .ok assembler) :
    Retained fed assembler := by
  obtain ⟨cursor, -, created⟩ := bind_eq_ok.mp created
  obtain rfl := Except.ok.inj created
  refine ⟨⟨.nil, ?_, ?_, ?_⟩, fun _ => ⟨?_, ?_⟩⟩ <;> simp

/-- In a run whose trades are timely every call starts from a retained stream. -/
theorem retained_run (timely : ∀ n m s t, fed n s → fed m t → n < m → s ≤ t)
    (calls : List StreamCall)
    (feed : ∀ call ∈ calls, ∀ trade ∈ call.trades, fed trade.sequence trade.eventTimestamp)
    (start : Retained fed assembler) :
    Retained fed (run (TradeStreamAssembler.step hashing) assembler calls) := by
  refine run_invariant _ (fun s call retained given => ?_) start (along_of_mem _ _ feed)
  exact s.step_of_triple hashing ((call.method_retained hashing timely given).strengthen
    (fun _ _ done => done.1) fun _ => id) retained

/-- The retained trades of an assembler are a contiguous run. -/
structure ContiguousRun (assembler : TradeStreamAssembler) : Prop where
  consecutive : Consecutive (fun trade : TradeEvent => (trade.sequence : Int)) assembler.ordered
  distinct : (assembler.ordered.map (·.venueTradeId)).Nodup
  last : assembler.cursor.reconnectState ≠ .reconnecting →
    ∀ trade ∈ assembler.ordered.getLast?, assembler.cursor.lastSequence = some trade.sequence
  connection : assembler.cursor.reconnectState ≠ .reconnecting → ∀ trade ∈ assembler.ordered,
    trade.sourceConnectionId = assembler.cursor.connectionIdentity

theorem Retained.contiguousRun (retained : Retained fed assembler) : ContiguousRun assembler :=
  ⟨retained.held.rising, retained.held.named, fun state => (retained.current state).last,
    fun state => (retained.current state).connection⟩

/-- Trades in the order of their sequences are in the order of `order_trades`. -/
theorem orderTrades_of_consecutive {trades : List TradeEvent}
    (rising : Consecutive (fun trade : TradeEvent => (trade.sequence : Int)) trades) :
    orderTrades trades = trades := by
  refine List.Pairwise.insertionSort_eq (rising.rising.imp fun before => ?_)
  have : (_ : Nat) < _ := Int.ofNat_lt.mp before
  exact (Prod.Lex.toLex_lt_toLex.mpr (.inl this)).le

/-- After every call of a run whose event times do not fall with the sequence the retained
trades are a contiguous run, and a snapshot that is usable has complete coverage without a gap,
bound to its trades. -/
theorem retained_trades_contiguous {identity : EvidenceMarketIdentity} {connectedAt : Instant}
    {connection : ConnectionId} {count : Option Int} {start : TradeStreamAssembler}
    (created : TradeStreamAssembler.new identity connectedAt connection count = .ok start)
    (calls : List StreamCall)
    (timely : ∀ first ∈ calls.flatMap (·.trades), ∀ second ∈ calls.flatMap (·.trades),
      first.sequence < second.sequence → first.eventTimestamp ≤ second.eventTimestamp) :
    ∀ before later, calls = before ++ later →
      ContiguousRun (run (TradeStreamAssembler.step hashing) start before) ∧
      ∀ call ∈ later.head?, ∀ snapshot after,
        call.method hashing (run (TradeStreamAssembler.step hashing) start before) =
          .ok (some snapshot) after →
        snapshot.trades = after.ordered ∧ (snapshot.usable →
          snapshot.coverage.completeness = .complete ∧ snapshot.coverage.gapState = .none ∧
            snapshot.coverage.tradeSetHash = tradeSetContentHash hashing snapshot.trades) := by
  rintro before later rfl
  let fed (n : Nat) (s : Instant) : Prop :=
    ∃ trade ∈ (before ++ later).flatMap (·.trades), trade.sequence = n ∧ trade.eventTimestamp = s
  have fedTimely : ∀ n m s t, fed n s → fed m t → n < m → s ≤ t := by
    rintro n m s t ⟨first, given, rfl, rfl⟩ ⟨second, given', rfl, rfl⟩ earlier
    exact timely first given second given' earlier
  have feed : ∀ call ∈ before ++ later, ∀ trade ∈ call.trades,
      fed trade.sequence trade.eventTimestamp := fun call listed trade brought =>
    ⟨trade, List.mem_flatMap.mpr ⟨call, listed, brought⟩, rfl, rfl⟩
  have retained := retained_run hashing fedTimely before
    (fun call listed => feed call (List.mem_append_left _ listed)) (retained_new created)
  refine ⟨retained.contiguousRun, fun call next snapshot after returned => ?_⟩
  have called : call ∈ before ++ later :=
    List.mem_append_right _ (List.mem_of_mem_head? next)
  obtain ⟨behind, shows⟩ :=
    (call.method_retained hashing fedTimely (feed call called)).of_ok retained
    returned
  have shown := shows snapshot rfl
  refine ⟨shown.trades, fun usable => ⟨(shown.covered usable).1, (shown.covered usable).2, ?_⟩⟩
  rw [shown.bound, orderTrades_of_consecutive (shown.trades ▸ behind.held.rising)]

end Runs

/-! ## A stream -/

def sampleHashing : Hashing where
  nfc text := text
  nfc_ascii _ _ := rfl
  sha256 text := text
  trade content := content.venueTradeId
  coverage content := content.tradeSetHash

theorem sampleName_length (name : String) :
    1 ≤ ("t" ++ String.ofList (name.toList.take 39)).length ∧
      ("t" ++ String.ofList (name.toList.take 39)).length ≤ 40 := by
  simp only [String.length_append, String.length_ofList, List.length_take]
  have : "t".length = 1 := by decide
  omega

/-- The trade of a sequence, that many seconds after the start of the clock. -/
def sampleContent (sequence : Nat) : TradeContent where
  venueTradeId := "t" ++ String.ofList ((toString sequence).toList.take 39)
  sequence := sequence
  instrument := sampleInstrument
  marketType := .perpetual
  price := 100
  quantity := 1
  quoteQuantity := 100
  aggressorSide := .buy
  aggressorConvention := "buyer_is_maker"
  eventTimestamp := sequence * 1000000
  adapterVersion := "adapter/v1"

theorem sampleContent_valid (sequence : Nat) : (sampleContent sequence).Valid where
  named := sampleName_length _
  price := show (0 : ℚ) < 100 by norm_num
  quantity := show (0 : ℚ) < 1 by norm_num
  quote := show (0 : ℚ) < 100 by norm_num
  convention := show 3 ≤ "buyer_is_maker".length ∧ "buyer_is_maker".length ≤ 120 by decide
  adapter := show 3 ≤ "adapter/v1".length ∧ "adapter/v1".length ≤ 80 by decide
  perpetual := rfl
  linear := show (100 : ℚ) * 1 * 1 = 100 by norm_num

def sampleTrade (sequence : Nat) (connection : ConnectionId) : TradeEvent where
  toTradeContent := sampleContent sequence
  receiveTimestamp := sequence * 1000000
  sourceConnectionId := connection
  contentHash := (sampleContent sequence).venueTradeId
  valid := sampleContent_valid sequence

/-- A new assembler. -/
def sampleStart : TradeStreamAssembler where
  identity := sampleIdentity
  expectedContiguousCount := none
  cursor :=
    { identity := sampleIdentity
      connectionIdentity := 0
      lastEventId := none
      lastSequence := none
      lastEventAt := none
      reconnectState := .initial
      gapState := .none
      warmUpStatus := .empty
      connectedAt := 0
      reconnectCount := 0
      gapStart := none
      gapEnd := none
      updatedAt := 0 }
  byId := .empty
  ordered := []
  coverage := none
  watermarkSequence := none

theorem sampleStart_new : TradeStreamAssembler.new sampleIdentity 0 0 none = .ok sampleStart := rfl

def sampleStream : List StreamCall :=
  [.ingest [sampleTrade 1 0, sampleTrade 2 0] 5000000 false,
    .ingest [sampleTrade 4 0] 5000000 false,
    .beginReconnect 1 6000000,
    .recoverFromBackfill [sampleTrade 2 1, sampleTrade 3 1, sampleTrade 4 1] 7000000 []]

theorem sampleStream_contiguous :
    ContiguousRun (run (TradeStreamAssembler.step sampleHashing) sampleStart sampleStream) :=
  (retained_trades_contiguous sampleHashing sampleStart_new sampleStream (by decide)
    sampleStream [] (List.append_nil _).symm).1

end AlphaTrade.Market
