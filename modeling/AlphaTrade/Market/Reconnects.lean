import Mathlib.Data.List.MinMax
import AlphaTrade.Market.RetainedTrades

/-!
# A reconnect hides no gap unless it starts twice

A backfill is held against the watermark, which is the greatest sequence that was ever
accepted, as long as no reconnect starts while another one holds a watermark: the second start
overwrites it with nothing.
-/
namespace AlphaTrade.Market
open Library Library.Attempt
open Execution (Instant)

/-! ## Watermarks -/

variable {trades : List TradeEvent}

theorem le_maxSequence {trade : TradeEvent} (listed : trade ∈ trades) :
    trade.sequence ≤ maxSequence trades :=
  List.le_max_of_le (List.mem_map_of_mem listed) le_rfl

theorem maxSequence_le {bound : Nat} (below : ∀ trade ∈ trades, trade.sequence ≤ bound) :
    maxSequence trades ≤ bound :=
  List.max_le_of_forall_le _ _ fun _ listed => by
    obtain ⟨trade, member, rfl⟩ := List.mem_map.mp listed
    exact below trade member

/-- A backfill that passes goes on behind the watermark, with every sequence up to its last. -/
theorem covers_of_assert {watermark : Nat} {combined : List TradeEvent}
    (passed : assertWatermarkCoverage (some watermark) combined = .ok ()) :
    watermark < maxSequence combined ∧
      ∀ n, watermark < n → n ≤ maxSequence combined → ∃ trade ∈ combined, trade.sequence = n := by
  unfold assertWatermarkCoverage at passed
  by_cases resumed : maxSequence combined < watermark + 1
  · simp [resumed] at passed
  refine ⟨by omega, fun n behind within => ?_⟩
  by_contra absent
  have missing : n ∈ (List.range' (watermark + 1) (maxSequence combined - watermark)).filter
      fun sequence => sequence ∉ combined.map (·.sequence) := by
    refine List.mem_filter.mpr ⟨List.mem_range'_1.mpr ⟨by omega, by omega⟩, ?_⟩
    simpa using absent
  simp only [resumed, if_false] at passed
  generalize (List.range' (watermark + 1) (maxSequence combined - watermark)).filter
    (fun sequence => sequence ∉ combined.map (·.sequence)) = absentees at passed missing
  cases absentees with
  | nil => simp at missing
  | cons first rest =>
    obtain ⟨last, ends⟩ : ∃ last, (first :: rest).getLast? = some last :=
      Option.isSome_iff_exists.mp (by simp)
    simp [ends] at passed

def TradeStreamAssembler.limit (assembler : TradeStreamAssembler) : Option Nat :=
  if assembler.cursor.reconnectState = .reconnecting then assembler.watermarkSequence
  else assembler.cursor.lastSequence

/-- The limit is the greatest sequence that was accepted. -/
structure Marks (accepted : Nat → Prop) (assembler : TradeStreamAssembler) : Prop where
  below : ∀ n, accepted n → ∃ m, assembler.limit = some m ∧ n ≤ m
  retained : ∀ trade ∈ assembler.ordered, ∃ m, assembler.limit = some m ∧ trade.sequence ≤ m
  reached : ∀ m, assembler.limit = some m →
    accepted m ∨ ∃ trade ∈ assembler.ordered, trade.sequence = m
  closed : assembler.cursor.reconnectState = .reconnecting → assembler.cursor.lastSequence = none
  recoverable : assembler.cursor.gapState ≠ .unrecoverable

/-- Marks of a stream that is not reconnecting. -/
structure Open (accepted : Nat → Prop) (assembler : TradeStreamAssembler) : Prop where
  marks : Marks accepted assembler
  live : assembler.cursor.reconnectState ≠ .reconnecting

section Marks

variable {hashing : Hashing} {accepted : Nat → Prop} {assembler after : TradeStreamAssembler}
  {observedAt : Instant}

/-- What the marks read of the assembler. -/
structure SameMarks (assembler after : TradeStreamAssembler) : Prop where
  ordered : after.ordered = assembler.ordered
  limit : after.limit = assembler.limit
  closed : after.cursor.reconnectState = .reconnecting → after.cursor.lastSequence = none
  recoverable : after.cursor.gapState ≠ .unrecoverable

theorem Marks.of_same (marks : Marks accepted assembler) (same : SameMarks assembler after) :
    Marks accepted after := by
  refine ⟨?_, ?_, ?_, same.closed, same.recoverable⟩
  · rw [same.limit]
    exact marks.below
  · rw [same.limit, same.ordered]
    exact marks.retained
  · rw [same.limit, same.ordered]
    exact marks.reached

/-- A live stream that moves to a next sequence. -/
theorem Open.append {trade : TradeEvent} (held : Open accepted assembler)
    (next : ∀ last ∈ assembler.cursor.lastSequence, trade.sequence = last + 1) :
    Open accepted (assembler.append trade observedAt) := by
  have live : (assembler.append trade observedAt).cursor.reconnectState ≠ .reconnecting := by
    have := held.live
    simp only [TradeStreamAssembler.append]
    split <;> simp_all
  have before : assembler.limit = assembler.cursor.lastSequence := if_neg held.live
  have limit : (assembler.append trade observedAt).limit = some trade.sequence := if_neg live
  have grows : ∀ n, (∃ m, assembler.limit = some m ∧ n ≤ m) → n ≤ trade.sequence := by
    rintro n ⟨m, found, le⟩
    have := next m (before ▸ found)
    omega
  refine ⟨⟨?_, ?_, ?_, fun state => absurd state live, by simp [TradeStreamAssembler.append]⟩, live⟩
  · exact fun n was => ⟨_, limit, grows n (held.marks.below n was)⟩
  · intro other listed
    refine ⟨_, limit, ?_⟩
    rcases List.mem_append.mp listed with old | new
    · exact grows _ (held.marks.retained other old)
    · rw [List.mem_singleton.mp new]
  · intro m found
    refine .inr ⟨trade, List.mem_append_right _ (List.mem_singleton_self _), ?_⟩
    exact Option.some.inj (limit.symm.trans found)

theorem Open.of_same (held : Open accepted assembler) (ordered : after.ordered = assembler.ordered)
    (last : after.cursor.lastSequence = assembler.cursor.lastSequence)
    (live : after.cursor.reconnectState ≠ .reconnecting)
    (recoverable : after.cursor.gapState ≠ .unrecoverable) : Open accepted after := by
  have limit : after.limit = assembler.limit := by
    unfold TradeStreamAssembler.limit
    rw [if_neg live, if_neg held.live, last]
  exact ⟨held.marks.of_same ⟨ordered, limit, fun state => absurd state live, recoverable⟩, live⟩

/-- Trades that are forgotten: the last one stays. -/
theorem Marks.forget (marks : Marks accepted assembler) (cutoff : Instant)
    (behind : ∀ trade ∈ assembler.ordered, accepted trade.sequence) :
    Marks accepted (assembler.forgetTradesBefore cutoff) := by
  unfold TradeStreamAssembler.forgetTradesBefore
  cases ends : assembler.ordered.getLast? with
  | none => exact marks
  | some last =>
    have kept : ∀ trade ∈ TradeStreamAssembler.keptTrades assembler.ordered last cutoff,
        trade ∈ assembler.ordered := by
      intro trade listed
      unfold TradeStreamAssembler.keptTrades at listed
      dsimp only at listed
      split at listed
      · rw [List.mem_singleton.mp listed]
        exact List.mem_of_getLast? ends
      · exact (List.mem_filter.mp listed).1
    dsimp only
    split
    · exact marks
    · refine ⟨marks.below, fun trade listed => marks.retained trade (kept trade listed),
        fun m found => .inl ?_, marks.closed, marks.recoverable⟩
      obtain was | ⟨trade, listed, rfl⟩ := marks.reached m found
      · exact was
      · exact behind trade listed

theorem Marks.note (marks : Marks accepted assembler) (gap : Option (Nat × Nat))
    (state : assembler.cursor.reconnectState = .reconnecting) :
    Marks accepted (assembler.noteIncompleteBackfill observedAt gap) := by
  refine marks.of_same ⟨rfl, ?_, fun _ => marks.closed state, ?_⟩
  · simp [TradeStreamAssembler.limit, TradeStreamAssembler.noteIncompleteBackfill, state]
  · simp only [TradeStreamAssembler.noteIncompleteBackfill]
    split <;> simp

theorem Marks.release (marks : Marks accepted assembler) :
    Marks accepted assembler.releaseUnrecoverableForRetry := by
  unfold TradeStreamAssembler.releaseUnrecoverableForRetry
  rw [if_pos marks.recoverable]
  exact marks

/-- A reconnect that finds a stream live, or without a watermark. -/
theorem Marks.reconnect {connection : ConnectionId} (marks : Marks accepted assembler)
    (heeds : assembler.cursor.reconnectState = .reconnecting →
      assembler.watermarkSequence = none) :
    Marks accepted (assembler.beginReconnect connection observedAt) := by
  refine marks.of_same ⟨rfl, ?_, fun _ => rfl, by simp [TradeStreamAssembler.beginReconnect]⟩
  have limit : (assembler.beginReconnect connection observedAt).limit =
      assembler.cursor.lastSequence := if_pos rfl
  rw [limit]
  by_cases state : assembler.cursor.reconnectState = .reconnecting
  · rw [marks.closed state, TradeStreamAssembler.limit, if_pos state, heeds state]
  · rw [TradeStreamAssembler.limit, if_neg state]

/-! ## Methods -/

theorem acceptTrade_open (trade : TradeEvent) :
    Triple (Open accepted) (acceptTrade observedAt trade) (fun _ => Open accepted)
      (Open accepted) := by
  unfold acceptTrade
  refine .reads fun assembler held => ?_
  have kept : ∀ t, t = assembler → Open accepted t := fun t same => same ▸ held
  cases found : assembler.byId.find trade.venueTradeId with
  | some existing => exact .requires_last kept fun t same _ => kept t same
  | none =>
    refine .requires kept fun behind => .requires kept fun apart => ?_
    cases gap : detectSequenceGap assembler.cursor.lastSequence trade.sequence with
    | some bounds =>
      refine .edits (fun t same => ?_) (.raises fun _ => id)
      exact (kept t same).of_same rfl rfl (kept t same).live (by simp)
    | none =>
      refine .updates fun t same => ?_
      subst same
      exact held.append (sequence_lt_next behind apart gap)

theorem acceptLive_open (trades : List TradeEvent) :
    Triple (Open accepted) (acceptLive trades observedAt) (fun _ => Open accepted)
      (Open accepted) := by
  unfold acceptLive
  refine .reads fun assembler held => ?_
  have kept : ∀ t, t = assembler → Open accepted t := fun t same => same ▸ held
  have loop : Triple (Open accepted) (trades.forM (acceptTrade observedAt))
      (fun _ => Open accepted) (Open accepted) := .loops fun trade _ => acceptTrade_open trade
  exact .checks kept fun _ _ => loop.weaken kept

theorem Open.withCoverage (assembler : TradeStreamAssembler) (proof : TradeWindowCoverageProof)
    (held : Open accepted assembler) :
    Open accepted { assembler with coverage := some proof } :=
  held.of_same rfl rfl held.live held.marks.recoverable

theorem Open.warm (assembler : TradeStreamAssembler) (held : Open accepted assembler) :
    Open accepted (assembler.refreshWarmUp observedAt) :=
  held.of_same rfl rfl held.live held.marks.recoverable

theorem ingest_marks (trades : List TradeEvent) (allowEmpty : Bool) :
    Triple (Marks accepted) (ingest hashing trades observedAt allowEmpty)
      (fun _ => Marks accepted) (Marks accepted) := by
  unfold ingest
  refine .reads fun assembler marks => ?_
  have kept : ∀ t, t = assembler → Marks accepted t := fun t same => same ▸ marks
  refine .requires kept fun _ => .requires kept fun state => .requires kept fun _ => ?_
  have begins : ∀ t, t = assembler → Open accepted t := by
    rintro _ rfl
    exact ⟨marks, state⟩
  refine Triple.weaken (Triple.strengthen ((acceptLive_open (orderTrades trades)).bind fun _ =>
    .edits Open.warm <| (refreshPartialCoverage_keeps Open.withCoverage).bind fun _ =>
      snapshot_shows Open.withCoverage) ?_ ?_) begins
  · exact fun _ _ done => done.1.marks
  · exact fun _ held => held.marks

def Resumed (assembler : TradeStreamAssembler) : Prop :=
  ∀ watermark, assembler.watermarkSequence = some watermark →
    ∀ n, watermark < n → ∀ last, assembler.cursor.lastSequence = some last → n ≤ last →
      ∃ trade ∈ assembler.ordered, trade.sequence = n

/-- A stream behind a backfill. -/
structure Rejoined (accepted : Nat → Prop) (watermark : Option Nat)
    (assembler : TradeStreamAssembler) : Prop where
  held : Open accepted assembler
  resumed : Resumed assembler
  watermark : assembler.watermarkSequence = watermark

variable {watermark : Option Nat}

theorem Rejoined.of_same (rejoined : Rejoined accepted watermark assembler)
    (ordered : after.ordered = assembler.ordered)
    (last : after.cursor.lastSequence = assembler.cursor.lastSequence)
    (same : after.watermarkSequence = assembler.watermarkSequence)
    (live : after.cursor.reconnectState ≠ .reconnecting)
    (recoverable : after.cursor.gapState ≠ .unrecoverable) : Rejoined accepted watermark after := by
  refine ⟨rejoined.held.of_same ordered last live recoverable, ?_, same.trans rejoined.watermark⟩
  have resumed := rejoined.resumed
  unfold Resumed at resumed ⊢
  rw [ordered, last, same]
  exact resumed

theorem Rejoined.withCoverage (assembler : TradeStreamAssembler) (proof : TradeWindowCoverageProof)
    (rejoined : Rejoined accepted watermark assembler) :
    Rejoined accepted watermark { assembler with coverage := some proof } :=
  rejoined.of_same rfl rfl rfl rejoined.held.live rejoined.held.marks.recoverable

theorem Rejoined.warm (assembler : TradeStreamAssembler)
    (rejoined : Rejoined accepted watermark assembler) :
    Rejoined accepted watermark (assembler.refreshWarmUp observedAt) :=
  rejoined.of_same rfl rfl rfl rejoined.held.live rejoined.held.marks.recoverable

theorem Rejoined.continued (assembler : TradeStreamAssembler)
    (rejoined : Rejoined accepted watermark assembler) :
    Rejoined accepted watermark (assembler.continued observedAt) := by
  unfold TradeStreamAssembler.continued
  split
  · exact rejoined.of_same rfl rfl rfl (by simp) rejoined.held.marks.recoverable
  · exact rejoined

/-- A backfill that passed takes a marked stream on. -/
theorem Marks.rejoined {given combined : List TradeEvent} (marks : Marks accepted assembler)
    (state : assembler.cursor.reconnectState = .reconnecting)
    (backfilled : Backfilled given combined) (some' : combined ≠ [])
    (passed : assertBackfill assembler.watermarkSequence combined = .ok ()) :
    Rejoined accepted assembler.watermarkSequence
      (assembler.recovered hashing combined observedAt) := by
  obtain ⟨last, ends⟩ : ∃ last, combined.getLast? = some last :=
    Option.isSome_iff_exists.mp (by simpa using some')
  have atLast : (assembler.recovered hashing combined observedAt).cursor.lastSequence =
      some last.sequence := by
    simp [TradeStreamAssembler.recovered, ends]
  have limit : (assembler.recovered hashing combined observedAt).limit = some last.sequence := by
    rw [← atLast]
    exact if_neg (by simp [TradeStreamAssembler.recovered])
  have greatest : ∀ trade ∈ combined, trade.sequence ≤ last.sequence := fun trade listed => by
    have := backfilled.rising.le_last ends trade listed
    omega
  have top : maxSequence combined = last.sequence :=
    le_antisymm (maxSequence_le greatest) (le_maxSequence (List.mem_of_getLast? ends))
  have limit' : assembler.limit = assembler.watermarkSequence := if_pos state
  obtain ⟨_, -, covered⟩ := bind_eq_ok.mp passed
  refine ⟨⟨⟨?_, ?_, ?_, by simp [TradeStreamAssembler.recovered],
    by simp [TradeStreamAssembler.recovered]⟩, by simp [TradeStreamAssembler.recovered]⟩, ?_, rfl⟩
  · intro n was
    obtain ⟨m, found, le⟩ := marks.below n was
    rw [limit'.symm.trans found] at covered
    have := (covers_of_assert covered).1
    exact ⟨_, limit, by omega⟩
  · intro trade listed
    obtain ⟨original, kept, rfl⟩ := List.mem_map.mp listed
    exact ⟨_, limit, by simpa using greatest original kept⟩
  · intro m found
    obtain rfl := Option.some.inj (limit.symm.trans found)
    exact .inr ⟨_, List.mem_map_of_mem (List.mem_of_getLast? ends), by simp⟩
  · intro watermark found n behind bound at' within
    obtain rfl := Option.some.inj (atLast.symm.trans at')
    change assembler.watermarkSequence = some watermark at found
    rw [found] at covered
    obtain ⟨trade, listed, rfl⟩ := (covers_of_assert covered).2 n behind (top ▸ within)
    exact ⟨_, List.mem_map_of_mem listed, by simp⟩

theorem refuseBackfill_marks (gap : Option (Nat × Nat)) (message : String)
    (marks : Marks accepted assembler)
    (state : assembler.cursor.reconnectState = .reconnecting)
    {post : TradeStreamSnapshot → TradeStreamAssembler → Prop} :
    Triple (fun t => t = assembler) (refuseBackfill observedAt gap message) post
      (Marks accepted) := by
  unfold refuseBackfill
  refine .edits (fun t same => ?_) (.raises fun _ => id)
  subst same
  exact marks.note gap state

theorem recoverFromBackfill_marks (backfill liveResume : List TradeEvent)
    (marks : Marks accepted assembler) :
    Triple (fun t => t = assembler)
      (recoverFromBackfill hashing backfill observedAt liveResume)
      (fun snapshot after => assembler.cursor.reconnectState = .reconnecting ∧
        Serves hashing (Rejoined accepted assembler.watermarkSequence) snapshot after)
      (Marks accepted) := by
  unfold recoverFromBackfill
  refine .reads fun current same => ?_
  subst same
  have kept : ∀ t, t = current → Marks accepted t := fun t same => same ▸ marks
  refine .requires kept fun state => ?_
  split
  · exact refuseBackfill_marks _ _ marks state
  · exact .raises kept
  · exact refuseBackfill_marks _ _ marks state
  · rename_i combined some' deduped
    split
    · exact refuseBackfill_marks _ _ marks state
    · exact refuseBackfill_marks _ _ marks state
    · exact .raises kept
    · rename_i passed
      have begins : ∀ t, t = current → Rejoined accepted current.watermarkSequence
          (t.recovered hashing combined observedAt) := by
        rintro _ rfl
        exact marks.rejoined state (backfilled deduped passed) some' passed
      refine Triple.strengthen (.edits begins <| .edits Rejoined.warm <|
        .edits Rejoined.continued <| (refreshPartialCoverage_keeps Rejoined.withCoverage).bind
          fun _ => snapshot_shows Rejoined.withCoverage)
        (fun _ _ done => ⟨state, done⟩) fun _ rejoined => rejoined.held.marks

end Marks

/-! ## Runs -/

section Runs

variable (hashing : Hashing) {accepted : Nat → Prop} {assembler start : TradeStreamAssembler}

def StreamCall.Streamed : StreamCall → Prop
  | .ingestBatch .. | .dropRetainedTrades => False
  | .ingest .. | .beginReconnect .. | .recoverFromBackfill .. | .releaseUnrecoverableForRetry
  | .forgetTradesBefore _ => True

instance (call : StreamCall) : Decidable call.Streamed := by
  cases call <;> unfold StreamCall.Streamed <;> infer_instance

def StreamCall.Heeds (assembler : TradeStreamAssembler) : StreamCall → Prop
  | .beginReconnect .. => assembler.cursor.reconnectState = .reconnecting →
      assembler.watermarkSequence = none
  | _ => True

instance (assembler : TradeStreamAssembler) (call : StreamCall) :
    Decidable (call.Heeds assembler) := by
  cases call <;> unfold StreamCall.Heeds <;> infer_instance

def Accepted (start : TradeStreamAssembler) (calls : List StreamCall) (n : Nat) : Prop :=
  ∃ before later, calls = before ++ later ∧
    ∃ trade ∈ (run (TradeStreamAssembler.step hashing) start before).ordered, trade.sequence = n

variable {hashing}

variable {calls : List StreamCall} {call : StreamCall}

theorem accepted_concat {n : Nat} :
    Accepted hashing start (calls ++ [call]) n ↔ Accepted hashing start calls n ∨
      ∃ trade ∈ ((run (TradeStreamAssembler.step hashing) start calls).step hashing call).ordered,
        trade.sequence = n := by
  constructor
  · rintro ⟨before, later, split, trade, listed, rfl⟩
    rcases List.eq_nil_or_concat later with rfl | ⟨rest, last, rfl⟩
    · rw [List.append_nil] at split
      rw [← split, run_append] at listed
      exact .inr ⟨trade, listed, rfl⟩
    · rw [List.concat_eq_append, ← List.append_assoc] at split
      obtain ⟨earlier, -⟩ := List.append_inj' split rfl
      exact .inl ⟨before, rest, earlier, trade, listed, rfl⟩
  · rintro (⟨before, later, rfl, trade, listed, rfl⟩ | ⟨trade, listed, rfl⟩)
    · exact ⟨before, later ++ [call], by simp, trade, listed, rfl⟩
    · exact ⟨calls ++ [call], [], by simp, trade, by rwa [run_append], rfl⟩

/-- One call keeps the marks. -/
theorem Marks.step (marks : Marks accepted assembler)
    (behind : ∀ trade ∈ assembler.ordered, accepted trade.sequence) (streamed : call.Streamed)
    (heeds : call.Heeds assembler) : Marks accepted (assembler.step hashing call) := by
  suffices triple : Triple (fun t => t = assembler) (call.method hashing)
      (fun _ => Marks accepted) (Marks accepted) from
    assembler.step_of_triple hashing triple rfl
  cases call with
  | ingest trades observedAt allowEmpty =>
    refine .maps ((ingest_marks trades allowEmpty).weaken ?_)
    rintro _ rfl
    exact marks
  | recoverFromBackfill backfill observedAt liveResume =>
    exact .maps ((recoverFromBackfill_marks backfill liveResume marks).strengthen
      (fun _ _ done => done.2.1.held.marks) fun _ => id)
  | beginReconnect connection observedAt =>
    refine .edits (fun t same => ?_) (.returns fun _ => id)
    subst same
    exact marks.reconnect heeds
  | releaseUnrecoverableForRetry =>
    refine .edits (fun t same => ?_) (.returns fun _ => id)
    subst same
    exact marks.release
  | forgetTradesBefore cutoff =>
    refine .edits (fun t same => ?_) (.returns fun _ => id)
    subst same
    exact marks.forget cutoff behind
  | ingestBatch => exact streamed.elim
  | dropRetainedTrades => exact streamed.elim

/-- Marks with the trades that are retained now. -/
theorem Marks.accept {accepted' : Nat → Prop} (marks : Marks accepted assembler)
    (grows : ∀ n, accepted' n ↔ accepted n ∨ ∃ trade ∈ assembler.ordered, trade.sequence = n) :
    Marks accepted' assembler := by
  refine ⟨fun n was => ?_, marks.retained, fun m found => .inl ((grows m).mpr ?_), marks.closed,
    marks.recoverable⟩
  · obtain old | ⟨trade, listed, rfl⟩ := (grows n).mp was
    · exact marks.below n old
    · exact marks.retained trade listed
  · exact marks.reached m found

theorem marks_new {identity : EvidenceMarketIdentity} {connectedAt : Instant}
    {connection : ConnectionId} {count : Option Int}
    (created : TradeStreamAssembler.new identity connectedAt connection count = .ok start) :
    Marks (Accepted hashing start []) start := by
  obtain ⟨cursor, begun, created⟩ := bind_eq_ok.mp created
  obtain rfl := Except.ok.inj created
  obtain ⟨⟨⟩, -, begun⟩ := bind_eq_ok.mp begun
  obtain rfl := Except.ok.inj begun
  refine ⟨?_, by simp, by simp [TradeStreamAssembler.limit], by simp, by simp⟩
  rintro n ⟨before, later, split, trade, listed, -⟩
  obtain ⟨rfl, rfl⟩ := List.append_eq_nil_iff.mp split.symm
  simp at listed

/-- What a run of streamed calls must heed. -/
abbrev Heeded (hashing : Hashing) (start : TradeStreamAssembler) (calls : List StreamCall) : Prop :=
  Along (TradeStreamAssembler.step hashing)
    (fun assembler call => call.Streamed ∧ call.Heeds assembler) start calls

theorem marks_run (marks : Marks (Accepted hashing start []) start)
    (heeded : Heeded hashing start calls) :
    Marks (Accepted hashing start calls) (run (TradeStreamAssembler.step hashing) start calls) := by
  induction calls using List.reverseRecOn with
  | nil => exact marks
  | append_singleton calls call ih =>
    obtain ⟨earlier, ⟨streamed, heeds⟩, -⟩ := (along_append _).mp heeded
    have behind : ∀ trade ∈ (run (TradeStreamAssembler.step hashing) start calls).ordered,
        Accepted hashing start calls trade.sequence := fun trade listed =>
      ⟨calls, [], (List.append_nil _).symm, trade, listed, rfl⟩
    rw [run_append]
    exact ((ih earlier).step behind streamed heeds).accept fun n => accepted_concat

/-- Where no reconnect starts while another one holds a watermark, a recovery shows every
sequence behind the greatest that was accepted before, up to its cursor. -/
theorem reconnect_hides_no_gap {identity : EvidenceMarketIdentity} {connectedAt : Instant}
    {connection : ConnectionId} {count : Option Int}
    (created : TradeStreamAssembler.new identity connectedAt connection count = .ok start)
    {calls : List StreamCall} (heeded : Heeded hashing start calls) {backfill : List TradeEvent}
    {observedAt : Instant} {liveResume : List TradeEvent} {snapshot : TradeStreamSnapshot}
    {after : TradeStreamAssembler}
    (recovers : recoverFromBackfill hashing backfill observedAt liveResume
      (run (TradeStreamAssembler.step hashing) start calls) = .ok snapshot after)
    {greatest last : Nat} (accepted : IsGreatest {n | Accepted hashing start calls n} greatest)
    (ends : snapshot.cursor.lastSequence = some last) :
    ∀ n, greatest < n → n ≤ last → ∃ trade ∈ snapshot.trades, trade.sequence = n := by
  have marks := marks_run (marks_new created) heeded
  obtain ⟨state, rejoined, shows⟩ :=
    (recoverFromBackfill_marks backfill liveResume marks).of_ok rfl recovers
  have limit : (run (TradeStreamAssembler.step hashing) start calls).limit = _ := if_pos state
  obtain ⟨m, found, le⟩ := marks.below greatest accepted.1
  have reached : Accepted hashing start calls m := by
    obtain was | ⟨trade, listed, rfl⟩ := marks.reached m found
    · exact was
    · exact ⟨calls, [], (List.append_nil _).symm, trade, listed, rfl⟩
  obtain rfl : greatest = m := le_antisymm le (accepted.2 reached)
  have watermark : after.watermarkSequence = some greatest :=
    rejoined.watermark.trans (limit.symm.trans found)
  intro n behind within
  rw [shows.trades]
  rw [shows.cursor] at ends
  exact rejoined.resumed greatest watermark n behind last ends within

end Runs

/-! ## Two starts in a row -/

/-- The gap state, the last sequence and the sequences of a snapshot that is returned. -/
def shown : EStateM.Result MarketError TradeStreamAssembler TradeStreamSnapshot →
    Option (GapState × Option Nat × List Nat)
  | .ok snapshot _ => some (snapshot.cursor.gapState, snapshot.cursor.lastSequence,
      snapshot.trades.map (·.sequence))
  | .error _ _ => none

def lostConnection : List StreamCall :=
  [.ingest [sampleTrade 1 0, sampleTrade 2 0] 5000000 false, .beginReconnect 1 6000000]

/-- Where the reconnect starts again, a backfill that begins at the fifth trade is taken for a
recovery without a gap: the third and the fourth trade are lost. -/
theorem second_reconnect_hides_gap :
    let calls := lostConnection ++ [.beginReconnect 2 7000000]
    TradeStreamAssembler.new sampleIdentity 0 0 none = .ok sampleStart ∧
      Accepted sampleHashing sampleStart calls 2 ∧
      shown (recoverFromBackfill sampleHashing [sampleTrade 5 2] 8000000 []
        (run (TradeStreamAssembler.step sampleHashing) sampleStart calls)) =
          some (.none, some 5, [5]) := by
  refine ⟨sampleStart_new, ⟨_, [], (List.append_nil _).symm, ?_⟩, ?_⟩
  · decide +kernel
  · decide +kernel

/-- Where it starts once, the backfill must hold them. -/
theorem single_reconnect_resumes :
    ∃ snapshot after, recoverFromBackfill sampleHashing
        [sampleTrade 3 1, sampleTrade 4 1, sampleTrade 5 1] 8000000 []
        (run (TradeStreamAssembler.step sampleHashing) sampleStart lostConnection) =
          .ok snapshot after ∧
      ∃ trade ∈ snapshot.trades, trade.sequence = 4 := by
  have returned : shown (recoverFromBackfill sampleHashing
      [sampleTrade 3 1, sampleTrade 4 1, sampleTrade 5 1] 8000000 []
      (run (TradeStreamAssembler.step sampleHashing) sampleStart lostConnection)) =
        some (.none, some 5, [3, 4, 5]) := by decide +kernel
  have heeded : Heeded sampleHashing sampleStart lostConnection := by decide +kernel
  have limit : (run (TradeStreamAssembler.step sampleHashing) sampleStart lostConnection).limit =
      some 2 := by decide +kernel
  have greatest : IsGreatest {n | Accepted sampleHashing sampleStart lostConnection n} 2 := by
    refine ⟨⟨_, [], (List.append_nil _).symm, by decide +kernel⟩, fun n was => ?_⟩
    obtain ⟨m, found, le⟩ := (marks_run (marks_new sampleStart_new) heeded).below n was
    rwa [← Option.some.inj (limit.symm.trans found)] at le
  cases result : recoverFromBackfill sampleHashing
      [sampleTrade 3 1, sampleTrade 4 1, sampleTrade 5 1] 8000000 []
      (run (TradeStreamAssembler.step sampleHashing) sampleStart lostConnection) with
  | error raised after => simp [result, shown] at returned
  | ok snapshot after =>
    rw [result] at returned
    simp only [shown, Option.some.injEq, Prod.mk.injEq] at returned
    exact ⟨snapshot, after, rfl, reconnect_hides_no_gap sampleStart_new heeded result greatest
      returned.2.1 4 (by omega) (by omega)⟩

end AlphaTrade.Market
