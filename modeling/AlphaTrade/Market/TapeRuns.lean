import AlphaTrade.Market.ProvenTails

/-!
# Runs of a source against a growing tape

Whatever is fetched and released in between, every lineage of the source stands on a proven tail
and the numbers of the source are places in the order of its sightings.
-/
namespace AlphaTrade.Market
open Library
open Execution (Instant)

variable {runtime : PyRuntime} {tape : PrintTape runtime} {m n : Nat} {history page : List Print}
  {source : BybitSource} {proof proof' : LineageProof} {receiveAt : Instant}
  {connection : ConnectionId} {startMs endMs : Int}

/-! ## The ledger of a source -/

theorem mem_of_lookup {α β : Type*} [BEq α] [LawfulBEq α] {entries : List (α × β)} {a : α} {b : β}
    (known : entries.lookup a = some b) : (a, b) ∈ entries := by
  obtain ⟨before, after, rfl, -⟩ := List.lookup_eq_some_iff.mp known
  simp

def OnTail (tape : PrintTape runtime) (moment : Nat) (history : List Print) (ranks : Ranks String)
    (proof : LineageProof) : Prop :=
  proof.proven ≠ [] → ∃ fromMs oldestMs anchor place,
    Tail tape moment 1 history ranks proof fromMs oldestMs anchor place

structure Ledger (tape : PrintTape runtime) (moment : Nat) (history : List Print)
    (source : BybitSource) : Prop where
  sighted : Sighted Print.execId 1 history source.ranks
  seen : ∀ p ∈ history, p ∈ tape.held moment
  stands : ∀ lineage ∈ source.lineages, OnTail tape moment history source.ranks lineage.2

theorem ledger_new : Ledger tape 0 [] .new where
  sighted := ⟨by simp [BybitSource.new], rfl⟩
  seen := by simp
  stands := by simp [BybitSource.new]

namespace Ledger

theorem later (ledger : Ledger tape m history source) (le : m ≤ n) :
    Ledger tape n history source where
  sighted := ledger.sighted
  seen p listed := mem_take_mono le (ledger.seen p listed)
  stands lineage listed some := by
    obtain ⟨fromMs, oldestMs, anchor, place, tail⟩ := ledger.stands lineage listed some
    exact ⟨fromMs, oldestMs, anchor, place, tail.later ledger.seen le⟩

/-- Lineages may go, and new ones have nothing proven. -/
theorem lineages (ledger : Ledger tape n history source)
    {lineages : List (ConnectionId × LineageProof)}
    (stands : ∀ lineage ∈ lineages, OnTail tape n history source.ranks lineage.2) :
    Ledger tape n history { source with lineages := lineages } :=
  { ledger with stands := stands }

theorem prune (ledger : Ledger tape n history source) :
    Ledger tape n history source.pruneRanks where
  sighted := ledger.sighted.retain _
  seen := ledger.seen
  stands lineage listed some := by
    obtain ⟨fromMs, oldestMs, anchor, place, tail⟩ := ledger.stands lineage listed some
    refine ⟨fromMs, oldestMs, anchor, place, tail.retain fun p proven => ?_⟩
    simp only [Bool.or_eq_true, List.any_eq_true, decide_eq_true_eq]
    exact .inr ⟨lineage, listed, p, proven, rfl⟩

variable (connection) in
/-- A lineage that is prepared comes as it was left, or new. -/
theorem prepare (ledger : Ledger tape n history source) :
    OnTail tape n history source.ranks (source.prepareConnection connection).1 ∧
      Ledger tape n history (source.prepareConnection connection).2 := by
  have own : OnTail tape n history source.ranks (source.prepareConnection connection).1 := by
    unfold BybitSource.prepareConnection
    cases known : source.lineages.lookup connection with
    | none => exact fun some => absurd rfl some
    | some proof => exact ledger.stands (connection, proof) (mem_of_lookup known)
  refine ⟨own, ledger.lineages fun lineage listed => ?_⟩
  have listed := (newest_sublist ..).subset listed
  rcases List.mem_append.mp listed with old | new
  · exact ledger.stands lineage (List.mem_filter.mp old).1
  · rw [List.mem_singleton.mp new]
    exact own

theorem setProof (ledger : Ledger tape n history source)
    (stands : OnTail tape n history source.ranks proof) :
    Ledger tape n history (source.setProof connection proof) := by
  refine ledger.lineages fun lineage listed => ?_
  obtain ⟨old, known, rfl⟩ := List.mem_map.mp listed
  split
  · exact stands
  · exact ledger.stands old known

/-- Released history leaves tails behind. -/
theorem release (ledger : Ledger tape n history source) :
    Ledger tape n history source.releaseSymbolHistory := by
  refine Ledger.prune (ledger.lineages fun lineage listed => ?_)
  obtain ⟨old, known, rfl⟩ := List.mem_map.mp listed
  intro some
  have before : old.2.proven ≠ [] := by
    intro empty
    simp [LineageProof.trimProvenPrefix, empty] at some
  obtain ⟨fromMs, oldestMs, anchor, place, tail⟩ := ledger.stands old known before
  obtain ⟨laterMs, -, trimmed, -⟩ := tail.trim recentTradeLimit_pos
  exact ⟨laterMs, oldestMs, anchor, place, trimmed⟩

end Ledger

/-! ## One page -/

namespace BybitSource

theorem foldl_rankPrint (prints : List Print) (source : BybitSource) :
    prints.foldl rankPrint source = { source with
      ranks := source.ranks.sightAll (prints.map Print.execId)
      signatureByExec := (prints.foldl rankPrint source).signatureByExec } := by
  induction prints generalizing source with
  | nil => rfl
  | cons item prints ih =>
    rw [List.foldl_cons, ih]
    by_cases known : (source.ranks.rank item.execId).isSome
    · simp [rankPrint, known, Ranks.sightAll, Ranks.sight]
    · simp [rankPrint, known, Ranks.sightAll]

theorem assignRanks_ok {after : BybitSource}
    (assigned : source.assignRanks runtime page = .ok after) :
    after.ranks = source.ranks.sightAll (page.map Print.execId) ∧
      after.lineages = source.lineages ∧ after.recentPrintCache = source.recentPrintCache := by
  obtain ⟨_, -, assigned⟩ := bind_eq_ok.mp assigned
  obtain rfl := Except.ok.inj assigned
  rw [foldl_rankPrint]
  exact ⟨rfl, rfl, rfl⟩

end BybitSource

/-- The sightings of a page go to the ledger. -/
theorem Ledger.sight {after : BybitSource} (ledger : Ledger tape n history source)
    (assigned : source.assignRanks runtime (tape.page n receiveAt) = .ok after) :
    Ledger tape n (history ++ freshOf source.ranks (tape.page n receiveAt)) after := by
  obtain ⟨ranks, lineages, -⟩ := BybitSource.assignRanks_ok assigned
  refine ⟨?_, fun p listed => ?_, fun lineage listed some => ?_⟩
  · rw [ranks]
    exact ledger.sighted.sightAll page_unique
  · rcases List.mem_append.mp listed with old | new
    · exact ledger.seen p old
    · exact mem_held_of_mem_page (List.mem_filter.mp new).1
  · rw [lineages] at listed
    obtain ⟨fromMs, oldestMs, anchor, place, tail⟩ := ledger.stands lineage listed some
    rw [ranks]
    exact ⟨fromMs, oldestMs, anchor, place, tail.sight ledger.sighted ledger.seen⟩

def Settled (page : List Print) (proof : LineageProof) (p : Print) : Prop :=
  p ∈ proof.proven ∨ p ∈ page ∧ ∀ last ∈ proof.proven.getLast?, pageStamp last < pageStamp p

/-- A proof after a page. -/
structure Advanced (tape : PrintTape runtime) (n : Nat) (receiveAt : Instant) (startMs : Int)
    (history : List Print) (ranks : Ranks String) (proof proof' : LineageProof)
    (fromMs oldestMs : Int) (anchor : Print) (place : Nat) : Prop where
  tail : Tail tape n 1 history ranks proof' fromMs oldestMs anchor place
  last : (tape.page n receiveAt).getLast? = some anchor
  oldest : if proof.proven = [] then
      (tape.page n receiveAt).head?.map Print.timeMs = some oldestMs
    else proof.initialOldestMs = some oldestMs
  gains : ∀ p, Settled (tape.page n receiveAt) proof p → startMs ≤ p.timeMs →
    fromMs ≤ p.timeMs → p ∈ proof'.proven
  gained : ∀ p ∈ proof'.proven, Settled (tape.page n receiveAt) proof p

theorem advanced_of_advanceProof (ledger : Ledger tape n history source)
    (stands : OnTail tape n history source.ranks proof)
    (counted : ∀ p ∈ tape.page n receiveAt, p ∈ history)
    (advances : source.advanceProof (tape.page n receiveAt) startMs proof = .ok proof') :
    ∃ fromMs oldestMs anchor place, Advanced tape n receiveAt startMs history source.ranks proof
      proof' fromMs oldestMs anchor place := by
  unfold BybitSource.advanceProof at advances
  split at advances
  · rename_i empty
    obtain ⟨fromMs, oldest, anchor, place, starts, ends, -, tail, gains, gained⟩ :=
      tail_of_proveInitialTail ledger.sighted ledger.seen advances
    refine ⟨fromMs, oldest.timeMs, anchor, place, tail, ends, by simp [empty, starts],
      fun p settled late bounded => ?_, fun p listed => .inr ⟨(gained p listed).1, by simp [empty]⟩⟩
    rcases settled with proven | ⟨onPage, -⟩
    · simp [empty] at proven
    · exact gains p onPage late bounded
  · rename_i some
    obtain ⟨fromMs, oldestMs, anchor, place, tail⟩ := stands some
    obtain ⟨laterMs, next, place', ends, -, tail', gains, gained⟩ :=
      tail_of_extendProvenTail tail ledger.sighted ledger.seen counted advances
    have settled : ∀ p, Settled (tape.page n receiveAt) proof p ↔
        p ∈ proof.proven ∨ p ∈ tape.page n receiveAt ∧ pageStamp anchor < pageStamp p := by
      simp [Settled, tail.last]
    exact ⟨laterMs, oldestMs, next, place', tail', ends, by simp [some, tail.oldest],
      fun p is _ bounded => gains p ((settled p).mp is) bounded,
      fun p listed => (settled p).mpr (gained p listed)⟩

/-! ## One request -/

theorem lookup_map_of_mem {entries : List (ConnectionId × LineageProof)}
    (listed : (connection, proof) ∈ entries) :
    (entries.map fun lineage => if lineage.1 = connection then (connection, proof') else
      lineage).lookup connection = some proof' := by
  induction entries with
  | nil => cases listed
  | cons lineage entries ih =>
    obtain ⟨key, value⟩ := lineage
    by_cases same : key = connection
    · simp [same]
    · have later : (connection, proof) ∈ entries := by
        rcases List.mem_cons.mp listed with is | later
        · exact absurd (Prod.ext_iff.mp is).1.symm same
        · exact later
      have other : (connection == key) = false := by simpa using Ne.symm same
      simpa [same, List.lookup, other] using ih later

variable (source connection) in
theorem mem_prepareConnection :
    (connection, (source.prepareConnection connection).1) ∈
      (source.prepareConnection connection).2.lineages := by
  simp only [BybitSource.prepareConnection, newest]
  rw [List.drop_append_of_le_length (by simp [maxLineageProofs])]
  simp

/-- What serves a window: the advanced proof, and its prints in the window with their numbers. -/
structure ServesWindow (tape : PrintTape runtime) (n : Nat) (receiveAt : Instant)
    (startMs endMs : Int)
    (proof proof' : LineageProof) (rows : List (Print × Nat)) : Prop where
  advanced : ∃ history ranks fromMs oldestMs anchor place,
    Advanced tape n receiveAt startMs history ranks proof proof' fromMs oldestMs anchor place ∧
      fromMs ≤ startMs ∧ ∀ row ∈ rows, ranks.rank row.1.execId = some row.2
  window : rows.map Prod.fst =
    proof'.proven.filter fun p => startMs ≤ p.timeMs ∧ p.timeMs < endMs

theorem numbered_ok {p : Print} {row : Print × Nat} (numbers : source.numbered p = .ok row) :
    row.1 = p ∧ source.ranks.rank row.1.execId = some row.2 := by
  unfold BybitSource.numbered at numbers
  split at numbers
  · rename_i rank known
    obtain rfl := Except.ok.inj numbers
    exact ⟨rfl, known⟩
  · cases numbers

theorem provenWindow_ok {rows : List (Print × Nat)}
    (served : source.provenWindow proof startMs endMs = .ok rows) :
    (∃ fromMs ∈ proof.provenFromMs, fromMs ≤ startMs) ∧
      rows.map Prod.fst =
        proof.proven.filter (fun p => startMs ≤ p.timeMs ∧ p.timeMs < endMs) ∧
      ∀ row ∈ rows, source.ranks.rank row.1.execId = some row.2 := by
  obtain ⟨_, bounded, served⟩ := bind_eq_ok.mp served
  exact ⟨ensure_eq_ok.mp bounded, map_eq_of_mapM (fun _ _ is => (numbered_ok is).1) served,
    mapM_forall (fun _ _ is => (numbered_ok is).2) served⟩

variable (runtime source connection startMs endMs page) in
/-- How a page is served. -/
theorem recentTradesCovering_cases :
    (∃ refused, source.recentTradesCovering runtime startMs endMs connection page =
      (.error refused, (source.prepareConnection connection).2.pruneRanks)) ∨
    ∃ counted, (source.prepareConnection connection).2.assignRanks runtime page = .ok counted ∧
      ((∃ refused, source.recentTradesCovering runtime startMs endMs connection page =
        (.error refused,
          { counted with recentExecIds := page.map Print.execId }.pruneRanks)) ∨
      ∃ proof', counted.advanceProof page startMs (source.prepareConnection connection).1 =
          .ok proof' ∧
        source.recentTradesCovering runtime startMs endMs connection page =
          (counted.provenWindow proof' startMs endMs,
            ({ counted with recentExecIds := page.map Print.execId }.setProof connection
              proof').pruneRanks)) := by
  unfold BybitSource.recentTradesCovering
  dsimp only
  split
  · exact .inl ⟨_, rfl⟩
  · rename_i counted assigned
    refine .inr ⟨counted, assigned, ?_⟩
    split
    · exact .inl ⟨_, rfl⟩
    · rename_i proof' advances
      exact .inr ⟨proof', advances, rfl⟩

/-- A page keeps the ledger, and serves a window from an advanced proof. -/
theorem recentTradesCovering_outcome (ledger : Ledger tape n history source) :
    (∃ history', Ledger tape n history' (source.recentTradesCovering runtime startMs endMs
      connection (tape.page n receiveAt)).2) ∧
    ∀ rows, (source.recentTradesCovering runtime startMs endMs connection
        (tape.page n receiveAt)).1 = .ok rows →
      ∃ proof', (source.recentTradesCovering runtime startMs endMs connection
          (tape.page n receiveAt)).2.lineages.lookup connection = some proof' ∧
        ServesWindow tape n receiveAt startMs endMs ((source.lineages.lookup connection).getD .new)
          proof' rows := by
  obtain ⟨stands, prepared⟩ := ledger.prepare connection
  have here := mem_prepareConnection source connection
  have own : (source.prepareConnection connection).1 =
      (source.lineages.lookup connection).getD .new := rfl
  rcases recentTradesCovering_cases runtime (tape.page n receiveAt) source connection startMs
      endMs with
      ⟨refused, outcome⟩ | ⟨counted, assigned, ⟨refused, outcome⟩ | ⟨proof', advances, outcome⟩⟩
  all_goals rw [outcome]
  · exact ⟨⟨history, prepared.prune⟩, nofun⟩
  · have numbered := prepared.sight assigned
    exact ⟨⟨_, Ledger.prune ⟨numbered.sighted, numbered.seen, numbered.stands⟩⟩, nofun⟩
  · have numbered := prepared.sight assigned
    obtain ⟨ranks, lineages, -⟩ := BybitSource.assignRanks_ok assigned
    rw [← lineages] at here
    obtain ⟨fromMs, oldestMs, anchor, place, advanced⟩ := advanced_of_advanceProof numbered
      (numbered.stands _ here) (fun p onPage => by
        rw [List.mem_append]
        exact sighted_page prepared.sighted prepared.seen onPage) advances
    have stands : OnTail tape n _ counted.ranks proof' := fun _ =>
      ⟨fromMs, oldestMs, anchor, place, advanced.tail⟩
    refine ⟨⟨_, Ledger.prune (Ledger.setProof ⟨numbered.sighted, numbered.seen, numbered.stands⟩
      stands)⟩, fun rows served => ⟨proof', lookup_map_of_mem here, ?_⟩⟩
    obtain ⟨⟨laterMs, bounded, within⟩, window, known⟩ := provenWindow_ok served
    rw [advanced.tail.bounded, Option.mem_some] at bounded
    subst bounded
    exact ⟨⟨_, counted.ranks, _, oldestMs, anchor, place, own ▸ advanced, within, known⟩, window⟩

/-- The page that is kept stays as it is. -/
theorem recentTradesCovering_cache : (source.recentTradesCovering runtime startMs endMs connection
    page).2.recentPrintCache = source.recentPrintCache := by
  rcases recentTradesCovering_cases runtime page source connection startMs endMs with
      ⟨refused, outcome⟩ | ⟨counted, assigned, ⟨refused, outcome⟩ | ⟨proof', advances, outcome⟩⟩
  all_goals rw [outcome]
  · rfl
  · exact (BybitSource.assignRanks_ok assigned).2.2
  · exact (BybitSource.assignRanks_ok assigned).2.2

/-! ## Every run -/

section World
variable {settings : BybitSettings} {hashing : Hashing} {world : TapeWorld}
  {request : TradeRequest} {reading : PageReading} {prints : List Print} {cache : PrintCache}

/-- What holds of a source and its venue in front of every action. -/
structure Sound (settings : BybitSettings) (tape : PrintTape runtime) (world : TapeWorld) :
    Prop where
  ledger : ∃ history, Ledger tape world.moment history world.source
  moment_le : world.moment ≤ world.arrived
  cached : ∀ readFor prints, world.source.recentPrintCache = some (readFor, prints) →
    prints = tape.page world.moment readFor ∧ settings.reuseRecentPages = true

theorem sound_start : Sound settings tape .start where
  ledger := ⟨[], ledger_new⟩
  moment_le := le_rfl
  cached := by simp [TapeWorld.start, BybitSource.new]

/-- A page that is kept is read again, or one is loaded. -/
theorem cachedRecentPrints_cases {reuse expired : Bool} {kept : PrintCache}
    {payload : Except MarketError PyPayload}
    (reads : cachedRecentPrints runtime reuse expired kept receiveAt payload
      = .ok (prints, cache)) :
    (reuse = true ∧ expired = false ∧ kept = some (receiveAt, prints) ∧ cache = kept) ∨
      (observedPrints runtime receiveAt payload = .ok prints ∧
        cache = (if reuse then some (receiveAt, prints) else kept) ∧
        ∀ readFor old, kept = some (readFor, old) →
          ¬(reuse = true ∧ readFor = receiveAt ∧ expired = false)) := by
  unfold cachedRecentPrints at reads
  dsimp only at reads
  by_cases reused : reuse = true
  · rw [if_pos reused] at reads
    have load : ∀ {loads : Except MarketError (List Print)},
        loads.map (fun prints => (prints, some (receiveAt, prints))) = .ok (prints, cache) →
          loads = .ok prints ∧ cache = some (receiveAt, prints) := by
      intro loads mapped
      obtain ⟨loaded, observed, same⟩ := map_eq_ok.mp mapped
      obtain ⟨rfl, rfl⟩ := Prod.mk.inj same
      exact ⟨observed, rfl⟩
    cases kept with
    | none =>
      obtain ⟨observed, rfl⟩ := load reads
      exact .inr ⟨observed, by simp [reused], by simp⟩
    | some page =>
      obtain ⟨readFor, old⟩ := page
      dsimp only at reads
      split at reads
      · rename_i again
        obtain ⟨rfl, rfl⟩ := Prod.mk.inj (Except.ok.inj reads)
        exact .inl ⟨reused, again.2, by rw [again.1], rfl⟩
      · rename_i stale
        obtain ⟨observed, rfl⟩ := load reads
        refine .inr ⟨observed, by simp [reused], ?_⟩
        rintro _ _ ⟨⟩ ⟨-, same, fresh⟩
        exact stale ⟨same, fresh⟩
  · rw [if_neg reused] at reads
    obtain ⟨loaded, observed, same⟩ := map_eq_ok.mp reads
    obtain ⟨rfl, rfl⟩ := Prod.mk.inj same
    exact .inr ⟨observed, by simp [reused], fun _ _ _ again => reused again.1⟩

/-- The page of a request is that of its moment. -/
theorem Sound.readPage (sound : Sound settings tape world)
    (answers : tape.Answers world.arrived reading.payload)
    (reads : world.source.readPage runtime settings request reading = .ok (prints, cache)) :
    world.moment ≤ world.pageMoment settings request reading ∧
      world.pageMoment settings request reading ≤ world.arrived ∧
      prints = tape.page (world.pageMoment settings request reading) request.receiveAt ∧
      ∀ readFor kept, cache = some (readFor, kept) →
        kept = tape.page (world.pageMoment settings request reading) readFor ∧
          settings.reuseRecentPages = true := by
  obtain ⟨_, -, reads⟩ := bind_eq_ok.mp reads
  have below := sound.moment_le
  rcases cachedRecentPrints_cases reads with
    ⟨reused, fresh, isKept, rfl⟩ | ⟨observed, rfl, stale⟩
  · have moment : world.pageMoment settings request reading = world.moment := by
      simp [TapeWorld.pageMoment, isKept, reused, fresh]
    rw [moment]
    exact ⟨le_rfl, below, (sound.cached _ _ isKept).1, sound.cached⟩
  · have moment : world.pageMoment settings request reading = world.arrived := by
      unfold TapeWorld.pageMoment
      cases isKept : world.source.recentPrintCache with
      | none => rfl
      | some page => exact if_neg (stale page.1 page.2 isKept)
    obtain ⟨isPage, -⟩ := observedPrints_page answers observed
    rw [moment]
    refine ⟨below, le_rfl, isPage, fun readFor kept isCache => ?_⟩
    by_cases reused : settings.reuseRecentPages = true
    · rw [if_pos reused] at isCache
      obtain ⟨rfl, rfl⟩ := Prod.mk.inj (Option.some.inj isCache)
      exact ⟨isPage, reused⟩
    · rw [if_neg reused] at isCache
      exact absurd (sound.cached readFor kept isCache).2 reused

/-- The source as a page finds it: what it has proven is as old as the page before. -/
theorem Sound.opened (sound : Sound settings tape world)
    (answers : tape.Answers world.arrived reading.payload)
    (reads : world.source.readPage runtime settings request reading = .ok (prints, cache)) :
    ∃ history, Ledger tape (world.pageMoment settings request reading) history
      { world.source with recentPrintCache := cache } := by
  obtain ⟨history, ledger⟩ := sound.ledger
  have later := ledger.later (sound.readPage answers reads).1
  exact ⟨history, later.sighted, later.seen, later.stands⟩

/-- What a request for trades does to the world. -/
theorem Sound.fetched (sound : Sound settings tape world)
    (answers : tape.Answers world.arrived reading.payload) :
    Sound settings tape { world with
      moment := world.momentAfter runtime settings request reading
      source := (fetchOrderedTrades runtime settings hashing request reading world.source).2 } := by
  unfold TapeWorld.momentAfter Market.fetchOrderedTrades
  cases reads : world.source.readPage runtime settings request reading with
  | error refused => exact sound
  | ok page =>
    obtain ⟨prints, cache⟩ := page
    obtain ⟨history, ledger⟩ := sound.opened answers reads
    obtain ⟨-, held, rfl, cached⟩ := sound.readPage answers reads
    refine ⟨(recentTradesCovering_outcome ledger).1, held, fun readFor kept isCache => ?_⟩
    exact cached readFor kept (recentTradesCovering_cache.symm.trans isCache)

theorem fetchOrderFlowSnapshot_source {contract : Except MarketError Unit}
    (asked : requireOrderFlow settings request contract = .ok ()) :
    (fetchOrderFlowSnapshot runtime settings hashing request contract reading source).2 =
      (fetchOrderedTrades runtime settings hashing request reading source).2 := by
  unfold fetchOrderFlowSnapshot
  rw [asked]

theorem Sound.step {action : TapeAction} (sound : Sound settings tape world)
    (answered : action.Answered tape world.arrived) :
    Sound settings tape (world.step runtime settings hashing action) := by
  cases action with
  | arrive => exact { sound with moment_le := sound.moment_le.trans (Nat.le_succ _) }
  | fetchOrderedTrades request reading => exact sound.fetched answered
  | fetchOrderFlowSnapshot request contract reading =>
    simp only [TapeWorld.step]
    split
    · exact sound
    · rename_i asked
      rw [fetchOrderFlowSnapshot_source asked]
      exact sound.fetched answered
  | releaseSymbolHistory =>
    obtain ⟨history, ledger⟩ := sound.ledger
    exact ⟨⟨history, ledger.release⟩, sound.moment_le, sound.cached⟩

theorem sound_run {actions : List TapeAction}
    (answered : Along (TapeWorld.step runtime settings hashing)
      (fun world action => action.Answered tape world.arrived) .start actions) :
    Sound settings tape (run (TapeWorld.step runtime settings hashing) .start actions) :=
  run_invariant (TapeWorld.step runtime settings hashing)
    (fun _ _ sound answered => sound.step answered) sound_start answered

end World
end AlphaTrade.Market
