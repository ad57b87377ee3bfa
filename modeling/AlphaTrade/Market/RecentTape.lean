import AlphaTrade.Library.Run
import AlphaTrade.Market.RecentTrades

/-!
# A venue whose tape grows

The venue's prints arrive in the order of their times, and a read answers the last ones of those
that have arrived. The source runs against it: prints arrive, windows are fetched by any lineage,
history is released. A page that is kept is as old as its read, so the world remembers how many
prints had arrived at the last read.
-/
namespace AlphaTrade.Market
open Library
open Execution (Instant)

variable (runtime : PyRuntime)

/-- The prints of a venue, oldest first, each with the row that shows it. -/
structure PrintTape where
  prints : List Print
  row : Print → PyDict
  timeline : Timeline Print.timeMs Print.execId prints
  shown : ∀ p ∈ prints, normalizePrint runtime (some (row p)) = .ok p

variable {runtime} (tape : PrintTape runtime)

def PrintTape.held (arrived : Nat) : List Print := tape.prints.take arrived

def PrintTape.Answers (arrived : Nat) (payload : Except MarketError PyPayload) : Prop :=
  ∀ rows, payload = .ok (.list rows) →
    rows.Perm ((newest recentTradeLimit (tape.held arrived)).map fun p => some (tape.row p))

@[irreducible] def PrintTape.page (arrived : Nat) (receiveAt : Instant) : List Print :=
  recent Print.timeMs Print.execId recentTradeLimit (runtime.timestampMs receiveAt)
    (tape.held arrived)

/-! ## Pages -/

theorem PrintTape.page_eq (arrived : Nat) (receiveAt : Instant) : tape.page arrived receiveAt =
    recent Print.timeMs Print.execId recentTradeLimit (runtime.timestampMs receiveAt)
      (tape.held arrived) := by
  unfold PrintTape.page
  rfl

variable {receiveAt : Instant}

theorem PrintTape.mem_page {arrived : Nat} {p : Print} :
    p ∈ tape.page arrived receiveAt ↔
      p ∈ newest recentTradeLimit (tape.held arrived) ∧
        p.timeMs ≤ runtime.timestampMs receiveAt := by
  rw [PrintTape.page_eq, mem_recent]

theorem PrintTape.unique_held (arrived : Nat) : ((tape.held arrived).map Print.execId).Nodup :=
  tape.timeline.unique.sublist ((List.take_sublist ..).map _)

theorem uniqueExecIds_eq {prints : List Print} (unique : (prints.map Print.execId).Nodup) :
    uniqueExecIds prints = prints := by
  suffices grown : ∀ seen, ((seen ++ prints).map Print.execId).Nodup →
      prints.foldl (fun unique item => if item.execId ∈ unique.map Print.execId then unique
        else unique ++ [item]) seen = seen ++ prints by
    exact (grown [] (by simpa using unique)).trans (List.nil_append _)
  intro seen fresh
  clear unique
  induction prints generalizing seen with
  | nil => simp
  | cons item prints ih =>
    have new : item.execId ∉ seen.map Print.execId := by
      simp only [List.map_append, List.map_cons, List.nodup_append] at fresh
      grind
    rw [List.foldl_cons, if_neg new, ih _ (by simpa using fresh)]
    simp

variable {tape} {arrived : Nat} {payload : Except MarketError PyPayload} {prints : List Print}

/-- What is loaded from an answer is the newest prints, sorted. -/
theorem loadRecentPrints_page (answers : tape.Answers arrived payload) {body : PyPayload}
    (read : payload = .ok body) (loaded : loadRecentPrints runtime body = .ok prints) :
    prints = (newest recentTradeLimit (tape.held arrived)).insertionSort fun left right =>
      stamp Print.timeMs Print.execId left ≤ stamp Print.timeMs Print.execId right := by
  cases body with
  | other => cases loaded
  | list rows =>
    obtain ⟨-, -, loaded⟩ := bind_eq_ok.mp loaded
    obtain ⟨normal, normalized, loaded⟩ := bind_eq_ok.mp loaded
    obtain ⟨-, -, loaded⟩ := bind_eq_ok.mp loaded
    obtain rfl := Except.ok.inj loaded
    set page := newest recentTradeLimit (tape.held arrived)
    have listed : ∀ p ∈ page, p ∈ tape.prints := fun p is =>
      List.mem_of_mem_take ((newest_sublist ..).subset is)
    have shows : (page.map fun p => some (tape.row p)).map (normalizePrint runtime) =
        page.map .ok := by
      rw [List.map_map]
      exact List.map_congr_left fun p is => tape.shown p (listed p is)
    have perm : normal.Perm page := by
      have rows := (answers rows read).map (normalizePrint runtime)
      rw [shows, map_of_mapM normalized] at rows
      exact (List.map_perm_map_iff fun _ _ same => Except.ok.inj same).mp rows
    have unique : (page.map Print.execId).Nodup :=
      (tape.unique_held arrived).sublist ((newest_sublist ..).map _)
    rw [insertionSort_eq_of_perm perm unique]
    exact uniqueExecIds_eq (((List.perm_insertionSort _ page).map _).nodup_iff.mpr unique)

/-- What is observed of an answer is its page. -/
theorem observedPrints_page (answers : tape.Answers arrived payload)
    (observed : observedPrints runtime receiveAt payload = .ok prints) :
    prints = tape.page arrived receiveAt ∧ prints ≠ [] := by
  obtain ⟨body, read, observed⟩ := bind_eq_ok.mp observed
  obtain ⟨loaded, load, observed⟩ := bind_eq_ok.mp observed
  obtain ⟨_, nonempty, observed⟩ := bind_eq_ok.mp observed
  obtain rfl := Except.ok.inj observed
  refine ⟨?_, ensure_eq_ok.mp nonempty⟩
  rw [loadRecentPrints_page answers read load, PrintTape.page_eq]
  rfl

/-! ## The world -/

structure TapeWorld where
  arrived : Nat
  moment : Nat
  source : BybitSource

def TapeWorld.start : TapeWorld := ⟨0, 0, .new⟩

inductive TapeAction where
  | arrive
  | fetchOrderedTrades (request : TradeRequest) (reading : PageReading)
  | fetchOrderFlowSnapshot (request : TradeRequest) (contract : Except MarketError Unit)
      (reading : PageReading)
  | releaseSymbolHistory

def TapeAction.Answered (tape : PrintTape runtime) (arrived : Nat) : TapeAction → Prop
  | .fetchOrderedTrades _ reading => tape.Answers arrived reading.payload
  | .fetchOrderFlowSnapshot _ _ reading => tape.Answers arrived reading.payload
  | _ => True

section World
variable (runtime) (settings : BybitSettings) (hashing : Hashing)

def TapeWorld.pageMoment (world : TapeWorld) (request : TradeRequest) (reading : PageReading) :
    Nat :=
  match world.source.recentPrintCache with
  | none => world.arrived
  | some (readFor, _) =>
    if settings.reuseRecentPages ∧ readFor = request.receiveAt ∧ reading.expired = false then
      world.moment
    else world.arrived

def TapeWorld.momentAfter (world : TapeWorld) (request : TradeRequest) (reading : PageReading) :
    Nat :=
  match world.source.readPage runtime settings request reading with
  | .error _ => world.moment
  | .ok _ => world.pageMoment settings request reading

def TapeWorld.step (world : TapeWorld) : TapeAction → TapeWorld
  | .arrive => { world with arrived := world.arrived + 1 }
  | .fetchOrderedTrades request reading =>
    { world with
      moment := world.momentAfter runtime settings request reading
      source := (fetchOrderedTrades runtime settings hashing request reading world.source).2 }
  | .fetchOrderFlowSnapshot request contract reading =>
    match requireOrderFlow settings request contract with
    | .error _ => world
    | .ok () =>
      { world with
        moment := world.momentAfter runtime settings request reading
        source := (fetchOrderFlowSnapshot runtime settings hashing request contract reading
          world.source).2 }
  | .releaseSymbolHistory => { world with source := world.source.releaseSymbolHistory }

end World

end AlphaTrade.Market
