import AlphaTrade.Execution.Cover
import AlphaTrade.Execution.Freed
import AlphaTrade.Journal.Projector

/-!
# Closing paper positions

`close_filled_plan` projects a close into the journal. It reads the command and its plan and
writes the journal only: the ledger row, the reservation and the loss budget of the claim stay
as the fills left them. Closing therefore frees nothing, and an account gets back to zero
exactly when none of its claims was filled.

The kill switch that a late loss arms is a step of its own here, and so are the other events
that are projected into the journal.
-/
namespace AlphaTrade.Execution
open Library
open Journal (EventType TradeDirection TradeResult TradeStatus Key)

inductive CloseError where
  | notFound (message : String)
  | validation (message reason : String)
  | tradingPolicy (message reason : String)
  | amount (message reason field : String)
  | value (message : String)
  | journal (e : Journal.Error)
  deriving DecidableEq, Repr

/-- `ClosePaperPlanRequest`, as far as it is read outside the audit. -/
structure CloseRequest where
  organizationId : OrganizationId
  userId : UserId
  accountId : AccountId
  revisionId : RevisionId
  commandId : CommandId
  exitPrice : ℚ
  fees : ℚ
  funding : ℚ
  slippage : ℚ
  exitReason : String
  occurredAt : PyDateTime
  idempotencyKey : String

/-- What the close finds besides the tables: the settings, and the lineage of the plan. -/
structure CloseEnv where
  realTrading : Bool
  lineage : Journal.Given Journal.Lineage

/-! ## Economics of a close -/

structure PaperCloseEconomics where
  grossPnl : ℚ
  netPnl : ℚ
  result : TradeResult

/-- `_money`: eight decimal places. -/
def money (value : ℚ) : ℚ := quantizeHalfEven 8 value

def positiveMoney (value : ℚ) (field : String) : Except CloseError ℚ := do
  ensure (0 < money value)
    (CloseError.amount "Paper close price and size must be positive." "non_positive_money" field)
  return money value

def nonNegativeMoney (value : ℚ) (field : String) : Except CloseError ℚ := do
  ensure (0 ≤ money value)
    (CloseError.amount "Paper close costs cannot be negative." "negative_cost" field)
  return money value

def resultFor (netPnl : ℚ) : TradeResult :=
  if 0 < netPnl then .win else if netPnl < 0 then .loss else .breakeven

def paperClosePnl (direction : TradeDirection)
    (entryPrice exitPrice size fees funding slippage : ℚ) :
    Except CloseError PaperCloseEconomics := do
  let entry ← positiveMoney entryPrice "entry_price"
  let exit ← positiveMoney exitPrice "exit_price"
  let quantity ← positiveMoney size "size"
  let feeCost ← nonNegativeMoney fees "fees"
  let fundingCost ← nonNegativeMoney funding "funding"
  let slippageCost ← nonNegativeMoney slippage "slippage"
  let delta := match direction with
    | .long => exit - entry
    | .short => -(exit - entry)
  let gross := money (delta * quantity)
  let net := money (gross - feeCost - fundingCost - slippageCost)
  return ⟨gross, net, resultFor net⟩

/-! ## The close -/

/-- `_load_close_envelope`. -/
def Db.loadCloseEnvelope (cat : Catalog) (db : Db) (q : CloseRequest) : Except CloseError Plan :=
  match db.commands.find q.commandId with
  | none => .error (.notFound "Execution command is unknown in this organization.")
  | some k => do
    ensure (k.organizationId = q.organizationId ∧ k.userId = q.userId)
      (CloseError.notFound "Execution command is unknown in this organization.")
    ensure (k.accountId = q.accountId ∧ k.revisionId = q.revisionId)
      (CloseError.validation "Paper close identity does not match the execution command."
        "close_identity_mismatch")
    match cat.plans q.revisionId with
    | some plan => do
      ensure (plan.revisionId = q.revisionId ∧ plan.organizationId = q.organizationId ∧
          plan.userId = q.userId)
        (CloseError.notFound "Canonical trade plan revision is unknown in this tenant scope.")
      return plan
    | none => .error (.notFound "Canonical trade plan revision is unknown in this tenant scope.")

def canonicalExecutionSourceSystem : String := "canonical_paper_execution"

/-- `_assert_close_eligible`. -/
def assertCloseEligible (j : Journal.Store) (q : CloseRequest) (status : Option TradeStatus) :
    Except CloseError Unit :=
  let existing := j.records.find? fun r =>
    r.organizationId = q.organizationId ∧ r.event.sourceSystem = canonicalExecutionSourceSystem ∧
      r.event.eventType = .close ∧ r.event.sourceEventId = q.idempotencyKey
  match existing with
  | some r => ensure (r.event.executionLifecycleId = some q.commandId)
      (.validation "Paper close idempotency key is bound to another trade." "idempotency_conflict")
  | none => do
    ensure (status ≠ some .closed)
      (CloseError.validation "Paper trade is already closed." "already_closed")
    ensure (status = some .open)
      (CloseError.validation "Paper close requires an open fill." "not_open")

/-- The close event that is projected. -/
def closeEvent (env : CloseEnv) (q : CloseRequest) (economics : PaperCloseEconomics) :
    Journal.Event where
  eventType := .close
  executionLifecycleId := some q.commandId
  sourceSystem := canonicalExecutionSourceSystem
  sourceAggregate := "execution-command"
  sourceEventId := q.idempotencyKey
  sourceEventVersion := 1
  supersession := 0
  accountId := q.accountId
  payload :=
    { get := fun k => match k with
        | .exitPrice => .value q.exitPrice
        | .exitTime => .value q.occurredAt.instant
        | .exitReason => .value (strip q.exitReason)
        | .fees => .value q.fees
        | .funding => .value q.funding
        | .slippage => .value q.slippage
        | .grossPnl => .value economics.grossPnl
        | .netPnl => .value economics.netPnl
        | .result => .value economics.result
        | _ => .absent
      status := .absent
      reconciliationPosition := none
      reconciliationStatus := none
      lineage := env.lineage }

def assertCloseRecorded (trade : Journal.JournalTrade) : Except CloseError Unit :=
  ensure ((trade.attr .entryPrice).isSome ∧ (trade.attr .exitPrice).isSome ∧
      (trade.attr .fees).isSome ∧ (trade.attr .grossPnl).isSome ∧ (trade.attr .netPnl).isSome ∧
      (trade.attr .exitReason).isSome ∧ trade.attr .result ≠ some TradeResult.open)
    (.validation "Paper close did not record exit, fees, and PnL." "incomplete_close")

def missingOpenTrade : CloseError :=
  .validation "Filled paper journal trade is missing; refusing to invent an outcome."
    "missing_open_trade"

/-- The open trade of the command, and what it earned at the exit. -/
def closeEconomics (j : Journal.Store) (q : CloseRequest) : Except CloseError PaperCloseEconomics :=
  match j.trades q.organizationId q.commandId with
  | none => .error missingOpenTrade
  | some trade => do
    ensure (trade.userId = q.userId) missingOpenTrade
    assertCloseEligible j q trade.status
    match trade.attr .entryPrice, trade.attr .size, trade.attr .direction with
    | some entryPrice, some size, some direction =>
      paperClosePnl direction entryPrice q.exitPrice size q.fees q.funding q.slippage
    | _, _, _ =>
      .error (.validation "Paper close requires a recorded entry price and size." "incomplete_fill")

/-- `close_filled_plan`: the journal after it. -/
def closeFilledPlan (hash : OrganizationId → Journal.Event → String) (cat : Catalog) (db : Db)
    (j : Journal.Store) (env : CloseEnv) (q : CloseRequest) : Except CloseError Journal.Store := do
  ensure (env.realTrading = false)
    (CloseError.value "Refusing execution: real trading is permanently disabled.")
  ensure q.occurredAt.utcOffset.isSome
    (CloseError.validation "Paper close time must be timezone-aware." "naive_close_time")
  let plan ← db.loadCloseEnvelope cat q
  ensure (plan.executionPolicyVersion ≠ "governed-blofin-demo/v1")
    (CloseError.tradingPolicy
      "Demo close requires actual exchange exit evidence; synthetic closes are disabled."
      "demo_synthetic_close_forbidden")
  let economics ← closeEconomics j q
  ensure (¬isBlank q.exitReason)
    (CloseError.validation "Paper close requires an exit reason." "missing_exit_reason")
  let (j, projection) ← (j.project hash q.organizationId q.userId
    (closeEvent env q economics)).mapError .journal
  ensure projection.hasTrade
    (CloseError.validation "Paper close did not resolve a journal trade." "missing_journal_trade")
  match j.trades q.organizationId q.commandId with
  | none => .error missingOpenTrade
  | some trade => do
    assertCloseRecorded trade
    return j

/-! ## The floor: the protocol and the journal -/

/-- `closes` is ghost state: the commands that `close_filled_plan` returned for. -/
structure Floor where
  world : World
  journal : Journal.Store
  closes : List CommandId

inductive FloorLabel where
  | exec (l : Label)
  | project (organization : OrganizationId) (user : UserId) (event : Journal.Event)
  | close (env : CloseEnv) (request : CloseRequest)

namespace Floor

def init : Floor := ⟨World.init, Journal.Store.empty, []⟩

def step (hash : OrganizationId → Journal.Event → String) (cat : Catalog) (f : Floor) :
    FloorLabel → Floor
  | .exec l => { f with world := f.world.step cat l }
  | .project organization user event =>
    match f.journal.project hash organization user event with
    | .ok (j, _) => { f with journal := j }
    | .error _ => f
  | .close env q =>
    match closeFilledPlan hash cat f.world.db f.journal env q with
    | .ok j => { f with journal := j, closes := f.closes ++ [q.commandId] }
    | .error _ => f

end Floor

def floorReached (hash : OrganizationId → Journal.Event → String) (cat : Catalog)
    (ls : List FloorLabel) : Floor := run (Floor.step hash cat) Floor.init ls

def execLabels (ls : List FloorLabel) : List Label :=
  ls.filterMap fun l => match l with
    | .exec l => some l
    | _ => none

/-- Journal events and closes do not touch the protocol. -/
theorem floorReached_world (hash : OrganizationId → Journal.Event → String) (cat : Catalog)
    (ls : List FloorLabel) : (floorReached hash cat ls).world = reached cat (execLabels ls) := by
  suffices all : ∀ f : Floor, (run (Floor.step hash cat) f ls).world =
      run (World.step cat) f.world (execLabels ls) from all Floor.init
  induction ls with
  | nil => exact fun f => rfl
  | cons l ls ih =>
    intro f
    rw [run_cons, ih]
    cases l with
    | exec l => rfl
    | project organization user event =>
      simp only [Floor.step]
      split <;> rfl
    | close env q =>
      simp only [Floor.step]
      split <;> rfl

/-! ## What closing frees -/

def Command.FullyFilled (cat : Catalog) (k : Command) : Prop :=
  ∃ plan, cat.plans k.revisionId = some plan ∧
    (k.fills.map (·.quantity)).sum = plan.quantity.value

def Command.ReleasedUnfilled (k : Command) : Prop :=
  k.fills = [] ∧ ∃ r, k.reservation = some r ∧ r.releaseState = .released

def Floor.Settled (cat : Catalog) (key : AccountKey) (f : Floor) : Prop :=
  ∀ c k, f.world.db.commands.find c = some k → k.accountKey = key → k.outcome = .allow →
    k.FullyFilled cat ∧ c ∈ f.closes ∨ k.ReleasedUnfilled

/-- The row as if nothing had been claimed. -/
def Accounting.emptied (row : Accounting) : Accounting :=
  { row with
    actualNotional := 0
    reservedNotional := 0
    reservedDailyLoss := 0
    symbolActual := fun _ => 0
    symbolReserved := fun _ => 0 }

/-- Nothing is held, and what the empty account would admit is admitted. -/
structure Accounting.Freed (row : Accounting) : Prop where
  actualNotional : row.actualNotional = 0
  reservedNotional : row.reservedNotional = 0
  reservedDailyLoss : row.reservedDailyLoss = 0
  symbolActual : ∀ i, row.symbolActual i = 0
  symbolReserved : ∀ i, row.symbolReserved i = 0
  admits : ∀ blocking kill intent, evaluateClaimPredicate blocking kill row.emptied intent = none →
    evaluateClaimPredicate blocking kill row intent = none

theorem Accounting.freed_of_amounts {row : Accounting}
    (returned : ∀ col : Column, col.returned = true → row.amount col = 0)
    (actual : ∀ col : Column, col.reserved = false → row.amount col = 0) : row.Freed := by
  have reservedNotional : row.reservedNotional = 0 := returned .notional rfl
  have reservedDailyLoss : row.reservedDailyLoss = 0 := returned .loss rfl
  have symbolReserved : ∀ i, row.symbolReserved i = 0 := fun i => returned (.symbol i) rfl
  have actualNotional : row.actualNotional = 0 := actual .actual rfl
  have symbolActual : ∀ i, row.symbolActual i = 0 := fun i => actual (.symbolActual i) rfl
  refine ⟨actualNotional, reservedNotional, reservedDailyLoss, symbolActual, symbolReserved, ?_⟩
  intro blocking kill intent admitted
  simpa [evaluateClaimPredicate, emptied, reservedNotional, reservedDailyLoss, symbolReserved,
    actualNotional, symbolActual] using admitted

variable {cat : Catalog}

/-- Only an allowed claim has a reservation. -/
theorem reached_allow {ls : List Label} {c : CommandId} {k : Command} {r : Reservation}
    (find : (reached cat ls).db.commands.find c = some k) (reservation : k.reservation = some r) :
    k.outcome = .allow := by
  have inv : k.reservation.isSome → k.outcome = .allow := by
    refine reached_invariant (I := fun _ k => k.reservation.isSome → k.outcome = .allow)
      (fun _ _ created => ?_) (fun _ k k' inv move some_ => ?_) (along_respects_any cat _ ls) find
    · cases created with
      | blocked _ _ => simp [PendingClaim.blockedCommand]
      | allowed _ _ _ _ => simp [PendingClaim.allowedCommand]
    · have terms := move.sameTerms
      rw [terms.outcome]
      exact inv (terms.reservation ▸ some_)
  exact inv (by simp [reservation])

section freed
variable {cat : Catalog} {key : AccountKey} {ls : List Label}

variable {c : CommandId}

/-- Released without a fill, nothing is owed. -/
theorem owed_eq_zero {col : Column} (returned : col.returned = true)
    (released : ∀ c k, (reached cat ls).db.commands.find c = some k → k.accountKey = key →
      k.outcome = .allow → k.ReleasedUnfilled) :
    (reached cat ls).db.books.owed key col c = 0 := by
  unfold Books.owed
  split
  · rename_i key' r held
    split
    · rename_i own
      subst own
      obtain ⟨k, find, holds⟩ := Option.bind_eq_some_iff.mp held
      obtain ⟨r', reservation, eq⟩ := Option.map_eq_some_iff.mp holds
      obtain ⟨own, rfl⟩ := Prod.mk.inj eq
      obtain ⟨unfilled, r'', reservation', state⟩ :=
        released c k find own (reached_allow find reservation)
      obtain rfl : r' = r'' := Option.some.inj (reservation.symm.trans reservation')
      have unconverted := (reached_slotInv find r' reservation).2.mp unfilled
      have empty := ((reached_sound cat ls).reservations c _ r' held).released state
      cases col with
      | notional => exact empty
      | symbol i => simp [Reservation.owed, empty]
      | loss => simp [Reservation.owed, state, unconverted]
      | _ => cases returned
    · rfl
  · rfl

theorem freed_of_releasedUnfilled
    (plain : ∀ plan, cat.PlansOf key plan → plan.schemaVersion ≠ .manualDemoTradePlanV1)
    (released : ∀ c k, (reached cat ls).db.commands.find c = some k → k.accountKey = key →
      k.outcome = .allow → k.ReleasedUnfilled) {row : Accounting}
    (found : (reached cat ls).db.accounting key = some row) : row.Freed := by
  apply Accounting.freed_of_amounts
  · intro col returned
    have covers : ∀ c, ((reached cat ls).db.books.holding c).isSome →
        c ∈ (reached cat ls).db.commands.keys := by
      intro c some_
      obtain ⟨x, held⟩ := Option.isSome_iff_exists.mp some_
      obtain ⟨k, find, -⟩ := Option.bind_eq_some_iff.mp held
      exact (reached cat ls).db.commands.mem_keys_of_find find
    have bound := reached_within plain returned ls row found _ (reached cat ls).db.commands.nodup
      covers
    have zero : ((reached cat ls).db.commands.keys.map
        ((reached cat ls).db.books.owed key col)).sum = 0 := by
      refine List.sum_eq_zero fun x mem => ?_
      obtain ⟨c, -, rfl⟩ := List.mem_map.mp mem
      exact owed_eq_zero returned released
    have nonneg := (reached_sound cat ls).nonneg key row found col
    linarith
  · refine (reached_countsFills key ls).unfilled row found ?_
    rintro ⟨c, r, held, filled⟩
    obtain ⟨k, find, holds⟩ := Option.bind_eq_some_iff.mp held
    obtain ⟨r', reservation, eq⟩ := Option.map_eq_some_iff.mp holds
    obtain ⟨own, rfl⟩ := Prod.mk.inj eq
    obtain ⟨unfilled, -⟩ := released c k find own (reached_allow find reservation)
    exact filled ((reached_slotInv find r' reservation).2.mp unfilled)

/-- A fill of the account leaves actual exposure for good. -/
theorem not_freed_of_fill {k : Command} (find : (reached cat ls).db.commands.find c = some k)
    (own : k.accountKey = key) (allow : k.outcome = .allow) (filled : k.fills ≠ []) :
    ∃ row, (reached cat ls).db.accounting key = some row ∧ 0 < row.actualNotional := by
  obtain ⟨r, -, reservation, -⟩ := reached_reserved find allow
  have held : (reached cat ls).db.books.holding c = some (key, r) :=
    own ▸ Db.holding_of_find find reservation
  have converted : r.convertedTradeSlots ≠ 0 := fun zero =>
    filled ((reached_slotInv find r reservation).2.mpr zero)
  obtain ⟨row, found⟩ := (reached_sound cat ls).rows c key r held
  exact ⟨row, found, (reached_countsFills key ls).filled row found ⟨c, r, held, converted⟩⟩

end freed

/-- On an account whose plans are all internal paper plans, in every run that ends with every
allowed claim filled and closed or released unfilled: the account is freed exactly when no
claim was filled. -/
theorem closing_frees_account_iff (hash : OrganizationId → Journal.Event → String) (cat : Catalog)
    (key : AccountKey)
    (paper : ∀ plan, cat.PlansOf key plan → plan.executionVenue = internalPaperVenue)
    (ls : List FloorLabel) (settled : (floorReached hash cat ls).Settled cat key) :
    (∀ row, (floorReached hash cat ls).world.db.accounting key = some row → row.Freed) ↔
      ∀ c k, (floorReached hash cat ls).world.db.commands.find c = some k → k.accountKey = key →
        k.outcome = .allow → k.fills = [] := by
  unfold Floor.Settled at settled
  rw [floorReached_world] at settled ⊢
  have plain : ∀ plan, cat.PlansOf key plan → plan.schemaVersion ≠ .manualDemoTradePlanV1 := by
    intro plan own manual
    have venue := plan.manual_venue manual
    rw [paper plan own] at venue
    revert venue
    decide
  constructor
  · intro freed c k find own allow
    by_contra filled
    obtain ⟨row, found, exposed⟩ := not_freed_of_fill find own allow filled
    exact exposed.ne' (freed row found).actualNotional
  · intro unfilled row found
    refine freed_of_releasedUnfilled plain (fun c k find own allow => ?_) found
    obtain ⟨⟨plan, -, total⟩, -⟩ | released := settled c k find own allow
    · rw [unfilled c k find own allow] at total
      exact absurd total.symm plan.quantity.pos.ne'
    · exact released

/-! ## A desk that closes its trades -/

namespace Sample

def paperCatalog : Catalog :=
  { catalog internalPaperVenue with
    plans := fun revision => some { plan internalPaperVenue revision with
      executionPolicyVersion := "paper-internal-entry/v1" } }

/-- The journal event of a fill of two contracts at one hundred. -/
def fillEvent (c : CommandId) : Journal.Event where
  eventType := .fill
  executionLifecycleId := some c
  sourceSystem := canonicalExecutionSourceSystem
  sourceAggregate := "execution-command"
  sourceEventId := "fill"
  sourceEventVersion := 1
  supersession := 0
  accountId := 1
  payload :=
    { get := fun k => match k with
        | .symbol => .value "BTC-USDT"
        | .timeframe => .value "1h"
        | .direction => .value TradeDirection.long
        | .entryPrice => .value (100 : ℚ)
        | .size => .value (2 : ℚ)
        | _ => .absent
      status := .absent
      reconciliationPosition := none
      reconciliationStatus := none
      lineage := .absent }

def closeRequest (c : CommandId) : CloseRequest where
  organizationId := 1
  userId := 1
  accountId := 1
  revisionId := c
  commandId := c
  exitPrice := 101
  fees := 0
  funding := 0
  slippage := 0
  exitReason := "target"
  occurredAt := ⟨2026, 1, 2, 3, 4, 5, 0, some 0⟩
  idempotencyKey := "close"

end Sample

def closedRun : List FloorLabel :=
  (tightBegin ++ [tightClaim, Sample.fill 1 1 "a" 2 100]).map .exec ++
    [.project 1 1 (Sample.fillEvent 1), .close ⟨false, .absent⟩ (Sample.closeRequest 1)]

def againRun : List FloorLabel :=
  closedRun ++ [.issueAuthorization 2 ⟨1, 1, 1, 2, "content", 1000000000000⟩,
    .beginClaim (tightCtx 2) 0 ⟨.ok (), true⟩ (Sample.claimRequest 2 "key2"),
    .finishClaim (tightCtx 2) 0 true (Sample.claimEnv 2 2)].map .exec

/-- All commands of a run are settled, if those with the listed ids are. -/
theorem Floor.settled_of_keys {key : AccountKey} {f : Floor} (c₀ : CommandId)
    (keys : f.world.db.commands.keys = [c₀])
    (one : ∀ k, f.world.db.commands.find c₀ = some k → k.FullyFilled cat ∧ c₀ ∈ f.closes ∨
      k.ReleasedUnfilled) :
    f.Settled cat key := by
  intro c k find _ _
  obtain rfl : c = c₀ := by simpa [keys] using Table.mem_keys_of_find _ find
  exact one k find

/-- The claim was filled and closed. Its exposure and its loss budget are still on the row, and
the same plan, which the empty row would admit, is refused. -/
theorem closed_trade_keeps_exposure :
    (floorReached (fun _ _ => "") Sample.paperCatalog closedRun).Settled Sample.paperCatalog
        (1, 1) ∧
      ((floorReached (fun _ _ => "") Sample.paperCatalog closedRun).world.db.accounting (1, 1)).map
        (fun row => (row.actualNotional, row.symbolActual "BTC-USDT", row.reservedDailyLoss)) =
          some (200, 200, 10) ∧
      ((floorReached (fun _ _ => "") Sample.paperCatalog closedRun).world.db.accounting (1, 1)).map
        (fun row => (conservativeReservation (Sample.plan internalPaperVenue 2)).toOption.map
          (evaluateClaimPredicate false false row.emptied)) = some (some none) ∧
      ((floorReached (fun _ _ => "") Sample.paperCatalog againRun).world.db.commands.find 2).map
        (fun k => (k.outcome, k.blockedReasonCode)) =
          some (.blocked, some "insufficient_total_exposure") := by
  refine ⟨Floor.settled_of_keys 1 (by decide +kernel) fun k find => .inl ⟨?_, ?_⟩,
    by decide +kernel, by decide +kernel, by decide +kernel⟩
  · have filled :
        ((floorReached (fun _ _ => "") Sample.paperCatalog closedRun).world.db.commands.find
        1).map (fun k => (k.fills.map (·.quantity)).sum) = some 2 := by decide +kernel
    rw [find] at filled
    exact ⟨_, rfl, Option.some.inj filled⟩
  · decide +kernel

def rejectedRun : List FloorLabel :=
  (Sample.claim 0 1 ++ Sample.dispatch 0 1 ++
    [Label.beginFakeSend 0 1 "worker" 1, .finishFakeSend (Sample.ctx 1) 0 .rejected]).map .exec

theorem closing_frees_account_iff_rejectedRun :
    ((floorReached (fun _ _ => "") Sample.paperCatalog rejectedRun).world.db.accounting
        (1, 1)).isSome ∧
      ∀ row, (floorReached (fun _ _ => "") Sample.paperCatalog rejectedRun).world.db.accounting
        (1, 1) = some row → row.Freed := by
  refine ⟨by decide_cbv, ?_⟩
  have keys :
      (floorReached (fun _ _ => "") Sample.paperCatalog rejectedRun).world.db.commands.keys =
      [1] := by decide_cbv
  have released : ((floorReached (fun _ _ => "") Sample.paperCatalog
      rejectedRun).world.db.commands.find 1).map (fun k => (k.fills.isEmpty,
        k.reservation.map (·.releaseState))) = some (true, some .released) := by decide_cbv
  have unfilled : ∀ c k, (floorReached (fun _ _ => "") Sample.paperCatalog
      rejectedRun).world.db.commands.find c = some k → k.ReleasedUnfilled := by
    intro c k find
    obtain rfl : c = 1 := by simpa [keys] using Table.mem_keys_of_find _ find
    rw [find] at released
    obtain ⟨empty, state⟩ := Prod.mk.inj (Option.some.inj released)
    obtain ⟨r, reservation, state⟩ := Option.map_eq_some_iff.mp state
    exact ⟨List.isEmpty_iff.mp empty, r, reservation, state⟩
  refine (closing_frees_account_iff (fun _ _ => "") Sample.paperCatalog (1, 1) ?_ rejectedRun
    (Floor.settled_of_keys 1 keys fun k find => .inr (unfilled 1 k find))).mpr
    fun c k find _ _ => (unfilled c k find).1
  rintro plan ⟨⟨revision, found⟩, -⟩
  obtain rfl := Option.some.inj found
  rfl

end AlphaTrade.Execution
