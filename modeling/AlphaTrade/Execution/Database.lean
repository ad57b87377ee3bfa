import AlphaTrade.Execution.Ledger
import AlphaTrade.Execution.Transitions

/-!
# The database and what surrounds it

`Db` is the committed state. Operations are functions on it; one that raises is
rolled back, so it changes nothing. `Catalog` holds what never changes (plan
revisions and the derivations of hashes and order ids), and `Ctx` what one
operation reads from outside the protocol tables: the clock, the process settings,
the risk settings of users, and two gates over tables that are not modelled.

The journal is ghost state. Every write of a ledger row on account of a
reservation posts what it meant to add and what the row really did.
-/
namespace AlphaTrade.Execution
open Library

/-- The preimage of `fill_content_hash`: amounts and times enter as text. -/
structure FillPreimage where
  receiptId : ReceiptId
  commandId : CommandId
  venueSource : String
  sourceFillIdentity : String
  quantity : String
  price : String
  unit : QuantityUnit
  occurredAt : String
  deriving DecidableEq

structure Catalog where
  plans : RevisionId → Option Plan
  payloadHash : Plan → AuthorizationId → AuthorizationIssuance → Except Error String
  entryClientOrderId : AccountId → RevisionId → String → String
  canonicalSha256 : FillPreimage → String
  /-- `execution_reward_risk`: the message and the reason of a refusal. -/
  rewardRiskRefusal : Plan → Option (String × String)

/-- The risk settings of a user, with the calendar of their timezone. -/
structure RiskSettings where
  tradingDay : Instant → Day
  maxTradesPerDay : Int
  defaultAccountBalance : ℚ
  dailyLossLimit : Option ℚ

structure Ctx where
  now : Instant
  globalKillSwitchActive : Bool
  riskSettings : OrganizationId → UserId → RiskSettings
  /-- `require_registered_experiment_dispatch`. -/
  experimentDispatch : CommandId → Except Error Unit
  /-- `verified_entry_notional`, read from the audit log for manual demo plans. -/
  verifiedEntryNotional : CommandId → Except Error ℚ

/-- Why a row moved. A release remembers whether its command had no fill. -/
inductive PostingKind where
  | charge
  | fill
  | release (unfilled : Bool)
  deriving DecidableEq, Repr

structure Posting where
  account : AccountKey
  command : CommandId
  kind : PostingKind
  instrument : String
  intended : Delta
  applied : Delta
  deriving DecidableEq

structure Db where
  kill : OrganizationId → KillSwitch
  epochs : AccountKey → Option SafetyEpoch
  accounting : AccountKey → Option Accounting
  authorizations : AuthorizationId → Option Authorization
  bindings : OrganizationId × String → Option Binding
  planClaims : PlanClaimKey → Option CommandId
  commands : Table CommandId Command
  journal : List Posting

def Db.empty : Db where
  kill _ := ⟨false, 1⟩
  epochs _ := none
  accounting _ := none
  authorizations _ := none
  bindings _ := none
  planClaims _ := none
  commands := .empty
  journal := []

namespace Db

def putCommand (db : Db) (c : CommandId) (k : Command) : Db :=
  { db with commands := db.commands.put c k }

def putRow (db : Db) (key : AccountKey) (row : Accounting) : Db :=
  { db with accounting := Function.update db.accounting key (some row) }

def settle (db : Db) (c : CommandId) (k : Command) (kind : PostingKind) (instrument : String)
    (intended : Delta) (old new : Accounting) : Db :=
  { db with
    commands := db.commands.put c k
    accounting := Function.update db.accounting k.accountKey (some new)
    journal := db.journal ++
      [⟨k.accountKey, c, kind, instrument, intended, .between instrument old new⟩] }

def requireCommand (db : Db) (c : CommandId) : Except Error Command :=
  match db.commands.find c with
  | some k => .ok k
  | none => .error (.notFound "Execution command not found")

def reservationId (db : Db) (c : CommandId) : Nat :=
  ((db.commands.find c).bind (·.reservation)).elim 0 (·.id)

def organizationKillActive (db : Db) (ctx : Ctx) (organization : OrganizationId) : Bool :=
  ctx.globalKillSwitchActive || (db.kill organization).active

end Db

def Command.requireEffect (k : Command) : Except Error Effect :=
  match k.effect with
  | some e => .ok e
  | none => .error (.notFound "Venue submit effect not found")

end AlphaTrade.Execution
