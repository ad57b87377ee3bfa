import Mathlib.Logic.Relation
import AlphaTrade.Execution.System

/-!
# What a step can do to a command

`Move` lists every change the system makes to a command that exists: the marks of the
dispatcher, the release of an orphan by the day roll, the release of an unused
remainder, and a fill. An invariant of commands is proved once per constructor.

A `Gate` says which commands may be blocked and authorized, which releases may happen, which
commands the dispatcher may be about, and whether the kill switch, claims and fills may be at
work. With `Gate.any` the moves are those of every run; a stronger gate describes runs, or a
step, in which only such things happen.
-/
namespace AlphaTrade.Execution
open Library

/-- What a release of an unused remainder meets: its clock and settings, whose reservation
it is, and the ledger row as it stands before the lock. -/
structure Releasing where
  ctx : Ctx
  account : AccountKey
  user : UserId
  row : Option Accounting
  reservation : Option Reservation

def Db.releasing (db : Db) (ctx : Ctx) (k : Command) : Releasing where
  ctx := ctx
  account := k.accountKey
  user := k.userId
  row := db.accounting k.accountKey
  reservation := k.reservation

/-- What may happen: the commands that are blocked before dispatch, those whose dispatch is
authorized, the releases of unused remainders, the commands that are marked or released at
all, a change of the kill switch, a claim, and a fill. -/
structure Gate where
  block : Command → Prop
  authorize : Command → Prop
  release : Releasing → Prop
  about : CommandId → Prop
  kill : Prop
  claim : Prop
  fill : Prop

def Gate.any : Gate where
  block _ := True
  authorize _ := True
  release _ := True
  about _ := True
  kill := True
  claim := True
  fill := True

def Gate.blocking (p : Command → Prop) : Gate := { Gate.any with block := p }

def Gate.releasing (p : Releasing → Prop) : Gate := { Gate.any with release := p }

namespace Effect

variable {now : Instant} {owner : String}

/-- What a granted lease is: the same effect, or a new lease with the next token. -/
theorem lease_cases {e e' : Effect} {seconds : Int} (h : e.lease now owner seconds = .ok e') :
    e' = e ∨ (e.state = .created ∨ e.state = .leased) ∧
      e' = { e with
        state := .leased
        leaseOwner := some owner
        leaseExpiresAt := some (now + seconds * 1000000)
        fencingToken := e.fencingToken + 1 } := by
  unfold lease at h
  dsimp only at h
  split at h
  · exact .inl (Except.ok.inj h).symm
  split at h
  · exact .inl (Except.ok.inj h).symm
  split at h
  · exact .inl (Except.ok.inj h).symm
  split at h
  · cases h
  split at h
  · cases h
  rename_i leaseable
  refine .inr ⟨?_, (Except.ok.inj h).symm⟩
  tauto

/-- What a granted authorization is: a live lease with the caller's token, now stamped. -/
theorem authorize_cases {e e' : Effect} {epoch : Nat} {token : Int}
    (h : e.authorize now epoch owner token = .ok e') :
    e.state = .leased ∧ e.leaseOwner = some owner ∧ e.fencingToken = token ∧
      e' = { e with
        state := .dispatchAuthorized
        dispatchAuthorizedAt := some now
        dispatchSafetyEpoch := some epoch
        dispatchFencingToken := some token
        attempt := e.attempt + 1
        dispatchAttempt := some (e.attempt + 1) } := by
  unfold authorize at h
  split at h
  · cases h
  rename_i held
  push Not at held
  split at h
  · cases h
  obtain rfl := Except.ok.inj h
  exact ⟨held.1, held.2.1, held.2.2, rfl⟩

end Effect

namespace Command

variable (gate : Gate)

/-- The changes that leave the reservation and the fills alone. -/
inductive Mark : Command → Command → Prop
  | lease {k : Command} {e e' : Effect} {now : Instant} {owner : String} {seconds : Int}
      (effect : k.effect = some e) (leased : e.lease now owner seconds = .ok e') :
      Mark k (k.setEffect e')
  | authorize {k : Command} {e e' : Effect} {now : Instant} {epoch : Nat} {owner : String}
      {token : Int} (effect : k.effect = some e)
      (authorized : e.authorize now epoch owner token = .ok e') (allowed : gate.authorize k) :
      Mark k (k.setEffect e')
  | fence {k : Command} {e : Effect} (effect : k.effect = some e) (unsent : e.neverDispatched)
      (ended : k.projection.state = .blockedBeforeDispatch) :
      Mark k (k.setEffect { e with fencingToken := e.fencingToken + 1 })
  | block {k : Command} {e : Effect} {token : Int} {now : Instant} (effect : k.effect = some e)
      (fenced : e.fencingToken ≤ token) (unauthorized : e.state ≠ .dispatchAuthorized)
      (open_ : k.projection.state ≠ .blockedBeforeDispatch) (allowed : gate.block k) :
      Mark k (k.block { e with fencingToken := token } now)
  | ambiguous {k : Command} {e : Effect} {epoch : Nat} {now : Instant}
      (effect : k.effect = some e) : Mark k (k.markAmbiguous e epoch now)
  | acknowledge {k : Command} {e : Effect} {source : VenueSource} {now : Instant}
      (effect : k.effect = some e) : Mark k (k.markAcknowledged e source now)
  | reject {k : Command} {e : Effect} {source : VenueSource} {now : Instant}
      (effect : k.effect = some e) : Mark k (k.markRejected e source now)
  | cancel {k : Command} {e : Effect} {now : Instant} (effect : k.effect = some e) :
      Mark k (k.cancel e now)

variable {k : Command}

theorem Mark.reservation_eq {gate : Gate} {k' : Command} (h : Mark gate k k') :
    k'.reservation = k.reservation := by
  cases h <;> rfl

theorem Mark.fills_eq {gate : Gate} {k' : Command} (h : Mark gate k k') : k'.fills = k.fills := by
  cases h <;> rfl

/-- The terms a command is created with and keeps. -/
structure SameTerms (k k' : Command) : Prop where
  organizationId : k'.organizationId = k.organizationId
  userId : k'.userId = k.userId
  accountId : k'.accountId = k.accountId
  revisionId : k'.revisionId = k.revisionId
  authorizationId : k'.authorizationId = k.authorizationId
  outcome : k'.outcome = k.outcome
  receiptId : k'.receiptId = k.receiptId
  reservation : k'.reservation.isSome = k.reservation.isSome
  effect : k'.effect.isSome = k.effect.isSome

theorem SameTerms.refl (k : Command) : SameTerms k k := by constructor <;> rfl

theorem SameTerms.trans {k' k'' : Command} (h : SameTerms k k') (h' : SameTerms k' k'') :
    SameTerms k k'' := by
  constructor
  · exact h'.organizationId.trans h.organizationId
  · exact h'.userId.trans h.userId
  · exact h'.accountId.trans h.accountId
  · exact h'.revisionId.trans h.revisionId
  · exact h'.authorizationId.trans h.authorizationId
  · exact h'.outcome.trans h.outcome
  · exact h'.receiptId.trans h.receiptId
  · exact h'.reservation.trans h.reservation
  · exact h'.effect.trans h.effect

theorem SameTerms.accountKey {k' : Command} (h : SameTerms k k') :
    k'.accountKey = k.accountKey := by
  simp [Command.accountKey, h.organizationId, h.accountId]

/-- The day roll at `now` releases the reservation of `k`, an orphan. -/
structure Rolls (cat : Catalog) (now : Instant) (k k' : Command) : Prop where
  orphan : ∃ r cause, k.reservation = some r ∧ r.releaseState ≠ .released ∧
    orphanCause cat now k r = some cause ∧ k' = k.setReservation (r.release cause.releaseReason)

def ReleaseFits (k : Command) (reason : ReleaseReason) : Prop :=
  reason = .unusedRemainderAfterProvenUnsent → ∃ e, k.effect = some e ∧ e.state = .provenUnsent

theorem releaseFits_of_ne {reason : ReleaseReason}
    (h : reason ≠ .unusedRemainderAfterProvenUnsent) :
    k.ReleaseFits reason :=
  fun eq => absurd eq h

/-- One accepted fill: the fact is new, positive and covered by what remains. -/
structure Fills (k k' : Command) (fact : FillFact) : Prop where
  fresh : ∀ f ∈ k.fills, f.sourceFillIdentity ≠ fact.sourceFillIdentity
  quantity_pos : 0 < fact.quantity
  price_pos : 0 < fact.price
  covered : fact.quantity ≤ k.projection.remainingQuantity
  written : ∃ r notional weighted now, k.reservation = some r ∧
    fillQuoteExposure r fact.quantity fact.price = .ok notional ∧
    cumulativeWeightedPrice k.projection.filledQuantity k.projection.weightedPrice
      fact.quantity fact.price = .ok weighted ∧
    k' = ((k.addFill fact).recordFill fact weighted now).setReservation (r.convert notional)

/-- Every change of a command that exists. -/
inductive Move (cat : Catalog) : Command → Command → Prop
  | mark {k k' : Command} (h : Mark gate k k') : Move cat k k'
  | roll {k k' : Command} {now : Instant} (h : Rolls cat now k k') : Move cat k k'
  | release {k : Command} {r : Reservation} {reason : ReleaseReason}
      (reservation : k.reservation = some r) (fits : k.ReleaseFits reason) :
      Move cat k (k.setReservation (r.release reason))
  | fill {k k' : Command} {fact : FillFact} (h : Fills k k' fact) : Move cat k k'

variable {gate} {cat : Catalog}

theorem Mark.sameTerms {k' : Command} (h : Mark gate k k') : SameTerms k k' := by
  cases h <;> constructor <;> first
    | rfl
    | simp_all [Command.block, markAmbiguous, markAcknowledged, markRejected]

theorem Move.sameTerms {k' : Command} (h : Move gate cat k k') : SameTerms k k' := by
  cases h with
  | mark h => exact h.sameTerms
  | roll h =>
    obtain ⟨r, cause, hr, -, -, rfl⟩ := h.orphan
    constructor <;> simp [hr]
  | release hr _ => constructor <;> simp [hr]
  | fill h =>
    obtain ⟨r, notional, weighted, now, hr, -, -, rfl⟩ := h.written
    constructor <;> simp [hr, recordFill]

/-- Any number of moves. -/
abbrev Moves (gate : Gate) (cat : Catalog) : Command → Command → Prop :=
  Relation.ReflTransGen (Move gate cat)

theorem Moves.sameTerms {k' : Command} (h : Moves gate cat k k') : SameTerms k k' := by
  induction h with
  | refl => exact .refl _
  | tail _ h ih => exact ih.trans h.sameTerms

/-- An invariant kept by every move is kept by any number of them. -/
theorem Moves.invariant {I : Command → Prop} (keep : ∀ k k', I k → Move gate cat k k' → I k')
    {k' : Command} (hk : I k) (h : Moves gate cat k k') : I k' := by
  induction h with
  | refl => exact hk
  | tail _ h ih => exact keep _ _ ih h

end Command

end AlphaTrade.Execution
