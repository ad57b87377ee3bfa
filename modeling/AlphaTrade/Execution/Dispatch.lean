import Mathlib
import AlphaTrade.Execution.Steps

/-!
# Dispatch in the books

Once a dispatch is authorized the books should never say that nothing was sent. The
guard of the pre-dispatch block tests one state, `DISPATCH_AUTHORIZED`, so a lease or an
authorization that meets a safety block after the send was marked gets past it. Where
every blocked command is one whose dispatch was never authorized, the books do keep it.
-/
namespace AlphaTrade.Execution
open Library

namespace Command

def undispatched (k : Command) : Bool := k.effect.all (·.dispatchAuthorizedAt.isNone)

/-- An authorized dispatch is not taken back: not in the effect, not in the receipt, and
not in the reason of a release. -/
def DispatchKept (k : Command) : Prop :=
  ∀ e, k.effect = some e → e.dispatchAuthorizedAt ≠ none →
    e.state ≠ .provenUnsent ∧ k.projection.state ≠ .blockedBeforeDispatch ∧
      ∀ r, k.reservation = some r → r.releaseReason ≠ some .unusedRemainderAfterProvenUnsent

/-- Nothing in the books calls the command unsent. -/
structure NotUnsent (k : Command) : Prop where
  receipt : k.projection.state ≠ .blockedBeforeDispatch
  release : ∀ r, k.reservation = some r →
    r.releaseReason ≠ some .unusedRemainderAfterProvenUnsent

/-- The inductive form: before the send the effect carries no authorization, and before
the send as after an authorization nothing calls the command unsent. -/
structure DispatchInv (k : Command) : Prop where
  fresh : ∀ e, k.effect = some e → e.state = .created ∨ e.state = .leased →
    e.dispatchAuthorizedAt = none ∧ k.NotUnsent
  kept : ∀ e, k.effect = some e → e.dispatchAuthorizedAt ≠ none →
    e.state ≠ .provenUnsent ∧ k.NotUnsent

variable {k : Command}

theorem DispatchInv.dispatchKept (h : DispatchInv k) : k.DispatchKept := by
  intro e effect authorized
  obtain ⟨state, books⟩ := h.kept e effect authorized
  exact ⟨state, books.receipt, books.release⟩

/-- A change of the effect that keeps the receipt and the reservation. -/
theorem DispatchInv.setEffect {e e' : Effect} (h : DispatchInv k) (effect : k.effect = some e)
    (fresh : e'.state = .created ∨ e'.state = .leased → e'.dispatchAuthorizedAt = none)
    (before : e'.state = .created ∨ e'.state = .leased ∨ e'.dispatchAuthorizedAt ≠ none → e.state =
      .created ∨ e.state = .leased ∨ e.dispatchAuthorizedAt ≠ none)
    (sent : e'.dispatchAuthorizedAt ≠ none → e'.state ≠ .provenUnsent) :
    DispatchInv (k.setEffect e') := by
  have books : e'.state = .created ∨ e'.state = .leased ∨ e'.dispatchAuthorizedAt ≠ none →
      (k.setEffect e').NotUnsent := by
    intro now
    have old : k.NotUnsent := by
      rcases before now with created | leased | authorized
      · exact (h.fresh e effect (.inl created)).2
      · exact (h.fresh e effect (.inr leased)).2
      · exact (h.kept e effect authorized).2
    exact ⟨old.receipt, old.release⟩
  constructor
  · intro e₀ effect₀ state
    obtain rfl : e' = e₀ := by simpa using effect₀
    exact ⟨fresh state, books (by tauto)⟩
  · intro e₀ effect₀ authorized
    obtain rfl : e' = e₀ := by simpa using effect₀
    exact ⟨sent authorized, books (by tauto)⟩

/-- A recorded transition that does not block keeps the invariant. -/
theorem DispatchInv.record (h : DispatchInv k) {d : TransitionDraft} {u : ProjectionUpdate}
    (state : d.newState ≠ .blockedBeforeDispatch) : DispatchInv (k.record d u) := by
  have books : k.NotUnsent → (k.record d u).NotUnsent := fun old => ⟨state, old.release⟩
  constructor
  · intro e effect fresh
    obtain ⟨none_, old⟩ := h.fresh e effect fresh
    exact ⟨none_, books old⟩
  · intro e effect authorized
    obtain ⟨sent, old⟩ := h.kept e effect authorized
    exact ⟨sent, books old⟩

/-- A change of the reservation whose reason may call the command unsent only where the
effect does. -/
theorem DispatchInv.setReservation {r : Reservation} (h : DispatchInv k)
    (reason : r.releaseReason = some .unusedRemainderAfterProvenUnsent → (∃ e, k.effect = some e ∧
      e.state = .provenUnsent) ∨ ∃ r₀, k.reservation = some r₀ ∧ r₀.releaseReason =
      some .unusedRemainderAfterProvenUnsent) :
    DispatchInv (k.setReservation r) := by
  have books : ∀ e, k.effect = some e → e.state ≠ .provenUnsent → k.NotUnsent →
      (k.setReservation r).NotUnsent := by
    intro e effect sent old
    refine ⟨old.receipt, fun r' eq unsent => ?_⟩
    obtain rfl : r = r' := by simpa using eq
    obtain ⟨e', effect', state⟩ | ⟨r₀, reservation, released⟩ := reason unsent
    · obtain rfl : e = e' := Option.some.inj (effect.symm.trans effect')
      exact sent state
    · exact old.release r₀ reservation released
  constructor
  · intro e effect fresh
    obtain ⟨none_, old⟩ := h.fresh e effect fresh
    refine ⟨none_, books e effect ?_ old⟩
    rintro unsent
    simp [unsent] at fresh
  · intro e effect authorized
    obtain ⟨sent, old⟩ := h.kept e effect authorized
    exact ⟨sent, books e effect sent old⟩

end Command

namespace Command

variable {k : Command} {cat : Catalog}

theorem DispatchInv.of_mark {k' : Command} (h : DispatchInv k)
    (m : Mark (.blocking fun k => k.undispatched = true) k k') : DispatchInv k' := by
  cases m with
  | @lease e e' _ _ _ effect leased =>
    obtain rfl | ⟨state, rfl⟩ := Effect.lease_cases leased
    · rw [setEffect_self effect]
      exact h
    · have none_ := (h.fresh e effect state).1
      exact h.setEffect effect (fun _ => none_) (by tauto) (fun some_ => absurd none_ some_)
  | @authorize e e' _ _ _ _ effect authorized _ =>
    obtain ⟨state, -, -, rfl⟩ := Effect.authorize_cases authorized
    exact h.setEffect effect (by simp) (by tauto) (by simp)
  | @fence e effect unsent ended =>
    have none_ : e.dispatchAuthorizedAt = none := by
      simp only [Effect.neverDispatched, Bool.and_eq_true, Option.isNone_iff_eq_none] at unsent
      exact unsent.1.2
    exact h.setEffect effect (fun _ => none_) (by tauto) (fun some_ => absurd none_ some_)
  | @block e token now effect _ _ _ allowed =>
    have none_ : e.dispatchAuthorizedAt = none := by
      simpa [Gate.blocking, undispatched, effect] using allowed
    constructor
    · intro e₀ effect₀ state
      obtain rfl := Option.some.inj effect₀
      simp at state
    · intro e₀ effect₀ authorized
      obtain rfl := Option.some.inj effect₀
      exact absurd none_ authorized
  | @ambiguous e epoch now effect =>
    exact (h.record (by simp)).setEffect (e := e) effect (by simp) (by simp +contextual) (by simp)
  | @acknowledge e source now effect =>
    exact (h.record (by simp)).setEffect (e := e) effect (by simp) (by simp +contextual) (by simp)
  | @reject e source now effect =>
    exact (h.record (by simp)).setEffect (e := e) effect (by simp) (by simp +contextual) (by simp)
  | @cancel e now effect =>
    refine h.record ?_
    dsimp only
    split <;> simp

theorem terminalCause_provenUnsent (h : k.terminalCause = some .provenUnsent) :
    ∃ e, k.effect = some e ∧ e.state = .provenUnsent := by
  unfold terminalCause at h
  repeat' split at h
  all_goals simp_all

/-- The roll calls a reservation unsent only where the effect is. -/
theorem Rolls.provenUnsent {now : Instant} {r : Reservation} {cause : OrphanCause}
    (orphan : orphanCause cat now k r = some cause)
    (reason : cause.releaseReason = .unusedRemainderAfterProvenUnsent) :
    ∃ e, k.effect = some e ∧ e.state = .provenUnsent := by
  have unsent : cause = .provenUnsent := by
    cases cause with
    | terminalReceipt state => cases state <;> simp [OrphanCause.releaseReason] at reason
    | provenUnsent => rfl
    | _ => simp [OrphanCause.releaseReason] at reason
  subst unsent
  unfold orphanCause at orphan
  split at orphan
  · cases orphan
  split at orphan
  · rename_i terminal
    exact terminalCause_provenUnsent (terminal.trans orphan)
  · split at orphan
    · cases orphan
    · split at orphan <;> cases orphan

theorem DispatchInv.of_move {k' : Command} (h : DispatchInv k)
    (m : Move (.blocking fun k => k.undispatched = true) cat k k') : DispatchInv k' := by
  cases m with
  | mark m => exact h.of_mark m
  | roll rolls =>
    obtain ⟨r, cause, reservation, _, orphan, rfl⟩ := rolls.orphan
    refine h.setReservation fun reason => .inl ?_
    exact Rolls.provenUnsent orphan (by simpa [Reservation.release] using reason)
  | release reservation fits =>
    refine h.setReservation fun reason => .inl (fits ?_)
    simpa [Reservation.release] using reason
  | @fill _ fact fills =>
    obtain ⟨r, notional, weighted, now, reservation, -, -, rfl⟩ := fills.written
    have stored : DispatchInv (k.addFill fact) := by
      constructor
      · intro e effect fresh
        obtain ⟨none_, old⟩ := h.fresh e effect fresh
        exact ⟨none_, old.receipt, old.release⟩
      · intro e effect authorized
        obtain ⟨sent, old⟩ := h.kept e effect authorized
        exact ⟨sent, old.receipt, old.release⟩
    have recorded : DispatchInv ((k.addFill fact).recordFill fact weighted now) := by
      refine stored.record ?_
      dsimp only
      split <;> simp
    refine recorded.setReservation fun reason => .inr ⟨r, reservation, ?_⟩
    simp only [Reservation.convert] at reason
    split at reason
    · exact reason
    · simp at reason

theorem Created.dispatchInv {c : CommandId} (h : Created cat c k) : DispatchInv k := by
  cases h with
  | blocked _ _ =>
    constructor <;> intro e effect <;> simp [PendingClaim.blockedCommand] at effect
  | @allowed p env epoch intent _ _ _ _ =>
    have books : (p.allowedCommand cat env epoch intent).NotUnsent := by
      constructor
      · simp [PendingClaim.allowedCommand, PendingClaim.projection]
      · intro r reservation
        obtain rfl := Option.some.inj reservation
        simp [PendingClaim.newReservation]
    constructor
    · intro e effect _
      obtain rfl := Option.some.inj effect
      exact ⟨rfl, books⟩
    · intro e effect authorized
      obtain rfl := Option.some.inj effect
      exact absurd rfl authorized

end Command

/-- In every run in which each command that is blocked before dispatch is one whose dispatch
was never authorized, no command's authorized dispatch is taken back. -/
theorem dispatch_irrevocable (cat : Catalog) (ls : List Label)
    (side : Along (World.step cat) (World.BlocksOnly fun k => k.undispatched = true)
      World.init ls) (c : CommandId) (k : Command)
    (find : (reached cat ls).db.commands.find c = some k) : k.DispatchKept :=
  (reached_invariant (I := fun _ k => Command.DispatchInv k)
      (fun _ _ => Command.Created.dispatchInv)
    (fun _ _ _ => Command.DispatchInv.of_move) (Along.mono _ World.BlocksOnly.respects side)
    find).dispatchKept

/-- One command is sent and its answer lost, the switch is pulled, and a second command is
blocked before dispatch: the first keeps its dispatch. -/
def lostAnswerRun : List Label :=
  Sample.claim 0 1 ++ Sample.dispatch 0 1 ++ [.recoverAfterCrash (Sample.ctx 1) 1 "worker"] ++
    Sample.claim 2 2 ++ [Sample.kill 3, .leaseEffect (Sample.ctx 4) 2 "worker" 30]

theorem dispatch_irrevocable_lostAnswerRun :
    ((reached (Sample.catalog internalPaperVenue) lostAnswerRun).db.commands.find 1).any
        (fun k => !k.undispatched) = true ∧
      ∀ k, (reached (Sample.catalog internalPaperVenue) lostAnswerRun).db.commands.find 1 = some k →
        k.DispatchKept :=
  ⟨by decide_cbv, dispatch_irrevocable _ _ (by decide_cbv) 1⟩

def revokedRun : List Label :=
  Sample.claim 0 1 ++ Sample.dispatch 0 1 ++
    [.recoverAfterCrash (Sample.ctx 1) 1 "worker", Sample.kill 2,
      .leaseEffect (Sample.ctx 3) 1 "worker" 30]

def Command.books (k : Command) :
    Option (EffectState × Bool) × ReceiptState × Option (Option ReleaseReason) :=
  (k.effect.map fun e => (e.state, e.dispatchAuthorizedAt.isSome), k.projection.state,
    k.reservation.map (·.releaseReason))

/-- An authorized send whose answer was lost is called unsent by the next lease. -/
theorem dispatch_revoked :
    ((reached (Sample.catalog internalPaperVenue) revokedRun.dropLast).db.commands.find 1).map
        Command.books =
      some (some (.sendAmbiguous, true), .reconciliationRequired, some none) ∧
    ((reached (Sample.catalog internalPaperVenue) revokedRun).db.commands.find 1).map
        Command.books =
      some (some (.provenUnsent, true), .blockedBeforeDispatch,
        some (some .unusedRemainderAfterProvenUnsent)) := by
  decide_cbv

end AlphaTrade.Execution
