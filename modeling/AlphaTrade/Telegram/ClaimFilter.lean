import AlphaTrade.Library.SqlTruth
import AlphaTrade.Telegram.Delivery

/-!
# The claim filter of the database

The store in memory computes the delay of a row from its attempt. The database is given a case for
each attempt that has a delay of its own, one for the attempts after them, and one for a rate limit.
-/
namespace AlphaTrade.Telegram
open Library
open Execution (Instant)

theorem OutboxState.value_inj {s t : OutboxState} : s.value = t.value ↔ s = t := by
  cases s <;> cases t <;> simp [value]

/-! ## In memory -/

/-- `_is_claimable`, with a backoff or without. -/
def isClaimable (row : OutboxRecord) (now : Instant) (retryBackoff : Option DeliveryBackoff) :
    Bool :=
  match row.state with
  | .pending => true
  | .retryable =>
    match retryBackoff with
    | none => true
    | some backoff => row.updatedAt + backoff.retryDelay row.attempt row.lastError ≤ now
  | .claimed => row.leaseUntil.all (· ≤ now)
  | _ => false

/-! ## In the database -/

/-- `TelegramOutboxRow.state == state`. -/
def stateIs (row : OutboxRecord) (state : OutboxState) : SqlTruth :=
  .compare (· = state.value) (some row.state.value)

/-- `TelegramOutboxRow.updated_at <= time`. -/
def updatedBy (row : OutboxRecord) (time : Instant) : SqlTruth :=
  .compare (· ≤ time) (some row.updatedAt)

/-- A comparison of `TelegramOutboxRow.attempt`. -/
def attemptIs (row : OutboxRecord) (p : Int → Bool) : SqlTruth :=
  .compare p (some (row.attempt : Int))

def notRateLimited (row : OutboxRecord) : SqlTruth :=
  (SqlTruth.isNull row.lastError).or (.compare (· ≠ rateLimitedError) row.lastError)

/-- `_retryable_ready`. -/
def retryableReady (row : OutboxRecord) (now : Instant) (backoff : DeliveryBackoff) : SqlTruth :=
  let delays := if backoff.delays = [] then [0] else backoff.delays
  let rateLimited := SqlTruth.compare (· = rateLimitedError) row.lastError
  let ready := [
    rateLimited.and (updatedBy row (now - backoff.rateLimitDelay)),
    ((attemptIs row (· ≤ 0)).and (notRateLimited row)).and (updatedBy row now)]
  let cases := (delays.zipIdx 1).map fun (delay, attempt) =>
    ((attemptIs row (· = (attempt : Int))).and (notRateLimited row)).and
      (updatedBy row (now - delay))
  let rest := ((attemptIs row ((delays.length : Int) < ·)).and (notRateLimited row)).and
    (updatedBy row (now - delays.getLastD 0))
  (stateIs row .retryable).and (.orAll (ready ++ cases ++ [rest]))

/-- `_outbox_claimable`. -/
def outboxClaimable (row : OutboxRecord) (now : Instant) :
    Option DeliveryBackoff → SqlTruth :=
  let expiredClaim := (stateIs row .claimed).and
    ((SqlTruth.isNull row.leaseUntil).or (.compare (· ≤ now) row.leaseUntil))
  fun
  | none => ((stateIs row .pending).or (stateIs row .retryable)).or expiredClaim
  | some backoff => .orAll [stateIs row .pending, retryableReady row now backoff, expiredClaim]

section
variable {row : OutboxRecord} {now : Instant}

@[simp] theorem holds_stateIs {state : OutboxState} :
    (stateIs row state).Holds ↔ row.state = state := by
  simp [stateIs, OutboxState.value_inj]

@[simp] theorem holds_updatedBy {time : Instant} :
    (updatedBy row time).Holds ↔ row.updatedAt ≤ time := by
  simp [updatedBy]

@[simp] theorem holds_attemptIs {p : Int → Bool} :
    (attemptIs row p).Holds ↔ p row.attempt = true := by
  simp [attemptIs]

@[simp] theorem holds_notRateLimited :
    (notRateLimited row).Holds ↔ row.lastError ≠ some rateLimitedError := by
  cases error : row.lastError <;> simp [notRateLimited, error]

variable {delays : List Int}

/-- The delays that the cases are written from. -/
theorem delayFor_eq (backoff : DeliveryBackoff) {attempt : Nat} (failed : 0 < attempt)
    (isDelays : delays = if backoff.delays = [] then [0] else backoff.delays) :
    backoff.delayFor attempt = delays.getD (min attempt delays.length - 1) 0 := by
  subst isDelays
  unfold DeliveryBackoff.delayFor
  rw [if_neg (by omega)]
  split_ifs with empty
  · simp [empty, Nat.min_eq_right failed]
  · rfl

/-- The cases of the attempts are one for the attempt that a row has. -/
theorem attempt_cases (some : delays ≠ []) (attempt : Nat) (within : Int → Prop) :
    (attempt = 0 ∧ within 0 ∨
        (∃ delay n, (delay, n) ∈ delays.zipIdx 1 ∧ (attempt : Int) = n ∧ within delay) ∨
        delays.length < attempt ∧ within (delays.getLastD 0)) ↔
      within (if attempt = 0 then 0 else delays.getD (min attempt delays.length - 1) 0) := by
  have positive := List.length_pos_iff.mpr some
  rcases Nat.eq_zero_or_pos attempt with rfl | failed
  · simp only [true_and, if_true, Nat.not_lt_zero, false_and, or_false]
    refine or_iff_left ?_
    rintro ⟨delay, n, listed, same, -⟩
    have := (List.mem_zipIdx_iff_le_and_getElem?_sub.mp listed).1
    omega
  rw [if_neg failed.ne']
  rcases Nat.lt_or_ge delays.length attempt with past | listed
  · have last : delays.getLastD 0 = delays.getD (min attempt delays.length - 1) 0 := by
      rw [Nat.min_eq_right past.le, List.getLastD_eq_getLast?, List.getLast?_eq_getElem?,
        List.getD_eq_getElem?_getD]
    rw [last]
    constructor
    · rintro (⟨zero, -⟩ | ⟨delay, n, listed, same, -⟩ | ⟨-, holds⟩)
      · omega
      · have ⟨_, found⟩ := List.mem_zipIdx_iff_le_and_getElem?_sub.mp listed
        have := (List.getElem?_eq_some_iff.mp found).1
        omega
      · exact holds
    · exact fun holds => .inr (.inr ⟨past, holds⟩)
  · obtain ⟨delay, found⟩ : ∃ delay, delays[attempt - 1]? = Option.some delay :=
      ⟨_, List.getElem?_eq_getElem (by omega)⟩
    rw [Nat.min_eq_left listed, List.getD_eq_getElem?_getD, found, Option.getD_some]
    constructor
    · rintro (⟨zero, -⟩ | ⟨other, n, isCase, same, holds⟩ | ⟨past, -⟩)
      · omega
      · have ⟨_, there⟩ := List.mem_zipIdx_iff_le_and_getElem?_sub.mp isCase
        obtain rfl : attempt = n := by omega
        rwa [Option.some.inj (found.symm.trans there)]
      · omega
    · exact fun holds => .inr (.inl ⟨delay, attempt,
        List.mem_zipIdx_iff_le_and_getElem?_sub.mpr ⟨failed, found⟩, rfl, holds⟩)

theorem holds_retryableReady {backoff : DeliveryBackoff} :
    (retryableReady row now backoff).Holds ↔ row.state = .retryable ∧
      row.updatedAt + backoff.retryDelay row.attempt row.lastError ≤ now := by
  set delays := if backoff.delays = [] then [0] else backoff.delays with isDelays
  have some : delays ≠ [] := by
    rw [isDelays]
    split_ifs with empty
    · simp
    · exact empty
  have delay : backoff.delayFor row.attempt =
      if row.attempt = 0 then 0 else delays.getD (min row.attempt delays.length - 1) 0 := by
    split_ifs with zero
    · simp [DeliveryBackoff.delayFor, zero]
    · exact delayFor_eq backoff (Nat.pos_of_ne_zero zero) isDelays
  have cases := attempt_cases some row.attempt fun delay => row.updatedAt ≤ now - delay
  rw [← delay] at cases
  unfold retryableReady DeliveryBackoff.retryDelay
  simp only [← isDelays, SqlTruth.holds_and, holds_stateIs]
  refine and_congr_right fun _ => ?_
  by_cases limited : row.lastError = Option.some rateLimitedError
  · simp [limited, holds_notRateLimited, le_sub_iff_add_le]
  · rw [if_neg limited, ← le_sub_iff_add_le, ← cases]
    simp [limited]

/-- The database selects the rows that the memory would claim. -/
theorem claim_filters_agree (row : OutboxRecord) (now : Instant)
    (retryBackoff : Option DeliveryBackoff) :
    (outboxClaimable row now retryBackoff).Holds ↔ isClaimable row now retryBackoff = true := by
  have expired : (SqlTruth.isNull row.leaseUntil).Holds ∨
      (SqlTruth.compare (· ≤ now) row.leaseUntil).Holds ↔ row.leaseUntil.all (· ≤ now) = true := by
    cases row.leaseUntil <;> simp
  cases retryBackoff with
  | none =>
    simp only [outboxClaimable, SqlTruth.holds_or, SqlTruth.holds_and, holds_stateIs, expired]
    unfold isClaimable
    cases row.state <;> simp
  | some backoff =>
    simp only [outboxClaimable, SqlTruth.holds_orAll_cons, SqlTruth.not_holds_orAll_nil,
      SqlTruth.holds_or, SqlTruth.holds_and, holds_stateIs, holds_retryableReady, expired]
    unfold isClaimable
    cases row.state <;> simp

end

end AlphaTrade.Telegram
