import AlphaTrade.Execution.Outcomes

/-!
# What a step can do to the database

Every committed step is a chain of five kinds of writes. This is proved once, here, by
going through the operations; invariants of the database are then proved per kind of
write, and invariants of commands per kind of move.
-/
namespace AlphaTrade.Execution
open Library

namespace Db

def safetyBlocked (db : Db) (ctx : Ctx) (k : Command) (e : Effect) : Bool :=
  db.safetyBlocksDispatch ctx k (db.lockEpoch ctx k.accountKey).2 e.safetyEpoch

end Db

/-- The plan and the payload of a pending claim are those its first half read. -/
structure PendingClaim.Valid (cat : Catalog) (p : PendingClaim) : Prop where
  plan : cat.scopedPlan p.request = some p.plan
  payload : cat.payloadHash p.plan p.request.authorizationId p.authorization.issuance =
    .ok p.payloadHash

variable {cat : Catalog} {p : PendingClaim}

/-- The plan behind a valid claim is the plan of its revision. -/
theorem PendingClaim.Valid.plan_eq (h : p.Valid cat) :
    cat.plans p.plan.revisionId = some p.plan := by
  have found := h.plan
  simp only [Catalog.scopedPlan, Option.filter_eq_some_iff, decide_eq_true_eq] at found
  rw [found.2.1]
  exact found.1

theorem PendingClaim.Valid.organization_eq (h : p.Valid cat) :
    p.plan.organizationId = p.request.organizationId := by
  have found := h.plan
  simp only [Catalog.scopedPlan, Option.filter_eq_some_iff, decide_eq_true_eq] at found
  exact found.2.2.1

/-! ## Writes -/

namespace Db

/-- One write of a committed step. -/
inductive Write (gate : Gate) (cat : Catalog) : Db → Db → Prop
  | outside {db db' : Db} (h : SameBooks db db') (kept : EpochsKept db db' ∨ gate.kill) :
      Write gate cat db db'
  | mark {db : Db} {c : CommandId} {k k' : Command} (find : db.commands.find c = some k)
      (h : Command.Mark gate k k') (about : gate.about c) : Write gate cat db (db.putCommand c k')
  | release {db db' : Db} {ctx : Ctx} {c : CommandId} {k : Command} {reason : ReleaseReason}
      (find : db.commands.find c = some k) (fits : k.ReleaseFits reason)
      (allowed : gate.release (db.releasing ctx k))
      (h : db.releaseUnusedReservation cat ctx c reason = .ok db') (about : gate.about c) :
      Write gate cat db db'
  | fill {db db' : Db} {ctx : Ctx} {c : CommandId} {request : FillRequest}
      {result : UniqueFillResult} (h : db.applyUniqueFill cat ctx c request = .ok (db', result))
      (allowed : gate.fill) : Write gate cat db db'
  | claim {db db' : Db} {ctx : Ctx} {p : PendingClaim} {refreshed : Bool} {env : ClaimEnv}
      {result : ClaimResult} (valid : p.Valid cat) (allowed : gate.claim)
      (h : db.finishClaim cat ctx p refreshed env = .ok (db', result)) : Write gate cat db db'

abbrev Writes (gate : Gate) (cat : Catalog) : Db → Db → Prop :=
  Relation.ReflTransGen (Write gate cat)

variable {gate : Gate} {cat : Catalog} {ctx : Ctx} {db db' : Db} {c : CommandId}

theorem lockEpoch_writes (key : AccountKey) :
    Writes gate cat db (db.lockEpoch ctx key).1 :=
  .single (.outside (db.lockEpoch_sameBooks ctx key) (.inl (db.lockEpoch_epochsKept ctx key)))

/-- A lock and then one mark. -/
theorem lockEpoch_mark_writes {key : AccountKey} {k k' : Command} (about : gate.about c)
    (find : db.commands.find c = some k) (h : Command.Mark gate k k') :
    Writes gate cat db ((db.lockEpoch ctx key).1.putCommand c k') :=
  (lockEpoch_writes key).tail (.mark (by simpa using find) h about)

@[simp] theorem releasing_lockEpoch (ctx' : Ctx) (key : AccountKey) (k : Command) :
    (db.lockEpoch ctx' key).1.releasing ctx k = db.releasing ctx k := by
  simp [releasing]

/-- A mark and then the release it calls for. -/
theorem mark_release_writes {k k' : Command} {reason : ReleaseReason} (about : gate.about c)
    (find : db.commands.find c = some k) (h : Command.Mark gate k k')
    (fits : k'.ReleaseFits reason) (allowed : gate.release (db.releasing ctx k))
    (released : (db.putCommand c k').releaseUnusedReservation cat ctx c reason = .ok db') :
    Writes gate cat db db' := by
  have same : (db.putCommand c k').releasing ctx k' = db.releasing ctx k := by
    simp [releasing, putCommand, h.sameTerms.accountKey, h.sameTerms.userId, h.reservation_eq]
  refine .tail (.single (.mark find h about))
    (.release (by simp [putCommand]) fits ?_ released about)
  rw [same]
  exact allowed

variable {token : Int} {owner : String} {source : VenueSource}

theorem blockBeforeDispatch_writes {k : Command} {e : Effect} {release : Bool}
    (about : gate.about c) (find : db.commands.find c = some k) (effect : k.effect = some e)
    (fenced : token = e.fencingToken ∨ (token = e.fencingToken + 1 ∧ e.neverDispatched))
    (side : e.state ≠ .dispatchAuthorized → k.projection.state ≠ .blockedBeforeDispatch →
      gate.block k ∧ (release = true → gate.release (db.releasing ctx k)))
    (h : db.blockBeforeDispatch cat ctx c k { e with fencingToken := token } release = .ok db') :
    Writes gate cat db db' := by
  unfold blockBeforeDispatch at h
  split at h
  · cases h
  rename_i unauthorized
  split at h
  · rename_i ended
    obtain rfl := Except.ok.inj h
    obtain rfl | ⟨rfl, unsent⟩ := fenced
    · have same : k.setEffect { e with fencingToken := e.fencingToken } = k :=
        Command.setEffect_self effect
      refine .single (.outside ⟨?_, rfl, rfl, rfl, rfl, fun _ _ _ => Iff.rfl⟩
        (.inl (.of_eq rfl rfl)))
      simp [same, putCommand, Table.put_self find]
    · exact .single (.mark find (.fence effect unsent ended) about)
  · rename_i open_
    have le : e.fencingToken ≤ token := by omega
    have block : Command.Mark gate k (k.block { e with fencingToken := token } ctx.now) :=
      .block effect le unauthorized open_ (side unauthorized open_).1
    dsimp only at h
    split at h
    · rename_i release
      refine mark_release_writes about find block ?_ ((side unauthorized open_).2 release) h
      exact fun _ => ⟨_, rfl, rfl⟩
    · obtain rfl := Except.ok.inj h
      exact .single (.mark find block about)

theorem leaseEffect_writes {seconds : Int} (about : gate.about c)
    (side : ∀ k e, db.commands.find c = some k → k.effect = some e → e.state ≠ .dispatchAuthorized →
      k.projection.state ≠ .blockedBeforeDispatch → db.safetyBlocked ctx k e = true → gate.block k ∧
      gate.release (db.releasing ctx k))
    (h : db.leaseEffect cat ctx c owner seconds = .ok db') : Writes gate cat db db' := by
  simp only [leaseEffect, bind_eq_ok, requireCommand_eq_ok, Command.requireEffect_eq_ok,
    safetyBlocksDispatch_lockEpoch] at h
  obtain ⟨k, find, _, -, e, effect, h⟩ := h
  split at h
  · rename_i blocked
    refine (lockEpoch_writes k.accountKey).trans
      (blockBeforeDispatch_writes about (by simpa using find) effect (.inl rfl) ?_ h)
    intro hs hp
    simpa using side k e find effect hs hp blocked
  · simp only [bind_eq_ok] at h
    obtain ⟨e', leased, h⟩ := h
    obtain rfl := Except.ok.inj h
    exact lockEpoch_mark_writes about find (.lease effect leased)

theorem authorizeDispatch_writes (about : gate.about c)
    (side : ∀ k e, db.commands.find c = some k → k.effect = some e → e.state ≠ .dispatchAuthorized →
      k.projection.state ≠ .blockedBeforeDispatch → db.safetyBlocked ctx k e = true → gate.block k ∧
      gate.release (db.releasing ctx k))
    (grant : ∀ k e, db.commands.find c = some k → k.effect = some e → e.state = .leased →
      db.safetyBlocked ctx k e = false → gate.authorize k)
    (h : db.authorizeDispatch cat ctx c owner token = .ok db') : Writes gate cat db db' := by
  simp only [authorizeDispatch, bind_eq_ok, requireCommand_eq_ok, Command.requireEffect_eq_ok,
    safetyBlocksDispatch_lockEpoch] at h
  obtain ⟨k, find, _, -, e, effect, h⟩ := h
  split at h
  · simp only [bind_eq_ok] at h
    obtain ⟨_, -, h⟩ := h
    obtain rfl := Except.ok.inj h
    exact lockEpoch_writes k.accountKey
  split at h
  · rename_i blocked
    refine (lockEpoch_writes k.accountKey).trans
      (blockBeforeDispatch_writes about (by simpa using find) effect (.inl rfl) ?_ h)
    intro hs hp
    simpa using side k e find effect hs hp blocked
  · rename_i unblocked
    simp only [bind_eq_ok] at h
    obtain ⟨e', authorized, h⟩ := h
    obtain rfl := Except.ok.inj h
    have granted := grant k e find effect (Effect.authorize_cases authorized).1
      (Bool.eq_false_of_not_eq_true unblocked)
    exact lockEpoch_mark_writes about find (.authorize effect authorized granted)

theorem markAmbiguous_writes (about : gate.about c) (h : db.markAmbiguous ctx c = .ok db') :
    Writes gate cat db db' := by
  simp only [markAmbiguous, bind_eq_ok, requireCommand_eq_ok, Command.requireEffect_eq_ok] at h
  obtain ⟨k, find, e, effect, h⟩ := h
  obtain rfl := Except.ok.inj h
  exact lockEpoch_mark_writes about find (.ambiguous effect)

theorem markAcknowledged_writes (about : gate.about c)
    (h : db.markAcknowledged ctx c source = .ok db') : Writes gate cat db db' := by
  simp only [markAcknowledged, bind_eq_ok, requireCommand_eq_ok,
    Command.requireEffect_eq_ok] at h
  obtain ⟨k, find, e, effect, h⟩ := h
  obtain rfl := Except.ok.inj h
  exact .single (.mark find (.acknowledge effect) about)

theorem markRejected_writes (about : gate.about c)
    (side : ∀ k, db.commands.find c = some k → gate.release (db.releasing ctx k))
    (h : db.markRejected cat ctx c source = .ok db') : Writes gate cat db db' := by
  simp only [markRejected, bind_eq_ok, requireCommand_eq_ok, Command.requireEffect_eq_ok] at h
  obtain ⟨k, find, e, effect, h⟩ := h
  exact mark_release_writes about find (.reject effect) (Command.releaseFits_of_ne (by decide))
    (side k find) h

theorem recordDemoOrder_writes {rejected : Bool} (about : gate.about c)
    (side : ∀ k, rejected = true → db.commands.find c = some k → gate.release (db.releasing ctx k))
    (h : db.recordDemoOrder cat ctx c rejected = .ok db') : Writes gate cat db db' := by
  unfold recordDemoOrder at h
  split at h
  · cases h
  split at h
  · rename_i refused
    split at h
    · obtain rfl := Except.ok.inj h
      exact .refl
    · exact markRejected_writes about (fun k => side k refused) h
  split at h
  · obtain rfl := Except.ok.inj h
    exact .refl
  · exact markAcknowledged_writes about h

theorem recordDemoTerminal_writes (about : gate.about c)
    (side : ∀ k, db.commands.find c = some k → gate.release (db.releasing ctx k))
    (h : db.recordDemoTerminal cat ctx c = .ok db') : Writes gate cat db db' := by
  simp only [recordDemoTerminal, bind_eq_ok, requireCommand_eq_ok,
    Command.requireEffect_eq_ok] at h
  obtain ⟨k, find, e, effect, h⟩ := h
  split at h
  · obtain rfl := Except.ok.inj h
    exact lockEpoch_writes k.accountKey
  · exact (lockEpoch_writes k.accountKey).trans
      (mark_release_writes about (by simpa using find) (.cancel effect)
        (Command.releaseFits_of_ne (by decide)) (by simpa using side k find) h)

theorem fenceProvenUnsent_writes (about : gate.about c)
    (side : ∀ k e, db.commands.find c = some k → k.effect = some e →
      k.projection.state ≠ .blockedBeforeDispatch → e.neverDispatched →
      e.state ≠ .provenUnsent → gate.block k)
    (h : db.fenceProvenUnsent cat ctx c = .ok db') : Writes gate cat db db' := by
  simp only [fenceProvenUnsent, bind_eq_ok, requireCommand_eq_ok, Command.requireEffect_eq_ok,
    ensure_eq_ok] at h
  obtain ⟨k, find, e, effect, _, unsent, h⟩ := h
  split at h
  · obtain rfl := Except.ok.inj h
    exact lockEpoch_writes k.accountKey
  · rename_i state
    refine (lockEpoch_writes k.accountKey).trans
      (blockBeforeDispatch_writes about (by simpa using find) effect (.inr ⟨rfl, unsent⟩) ?_ h)
    exact fun _ hp => ⟨side k e find effect hp unsent state, by simp⟩

theorem recoverAfterCrash_writes (about : gate.about c)
    (side : ∀ k e, db.commands.find c = some k → k.effect = some e →
      k.projection.state ≠ .blockedBeforeDispatch → (e.state = .created ∨ e.state = .leased) →
      db.safetyBlocked ctx k e = true → gate.block k ∧ gate.release (db.releasing ctx k))
    (grant : ∀ k e, db.commands.find c = some k → k.effect = some e → e.state = .leased →
      db.safetyBlocked ctx k e = false → gate.authorize k)
    (h : db.recoverAfterCrash cat ctx c owner = .ok db') : Writes gate cat db db' := by
  unfold recoverAfterCrash at h
  split at h
  · cases h
  rename_i e effect
  -- The state was read without a lock, of the same effect the operation then locks.
  have same : ∀ {k : Command} {e' : Effect}, db.commands.find c = some k → k.effect = some e' →
      e' = e := by
    intro k e' find effect'
    simpa [find, effect'] using effect
  split at h
  · rename_i state
    refine leaseEffect_writes about (fun k e' find effect' _ hp blocked => ?_) h
    exact side k e' find effect' hp (by simp [same find effect', state]) blocked
  · rename_i state
    refine authorizeDispatch_writes about (fun k e' find effect' _ hp blocked => ?_) grant h
    exact side k e' find effect' hp (by simp [same find effect', state]) blocked
  · exact markAmbiguous_writes about h
  · obtain rfl := Except.ok.inj h
    exact .refl

/-! ## Writes seen from one command -/

end Db

/-- A command as a claim files it. -/
inductive Command.Created (cat : Catalog) (c : CommandId) : Command → Prop
  | blocked {p : PendingClaim} {receipt : ReceiptId} {reason : String} {intent : ReservationIntent}
      (valid : p.Valid cat) (intent_eq : conservativeReservation p.plan = .ok intent) :
      Created cat c (p.blockedCommand receipt reason intent)
  | allowed {p : PendingClaim} {env : ClaimEnv} {epoch : Nat} {intent : ReservationIntent}
      (valid : p.Valid cat) (intent_eq : conservativeReservation p.plan = .ok intent)
      (account : p.plan.accountId = p.request.accountId) (id_eq : env.commandId = c) :
      Created cat c (p.allowedCommand cat env epoch intent)

theorem PendingClaim.account_eq_of_revalidate {authorization : Authorization} {env : ClaimEnv}
    (h : p.revalidateWithoutConsuming cat authorization env = none) :
    p.plan.accountId = p.request.accountId := by
  unfold revalidateWithoutConsuming at h
  repeat' split at h
  all_goals simp_all

namespace Db

variable {gate : Gate} {cat : Catalog} {ctx : Ctx} {db db' : Db} {c : CommandId}

/-- Commands are moved and filed, and never dropped. -/
structure CommandsMoved (gate : Gate) (cat : Catalog) (db db' : Db) : Prop where
  moved : ∀ c k, db.commands.find c = some k →
    ∃ k', db'.commands.find c = some k' ∧ Command.Moves gate cat k k'
  filed : ∀ c k', db.commands.find c = none → db'.commands.find c = some k' →
    ∃ k, Command.Created cat c k ∧ Command.Moves gate cat k k'

theorem CommandsMoved.of_commands_eq (h : db'.commands = db.commands) :
    CommandsMoved gate cat db db' where
  moved c k find := ⟨k, by simpa [h] using find, .refl⟩
  filed c k' absent find := by simp [h, absent] at find

theorem CommandsMoved.trans {a b c : Db} (h : CommandsMoved gate cat a b)
    (h' : CommandsMoved gate cat b c) : CommandsMoved gate cat a c where
  moved i k find := by
    obtain ⟨k₁, find₁, moves₁⟩ := h.moved i k find
    obtain ⟨k₂, find₂, moves₂⟩ := h'.moved i k₁ find₁
    exact ⟨k₂, find₂, moves₁.trans moves₂⟩
  filed i k' absent find := by
    cases mid : b.commands.find i with
    | none => exact h'.filed i k' mid find
    | some k₁ =>
      obtain ⟨k, created, moves₁⟩ := h.filed i k₁ absent mid
      obtain ⟨k₂, find₂, moves₂⟩ := h'.moved i k₁ mid
      obtain rfl : k₂ = k' := Option.some.inj (find₂.symm.trans find)
      exact ⟨k, created, moves₁.trans moves₂⟩

/-- A property of filed commands that every move keeps is kept by all commands. -/
theorem CommandsMoved.all {I : Command → Prop} (h : CommandsMoved gate cat db db')
    (created : ∀ c k, Command.Created cat c k → I k)
    (keep : ∀ k k', I k → Command.Move gate cat k k' → I k')
    (before : ∀ c k, db.commands.find c = some k → I k) :
    ∀ c k, db'.commands.find c = some k → I k := by
  intro c k' find'
  cases find : db.commands.find c with
  | none =>
    obtain ⟨k, filed, moves⟩ := h.filed c k' find find'
    exact moves.invariant keep (created c k filed)
  | some k =>
    obtain ⟨k₁, find₁, moves⟩ := h.moved c k find
    obtain rfl : k₁ = k' := Option.some.inj (find₁.symm.trans find')
    exact moves.invariant keep (before c k find)

variable {k : Command} {now : Instant} {request : FillRequest} {p : PendingClaim}

/-- One command is written over, by moves of its own. -/
theorem CommandsMoved.of_put {k' : Command} (find : db.commands.find c = some k)
    (moves : Command.Moves gate cat k k') (h : db'.commands = db.commands.put c k') :
    CommandsMoved gate cat db db' where
  moved i k₀ find₀ := by
    by_cases same : i = c
    · subst same
      obtain rfl : k = k₀ := Option.some.inj (find.symm.trans find₀)
      exact ⟨k', by simp [h], moves⟩
    · exact ⟨k₀, by simpa [h, Table.find_put_of_ne _ same] using find₀, .refl⟩
  filed i k₀ absent find₀ := by
    have other : i ≠ c := by
      rintro rfl
      simp [find] at absent
    simp [h, Table.find_put_of_ne _ other, absent] at find₀

/-- One command is filed. -/
theorem CommandsMoved.of_file (absent : db.commands.find c = none)
    (created : Command.Created cat c k) (h : db'.commands = db.commands.put c k) :
    CommandsMoved gate cat db db' where
  moved i k₀ find₀ := by
    have other : i ≠ c := by
      rintro rfl
      simp [absent] at find₀
    exact ⟨k₀, by simpa [h, Table.find_put_of_ne _ other] using find₀, .refl⟩
  filed i k₀ absent₀ find₀ := by
    by_cases same : i = c
    · subst same
      obtain rfl : k = k₀ := by simpa [h] using find₀
      exact ⟨k, created, .refl⟩
    · simp [h, Table.find_put_of_ne _ same, absent₀] at find₀

theorem RolledTo.moves {k' : Command} (h : RolledTo cat now k k') :
    Command.Moves gate cat k k' := by
  obtain rfl | h := h
  · exact .refl
  · exact .single (.roll h)

theorem CommandsRolled.commandsMoved (h : CommandsRolled cat now db db') :
    CommandsMoved gate cat db db' where
  moved c k find := by
    obtain ⟨k', find', rolled⟩ := h.exists_find find
    exact ⟨k', find', rolled.moves⟩
  filed c k' absent find := by simp [h.find_eq_none.mpr absent] at find

theorem lockEpoch_commandsMoved (ctx : Ctx) (key : AccountKey) :
    CommandsMoved gate cat db (db.lockEpoch ctx key).1 :=
  .of_commands_eq (lockEpoch_commands db ctx key)

theorem ReleaseOutcome.commandsMoved {reason : ReleaseReason} (find : db.commands.find c = some k)
    (fits : k.ReleaseFits reason) (h : ReleaseOutcome cat ctx db c reason db') :
    CommandsMoved gate cat db db' := by
  cases h with
  | nothing _ _ => exact lockEpoch_commandsMoved _ _
  | @released k₀ k' r r' unused row locked find₀ reservation _ _ lock _ find' rolled reservation' =>
    obtain rfl : k = k₀ := Option.some.inj (find.symm.trans find₀)
    have fits' : k'.ReleaseFits reason := by
      intro eq
      obtain ⟨e, effect, unsent⟩ := fits eq
      obtain rfl | h := rolled
      · exact ⟨e, effect, unsent⟩
      · obtain ⟨_, _, -, -, -, rfl⟩ := h.orphan
        exact ⟨e, effect, unsent⟩
    refine (lockEpoch_commandsMoved ctx k.accountKey).trans (.trans (b := locked) ?_ ?_)
    · exact CommandsRolled.commandsMoved (lock ▸ ensureAccounting_commandsRolled _ _ _ _ _ _ _)
    · exact .of_put find' (.single (.release reservation' fits')) rfl

/-- The fact is stored before the roll; the roll and the fill are moves in that order. -/
theorem fills_of_accepted {identity : String} {time : PyDateTime} {k' : Command} {r' : Reservation}
    {fact : FillFact} {notional weighted : ℚ} (checked : request.check = .ok (identity, time))
    (fact_eq : fact = fillFact cat c k request identity time)
    (fresh : ∀ f ∈ k.fills, f.sourceFillIdentity ≠ identity)
    (covered : fact.quantity ≤ k.projection.remainingQuantity) (rolled : RolledTo cat ctx.now k k')
    (reservation' : k'.reservation = some r')
    (notional_eq : fillQuoteExposure r' fact.quantity fact.price = .ok notional)
    (weighted_eq : cumulativeWeightedPrice k'.projection.filledQuantity k'.projection.weightedPrice
      fact.quantity fact.price = .ok weighted) :
    Command.Fills k' (((k'.addFill fact).recordFill fact weighted ctx.now).setReservation
      (r'.convert notional)) fact := by
  have pos := FillRequest.check_pos checked
  subst fact_eq
  refine ⟨?_, pos.1, pos.2, ?_, r', notional, weighted, ctx.now, reservation', notional_eq,
    weighted_eq, rfl⟩
  · rw [rolled.fills_eq]
    exact fresh
  · simpa [rolled.projection_eq] using covered

theorem FillOutcome.commandsMoved (h : FillOutcome cat ctx db c request db') :
    CommandsMoved gate cat db db' := by
  cases h with
  | replayed _ _ _ _ => exact lockEpoch_commandsMoved _ _
  | @accepted k k' r r' identity time fact row notional weighted locked checked find reservation
      fact_eq fresh covered lock row_eq find' rolled reservation' notional_eq weighted_eq =>
    have commands : CommandsRolled cat ctx.now ((db.lockEpoch ctx k.accountKey).1.putCommand c
        (k.addFill fact)) locked := lock ▸ ensureAccounting_commandsRolled _ _ _ _ _ _ _
    have fill := fills_of_accepted checked fact_eq fresh covered rolled reservation' notional_eq
      weighted_eq
    refine ⟨fun i k₀ find₀ => ?_, fun i k₀ absent find₀ => ?_⟩
    · by_cases same : i = c
      · subst same
        obtain rfl : k = k₀ := Option.some.inj (find.symm.trans find₀)
        exact ⟨_, Table.find_put_self _ _ _, rolled.moves.tail (.fill fill)⟩
      · obtain ⟨k₁, find₁, rolled₁⟩ := commands.exists_find (c := i) (k := k₀)
          (by simpa [putCommand, Table.find_put_of_ne _ same] using find₀)
        exact ⟨k₁, by simpa [settle, Table.find_put_of_ne _ same] using find₁, rolled₁.moves⟩
    · have other : i ≠ c := by
        rintro rfl
        simp [find] at absent
      have absent' : locked.commands.find i = none :=
        commands.find_eq_none.mpr (by simpa [putCommand, Table.find_put_of_ne _ other] using absent)
      simp [settle, Table.find_put_of_ne _ other, absent'] at find₀

theorem ClaimLocked.commandsMoved {locked : Db} {epoch : SafetyEpoch} {row : Accounting}
    {intent : ReservationIntent} (h : ClaimLocked cat ctx db p locked epoch row intent) :
    CommandsMoved gate cat db locked := by
  refine (lockEpoch_commandsMoved ctx p.request.accountKey).trans ?_
  exact CommandsRolled.commandsMoved (h.lock ▸ ensureAccounting_commandsRolled _ _ _ _ _ _ _)

theorem consumeAuthorization_commands {q : ClaimRequest}
    (h : db.consumeAuthorization q c = .ok db') : db'.commands = db.commands := by
  obtain ⟨_, -, -, rfl⟩ := consumeAuthorization_cases h
  rfl

theorem ClaimOutcome.commandsMoved {result : ClaimResult} (valid : p.Valid cat)
    (h : ClaimOutcome cat ctx db p db' result) : CommandsMoved gate cat db db' := by
  cases h with
  | replayed _ _ _ => exact .of_commands_eq rfl
  | blocked decision fresh =>
    exact decision.commandsMoved.trans
      (.of_file fresh.command (.blocked valid decision.intent_eq) rfl)
  | @allowed locked consumed epoch row intent env authorization decision revalidated _ fresh _
      consume =>
    have commands := consumeAuthorization_commands consume
    refine decision.commandsMoved.trans (.of_file fresh.command (k := p.allowedCommand cat env
      epoch.epoch intent) ?_ ?_)
    · exact .allowed valid decision.intent_eq (p.account_eq_of_revalidate revalidated) rfl
    · simp [bind, fileClaim, settle, commands]

theorem Write.commandsMoved (h : Write gate cat db db') : CommandsMoved gate cat db db' := by
  cases h with
  | outside h _ => exact .of_commands_eq h.commands
  | mark find h => exact .of_put find (.single (.mark h)) rfl
  | release find fits _ h => exact (releaseUnusedReservation_outcome h).commandsMoved find fits
  | fill h => exact (applyUniqueFill_outcome h).commandsMoved
  | claim valid _ h => exact (finishClaim_outcome h).commandsMoved valid

theorem Writes.commandsMoved (h : Writes gate cat db db') : CommandsMoved gate cat db db' := by
  induction h with
  | refl => exact .of_commands_eq rfl
  | tail _ h ih => exact ih.trans h.commandsMoved

/-- An invariant kept by every write is kept by any number of them. -/
theorem Writes.invariant {I : Db → Prop} (keep : ∀ db db', I db → Write gate cat db db' → I db')
    (h : Writes gate cat db db') (before : I db) : I db' := by
  induction h with
  | refl => exact before
  | tail _ write ih => exact keep _ _ ih write

/-! ## What a gate leaves of the moves -/

end Db

/-- A move that the gate lets pass: marks and releases only where the dispatcher may be about
some command, and fills only where fills are let in. The day roll is always at work. -/
inductive Command.GatedMove (gate : Gate) (cat : Catalog) : Command → Command → Prop
  | mark {k k' : Command} (h : Mark gate k k') (about : ∃ c, gate.about c) : GatedMove gate cat k k'
  | roll {k k' : Command} {now : Instant} (h : Rolls cat now k k') : GatedMove gate cat k k'
  | release {k : Command} {r : Reservation} {reason : ReleaseReason}
      (reservation : k.reservation = some r) (about : ∃ c, gate.about c) :
      GatedMove gate cat k (k.setReservation (r.release reason))
  | fill {k k' : Command} {fact : FillFact} (h : Fills k k' fact) (allowed : gate.fill) :
      GatedMove gate cat k k'

namespace Db

variable {gate : Gate} {cat : Catalog} {ctx : Ctx} {db db' : Db} {c : CommandId}

/-- Every command was there before or was filed by a claim, and came to what it is by moves
that the gate lets pass. -/
def CommandsGated (gate : Gate) (cat : Catalog) (db db' : Db) : Prop :=
  ∀ c k', db'.commands.find c = some k' → ∃ k,
    (Command.Created cat c k ∨ db.commands.find c = some k) ∧
      Relation.ReflTransGen (Command.GatedMove gate cat) k k'

theorem CommandsGated.of_commands_eq (h : db'.commands = db.commands) :
    CommandsGated gate cat db db' := by
  intro c k' find
  exact ⟨k', .inr (h ▸ find), .refl⟩

theorem CommandsGated.trans {a b c : Db} (h : CommandsGated gate cat a b)
    (h' : CommandsGated gate cat b c) : CommandsGated gate cat a c := by
  intro i k'' find
  obtain ⟨k', created | find', moves'⟩ := h' i k'' find
  · exact ⟨k', .inl created, moves'⟩
  · obtain ⟨k, origin, moves⟩ := h i k' find'
    exact ⟨k, origin, moves.trans moves'⟩

/-- A property of filed commands that every such move keeps is kept by all commands. -/
theorem CommandsGated.all {I : Command → Prop} (h : CommandsGated gate cat db db')
    (created : ∀ c k, Command.Created cat c k → I k)
    (keep : ∀ k k', I k → Command.GatedMove gate cat k k' → I k')
    (before : ∀ c k, db.commands.find c = some k → I k) :
    ∀ c k, db'.commands.find c = some k → I k := by
  intro c k' find
  obtain ⟨k, origin, moves⟩ := h c k' find
  have start : I k := origin.elim (created c k) (before c k)
  clear find
  induction moves with
  | refl => exact start
  | tail _ move ih => exact keep _ _ ih move

/-- One command is written: it was filed just now, or moved from what it was. -/
theorem CommandsGated.of_put {k k' : Command}
    (origin : Command.Created cat c k ∨ db.commands.find c = some k)
    (moves : Relation.ReflTransGen (Command.GatedMove gate cat) k k')
    (h : db'.commands = db.commands.put c k') : CommandsGated gate cat db db' := by
  intro i k₀ find
  rw [h] at find
  obtain ⟨rfl, rfl⟩ | ⟨-, old⟩ := Table.find_put_cases find
  · exact ⟨k, origin, moves⟩
  · exact ⟨k₀, .inr old, .refl⟩

variable {now : Instant} {reason : ReleaseReason} {request : FillRequest} {p : PendingClaim}
  {locked : Db} {epoch : SafetyEpoch} {row : Accounting} {intent : ReservationIntent}
  {result : ClaimResult}

theorem RolledTo.gated {k k' : Command} (h : RolledTo cat now k k') :
    Relation.ReflTransGen (Command.GatedMove gate cat) k k' := by
  obtain rfl | h := h
  · exact .refl
  · exact .single (.roll h)

theorem CommandsRolled.commandsGated (h : CommandsRolled cat now db db') :
    CommandsGated gate cat db db' := by
  intro c k' find'
  cases find : db.commands.find c with
  | none => simp [h.find_eq_none.mpr find] at find'
  | some k =>
    obtain ⟨k₁, find₁, rolled⟩ := h.exists_find find
    obtain rfl : k₁ = k' := Option.some.inj (find₁.symm.trans find')
    exact ⟨k, .inr rfl, rolled.gated⟩

theorem lockEpoch_commandsGated (ctx : Ctx) (key : AccountKey) :
    CommandsGated gate cat db (db.lockEpoch ctx key).1 :=
  .of_commands_eq (lockEpoch_commands db ctx key)

theorem ReleaseOutcome.commandsGated (about : ∃ c, gate.about c)
    (h : ReleaseOutcome cat ctx db c reason db') : CommandsGated gate cat db db' := by
  cases h with
  | nothing _ _ => exact lockEpoch_commandsGated _ _
  | @released k k' r r' unused row locked _ _ _ _ lock _ find' _ reservation' =>
    refine (lockEpoch_commandsGated ctx k.accountKey).trans (.trans (b := locked) ?_ ?_)
    · exact CommandsRolled.commandsGated (lock ▸ ensureAccounting_commandsRolled _ _ _ _ _ _ _)
    · exact .of_put (.inr find') (.single (.release reservation' about)) rfl

theorem FillOutcome.commandsGated (allowed : gate.fill) (h : FillOutcome cat ctx db c request db') :
    CommandsGated gate cat db db' := by
  cases h with
  | replayed _ _ _ _ => exact lockEpoch_commandsGated _ _
  | @accepted k k' r r' identity time fact row notional weighted locked checked find reservation
      fact_eq fresh covered lock row_eq find' rolled reservation' notional_eq weighted_eq =>
    have commands : CommandsRolled cat ctx.now ((db.lockEpoch ctx k.accountKey).1.putCommand c
        (k.addFill fact)) locked := lock ▸ ensureAccounting_commandsRolled _ _ _ _ _ _ _
    have fill := fills_of_accepted checked fact_eq fresh covered rolled reservation' notional_eq
      weighted_eq
    intro i k₀ found
    obtain ⟨rfl, rfl⟩ | ⟨other, old⟩ := Table.find_put_cases found
    · exact ⟨k, .inr find, rolled.gated.tail (.fill fill allowed)⟩
    · have gated : CommandsGated gate cat _ locked := commands.commandsGated
      obtain ⟨k₁, created | found₁, moves⟩ := gated i k₀ old
      · exact ⟨k₁, .inl created, moves⟩
      · refine ⟨k₁, .inr ?_, moves⟩
        simpa [putCommand, Table.find_put_of_ne _ other] using found₁

theorem ClaimLocked.commandsGated (h : ClaimLocked cat ctx db p locked epoch row intent) :
    CommandsGated gate cat db locked := by
  refine (lockEpoch_commandsGated ctx p.request.accountKey).trans ?_
  exact CommandsRolled.commandsGated (h.lock ▸ ensureAccounting_commandsRolled _ _ _ _ _ _ _)

theorem ClaimOutcome.commandsGated (valid : p.Valid cat)
    (h : ClaimOutcome cat ctx db p db' result) :
    CommandsGated gate cat db db' := by
  cases h with
  | replayed _ _ _ => exact .of_commands_eq rfl
  | blocked decision _ =>
    exact decision.commandsGated.trans
      (.of_put (.inl (.blocked valid decision.intent_eq)) .refl rfl)
  | @allowed locked consumed epoch row intent env authorization decision revalidated _ _ _
      consume =>
    have commands := consumeAuthorization_commands consume
    have created : Command.Created cat env.commandId
        (p.allowedCommand cat env epoch.epoch intent) :=
      .allowed valid decision.intent_eq (p.account_eq_of_revalidate revalidated) rfl
    refine decision.commandsGated.trans (.of_put (.inl created) .refl ?_)
    simp [bind, fileClaim, settle, commands]

theorem Write.commandsGated (h : Write gate cat db db') : CommandsGated gate cat db db' := by
  cases h with
  | outside h _ => exact .of_commands_eq h.commands
  | mark find h about => exact .of_put (.inr find) (.single (.mark h ⟨_, about⟩)) rfl
  | release _ _ _ h about => exact (releaseUnusedReservation_outcome h).commandsGated ⟨_, about⟩
  | fill h allowed => exact (applyUniqueFill_outcome h).commandsGated allowed
  | claim valid _ h => exact (finishClaim_outcome h).commandsGated valid

theorem Writes.commandsGated (h : Writes gate cat db db') : CommandsGated gate cat db db' := by
  induction h with
  | refl => exact .of_commands_eq rfl
  | tail _ h ih => exact ih.trans h.commandsGated

/-! ## Writes without a claim or a change of the switch -/

theorem ReleaseOutcome.epochsKept (h : ReleaseOutcome cat ctx db c reason db') :
    EpochsKept db db' := by
  cases h with
  | nothing _ _ => exact lockEpoch_epochsKept _ _ _
  | @released k k' r r' unused row locked _ _ _ _ lock _ _ _ _ =>
    have kept : EpochsKept db locked := (lockEpoch_epochsKept db ctx _).trans
      (lock ▸ (ensureAccounting_sameClaims cat ctx _ _ _ _ _).epochsKept)
    exact kept.trans (.of_eq rfl rfl)

theorem FillOutcome.epochsKept (h : FillOutcome cat ctx db c request db') : EpochsKept db db' := by
  cases h with
  | replayed _ _ _ _ => exact lockEpoch_epochsKept _ _ _
  | @accepted k k' r r' identity time fact row notional weighted locked _ _ _ _ _ _ lock _ _ _ _ _
      _ =>
    have stored : EpochsKept db ((db.lockEpoch ctx k.accountKey).1.putCommand c (k.addFill fact)) :=
      (lockEpoch_epochsKept db ctx _).trans (.of_eq rfl rfl)
    have kept : EpochsKept db locked :=
      stored.trans (lock ▸ (ensureAccounting_sameClaims cat ctx _ _ _ _ _).epochsKept)
    exact kept.trans (.of_eq rfl rfl)

theorem ClaimLocked.epochsKept (h : ClaimLocked cat ctx db p locked epoch row intent) :
    EpochsKept db locked :=
  (lockEpoch_epochsKept db ctx _).trans
    (h.lock ▸ (ensureAccounting_sameClaims cat _ _ _ _ _ _).epochsKept)

/-- After the locks of a claim the epoch row is the one it decided on. -/
theorem ClaimLocked.epochs_self (h : ClaimLocked cat ctx db p locked epoch row intent) :
    locked.epochs p.request.accountKey = some epoch := by
  rw [h.lock, (ensureAccounting_sameClaims cat _ _ _ _ _ _).epochs, h.epoch_eq]
  exact lockEpoch_epochs_self db ctx _

theorem consumeAuthorization_epochsKept {q : ClaimRequest}
    (h : db.consumeAuthorization q c = .ok db') :
    db'.kill = db.kill ∧ db'.epochs = db.epochs := by
  obtain ⟨_, -, -, rfl⟩ := consumeAuthorization_cases h
  exact ⟨rfl, rfl⟩

theorem ClaimOutcome.epochsKept (h : ClaimOutcome cat ctx db p db' result) : EpochsKept db db' := by
  cases h with
  | replayed _ _ _ => exact .refl db
  | blocked decision _ => exact decision.epochsKept.trans (.of_eq rfl rfl)
  | allowed decision _ _ _ _ consume =>
    obtain ⟨kill, epochs⟩ := consumeAuthorization_epochsKept consume
    exact decision.epochsKept.trans (.of_eq kill epochs)

theorem Write.epochsKept (quiet : ¬gate.kill) (h : Write gate cat db db') : EpochsKept db db' := by
  cases h with
  | outside _ kept => exact kept.resolve_right quiet
  | mark _ _ => exact .of_eq rfl rfl
  | release _ _ _ h => exact (releaseUnusedReservation_outcome h).epochsKept
  | fill h => exact (applyUniqueFill_outcome h).epochsKept
  | claim _ _ h => exact (finishClaim_outcome h).epochsKept

theorem Writes.epochsKept (quiet : ¬gate.kill) (h : Writes gate cat db db') :
    EpochsKept db db' := by
  induction h with
  | refl => exact .refl db
  | tail _ h ih => exact ih.trans (h.epochsKept quiet)

/-- Without a claim no command is filed. -/
theorem Write.find_eq_none (quiet : ¬gate.claim) (h : Write gate cat db db')
    (absent : db.commands.find c = none) : db'.commands.find c = none := by
  cases h with
  | outside h _ => simpa [h.commands] using absent
  | @mark c' k k' find _ =>
    have other : c ≠ c' := by
      rintro rfl
      simp [find] at absent
    simpa [putCommand, Table.find_put_of_ne _ other] using absent
  | @release _ ctx c' k reason find _ _ h =>
    have other : c ≠ c' := by
      rintro rfl
      simp [find] at absent
    cases releaseUnusedReservation_outcome h with
    | nothing _ _ => simpa using absent
    | @released k k' r r' unused row locked _ _ _ _ lock _ _ _ _ =>
      have commands : CommandsRolled cat ctx.now (db.lockEpoch ctx k.accountKey).1 locked :=
        lock ▸ ensureAccounting_commandsRolled _ _ _ _ _ _ _
      have absent' := (commands.find_eq_none (c := c)).mpr (by simpa using absent)
      simpa [settle, Table.find_put_of_ne _ other] using absent'
  | @fill _ ctx c' request result h =>
    cases applyUniqueFill_outcome h with
    | replayed _ _ _ _ => simpa using absent
    | @accepted k k' r r' identity time fact row notional weighted locked _ find _ _ _ _ lock _ _
        _ _
        _ _ =>
      have other : c ≠ c' := by
        rintro rfl
        simp [find] at absent
      have commands : CommandsRolled cat ctx.now ((db.lockEpoch ctx k.accountKey).1.putCommand c'
          (k.addFill fact)) locked := lock ▸ ensureAccounting_commandsRolled _ _ _ _ _ _ _
      have absent' := (commands.find_eq_none (c := c)).mpr
        (by simpa [putCommand, Table.find_put_of_ne _ other] using absent)
      simpa [settle, Table.find_put_of_ne _ other] using absent'
  | claim _ allowed _ => exact absurd allowed quiet

theorem Writes.find_eq_none (quiet : ¬gate.claim) (h : Writes gate cat db db')
    (absent : db.commands.find c = none) : db'.commands.find c = none := by
  induction h with
  | refl => exact absent
  | tail _ h ih => exact h.find_eq_none quiet ih

end Db

end AlphaTrade.Execution
