import AlphaTrade.Execution.Conservation

/-!
# What claims leave behind

A claim files one command. If it is allowed, the command holds the plan entry, has
consumed its authorization and has been charged to the ledger once; in either case the
idempotency binding names it, and a later request under the same key finds it there.
-/
namespace AlphaTrade.Execution
open Library

/-! ## Charges -/

/-- The posting put the whole reservation on the row of its account. -/
structure Posting.Charges (p : Posting) (key : AccountKey) (r : Reservation) : Prop where
  account : p.account = key
  instrument : p.instrument = r.instrument
  unclamped : p.applied = p.intended
  notional : p.applied.reservedNotional = r.pendingOrderExposure
  symbol : p.applied.symbolReserved = r.pendingOrderExposure
  loss : p.applied.reservedDailyLoss = r.dailyLossAllocation
  slots : p.applied.reservedTradeSlots = r.dailyTradeAllocation

namespace Books

variable {loose : AccountKey → Prop} {b b' : Books} {c i : CommandId} {key : AccountKey}

def charges (b : Books) (c : CommandId) : List Posting :=
  b.journal.filter fun p => p.command = c ∧ p.kind = .charge

/-- One charge for each reservation, and none for anything else. -/
structure ChargedOnce (b : Books) : Prop where
  once : ∀ c key r, b.holding c = some (key, r) → ∃ p, b.charges c = [p] ∧ p.Charges key r
  never : ∀ c, b.holding c = none → b.charges c = []

section post
variable {r : Reservation} {kind : PostingKind} {intended : Delta} {old new : Accounting}

theorem charges_post_of_ne (h : i ≠ c) :
    (b.post c key r kind intended old new).charges i = b.charges i := by
  simp [charges, post, Ne.symm h]

theorem charges_post_of_kind (h : kind ≠ .charge) :
    (b.post c key r kind intended old new).charges i = b.charges i := by
  simp [charges, post, h]

theorem charges_post_charge : (b.post c key r .charge intended old new).charges c =
    b.charges c ++ [⟨key, c, .charge, r.instrument, intended, .between r.instrument old new⟩] := by
  simp [charges, post]

/-- A posting for a command, given the charges of that command after it. -/
theorem ChargedOnce.post (h : b.ChargedOnce)
    (own : ∃ p, (b.post c key r kind intended old new).charges c = [p] ∧ p.Charges key r) :
    (b.post c key r kind intended old new).ChargedOnce := by
  constructor
  · intro i key' r' held
    by_cases same : i = c
    · subst same
      obtain ⟨rfl, rfl⟩ : key = key' ∧ r = r' := by simpa [Books.post] using held
      exact own
    · rw [charges_post_of_ne same]
      exact h.once i key' r' (by simpa [Books.post, Function.update_of_ne same] using held)
  · intro i absent
    have other : i ≠ c := by
      rintro rfl
      simp [Books.post] at absent
    rw [charges_post_of_ne other]
    exact h.never i (by simpa [Books.post, Function.update_of_ne other] using absent)

end post

theorem ChargedOnce.of_booking (h : b.ChargedOnce) (booking : Booking loose b b') :
    b'.ChargedOnce := by
  cases booking with
  | opened _ _ => exact ⟨h.once, h.never⟩
  | stamped _ _ => exact ⟨h.once, h.never⟩
  | @charged c key row r intent fresh found opens =>
    have plain : Delta.between r.instrument row (chargeReservation row intent) =
        chargeDelta intent := by
      rw [opens.instrument]
      exact between_charge row intent
    apply h.post
    refine ⟨⟨key, c, .charge, r.instrument, chargeDelta intent, chargeDelta intent⟩, ?_, ?_⟩
    · rw [charges_post_charge, h.never c fresh, plain]
      rfl
    · exact ⟨rfl, rfl, rfl, opens.pending.symm, opens.pending.symm, opens.loss.symm,
        opens.slots.symm⟩
  | @converted c key row r notional held _ _ =>
    apply h.post
    rw [charges_post_of_kind (by simp)]
    obtain ⟨p, only, charge⟩ := h.once c key r held
    exact ⟨p, only, charge.1, charge.2, charge.3, charge.4, charge.5, charge.6, charge.7⟩
  | @released c key row r unused reason unfilled version held _ _ =>
    apply h.post
    rw [charges_post_of_kind (by simp)]
    obtain ⟨p, only, charge⟩ := h.once c key r held
    exact ⟨p, only, charge.1, charge.2, charge.3, charge.4, charge.5, charge.6, charge.7⟩

theorem chargedOnce_empty : Db.empty.books.ChargedOnce := by
  constructor
  · intro c key r held
    simp [Db.books, Db.empty] at held
  · intro c _
    rfl

end Books

theorem reached_chargedOnce (cat : Catalog) (ls : List Label) :
    (reached cat ls).db.books.ChargedOnce := by
  have loose : Gate.any.Exact cat fun _ => True := fun _ _ _ _ _ _ _ _ _ _ => .inl trivial
  have booked := reached_bookings loose (along_respects_any cat World.init ls)
  exact booked.invariant (fun _ _ h => h.of_booking) Books.chargedOnce_empty

/-! ## Filing -/

namespace Db

variable {gate : Gate} {cat : Catalog} {ctx : Ctx} {db db' : Db} {c : CommandId}

/-- No command is filed or loses its terms, and the tables of claims are as they were. -/
structure SameFiling (db db' : Db) : Prop where
  kept : ∀ c k, db.commands.find c = some k →
    ∃ k', db'.commands.find c = some k' ∧ Command.SameTerms k k'
  absent : ∀ c, db.commands.find c = none → db'.commands.find c = none
  bindings : db'.bindings = db.bindings
  planClaims : db'.planClaims = db.planClaims
  consumed : ∀ id a, a.state = .consumed →
    (db'.authorizations id = some a ↔ db.authorizations id = some a)

theorem SameFiling.trans {a b d : Db} (h : SameFiling a b) (h' : SameFiling b d) :
    SameFiling a d := by
  constructor
  · intro c k find
    obtain ⟨k₁, find₁, terms₁⟩ := h.kept c k find
    obtain ⟨k₂, find₂, terms₂⟩ := h'.kept c k₁ find₁
    exact ⟨k₂, find₂, terms₁.trans terms₂⟩
  · intro c none_
    exact h'.absent c (h.absent c none_)
  · exact h'.bindings.trans h.bindings
  · exact h'.planClaims.trans h.planClaims
  · intro id a state
    exact (h'.consumed id a state).trans (h.consumed id a state)

theorem SameFiling.exists_before (h : SameFiling db db') {k' : Command}
    (find' : db'.commands.find c = some k') :
    ∃ k, db.commands.find c = some k ∧ Command.SameTerms k k' := by
  cases find : db.commands.find c with
  | none =>
    rw [h.absent c find] at find'
    cases find'
  | some k =>
    obtain ⟨k₁, find₁, terms⟩ := h.kept c k find
    obtain rfl : k₁ = k' := Option.some.inj (find₁.symm.trans find')
    exact ⟨k, rfl, terms⟩

theorem SameBooks.sameFiling (h : SameBooks db db') : SameFiling db db' := by
  constructor
  · intro c k find
    exact ⟨k, by rw [h.commands, find], .refl k⟩
  · intro c none_
    rw [h.commands, none_]
  · exact h.bindings
  · exact h.planClaims
  · exact h.consumed

theorem SameClaims.sameFiling {now : Instant} (h : SameClaims db db')
    (rolled : CommandsRolled cat now db db') : SameFiling db db' := by
  constructor
  · intro c k find
    obtain ⟨k', find', rolled⟩ := rolled.exists_find find
    exact ⟨k', find', rolled.sameTerms⟩
  · intro c none_
    exact rolled.find_eq_none.mpr none_
  · exact h.bindings
  · exact h.planClaims
  · intro id a _
    rw [h.authorizations]

/-- One command is written over, with its terms kept. -/
theorem SameFiling.of_put {k k' : Command} (find : db.commands.find c = some k)
    (terms : Command.SameTerms k k') (commands : db'.commands = db.commands.put c k')
    (bindings : db'.bindings = db.bindings) (planClaims : db'.planClaims = db.planClaims)
    (authorizations : db'.authorizations = db.authorizations) : SameFiling db db' := by
  constructor
  · intro i k₀ find₀
    by_cases same : i = c
    · subst same
      obtain rfl : k = k₀ := Option.some.inj (find.symm.trans find₀)
      exact ⟨k', by simp [commands], terms⟩
    · exact ⟨k₀, by simpa [commands, Table.find_put_of_ne _ same] using find₀, .refl k₀⟩
  · intro i none_
    have other : i ≠ c := by
      rintro rfl
      simp [find] at none_
    simpa [commands, Table.find_put_of_ne _ other] using none_
  · exact bindings
  · exact planClaims
  · intro id a _
    rw [authorizations]

theorem ensureAccounting_sameFiling (ctx : Ctx) (key : AccountKey) (user : UserId) (unit : String)
    (roll : Bool) : SameFiling db (db.ensureAccounting cat ctx key user unit roll) :=
  (ensureAccounting_sameClaims cat ctx key user unit roll db).sameFiling
    (ensureAccounting_commandsRolled cat ctx key user unit roll db)

theorem ReleaseOutcome.sameFiling {reason : ReleaseReason}
    (h : ReleaseOutcome cat ctx db c reason db') : SameFiling db db' := by
  cases h with
  | nothing _ _ => exact (lockEpoch_sameBooks _ _ _).sameFiling
  | @released k k' r r' unused row locked _ _ _ _ lock _ find' _ reservation' =>
    have locks : SameFiling db locked :=
      (lockEpoch_sameBooks db ctx k.accountKey).sameFiling.trans
        (lock ▸ ensureAccounting_sameFiling ctx _ _ _ _)
    refine locks.trans (.of_put find' ?_ rfl rfl rfl rfl)
    constructor <;> simp [reservation']

theorem FillOutcome.sameFiling {request : FillRequest}
    (h : FillOutcome cat ctx db c request db') : SameFiling db db' := by
  cases h with
  | replayed _ _ _ _ => exact (lockEpoch_sameBooks _ _ _).sameFiling
  | @accepted k k' r r' identity time fact row notional weighted locked _ find _ _ _ _ lock _
      find' _
      reservation' _ _ =>
    have stored : SameFiling (db.lockEpoch ctx k.accountKey).1
        ((db.lockEpoch ctx k.accountKey).1.putCommand c (k.addFill fact)) := by
      refine .of_put (by simpa using find) ?_ rfl rfl rfl rfl
      constructor <;> simp [Command.addFill]
    have locks : SameFiling db locked :=
      (lockEpoch_sameBooks db ctx k.accountKey).sameFiling.trans
        (stored.trans (lock ▸ ensureAccounting_sameFiling ctx _ _ _ _))
    refine locks.trans (.of_put find' ?_ rfl rfl rfl rfl)
    constructor <;> simp [Command.recordFill, reservation']

theorem ClaimLocked.sameFiling {p : PendingClaim} {locked : Db} {epoch : SafetyEpoch}
    {row : Accounting} {intent : ReservationIntent}
    (h : ClaimLocked cat ctx db p locked epoch row intent) : SameFiling db locked :=
  (lockEpoch_sameBooks db ctx p.request.accountKey).sameFiling.trans
    (h.lock ▸ ensureAccounting_sameFiling _ _ _ _ _)

end Db

/-! ## Filed commands -/

def Catalog.planClaimKey (cat : Catalog) (k : Command) : PlanClaimKey where
  organizationId := k.organizationId
  accountId := k.accountId
  exchangeAccountScopeKey :=
    exchangeAccountScopeKey ((cat.plans k.revisionId).bind (·.exchangeAccountId))
  revisionId := k.revisionId

theorem Command.SameTerms.planClaimKey {k k' : Command} (h : SameTerms k k') (cat : Catalog) :
    cat.planClaimKey k' = cat.planClaimKey k := by
  simp [Catalog.planClaimKey, h.organizationId, h.accountId, h.revisionId]

theorem PendingClaim.Valid.planClaimKey {cat : Catalog} {p : PendingClaim} (h : p.Valid cat)
    (env : ClaimEnv) (epoch : Nat) (intent : ReservationIntent) :
    cat.planClaimKey (p.allowedCommand cat env epoch intent) = p.planClaimKey := by
  simp [Catalog.planClaimKey, PendingClaim.planClaimKey, PendingClaim.allowedCommand, h.plan_eq]

/-- The binding is finished, and leads to the command. -/
structure Binding.Names (b : Binding) (c : CommandId) (k : Command) : Prop where
  commandId : b.commandId = some c
  receiptId : b.receiptId = some k.receiptId
  outcome : b.outcome = some k.outcome

theorem Binding.Names.of_sameTerms {b : Binding} {c : CommandId} {k k' : Command}
    (h : b.Names c k) (terms : Command.SameTerms k k') : b.Names c k' :=
  ⟨h.commandId, by rw [terms.receiptId, h.receiptId], by rw [terms.outcome, h.outcome]⟩

namespace Db

variable {gate : Gate} {cat : Catalog} {ctx : Ctx} {db db' : Db} {c : CommandId}

def ConsumedBy (db : Db) (id : AuthorizationId) (c : CommandId) : Prop :=
  ∃ a, db.authorizations id = some a ∧ a.state = .consumed ∧
    a.consumedByExecutionCommandId = some c

/-- What the claims have left: an allowed command holds its plan entry and has consumed its
authorization, nothing else has consumed one, and every binding leads to its command. -/
structure Filed (cat : Catalog) (db : Db) : Prop where
  entry : ∀ c k, db.commands.find c = some k → k.outcome = .allow →
    db.planClaims (cat.planClaimKey k) = some c
  consumed : ∀ c k, db.commands.find c = some k → k.outcome = .allow →
    db.ConsumedBy k.authorizationId c
  consumer : ∀ id a, db.authorizations id = some a → a.state = .consumed →
    ∃ c k, a.consumedByExecutionCommandId = some c ∧ db.commands.find c = some k ∧
      k.outcome = .allow ∧ k.authorizationId = id
  bound : ∀ key b, db.bindings key = some b → b.operationNamespace = submitEntryNamespace ∧
    ∃ c k, db.commands.find c = some k ∧ b.Names c k

theorem filed_empty : Db.empty.Filed cat := by
  constructor <;> simp [Db.empty]

theorem Filed.of_sameFiling (h : db.Filed cat) (same : SameFiling db db') : db'.Filed cat := by
  constructor
  · intro c k' find' allow
    obtain ⟨k, find, terms⟩ := same.exists_before find'
    rw [same.planClaims, terms.planClaimKey]
    exact h.entry c k find (terms.outcome ▸ allow)
  · intro c k' find' allow
    obtain ⟨k, find, terms⟩ := same.exists_before find'
    obtain ⟨a, found, state, by_⟩ := h.consumed c k find (terms.outcome ▸ allow)
    rw [terms.authorizationId]
    exact ⟨a, (same.consumed _ a state).mpr found, state, by_⟩
  · intro id a found state
    obtain ⟨c, k, by_, find, allow, own⟩ := h.consumer id a ((same.consumed id a state).mp found)
      state
    obtain ⟨k', find', terms⟩ := same.kept c k find
    exact ⟨c, k', by_, find', terms.outcome.trans allow, terms.authorizationId.trans own⟩
  · intro key b bound
    rw [same.bindings] at bound
    obtain ⟨operation, c, k, find, names⟩ := h.bound key b bound
    obtain ⟨k', find', terms⟩ := same.kept c k find
    exact ⟨operation, c, k', find', names.of_sameTerms terms⟩

variable {p : PendingClaim} {b : Binding} {k : Command}

/-- A new command and the binding that leads to it keep the bindings in order. -/
theorem Filed.bound_bind (h : db.Filed cat) (absent : db.commands.find c = none)
    (operation : b.operationNamespace = submitEntryNamespace)
    (commands : db'.commands = db.commands.put c k) (bindings : db'.bindings = db.bindings) :
    ∀ key b', (db'.bind p b c k).bindings key = some b' →
      b'.operationNamespace = submitEntryNamespace ∧
        ∃ i k', (db'.bind p b c k).commands.find i = some k' ∧ b'.Names i k' := by
  intro key b' bound
  by_cases same : key = p.request.bindingKey
  · subst same
    simp only [bind, Function.update_self, Option.some.injEq] at bound
    obtain rfl := bound
    exact ⟨operation, c, k, by simp [bind, commands], rfl, rfl, rfl⟩
  · simp only [bind, bindings, Function.update_of_ne same] at bound
    obtain ⟨operation', i, k', find, names⟩ := h.bound key b' bound
    refine ⟨operation', i, k', ?_, names⟩
    simpa only [bind, commands] using Table.find_put_kept absent find k

/-- A command that ends blocked claims and consumes nothing. -/
theorem Filed.blocked (h : db.Filed cat) (absent : db.commands.find c = none)
    (operation : b.operationNamespace = submitEntryNamespace) (ended : k.outcome = .blocked) :
    ((db.putCommand c k).bind p b c k).Filed cat := by
  have other : ∀ i k', (db.commands.put c k).find i = some k' → k'.outcome = .allow →
      db.commands.find i = some k' := by
    intro i k' find allow
    obtain ⟨rfl, rfl⟩ | ⟨-, before⟩ := Table.find_put_cases find
    · rw [ended] at allow
      cases allow
    · exact before
  refine ⟨fun i k' find allow => ?_, fun i k' find allow => ?_, fun id a found state => ?_, ?_⟩
  · exact h.entry i k' (other i k' find allow) allow
  · exact h.consumed i k' (other i k' find allow) allow
  · obtain ⟨i, k', by_, find, allow, own⟩ := h.consumer id a found state
    exact ⟨i, k', by_, Table.find_put_kept absent find k, allow, own⟩
  · exact h.bound_bind absent operation rfl rfl

/-- An allowed command takes a plan entry that was free, and an authorization that was
available; what the others hold is theirs still. -/
theorem Filed.allowed {a₀ : Authorization} (h : db.Filed cat) (absent : db.commands.find c = none)
    (operation : b.operationNamespace = submitEntryNamespace) (allow : k.outcome = .allow)
    (key : cat.planClaimKey k = p.planClaimKey) (unclaimed : db.planClaims p.planClaimKey = none)
    (available : db.authorizations k.authorizationId = some a₀) (state₀ : a₀.state = .available)
    (commands : db'.commands = db.commands.put c k) (bindings : db'.bindings = db.bindings)
    (planClaims : db'.planClaims = Function.update db.planClaims p.planClaimKey (some c))
    (authorizations : db'.authorizations = Function.update db.authorizations k.authorizationId
      (some { a₀ with state := .consumed, consumedByExecutionCommandId := some c })) :
    (db'.bind p b c k).Filed cat := by
  refine ⟨fun i k' find allow' => ?_, fun i k' find allow' => ?_, fun id a found state => ?_, ?_⟩
  · simp only [bind, commands] at find
    obtain ⟨rfl, rfl⟩ | ⟨-, before⟩ := Table.find_put_cases find
    · simp [bind, planClaims, key]
    · have entry := h.entry i k' before allow'
      have ne : cat.planClaimKey k' ≠ p.planClaimKey := by
        intro same
        rw [same, unclaimed] at entry
        cases entry
      simpa [bind, planClaims, Function.update_of_ne ne] using entry
  · simp only [bind, commands] at find
    obtain ⟨rfl, rfl⟩ | ⟨-, before⟩ := Table.find_put_cases find
    · refine ⟨{ a₀ with state := .consumed, consumedByExecutionCommandId := some i }, ?_, rfl, rfl⟩
      simp [bind, authorizations]
    · obtain ⟨a, found, state, by_⟩ := h.consumed i k' before allow'
      have ne : k'.authorizationId ≠ k.authorizationId := by
        intro same
        rw [same, available] at found
        obtain rfl := Option.some.inj found
        simp [state₀] at state
      exact ⟨a, by simpa [bind, authorizations, Function.update_of_ne ne] using found, state, by_⟩
  · by_cases same : id = k.authorizationId
    · subst same
      simp only [bind, authorizations, Function.update_self, Option.some.injEq] at found
      obtain rfl := found
      exact ⟨c, k, rfl, by simp [bind, commands], allow, rfl⟩
    · have before : db.authorizations id = some a := by
        simpa [bind, authorizations, Function.update_of_ne same] using found
      obtain ⟨i, k', by_, find, allow', own⟩ := h.consumer id a before state
      refine ⟨i, k', by_, ?_, allow', own⟩
      simpa only [bind, commands] using Table.find_put_kept absent find k
  · exact h.bound_bind absent operation commands bindings

theorem ClaimOutcome.filed {result : ClaimResult} (valid : p.Valid cat) (h : db.Filed cat)
    (outcome : ClaimOutcome cat ctx db p db' result) : db'.Filed cat := by
  cases outcome with
  | replayed _ _ _ => exact h
  | blocked decision fresh =>
    have filed := h.of_sameFiling decision.sameFiling
    exact filed.blocked fresh.command decision.matches_.operation rfl
  | @allowed locked consumed epoch row intent env authorization decision _ _ fresh unclaimed
      consume =>
    have filed := h.of_sameFiling decision.sameFiling
    obtain ⟨a₀, available, consumable, rfl⟩ := consumeAuthorization_cases consume
    exact filed.allowed fresh.command decision.matches_.operation rfl
      (valid.planClaimKey env epoch.epoch intent) unclaimed available consumable.available rfl rfl
      rfl rfl

theorem Write.filed (h : db.Filed cat) (write : Write gate cat db db') : db'.Filed cat := by
  cases write with
  | outside same _ => exact h.of_sameFiling same.sameFiling
  | mark find m => exact h.of_sameFiling (.of_put find m.sameTerms rfl rfl rfl rfl)
  | release _ _ _ released =>
    exact h.of_sameFiling (releaseUnusedReservation_outcome released).sameFiling
  | fill filled => exact h.of_sameFiling (applyUniqueFill_outcome filled).sameFiling
  | claim valid _ claimed => exact (finishClaim_outcome claimed).filed valid h

end Db

theorem reached_filed (cat : Catalog) (ls : List Label) : (reached cat ls).db.Filed cat :=
  reached_db_invariant Db.filed_empty (fun _ _ h write => write.filed h)
    (along_respects_any cat World.init ls)

/-! ## Repeated requests -/

namespace PendingClaim

/-- A pending claim for the same principal, account, canonical payload and revision. -/
structure SameRequest (p p' : PendingClaim) : Prop where
  user : p'.request.userId = p.request.userId
  account : p'.request.accountId = p.request.accountId
  payload : p'.payloadHash = p.payloadHash
  revision : p'.plan.revisionId = p.plan.revisionId

variable {p p' : PendingClaim} {b : Binding}

theorem Matches.sameRequest (h : p.Matches b) : p'.Matches b ↔ p.SameRequest p' := by
  constructor
  · intro h'
    exact ⟨h'.userId.symm.trans h.userId, h'.accountId.symm.trans h.accountId,
      h'.payload.symm.trans h.payload, h'.revision.symm.trans h.revision⟩
  · intro same
    exact ⟨h.userId.trans same.user.symm, h.accountId.trans same.account.symm, h.operation,
      h.payload.trans same.payload.symm, h.revision.trans same.revision.symm⟩

/-- A binding for something else is refused as a conflict. -/
theorem assertBindingMatches_conflict (h : ¬p.Matches b) :
    ∃ message reason, p.assertBindingMatches b = .error (.conflict message reason) := by
  cases answer : p.assertBindingMatches b with
  | ok u => exact absurd (assertBindingMatches_eq_ok.mp answer) h
  | error e =>
    simp only [assertBindingMatches, bind_eq_error, ensure_eq_error] at answer
    obtain ⟨-, rfl⟩ | ⟨_, -, ⟨-, rfl⟩ | ⟨_, -, ⟨-, rfl⟩ | ⟨_, -, ⟨-, rfl⟩ | ⟨_, -, -, rfl⟩⟩⟩⟩ :=
      answer
    all_goals exact ⟨_, _, rfl⟩

end PendingClaim

namespace Db

variable {gate : Gate} {cat : Catalog} {ctx : Ctx} {db db' : Db} {c : CommandId}

variable {key : OrganizationId × String} {b : Binding} {p : PendingClaim} {result : ClaimResult}
  {refreshed : Bool} {env : ClaimEnv}

/-- A finished binding is never written again. -/
theorem Write.binding_kept (h : db.Filed cat) (write : Write gate cat db db')
    (bound : db.bindings key = some b) : db'.bindings key = some b := by
  cases write with
  | outside same _ => rw [same.bindings, bound]
  | mark _ _ => exact bound
  | release _ _ _ released =>
    rw [(releaseUnusedReservation_outcome released).sameFiling.bindings, bound]
  | fill filled => rw [(applyUniqueFill_outcome filled).sameFiling.bindings, bound]
  | @claim _ ctx p refreshed env result _ _ claimed =>
    -- A claim under the key of a finished binding is a replay.
    have finished : key = p.request.bindingKey →
        (p.binding db).commandId.isSome ∧ (p.binding db).receiptId.isSome := by
      rintro rfl
      obtain ⟨-, c, k, -, names⟩ := h.bound _ b bound
      simp [PendingClaim.binding, bound, names.commandId, names.receiptId]
    cases finishClaim_outcome claimed with
    | replayed _ _ _ => exact bound
    | blocked decision _ =>
      have other : key ≠ p.request.bindingKey := fun same => decision.unfinished (finished same)
      have before := decision.sameFiling.bindings
      simpa [bind, putCommand, Function.update_of_ne other, before] using bound
    | allowed decision _ _ _ _ consume =>
      have other : key ≠ p.request.bindingKey := fun same => decision.unfinished (finished same)
      have before := decision.sameFiling.bindings
      obtain ⟨_, -, -, rfl⟩ := consumeAuthorization_cases consume
      simpa [bind, fileClaim, settle, Function.update_of_ne other, before] using bound

theorem Writes.binding_kept (h : db.Filed cat) (writes : Writes gate cat db db')
    (bound : db.bindings key = some b) : db'.bindings key = some b := by
  have both : db'.Filed cat ∧ db'.bindings key = some b := by
    refine writes.invariant (I := fun db => db.Filed cat ∧ db.bindings key = some b) ?_ ⟨h, bound⟩
    rintro db db' ⟨filed, bound⟩ write
    exact ⟨write.filed filed, write.binding_kept filed bound⟩
  exact both.2

/-- After a successful claim its key is bound to the command it returned. -/
theorem ClaimOutcome.bound (h : db.Filed cat) (outcome : ClaimOutcome cat ctx db p db' result) :
    ∃ b, db'.bindings p.request.bindingKey = some b ∧ p.Matches b ∧
      b.Names result.commandId result.command := by
  cases outcome with
  | @replayed b result bound matches_ loaded =>
    refine ⟨b, bound, matches_, ?_⟩
    obtain ⟨-, c, k, find, names⟩ := h.bound _ b bound
    obtain rfl : ⟨true, c, k⟩ = result := by
      simpa [loadResult, names.commandId, names.receiptId, names.outcome, find] using loaded
    exact names
  | blocked decision _ =>
    obtain ⟨user, account, operation, payload, revision⟩ := decision.matches_
    exact ⟨_, Function.update_self _ _ _, ⟨user, account, operation, payload, revision⟩, rfl, rfl,
      rfl⟩
  | allowed decision _ _ _ _ _ =>
    obtain ⟨user, account, operation, payload, revision⟩ := decision.matches_
    exact ⟨_, Function.update_self _ _ _, ⟨user, account, operation, payload, revision⟩, rfl, rfl,
      rfl⟩

/-- A claim under a finished binding that it matches returns the bound command. -/
theorem finishClaim_of_matches {k : Command} (bound : db.bindings p.request.bindingKey = some b)
    (matches_ : p.Matches b) (find : db.commands.find c = some k) (names : b.Names c k) :
    db.finishClaim cat ctx p refreshed env = .ok (db, ⟨true, c, k⟩) := by
  have passed : p.assertBindingMatches b = .ok () :=
    PendingClaim.assertBindingMatches_eq_ok.mpr matches_
  simp [finishClaim, bound, passed, loadResult, names.commandId, names.receiptId, names.outcome,
    find,
    Bind.bind, Except.bind]

theorem finishClaim_conflict (bound : db.bindings p.request.bindingKey = some b)
    (differs : ¬p.Matches b) :
    ∃ message reason,
      db.finishClaim cat ctx p refreshed env = .error (.conflict message reason) := by
  obtain ⟨message, reason, refused⟩ := PendingClaim.assertBindingMatches_conflict differs
  exact ⟨message, reason, by simp [finishClaim, bound, refused, Bind.bind, Except.bind]⟩

/-- The postings of `charge_reservation`. -/
def chargePostings (db : Db) : List Posting := db.journal.filter (·.kind = .charge)

theorem releaseOrphan_chargePostings (now : Instant) (key : AccountKey) :
    (releaseOrphan cat now key db c).chargePostings = db.chargePostings := by
  unfold releaseOrphan
  repeat' split
  all_goals simp [chargePostings, settle]

theorem releaseOrphanedPaperReservations_chargePostings (now : Instant) (key : AccountKey) :
    (db.releaseOrphanedPaperReservations cat now key).chargePostings = db.chargePostings := by
  unfold releaseOrphanedPaperReservations
  generalize db.rollOrder = order
  induction order generalizing db with
  | nil => rfl
  | cons c order ih => exact ih.trans (releaseOrphan_chargePostings now key)

/-- The ledger lock charges nothing. -/
theorem ensureAccounting_chargePostings (ctx : Ctx) (key : AccountKey) (user : UserId)
    (unit : String) (roll : Bool) :
    (db.ensureAccounting cat ctx key user unit roll).chargePostings = db.chargePostings := by
  unfold ensureAccounting rollDailyTradeSlots
  split
  · split
    · dsimp only
      split
      · rfl
      · exact releaseOrphanedPaperReservations_chargePostings ctx.now key
    · rfl
  · rfl

def lockedForClaim (cat : Catalog) (ctx : Ctx) (db : Db) (p : PendingClaim)
    (intent : ReservationIntent) : Db :=
  (db.lockEpoch ctx p.request.accountKey).1.ensureAccounting cat { ctx with now := p.now }
    p.request.accountKey p.request.userId intent.exposureUnit
    (paperDailyTradeRoll (some p.plan.executionVenue))

/-- What a blocked claim writes: the ledger is as it was or as the lock left it, nothing is
charged, and no authorization is touched. -/
structure Uncharged (cat : Catalog) (ctx : Ctx) (db : Db) (p : PendingClaim) (db' : Db) : Prop where
  ledger : db'.accounting = db.accounting ∨
    ∃ intent, db'.accounting = (db.lockedForClaim cat ctx p intent).accounting
  charges : db'.chargePostings = db.chargePostings
  authorizations : db'.authorizations = db.authorizations

theorem ClaimOutcome.uncharged (outcome : ClaimOutcome cat ctx db p db' result)
    (blocked : result.command.outcome = .blocked) : Uncharged cat ctx db p db' := by
  cases outcome with
  | replayed _ _ _ => exact ⟨.inl rfl, rfl, rfl⟩
  | @blocked locked epoch row intent c receipt reason decision fresh =>
    refine ⟨.inr ⟨intent, ?_⟩, ?_, ?_⟩
    · change locked.accounting = _
      rw [decision.lock]
      rfl
    · change locked.chargePostings = db.chargePostings
      rw [decision.lock, ensureAccounting_chargePostings]
      simp [chargePostings]
    · change locked.authorizations = db.authorizations
      rw [decision.lock, (ensureAccounting_sameClaims cat _ _ _ _ _ _).authorizations]
      exact lockEpoch_authorizations db ctx _
  | allowed _ _ _ _ _ _ => cases blocked

/-- Any claim under the key of `p`, wherever it comes from, gets the command, the receipt and the
outcome of `result` with nothing changed when it makes the same request, and is refused as a
conflict when it does not. -/
def Replays (cat : Catalog) (db : Db) (p : PendingClaim) (result : ClaimResult) : Prop :=
  ∀ ctx p' refreshed env, p'.request.bindingKey = p.request.bindingKey →
    (p.SameRequest p' → ∃ k,
      db.finishClaim cat ctx p' refreshed env = .ok (db, ⟨true, result.commandId, k⟩) ∧
        k.receiptId = result.command.receiptId ∧ k.outcome = result.command.outcome) ∧
    (¬p.SameRequest p' → ∃ message reason,
      db.finishClaim cat ctx p' refreshed env = .error (.conflict message reason))

theorem Filed.replays (h : db.Filed cat) (bound : db.bindings p.request.bindingKey = some b)
    (matches_ : p.Matches b) (names : b.Names result.commandId result.command) :
    db.Replays cat p result := by
  intro ctx p' refreshed env key
  rw [← key] at bound
  obtain ⟨-, c, k, find, names'⟩ := h.bound _ b bound
  constructor
  · intro same
    obtain rfl : c = result.commandId :=
      Option.some.inj (names'.commandId.symm.trans names.commandId)
    refine ⟨k, finishClaim_of_matches bound (matches_.sameRequest.mpr same) find names', ?_, ?_⟩
    · exact Option.some.inj (names'.receiptId.symm.trans names.receiptId)
    · exact Option.some.inj (names'.outcome.symm.trans names.outcome)
  · intro differs
    exact finishClaim_conflict bound fun same => differs (matches_.sameRequest.mp same)

end Db

/-- In every run: one allowed command at most for a revision and an account; every allowed
command with one reservation that was charged once, one effect, and an authorization consumed
by it alone; nothing charged or consumed by a claim that ends blocked; and, from the moment a
claim has returned, the same answer to every repeated request. -/
theorem claims_unique_and_idempotent (cat : Catalog) (ls : List Label) :
    (∀ c c' k k', (reached cat ls).db.commands.find c = some k →
      (reached cat ls).db.commands.find c' = some k' → k.outcome = .allow → k'.outcome = .allow →
      k.revisionId = k'.revisionId → k.accountKey = k'.accountKey → c = c') ∧
    (∀ c k, (reached cat ls).db.commands.find c = some k → k.outcome = .allow →
      ∃ r e p, k.reservation = some r ∧ k.effect = some e ∧
        (reached cat ls).db.books.charges c = [p] ∧ p.Charges k.accountKey r ∧
        (reached cat ls).db.ConsumedBy k.authorizationId c ∧
        ∀ id, (reached cat ls).db.ConsumedBy id c → id = k.authorizationId) ∧
    (∀ ctx p refreshed env db' result,
      (reached cat ls).db.finishClaim cat ctx p refreshed env = .ok (db', result) →
      result.command.outcome = .blocked → (reached cat ls).db.Uncharged cat ctx p db') ∧
    ∀ ctx i refreshed env p db' result, (reached cat ls).workers i = some (.claim p) →
      (reached cat ls).db.finishClaim cat ctx p refreshed env = .ok (db', result) →
      ∀ ms, (reached cat (ls ++ .finishClaim ctx i refreshed env :: ms)).db.Replays cat p
        result := by
  have filed := reached_filed cat ls
  refine ⟨fun c c' k k' find find' allow allow' revision account => ?_, fun c k find allow => ?_,
    fun ctx p refreshed env db' result finished blocked =>
      (Db.finishClaim_outcome finished).uncharged blocked,
    fun ctx i refreshed env p db' result running finished ms => ?_⟩
  · have entry := filed.entry c k find allow
    have entry' := filed.entry c' k' find' allow'
    obtain ⟨organization, account⟩ := Prod.mk.inj account
    have key : cat.planClaimKey k = cat.planClaimKey k' := by
      simp [Catalog.planClaimKey, organization, account, revision]
    rw [key, entry'] at entry
    exact (Option.some.inj entry).symm
  · obtain ⟨r, e, reservation, effect⟩ := reached_reserved find allow
    obtain ⟨p, charged, charges⟩ := (reached_chargedOnce cat ls).once c k.accountKey r
      (Db.holding_of_find find reservation)
    refine ⟨r, e, p, reservation, effect, charged, charges, filed.consumed c k find allow, ?_⟩
    rintro id ⟨a, found, state, by_⟩
    obtain ⟨c', k', by', find', -, own⟩ := filed.consumer id a found state
    obtain rfl : c' = c := Option.some.inj (by'.symm.trans by_)
    obtain rfl : k' = k := Option.some.inj (find'.symm.trans find)
    exact own.symm
  · have after : ((reached cat ls).step cat (.finishClaim ctx i refreshed env)).db = db' := by
      simp [World.step, running, finished, Except.map, World.commit]
    obtain ⟨b, bound, matches_, names⟩ := (Db.finishClaim_outcome finished).bound filed
    rw [← after] at bound
    have filed' : ((reached cat ls).step cat (.finishClaim ctx i refreshed env)).db.Filed cat := by
      have reached_ := reached_filed cat (ls ++ [.finishClaim ctx i refreshed env])
      rwa [reached_append] at reached_
    have writes := World.run_writes (World.step_jobsValid (reached_jobsValid cat ls))
      (along_respects_any cat ((reached cat ls).step cat (.finishClaim ctx i refreshed env)) ms)
    have later := reached_filed cat (ls ++ .finishClaim ctx i refreshed env :: ms)
    rw [reached_append] at later ⊢
    exact later.replays (writes.binding_kept filed' bound) matches_ names

def competingRun : List Label :=
  Sample.claim 0 1 ++
    [.issueAuthorization 2 ⟨1, 1, 1, 1, "content", 1000000000000⟩,
      .beginClaim (Sample.ctx 0) 0 ⟨.ok (), true⟩
        { Sample.claimRequest 1 "key2" with authorizationId := 2 },
      .finishClaim (Sample.ctx 0) 0 true (Sample.claimEnv 0 2)]

theorem claims_unique_and_idempotent_competingRun :
    ((reached (Sample.catalog internalPaperVenue) competingRun).db.commands.find 1).map
        (·.outcome) = some .allow ∧
      ((reached (Sample.catalog internalPaperVenue) competingRun).db.commands.find 1002).map
        (·.blockedReasonCode) = some (some "plan_entry_already_claimed") ∧
      ∃ p, (reached (Sample.catalog internalPaperVenue) competingRun).db.books.charges 1 = [p] := by
  have outcome : ((reached (Sample.catalog internalPaperVenue) competingRun).db.commands.find 1).map
      (·.outcome) = some .allow := by decide_cbv
  refine ⟨outcome, by decide_cbv, ?_⟩
  obtain ⟨k, find, allow⟩ := Option.map_eq_some_iff.mp outcome
  obtain ⟨r, e, p, -, -, charged, -⟩ :=
    (claims_unique_and_idempotent (Sample.catalog internalPaperVenue) competingRun).2.1 1 k find
    allow
  exact ⟨p, charged⟩

end AlphaTrade.Execution
