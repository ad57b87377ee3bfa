import AlphaTrade.Approval.Statements

/-!
# One authorization per approval

The obligations of the service's programs among each other. A program that issues holds
its approval: from the first lookup on it knows which authorization of the approval can
be AVAILABLE, and it inserts only when none can. Whatever lands between two of its
statements takes AVAILABLE authorizations away and adds none.
-/
namespace AlphaTrade.Approval
open Library Program
open Execution (OrganizationId UserId AccountId RevisionId AuthorizationId CommandId Instant Error)

/-! ## The programs -/

def SameKind (channel : AuthorizationChannel) (actorType : String) (issuance : Issuance) : Prop :=
  IsAutonomous issuance.channel issuance.actorType ↔ IsAutonomous channel actorType

variable {channel : AuthorizationChannel} {actorType : String} {request : Call}

theorem sameKind_of_matches {row : Authorization}
    (isMatch : storedIssuanceMatches row channel actorType) :
    SameKind channel actorType row.toIssuance := by
  unfold storedIssuanceMatches at isMatch
  split_ifs at isMatch with empty autonomous other
  · simp only [Bool.and_eq_true, decide_eq_true_eq] at isMatch
    exact iff_of_true isMatch autonomous
  · exact iff_of_false (fun is => other (.inl is.1)) autonomous

def NoAvailable (approvalId : ApprovalId) (store : Store) : Prop :=
  ∀ id row, store.authorizations.find id = some row → row.approvalRequestId = approvalId →
    row.state ≠ .available

def AllSameKind (approvalId : ApprovalId) (channel : AuthorizationChannel) (actorType : String)
    (store : Store) : Prop :=
  ∀ id row, store.authorizations.find id = some row → row.approvalRequestId = approvalId →
    row.state = .available → SameKind channel actorType row.toIssuance

def OnlyAvailable (approvalId : ApprovalId) (existing : Issuance) (store : Store) : Prop :=
  ∀ id row, store.authorizations.find id = some row → row.approvalRequestId = approvalId →
    row.state = .available → id = existing.authorizationId ∧ row.toIssuance = existing

def Holds (approvalId : ApprovalId) (approval : ApprovalRow) (store : Store) : Prop :=
  store.approvals.find approvalId = some approval

def Approved (approvalId : ApprovalId) (store : Store) : Prop :=
  ∃ approval, store.approvals.find approvalId = some approval ∧ approval.status = .approved ∧
    approval.planRevisionId.isSome

section stable
variable {approvalId : ApprovalId} {store now : Store} (step : Undisturbed approvalId store now)
include step

theorem Holds.stable {approval : ApprovalRow} (holds : Holds approvalId approval store) :
    Holds approvalId approval now := step.approval.trans holds

theorem Approved.stable (approved : Approved approvalId store) : Approved approvalId now := by
  unfold Approved
  rw [step.approval]
  exact approved

theorem NoAvailable.stable (none : NoAvailable approvalId store) : NoAvailable approvalId now := by
  intro id row found belongs state
  obtain ⟨before, was, state', same⟩ := step.available id row found belongs state
  exact none id before was (same ▸ belongs) state'

theorem AllSameKind.stable {channel : AuthorizationChannel} {actorType : String}
    (all : AllSameKind approvalId channel actorType store) :
    AllSameKind approvalId channel actorType now := by
  intro id row found belongs state
  obtain ⟨before, was, state', same⟩ := step.available id row found belongs state
  exact same ▸ all id before was (same ▸ belongs) state'

theorem OnlyAvailable.stable {existing : Issuance}
    (only : OnlyAvailable approvalId existing store) : OnlyAvailable approvalId existing now := by
  intro id row found belongs state
  obtain ⟨before, was, state', same⟩ := step.available id row found belongs state
  exact same ▸ only id before was (same ▸ belongs) state'

end stable

variable {approvalId : ApprovalId} {store : Store} {mine : Option ApprovalId}

theorem NoAvailable.allSameKind (none : NoAvailable approvalId store)
    (channel : AuthorizationChannel) (actorType : String) :
    AllSameKind approvalId channel actorType store :=
  fun id row found belongs state => absurd state (none id row found belongs)

theorem OnlyAvailable.allSameKind {existing : Issuance}
    (only : OnlyAvailable approvalId existing store) (kind : SameKind channel actorType existing) :
    AllSameKind approvalId channel actorType store := by
  intro id row found belongs state
  obtain ⟨-, rfl⟩ := only id row found belongs state
  exact kind

/-- An approval that is not approved, or not bound to a plan, has no authorization. -/
theorem noAvailable_of_unapproved (good : Good store) {approval : ApprovalRow}
    (holds : Holds approvalId approval store)
    (unapproved : ¬(approval.status = .approved ∧ approval.planRevisionId.isSome)) :
    NoAvailable approvalId store := by
  rintro id row found rfl -
  obtain ⟨approval', was, approved⟩ := good.approved found
  obtain rfl := Option.some.inj (holds.symm.trans was)
  exact unapproved approved

theorem guarantee_iff {now : Store} :
    (rulesOf mine).guarantee store now ↔ Good now ∧ Step mine store now := by
  cases mine <;> exact Iff.rfl

/-- A statement that only reads. -/
theorem keeps_read {β : Type} {next : Answer request → Act β} {post : Except Error β → Store → Prop}
    (reads : ∀ s, (serve request s).2 = s)
    (goesOn : ∀ now, (rulesOf mine).rely store now → Good now →
      (rulesOf mine).Keeps serve post (next (serve request now).1) now) :
    (rulesOf mine).Keeps serve post (ask request >>= next) store := by
  intro now step good
  rw [reads now]
  exact ⟨guarantee_iff.mpr ⟨good, Step.refl mine now⟩, goesOn now step good⟩

/-- A statement that writes. -/
theorem keeps_write {β : Type} {next : Answer request → Act β}
    {post : Except Error β → Store → Prop}
    (writes : ∀ now, (rulesOf mine).rely store now → Good now → (Good (serve request now).2 ∧
      Step mine now (serve request now).2) ∧ (Good (serve request now).2 →
      (rulesOf mine).Keeps serve post (next (serve request now).1) (serve request now).2)) :
    (rulesOf mine).Keeps serve post (ask request >>= next) store := by
  intro now step good
  obtain ⟨within, goesOn⟩ := writes now step good
  exact ⟨guarantee_iff.mpr within, goesOn within.1⟩

open Rules

section locked
variable {approvalId : ApprovalId}

/-- What depends on the authorizations alone and survives what others do. -/
structure Framed (approvalId : ApprovalId) (P : Store → Prop) : Prop where
  stable : ∀ {store now}, Undisturbed approvalId store now → P store → P now
  frame : ∀ {store now : Store}, now.authorizations = store.authorizations → P store → P now

theorem framed_noAvailable : Framed approvalId (NoAvailable approvalId) where
  stable step none := none.stable step
  frame same none := by
    unfold NoAvailable
    rwa [same]

theorem framed_allSameKind (channel : AuthorizationChannel) (actorType : String) :
    Framed approvalId (AllSameKind approvalId channel actorType) where
  stable step all := all.stable step
  frame same all := by
    unfold AllSameKind
    rwa [same]

variable {P : Store → Prop} {store : Store} {approval row : ApprovalRow}
  {matching : Authorization → Bool} {values : Authorization → Authorization}
  {existing : Authorization} {request : IssueRequest}

theorem keeps_updateApproval (framed : Framed approvalId P)
    (holds : Holds approvalId approval store) {action : ApprovalAction}
    (status : approval.status = .pending ∨ approval.status = .approved ∧ action = .approve)
    (holdsP : P store) (time : Instant) :
    (rulesOf (some approvalId)).Keeps serve
      (OnOk fun _ now => P now ∧ Holds approvalId { approval with
        status := actionToStatus action
        proposedAction := some action
        decidedAt := some time } now)
      (updateApproval approvalId action time) store := by
  intro now step good
  have found : now.approvals.find approvalId = some approval := holds.stable step
  have holdsNow := framed.stable step holdsP
  refine ⟨guarantee_iff.mpr (step_updateApproval good found status time), fun later steps _ => ?_⟩
  have put : (serve (.updateApproval approvalId action time) now).2 = { now with
      approvals := now.approvals.put approvalId { approval with
        status := actionToStatus action
        proposedAction := some action
        decidedAt := some time } } := by
    simp only [serve, found]
  rw [put] at steps
  refine ⟨framed.stable steps (framed.frame (by rfl) holdsNow), ?_⟩
  exact Holds.stable steps (Table.find_put_self ..)

theorem keeps_markPlanApprovalApproved (framed : Framed approvalId P)
    (holds : Holds approvalId approval store) (bound : approval.planRevisionId.isSome)
    (status : approval.status = .pending ∨ approval.status = .approved) (holdsP : P store) :
    (rulesOf (some approvalId)).Keeps serve
      (OnOk fun _ now => P now ∧ Approved approvalId now)
      (markPlanApprovalApproved approvalId approval) store := by
  unfold markPlanApprovalApproved
  split_ifs with approved
  · intro now step _
    exact ⟨framed.stable step holdsP, Approved.stable step ⟨approval, holds, approved, bound⟩⟩
  · apply keeps_read fun _ => rfl
    intro now step _
    have pending : approval.status = .pending := status.resolve_right approved
    refine (keeps_updateApproval framed (holds.stable step) (.inl pending)
      (framed.stable step holdsP) _).weaken fun result later _ post => ?_
    match result, post with
    | .ok _, ⟨holdsP, holds⟩ => exact ⟨holdsP, _, holds, rfl, bound⟩
    | .error _, _ => trivial

/-- An UPDATE of the one row that can be AVAILABLE, and that is meant for it. -/
theorem noAvailable_of_retired (good : Good store) {existing : Issuance}
    (only : OnlyAvailable approvalId existing store) (retires : Retires matching values)
    (meant : ∀ row : Authorization, row.toIssuance = existing → row.state = .available →
      matching row) :
    NoAvailable approvalId (store.compareAndSet existing.authorizationId matching values).2 := by
  intro id row found belongs state
  have step := (step_compareAndSet good existing.authorizationId retires none).2
  have undisturbed : Undisturbed approvalId store _ := step.undisturbed (by simp)
  obtain ⟨before, was, state', same⟩ := undisturbed.available id row found belongs state
  obtain ⟨rfl, rfl⟩ := only id before was (same ▸ belongs) state'
  exact not_available_of_compareAndSet retires found
    (fun old _ issuance available => meant old (issuance.trans same.symm) available) state

/-- The UPDATE leaves the approval as it is. -/
theorem holds_compareAndSet (good : Good store) (holds : Holds approvalId approval store)
    (id : AuthorizationId) (retires : Retires matching values) :
    Holds approvalId approval (store.compareAndSet id matching values).2 :=
  ((step_compareAndSet good id retires none).2.others approvalId (by simp)).trans holds

/-- Revoking the one row that can be AVAILABLE. -/
theorem keeps_revokeExisting (holds : Holds approvalId approval store)
    (only : OnlyAvailable approvalId existing.toIssuance store) :
    (rulesOf (some approvalId)).Keeps serve
      (OnOk fun _ now => NoAvailable approvalId now ∧ Holds approvalId approval now)
      (revokeAuthorization existing.authorizationId existing.organizationId existing.userId)
      store := by
  unfold revokeAuthorization
  apply keeps_read fun _ => rfl
  intro first step _
  apply keeps_demand_ok
  intro row _
  apply keeps_require_ok
  intro _
  apply keeps_read fun _ => rfl
  intro second step' _
  apply keeps_write
  intro third step'' good
  have only' := ((only.stable step).stable step').stable step''
  have holds' := ((holds.stable step).stable step').stable step''
  have retires := retires_revokeAvailable second.clock
  have none := noAvailable_of_retired good only' retires fun row _ state => by simpa using state
  have kept := holds_compareAndSet good holds' existing.authorizationId retires
  refine ⟨step_compareAndSet good _ retires _, fun _ => ?_⟩
  apply keeps_read fun _ => rfl
  intro fourth steps _ later steps' _
  exact ⟨(none.stable steps).stable steps', (kept.stable steps).stable steps'⟩

/-- Expiring the one row that can be AVAILABLE, which is due. -/
theorem keeps_expireExisting (holds : Holds approvalId approval store)
    (only : OnlyAvailable approvalId existing.toIssuance store) {time : Instant}
    (due : existing.expiresAt ≤ time) :
    (rulesOf (some approvalId)).Keeps serve
      (OnOk fun _ now => NoAvailable approvalId now ∧ Holds approvalId approval now)
      (expireDue existing.authorizationId time) store := by
  intro now step good
  have retires := retires_expireDue time
  have none := noAvailable_of_retired good (only.stable step) retires fun row same state => by
    have expires : row.expiresAt = existing.expiresAt := congrArg Issuance.expiresAt same
    simpa [state, expires] using due
  have kept := holds_compareAndSet good (holds.stable step) existing.authorizationId retires
  refine ⟨guarantee_iff.mpr (step_compareAndSet good _ retires _), fun later steps _ => ?_⟩
  exact ⟨none.stable steps, kept.stable steps⟩

variable (sha : Issuance → String)

/-- A row that is accepted is consumed or of the request's kind, and so is every row of the
approval that is still AVAILABLE; where none is accepted, none is AVAILABLE. -/
def AcceptPost (request : IssueRequest) (approval : ApprovalRow) :
    Option Authorization → Store → Prop
  | some row, now => (row.state = .available → SameKind request.channel request.actorType
      row.toIssuance) ∧
    AllSameKind request.approvalId request.channel request.actorType now ∧
    Approved request.approvalId now
  | none, now => NoAvailable request.approvalId now ∧ Holds request.approvalId approval now

theorem keeps_acceptOrReplaceReusable (holds : Holds request.approvalId approval store)
    (bound : approval.planRevisionId.isSome)
    (status : approval.status = .pending ∨ approval.status = .approved) (revisionId : RevisionId)
    (revision : Revision) {existing : Option Authorization}
    (none : existing = none → NoAvailable request.approvalId store)
    (only : ∀ row, existing = some row → row.state.isReusable ∧
      OnlyAvailable request.approvalId row.toIssuance store ∧ (row.state = .consumed →
      NoAvailable request.approvalId store)) :
    (rulesOf (some request.approvalId)).Keeps serve (OnOk (AcceptPost request approval))
      (acceptOrReplaceReusable sha request approval revisionId revision existing) store := by
  match existing with
  | .none =>
    intro now step _
    exact ⟨(none rfl).stable step, holds.stable step⟩
  | .some row =>
    obtain ⟨reusable, only, consumed⟩ := only row rfl
    apply keeps_require_ok
    intro _
    apply keeps_ite
    · intro isConsumed
      have marked := keeps_markPlanApprovalApproved framed_noAvailable holds bound status
        (consumed isConsumed)
      refine marked.bind_ok fun _ now _ ⟨none, approved⟩ later step _ => ⟨?_, ?_, ?_⟩
      · simp [isConsumed]
      · exact (none.stable step).allSameKind _ _
      · exact approved.stable step
    intro notConsumed
    apply keeps_read fun _ => rfl
    intro now step _
    have only := only.stable step
    have holds := holds.stable step
    apply keeps_ite
    · intro ⟨_, _, due⟩
      exact (keeps_expireExisting holds only due).bind_ok
        fun _ now _ ⟨none, holds⟩ later step _ => ⟨none.stable step, holds.stable step⟩
    intro _
    apply keeps_ite
    · intro isMatch
      have kind := sameKind_of_matches isMatch
      have marked := keeps_markPlanApprovalApproved (framed_allSameKind _ _) holds bound status
        (only.allSameKind kind)
      exact marked.bind_ok fun _ now _ ⟨all, approved⟩ later step _ =>
        ⟨fun _ => kind, all.stable step, approved.stable step⟩
    intro _
    apply keeps_ite
    · intro _
      exact (keeps_revokeExisting holds only).bind_ok
        fun _ now _ ⟨none, holds⟩ later step _ => ⟨none.stable step, holds.stable step⟩
    · intro notAvailable
      cases state : row.state <;> simp_all [AuthorizationState.isReusable]

def IssuePost (request : IssueRequest) : Option Authorization → Store → Prop
  | some row, now => (row.state = .available → SameKind request.channel request.actorType
      row.toIssuance) ∧
    AllSameKind request.approvalId request.channel request.actorType now ∧
    Approved request.approvalId now
  | none, _ => False

theorem newAuthorization_sameKind (request : IssueRequest) (revisionId : RevisionId)
    (revision : Revision) (id : AuthorizationId) (expiresAt time : Instant) :
    SameKind request.channel request.actorType
      (newAuthorization sha request revisionId revision id expiresAt time).toIssuance := Iff.rfl

/-- Adding an AVAILABLE row where none is: it is the only one, if it is added at all. -/
theorem onlyAvailable_of_add (row : Authorization)
    (none : NoAvailable row.approvalRequestId store) :
    OnlyAvailable row.approvalRequestId row.toIssuance (serve (.add row) store).2 := by
  intro id other found belongs state
  by_cases admitted : store.admits row
  · simp only [serve, admitted, if_true] at found
    rcases Table.find_put_cases found with ⟨rfl, rfl⟩ | ⟨-, was⟩
    · exact ⟨rfl, rfl⟩
    · exact absurd state (none id other was belongs)
  · simp only [serve, admitted] at found
    exact absurd state (none id other found belongs)

theorem noAvailable_of_refused {approvalId : ApprovalId} {row : Authorization}
    (none : NoAvailable approvalId store) (refused : (serve (.add row) store).1 = false) :
    NoAvailable approvalId (serve (.add row) store).2 := by
  by_cases admitted : store.admits row
  · simp [serve, admitted] at refused
  · simpa [serve, admitted] using none

theorem approvals_add (store : Store) (row : Authorization) :
    (serve (.add row) store).2.approvals = store.approvals := by
  simp only [serve]
  split_ifs <;> rfl

theorem keeps_expireDue {approvalId : ApprovalId} (id : AuthorizationId) (time : Instant) :
    (rulesOf (some approvalId)).Keeps serve (OnOk fun _ _ => True) (expireDue id time) store :=
  fun _ _ good => ⟨guarantee_iff.mpr (step_compareAndSet good id (retires_expireDue time) _),
    fun _ _ _ => trivial⟩

theorem keeps_insertOnce (none : NoAvailable request.approvalId store)
    (approved : Approved request.approvalId store) (revisionId : RevisionId) (revision : Revision)
    (id : AuthorizationId) (expiresAt time : Instant)
    {replace : Authorization → Act (Option Authorization)}
    (replaces : ∀ concurrent now, NoAvailable request.approvalId now →
      Approved request.approvalId now → (rulesOf (some request.approvalId)).Keeps serve
      (OnOk (IssuePost request)) (replace concurrent) now) :
    (rulesOf (some request.approvalId)).Keeps serve (OnOk (IssuePost request))
      (insertOnce sha request revisionId revision id expiresAt time replace) store := by
  have kind := newAuthorization_sameKind sha request revisionId revision id expiresAt time
  apply keeps_write
  intro now step good
  have none := none.stable step
  have approved := approved.stable step
  refine ⟨step_add good rfl approved, fun _ => ?_⟩
  have kept : Approved request.approvalId (serve (.add
      (newAuthorization sha request revisionId revision id expiresAt time)) now).2 := by
    unfold Approved
    rwa [approvals_add]
  apply keeps_ite
  · intro _ later steps _
    have only := onlyAvailable_of_add
      (newAuthorization sha request revisionId revision id expiresAt time) none
    exact ⟨fun _ => kind, (only.allSameKind kind).stable steps, kept.stable steps⟩
  intro refused
  have none := noAvailable_of_refused none (by simpa using refused)
  -- the row that another issuer has inserted
  apply keeps_read fun _ => rfl
  intro after steps _
  have none := none.stable steps
  have kept := kept.stable steps
  apply keeps_demand_ok
  intro concurrent _
  apply keeps_require_ok
  intro _
  apply keeps_ite
  · intro reused later steps _
    refine ⟨fun available => ?_, (none.stable steps).allSameKind _ _, kept.stable steps⟩
    rcases reused with isConsumed | ⟨isMatch, -⟩
    · simp [isConsumed] at available
    · exact sameKind_of_matches isMatch
  intro _
  apply keeps_ite
  · intro _
    exact (keeps_expireDue _ _).bind_ok fun _ _ _ _ => keeps_fail
  · intro _
    exact replaces concurrent after none kept

theorem keeps_insertAuthorization (revisionId : RevisionId) (revision : Revision)
    (expiresAt time : Instant) (attempts : Nat) (none : NoAvailable request.approvalId store)
    (approved : Approved request.approvalId store) :
    (rulesOf (some request.approvalId)).Keeps serve (OnOk (IssuePost request))
      (insertAuthorization sha request revisionId revision expiresAt time attempts) store := by
  induction attempts generalizing store with
  | zero =>
    exact keeps_insertOnce sha none approved revisionId revision _ expiresAt time
      fun _ _ _ _ => keeps_fail
  | succ attempts ih =>
    apply keeps_insertOnce sha none approved revisionId revision _ expiresAt time
    intro concurrent now none approved
    obtain ⟨approval, holds, isApproved⟩ := approved
    have only : OnlyAvailable request.approvalId concurrent.toIssuance now :=
      fun id row found belongs state => absurd state (none id row found belongs)
    exact (keeps_revokeExisting holds only).bind_ok fun _ later _ ⟨none, holds⟩ =>
      ih none ⟨approval, holds, isApproved⟩

theorem keeps_issueFresh (holds : Holds request.approvalId approval store)
    (bound : approval.planRevisionId.isSome)
    (status : approval.status = .pending ∨ approval.status = .approved)
    (none : NoAvailable request.approvalId store) (revisionId : RevisionId) (revision : Revision)
    (expiresAt : Instant) :
    (rulesOf (some request.approvalId)).Keeps serve (OnOk (IssuePost request))
      (issueFresh sha request approval revisionId revision expiresAt) store := by
  apply keeps_read fun _ => rfl
  intro now step _
  apply keeps_require_ok
  intro _
  have marked := keeps_markPlanApprovalApproved framed_noAvailable (holds.stable step) bound status
    (none.stable step)
  exact marked.bind_ok fun _ later _ ⟨none, approved⟩ =>
    keeps_insertAuthorization sha revisionId revision expiresAt _ 1 none approved

/-- The checks of the revision only read. -/
theorem keeps_scopedRevision
    (stable : ∀ {store now}, Undisturbed request.approvalId store now → P store → P now)
    (holds : P store) (revisionId : RevisionId) :
    (rulesOf (some request.approvalId)).Keeps serve (OnOk fun _ now => P now)
      (scopedRevision request revisionId) store := by
  apply keeps_read fun _ => rfl
  intro first step _
  apply keeps_demand_ok
  intro revision _
  apply keeps_read fun _ => rfl
  intro second step' _
  apply keeps_demand_ok
  intro proposal _
  apply keeps_require_ok
  intro _
  apply keeps_require_ok
  intro _
  apply keeps_require_ok
  intro _
  split
  · exact keeps_fail
  · apply keeps_require_ok
    intro _ later step'' _
    exact stable step'' (stable step' (stable step holds))

/-- The lookup by approval finds the one row that can be AVAILABLE. -/
theorem reusableForApproval_spec {approvalId : ApprovalId} (good : Good store) :
    ((serve (.reusableForApproval approvalId) store).1 = none → NoAvailable approvalId store) ∧
      ∀ row, (serve (.reusableForApproval approvalId) store).1 = some row →
        row.state.isReusable ∧ OnlyAvailable approvalId row.toIssuance store ∧
          (row.state = .consumed → NoAvailable approvalId store) := by
  refine ⟨fun absent id row found belongs state => ?_, fun row found => ?_⟩
  · have := Table.not_of_first_eq_none absent found
    simp [state, belongs, AuthorizationState.isReusable] at this
  · obtain ⟨key, at', selected⟩ := Table.find_of_first found
    simp only [Bool.and_eq_true, decide_eq_true_eq] at selected
    obtain ⟨reusable, belongs⟩ := selected
    have same : ∀ id other, store.authorizations.find id = some other →
        other.approvalRequestId = approvalId → other.state = .available →
        id = key ∧ other = row := by
      intro id other found' belongs' state
      obtain rfl := good.unique found' at' (by simp [state, AuthorizationState.isReusable]) reusable
        (belongs'.trans belongs.symm)
      exact ⟨rfl, Option.some.inj (found'.symm.trans at')⟩
    refine ⟨reusable, ?_, ?_⟩
    · intro id other found' belongs' state
      obtain ⟨rfl, rfl⟩ := same id other found' belongs' state
      exact ⟨(good.ids found').symm, rfl⟩
    · intro consumed id other found' belongs' state
      obtain ⟨rfl, rfl⟩ := same id other found' belongs' state
      simp [consumed] at state

theorem keeps_scopedApproval (request : IssueRequest) (store : Store) :
    (rulesOf (some request.approvalId)).Keeps serve
      (OnOk fun approval now => Holds request.approvalId approval now)
      (scopedApproval request) store := by
  apply keeps_read fun _ => rfl
  intro first _ _
  apply keeps_demand_end
  intro approval found later step _
  obtain ⟨found, -⟩ := Option.filter_eq_some_iff.mp found
  exact Holds.stable step found

theorem keeps_issueAuthorization (request : IssueRequest) (store : Store) :
    (rulesOf (some request.approvalId)).Keeps serve (OnOk (IssuePost request))
      (issueAuthorization sha request) store := by
  refine (keeps_scopedApproval request store).bind_ok fun approval first _ holds => ?_
  split
  case h_2 => exact keeps_fail
  rename_i revisionId expiresAt hrevision hexpires
  have bound : approval.planRevisionId.isSome := by simp [hrevision]
  apply keeps_require_ok
  intro status
  refine (keeps_scopedRevision (fun step holds => Holds.stable step holds) holds
    revisionId).bind_ok fun revision second _ holds => ?_
  apply keeps_read fun _ => rfl
  intro third step good
  obtain ⟨none, only⟩ := reusableForApproval_spec good
  refine (keeps_acceptOrReplaceReusable sha (Holds.stable step holds) bound status revisionId
    revision none only).bind_ok fun accepted fourth _ post => ?_
  match accepted, post with
  | some row, ⟨kind, all, approved⟩ =>
    exact fun later step _ => ⟨kind, all.stable step, approved.stable step⟩
  | .none, ⟨none, holds⟩ =>
    apply keeps_read fun _ => rfl
    intro fifth step good
    have none := NoAvailable.stable step none
    have holds := Holds.stable step holds
    refine (keeps_acceptOrReplaceReusable sha holds bound status revisionId revision
      (fun _ => none) ?_).bind_ok fun accepted sixth _ post => ?_
    · intro row found
      obtain ⟨-, -, selected⟩ := Table.find_of_first found
      simp only [Bool.and_eq_true] at selected
      exact ⟨selected.1,
        fun id other found belongs state => absurd state (none id other found belongs),
        fun _ => none⟩
    match accepted, post with
    | some row, ⟨kind, all, approved⟩ =>
      exact fun later step _ => ⟨kind, all.stable step, approved.stable step⟩
    | .none, ⟨none, holds⟩ =>
      exact keeps_issueFresh sha holds bound status none revisionId revision expiresAt

def DecidePost (request : DecisionRequest) : Option Authorization → Store → Prop
  | some row, _ =>
    row.state = .available → SameKind request.channel request.actorType row.toIssuance
  | none, _ => True

/-- Showing the reusable authorization of the approval. -/
theorem keeps_show {request : DecisionRequest}
    (all : AllSameKind request.approvalId request.channel request.actorType store) :
    (rulesOf (some request.approvalId)).Keeps serve (OnOk (DecidePost request))
      (getReusableForApproval request.approvalId) store := by
  intro now step good
  refine ⟨guarantee_iff.mpr ⟨good, Step.refl _ now⟩, fun later _ _ => ?_⟩
  match found : (serve (.reusableForApproval request.approvalId) now).1 with
  | none => trivial
  | some row =>
    intro available
    obtain ⟨key, found, selected⟩ := Table.find_of_first found
    simp only [Bool.and_eq_true, decide_eq_true_eq] at selected
    exact all.stable step key row found selected.2 available

theorem keeps_requireExactPrincipal {request : DecisionRequest}
    (stable : ∀ {store now}, Undisturbed request.approvalId store now → P store → P now)
    (holds : P store) :
    (rulesOf (some request.approvalId)).Keeps serve (OnOk fun _ now => P now)
      (requireExactPrincipal request row) store := by
  apply keeps_require_ok
  intro _
  apply keeps_require_ok
  intro _
  apply keeps_require_end
  exact fun _ now step _ => stable step holds

/-- The decision is written and the authorization shown. -/
theorem keeps_recordDecision {request : DecisionRequest}
    (holds : Holds request.approvalId row store)
    (status : row.status = .pending ∨ row.status = .approved ∧ request.action = .approve)
    (all : AllSameKind request.approvalId request.channel request.actorType store) :
    (rulesOf (some request.approvalId)).Keeps serve (OnOk (DecidePost request))
      (clockNow >>= fun time => updateApproval request.approvalId request.action time >>=
        fun _ => getReusableForApproval request.approvalId) store := by
  apply keeps_read fun _ => rfl
  intro now step _
  have updated := keeps_updateApproval (framed_allSameKind _ _) (holds.stable step) status
    (all.stable step) now.clock
  exact updated.bind_ok fun _ later _ ⟨all, _⟩ => keeps_show all

theorem keeps_decide (request : DecisionRequest) (store : Store) :
    (rulesOf (some request.approvalId)).Keeps serve (OnOk (DecidePost request))
      (Approval.decide sha request) store := by
  apply keeps_read fun _ => rfl
  intro first _ _
  apply keeps_demand_ok
  intro row found
  refine (keeps_requireExactPrincipal (fun step holds => Holds.stable step holds) found).bind_ok
    fun _ second good holds => ?_
  have issued := fun store => keeps_issueAuthorization sha (request.issue row) store
  apply keeps_ite
  · intro _
    apply keeps_ite
    · intro _
      refine (issued second).bind_ok fun accepted now _ post => ?_
      match accepted, post with
      | some _, ⟨_, all, _⟩ => exact keeps_show all
    · intro unbound
      have none := noAvailable_of_unapproved good holds fun approved => unbound approved.2
      exact keeps_show (none.allSameKind _ _)
  intro _
  apply keeps_require_ok
  intro pending
  apply keeps_ite
  · intro ⟨approve, _⟩
    apply keeps_require_ok
    intro _
    refine (issued second).bind_ok fun accepted now _ post => ?_
    match accepted, post with
    | some _, ⟨_, all, approval, holds, approved, _⟩ =>
      exact keeps_recordDecision holds (.inr ⟨approved, approve⟩) all
  · intro _
    have none := noAvailable_of_unapproved good holds fun approved => by
      simp [pending] at approved
    exact keeps_recordDecision holds (.inl pending) (none.allSameKind _ _)

end locked

/-! ## Every run -/

section free

/-- A job that locks no approval and only retires AVAILABLE rows. -/
theorem keeps_retire {request : Call} {store : Store} {β : Type} {next : Answer request → Act β}
    {post : β → Store → Prop}
    (retires : ∀ now, Good now → Good (serve request now).2 ∧ Step none now (serve request now).2)
    (goesOn : ∀ now, (rulesOf none).Keeps serve (OnOk post) (next (serve request now).1)
      (serve request now).2) :
    (rulesOf none).Keeps serve (OnOk post) (ask request >>= next) store :=
  keeps_write fun now _ good => ⟨retires now good, fun _ => goesOn now⟩

theorem keeps_revokeAuthorization (id : AuthorizationId) (organizationId : OrganizationId)
    (userId : UserId) (store : Store) :
    (rulesOf none).Keeps serve (OnOk fun _ _ => True)
      (revokeAuthorization id organizationId userId) store := by
  apply keeps_read fun _ => rfl
  intro first _ _
  apply keeps_demand_ok
  intro row _
  apply keeps_require_ok
  intro _
  apply keeps_read fun _ => rfl
  intro second _ _
  apply keeps_retire
  · exact fun now good => step_compareAndSet good id (retires_revokeAvailable _) none
  intro third
  apply keeps_read fun _ => rfl
  intro fourth _ _ _ _ _
  trivial

theorem keeps_getAuthorization (id : AuthorizationId) (organizationId : OrganizationId)
    (userId : UserId) (store : Store) :
    (rulesOf none).Keeps serve (OnOk fun _ _ => True)
      (getAuthorization id organizationId userId) store := by
  apply keeps_read fun _ => rfl
  intro first _ _
  apply keeps_demand_ok
  intro row _
  apply keeps_require_ok
  intro _
  apply keeps_read fun _ => rfl
  intro second _ _
  apply keeps_retire
  · exact fun now good => step_compareAndSet good id (retires_expireDue _) none
  intro third
  apply keeps_read fun _ => rfl
  intro fourth _ _ _ _ _
  trivial

theorem retires_consume (organizationId : OrganizationId) (userId : UserId)
    (accountId : AccountId) (commandId : CommandId) (time : Instant) :
    Retires
      (fun row => row.organizationId = organizationId && row.userId = userId &&
        row.accountId = accountId && row.state = .available)
      (fun row => { row with
        state := .consumed
        consumedAt := some time
        consumedByExecutionCommandId := some commandId
        updatedAt := time }) where
  available row isMatch := by
    simp only [Bool.and_eq_true, decide_eq_true_eq] at isMatch
    exact isMatch.2
  issuance _ := rfl
  retired _ := by simp

theorem keeps_consume (id : AuthorizationId) (organizationId : OrganizationId) (userId : UserId)
    (accountId : AccountId) (commandId : CommandId) (store : Store) :
    (rulesOf none).Keeps serve (OnOk fun _ _ => True)
      (consume id organizationId userId accountId commandId) store := by
  apply keeps_read fun _ => rfl
  intro first _ _
  apply keeps_retire
  · exact fun now good => step_compareAndSet good id (retires_consume ..) none
  intro second
  apply keeps_require_ok
  exact fun _ _ _ _ => trivial

theorem keeps_supersede (organizationId : OrganizationId) (planId : PlanId)
    (currentRevisionId : RevisionId) (store : Store) :
    (rulesOf none).Keeps serve (OnOk fun _ _ => True)
      (Approval.supersede organizationId planId currentRevisionId) store := by
  apply keeps_read fun _ => rfl
  intro first _ _
  apply keeps_retire
  · exact fun now good => step_supersede good none ..
  · exact fun _ _ _ _ => trivial

theorem keeps_tick (time : Instant) (store : Store) :
    (rulesOf none).Keeps serve (OnOk fun _ _ => True) (Approval.tick time) store := by
  apply keeps_retire
  · exact fun now good => ⟨⟨good.ids, good.approved, good.unique⟩, fun _ _ => rfl,
      fun _ _ found _ => found, fun _ _ found _ => found, fun _ row found _ => ⟨row, found, rfl⟩,
      fun _ _ found absent => by simp [serve, absent] at found⟩
  · exact fun _ _ _ _ => trivial

end free

def Job.Issues (job : Job) (channel : AuthorizationChannel) (actorType : String) : Prop :=
  match job with
  | .decide request => request.channel = channel ∧ request.actorType = actorType
  | .issue request => request.channel = channel ∧ request.actorType = actorType
  | _ => False

def Job.Result (job : Job) : Except Error (Option Authorization) → Prop
  | .ok (some row) => row.state = .available → ∀ channel actorType,
    job.Issues channel actorType → SameKind channel actorType row.toIssuance
  | _ => True

/-- A job that locks no approval asks for no authorization. -/
theorem Job.result_of_unlocked {job : Job} (free : job.approval? = none)
    (result : Except Error (Option Authorization)) : job.Result result := by
  match result with
  | .ok (some row) =>
    intro _ channel actorType issues
    cases job <;> simp [Job.approval?, Job.Issues] at free issues
  | .ok none | .error _ => trivial

variable (sha : Issuance → String)

theorem keeps_program (job : Job) (store : Store) :
    (rulesOf job.approval?).Keeps serve (fun result _ => job.Result result) (job.program sha)
      store := by
  cases job with
  | decide request =>
    refine (keeps_decide sha request store).weaken fun result now _ post => ?_
    match result, post with
    | .ok (some row), kind =>
      rintro available _ _ ⟨rfl, rfl⟩
      exact kind available
    | .ok none, _ | .error _, _ => trivial
  | issue request =>
    refine (keeps_issueAuthorization sha request store).weaken fun result now _ post => ?_
    match result, post with
    | .ok (some row), ⟨kind, _⟩ =>
      rintro available _ _ ⟨rfl, rfl⟩
      exact kind available
    | .error _, _ => trivial
  | revoke id organizationId userId =>
    exact (keeps_revokeAuthorization id organizationId userId store).weaken
      fun result _ _ _ => Job.result_of_unlocked rfl result
  | get id organizationId userId =>
    exact (keeps_getAuthorization id organizationId userId store).weaken
      fun result _ _ _ => Job.result_of_unlocked rfl result
  | supersede organizationId planId currentRevisionId =>
    exact (keeps_supersede organizationId planId currentRevisionId store).weaken
      fun result _ _ _ => Job.result_of_unlocked rfl result
  | claim id organizationId userId accountId commandId =>
    exact (keeps_consume id organizationId userId accountId commandId store).weaken
      fun result _ _ _ => Job.result_of_unlocked rfl result
  | tick time =>
    exact (keeps_tick time store).weaken
      fun result _ _ _ => Job.result_of_unlocked rfl result

/-- The obligations of the service: jobs on one approval are not under way together. -/
def discipline : (service sha).Discipline where
  inv := Good
  rules job := rulesOf job.approval?
  result := Job.Result
  symm job other := by
    simp only [service]
    cases job.approval? <;> cases other.approval? <;> simp [eq_comm]
  keeps job store _ := keeps_program sha job store
  keeps_inv _ _ _ _ within := (guarantee_iff.mp within).1
  respects job other store now apart _ within := by
    have step := (guarantee_iff.mp within).2
    match held : other.approval? with
    | none => trivial
    | some approvalId =>
      apply step.undisturbed
      intro mine
      simp [service, held, mine] at apart

theorem good_initial (clock : Instant) (approvals : Table ApprovalId ApprovalRow)
    (revisions : RevisionId → Option Revision) (proposals : PlanId → Option Proposal) :
    Good (Store.initial clock approvals revisions proposals) where
  ids found := by simp [Store.initial] at found
  approved found := by simp [Store.initial] at found
  unique found := by simp [Store.initial] at found

/-- What no run undoes: a row that is not AVAILABLE, and a rejection. -/
structure Settled (store now : Store) : Prop where
  frozen : ∀ id row, store.authorizations.find id = some row → row.state ≠ .available →
    now.authorizations.find id = some row
  rejected : ∀ id row, store.approvals.find id = some row → row.status = .rejected →
    now.approvals.find id = some row

def storeAfter (store : Store) (moves : List (Move Job)) : Store :=
  (run (service sha).step (Machine.idle store) moves).store

theorem sound_storeAfter (good : Good store) (moves : List (Move Job)) :
    Machine.Sound (discipline sha) (run (service sha).step (Machine.idle store) moves) :=
  Machine.run_sound good moves

theorem settled_storeAfter (good : Good store) (before after : List (Move Job)) :
    Settled (storeAfter sha store before) (storeAfter sha store (before ++ after)) := by
  have sound := sound_storeAfter sha good before
  unfold storeAfter
  rw [run_append]
  refine Machine.run_advances (fun _ => ⟨fun _ _ found _ => found, fun _ _ found _ => found⟩)
    ?_ ?_ sound after
  · intro first second third step step'
    exact ⟨fun id row found state => step'.frozen id row (step.frozen id row found state) state,
      fun id row found state => step'.rejected id row (step.rejected id row found state) state⟩
  · intro job first second _ within
    have step := (guarantee_iff.mp within).2
    exact ⟨step.frozen, step.rejected⟩

end AlphaTrade.Approval
