import AlphaTrade.Approval.Service

/-!
# What a statement does to the authorizations

`Good` is what every reachable store satisfies, and `Step` what one statement may do to
the rows: an authorization that is not AVAILABLE is frozen, one that is AVAILABLE keeps
its issuance, and a new one belongs to the approval that its job has locked. A job that
holds an approval relies on its row and on no AVAILABLE authorization appearing for it.
-/
namespace AlphaTrade.Approval
open Library Program
open Execution (OrganizationId UserId AccountId RevisionId AuthorizationId CommandId Instant Error)

/-! ## The invariant and the steps -/

structure Good (store : Store) : Prop where
  ids : ∀ {id row}, store.authorizations.find id = some row → row.authorizationId = id
  approved : ∀ {id row}, store.authorizations.find id = some row →
    ∃ approval, store.approvals.find row.approvalRequestId = some approval ∧
      approval.status = .approved ∧ approval.planRevisionId.isSome
  unique : ∀ {id id' row row'}, store.authorizations.find id = some row →
    store.authorizations.find id' = some row' → row.state.isReusable → row'.state.isReusable →
    row.approvalRequestId = row'.approvalRequestId → id = id'

/-- What a statement of a job that has locked `mine` does to the rows. -/
structure Step (mine : Option ApprovalId) (store now : Store) : Prop where
  others : ∀ id, mine ≠ some id → now.approvals.find id = store.approvals.find id
  rejected : ∀ id row, store.approvals.find id = some row → row.status = .rejected →
    now.approvals.find id = some row
  frozen : ∀ id row, store.authorizations.find id = some row → row.state ≠ .available →
    now.authorizations.find id = some row
  moved : ∀ id row, store.authorizations.find id = some row → row.state = .available →
    ∃ row', now.authorizations.find id = some row' ∧ row'.toIssuance = row.toIssuance
  fresh : ∀ id row, now.authorizations.find id = some row →
    store.authorizations.find id = none →
    mine = some row.approvalRequestId ∧ row.state = .available

theorem Step.refl (mine : Option ApprovalId) (store : Store) : Step mine store store where
  others _ _ := rfl
  rejected _ _ found _ := found
  frozen _ _ found _ := found
  moved _ row found _ := ⟨row, found, rfl⟩
  fresh _ _ found absent := by simp [absent] at found

/-- What a job on an approval relies on. -/
structure Undisturbed (approvalId : ApprovalId) (store now : Store) : Prop where
  approval : now.approvals.find approvalId = store.approvals.find approvalId
  available : ∀ id row, now.authorizations.find id = some row →
    row.approvalRequestId = approvalId → row.state = .available →
    ∃ before, store.authorizations.find id = some before ∧ before.state = .available ∧
      before.toIssuance = row.toIssuance

theorem Undisturbed.refl (approvalId : ApprovalId) (store : Store) :
    Undisturbed approvalId store store where
  approval := rfl
  available _ row found _ state := ⟨row, found, state, rfl⟩

variable {approvalId : ApprovalId} {store : Store} {row : Authorization}
  {matching : Authorization → Bool} {values : Authorization → Authorization}

theorem Undisturbed.trans {middle now : Store} (first : Undisturbed approvalId store middle)
    (second : Undisturbed approvalId middle now) :
    Undisturbed approvalId store now where
  approval := second.approval.trans first.approval
  available id row found belongs state := by
    obtain ⟨between, found', state', same⟩ := second.available id row found belongs state
    have belongs' : between.approvalRequestId = approvalId := by
      rw [← belongs]
      exact congrArg Issuance.approvalRequestId same
    obtain ⟨before, found'', state'', same'⟩ := first.available id between found' belongs' state'
    exact ⟨before, found'', state'', same'.trans same⟩

/-- The step of a job on another approval leaves this one undisturbed. -/
theorem Step.undisturbed {mine : Option ApprovalId} {now : Store} (step : Step mine store now)
    (other : mine ≠ some approvalId) :
    Undisturbed approvalId store now where
  approval := step.others approvalId other
  available id row found belongs state := by
    match before : store.authorizations.find id with
    | none =>
      obtain ⟨mine', -⟩ := step.fresh id row found before
      exact absurd (belongs ▸ mine') other
    | some old =>
      by_cases available : old.state = .available
      · obtain ⟨row', found', same⟩ := step.moved id old before available
        obtain rfl := Option.some.inj (found.symm.trans found')
        exact ⟨old, rfl, available, same.symm⟩
      · have kept := step.frozen id old before available
        obtain rfl := Option.some.inj (found.symm.trans kept)
        exact absurd state available

/-- The rules of a job: those of its approval where it locks one. -/
def rulesOf : Option ApprovalId → Rules Good
  | some approvalId =>
    { rely := Undisturbed approvalId
      guarantee := fun store now => Good now ∧ Step (some approvalId) store now
      refl := Undisturbed.refl approvalId
      trans := Undisturbed.trans }
  | none =>
    { rely := fun _ _ => True
      guarantee := fun store now => Good now ∧ Step none store now
      refl := fun _ => trivial
      trans := fun _ _ => trivial }

/-! ## The statements -/

/-- An UPDATE that takes AVAILABLE rows out of that state. -/
structure Retires (matching : Authorization → Bool) (values : Authorization → Authorization) :
    Prop where
  available : ∀ row, matching row → row.state = .available
  issuance : ∀ row, (values row).toIssuance = row.toIssuance
  retired : ∀ row, (values row).state ≠ .available

theorem compareAndSet_cases (store : Store) (id : AuthorizationId)
    (matching : Authorization → Bool) (values : Authorization → Authorization) :
    (store.compareAndSet id matching values).2 = store ∧
        (∀ row, store.authorizations.find id = some row → ¬matching row) ∨
      ∃ row, store.authorizations.find id = some row ∧ matching row ∧
        (store.compareAndSet id matching values).2 =
          { store with authorizations := store.authorizations.put id (values row) } := by
  unfold Store.compareAndSet
  split
  · rename_i none
    refine .inl ⟨rfl, fun row found isMatch => ?_⟩
    simp [found, isMatch] at none
  · rename_i row found
    obtain ⟨found, isMatch⟩ := Option.filter_eq_some_iff.mp found
    exact .inr ⟨row, found, isMatch, rfl⟩

/-- Rows that trace back to rows with the same issuance, none of them newly reusable. -/
theorem Good.of_trace {now : Store} (good : Good store)
    (approvals : now.approvals = store.approvals)
    (trace : ∀ {id row}, now.authorizations.find id = some row → ∃ before,
      store.authorizations.find id = some before ∧ before.toIssuance = row.toIssuance ∧
      (row.state.isReusable → before.state.isReusable)) :
    Good now where
  ids found := by
    obtain ⟨before, found', same, -⟩ := trace found
    rw [← good.ids found', same]
  approved found := by
    obtain ⟨before, found', same, -⟩ := trace found
    rw [approvals, ← same]
    exact good.approved found'
  unique found found' reusable reusable' belongs := by
    obtain ⟨before, was, same, still⟩ := trace found
    obtain ⟨before', was', same', still'⟩ := trace found'
    rw [← same, ← same'] at belongs
    exact good.unique was was' (still reusable) (still' reusable') belongs

/-- Replacing one AVAILABLE row by another with the same issuance. -/
theorem put_retired (good : Good store) {id : AuthorizationId} {row' : Authorization}
    (found : store.authorizations.find id = some row) (available : row.state = .available)
    (same : row'.toIssuance = row.toIssuance) (mine : Option ApprovalId) :
    Good { store with authorizations := store.authorizations.put id row' } ∧
      Step mine store { store with authorizations := store.authorizations.put id row' } := by
  refine ⟨good.of_trace rfl fun {id' row''} found' => ?_, ?_⟩
  · rcases Table.find_put_cases found' with ⟨rfl, rfl⟩ | ⟨-, found'⟩
    · exact ⟨row, found, same.symm, fun _ => by simp [available, AuthorizationState.isReusable]⟩
    · exact ⟨row'', found', rfl, fun reusable => reusable⟩
  · refine ⟨fun _ _ => rfl, fun _ _ found _ => found, ?_, ?_, ?_⟩
    · intro id' other found' state
      have differ : id' ≠ id := by
        rintro rfl
        obtain rfl := Option.some.inj (found.symm.trans found')
        exact state available
      exact (Table.find_put_of_ne _ differ _).trans found'
    · intro id' other found' state
      by_cases same' : id' = id
      · subst same'
        obtain rfl := Option.some.inj (found.symm.trans found')
        exact ⟨row', Table.find_put_self .., same⟩
      · exact ⟨other, (Table.find_put_of_ne _ same' _).trans found', rfl⟩
    · intro id' other found' absent
      rcases Table.find_put_cases found' with ⟨rfl, -⟩ | ⟨-, found'⟩
      · simp [found] at absent
      · simp [absent] at found'

theorem step_compareAndSet (good : Good store) (id : AuthorizationId)
    (retires : Retires matching values) (mine : Option ApprovalId) :
    Good (store.compareAndSet id matching values).2 ∧
      Step mine store (store.compareAndSet id matching values).2 := by
  rcases compareAndSet_cases store id matching values with ⟨same, -⟩ | ⟨row, found, isMatch, put⟩
  · rw [same]
    exact ⟨good, Step.refl mine store⟩
  · rw [put]
    exact put_retired good found (retires.available row isMatch) (retires.issuance row) mine

/-- After the UPDATE no row that it was meant for is AVAILABLE. -/
theorem not_available_of_compareAndSet {id : AuthorizationId} (retires : Retires matching values)
    (found : (store.compareAndSet id matching values).2.authorizations.find id = some row)
    (meant : ∀ before, store.authorizations.find id = some before → before.toIssuance =
      row.toIssuance → before.state = .available → matching before) :
    row.state ≠ .available := by
  rcases compareAndSet_cases store id matching values with
    ⟨same, none⟩ | ⟨before, was, isMatch, put⟩
  · rw [same] at found
    exact fun state => none row found (meant row found rfl state)
  · rw [put] at found
    obtain rfl : values before = row := by simpa using found
    exact retires.retired before

theorem retires_expireDue (time : Instant) :
    Retires (fun row => row.state = .available && row.expiresAt ≤ time)
      (fun row => { row with state := .expired, updatedAt := time }) where
  available row isMatch := by simp at isMatch; exact isMatch.1
  issuance _ := rfl
  retired _ := by simp

theorem retires_revokeAvailable (time : Instant) :
    Retires (fun row => row.state = .available)
      (fun row => { row with state := .revoked, updatedAt := time }) where
  available row isMatch := by simpa using isMatch
  issuance _ := rfl
  retired _ := by simp

theorem step_supersede (good : Good store) (mine : Option ApprovalId)
    (organizationId : OrganizationId) (planId : PlanId) (currentRevisionId : RevisionId)
    (time : Instant) :
    Good (serve (.revokeForSupersededPlan organizationId planId currentRevisionId time) store).2 ∧
      Step mine store
        (serve (.revokeForSupersededPlan organizationId planId currentRevisionId time)
          store).2 := by
  refine ⟨good.of_trace rfl fun {id row} found => ?_, ?_⟩
  · obtain ⟨before, was, rfl⟩ := Option.map_eq_some_iff.mp found
    refine ⟨before, was, ?_, ?_⟩
    · split_ifs <;> rfl
    · split_ifs <;> simp [AuthorizationState.isReusable]
  · refine ⟨fun _ _ => rfl, fun _ _ found _ => found, ?_, ?_, ?_⟩
    · intro id row found state
      simp [serve, found, state]
    · intro id row found state
      refine ⟨_, Option.map_eq_some_iff.mpr ⟨row, found, rfl⟩, ?_⟩
      split_ifs <;> rfl
    · intro id row found absent
      simp [serve, absent] at found

/-- Deciding an approval that is pending, or approving one that is approved already. -/
theorem step_updateApproval (good : Good store) {approval : ApprovalRow}
    (found : store.approvals.find approvalId = some approval) {action : ApprovalAction}
    (status : approval.status = .pending ∨ approval.status = .approved ∧ action = .approve)
    (time : Instant) :
    Good (serve (.updateApproval approvalId action time) store).2 ∧
      Step (some approvalId) store (serve (.updateApproval approvalId action time) store).2 := by
  simp only [serve, found]
  refine ⟨⟨good.ids, ?_, good.unique⟩, ?_⟩
  · intro id row found'
    obtain ⟨approval', was, approved, bound⟩ := good.approved found'
    by_cases same : row.approvalRequestId = approvalId
    · subst same
      obtain rfl := Option.some.inj (found.symm.trans was)
      -- an approval with an authorization is approved, so it can only be approved again
      obtain pending | ⟨-, rfl⟩ := status
      · simp [approved] at pending
      · exact ⟨_, Table.find_put_self .., rfl, bound⟩
    · exact ⟨approval', (Table.find_put_of_ne _ same _).trans was, approved, bound⟩
  · refine ⟨?_, ?_, fun _ _ found _ => found, fun _ row found _ => ⟨row, found, rfl⟩, ?_⟩
    · intro id other
      have differ : id ≠ approvalId := by
        rintro rfl
        exact other rfl
      exact Table.find_put_of_ne _ differ _
    · intro id row found' rejected
      have other : id ≠ approvalId := by
        rintro rfl
        obtain rfl := Option.some.inj (found.symm.trans found')
        simp [rejected] at status
      exact (Table.find_put_of_ne _ other _).trans found'
    · intro id row found' absent
      simp [absent] at found'

theorem admits_spec (admitted : store.admits row) (reusable : row.state.isReusable) :
    store.authorizations.find row.authorizationId = none ∧
      ∀ id other, store.authorizations.find id = some other → other.state.isReusable →
        other.approvalRequestId ≠ row.approvalRequestId := by
  simp only [Store.admits, Bool.and_eq_true, Option.isNone_iff_eq_none, Bool.or_eq_true,
    reusable, Bool.not_true, Bool.false_eq_true, or_false] at admitted
  refine ⟨admitted.1.1, fun id other found reusable' belongs => ?_⟩
  exact Table.not_of_first_eq_none admitted.2 found (by simp [reusable', belongs])

/-- Inserting an AVAILABLE row for an approval that is approved and bound to a plan. -/
theorem step_add (good : Good store) (available : row.state = .available)
    (approved : ∃ approval, store.approvals.find row.approvalRequestId = some approval ∧
      approval.status = .approved ∧ approval.planRevisionId.isSome) :
    Good (serve (.add row) store).2 ∧
      Step (some row.approvalRequestId) store (serve (.add row) store).2 := by
  by_cases admitted : store.admits row
  · have reusable : row.state.isReusable := by simp [available, AuthorizationState.isReusable]
    obtain ⟨absent, alone⟩ := admits_spec admitted reusable
    simp only [serve, admitted, if_true]
    refine ⟨⟨?_, ?_, ?_⟩, ?_⟩
    · intro id other found
      rcases Table.find_put_cases found with ⟨rfl, rfl⟩ | ⟨-, found⟩
      · rfl
      · exact good.ids found
    · intro id other found
      rcases Table.find_put_cases found with ⟨-, rfl⟩ | ⟨-, found⟩
      · exact approved
      · exact good.approved found
    · intro id id' first second found found' usable usable' belongs
      rcases Table.find_put_cases found with ⟨rfl, rfl⟩ | ⟨-, was⟩ <;>
        rcases Table.find_put_cases found' with ⟨rfl, rfl⟩ | ⟨-, was'⟩
      · rfl
      · exact absurd belongs.symm (alone _ _ was' usable')
      · exact absurd belongs (alone _ _ was usable)
      · exact good.unique was was' usable usable' belongs
    · refine ⟨fun _ _ => rfl, fun _ _ found _ => found, ?_, ?_, ?_⟩
      · exact fun id other found _ => Table.find_put_kept absent found row
      · exact fun id other found _ => ⟨other, Table.find_put_kept absent found row, rfl⟩
      · intro id other found none
        rcases Table.find_put_cases found with ⟨-, rfl⟩ | ⟨-, found⟩
        · exact ⟨rfl, available⟩
        · simp [none] at found
  · simp only [serve, admitted]
    exact ⟨good, Step.refl _ store⟩

end AlphaTrade.Approval
