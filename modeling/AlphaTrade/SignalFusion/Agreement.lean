import Mathlib
import AlphaTrade.SignalFusion.History
import AlphaTrade.SignalFusion.Postgres

/-!
# Agreement of the two candidate repositories

`Mirrors` says what the four tables hold when the five dictionaries hold what they hold.
Each query then finds what the dictionary lookup finds, so the two methods take the same
branch, no insert meets a unique violation, and both sides are in step again afterwards.
-/
namespace AlphaTrade.SignalFusion
open Library
open Execution (OrganizationId)

/-! ## Columns that keep their value -/

def NulFree (value : String) : Prop := Char.ofNat 0 ∉ value.toList

instance (value : String) : Decidable (NulFree value) := inferInstanceAs (Decidable (¬_))

variable {value : String}

theorem text_eq_ok (sent : NulFree value) : text value = .ok value :=
  if_neg sent

theorem varchar_eq_ok {width : Nat} (sent : NulFree value) (fits : value.length ≤ width) :
    varchar width value = .ok value := by
  unfold varchar
  rw [text_eq_ok sent]
  change (if value.length ≤ width then _ else _) = _
  rw [if_pos fits]
  rfl

theorem integer_eq_ok {value : Nat} (fits : value < 2 ^ 31) : integer value = .ok value :=
  if_pos fits

/-! ## Records that are read back as they were written -/

variable {contracts : Contracts}

/-- The candidate is its own canonical rebuild, as `build_candidate` makes it. -/
def Canonical (contracts : Contracts) (candidate : Candidate) : Prop :=
  contracts.buildCandidate candidate.toCandidatePayload = .ok candidate

variable {candidate : Candidate}

theorem candidateFromRow_eq (canonical : Canonical contracts candidate) (uniqueness : Sha256Hex) :
    contracts.candidateFromRow (candidateToRow candidate uniqueness) = .ok candidate := by
  unfold Contracts.candidateFromRow candidateToRow
  simp only [show contracts.buildCandidate candidate.toCandidatePayload = .ok candidate
    from canonical]
  simp [bind, Except.bind, ensure]
  rfl

def Rebuilt (contracts : Contracts) (transition : CandidateTransition) : Prop :=
  contracts.buildCandidateTransition transition.previousState transition.newState
    transition.transitionVersion transition.reasonCodes (.aware transition.occurredAt)
    transition.correlationId transition.idempotencyKey = .ok transition

theorem transitionFromRow_eq {transition : CandidateTransition}
    (rebuilt : Rebuilt contracts transition) (organizationId : OrganizationId)
    (candidateId : CandidateId) :
    contracts.transitionFromRow (transitionToRow organizationId candidateId transition) =
      .ok transition := by
  unfold Contracts.transitionFromRow transitionToRow
  simp only [show contracts.buildCandidateTransition transition.previousState transition.newState
    transition.transitionVersion transition.reasonCodes (.aware transition.occurredAt)
    transition.correlationId transition.idempotencyKey = .ok transition from rebuilt]
  simp [bind, Except.bind, ensure]
  rfl

theorem rebuilt_of_build {previousState newState : CandidateState} {version : Nat}
    {reasons : List CandidateReasonCode} {occurredAt : DateTime} {correlationId : Nat}
    {key : String} {built : CandidateTransition}
    (h : contracts.buildCandidateTransition previousState newState version reasons occurredAt
      correlationId key = .ok built) : Rebuilt contracts built := by
  obtain ⟨rfl, rfl, rfl, rfl, rfl, rfl, rfl⟩ := buildCandidateTransition_fields h
  exact h

/-- A candidate that is built from its own fields keeps its identity under validation. -/
theorem revalidate_of_canonical (canonical : Canonical contracts candidate) :
    contracts.revalidate candidate.evidenceIdentity = some candidate.evidenceIdentity := by
  obtain ⟨identity, revalidated, fields⟩ := buildCandidate_fields canonical
  rw [fields] at revalidated ⊢
  exact revalidated

theorem schemaVersion_of_canonical (canonical : Canonical contracts candidate) :
    candidate.schemaVersion = candidateSchema := by
  obtain ⟨_, -, fields⟩ := buildCandidate_fields canonical
  rw [fields]

/-- A projection of a canonical candidate is canonical: its identity is validated to itself
again, so the draft it is hashed from is the same. -/
theorem canonical_of_project {projection : Candidate} {state : CandidateState} {version : Nat}
    (canonical : Canonical contracts candidate)
    (h : contracts.projectCandidate candidate state version = .ok projection) :
    Canonical contracts projection := by
  obtain ⟨identity, revalidated, fields⟩ := buildCandidate_fields h
  obtain rfl := Option.some.inj (revalidated.symm.trans (revalidate_of_canonical canonical))
  unfold Canonical
  rw [fields]
  exact h

/-! ## Tables that mirror the dictionaries -/

def Contracts.rowOf (contracts : Contracts) (candidate : Candidate) : CandidateRow :=
  candidateToRow candidate (contracts.uniqueness candidate)

/-- What a dictionary and the key table hold for one transition key. -/
inductive SameBinding (contracts : Contracts) (transitions : Table TransitionId TransitionRow)
    (organizationId : OrganizationId) (candidateId : CandidateId) :
    Option CandidateTransition → Option TransitionId → Prop where
  | free : SameBinding contracts transitions organizationId candidateId none none
  | bound {transition : CandidateTransition} {transitionId : TransitionId}
      (stored : transitions.find transitionId =
        some (transitionToRow organizationId candidateId transition))
      (rebuilt : Rebuilt contracts transition) :
      SameBinding contracts transitions organizationId candidateId (some transition)
        (some transitionId)

structure Mirrors (contracts : Contracts) (memory : Memory) (tables : Tables) : Prop where
  good : Good contracts (fun _ => True) memory
  candidates : ∀ id, tables.candidates.find id = (memory.byId.find id).map contracts.rowOf
  canonical : ∀ id candidate, memory.byId.find id = some candidate → Canonical contracts candidate
  creationKeys : ∀ key, tables.creationKeys.find key =
    (memory.creationByKey.find key).bind fun uniqueness =>
      (memory.byUniqueness.find uniqueness).map fun id => ⟨uniqueness, id⟩
  owned : ∀ organizationId key uniqueness,
    memory.creationByKey.find (organizationId, key) = some uniqueness →
      ∃ candidate : Candidate, candidate.organizationId = organizationId ∧
        contracts.uniqueness candidate = uniqueness
  transitions : ∀ id candidate history, memory.byId.find id = some candidate →
    memory.history.find id = some history →
    (tables.transitions.rows.filter fun entry => entry.2.candidateId = id).map (·.2) =
      history.map (transitionToRow candidate.organizationId id)
  rebuilt : ∀ id history transition, memory.history.find id = some history →
    transition ∈ history → Rebuilt contracts transition
  known : ∀ transitionId row, tables.transitions.find transitionId = some row →
    transitionId < tables.nextTransitionId ∧ memory.byId.find row.candidateId ≠ none
  transitionKeys : ∀ organizationId id key,
    SameBinding contracts tables.transitions organizationId id
      (memory.transitionByKey.find (organizationId, id, key))
      (tables.transitionKeys.find (organizationId, id, key))

theorem mirrors_empty : Mirrors contracts .empty .empty where
  good := good_empty
  candidates := by simp [Memory.empty, Tables.empty]
  canonical := by simp [Memory.empty]
  creationKeys := by simp [Memory.empty, Tables.empty]
  owned := by simp [Memory.empty]
  transitions := by simp [Memory.empty]
  rebuilt := by simp [Memory.empty]
  known := by simp [Tables.empty]
  transitionKeys _ _ _ := .free

def SeparatesOrganizations (contracts : Contracts) : Prop :=
  ∀ tuple tuple', contracts.canonicalHash tuple = contracts.canonicalHash tuple' →
    tuple.organizationId = tuple'.organizationId

namespace Mirrors

variable {memory : Memory} {tables : Tables}

/-! ## Queries -/

variable {candidate : Candidate} {row : CandidateRow} {uniqueness : Sha256Hex}
  {transition : CandidateTransition} {transitionId : TransitionId}

theorem candidates_of_find (mirrors : Mirrors contracts memory tables) {id : CandidateId}
    (found : memory.byId.find id = some candidate) :
    tables.candidates.find id = some (contracts.rowOf candidate) := by
  rw [mirrors.candidates, found]
  rfl

/-- A row of the table is the row of a candidate. -/
theorem find_of_candidates (mirrors : Mirrors contracts memory tables) {id : CandidateId}
    (found : tables.candidates.find id = some row) :
    ∃ candidate, memory.byId.find id = some candidate ∧ row = contracts.rowOf candidate := by
  rw [mirrors.candidates] at found
  obtain ⟨candidate, found', same⟩ := Option.map_eq_some_iff.mp found
  exact ⟨candidate, found', same.symm⟩

theorem loadCandidate_eq (mirrors : Mirrors contracts memory tables)
    (organizationId : OrganizationId) (id : CandidateId) :
    tables.loadCandidate organizationId id =
      (memory.getById organizationId id).map contracts.rowOf := by
  unfold Tables.loadCandidate Memory.getById
  rw [mirrors.candidates]
  cases found : memory.byId.find id with
  | none => rfl
  | some candidate =>
    by_cases owner : candidate.organizationId = organizationId
    · simp [Option.filter_some, Contracts.rowOf, candidateToRow, owner]
    · simp [Option.filter_some, Contracts.rowOf, candidateToRow, owner]

theorem loadCreationKey_eq (mirrors : Mirrors contracts memory tables)
    (sent : NulFree candidate.idempotencyKey) :
    tables.loadCreationKey candidate.organizationId candidate.idempotencyKey =
      .ok ((memory.creationByKey.find candidate.creationKey).bind fun uniqueness =>
        (memory.byUniqueness.find uniqueness).map fun id => ⟨uniqueness, id⟩) := by
  unfold Tables.loadCreationKey
  rw [text_eq_ok sent, ← mirrors.creationKeys]
  rfl

/-- A candidate found by its fingerprint is the indexed one. -/
theorem named_of_row (mirrors : Mirrors contracts memory tables) {id : CandidateId}
    (found : tables.candidates.find id = some row) (same : row.uniquenessHash = uniqueness) :
    memory.byUniqueness.find uniqueness = some id := by
  obtain ⟨candidate, found', rfl⟩ := mirrors.find_of_candidates found
  subst same
  exact (mirrors.good.indexed id candidate found').2

theorem loadByUniqueness_eq_none (mirrors : Mirrors contracts memory tables)
    {organizationId : OrganizationId} (fresh : memory.byUniqueness.find uniqueness = none) :
    tables.loadByUniqueness organizationId uniqueness = none := by
  by_contra some
  obtain ⟨row, first⟩ := Option.ne_none_iff_exists'.mp some
  obtain ⟨id, found, selected⟩ := Table.find_of_first first
  have named := mirrors.named_of_row found (of_decide_eq_true selected).1
  simp [fresh] at named

theorem loadByUniqueness_eq_some (mirrors : Mirrors contracts memory tables)
    (separates : SeparatesOrganizations contracts) {existing : Candidate} {id : CandidateId}
    (named : memory.byUniqueness.find (contracts.uniqueness candidate) = some id)
    (found : memory.byId.find id = some existing) :
    tables.loadByUniqueness candidate.organizationId (contracts.uniqueness candidate) =
      some (contracts.rowOf existing) := by
  obtain ⟨existing', found', same⟩ := mirrors.good.held _ id named
  obtain rfl := Option.some.inj (found.symm.trans found')
  have owner : existing.organizationId = candidate.organizationId := separates _ _ same
  cases first : tables.loadByUniqueness candidate.organizationId
      (contracts.uniqueness candidate) with
  | none =>
    have skipped := Table.not_of_first_eq_none first (mirrors.candidates_of_find found)
    simp [Contracts.rowOf, candidateToRow, owner, same] at skipped
  | some row =>
    obtain ⟨id', lookup, selected⟩ := Table.find_of_first first
    have named' := mirrors.named_of_row lookup (of_decide_eq_true selected).1
    obtain rfl := Option.some.inj (named.symm.trans named')
    exact lookup.symm.trans (mirrors.candidates_of_find found)

variable {request : TransitionRequest}

theorem loadTransitionForKey_eq (mirrors : Mirrors contracts memory tables)
    (sent : NulFree request.idempotencyKey) :
    tables.loadTransitionForKey contracts request.organizationId request.candidateId
      request.idempotencyKey = .ok (memory.transitionByKey.find request.key) := by
  unfold Tables.loadTransitionForKey Tables.loadTransitionKey TransitionRequest.key
  rw [text_eq_ok sent]
  simp only [ok_bind, pure, Except.pure]
  have binding := mirrors.transitionKeys request.organizationId request.candidateId
    request.idempotencyKey
  generalize memory.transitionByKey.find _ = transition? at binding ⊢
  generalize tables.transitionKeys.find _ = transitionId? at binding ⊢
  cases binding with
  | free => rfl
  | bound stored rebuilt =>
    simp only [stored]
    rw [transitionFromRow_eq rebuilt]
    simp [transitionToRow, bind, Except.bind]

/-- In insertion order the transitions of a candidate are in the order of their versions. -/
theorem transitionsByVersion_eq (mirrors : Mirrors contracts memory tables) {id : CandidateId}
    (found : memory.byId.find id = some candidate) :
    (tables.transitionsByVersion fun row => row.candidateId = id) =
      tables.transitions.rows.filter fun entry => entry.2.candidateId = id := by
  obtain ⟨creation, history, -, -, recorded, chain⟩ := mirrors.good.recorded id candidate found
  have rows := mirrors.transitions id candidate history found recorded
  have versions : (tables.transitions.rows.filter fun entry => entry.2.candidateId = id).map
      (fun entry => entry.2.columns.transitionVersion) =
        List.range' (creation.transitionVersion + 1) history.length := by
    rw [← chain.versions_eq]
    have mapped := congrArg (List.map fun row => row.columns.transitionVersion) rows
    simpa [List.map_map, Function.comp_def, transitionToRow] using mapped
  have increasing : ((tables.transitions.rows.filter fun entry => entry.2.candidateId = id).map
      fun entry => entry.2.columns.transitionVersion).Pairwise (· < ·) := by
    rw [versions]
    exact List.pairwise_lt_range'
  exact ((List.pairwise_map.mp increasing).imp Nat.le_of_lt).insertionSort_eq

/-- The last transition of the history is the one with the highest version. -/
theorem establishingTransitionRow_eq (mirrors : Mirrors contracts memory tables) {id : CandidateId}
    (found : memory.byId.find id = some candidate) :
    match memory.establishingTransition id with
    | none => tables.establishingTransitionRow id = none
    | some transition => Rebuilt contracts transition ∧ ∃ transitionId,
        tables.transitions.find transitionId =
          some (transitionToRow candidate.organizationId id transition) ∧
        tables.establishingTransitionRow id =
          some (transitionId, transitionToRow candidate.organizationId id transition) := by
  obtain ⟨creation, history, -, -, recorded, chain⟩ := mirrors.good.recorded id candidate found
  have rows := mirrors.transitions id candidate history found recorded
  have lastRow := congrArg List.getLast? rows
  rw [List.getLast?_map, List.getLast?_map] at lastRow
  unfold Tables.establishingTransitionRow Memory.establishingTransition
  rw [mirrors.transitionsByVersion_eq found, recorded, Option.getD_some]
  cases last : history.getLast? with
  | none =>
    rw [last] at lastRow
    exact Option.map_eq_none_iff.mp lastRow
  | some transition =>
    rw [last] at lastRow
    obtain ⟨⟨transitionId, row⟩, lastEntry, same⟩ := Option.map_eq_some_iff.mp lastRow
    obtain rfl : row = transitionToRow candidate.organizationId id transition := same
    have listed := (List.mem_filter.mp (List.mem_of_getLast? lastEntry)).1
    exact ⟨mirrors.rebuilt id history transition recorded (List.mem_of_getLast? last),
      transitionId, Table.mem_rows.mp listed, lastEntry⟩

theorem mapM_transitionFromRow (history : List CandidateTransition)
    (rebuilt : ∀ transition ∈ history, Rebuilt contracts transition)
    (organizationId : OrganizationId) (id : CandidateId) :
    (history.map (transitionToRow organizationId id)).mapM contracts.transitionFromRow =
      .ok history := by
  induction history with
  | nil => rfl
  | cons transition rest ih =>
    rw [List.map_cons, List.mapM_cons, transitionFromRow_eq (rebuilt transition (by simp)), ok_bind,
      ih fun other listed => rebuilt other (List.mem_cons_of_mem _ listed), ok_bind]
    rfl

/-! ## Writes -/

theorem bindCreation (mirrors : Mirrors contracts memory tables) {id : CandidateId}
    (named : memory.byUniqueness.find (contracts.uniqueness candidate) = some id) :
    Mirrors contracts (memory.bindCreation contracts candidate)
      { tables with
        creationKeys := tables.creationKeys.put candidate.creationKey
          ⟨contracts.uniqueness candidate, id⟩ } where
  good := mirrors.good.bindCreation named
  candidates := mirrors.candidates
  canonical := mirrors.canonical
  creationKeys key := by
    by_cases same : key = candidate.creationKey
    · subst same
      simp [Memory.bindCreation, named]
    · simpa [Memory.bindCreation, same] using mirrors.creationKeys key
  owned organizationId key uniqueness found := by
    obtain ⟨same, rfl⟩ | ⟨-, before⟩ := Table.find_put_cases found
    · exact ⟨candidate, (congrArg Prod.fst same).symm, rfl⟩
    · exact mirrors.owned organizationId key uniqueness before
  transitions := mirrors.transitions
  rebuilt := mirrors.rebuilt
  known := mirrors.known
  transitionKeys := mirrors.transitionKeys

theorem insertCandidate (mirrors : Mirrors contracts memory tables)
    (fresh : memory.byUniqueness.find (contracts.uniqueness candidate) = none)
    (unoccupied : memory.byId.find candidate.candidateId = none)
    (canonical : Canonical contracts candidate) :
    Mirrors contracts (memory.insertCandidate contracts candidate)
      { tables with
        candidates := tables.candidates.put candidate.candidateId (contracts.rowOf candidate)
        creationKeys := tables.creationKeys.put candidate.creationKey
          ⟨contracts.uniqueness candidate, candidate.candidateId⟩ } where
  good := mirrors.good.insertCandidate trivial fresh unoccupied
  candidates id := by
    by_cases same : id = candidate.candidateId
    · subst same
      simp [Memory.insertCandidate]
    · simpa [Memory.insertCandidate, same] using mirrors.candidates id
  canonical id other found := by
    obtain ⟨-, rfl⟩ | ⟨-, before⟩ := Table.find_put_cases found
    · exact canonical
    · exact mirrors.canonical id other before
  creationKeys key := by
    by_cases same : key = candidate.creationKey
    · subst same
      simp [Memory.insertCandidate]
    · simp only [Memory.insertCandidate, Table.find_put_of_ne _ same]
      rw [mirrors.creationKeys key]
      cases bound : memory.creationByKey.find key with
      | none => rfl
      | some uniqueness =>
        obtain ⟨id, named⟩ := mirrors.good.bound key uniqueness bound
        simp only [Option.bind_some]
        rw [named, Table.find_put_kept fresh named]
  owned organizationId key uniqueness found := by
    obtain ⟨same, rfl⟩ | ⟨-, before⟩ := Table.find_put_cases found
    · exact ⟨candidate, (congrArg Prod.fst same).symm, rfl⟩
    · exact mirrors.owned organizationId key uniqueness before
  transitions id other history found recorded := by
    obtain ⟨rfl, rfl⟩ | ⟨differs, before⟩ := Table.find_put_cases found
    · obtain rfl : history = [] := by simpa [Memory.insertCandidate, eq_comm] using recorded
      have none : tables.transitions.rows.filter
          (fun entry => entry.2.candidateId = other.candidateId) = [] := by
        apply List.filter_eq_nil_iff.mpr
        rintro ⟨transitionId, row⟩ listed selected
        have known := (mirrors.known transitionId row (Table.mem_rows.mp listed)).2
        rw [show row.candidateId = other.candidateId by simpa using selected] at known
        exact known unoccupied
      simp [none]
    · rw [Memory.insertCandidate, Table.find_put_of_ne _ differs] at recorded
      exact mirrors.transitions id other history before recorded
  rebuilt id history transition recorded listed := by
    obtain ⟨-, rfl⟩ | ⟨-, before⟩ := Table.find_put_cases recorded
    · simp at listed
    · exact mirrors.rebuilt id history transition before listed
  known transitionId row found := by
    obtain ⟨below, known⟩ := mirrors.known transitionId row found
    obtain ⟨other, held⟩ := Option.ne_none_iff_exists'.mp known
    refine ⟨below, ?_⟩
    rw [Memory.insertCandidate, Table.find_put_kept unoccupied held]
    simp
  transitionKeys := mirrors.transitionKeys

theorem bindTransition (mirrors : Mirrors contracts memory tables)
    (stored : tables.transitions.find transitionId =
      some (transitionToRow request.organizationId request.candidateId transition))
    (rebuilt : Rebuilt contracts transition) :
    Mirrors contracts (memory.bindTransition request transition)
      { tables with
        transitionKeys := tables.transitionKeys.put request.key transitionId } := by
  have good := mirrors.good
  refine { mirrors with
    good := ⟨good.indexed, good.held, good.bound, good.recorded⟩, transitionKeys := ?_ }
  intro organizationId id key
  by_cases same : (organizationId, id, key) = request.key
  · obtain ⟨rfl, rfl, rfl⟩ : organizationId = request.organizationId ∧
        id = request.candidateId ∧ key = request.idempotencyKey := by
      simpa [TransitionRequest.key] using same
    simp only [Memory.bindTransition, TransitionRequest.key, Table.find_put_self]
    exact .bound stored rebuilt
  · simpa [Memory.bindTransition, same] using mirrors.transitionKeys organizationId id key

/-- The updated columns are those of the projection: a canonical candidate already has the
schema version and the identity that a projection is built with. -/
theorem projected_columns {current projection : Candidate} {state : CandidateState} {version : Nat}
    (canonical : Canonical contracts current)
    (h : contracts.projectCandidate current state version = .ok projection) :
    { current.toCandidatePayload with
      state := projection.state
      transitionVersion := projection.transitionVersion
      contentHash := projection.contentHash } = projection.toCandidatePayload := by
  obtain ⟨identity, revalidated, fields⟩ := buildCandidate_fields h
  obtain rfl := Option.some.inj (revalidated.symm.trans (revalidate_of_canonical canonical))
  rw [fields, ← schemaVersion_of_canonical canonical]

theorem fresh (mirrors : Mirrors contracts memory tables) :
    tables.transitions.find tables.nextTransitionId = none := by
  by_contra used
  obtain ⟨row, found⟩ := Option.ne_none_iff_exists'.mp used
  exact Nat.lt_irrefl _ (mirrors.known _ row found).1

theorem appendTransition (mirrors : Mirrors contracts memory tables)
    {current projection : Candidate} {history : List CandidateTransition}
    (held : memory.Holds request current)
    (planned : contracts.planTransition current request = .ok (transition, projection))
    (recorded : memory.history.find request.candidateId = some history) :
    Mirrors contracts (memory.appendTransition request history transition projection)
      { tables with
        candidates := tables.candidates.put request.candidateId (contracts.rowOf projection)
        transitions := tables.transitions.put tables.nextTransitionId
          (transitionToRow request.organizationId request.candidateId transition)
        transitionKeys := tables.transitionKeys.put request.key tables.nextTransitionId
        nextTransitionId := tables.nextTransitionId + 1 } := by
  have plan := planned_of_planTransition planned
  have owner := plan.projection_fields.2.1
  have rebuilt : Rebuilt contracts transition := rebuilt_of_build plan.built
  have fresh := mirrors.fresh
  refine ⟨mirrors.good.appendTransition held planned recorded, ?_, ?_, mirrors.creationKeys,
    mirrors.owned, ?_, ?_, ?_, ?_⟩
  · intro id
    by_cases same : id = request.candidateId
    · subst same
      simp [Memory.appendTransition]
    · simpa [Memory.appendTransition, same] using mirrors.candidates id
  · intro id other found
    obtain ⟨rfl, rfl⟩ | ⟨-, before⟩ := Table.find_put_cases found
    · exact canonical_of_project (mirrors.canonical _ current held.1) plan.projected
    · exact mirrors.canonical id other before
  · intro id other history' found recorded'
    rw [Table.rows_put_new fresh, List.filter_append, List.map_append]
    obtain ⟨rfl, rfl⟩ | ⟨differs, before⟩ := Table.find_put_cases found
    · obtain rfl : history ++ [transition] = history' := by
        simpa [Memory.appendTransition] using recorded'
      rw [mirrors.transitions _ current history held.1 recorded, owner]
      simp [transitionToRow, held.2]
    · rw [Memory.appendTransition, Table.find_put_of_ne _ differs] at recorded'
      rw [mirrors.transitions id other history' before recorded']
      simp [transitionToRow, Ne.symm differs]
  · intro id history' other recorded' listed
    obtain ⟨-, rfl⟩ | ⟨-, before⟩ := Table.find_put_cases recorded'
    · rcases List.mem_append.mp listed with listed | listed
      · exact mirrors.rebuilt _ history other recorded listed
      · obtain rfl := List.mem_singleton.mp listed
        exact rebuilt
    · exact mirrors.rebuilt id history' other before listed
  · intro transitionId row found
    have held' : ∀ id, memory.byId.find id ≠ none →
        (memory.appendTransition request history transition projection).byId.find id ≠ none := by
      intro id known
      by_cases same : id = request.candidateId
      · subst same
        simp [Memory.appendTransition]
      · simpa [Memory.appendTransition, same] using known
    obtain ⟨rfl, rfl⟩ | ⟨-, before⟩ := Table.find_put_cases found
    · exact ⟨Nat.lt_succ_self _, held' _ (by simp [transitionToRow, held.1])⟩
    · obtain ⟨below, known⟩ := mirrors.known transitionId row before
      exact ⟨Nat.lt_succ_of_lt below, held' _ known⟩
  · intro organizationId id key
    by_cases same : (organizationId, id, key) = request.key
    · obtain ⟨rfl, rfl, rfl⟩ : organizationId = request.organizationId ∧
          id = request.candidateId ∧ key = request.idempotencyKey := by
        simpa [TransitionRequest.key] using same
      simp only [Memory.appendTransition, TransitionRequest.key, Table.find_put_self]
      exact .bound (Table.find_put_self ..) rebuilt
    · simp only [Memory.appendTransition, Table.find_put_of_ne _ same]
      have binding := mirrors.transitionKeys organizationId id key
      generalize memory.transitionByKey.find _ = transition? at binding ⊢
      generalize tables.transitionKeys.find _ = transitionId? at binding ⊢
      cases binding with
      | free => exact .free
      | bound stored rebuilt' => exact .bound (Table.find_put_kept fresh stored _) rebuilt'

/-! ## Inserts that meet no violation -/

theorem addCreationKey_eq (tables : Tables) (row : CreationKeyRow)
    (sent : NulFree candidate.idempotencyKey)
    (free : tables.creationKeys.find candidate.creationKey = none)
    (held : tables.candidates.find row.candidateId ≠ none) :
    tables.addCreationKey candidate.organizationId candidate.idempotencyKey row =
      .ok { tables with
        creationKeys := tables.creationKeys.put candidate.creationKey row } := by
  unfold Candidate.creationKey at free
  unfold Tables.addCreationKey
  rw [varchar_eq_ok sent candidate.valid.key.2, ok_bind, ensure_of free, ok_bind, ensure_of held]
  rfl

theorem addCandidate_eq (mirrors : Mirrors contracts memory tables)
    (fresh : memory.byUniqueness.find (contracts.uniqueness candidate) = none)
    (unoccupied : memory.byId.find candidate.candidateId = none)
    (canonical : Canonical contracts candidate) (key : NulFree candidate.idempotencyKey)
    (policy : NulFree candidate.fusionPolicyVersion)
    (instrument : NulFree candidate.evidenceInstrument)
    (version : candidate.transitionVersion < 2 ^ 31) :
    tables.addCandidate (contracts.rowOf candidate) =
      .ok { tables with
        candidates :=
          tables.candidates.put candidate.candidateId (contracts.rowOf candidate) } := by
  have schema : varchar 64 candidate.schemaVersion = .ok candidate.schemaVersion := by
    rw [schemaVersion_of_canonical canonical]
    exact varchar_eq_ok (by decide) (by decide)
  have noRow : ∀ selects : CandidateRow → Bool,
      (∀ row, selects row → row.uniquenessHash = contracts.uniqueness candidate ∨
        row.columns.uniquenessTuple = candidate.uniquenessTuple) →
      (tables.candidates.first selects).isNone := by
    intro selects means
    rw [Option.isNone_iff_eq_none]
    by_contra some
    obtain ⟨row, first⟩ := Option.ne_none_iff_exists'.mp some
    obtain ⟨id, found, selected⟩ := Table.find_of_first first
    have same : row.uniquenessHash = contracts.uniqueness candidate := by
      obtain same | same := means row selected
      · exact same
      · obtain ⟨other, -, rfl⟩ := mirrors.find_of_candidates found
        exact congrArg contracts.canonicalHash same
    have named := mirrors.named_of_row found same
    simp [fresh] at named
  have unused : tables.candidates.find candidate.candidateId = none := by
    rw [mirrors.candidates, unoccupied]
    rfl
  unfold Tables.addCandidate Contracts.rowOf candidateToRow
  simp only [schema, varchar_eq_ok policy candidate.valid.policyVersion.2,
    varchar_eq_ok instrument candidate.valid.instrument.2,
    varchar_eq_ok key candidate.valid.key.2, integer_eq_ok version, ok_bind]
  rw [ensure_of unused, ok_bind,
    ensure_of (noRow _ fun row selected => .inl (of_decide_eq_true selected)), ok_bind,
    ensure_of (noRow _ fun row selected => .inr (of_decide_eq_true selected))]
  rfl

theorem convergeCreation_eq (mirrors : Mirrors contracts memory tables) {existing : Candidate}
    {id : CandidateId} (sent : NulFree candidate.idempotencyKey)
    (free : memory.creationByKey.find candidate.creationKey = none)
    (found : memory.byId.find id = some existing) :
    tables.convergeCreation contracts candidate (contracts.rowOf existing) =
      .ok (existing, { tables with
        creationKeys := tables.creationKeys.put candidate.creationKey
          ⟨contracts.uniqueness candidate, id⟩ }) := by
  obtain rfl := (mirrors.good.indexed id existing found).1
  have unbound : tables.creationKeys.find candidate.creationKey = none := by
    rw [mirrors.creationKeys, free]
    rfl
  have held : tables.candidates.find existing.candidateId ≠ none := by
    simp [mirrors.candidates_of_find found]
  have lookup := mirrors.loadCreationKey_eq sent
  rw [free, Option.bind_none] at lookup
  unfold Tables.convergeCreation Tables.insertCreationKey
  simp only [lookup, ok_bind, Contracts.rowOf]
  rw [addCreationKey_eq tables _ sent unbound held, savepoint, ok_bind,
    candidateFromRow_eq (mirrors.canonical _ existing found)]
  rfl

/-- No row of the candidate has the next version. -/
theorem versions_below (mirrors : Mirrors contracts memory tables) {id : CandidateId}
    (found : memory.byId.find id = some candidate) {row : TransitionRow}
    (stored : tables.transitions.find transitionId = some row) (same : row.candidateId = id) :
    row.columns.transitionVersion ≤ candidate.transitionVersion := by
  obtain ⟨creation, history, -, -, recorded, chain⟩ := mirrors.good.recorded id candidate found
  have listed : row ∈ history.map (transitionToRow candidate.organizationId id) := by
    rw [← mirrors.transitions id candidate history found recorded]
    exact List.mem_map.mpr ⟨(transitionId, row),
      List.mem_filter.mpr ⟨Table.mem_rows.mpr stored, by simpa using same⟩, rfl⟩
  obtain ⟨transition, mem, rfl⟩ := List.mem_map.mp listed
  have counted : transition.transitionVersion ∈
      List.range' (creation.transitionVersion + 1) history.length := by
    rw [← chain.versions_eq]
    exact List.mem_map_of_mem mem
  have bounds := List.mem_range'_1.mp counted
  have last := chain.version_eq
  simp only [transitionToRow]
  omega

theorem addTransition_eq (mirrors : Mirrors contracts memory tables)
    {current projection : Candidate} (held : memory.Holds request current)
    (plan : Planned contracts current request transition projection)
    (sent : NulFree request.idempotencyKey) (version : current.transitionVersion + 1 < 2 ^ 31) :
    tables.addTransition
        (transitionToRow request.organizationId request.candidateId transition) =
      .ok (tables.nextTransitionId, { tables with
        transitions := tables.transitions.put tables.nextTransitionId
          (transitionToRow request.organizationId request.candidateId transition)
        nextTransitionId := tables.nextTransitionId + 1 }) := by
  have key : varchar 120 transition.idempotencyKey = .ok transition.idempotencyKey :=
    varchar_eq_ok (plan.key ▸ sent) transition.key.2
  have number : integer transition.transitionVersion = .ok transition.transitionVersion :=
    integer_eq_ok (plan.version ▸ version)
  have noRow : (tables.transitions.first fun other =>
      other.candidateId = request.candidateId ∧
        other.columns.transitionVersion = transition.transitionVersion).isNone := by
    rw [Option.isNone_iff_eq_none]
    by_contra some
    obtain ⟨row, first⟩ := Option.ne_none_iff_exists'.mp some
    obtain ⟨transitionId, found, selected⟩ := Table.find_of_first first
    obtain ⟨same, next⟩ := of_decide_eq_true selected
    have below := mirrors.versions_below held.1 found same
    rw [next, plan.version] at below
    omega
  have known : tables.candidates.find request.candidateId ≠ none := by
    simp [mirrors.candidates_of_find held.1]
  unfold Tables.addTransition transitionToRow
  simp only [key, number, ok_bind]
  rw [ensure_of mirrors.fresh, ok_bind, ensure_of noRow, ok_bind, ensure_of known]
  rfl

theorem addTransitionKey_eq (tables : Tables) (transitionId : TransitionId)
    (sent : NulFree request.idempotencyKey) (fits : request.idempotencyKey.length ≤ 120)
    (free : tables.transitionKeys.find request.key = none)
    (known : tables.candidates.find request.candidateId ≠ none)
    (stored : tables.transitions.find transitionId ≠ none) :
    tables.addTransitionKey request.organizationId request.candidateId request.idempotencyKey
        transitionId =
      .ok { tables with
        transitionKeys := tables.transitionKeys.put request.key transitionId } := by
  unfold TransitionRequest.key at free
  unfold Tables.addTransitionKey
  rw [varchar_eq_ok sent fits, ok_bind, ensure_of free, ok_bind, ensure_of known, ok_bind,
    ensure_of stored]
  rfl

/-- A key that no dictionary entry has is in no row. -/
theorem transitionKeys_eq_none (mirrors : Mirrors contracts memory tables)
    (free : memory.transitionByKey.find request.key = none) :
    tables.transitionKeys.find request.key = none := by
  have binding := mirrors.transitionKeys request.organizationId request.candidateId
    request.idempotencyKey
  change SameBinding _ _ _ _ (memory.transitionByKey.find request.key)
    (tables.transitionKeys.find request.key) at binding
  rw [free] at binding
  generalize tables.transitionKeys.find request.key = transitionId? at binding ⊢
  cases binding
  rfl

end Mirrors

/-! ## Calls that the tables can store -/

/-- What a call must meet for the tables to store what the dictionaries store: its texts can
be sent; a candidate that is inserted is its own canonical rebuild with a version of 32 bits;
a key that converges fits its column; and an appended transition has a version of 32 bits. -/
def Storable (contracts : Contracts) (memory : Memory) : Call → Prop
  | .getOrInsertCreated candidate =>
    NulFree candidate.idempotencyKey ∧
      (memory.creationByKey.find candidate.creationKey = none →
        memory.byUniqueness.find (contracts.uniqueness candidate) = none →
        memory.byId.find candidate.candidateId = none →
        Canonical contracts candidate ∧ NulFree candidate.fusionPolicyVersion ∧
          NulFree candidate.evidenceInstrument ∧ candidate.transitionVersion < 2 ^ 31)
  | .applyTransition request =>
    ∀ current ∈ memory.getById request.organizationId request.candidateId,
      NulFree request.idempotencyKey ∧
        (memory.transitionByKey.find request.key = none →
          if current.state = request.newState then
            ∀ established ∈ memory.establishingTransition request.candidateId,
              transitionIntentMatches established request → request.idempotencyKey.length ≤ 120
          else
            (contracts.planTransition current request).isOk →
              current.transitionVersion + 1 < 2 ^ 31)
  | _ => True

instance (contracts : Contracts) (candidate : Candidate) :
    Decidable (Canonical contracts candidate) := inferInstanceAs (Decidable (_ = _))

instance (contracts : Contracts) (memory : Memory) :
    ∀ call, Decidable (Storable contracts memory call)
  | .getOrInsertCreated _ => inferInstanceAs (Decidable (_ ∧ _))
  | .applyTransition request =>
    inferInstanceAs (Decidable (∀ current ∈ memory.getById request.organizationId
      request.candidateId, _))
  | .getById .. => .isTrue trivial
  | .listTransitions .. => .isTrue trivial

/-- Both methods raise the same failure and the tables stay, or both return the same record
and the tables they leave mirror the dictionaries. -/
inductive Alike (contracts : Contracts) (tables : Tables) :
    Except Failure Candidate × Memory → Except Failure (Candidate × Tables) → Prop where
  | raised {failure : Failure} {memory : Memory} (mirrors : Mirrors contracts memory tables) :
      Alike contracts tables (.error failure, memory) (.error failure)
  | returned {record : Candidate} {memory : Memory} {tables' : Tables}
      (mirrors : Mirrors contracts memory tables') :
      Alike contracts tables (.ok record, memory) (.ok (record, tables'))

variable {memory : Memory} {tables : Tables}

theorem Alike.commit {outcome : Except Failure Candidate × Memory}
    {result : Except Failure (Candidate × Tables)} (h : Alike contracts tables outcome result) :
    (tables.commit result).1 = outcome.1.map .candidate ∧
      Mirrors contracts outcome.2 (tables.commit result).2 := by
  cases h with
  | raised mirrors => exact ⟨rfl, mirrors⟩
  | returned mirrors => exact ⟨rfl, mirrors⟩

/-! ### Creation -/

section Creation

variable {candidate : Candidate}

theorem alike_bound (mirrors : Mirrors contracts memory tables)
    (separates : SeparatesOrganizations contracts) (sent : NulFree candidate.idempotencyKey)
    {uniqueness : Sha256Hex}
    (bound : memory.creationByKey.find candidate.creationKey = some uniqueness) :
    Alike contracts tables (memory.getOrInsertCreated contracts candidate)
      (tables.getOrInsertCreated contracts candidate) := by
  obtain ⟨id, named⟩ := mirrors.good.bound _ uniqueness bound
  have lookup := mirrors.loadCreationKey_eq sent
  rw [bound, Option.bind_some, named, Option.map_some] at lookup
  have onTables : tables.getOrInsertCreated contracts candidate =
      tables.replayCreation contracts candidate ⟨uniqueness, id⟩ := by
    unfold Tables.getOrInsertCreated
    rw [lookup]
    rfl
  rw [onTables, Tables.replayCreation]
  by_cases same : uniqueness = contracts.uniqueness candidate
  · obtain ⟨existing, found, fingerprint⟩ := mirrors.good.held _ id named
    obtain ⟨binder, owner, binds⟩ := mirrors.owned _ _ uniqueness bound
    have owns : existing.organizationId = binder.organizationId :=
      separates _ _ (fingerprint.trans binds.symm)
    have visible : memory.getById candidate.organizationId id = some existing := by
      simp [Memory.getById, found, Option.filter_some, owns, owner]
    have onMemory : memory.getOrInsertCreated contracts candidate = (.ok existing, memory) := by
      simp [Memory.getOrInsertCreated, bound, same, Memory.itemByUniqueness, Memory.item,
        same ▸ named, found]
    rw [onMemory, ensure_of same, ok_bind, mirrors.loadCandidate_eq, visible, Option.map_some]
    simp only [Contracts.rowOf, candidateFromRow_eq (mirrors.canonical id existing found), ok_bind]
    exact .returned mirrors
  · have onMemory : memory.getOrInsertCreated contracts candidate =
        (.error creationKeyConflict, memory) := by
      simp [Memory.getOrInsertCreated, bound, same]
    rw [onMemory, ensure_of_not same]
    exact .raised mirrors

theorem alike_existing (mirrors : Mirrors contracts memory tables)
    (separates : SeparatesOrganizations contracts) (sent : NulFree candidate.idempotencyKey)
    (free : memory.creationByKey.find candidate.creationKey = none) {id : CandidateId}
    (named : memory.byUniqueness.find (contracts.uniqueness candidate) = some id) :
    Alike contracts tables (memory.getOrInsertCreated contracts candidate)
      (tables.getOrInsertCreated contracts candidate) := by
  obtain ⟨existing, found, -⟩ := mirrors.good.held _ id named
  have lookup := mirrors.loadCreationKey_eq sent
  rw [free, Option.bind_none] at lookup
  have onMemory : memory.getOrInsertCreated contracts candidate =
      (.ok existing, memory.bindCreation contracts candidate) := by
    simp [Memory.getOrInsertCreated, free, named, Memory.item, Memory.bindCreation, found]
  have onTables : tables.getOrInsertCreated contracts candidate =
      tables.convergeCreation contracts candidate (contracts.rowOf existing) := by
    unfold Tables.getOrInsertCreated
    simp only [lookup, ok_bind, mirrors.loadByUniqueness_eq_some separates named found]
  rw [onMemory, onTables, mirrors.convergeCreation_eq sent free found]
  exact .returned (mirrors.bindCreation named)

theorem alike_fresh (mirrors : Mirrors contracts memory tables)
    (storable : Storable contracts memory (.getOrInsertCreated candidate))
    (free : memory.creationByKey.find candidate.creationKey = none)
    (fresh : memory.byUniqueness.find (contracts.uniqueness candidate) = none) :
    Alike contracts tables (memory.getOrInsertCreated contracts candidate)
      (tables.getOrInsertCreated contracts candidate) := by
  obtain ⟨sent, insertable⟩ := storable
  have lookup := mirrors.loadCreationKey_eq sent
  rw [free, Option.bind_none] at lookup
  unfold Tables.getOrInsertCreated
  simp only [lookup, ok_bind, mirrors.loadByUniqueness_eq_none fresh]
  cases occupied : memory.byId.find candidate.candidateId with
  | some other =>
    have differs : (contracts.rowOf other).uniquenessHash ≠ contracts.uniqueness candidate := by
      intro same
      have named := mirrors.named_of_row (mirrors.candidates_of_find occupied) same
      simp [fresh] at named
    have onMemory : memory.getOrInsertCreated contracts candidate =
        (.error occupiedId, memory) := by
      simp [Memory.getOrInsertCreated, free, fresh, occupied]
    simp only [onMemory, mirrors.candidates_of_find occupied]
    rw [ensure_of_not differs]
    exact .raised mirrors
  | none =>
    obtain ⟨canonical, policy, instrument, version⟩ := insertable free fresh occupied
    have unused : tables.candidates.find candidate.candidateId = none := by
      rw [mirrors.candidates, occupied]
      rfl
    have unbound : tables.creationKeys.find candidate.creationKey = none := by
      rw [mirrors.creationKeys, free]
      rfl
    have onMemory : memory.getOrInsertCreated contracts candidate =
        (.ok candidate, memory.insertCandidate contracts candidate) := by
      simp [Memory.getOrInsertCreated, free, fresh, occupied]
    have added := mirrors.addCandidate_eq fresh occupied canonical sent policy instrument version
    have bound := Mirrors.addCreationKey_eq
      { tables with
        candidates := tables.candidates.put candidate.candidateId (contracts.rowOf candidate) }
      ⟨contracts.uniqueness candidate, candidate.candidateId⟩ sent unbound (by simp)
    unfold Contracts.rowOf at added bound
    simp only [onMemory, unused, added, bound, ok_bind]
    exact .returned (mirrors.insertCandidate fresh occupied canonical)

theorem alike_created (mirrors : Mirrors contracts memory tables)
    (separates : SeparatesOrganizations contracts)
    (storable : Storable contracts memory (.getOrInsertCreated candidate)) :
    Alike contracts tables (memory.getOrInsertCreated contracts candidate)
      (tables.getOrInsertCreated contracts candidate) := by
  cases bound : memory.creationByKey.find candidate.creationKey with
  | some uniqueness => exact alike_bound mirrors separates storable.1 bound
  | none =>
    cases named : memory.byUniqueness.find (contracts.uniqueness candidate) with
    | some id => exact alike_existing mirrors separates storable.1 bound named
    | none => exact alike_fresh mirrors storable bound named

end Creation

/-! ### Transitions -/

section Transition

variable {request : TransitionRequest} {current : Candidate}

theorem getById_of_holds (held : memory.Holds request current) :
    memory.getById request.organizationId request.candidateId = some current := by
  simp [Memory.getById, held.1, Option.filter_some, held.2]

theorem alike_converged (mirrors : Mirrors contracts memory tables)
    (held : memory.Holds request current) (sent : NulFree request.idempotencyKey)
    (free : memory.transitionByKey.find request.key = none)
    (same : current.state = request.newState)
    (fits : ∀ established, memory.establishingTransition request.candidateId = some established →
      transitionIntentMatches established request → request.idempotencyKey.length ≤ 120) :
    Alike contracts tables (memory.applyTransition contracts request)
      (tables.convergeTransition contracts request current) := by
  have established := mirrors.establishingTransitionRow_eq held.1
  unfold Memory.applyTransition Tables.convergeTransition
  simp only [getById_of_holds held, free, if_pos same]
  cases last : memory.establishingTransition request.candidateId with
  | none =>
    rw [last] at established
    rw [established]
    exact .raised mirrors
  | some transition =>
    rw [last, held.2] at established
    obtain ⟨rebuilt, transitionId, stored, lastRow⟩ := established
    simp only [lastRow, transitionFromRow_eq rebuilt, ok_bind]
    by_cases matched : transitionIntentMatches transition request
    · have unbound := mirrors.transitionKeys_eq_none free
      have lookup : tables.loadTransitionKey request.organizationId request.candidateId
          request.idempotencyKey = .ok none := by
        unfold Tables.loadTransitionKey
        rw [text_eq_ok sent, ok_bind]
        exact congrArg Except.ok unbound
      rw [if_pos matched, ensure_of matched, ok_bind, Tables.insertTransitionKey, lookup]
      simp only [ok_bind]
      rw [Mirrors.addTransitionKey_eq tables _ sent (fits transition last matched) unbound
        (by simp [mirrors.candidates_of_find held.1]) (by simp [stored])]
      exact .returned (mirrors.bindTransition stored rebuilt)
    · rw [if_neg matched, ensure_of_not matched]
      exact .raised mirrors

theorem addApplied_eq (mirrors : Mirrors contracts memory tables)
    (held : memory.Holds request current) (sent : NulFree request.idempotencyKey)
    (free : memory.transitionByKey.find request.key = none) {transition : CandidateTransition}
    {projection : Candidate} (plan : Planned contracts current request transition projection)
    (version : current.transitionVersion + 1 < 2 ^ 31) :
    tables.addApplied request (contracts.rowOf current) transition projection =
      .ok (projection, { tables with
        candidates := tables.candidates.put request.candidateId (contracts.rowOf projection)
        transitions := tables.transitions.put tables.nextTransitionId
          (transitionToRow request.organizationId request.candidateId transition)
        transitionKeys := tables.transitionKeys.put request.key tables.nextTransitionId
        nextTransitionId := tables.nextTransitionId + 1 }) := by
  obtain ⟨-, -, sameTuple, -, nextVersion⟩ := plan.projection_fields
  have ownId : (contracts.rowOf current).columns.candidateId = request.candidateId :=
    (mirrors.good.indexed _ current held.1).1
  have number : integer projection.transitionVersion = .ok projection.transitionVersion :=
    integer_eq_ok (nextVersion ▸ version)
  have bound := Mirrors.addTransitionKey_eq
    { tables with
      transitions := tables.transitions.put tables.nextTransitionId
        (transitionToRow request.organizationId request.candidateId transition)
      nextTransitionId := tables.nextTransitionId + 1 }
    tables.nextTransitionId sent (plan.key ▸ transition.key.2)
    (mirrors.transitionKeys_eq_none free) (by simp [mirrors.candidates_of_find held.1]) (by simp)
  have columns := Mirrors.projected_columns (mirrors.canonical _ current held.1) plan.projected
  have row : ({ contracts.rowOf current with columns := { (contracts.rowOf current).columns with
      state := projection.state
      transitionVersion := projection.transitionVersion
      contentHash := projection.contentHash } } : CandidateRow) = contracts.rowOf projection := by
    simp only [Contracts.rowOf, candidateToRow, columns, Contracts.uniqueness, sameTuple]
  rw [Tables.addApplied, mirrors.addTransition_eq held plan sent version]
  simp only [ok_bind, bound, Tables.applyProjection, number]
  rw [row, ownId]
  rfl

theorem alike_appended (mirrors : Mirrors contracts memory tables)
    (held : memory.Holds request current) (sent : NulFree request.idempotencyKey)
    (free : memory.transitionByKey.find request.key = none)
    (other : current.state ≠ request.newState)
    (version : ∀ plan, contracts.planTransition current request = .ok plan →
      current.transitionVersion + 1 < 2 ^ 31) :
    Alike contracts tables (memory.applyTransition contracts request)
      (tables.appendTransition contracts request (contracts.rowOf current) current) := by
  unfold Tables.appendTransition
  cases planned : contracts.planTransition current request with
  | error failure =>
    have onMemory : memory.applyTransition contracts request = (.error failure, memory) := by
      simp [Memory.applyTransition, getById_of_holds held, free, other, planned]
    rw [onMemory, error_bind]
    exact .raised mirrors
  | ok plan =>
    obtain ⟨transition, projection⟩ := plan
    obtain ⟨-, history, -, -, recorded, -⟩ := mirrors.good.recorded _ current held.1
    have onMemory : memory.applyTransition contracts request =
        (.ok projection, memory.appendTransition request history transition projection) := by
      simp [Memory.applyTransition, getById_of_holds held, free, other, planned, recorded]
    have added := addApplied_eq mirrors held sent free (planned_of_planTransition planned)
      (version _ planned)
    simp only [onMemory, ok_bind, added, savepoint]
    exact .returned (mirrors.appendTransition held planned recorded)

theorem alike_applied (mirrors : Mirrors contracts memory tables)
    (storable : Storable contracts memory (.applyTransition request)) :
    Alike contracts tables (memory.applyTransition contracts request)
      (tables.applyTransition contracts request) := by
  have lookup := mirrors.loadCandidate_eq request.organizationId request.candidateId
  cases visible : memory.getById request.organizationId request.candidateId with
  | none =>
    have onMemory : memory.applyTransition contracts request =
        (.error unknownCandidate, memory) := by
      simp [Memory.applyTransition, visible]
    rw [visible, Option.map_none] at lookup
    rw [onMemory, Tables.applyTransition, lookup]
    exact .raised mirrors
  | some current =>
    have held := holds_of_getById visible
    obtain ⟨sent, storable⟩ := storable current visible
    rw [visible, Option.map_some] at lookup
    cases found : memory.transitionByKey.find request.key with
    | some stored =>
      have onTables : tables.applyTransition contracts request =
          (ensure (transitionIntentMatches stored request) transitionKeyConflict >>= fun _ =>
            .ok (current, tables)) := by
        unfold Tables.applyTransition
        simp only [lookup, mirrors.loadTransitionForKey_eq sent, found, ok_bind]
        rw [Contracts.rowOf, candidateFromRow_eq (mirrors.canonical _ current held.1), ok_bind]
        rfl
      rw [onTables]
      by_cases matched : transitionIntentMatches stored request
      · have onMemory : memory.applyTransition contracts request = (.ok current, memory) := by
          simp [Memory.applyTransition, visible, found, matched]
        simp only [onMemory, ensure_of matched, ok_bind]
        exact .returned mirrors
      · have onMemory : memory.applyTransition contracts request =
            (.error transitionKeyConflict, memory) := by
          simp [Memory.applyTransition, visible, found, matched]
        simp only [onMemory, ensure_of_not matched, error_bind]
        exact .raised mirrors
    | none =>
      have onTables : tables.applyTransition contracts request =
          if current.state = request.newState then
            tables.convergeTransition contracts request current
          else tables.appendTransition contracts request (contracts.rowOf current) current := by
        unfold Tables.applyTransition
        simp only [lookup, mirrors.loadTransitionForKey_eq sent, found, ok_bind]
        rw [Contracts.rowOf, candidateFromRow_eq (mirrors.canonical _ current held.1), ok_bind]
      rw [onTables]
      have fits := storable found
      by_cases same : current.state = request.newState
      · simp only [if_pos same] at fits ⊢
        exact alike_converged mirrors held sent found same fits
      · simp only [if_neg same] at fits ⊢
        refine alike_appended mirrors held sent found same fun plan planned => fits ?_
        rw [planned]
        rfl

end Transition

/-! ## Every sequence of calls -/

theorem getById_eq (mirrors : Mirrors contracts memory tables) (organizationId : OrganizationId)
    (id : CandidateId) :
    tables.getById contracts organizationId id = .ok (memory.getById organizationId id) := by
  unfold Tables.getById
  rw [mirrors.loadCandidate_eq]
  cases visible : memory.getById organizationId id with
  | none => rfl
  | some candidate =>
    have found := (Option.filter_eq_some_iff.mp visible).1
    simp only [Option.map_some, Contracts.rowOf,
      candidateFromRow_eq (mirrors.canonical id candidate found)]
    rfl

theorem listTransitions_eq (mirrors : Mirrors contracts memory tables)
    (organizationId : OrganizationId) (id : CandidateId) :
    tables.listTransitions contracts organizationId id =
      .ok (memory.listTransitions organizationId id) := by
  unfold Tables.listTransitions Memory.listTransitions
  rw [mirrors.loadCandidate_eq]
  cases visible : memory.getById organizationId id with
  | none => rfl
  | some candidate =>
    obtain ⟨found, owner⟩ := Option.filter_eq_some_iff.mp visible
    have owned : candidate.organizationId = organizationId := by simpa using owner
    obtain ⟨-, history, -, -, recorded, -⟩ := mirrors.good.recorded id candidate found
    have rows := mirrors.transitions id candidate history found recorded
    have sameRows : (tables.transitionsByVersion fun row =>
        row.organizationId = organizationId ∧ row.candidateId = id) =
        tables.transitionsByVersion fun row => row.candidateId = id := by
      unfold Tables.transitionsByVersion
      congr 1
      apply List.filter_congr
      intro entry listed
      by_cases same : entry.2.candidateId = id
      · have mapped : entry.2 ∈ history.map (transitionToRow candidate.organizationId id) := by
          rw [← rows]
          exact List.mem_map_of_mem (List.mem_filter.mpr ⟨listed, by simpa using same⟩)
        obtain ⟨transition, -, row⟩ := List.mem_map.mp mapped
        simp [← row, transitionToRow, owned]
      · simp [same]
    simp only [Option.map_some, recorded, Option.getD_some]
    rw [sameRows, mirrors.transitionsByVersion_eq found]
    have mapped := congrArg (List.mapM contracts.transitionFromRow) rows
    rw [List.mapM_map] at mapped
    refine mapped.trans ?_
    exact Mirrors.mapM_transitionFromRow history (mirrors.rebuilt id history · recorded) _ _

/-- One call that the tables can store is answered alike. -/
theorem serve_alike (separates : SeparatesOrganizations contracts) (memory : Memory)
    (tables : Tables) (call : Call) (mirrors : Mirrors contracts memory tables)
    (storable : Storable contracts memory call) :
    (tables.serve contracts call).1 = (memory.serve contracts call).1 ∧
      Mirrors contracts (memory.serve contracts call).2 (tables.serve contracts call).2 := by
  cases call with
  | getOrInsertCreated candidate => exact (alike_created mirrors separates storable).commit
  | applyTransition request => exact (alike_applied mirrors storable).commit
  | getById organizationId id =>
    refine ⟨?_, mirrors⟩
    simp only [Tables.serve, getById_eq mirrors]
    rfl
  | listTransitions organizationId id =>
    refine ⟨?_, mirrors⟩
    simp only [Tables.serve, listTransitions_eq mirrors]
    rfl

/-- In every sequence of calls that the tables can store, the two repositories return the
same records, raise the same failures, and end with the same candidates and histories. -/
theorem repositories_agree (contracts : Contracts) (separates : SeparatesOrganizations contracts)
    (calls : List Call)
    (storable : Along (Memory.step contracts) (Storable contracts) .empty calls) :
    answers (Tables.serve contracts) .empty calls = answers (Memory.serve contracts) .empty calls ∧
      ∀ organizationId id,
        (run (Tables.step contracts) .empty calls).getById contracts organizationId id =
          .ok ((run (Memory.step contracts) .empty calls).getById organizationId id) ∧
        (run (Tables.step contracts) .empty calls).listTransitions contracts organizationId id =
          .ok ((run (Memory.step contracts) .empty calls).listTransitions organizationId id) := by
  obtain ⟨same, mirrors⟩ := answers_eq (serve_alike separates) mirrors_empty storable
  exact ⟨same, fun organizationId id =>
    ⟨getById_eq mirrors organizationId id, listTransitions_eq mirrors organizationId id⟩⟩

/-! ## A key that does not fit -/

theorem samplePayload_valid : samplePayload.Valid := by decide

def sampleCreation : Candidate :=
  { samplePayload with valid := samplePayload_valid }

def sampleRequest (idempotencyKey : String) : TransitionRequest where
  organizationId := 1
  candidateId := 1
  newState := .planCreated
  reasonCodes := [.planCreated]
  idempotencyKey := idempotencyKey
  correlationId := 1
  occurredAt := none
  now := .aware 1

def longKey : String := String.ofList (List.replicate 121 'k')

/-- Under the long key the dictionaries converge on the plan that is already created, and the
database raises. -/
theorem repositories_differ_on_long_key :
    let calls := [.getOrInsertCreated sampleCreation, .applyTransition (sampleRequest "plan-one"),
      .applyTransition (sampleRequest longKey)]
    (answers (Memory.serve sampleContracts) .empty calls).getLast? =
        some (.ok (.candidate
          { samplePayload with
            state := .planCreated, transitionVersion := 2, valid := by decide })) ∧
      (answers (Tables.serve sampleContracts) .empty calls).getLast? =
        some (.error .dataError) := by
  decide +kernel

/-- A creation, a transition and its replay under a second key that fits. -/
theorem repositories_agree_on_short_key :
    let calls := [.getOrInsertCreated sampleCreation, .applyTransition (sampleRequest "plan-one"),
      .applyTransition (sampleRequest "plan-two")]
    answers (Tables.serve sampleContracts) .empty calls =
      answers (Memory.serve sampleContracts) .empty calls := by
  refine (repositories_agree sampleContracts (fun _ _ same => same) _ ?_).1
  decide

end AlphaTrade.SignalFusion
