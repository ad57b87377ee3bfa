import AlphaTrade.Library.Episodes
import AlphaTrade.Watcher.Expiry

/-!
# A recorded success is replayed

Calls of the orchestrator one after another, each of which may be cut off before any of its
requests while the clock moves on. Only an attempt that is STARTED is ever updated, and a
lineage that has succeeded is never written again. So a success stays once both writes of its
publication are there, and every later cycle for the request finds it before it comes to the
evaluator. Between the two writes nothing is promised here.
-/
namespace AlphaTrade.Watcher
open Library Program Rules
open Execution (OrganizationId Instant)

def Operation.SparesAttempts : Operation → Prop
  | .insertAttempt _ | .updateAttempt _ => False
  | _ => True

variable {operation : Operation} {lineageId : LineageId} {organizationId : OrganizationId}
  {attempt row : ScanAttempt} {lineage : ScanLineage}

/-- Such a call leaves the attempts alone, and a schedule that is there stays. -/
theorem Store.Written.calm {backend : Backend} {store after : Store}
    (written : Store.Written backend store operation after) (spares : operation.SparesAttempts) :
    after.attempts = store.attempts ∧ ∀ key row, store.schedules.find key = some row →
      after.schedules.find key = some row := by
  cases written with
  | nothing | lineage | publication | sourceFetch | subscriptionEval | heartbeat | health =>
    exact ⟨rfl, fun _ _ found => found⟩
  | schedule row absent => exact ⟨rfl, fun _ _ found => Table.find_put_kept absent found row⟩
  | attemptInserted | attemptUpdated => exact spares.elim
  | claimed =>
    rw [Store.claimLease_frame]
    exact ⟨rfl, fun _ _ found => found⟩
  | renewed =>
    rw [Store.renewLease_frame]
    exact ⟨rfl, fun _ _ found => found⟩

namespace World

/-! ## What a call keeps -/

/-- Schedules, successes and attempts that are no longer STARTED stay as they are. -/
structure Advances (world now : World) : Prop where
  schedules : ∀ key row, world.store.schedules.find key = some row →
    now.store.schedules.find key = some row
  lineages : world.SucceededKept now
  attempts : ∀ attemptId row, world.store.attempts.find attemptId = some row →
    row.status ≠ .started → now.store.attempts.find attemptId = some row

theorem Advances.refl (world : World) : world.Advances world :=
  ⟨fun _ _ found => found, fun found _ => found, fun _ _ found _ => found⟩

theorem Advances.trans {world next now : World} (first : world.Advances next)
    (second : next.Advances now) : world.Advances now where
  schedules key row found := second.schedules key row (first.schedules key row found)
  lineages found succeeded := second.lineages (first.lineages found succeeded) succeeded
  attempts attemptId row found final :=
    second.attempts attemptId row (first.attempts attemptId row found final) final

/-- No attempt was touched either. -/
structure Calm (world now : World) : Prop extends Advances world now where
  same : now.store.attempts = world.store.attempts

theorem Calm.refl (world : World) : world.Calm world := ⟨.refl world, rfl⟩

theorem Calm.trans {world next now : World} (first : world.Calm next) (second : next.Calm now) :
    world.Calm now :=
  ⟨first.toAdvances.trans second.toAdvances, second.same.trans first.same⟩

/-- Attempts are filed under their own identifiers, which the factory has given out. -/
structure Good (world : World) : Prop where
  key : ∀ {attemptId row}, world.store.attempts.find attemptId = some row →
    row.attemptId = attemptId
  drawn : ∀ {attemptId row}, world.store.attempts.find attemptId = some row →
    attemptId < world.nextId

theorem good_initial (clock : Instant) : (World.initial clock).Good := by
  constructor <;>
  · intro attemptId row found
    simp [World.initial, Store.empty, Table.empty] at found

theorem Good.of_same {world now : World} (good : world.Good)
    (same : now.store.attempts = world.store.attempts) (drawn : world.nextId ≤ now.nextId) :
    now.Good where
  key found := good.key (same ▸ found)
  drawn found := (good.drawn (same ▸ found)).trans_le drawn

theorem Good.write {world now : World} (good : world.Good) {row : ScanAttempt}
    (written : now.store.attempts = world.store.attempts.put row.attemptId row)
    (drawn : row.attemptId < world.nextId) (same : now.nextId = world.nextId) : now.Good where
  key found := by
    rw [written] at found
    obtain ⟨rfl, rfl⟩ | ⟨-, before⟩ := Table.find_put_cases found
    · rfl
    · exact good.key before
  drawn found := by
    rw [written] at found
    obtain ⟨rfl, rfl⟩ | ⟨-, before⟩ := Table.find_put_cases found
    · exact same ▸ drawn
    · exact same ▸ good.drawn before

/-- Both writes of a publication are there: the lineage has succeeded by the attempt, and the
attempt is SUCCEEDED. -/
def Recorded (world : World) (lineageId : LineageId) (attemptId : AttemptId) : Prop :=
  ∃ lineage attempt, world.store.lineages.find lineageId = some lineage ∧
    lineage.terminalStatus = some .succeeded ∧ lineage.terminalAttemptId = some attemptId ∧
      world.store.attempts.find attemptId = some attempt ∧ attempt.status = .succeeded

variable {lineageId : LineageId} {attemptId : AttemptId}

theorem Recorded.advances {world now : World} (recorded : world.Recorded lineageId attemptId)
    (advances : world.Advances now) : now.Recorded lineageId attemptId := by
  obtain ⟨lineage, attempt, found, status, terminal, found', succeeded⟩ := recorded
  refine ⟨lineage, attempt, ?_, status, terminal, ?_, succeeded⟩
  · exact advances.lineages found ⟨status, by simp [terminal]⟩
  · exact advances.attempts attemptId attempt found' (by simp [succeeded])

theorem Recorded.unique {attemptId' : AttemptId} {world : World}
    (recorded : world.Recorded lineageId attemptId)
    (recorded' : world.Recorded lineageId attemptId') : attemptId = attemptId' := by
  obtain ⟨lineage, -, found, -, terminal, -⟩ := recorded
  obtain ⟨lineage', -, found', -, terminal', -⟩ := recorded'
  obtain rfl := Option.some.inj (found.symm.trans found')
  exact Option.some.inj (terminal.symm.trans terminal')

def Paused (world now : World) : Prop := now = { world with clock := now.clock }

theorem Paused.calm {world now : World} (paused : world.Paused now) : world.Calm now := by
  rw [paused]
  exact ⟨⟨fun _ _ found => found, fun found _ => found, fun _ _ found _ => found⟩, rfl⟩

/-- Between its requests a call sees the clock move and nothing else. What it does advances
the world, and where it is `quiet` it evaluates nothing. -/
def alone (quiet : Prop) : Rules Good where
  rely := Paused
  guarantee world now := now.Good ∧ world.Advances now ∧
    (quiet → now.evaluations = world.evaluations)
  refl _ := rfl
  trans first second := by
    unfold Paused at *
    rw [second, first]

end World

open World

/-! ## The requests -/

variable {backend : Backend} {quiet : Prop} {α : Type} {post : α → World → Prop} {world : World}

/-- The obligation of a call that has the store to itself. It asks nothing of a failure. -/
structure KeepsAlone (backend : Backend) (quiet : Prop) (post : α → World → Prop)
    (program : Act α) (world : World) : Prop where
  keeps : (alone quiet).Keeps (World.serve backend) (OnOk post) program world

namespace KeepsAlone

theorem done {value : α} (ends : ∀ now, world.Calm now → post value now) :
    KeepsAlone backend quiet post (.done value) world :=
  ⟨fun now paused _ => ends now paused.calm⟩

variable {refusal : Refusal}

theorem fail : KeepsAlone backend quiet post (.fail refusal) world :=
  ⟨keeps_fail⟩

theorem bind {γ : Type} {middle : γ → World → Prop} {first : Act γ} {rest : γ → Act α}
    (keeps : KeepsAlone backend quiet middle first world)
    (goesOn : ∀ value now, middle value now → KeepsAlone backend quiet post (rest value) now) :
    KeepsAlone backend quiet post (first >>= rest) world :=
  ⟨keeps.keeps.bind_ok fun value now _ holds => (goesOn value now holds).keeps⟩

/-- A part that touches no attempt, and then the rest. -/
theorem part {γ : Type} {first : Act γ} {rest : γ → Act α} {Q : γ → Prop}
    (calm : KeepsAlone backend quiet (fun value now => world.Calm now ∧ Q value) first world)
    (goesOn : ∀ value now, world.Calm now → Q value →
      KeepsAlone backend quiet post (rest value) now) :
    KeepsAlone backend quiet post (first >>= rest) world :=
  calm.bind fun value now holds => goesOn value now holds.1 holds.2

/-- A promise may be weakened. -/
theorem weaken {program : Act α} {promise : α → World → Prop}
    (keeps : KeepsAlone backend quiet promise program world)
    (implies : ∀ value now, promise value now → post value now) :
    KeepsAlone backend quiet post program world := by
  refine ⟨keeps.keeps.weaken fun result now _ holds => ?_⟩
  match result, holds with
  | .ok value, holds => exact implies value now holds
  | .error _, _ => trivial

/-- What is calm from a later world on is calm from the earlier one. -/
theorem shift {now : World} {program : Act α} {Q : α → Prop} (calm : world.Calm now)
    (keeps : KeepsAlone backend quiet (fun value last => now.Calm last ∧ Q value) program now) :
    KeepsAlone backend quiet (fun value last => world.Calm last ∧ Q value) program now :=
  keeps.weaken fun _ _ holds => ⟨calm.trans holds.1, holds.2⟩

theorem require {p : Prop} [Decidable p] {rest : Unit → Act α}
    (goesOn : p → KeepsAlone backend quiet post (rest ()) world) :
    KeepsAlone backend quiet post (Program.require p refusal >>= rest) world :=
  ⟨keeps_require_ok fun holds => (goesOn holds).keeps⟩

theorem demand {γ : Type} {value : Option γ} {rest : γ → Act α}
    (goesOn : ∀ found, value = some found → KeepsAlone backend quiet post (rest found) world) :
    KeepsAlone backend quiet post (Program.demand value refusal >>= rest) world :=
  ⟨keeps_demand_ok fun found there => (goesOn found there).keeps⟩

/-- An exception of the boundary is a failure of the call. -/
theorem raising {γ : Type} {answer : Except String γ} {rest : γ → Act α}
    (goesOn : ∀ value, KeepsAlone backend quiet post (rest value) world) :
    KeepsAlone backend quiet post (Watcher.raising answer >>= rest) world := by
  cases answer with
  | error text => exact .fail
  | ok value => exact goesOn value

theorem ite {p : Prop} [Decidable p] {first second : Act α}
    (holds : p → KeepsAlone backend quiet post first world)
    (fails : ¬p → KeepsAlone backend quiet post second world) :
    KeepsAlone backend quiet post (if p then first else second) world :=
  ⟨keeps_ite (fun h => (holds h).keeps) fun h => (fails h).keeps⟩

/-- The obligation may be shown in a good world. -/
theorem of_good {program : Act α}
    (keeps : ∀ now, world.Calm now → now.Good → KeepsAlone backend quiet post program now) :
    KeepsAlone backend quiet post program world :=
  ⟨.of_later fun now paused good => (keeps now paused.calm good).keeps⟩

end KeepsAlone

open KeepsAlone

/-- A call that touches no attempt. -/
theorem keeps_calm {call : Call} {rest : Answer call → Act α}
    (serves : ∀ now : World, now.Good →
      now.Calm (World.serve backend call now).2 ∧
        now.nextId ≤ (World.serve backend call now).2.nextId ∧
        (quiet → (World.serve backend call now).2.evaluations = now.evaluations))
    (goesOn : ∀ before now : World, before.Good → world.Calm before →
      before.store = world.store → now = (World.serve backend call before).2 → world.Calm now →
        KeepsAlone backend quiet post (rest (World.serve backend call before).1) now) :
    KeepsAlone backend quiet post (ask call >>= rest) world := by
  refine ⟨fun before paused good => ?_⟩
  obtain ⟨calm, drawn, evaluations⟩ := serves before good
  have store : before.store = world.store := by rw [paused]
  exact ⟨⟨good.of_same calm.same drawn, calm.toAdvances, evaluations⟩,
    (goesOn before _ good paused.calm store rfl (paused.calm.trans calm)).keeps⟩

theorem keeps_now {rest : Instant → Act α}
    (goesOn : ∀ time now, world.Calm now → KeepsAlone backend quiet post (rest time) now) :
    KeepsAlone backend quiet post (clockNow >>= rest) world :=
  keeps_calm (fun now _ => ⟨.refl now, le_rfl, fun _ => rfl⟩)
    fun _ now _ _ _ _ calm => goesOn _ now calm

theorem keeps_freshId {rest : Nat → Act α}
    (goesOn : ∀ id now, world.Calm now → now.store.attempts.find id = none → id < now.nextId →
      KeepsAlone backend quiet post (rest id) now) :
    KeepsAlone backend quiet post (idFactory >>= rest) world := by
  refine keeps_calm (fun now _ => ⟨?_, Nat.le_succ _, fun _ => rfl⟩)
    fun before now good _ _ same calm => ?_
  · exact ⟨⟨fun _ _ found => found, fun found _ => found, fun _ _ found _ => found⟩, rfl⟩
  · subst same
    refine goesOn _ _ calm ?_ (Nat.lt_succ_self _)
    by_contra present
    obtain ⟨row, found⟩ := Option.ne_none_iff_exists'.mp present
    exact lt_irrefl _ (good.drawn found)

theorem keeps_evaluate (loud : ¬quiet) {command : EvaluationCommand} {rest : Unit → Act α}
    (goesOn : ∀ now, world.Calm now → KeepsAlone backend quiet post (rest ()) now) :
    KeepsAlone backend quiet post (ask (Call.evaluate command) >>= rest) world := by
  refine keeps_calm (fun now _ => ⟨?_, le_rfl, fun is => absurd is loud⟩)
    fun _ now _ _ _ _ calm => goesOn now calm
  exact ⟨⟨fun _ _ found => found, fun found _ => found, fun _ _ found _ => found⟩, rfl⟩

theorem calm_operation (backend : Backend) (spares : operation.SparesAttempts) (world : World) :
    world.Calm (World.serve backend (.store operation) world).2 := by
  have written := Store.serve_written backend world.store operation
  obtain ⟨same, schedules⟩ := written.calm spares
  refine ⟨⟨schedules, World.succeededKept_serve backend world _, ?_⟩, same⟩
  intro attemptId row found _
  change (world.store.serve backend operation).2.attempts.find attemptId = some row
  rw [same]
  exact found

/-- A call of the store that touches no attempt, with its answer. -/
theorem keeps_answer (spares : operation.SparesAttempts)
    {rest : Except Refusal (Reply operation) → Act α}
    (goesOn : ∀ now, world.Calm now → KeepsAlone backend quiet post (rest (world.store.serve backend
      operation).1) now) :
    KeepsAlone backend quiet post (ask (Call.store operation) >>= rest) world := by
  refine keeps_calm (fun now _ => ⟨calm_operation backend spares now, le_rfl, fun _ => rfl⟩)
    fun before now _ _ store _ calm => ?_
  change KeepsAlone backend quiet post (rest (before.store.serve backend operation).1) now
  rw [store]
  exact goesOn now calm

/-- A call of the store that touches no attempt and returns. -/
theorem keeps_request (spares : operation.SparesAttempts) {rest : Reply operation → Act α}
    (goesOn : ∀ reply now, world.Calm now → (world.store.serve backend operation).1 = .ok reply →
      KeepsAlone backend quiet post (rest reply) now) :
    KeepsAlone backend quiet post (request operation >>= rest) world := by
  refine keeps_answer spares fun now calm => ?_
  cases answered : (world.store.serve backend operation).1 with
  | error refusal => exact .fail
  | ok reply => exact goesOn reply now calm answered

theorem keeps_request_end (operation : Operation) {post : Reply operation → World → Prop}
    (spares : operation.SparesAttempts) (ends : ∀ reply now, world.Calm now → post reply now) :
    KeepsAlone backend quiet post (request operation) world := by
  refine keeps_answer spares fun now calm => ?_
  cases (world.store.serve backend operation).1 with
  | error refusal => exact .fail
  | ok reply => exact done fun later calm' => ends reply later (calm.trans calm')

/-- What is read of a lineage is there until the next request. -/
theorem keeps_getLineage {rest : Option ScanLineage → Act α}
    (goesOn : ∀ found now, world.Calm now → now.store.lineages.find lineageId = found →
      KeepsAlone backend quiet post (rest found) now) :
    KeepsAlone backend quiet post (getLineage lineageId organizationId >>= rest) world := by
  refine keeps_calm (fun now _ => ⟨calm_operation backend (by trivial) now, le_rfl, fun _ => rfl⟩)
    fun before now _ _ _ same calm => ?_
  change KeepsAlone backend quiet post
    (returned (before.store.getLineage lineageId organizationId) >>= rest) now
  cases read : before.store.getLineage lineageId organizationId with
  | error refusal => exact .fail
  | ok found =>
    refine goesOn found now calm ?_
    rw [same]
    exact Store.getLineage_ok read

/-! ## Attempts -/

def Working (attempt : ScanAttempt) (world : World) : Prop :=
  ∃ current, world.store.attempts.find attempt.attemptId = some current ∧
    current.status = .started

variable {now : World}

theorem Working.calm (working : Working attempt world) (calm : world.Calm now) :
    Working attempt now := by
  unfold Working
  rw [calm.same]
  exact working

/-- A row that replaces no finished attempt is filed and everything that is final stays. -/
theorem advances_write (written : world.store.AttemptWritten row now.store)
    (replaces : ∀ current, world.store.attempts.find row.attemptId = some current → current.status =
      .started) :
    world.Advances now where
  schedules key schedule found := by rw [written.schedules]; exact found
  lineages found _ := by rw [written.lineages]; exact found
  attempts attemptId current found final := by
    rw [written.attempts]
    refine (Table.find_put_of_ne _ ?_ row).trans found
    rintro rfl
    exact final (replaces current found)

/-- Filing a row, by an insert or an update. -/
theorem file_attempt (backend : Backend) (quiet : Prop) {before : World} (good : before.Good)
    {post : ScanAttempt → World → Prop} {outcome : Except Refusal (ScanAttempt × Store)}
    (files : ∀ stored after, outcome = .ok (stored, after) → stored = row ∧
      before.store.AttemptWritten row after)
    (drawn : row.attemptId < before.nextId)
    (replaces : ∀ current, before.store.attempts.find row.attemptId = some current →
      current.status = .started)
    (ends : ∀ now, now.store.attempts.find row.attemptId = some row → before.Advances now →
      post row now) :
    let now := { before with store := (before.store.commit outcome).2 }
    now.Good ∧ before.Advances now ∧
      KeepsAlone backend quiet post (returned (before.store.commit outcome).1) now := by
  cases outcome with
  | error refusal => exact ⟨good, .refl before, .fail⟩
  | ok result =>
    obtain ⟨stored, after⟩ := result
    obtain ⟨rfl, written⟩ := files stored after rfl
    have advances : before.Advances { before with store := after } :=
      advances_write written replaces
    refine ⟨good.write written.attempts drawn rfl, advances, ?_⟩
    refine done fun now calm => ends now ?_ (advances.trans calm.toAdvances)
    rw [calm.same]
    change after.attempts.find stored.attemptId = some stored
    rw [written.attempts]
    exact Table.find_put_self ..

theorem keeps_insertAttempt {post : ScanAttempt → World → Prop}
    (absent : world.store.attempts.find row.attemptId = none) (drawn : row.attemptId < world.nextId)
    (ends : ∀ now, now.store.attempts.find row.attemptId = some row → world.Advances now →
      post row now) :
    KeepsAlone backend quiet post (insertAttempt row) world := by
  refine ⟨fun before paused good => ?_⟩
  obtain ⟨good', advances, keeps⟩ := file_attempt backend quiet good
    (fun _ _ => Store.insertAttempt_ok) (by rw [paused]; exact drawn)
    (fun current found => by rw [paused] at found; simp [absent] at found)
    fun now found advances => ends now found (paused.calm.toAdvances.trans advances)
  exact ⟨⟨good', advances, fun _ => rfl⟩, keeps.keeps⟩

theorem keeps_updateAttempt {post : ScanAttempt → World → Prop} (working : Working row world)
    (ends : ∀ now, now.store.attempts.find row.attemptId = some row → world.Advances now →
      post row now) :
    KeepsAlone backend quiet post (updateAttempt row) world := by
  refine ⟨fun before paused good => ?_⟩
  obtain ⟨current, found, started⟩ := working.calm paused.calm
  obtain ⟨good', advances, keeps⟩ := file_attempt backend quiet good
    (fun _ _ => Store.updateAttempt_ok) (good.drawn found)
    (fun other found' => by rw [found] at found'; cases found'; exact started)
    fun now found advances => ends now found (paused.calm.toAdvances.trans advances)
  exact ⟨⟨good', advances, fun _ => rfl⟩, keeps.keeps⟩

/-! ## The parts of a cycle -/

variable (env : Environment)

theorem keeps_health (scope : ScopeKey) :
    KeepsAlone backend quiet (fun _ now => world.Calm now ∧ True) (health scope) world := by
  refine keeps_now fun time now calm => ?_
  refine keeps_request (by trivial) fun lease next calm' _ => ?_
  exact keeps_request_end (.rememberHealth scope _) trivial fun _ last calm'' =>
    ⟨(calm.trans calm').trans calm'', trivial⟩

/-- A request that has been scheduled is found. -/
theorem keeps_schedule (request : ScanRequest) :
    KeepsAlone backend quiet (fun result now => world.Calm now ∧ (env.config.enabled →
      ∀ row, world.store.getSchedule request.organizationId request.principalId
        request.idempotencyKey = some row → result.lineageId = some row.lineageId))
      (schedule env request) world := by
  unfold schedule
  apply KeepsAlone.ite
  · exact fun disabled => done fun now calm => ⟨calm, fun enabled => absurd enabled disabled⟩
  intro _
  refine keeps_request (by trivial) fun existing now calm read => ?_
  obtain rfl : world.store.getSchedule _ _ _ = existing := Except.ok.inj read
  generalize world.store.getSchedule request.organizationId request.principalId
    request.idempotencyKey = existing
  cases existing with
  | some existing =>
    refine require fun _ => done fun last calm' => ⟨calm.trans calm', ?_⟩
    rintro _ row ⟨⟩
    rfl
  | none =>
    refine keeps_now fun time next step => keeps_freshId fun lineageId later step' _ _ => ?_
    have first := (calm.trans step).trans step'
    refine keeps_request (by trivial) fun _ next step _ => ?_
    refine keeps_freshId fun scheduledScanId later step' _ _ => ?_
    have second := (first.trans step).trans step'
    refine keeps_request (by trivial) fun stored next step _ => done fun last step' => ?_
    exact ⟨(second.trans step).trans step', fun _ row => (nomatch ·)⟩

/-- A success is replayed where both of its writes are found, and nothing else is. -/
theorem keeps_replayIfSucceeded (stored : world.store.lineages.find lineageId = some lineage) :
    KeepsAlone backend quiet (fun reply now => world.Calm now ∧ match reply with
      | some (attempt, _) => world.Recorded lineageId attempt.attemptId
      | none => ∀ attemptId, ¬world.Recorded lineageId attemptId)
      (replayIfSucceeded lineage) world := by
  refine of_good fun before calm good => shift calm ?_
  unfold replayIfSucceeded
  split
  · rename_i attemptId status terminal
    refine keeps_request (by trivial) fun found now calm' read => ?_
    obtain rfl : before.store.attempts.find attemptId = found := Except.ok.inj read
    rw [calm.same]
    split
    · rename_i absent
      refine done fun last calm'' => ⟨calm'.trans calm'', ?_⟩
      rintro attemptId' ⟨lineage', attempt, stored', -, terminal', found, succeeded⟩
      obtain rfl := Option.some.inj (stored.symm.trans stored')
      obtain rfl := Option.some.inj (terminal.symm.trans terminal')
      simp [found, succeeded] at absent
    · rename_i attempt present
      refine done fun last calm'' => ⟨calm'.trans calm'', ?_⟩
      obtain ⟨found, succeeded⟩ := Option.filter_eq_some_iff.mp present
      obtain rfl : attempt.attemptId = attemptId := good.key (calm.same ▸ found)
      exact ⟨lineage, attempt, stored, status, terminal, found, of_decide_eq_true succeeded⟩
  · rename_i other
    refine done fun last calm' => ⟨calm', ?_⟩
    rintro attemptId ⟨lineage', -, stored', status, terminal, -⟩
    obtain rfl := Option.some.inj (stored.symm.trans stored')
    exact other attemptId status terminal

theorem keeps_openAttempt (lineage : ScanLineage) (trigger : ScanTrigger)
    (mode : EvaluationMode) (authority : Authority) (inputHash : String)
    (recovered : Option AttemptId) (disposition : RecoveryDisposition) :
    KeepsAlone backend quiet Working
      (openAttempt lineage trigger mode authority inputHash recovered disposition) world := by
  refine keeps_now fun time now _ => keeps_request (by trivial) fun attempts next _ _ => ?_
  refine keeps_freshId fun attemptId later _ absent drawn => ?_
  exact keeps_insertAttempt absent drawn fun last found _ => ⟨_, found, rfl⟩

/-- What the list of attempts holds is stored. -/
theorem stored_of_mem_listAttempts (good : world.Good)
    (mem : attempt ∈ world.store.listAttempts backend lineageId) :
    world.store.attempts.find attempt.attemptId = some attempt := by
  cases backend with
  | memory =>
    obtain ⟨id, -, found⟩ := List.mem_filterMap.mp mem
    rw [good.key found]
    exact found
  | postgres =>
    have listed := List.mem_of_mem_filter ((List.mem_insertionSort _).mp mem)
    obtain ⟨⟨id, row⟩, mem', rfl⟩ := List.mem_map.mp listed
    have found := Table.mem_rows.mp mem'
    rw [good.key found]
    exact found

/-- A worker goes on with an attempt that is STARTED, its own or a new one. -/
theorem keeps_resumeOrOpenWorkerAttempt (lineage : ScanLineage) (workerId : WorkerId)
    (leaseEpoch fencingToken : Nat) (inputHash : String) :
    KeepsAlone backend quiet Working
      (resumeOrOpenWorkerAttempt lineage workerId leaseEpoch fencingToken inputHash) world := by
  refine of_good fun world _ good => ?_
  refine keeps_request (by trivial) fun attempts now calm read => ?_
  obtain rfl : world.store.listAttempts backend lineage.lineageId = attempts := Except.ok.inj read
  dsimp only
  split
  · exact keeps_openAttempt ..
  · rename_i latest last
    apply KeepsAlone.ite
    · rintro ⟨started, -, -⟩
      refine keeps_now fun time next calm' => ?_
      have stored := stored_of_mem_listAttempts good (List.mem_of_getLast? last)
      have working : Working latest world := ⟨latest, stored, started⟩
      exact keeps_updateAttempt (working.calm (calm.trans calm')) fun last found _ =>
        ⟨_, found, started⟩
    · exact fun _ => keeps_openAttempt ..

/-- A working attempt gets its final status, and nothing else that is final changes. -/
theorem keeps_markAttempt (working : Working attempt world) (status : ScanAttemptStatus)
    (reasonCode : String) (error : Option String) (recovery : Option RecoveryDisposition) :
    KeepsAlone backend quiet (fun _ now => world.Advances now ∧
      ∃ stored, now.store.attempts.find attempt.attemptId = some stored ∧ stored.status = status)
      (markAttempt env attempt status reasonCode error recovery) world := by
  refine keeps_now fun finishedAt now calm => keeps_now fun heartbeatAt next calm' => ?_
  have working' := working.calm (calm.trans calm')
  exact keeps_updateAttempt working' fun last found advances =>
    ⟨(calm.trans calm').toAdvances.trans advances, _, found, rfl⟩

theorem keeps_persistUnits (attempt : ScanAttempt) (lineage : ScanLineage) (time : Instant)
    (reported : List UnitAttempt) :
    KeepsAlone backend quiet (fun _ now => world.Calm now ∧ True)
      (persistUnits env attempt lineage time reported) world := by
  induction reported generalizing world with
  | nil => exact done fun now calm => ⟨calm, trivial⟩
  | cons first rest ih =>
    refine keeps_freshId fun id now calm _ _ => ?_
    cases first.kind with
    | sourceFetch =>
      exact keeps_request (by trivial) fun _ next calm' _ => shift (calm.trans calm') ih
    | subscriptionEvaluation =>
      exact keeps_request (by trivial) fun _ next calm' _ => shift (calm.trans calm') ih

theorem keeps_persistUnitAttempts (attempt : ScanAttempt) (lineage : ScanLineage)
    (outcome : EvaluationOutcome) :
    KeepsAlone backend quiet (fun _ now => world.Calm now ∧ True)
      (persistUnitAttempts env attempt lineage outcome) world :=
  keeps_now fun time _ calm => shift calm (keeps_persistUnits env attempt lineage time _)

theorem keeps_renewOrLose (holder : Holder) (lost : Bool) :
    KeepsAlone backend quiet (fun _ now => world.Calm now ∧ True) (renewOrLose env holder lost)
      world := by
  unfold renewOrLose
  apply KeepsAlone.ite
  · exact fun _ => done fun now calm => ⟨calm, trivial⟩
  · intro _
    refine keeps_now fun time now calm => keeps_request (by trivial) fun renewed next calm' _ => ?_
    exact done fun last calm'' => ⟨(calm.trans calm').trans calm'', trivial⟩

theorem keeps_beat (holder : Holder) (lost : Bool) :
    KeepsAlone backend quiet (fun _ now => world.Calm now ∧ True) (beat env holder lost) world := by
  refine part (keeps_renewOrLose env holder lost) fun lostNow now calm _ => ?_
  apply KeepsAlone.ite
  · exact fun _ => done fun next calm' => ⟨calm.trans calm', trivial⟩
  · intro _
    refine keeps_now fun time next calm' => keeps_request (by trivial) fun _ later step _ => ?_
    exact done fun last step' => ⟨((calm.trans calm').trans step).trans step', trivial⟩

theorem keeps_progress (holder : Holder) (count : Nat) (lost : Bool) :
    KeepsAlone backend quiet (fun _ now => world.Calm now ∧ True)
      (progress env holder count lost) world := by
  induction count generalizing lost world with
  | zero => exact done fun now calm => ⟨calm, trivial⟩
  | succ count ih =>
    refine part (keeps_renewOrLose env holder lost) fun lostNow now calm _ => ?_
    apply KeepsAlone.ite
    · exact fun _ => shift calm (ih true)
    · intro _
      refine keeps_now fun time next calm' => keeps_answer (by trivial) fun later calm'' => ?_
      exact shift ((calm.trans calm').trans calm'') (ih false)


/-! ## Publications -/

variable {attemptId : AttemptId}

/-- A publication that returns leaves the lineage as it says, and it says the status where it
says the attempt. -/
theorem keeps_casLineageTerminal {status : ScanAttemptStatus} {outcome : EvaluationOutcome}
    {rest : ScanLineage → Act α}
    (goesOn : ∀ cas now, world.Calm now → now.store.lineages.find lineageId = some cas → (status =
      .succeeded → cas.terminalStatus = some .succeeded) → KeepsAlone backend quiet post (rest cas)
      now) :
    KeepsAlone backend quiet post
      (casLineageTerminal lineageId attemptId status organizationId outcome >>= rest) world := by
  refine keeps_calm (fun now _ => ⟨?_, le_rfl, fun _ => rfl⟩)
    fun before now _ _ _ same calm => ?_
  · obtain ⟨same, schedules⟩ := Store.Written.calm (Store.serve_written backend now.store
      (.casLineageTerminal lineageId attemptId status organizationId)) trivial
    refine ⟨⟨schedules, World.succeededKept_serve backend now _, ?_⟩, same⟩
    intro id row found _
    exact (congrArg (Table.find · id) same).trans found
  · subst same
    change KeepsAlone backend quiet post (returned (before.store.commit
      (before.store.casLineageTerminal backend lineageId attemptId status organizationId)).1 >>=
        rest) _
    cases called : before.store.casLineageTerminal backend lineageId attemptId status
        organizationId with
    | error refusal => exact .fail
    | ok result =>
      obtain ⟨cas, after⟩ := result
      have store : (World.serve backend
          (.publish lineageId attemptId status organizationId outcome) before).2.store = after := by
        change (before.store.commit _).2 = after
        rw [called]
        rfl
      refine goesOn cas _ calm ?_ ?_
      · rw [store]
        obtain ⟨current, found, ⟨-, rfl, rfl⟩ | ⟨-, -, rfl, rfl⟩⟩ :=
          Store.casLineageTerminal_ok called
        · exact found
        · exact Table.find_put_self ..
      · rintro rfl
        obtain ⟨current, -, ⟨succeeded, rfl, -⟩ | ⟨-, -, rfl, -⟩⟩ :=
          Store.casLineageTerminal_ok called
        · exact succeeded.1
        · rfl

def Published (lineage : ScanLineage) (attempt : ScanAttempt)
    (result : Bool × EvaluationOutcome) (world : World) : Prop :=
  result.1 = true → result.2.status = .succeeded →
    world.Recorded lineage.lineageId attempt.attemptId

theorem keeps_publishTerminal (working : Working attempt world) (lineage : ScanLineage)
    (outcome : EvaluationOutcome) :
    KeepsAlone backend quiet (Published lineage attempt)
      (publishTerminal env attempt lineage outcome) world := by
  have converges : ∀ (now : World) (status : EvaluationStatus), world.Calm now →
      KeepsAlone backend quiet (Published lineage attempt) (do
        let converged ← markAttempt env attempt .convergedReplay "converged_replay" none
          (some .replay)
        return (false, convergedOutcome converged lineage outcome status)) now := by
    intro now status calm
    refine (keeps_markAttempt env (working.calm calm) ..).bind fun _ next _ => done ?_
    rintro - - ⟨⟩
  refine keeps_request (by trivial) fun found now calm _ => demand fun current _ => ?_
  apply KeepsAlone.ite
  · exact fun _ => converges now _ calm
  intro _
  refine keeps_casLineageTerminal fun cas next calm' found said => ?_
  apply KeepsAlone.ite
  · exact fun _ => converges next _ (calm.trans calm')
  intro named
  have working' := working.calm (calm.trans calm')
  refine (keeps_markAttempt env working' ..).bind fun _ later holds => done fun last calm'' => ?_
  obtain ⟨advances, stored, found', status⟩ := holds
  intro _ (succeeded : outcome.status = .succeeded)
  have final : attemptStatusFor outcome.status = .succeeded := by rw [succeeded]; rfl
  have terminal := not_not.mp named
  have kept := advances.lineages found ⟨said final, by simp [terminal]⟩
  have recorded : later.Recorded lineage.lineageId attempt.attemptId :=
    ⟨cas, stored, kept, said final, terminal, found', status.trans final⟩
  exact recorded.advances calm''.toAdvances


/-! ## Worker cycles -/

def Names (world : World) (lineageId : Option LineageId) (attemptId : Option AttemptId) : Prop :=
  ∃ lineage attempt, lineageId = some lineage ∧ attemptId = some attempt ∧
    world.Recorded lineage attempt

theorem Names.advances {lineageId : Option LineageId} {attemptId : Option AttemptId}
    (names : Names world lineageId attemptId) (advances : world.Advances now) :
    Names now lineageId attemptId := by
  obtain ⟨lineage, attempt, first, second, recorded⟩ := names
  exact ⟨lineage, attempt, first, second, recorded.advances advances⟩

def WorkerCycleResult.Records (result : WorkerCycleResult) (world : World) : Prop :=
  result.status = .succeeded → result.published = true →
    Names world result.lineageId result.attemptId

theorem records_of_not_succeeded {result : WorkerCycleResult}
    (not : result.status ≠ .succeeded) : result.Records world := fun is => absurd is not

/-- A part of a cycle that ends the cycle. -/
abbrev KeepsCycle (backend : Backend) (quiet : Prop) (program : Act WorkerCycleResult)
    (world : World) : Prop :=
  KeepsAlone backend quiet WorkerCycleResult.Records program world

variable (request : ScanRequest) (holder : Holder)

theorem keeps_rejectStale (working : Working attempt world) (lineage : ScanLineage)
    (reasonCode : String) :
    KeepsCycle backend quiet (rejectStale env request holder attempt lineage reasonCode)
      world := by
  refine (keeps_markAttempt env working ..).bind fun _ now _ => ?_
  refine part (keeps_health _) fun _ next _ _ => done fun last _ => ?_
  exact records_of_not_succeeded (by simp)

theorem keeps_whileFenced (working : Working attempt world) {rest : Act WorkerCycleResult}
    (goesOn : ∀ now, Working attempt now → KeepsCycle backend quiet rest now) :
    KeepsCycle backend quiet (whileFenced env request holder attempt lineage rest) world := by
  refine keeps_now fun time now calm => keeps_request (by trivial) fun active next calm' _ => ?_
  have working' := working.calm (calm.trans calm')
  apply KeepsAlone.ite
  · exact fun _ => keeps_rejectStale env request holder working' lineage _
  · exact fun _ => goesOn next working'

theorem keeps_publishFenced (working : Working attempt world) (lineage : ScanLineage)
    (outcome : EvaluationOutcome) (ownerId : WorkerId) (scanScope : ScanScope) (fencingToken :
      Nat) :
    KeepsAlone backend quiet (Published lineage attempt)
      (publishFenced env attempt lineage outcome ownerId scanScope fencingToken) world := by
  refine keeps_now fun time now calm => keeps_request (by trivial) fun active next calm' _ => ?_
  have working' := working.calm (calm.trans calm')
  apply KeepsAlone.ite
  · intro _
    refine (keeps_markAttempt env working' ..).bind fun _ later _ => done ?_
    rintro - - ⟨⟩
  · exact fun _ => keeps_publishTerminal env working' lineage outcome

theorem cycleStatus_published {status : EvaluationStatus}
    (h : cycleStatus status true = .succeeded) : status = .succeeded := by
  cases status <;> simp_all [cycleStatus]

theorem keeps_publishCycle (working : Working attempt world) (lineage : ScanLineage)
    (outcome : EvaluationOutcome) :
    KeepsCycle backend quiet (publishCycle env request holder attempt lineage outcome) world := by
  refine (keeps_publishFenced env working ..).bind fun result now recorded => ?_
  refine keeps_now fun time next step => keeps_request (by trivial) fun _ later step' _ => ?_
  refine part (keeps_health _) fun _ end' step'' _ => done fun last step''' => ?_
  have calm := ((step.trans step').trans step'').trans step'''
  intro succeeded published
  refine ⟨_, _, rfl, rfl, ?_⟩
  refine (recorded published ?_).advances calm.toAdvances
  refine cycleStatus_published ?_
  rw [← published]
  exact succeeded

theorem keeps_persistAndPublish (working : Working attempt world) (boundary : Boundary)
    (lineage : ScanLineage) (command : EvaluationCommand) (outcome : EvaluationOutcome) :
    KeepsCycle backend quiet
      (persistAndPublish env boundary request holder attempt lineage command outcome) world := by
  refine part (keeps_progress env holder ..) fun lost now calm _ => ?_
  apply KeepsAlone.ite
  · exact fun _ => keeps_rejectStale env request holder (working.calm calm) lineage _
  · exact fun _ => keeps_whileFenced env request holder (working.calm calm) fun next working' =>
      keeps_publishCycle env request holder working' lineage _

/-- The boundary is asked at most once, and not by a quiet call. -/
theorem keeps_evaluation (loud : ¬quiet) (boundary : Boundary) (command : EvaluationCommand) :
    KeepsAlone backend quiet (fun _ now => world.Calm now ∧ True) (evaluate boundary command)
      world := by
  apply KeepsAlone.ite
  · exact fun _ => done fun now calm => ⟨calm, trivial⟩
  · exact fun _ => keeps_evaluate loud fun now calm => done fun last calm' =>
      ⟨calm.trans calm', trivial⟩

theorem keeps_evaluateAttempt (loud : ¬quiet) (working : Working attempt world)
    (boundary : Boundary) (lineage : ScanLineage) :
    KeepsCycle backend quiet (evaluateAttempt env boundary request holder lineage attempt)
      world := by
  refine keeps_freshId fun commandId now calm _ _ => keeps_freshId fun id next calm' _ _ => ?_
  replace working := working.calm (calm.trans calm')
  refine part (keeps_evaluation loud boundary _) fun evaluated later calm _ => ?_
  refine part (keeps_progress env holder ..) fun lost now calm' _ => ?_
  refine part (keeps_beat env holder lost) fun lostNow next calm'' _ => ?_
  replace working := ((working.calm calm).calm calm').calm calm''
  apply KeepsAlone.ite
  · exact fun _ => keeps_rejectStale env request holder working lineage _
  intro _
  refine keeps_whileFenced env request holder working fun now working => ?_
  refine part (keeps_persistUnitAttempts env attempt lineage _) fun _ next calm _ => ?_
  refine keeps_whileFenced env request holder (working.calm calm) fun last working => ?_
  exact keeps_persistAndPublish env request holder working boundary lineage _ _


def World.Replayable (world : World) (request : ScanRequest) (attemptId : AttemptId) : Prop :=
  ∃ row, world.store.getSchedule request.organizationId request.principalId
      request.idempotencyKey = some row ∧ world.Recorded row.lineageId attemptId

theorem World.Replayable.advances {request : ScanRequest}
    (replayable : world.Replayable request attemptId) (advances : world.Advances now) :
    now.Replayable request attemptId := by
  obtain ⟨row, found, recorded⟩ := replayable
  exact ⟨row, advances.schedules _ _ found, recorded.advances advances⟩

/-- A cycle that publishes nothing: it replays the attempt, unless the watcher is disabled or
the lease is held by another. -/
structure WorkerCycleResult.Replays (env : Environment) (attemptId : AttemptId)
    (result : WorkerCycleResult) : Prop where
  published : result.published = false
  cases : result.replayed = true ∧ result.status = .succeeded ∧
      result.attemptId = some attemptId ∨
    result.status = .skipped ∧ result.reasonCode = "lease_held" ∨
    ¬env.config.enabled ∧ result.status = .blocked

section cycle
variable {Known : AttemptId → Prop} (quieted : quiet → ∃ attemptId, Known attemptId)
  (boundary : Boundary)

/-- What a cycle promises where the successes that are `Known` are recorded. -/
def CyclePromise (env : Environment) (Known : AttemptId → Prop) (result : WorkerCycleResult)
    (world : World) : Prop :=
  result.Records world ∧ ∀ attemptId, Known attemptId → result.Replays env attemptId

include quieted in
theorem keeps_runHolder {scheduled : Option LineageId}
    (known : ∀ attemptId, Known attemptId → ∃ lineageId, scheduled = some lineageId ∧
      world.Recorded lineageId attemptId) :
    KeepsAlone backend quiet (CyclePromise env Known)
      (runHolder env boundary request holder scheduled) world := by
  refine keeps_now fun time now calm => keeps_request (by trivial) fun _ next calm' _ => ?_
  refine demand fun lineageId same => keeps_getLineage fun reply now calm'' found => ?_
  refine demand fun lineage present => ?_
  subst present
  have recorded : ∀ attemptId, Known attemptId → now.Recorded lineageId attemptId := by
    intro attemptId is
    obtain ⟨lineageId', same', recorded⟩ := known attemptId is
    obtain rfl := Option.some.inj (same.symm.trans same')
    exact recorded.advances ((calm.trans calm').trans calm'').toAdvances
  refine part (keeps_replayIfSucceeded found) fun replay next calm replayed => ?_
  cases replay with
  | some replay =>
    refine part (keeps_health _) fun _ last _ _ => done fun _ _ => ⟨?_, fun attemptId is => ?_⟩
    · rintro - ⟨⟩
    · exact ⟨rfl, .inl ⟨rfl, rfl, congrArg some (replayed.unique (recorded attemptId is))⟩⟩
  | none =>
    have unknown : ∀ attemptId, ¬Known attemptId :=
      fun attemptId is => replayed attemptId (recorded attemptId is)
    have loud : ¬quiet := fun is => (quieted is).elim unknown
    refine (keeps_resumeOrOpenWorkerAttempt ..).bind fun attempt last working => ?_
    refine (keeps_evaluateAttempt env request holder loud working boundary lineage).weaken ?_
    exact fun result _ records => ⟨records, fun attemptId is => absurd is (unknown attemptId)⟩

include quieted in
/-- A cycle of a request whose success is recorded ends as a replay, and asks no boundary. -/
theorem keeps_runWorker (workerId : WorkerId) (heldFencingToken : Option Nat)
    (known : ∀ attemptId, Known attemptId → world.Replayable request attemptId) :
    KeepsAlone backend quiet (CyclePromise env Known)
      (runWorker env boundary request workerId heldFencingToken) world := by
  apply KeepsAlone.ite
  · intro disabled
    refine part (keeps_health _) fun _ now _ _ => done fun last _ => ⟨?_, fun attemptId is => ?_⟩
    · exact records_of_not_succeeded (by simp [idleResult])
    · exact ⟨rfl, .inr (.inr ⟨disabled, rfl⟩)⟩
  intro enabled
  refine part (keeps_schedule env request) fun scheduled now calm finds => ?_
  replace finds := finds (not_not.mp enabled)
  refine keeps_now fun time next calm' => keeps_request (by trivial) fun claim now calm'' _ => ?_
  apply KeepsAlone.ite
  · intro _
    refine part (keeps_health _) fun _ now _ _ => done fun last _ => ⟨?_, fun attemptId is => ?_⟩
    · exact records_of_not_succeeded (by simp [idleResult])
    · exact ⟨rfl, .inr (.inl ⟨rfl, rfl⟩)⟩
  intro _
  refine keeps_runHolder env request _ quieted boundary fun attemptId is => ?_
  obtain ⟨row, found, recorded⟩ := known attemptId is
  exact ⟨_, finds row found, recorded.advances ((calm.trans calm').trans calm'').toAdvances⟩

end cycle


/-! ## Manual evaluations -/

def EvaluationResult.Records (result : EvaluationResult) (world : World) : Prop :=
  result.outcome.status = .succeeded → result.persisted = true → result.replayed = false →
    Names world result.lineageId result.attemptId

theorem records_unstored (outcome : EvaluationOutcome) (reasonCode : String) :
    (unstoredResult env request outcome reasonCode).Records world := by
  rintro - ⟨⟩

/-- A manual evaluation of a request with a recorded success stores nothing new: a preview is
not stored at all, and PERSIST_EVIDENCE returns the recorded attempt. -/
structure EvaluationResult.Replays (env : Environment) (mode : EvaluationMode)
    (attemptId : AttemptId) (result : EvaluationResult) : Prop where
  unstored : ¬env.config.enabled ∨ mode ≠ .persistEvidence → result.persisted = false
  replayed : env.config.enabled → mode = .persistEvidence →
    result.persisted = true ∧ result.replayed = true ∧ result.attemptId = some attemptId

def ManualPromise (env : Environment) (mode : EvaluationMode) (Known : AttemptId → Prop)
    (result : EvaluationResult) (world : World) : Prop :=
  result.Records world ∧ ∀ attemptId, Known attemptId → result.Replays env mode attemptId

section manual
variable {Known : AttemptId → Prop} (boundary : Boundary)

theorem keeps_persistManual (enabled : env.config.enabled) (command : EvaluationCommand)
    (outcome : EvaluationOutcome)
    (known : ∀ attemptId, Known attemptId → world.Replayable request attemptId) :
    KeepsAlone backend quiet (ManualPromise env .persistEvidence Known)
      (persistManual env boundary request command outcome) world := by
  refine part (keeps_schedule env request) fun scheduled now calm finds => ?_
  replace finds := finds enabled
  have recorded : ∀ attemptId, Known attemptId → ∃ lineageId,
      scheduled.lineageId = some lineageId ∧ now.Recorded lineageId attemptId := by
    intro attemptId is
    obtain ⟨row, found, recorded⟩ := known attemptId is
    exact ⟨_, finds row found, recorded.advances calm.toAdvances⟩
  split
  · rename_i unscheduled
    refine done fun last _ => ⟨records_unstored env request _ _, fun attemptId is => ?_⟩
    obtain ⟨lineageId, same, -⟩ := recorded attemptId is
    simp [unscheduled] at same
  rename_i lineageId same
  refine keeps_getLineage fun reply next calm' found => demand fun lineage present => ?_
  subst present
  replace recorded : ∀ attemptId, Known attemptId → next.Recorded lineageId attemptId := by
    intro attemptId is
    obtain ⟨lineageId', same', recorded⟩ := recorded attemptId is
    obtain rfl := Option.some.inj (same.symm.trans same')
    exact recorded.advances calm'.toAdvances
  refine part (keeps_replayIfSucceeded found) fun replay now calm replayed => ?_
  cases replay with
  | some replay =>
    refine done fun last _ => ⟨?_, fun attemptId is => ⟨?_, fun _ _ => ⟨rfl, rfl, ?_⟩⟩⟩
    · rintro - - ⟨⟩
    · rintro (disabled | other)
      · exact absurd enabled disabled
      · exact absurd rfl other
    · exact congrArg some (replayed.unique (recorded attemptId is))
  | none =>
    have unknown : ∀ attemptId, ¬Known attemptId :=
      fun attemptId is => replayed attemptId (recorded attemptId is)
    refine (keeps_openAttempt ..).bind fun attempt next working => ?_
    refine KeepsAlone.raising fun outcome => ?_
    refine (keeps_publishTerminal env working ..).bind fun (published, final) last recorded => ?_
    refine done fun now calm => ⟨?_, fun attemptId is => absurd is (unknown attemptId)⟩
    intro succeeded (stored : published = true) _
    refine ⟨_, _, rfl, rfl, (recorded stored ?_).advances calm.toAdvances⟩
    simpa [stored] using succeeded

/-- A manual evaluation asks the boundary first. -/
theorem keeps_evaluateManual (loud : ¬quiet) (mode : EvaluationMode)
    (known : ∀ attemptId, Known attemptId → world.Replayable request attemptId) :
    KeepsAlone backend quiet (ManualPromise env mode Known)
      (evaluateManual env boundary request mode) world := by
  refine keeps_freshId fun commandId now calm _ _ => keeps_freshId fun id next calm' _ _ => ?_
  have unstored : ∀ (outcome : EvaluationOutcome) (reasonCode : String) (last : World),
      (env.config.enabled → mode ≠ .persistEvidence) →
        ManualPromise env mode Known (unstoredResult env request outcome reasonCode) last := by
    intro outcome reasonCode last not
    refine ⟨records_unstored env request _ _, fun attemptId is => ?_⟩
    exact ⟨fun _ => rfl, fun enabled is => absurd is (not enabled)⟩
  apply KeepsAlone.ite
  · exact fun disabled => done fun last _ => unstored _ _ _ fun enabled => absurd enabled disabled
  intro enabled
  apply KeepsAlone.ite
  · exact fun notify => done fun last _ => unstored _ _ _ fun _ => by simp [notify]
  intro notify
  refine part (keeps_evaluation loud boundary _) fun evaluated now calm'' _ => ?_
  refine KeepsAlone.raising fun outcome => ?_
  apply KeepsAlone.ite
  · exact fun preview => done fun last _ => unstored _ _ _ fun _ => by simp [preview]
  intro preview
  obtain rfl : mode = .persistEvidence := by cases mode <;> simp_all
  have step := (calm.trans calm').trans calm''
  exact keeps_persistManual env request boundary (not_not.mp enabled) _ _ fun attemptId is =>
    (known attemptId is).advances step.toAdvances

end manual


/-! ## Calls one after another -/

def Promise (env : Environment) (world : World) : Job → JobResult → World → Prop
  | .worker _ request _ _, .worker result, now =>
    CyclePromise env (world.Replayable request) result now
  | .manual _ request mode, .manual result, now =>
    ManualPromise env mode (world.Replayable request) result now
  | .worker .., _, _ | .manual .., _, _ => False
  | .pass _, _, _ | .health _, _, _ | .schedule _, _, _ => True

def Job.FindsSuccess (world : World) : Job → Prop
  | .worker _ request _ _ => ∃ attemptId, world.Replayable request attemptId
  | _ => False

theorem keeps_program (job : Job) :
    KeepsAlone backend (job.FindsSuccess world) (Promise env world job) (program env job)
      world := by
  cases job with
  | pass time =>
    refine keeps_calm (fun now _ => ⟨?_, le_rfl, fun _ => rfl⟩)
      fun _ _ _ _ _ _ _ => done fun _ _ => trivial
    exact ⟨⟨fun _ _ found => found, fun found _ => found, fun _ _ found _ => found⟩, rfl⟩
  | health scope => exact part (keeps_health scope) fun _ _ _ _ => done fun _ _ => trivial
  | schedule request =>
    exact part (keeps_schedule env request) fun _ _ _ _ => done fun _ _ => trivial
  | manual boundary request mode =>
    refine (keeps_evaluateManual env request boundary not_false mode fun _ is => is).bind ?_
    refine fun result now promise => done fun last calm => ⟨?_, promise.2⟩
    exact fun succeeded stored first => (promise.1 succeeded stored first).advances calm.toAdvances
  | worker boundary request workerId heldFencingToken =>
    refine (keeps_runWorker env request (fun is => is) boundary workerId heldFencingToken
      fun _ is => is).bind ?_
    refine fun result now promise => done fun last calm => ⟨?_, promise.2⟩
    exact fun succeeded published => (promise.1 succeeded published).advances calm.toAdvances

def World.wait (world : World) (time : Nat) : World := { world with clock := world.clock + time }

/-- A call of the orchestrator, with the pauses before its requests. It is cut off where they
end. -/
structure Episode where
  job : Job
  pauses : List Nat

def episode (backend : Backend) (env : Environment) (world : World) (call : Episode) :
    Option (Except Refusal JobResult) × World :=
  (program env call.job).episode (World.serve backend) World.wait world call.pauses

def serial (backend : Backend) (env : Environment) (world : World) (calls : List Episode) :
    World :=
  run (fun world call => (episode backend env world call).2) world calls

/-- What a call does, cut off or not. -/
structure Within (quiet : Prop) (world now : World) : Prop where
  advances : world.Advances now
  evaluations : quiet → now.evaluations = world.evaluations

theorem Within.trans {next : World} (first : Within quiet world next)
    (second : Within quiet next now) : Within quiet world now where
  advances := first.advances.trans second.advances
  evaluations is := (second.evaluations is).trans (first.evaluations is)

variable {env}

/-- Whether it is cut off or not, a call only advances the world, and one that finds a recorded
success asks no boundary. -/
theorem episode_keeps (good : world.Good) (call : Episode) :
    let (result, now) := episode backend env world call
    now.Good ∧ Within (call.job.FindsSuccess world) world now ∧
      ∀ reply, result = some (.ok reply) → Promise env world call.job reply now := by
  let quiet := call.job.FindsSuccess world
  have kept : KeepsAlone backend quiet (Promise env world call.job) (program env call.job)
      world := keeps_program env call.job
  have waits : ∀ (s : World) time, s.Good → (s.wait time).Good ∧ s.Paused (s.wait time) :=
    fun s time good => ⟨good.of_same rfl le_rfl, rfl⟩
  have paused : ∀ s now : World, s.Paused now → Within quiet s now := by
    intro s now paused
    refine ⟨paused.calm.toAdvances, fun _ => ?_⟩
    rw [show now = _ from paused]
  have moved : ∀ s now : World, s.Good → (alone quiet).guarantee s now → Within quiet s now :=
    fun _ _ _ moved => ⟨moved.2.1, moved.2.2⟩
  have still : ∀ s : World, Within quiet s s := fun s => ⟨.refl s, fun _ => rfl⟩
  obtain ⟨good', within, promise⟩ := kept.keeps.episode waits
    (fun _ _ _ (moved : (alone quiet).guarantee _ _) => moved.1) still Within.trans paused moved
    good call.pauses
  exact ⟨good', within, fun reply same => promise _ same⟩

theorem serial_keeps (good : world.Good) (calls : List Episode) :
    (serial backend env world calls).Good ∧
      world.Advances (serial backend env world calls) := by
  refine run_invariant_of_step (I := fun now => now.Good ∧ world.Advances now) _
    (fun now call holds => ?_) calls ⟨good, .refl world⟩
  obtain ⟨good', within, -⟩ : Good (episode backend env now call).2 ∧ _ :=
    episode_keeps holds.1 call
  exact ⟨good', holds.2.trans within.advances⟩

/-- A lineage that has succeeded stays as it is, and so does a success that is recorded in full,
whatever calls follow and wherever they are cut off. A worker's cycle that finds one asks no
boundary and ends as a replay of it, unless it is turned away before; a manual evaluation
stores nothing new. A call that returns with a published success leaves it recorded in full. -/
theorem recorded_successes_are_replayed (backend : Backend) (env : Environment) (clock : Instant)
    (earlier later : List Episode) :
    let before := serial backend env (World.initial clock) earlier
    let now := serial backend env before later
    before.SucceededKept now ∧
      (∀ lineageId attemptId, before.Recorded lineageId attemptId →
        now.Recorded lineageId attemptId) ∧
      (∀ request attemptId, before.Replayable request attemptId →
        now.Replayable request attemptId) ∧
      ∀ call, let (result, last) := episode backend env now call
        (call.job.FindsSuccess now → last.evaluations = now.evaluations) ∧
          ∀ reply, result = some (.ok reply) → Promise env now call.job reply last := by
  intro before now
  have good : before.Good := (serial_keeps (good_initial clock) earlier).1
  obtain ⟨good', advances⟩ : now.Good ∧ before.Advances now := serial_keeps good later
  exact ⟨advances.lineages, fun _ _ recorded => recorded.advances advances,
    fun _ _ replayable => replayable.advances advances,
    fun call => ⟨(episode_keeps good' call).2.1.evaluations, (episode_keeps good' call).2.2⟩⟩

def sampleCycle : Episode :=
  ⟨.worker sampleBoundary sampleRequest "first" none, List.replicate 50 0⟩

def samplePreview : Episode :=
  ⟨.manual sampleBoundary sampleRequest .preview, List.replicate 10 0⟩

/-- A preview asks the boundary again, after the success is recorded, and replays nothing. -/
theorem preview_evaluates_again :
    let before := serial .memory sampleEnvironment (World.initial 0) [sampleCycle]
    let (result, now) := episode .memory sampleEnvironment before samplePreview
    (before.store.lineages.find 0).map
        (fun lineage => (lineage.terminalStatus, lineage.terminalAttemptId)) =
          some (some .succeeded, some 2) ∧
      (before.store.attempts.find 2).map ScanAttempt.status = some .succeeded ∧
      before.evaluations.length = 1 ∧ now.evaluations.length = 2 ∧
      (match result with
        | some (.ok (.manual manual)) => some manual.replayed
        | _ => none) = some false := by
  decide

end AlphaTrade.Watcher
