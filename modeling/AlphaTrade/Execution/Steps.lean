import AlphaTrade.Execution.Writes

/-!
# Steps and runs of the system

Every step of the system commits a chain of writes, and every command of a reached
database is a filed command after a chain of moves. `reached_invariant` is the rule
by which later modules prove invariants of commands.
-/
namespace AlphaTrade.Execution
open Library

namespace Label

def changesKill : Label → Bool
  | .activateKill .. | .deactivateKill .. => true
  | _ => false

def claims : Label → Bool
  | .finishClaim .. => true
  | _ => false

def fills : Label → Bool
  | .applyUniqueFill .. => true
  | _ => false

end Label

def Job.command : Job → Option CommandId
  | .claim _ => none
  | .fakeSend c => some c
  | .demoSend send _ => some send.command

namespace World

def JobsValid (cat : Catalog) (w : World) : Prop :=
  ∀ i p, w.workers i = some (.claim p) → p.Valid cat

/-- The command that a step blocks before dispatch: it passes the two guards of the block,
and the step's own test on the command and its effect. -/
def blockTarget (w : World) (c : CommandId) (test : Command → Effect → Bool) : Option Command :=
  match w.db.commands.find c with
  | none => none
  | some k =>
    match k.effect with
    | none => none
    | some e =>
      if e.state ≠ .dispatchAuthorized ∧ k.projection.state ≠ .blockedBeforeDispatch ∧ test k e then
        some k
      else none

def blocked (w : World) : Label → Option Command
  | .leaseEffect ctx c _ _ => w.blockTarget c (w.db.safetyBlocked ctx)
  | .authorizeDispatch ctx c _ _ => w.blockTarget c (w.db.safetyBlocked ctx)
  | .recoverAfterCrash ctx c _ => w.blockTarget c fun k e =>
    (e.state = .created || e.state = .leased) && w.db.safetyBlocked ctx k e
  | .fenceProvenUnsent _ c => w.blockTarget c fun _ e =>
    e.neverDispatched && e.state ≠ .provenUnsent
  | _ => none

def authorizeTarget (w : World) (ctx : Ctx) (c : CommandId) : Option Command :=
  (w.db.commands.find c).filter fun k =>
    k.effect.any fun e => e.state = .leased && !w.db.safetyBlocked ctx k e

def authorized (w : World) : Label → Option Command
  | .authorizeDispatch ctx c _ _ => w.authorizeTarget ctx c
  | .recoverAfterCrash ctx c _ => w.authorizeTarget ctx c
  | _ => none

/-- What the release of a step meets, if the step may release: a block other than the local
recovery, a rejection, or a cancellation. -/
def released (w : World) : Label → Option Releasing
  | .leaseEffect ctx c owner seconds =>
    (w.blocked (.leaseEffect ctx c owner seconds)).map (w.db.releasing ctx)
  | .authorizeDispatch ctx c owner token =>
    (w.blocked (.authorizeDispatch ctx c owner token)).map (w.db.releasing ctx)
  | .recoverAfterCrash ctx c owner =>
    (w.blocked (.recoverAfterCrash ctx c owner)).map (w.db.releasing ctx)
  | .finishFakeSend ctx i .rejected =>
    match w.workers i with
    | some (.fakeSend c) => (w.db.commands.find c).map (w.db.releasing ctx)
    | _ => none
  | .finishDemoSend ctx i .refused =>
    match w.workers i with
    | some (.demoSend send .verified) => (w.db.commands.find send.command).map (w.db.releasing ctx)
    | some (.demoSend send .entered) => (w.db.commands.find send.command).map (w.db.releasing ctx)
    | _ => none
  | .recordDemoOrder ctx c true => (w.db.commands.find c).map (w.db.releasing ctx)
  | .recordDemoTerminal ctx c => (w.db.commands.find c).map (w.db.releasing ctx)
  | _ => none

def subject (w : World) : Label → Option CommandId
  | .leaseEffect _ c _ _ | .authorizeDispatch _ c _ _ | .recoverAfterCrash _ c _
  | .fenceProvenUnsent _ c | .recordDemoOrder _ c _ | .recordDemoTerminal _ c => some c
  | .finishFakeSend _ i _ | .consumeDemoSend _ i | .finishDemoSend _ i _ =>
    (w.workers i).bind Job.command
  | _ => none

/-- The step does only what the gate is for. -/
structure Respects (gate : Gate) (w : World) (l : Label) : Prop where
  block : ∀ k, w.blocked l = some k → gate.block k
  authorize : ∀ k, w.authorized l = some k → gate.authorize k
  release : ∀ x, w.released l = some x → gate.release x
  about : ∀ c, w.subject l = some c → gate.about c
  kill : l.changesKill = true → gate.kill
  claim : l.claims = true → gate.claim
  fill : l.fills = true → gate.fill

theorem respects_any (w : World) (l : Label) : w.Respects .any l := by
  constructor <;> intros <;> trivial

/-- The side condition of a run: only commands with `allow` are blocked before dispatch. -/
def BlocksOnly (allow : Command → Prop) (w : World) (l : Label) : Prop :=
  ∀ k, w.blocked l = some k → allow k

instance {allow : Command → Prop} [DecidablePred allow] (w : World) (l : Label) :
    Decidable (w.BlocksOnly allow l) :=
  match h : w.blocked l with
  | none => .isTrue fun _ eq => nomatch h.symm.trans eq
  | some k => decidable_of_iff (allow k)
      ⟨fun hk _ eq => Option.some.inj (h.symm.trans eq) ▸ hk, fun all => all k h⟩

theorem BlocksOnly.respects {allow : Command → Prop} (w : World) (l : Label)
    (h : w.BlocksOnly allow l) : w.Respects (.blocking allow) l :=
  { w.respects_any l with block := h }

variable {cat : Catalog} {gate : Gate} {w : World} {l : Label}

variable {c : CommandId} {k : Command} {e : Effect} {ctx : Ctx} {r : Except Error Db} {db : Db}
  {organization : OrganizationId} {request : KillRequest} {plan : Plan} {i : WorkerId}
  {job : Option Job} {ls : List Label}

theorem blockTarget_eq_some {test : Command → Effect → Bool} (find : w.db.commands.find c = some k)
    (effect : k.effect = some e) (unauthorized : e.state ≠ .dispatchAuthorized)
    (open_ : k.projection.state ≠ .blockedBeforeDispatch) (passed : test k e = true) :
    w.blockTarget c test = some k := by
  simp [blockTarget, find, effect, unauthorized, open_, passed]

theorem authorizeTarget_eq_some (find : w.db.commands.find c = some k) (effect : k.effect = some e)
    (leased : e.state = .leased) (passed : w.db.safetyBlocked ctx k e = false) :
    w.authorizeTarget ctx c = some k := by
  simp [authorizeTarget, find, effect, leased, passed]

theorem commit_writes (h : ∀ db', r = .ok db' → Db.Writes gate cat w.db db') :
    Db.Writes gate cat w.db (w.commit r).db := by
  cases r with
  | error _ => exact .refl
  | ok db' => exact h db' rfl

@[simp] theorem assign_db (i : WorkerId) (job : Option Job) : (w.assign i job).db = w.db := rfl

@[simp] theorem start_db (i : WorkerId) (job : Except Error Job) : (w.start i job).db = w.db := by
  unfold start
  split <;> rfl

theorem ensureEpochsForAccounts_sameBooks (ctx : Ctx) (organization : OrganizationId)
    (accounts : List AccountId) (db : Db) :
    Db.SameBooks db (db.ensureEpochsForAccounts ctx organization accounts) := by
  unfold Db.ensureEpochsForAccounts
  induction accounts generalizing db with
  | nil => exact .refl db
  | cons account accounts ih =>
    exact (db.lockEpoch_sameBooks ctx (organization, account)).trans (ih _)

theorem activateKill_sameBooks {db' : Db} {accounts : List AccountId}
    (h : db.activateKill ctx organization request accounts = .ok db') : Db.SameBooks db db' := by
  unfold Db.activateKill at h
  dsimp only at h
  split at h
  · cases h
  split at h
  · obtain rfl := Except.ok.inj h
    exact .refl _
  obtain rfl := Except.ok.inj h
  obtain ⟨hc, ha, hj, hb, hp, hs⟩ :=
    ensureEpochsForAccounts_sameBooks ctx organization accounts (db.setKill organization ⟨true, _⟩)
  exact ⟨hc, ha, hj, hb, hp, hs⟩

theorem deactivateKill_sameBooks {db' : Db} (h : db.deactivateKill organization request = .ok db') :
    Db.SameBooks db db' := by
  unfold Db.deactivateKill at h
  dsimp only at h
  split at h
  · cases h
  split at h
  · obtain rfl := Except.ok.inj h
    exact ⟨rfl, rfl, rfl, rfl, rfl, fun _ _ _ => Iff.rfl⟩
  · obtain rfl := Except.ok.inj h
    exact .refl _

/-- An authorization that is not consumed is written over with one that is not. -/
theorem updateAuthorization_writes {id : AuthorizationId} {a : Authorization}
    (before : ∀ a, db.authorizations id = some a → a.state ≠ .consumed)
    (after : a.state ≠ .consumed) :
    Db.Writes gate cat db
      { db with authorizations := Function.update db.authorizations id (some a) } := by
  refine .single (.outside ⟨rfl, rfl, rfl, rfl, rfl, fun i b consumed => ?_⟩
    (.inl (.of_eq rfl rfl)))
  by_cases same : i = id
  · subst same
    constructor
    · intro found
      obtain rfl : a = b := by simpa using found
      exact absurd consumed after
    · intro found
      exact absurd consumed (before b found)
  · simp [Function.update_of_ne same]

theorem withdrawAuthorization_writes (db : Db) (id : AuthorizationId)
    {state : AuthorizationState} (withdrawn : state ≠ .consumed) :
    Db.Writes gate cat db (db.withdrawAuthorization id state) := by
  unfold Db.withdrawAuthorization
  split
  · rename_i a found
    split
    · rename_i available
      refine updateAuthorization_writes (fun b found' => ?_) withdrawn
      obtain rfl : a = b := Option.some.inj (found.symm.trans found')
      simp [available]
    · exact .refl
  · exact .refl

theorem recordFakeOutcome_writes {db' : Db} {outcome : FakeOutcome} (about : gate.about c)
    (side : ∀ k, outcome = .rejected → db.commands.find c = some k →
      gate.release (db.releasing ctx k))
    (h : db.recordFakeOutcome cat ctx c outcome = .ok db') : Db.Writes gate cat db db' := by
  cases outcome with
  | raised => exact Db.markAmbiguous_writes about h
  | lost => exact Db.markAmbiguous_writes about h
  | accepted => exact Db.markAcknowledged_writes about h
  | rejected => exact Db.markRejected_writes about (fun k => side k rfl) h

theorem recordDemoOutcome_writes {db' : Db} {outcome : DemoOutcome} (about : gate.about c)
    (side : ∀ k, outcome = .refused → db.commands.find c = some k →
      gate.release (db.releasing ctx k))
    (h : db.recordDemoOutcome cat ctx c outcome = .ok db') : Db.Writes gate cat db db' := by
  cases outcome with
  | refused => exact Db.markRejected_writes about (fun k => side k rfl) h
  | incomplete =>
    obtain rfl := Except.ok.inj h
    exact .refl
  | accepted => exact Db.markAcknowledged_writes about h

theorem consumeDemoSend_writes {db' : Db} {settings : DemoSettings} {answer : DemoConsumption}
    (about : gate.about c) (h : db.consumeDemoSend ctx c settings plan = .ok (db', answer)) :
    Db.Writes gate cat db db' := by
  simp only [Db.consumeDemoSend, bind_eq_ok, Db.requireCommand_eq_ok] at h
  obtain ⟨k, -, e, -, _, -, _, -, marked, mark, h⟩ := h
  obtain ⟨rfl, -⟩ := Prod.mk.inj (Except.ok.inj h)
  exact (Db.lockEpoch_writes k.accountKey).trans (Db.markAmbiguous_writes about mark)

theorem verifyDemoSendGate_writes {db' : Db} {owner : String} {token : Int}
    (h : db.verifyDemoSendGate ctx c owner token plan = .ok db') : Db.Writes gate cat db db' := by
  simp only [Db.verifyDemoSendGate, bind_eq_ok] at h
  obtain ⟨k, -, _, -, e, -, _, -, h⟩ := h
  obtain rfl := Except.ok.inj h
  exact Db.lockEpoch_writes k.accountKey

/-- Every step commits a chain of writes. -/
theorem step_writes (jobs : w.JobsValid cat) (side : w.Respects gate l) :
    Db.Writes gate cat w.db (w.step cat l).db := by
  cases l with
  | activateKill ctx organization request accounts =>
    exact commit_writes fun db' h => .single (.outside (activateKill_sameBooks h)
      (.inr (side.kill rfl)))
  | deactivateKill organization request =>
    exact commit_writes fun db' h => .single (.outside (deactivateKill_sameBooks h)
      (.inr (side.kill rfl)))
  | issueAuthorization id issuance =>
    simp only [step, Db.issueAuthorization]
    split
    · exact .refl
    · rename_i absent
      exact updateAuthorization_writes (by simp [absent]) (by simp)
  | revokeAuthorization id => exact withdrawAuthorization_writes _ _ (by simp)
  | expireAuthorization ctx id =>
    simp only [step, Db.expireAuthorization]
    split
    · split
      · exact withdrawAuthorization_writes _ _ (by simp)
      · exact .refl
    · exact .refl
  | beginClaim ctx i gate request =>
    simp only [step, start_db]
    exact .refl
  | finishClaim ctx i refreshed env =>
    simp only [step]
    split
    · rename_i p running
      refine commit_writes fun db' h => ?_
      cases finished : w.db.finishClaim cat ctx p refreshed env with
      | error _ => simp [finished, Except.map] at h
      | ok x =>
        obtain rfl : x.1 = db' := by simpa [finished, Except.map] using h
        exact .single (.claim (jobs i p running) (side.claim rfl) finished)
    · exact .refl
  | leaseEffect ctx c owner seconds =>
    refine commit_writes fun db' h => Db.leaseEffect_writes (side.about c rfl)
      (fun k e hf he hs hp hb => ?_) h
    have target := blockTarget_eq_some hf he hs hp hb
    exact ⟨side.block k target, side.release _ (by simp [released, blocked, target])⟩
  | authorizeDispatch ctx c owner token =>
    refine commit_writes fun db' h => Db.authorizeDispatch_writes (side.about c rfl)
      (fun k e hf he hs hp hb => ?_) (fun k e hf he hs hb => ?_) h
    · have target := blockTarget_eq_some hf he hs hp hb
      exact ⟨side.block k target, side.release _ (by simp [released, blocked, target])⟩
    · exact side.authorize k (authorizeTarget_eq_some hf he hs hb)
  | beginFakeSend i c owner token =>
    simp only [step, start_db]
    exact .refl
  | finishFakeSend ctx i outcome =>
    simp only [step]
    split
    · rename_i c running
      have about := side.about c (by simp [subject, running, Job.command])
      refine commit_writes fun db' h => recordFakeOutcome_writes about (fun k rejected find => ?_) h
      subst rejected
      exact side.release _ (by simp [released, running, find])
    · exact .refl
  | beginDemoSend i send =>
    simp only [step, start_db]
    exact .refl
  | consumeDemoSend ctx i =>
    simp only [step]
    split
    · rename_i send running
      have about := side.about send.command (by simp [subject, running, Job.command])
      unfold consumeDemoSend
      split
      · rename_i h
        exact consumeDemoSend_writes about h
      · rename_i h
        exact consumeDemoSend_writes about h
      · exact .refl
    · exact .refl
  | enterDemoSubmit i =>
    simp only [step]
    split <;> exact .refl
  | verifyDemoSendGate ctx i =>
    simp only [step]
    split
    · unfold verifyDemoSendGate
      split
      · rename_i h
        exact verifyDemoSendGate_writes h
      · exact .refl
    · exact .refl
  | finishDemoSend ctx i outcome =>
    simp only [step]
    split
    · rename_i send running
      have about := side.about send.command (by simp [subject, running, Job.command])
      refine commit_writes fun db' h => recordDemoOutcome_writes about (fun k refused find => ?_) h
      subst refused
      exact side.release _ (by simp [released, running, find])
    · rename_i send running
      have about := side.about send.command (by simp [subject, running, Job.command])
      split
      · exact .refl
      · refine commit_writes fun db' h =>
          recordDemoOutcome_writes about (fun k refused find => ?_) h
        subst refused
        exact side.release _ (by simp [released, running, find])
    · exact .refl
  | crash i => exact .refl
  | recoverAfterCrash ctx c owner =>
    refine commit_writes fun db' h => Db.recoverAfterCrash_writes (side.about c rfl)
      (fun k e hf he hp hs hb => ?_) (fun k e hf he hs hb => ?_) h
    · have target : w.blocked (.recoverAfterCrash ctx c owner) = some k := by
        refine blockTarget_eq_some hf he ?_ hp ?_
        · rcases hs with hs | hs <;> simp [hs]
        · rcases hs with hs | hs <;> simp [hs, hb]
      exact ⟨side.block k target, side.release _ (by simp [released, target])⟩
    · exact side.authorize k (authorizeTarget_eq_some hf he hs hb)
  | fenceProvenUnsent ctx c =>
    refine commit_writes fun db' h => Db.fenceProvenUnsent_writes (side.about c rfl)
      (fun k e hf he hp hu hs => ?_) h
    refine side.block k (blockTarget_eq_some hf he ?_ hp ?_)
    · intro authorized
      simp [Effect.neverDispatched, authorized] at hu
    · simp [hu, hs]
  | recordDemoOrder ctx c rejected =>
    refine commit_writes fun db' h => Db.recordDemoOrder_writes (side.about c rfl)
      (fun k refused find => ?_) h
    subst refused
    exact side.release _ (by simp [released, find])
  | recordDemoTerminal ctx c =>
    refine commit_writes fun db' h => Db.recordDemoTerminal_writes (side.about c rfl)
      (fun k find => ?_) h
    exact side.release _ (by simp [released, find])
  | applyUniqueFill ctx c request =>
    refine commit_writes fun db' h => ?_
    cases filled : w.db.applyUniqueFill cat ctx c request with
    | error _ => simp [filled, Except.map] at h
    | ok x =>
      obtain rfl : x.1 = db' := by simpa [filled, Except.map] using h
      exact .single (.fill filled (side.fill rfl))

/-! ## Jobs -/

theorem beginClaim_valid {gate : ClaimGate} {request : ClaimRequest} {p : PendingClaim}
    (h : db.beginClaim cat ctx gate request = .ok p) : p.Valid cat := by
  simp only [Db.beginClaim, bind_eq_ok] at h
  obtain ⟨_, -, _, -, h⟩ := h
  split at h
  · cases h
  rename_i plan found
  simp only [bind_eq_ok] at h
  obtain ⟨_, -, h⟩ := h
  split at h
  · cases h
  simp only [bind_eq_ok] at h
  obtain ⟨payloadHash, payload, h⟩ := h
  obtain rfl := Except.ok.inj h
  exact ⟨found, payload⟩

theorem JobsValid.assign (jobs : w.JobsValid cat) (h : ∀ p, job = some (.claim p) → p.Valid cat) :
    (w.assign i job).JobsValid cat := by
  intro j p running
  by_cases same : j = i
  · subst same
    exact h p (by simpa [World.assign] using running)
  · exact jobs j p (by simpa [World.assign, Function.update_of_ne same] using running)

/-- A worker is left idle, or with a send. -/
theorem JobsValid.assign_send {w' : World} (jobs : w.JobsValid cat) (same : w'.workers = w.workers)
    (h : ∀ p, job ≠ some (.claim p)) : (w'.assign i job).JobsValid cat := by
  have jobs' : w'.JobsValid cat := by
    intro j p running
    exact jobs j p (same ▸ running)
  exact jobs'.assign fun p eq => absurd eq (h p)

@[simp] theorem commit_workers (r : Except Error Db) : (w.commit r).workers = w.workers := by
  cases r <;> rfl

theorem JobsValid.start {job : Except Error Job} (jobs : w.JobsValid cat)
    (h : ∀ p, job = .ok (.claim p) → p.Valid cat) : (w.start i job).JobsValid cat := by
  unfold World.start
  split
  · exact jobs.assign fun p eq => h p (by rw [Option.some.inj eq])
  · exact jobs

theorem JobsValid.commit (jobs : w.JobsValid cat) : (w.commit r).JobsValid cat := by
  intro i p running
  exact jobs i p (by simpa using running)

theorem step_jobsValid (jobs : w.JobsValid cat) : (w.step cat l).JobsValid cat := by
  cases l with
  | beginClaim ctx i gate request =>
    refine jobs.start fun p h => ?_
    cases begun : w.db.beginClaim cat ctx gate request with
    | error _ => simp [begun, Except.map] at h
    | ok p' =>
      obtain rfl : p' = p := by simpa [begun, Except.map] using h
      exact beginClaim_valid begun
  | beginFakeSend i c owner token =>
    refine jobs.start fun p h => ?_
    simp [beginFakeSend] at h
  | beginDemoSend i send =>
    refine jobs.start fun p h => ?_
    simp [beginDemoSend] at h
  | consumeDemoSend ctx i =>
    simp only [step]
    split
    · unfold consumeDemoSend
      split <;> exact jobs.assign_send rfl (by simp)
    · exact jobs
  | verifyDemoSendGate ctx i =>
    simp only [step]
    split
    · unfold verifyDemoSendGate
      split <;> exact jobs.assign_send rfl (by simp)
    · exact jobs
  | enterDemoSubmit i =>
    simp only [step]
    split
    · exact jobs.assign_send rfl (by simp)
    · exact jobs
  | finishClaim ctx i refreshed env =>
    simp only [step]
    split
    · exact jobs.assign_send (commit_workers _) (by simp)
    · exact jobs
  | finishFakeSend ctx i outcome =>
    simp only [step]
    split
    · exact jobs.assign_send (commit_workers _) (by simp)
    · exact jobs
  | finishDemoSend ctx i outcome =>
    simp only [step]
    split
    · exact jobs.assign_send (commit_workers _) (by simp)
    · split
      · exact jobs
      · exact jobs.assign_send (commit_workers _) (by simp)
    · exact jobs
  | crash i => exact jobs.assign_send rfl (by simp)
  | _ => first | exact jobs | exact jobs.commit

theorem run_jobsValid (jobs : w.JobsValid cat) (ls : List Label) :
    (run (step cat) w ls).JobsValid cat :=
  run_invariant_of_step _ (fun _ _ h => step_jobsValid h) ls jobs

theorem init_jobsValid (cat : Catalog) : init.JobsValid cat := by
  intro i p running
  simp [init] at running

/-! ## Claims -/

/-- A step that is no claim files no command. -/
theorem step_find_eq_none (jobs : w.JobsValid cat) (quiet : l.claims = false)
    (absent : w.db.commands.find c = none) : (w.step cat l).db.commands.find c = none := by
  have side : w.Respects { Gate.any with claim := False } l :=
    { w.respects_any l with claim := fun claims => absurd claims (by simp [quiet]) }
  exact (step_writes jobs side).find_eq_none id absent

/-- A finished claim commits an outcome, or nothing. -/
theorem step_finishClaim (cat : Catalog) (w : World) (ctx : Ctx) (i : WorkerId) (refreshed : Bool)
    (env : ClaimEnv) :
    (w.step cat (.finishClaim ctx i refreshed env)).db = w.db ∨
      ∃ p result, w.workers i = some (.claim p) ∧
        w.db.finishClaim cat ctx p refreshed env =
          .ok ((w.step cat (.finishClaim ctx i refreshed env)).db, result) := by
  simp only [step]
  split
  · rename_i p running
    cases finished : w.db.finishClaim cat ctx p refreshed env with
    | error _ => exact .inl rfl
    | ok x => exact .inr ⟨p, x.2, running, finished⟩
  · exact .inl rfl

/-- A command is filed by a finished claim and by nothing else. -/
theorem step_filed (jobs : w.JobsValid cat) (absent : w.db.commands.find c = none)
    (filed : (w.step cat l).db.commands.find c = some k) :
    ∃ ctx i refreshed env p result, l = .finishClaim ctx i refreshed env ∧
      w.workers i = some (.claim p) ∧
      w.db.finishClaim cat ctx p refreshed env = .ok ((w.step cat l).db, result) := by
  by_cases quiet : l.claims = false
  · rw [step_find_eq_none jobs quiet absent] at filed
    cases filed
  cases l with
  | finishClaim ctx i refreshed env =>
    obtain same | ⟨p, result, running, finished⟩ := step_finishClaim cat w ctx i
      refreshed env
    · rw [same, absent] at filed
      cases filed
    · exact ⟨ctx, i, refreshed, env, p, result, rfl, running, finished⟩
  | _ => exact absurd rfl quiet

/-! ## Runs -/

theorem step_commandsMoved (jobs : w.JobsValid cat) (side : w.Respects gate l) :
    Db.CommandsMoved gate cat w.db (w.step cat l).db :=
  (step_writes jobs side).commandsMoved

/-- Every run commits a chain of writes. -/
theorem run_writes (jobs : w.JobsValid cat) (side : Along (step cat) (Respects gate) w ls) :
    Db.Writes gate cat w.db (run (step cat) w ls).db := by
  have both : (run (step cat) w ls).JobsValid cat ∧
      Db.Writes gate cat w.db (run (step cat) w ls).db :=
    run_invariant (step cat) (I := fun w' => w'.JobsValid cat ∧ Db.Writes gate cat w.db w'.db)
      (fun _ _ h respects => ⟨step_jobsValid h.1, h.2.trans (step_writes h.1 respects)⟩)
      ⟨jobs, .refl⟩ side
  exact both.2

theorem run_commandsMoved (jobs : w.JobsValid cat) (side : Along (step cat) (Respects gate) w ls) :
    Db.CommandsMoved gate cat w.db (run (step cat) w ls).db :=
  (run_writes jobs side).commandsMoved

end World

theorem reached_append (cat : Catalog) (ls ms : List Label) :
    reached cat (ls ++ ms) = run (World.step cat) (reached cat ls) ms := run_append _ _ ls ms

theorem reached_jobsValid (cat : Catalog) (ls : List Label) : (reached cat ls).JobsValid cat :=
  World.run_jobsValid (World.init_jobsValid cat) ls

variable {cat : Catalog} {gate : Gate} {ls : List Label} {c : CommandId} {k : Command}

/-- A property of databases that every write keeps holds of every database reached. -/
theorem reached_db_invariant {I : Db → Prop} (init : I .empty)
    (keep : ∀ db db', I db → Db.Write gate cat db db' → I db')
    (side : Along (World.step cat) (World.Respects gate) World.init ls) :
    I (reached cat ls).db := by
  have writes : Db.Writes gate cat Db.empty (reached cat ls).db :=
    World.run_writes (World.init_jobsValid cat) side
  exact writes.invariant keep init

/-- A property of filed commands that every move keeps holds of every command reached. -/
theorem reached_invariant {I : CommandId → Command → Prop}
    (created : ∀ c k, Command.Created cat c k → I c k)
    (keep : ∀ c k k', I c k → Command.Move gate cat k k' → I c k')
    (side : Along (World.step cat) (World.Respects gate) World.init ls)
    (find : (reached cat ls).db.commands.find c = some k) : I c k := by
  have moved := World.run_commandsMoved (World.init_jobsValid cat) side
  obtain ⟨k₀, filed, moves⟩ := moved.filed c k rfl find
  exact Command.Moves.invariant (keep c) (created c k₀ filed) moves

/-- The unconditional side condition. -/
theorem along_respects_any (cat : Catalog) (w : World) (ls : List Label) :
    Along (World.step cat) (World.Respects .any) w ls :=
  along_of_forall _ World.respects_any w ls

theorem Command.Created.reserved (h : Created cat c k) (allow : k.outcome = .allow) :
    k.reservation.isSome ∧ k.effect.isSome := by
  cases h with
  | blocked _ _ => cases allow
  | allowed _ _ _ _ => exact ⟨rfl, rfl⟩

/-- An allowed command has its reservation and its effect. -/
theorem reached_reserved (find : (reached cat ls).db.commands.find c = some k)
    (allow : k.outcome = .allow) : ∃ r e, k.reservation = some r ∧ k.effect = some e := by
  have moved := World.run_commandsMoved (World.init_jobsValid cat)
    (along_respects_any cat World.init ls)
  obtain ⟨k₀, filed, moves⟩ := moved.filed c k rfl find
  have terms := moves.sameTerms
  obtain ⟨reserved, submitted⟩ := filed.reserved (terms.outcome ▸ allow)
  rw [← terms.reservation] at reserved
  rw [← terms.effect] at submitted
  obtain ⟨r, reservation⟩ := Option.isSome_iff_exists.mp reserved
  obtain ⟨e, effect⟩ := Option.isSome_iff_exists.mp submitted
  exact ⟨r, e, reservation, effect⟩

end AlphaTrade.Execution
