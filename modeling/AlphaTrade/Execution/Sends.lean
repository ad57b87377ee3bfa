import AlphaTrade.Execution.Dispatch

/-!
# At most one demo order

The ambiguous marker is committed before the provider is entered, and no operation
takes an effect back to a state that can be leased, authorized or consumed. A worker
that holds the marker is therefore the only one that will ever enter the provider for
its command. Fencing tokens only grow, every new lease takes the next one, and the
token stored at authorization is never replaced.
-/
namespace AlphaTrade.Execution
open Library

/-! ## Tokens -/

namespace Effect

def Unsent (e : Effect) : Prop := e.state = .created ∨ e.state = .leased

def Spent (e : Effect) : Prop := ¬e.Unsent ∧ e.state ≠ .dispatchAuthorized

/-- How an effect may move on: tokens only grow, a new lease takes a new one, a stored
dispatch token and the claimed epoch stay, and spent authority does not come back. -/
structure Advances (e e' : Effect) : Prop where
  fencing : e.fencingToken ≤ e'.fencingToken
  leased : e'.state = .leased → e' = e ∨ e.fencingToken < e'.fencingToken
  stored : ∀ token, e.dispatchFencingToken = some token → e'.dispatchFencingToken = some token
  spent : e.Spent → e'.Spent
  epoch : e'.safetyEpoch = e.safetyEpoch

theorem Advances.refl (e : Effect) : Advances e e :=
  ⟨le_rfl, fun _ => .inl rfl, fun _ h => h, fun h => h, rfl⟩

theorem Advances.trans {e e' e'' : Effect} (h : Advances e e') (h' : Advances e' e'') :
    Advances e e'' where
  fencing := h.fencing.trans h'.fencing
  leased state := by
    obtain rfl | lt := h'.leased state
    · exact h.leased state
    · exact .inr (h.fencing.trans_lt lt)
  stored token eq := h'.stored token (h.stored token eq)
  spent authority := h'.spent (h.spent authority)
  epoch := h'.epoch.trans h.epoch

/-- A mark that spends authority. -/
theorem Advances.of_spent {e e' : Effect} (fencing : e.fencingToken ≤ e'.fencingToken)
    (stored : e'.dispatchFencingToken = e.dispatchFencingToken) (spent : e'.Spent)
    (epoch : e'.safetyEpoch = e.safetyEpoch) : Advances e e' where
  fencing := fencing
  leased state := absurd (.inr state) spent.1
  stored _ eq := stored.trans eq
  spent _ := spent
  epoch := epoch

end Effect

namespace Command

def TokenInv (k : Command) : Prop :=
  ∀ e, k.effect = some e → e.Unsent → e.dispatchFencingToken = none

def EffectAdvances (k k' : Command) : Prop :=
  ∀ e, k.effect = some e → ∃ e', k'.effect = some e' ∧ e.Advances e'

theorem EffectAdvances.of_eq {k k' : Command} (h : k'.effect = k.effect) :
    k.EffectAdvances k' := by
  intro e effect
  exact ⟨e, h.trans effect, .refl e⟩

theorem EffectAdvances.trans {k k' k'' : Command} (h : k.EffectAdvances k')
    (h' : k'.EffectAdvances k'') : k.EffectAdvances k'' := by
  intro e effect
  obtain ⟨e', effect', first⟩ := h e effect
  obtain ⟨e'', effect'', second⟩ := h' e' effect'
  exact ⟨e'', effect'', first.trans second⟩

variable {cat : Catalog} {k k' : Command}

variable {e : Effect} {gate : Gate}

/-- A write of the effect that advances it and stores a token only when it authorizes. -/
theorem tokenInv_advances {e' : Effect} (inv : k.TokenInv) (effect : k.effect = some e)
    (effect' : k'.effect = some e') (advances : e.Advances e')
    (unsent : e'.Unsent → e.Unsent ∧ e'.dispatchFencingToken = e.dispatchFencingToken) :
    k'.TokenInv ∧ k.EffectAdvances k' := by
  constructor
  · intro e₀ eq now
    obtain rfl : e' = e₀ := Option.some.inj (effect'.symm.trans eq)
    obtain ⟨before, same⟩ := unsent now
    exact same.trans (inv e effect before)
  · intro e₀ eq
    obtain rfl : e = e₀ := Option.some.inj (effect.symm.trans eq)
    exact ⟨e', effect', advances⟩

/-- A write of the effect that spends its authority. -/
theorem tokenInv_spends {e' : Effect} (inv : k.TokenInv) (effect : k.effect = some e)
    (effect' : k'.effect = some e') (fencing : e.fencingToken ≤ e'.fencingToken)
    (stored : e'.dispatchFencingToken = e.dispatchFencingToken) (spent : e'.Spent)
    (epoch : e'.safetyEpoch = e.safetyEpoch) : k'.TokenInv ∧ k.EffectAdvances k' :=
  tokenInv_advances inv effect effect' (.of_spent fencing stored spent epoch)
    fun now => absurd now spent.1

theorem spent_provenUnsent (h : e.state = .provenUnsent) : e.Spent := by
  simp [Effect.Spent, Effect.Unsent, h]

theorem spent_sendAmbiguous (h : e.state = .sendAmbiguous) : e.Spent := by
  simp [Effect.Spent, Effect.Unsent, h]

theorem spent_sendAttempted (h : e.state = .sendAttempted) : e.Spent := by
  simp [Effect.Spent, Effect.Unsent, h]

theorem Mark.advances (inv : k.TokenInv) (h : Mark gate k k') :
    k'.TokenInv ∧ k.EffectAdvances k' := by
  cases h with
  | @lease e e' _ _ _ effect leased =>
    obtain rfl | ⟨unsent, rfl⟩ := Effect.lease_cases leased
    · rw [setEffect_self effect]
      exact ⟨inv, .of_eq rfl⟩
    · refine tokenInv_advances inv effect rfl ⟨?_, fun _ => .inr ?_, fun _ h => h, ?_, rfl⟩
        fun _ => ⟨unsent, rfl⟩
      · simp
      · simp
      · exact fun spent => absurd unsent spent.1
  | @authorize e e' _ _ _ token effect authorized _ =>
    obtain ⟨leased, -, -, rfl⟩ := Effect.authorize_cases authorized
    have none_ := inv e effect (.inr leased)
    refine tokenInv_advances inv effect rfl ⟨le_rfl, ?_, ?_, ?_, rfl⟩ ?_
    · simp
    · intro t stored
      simp [none_] at stored
    · exact fun spent => absurd (.inr leased) spent.1
    · simp [Effect.Unsent]
  | @fence e effect unsent ended =>
    refine tokenInv_advances inv effect rfl ⟨?_, fun _ => .inr ?_, fun _ h => h, fun h => h, rfl⟩
      fun now => ⟨now, rfl⟩
    · simp
    · simp
  | block effect fenced _ _ _ =>
    exact tokenInv_spends inv effect rfl fenced rfl (spent_provenUnsent rfl) rfl
  | ambiguous effect =>
    exact tokenInv_spends inv effect rfl le_rfl rfl (spent_sendAmbiguous rfl) rfl
  | acknowledge effect =>
    exact tokenInv_spends inv effect rfl le_rfl rfl (spent_sendAttempted rfl) rfl
  | reject effect =>
    exact tokenInv_spends inv effect rfl le_rfl rfl (spent_sendAttempted rfl) rfl
  | cancel effect => exact ⟨inv, .of_eq rfl⟩

theorem Move.advances (inv : k.TokenInv) (h : Move gate cat k k') :
    k'.TokenInv ∧ k.EffectAdvances k' := by
  cases h with
  | mark h => exact h.advances inv
  | roll h =>
    obtain ⟨r, cause, -, -, -, rfl⟩ := h.orphan
    exact ⟨inv, .of_eq rfl⟩
  | release _ _ => exact ⟨inv, .of_eq rfl⟩
  | fill h =>
    obtain ⟨r, notional, weighted, now, -, -, -, rfl⟩ := h.written
    exact ⟨inv, .of_eq rfl⟩

theorem Moves.advances (inv : k.TokenInv) (h : Moves gate cat k k') :
    k'.TokenInv ∧ k.EffectAdvances k' := by
  induction h with
  | refl => exact ⟨inv, .of_eq rfl⟩
  | tail _ h ih =>
    obtain ⟨inv', advances⟩ := ih
    obtain ⟨inv'', advances'⟩ := h.advances inv'
    exact ⟨inv'', advances.trans advances'⟩

theorem Created.tokenInv {c : CommandId} (h : Created cat c k) : k.TokenInv := by
  cases h with
  | blocked _ _ =>
    intro e effect
    simp [PendingClaim.blockedCommand] at effect
  | allowed _ _ _ _ =>
    intro e effect _
    obtain rfl := Option.some.inj effect
    rfl

end Command

variable {cat : Catalog} {ls : List Label} {c : CommandId} {k : Command}

theorem reached_tokenInv (find : (reached cat ls).db.commands.find c = some k) : k.TokenInv :=
  reached_invariant (I := fun _ k => k.TokenInv) (fun _ _ => Command.Created.tokenInv)
    (fun _ _ _ inv move => (move.advances inv).1) (along_respects_any cat _ ls) find

/-- From one point of a run to any later one the effect of a command advances. -/
theorem reached_advances {e : Effect} (ms : List Label)
    (find : (reached cat ls).db.commands.find c = some k) (effect : k.effect = some e) :
    ∃ k' e', (reached cat (ls ++ ms)).db.commands.find c = some k' ∧ k'.effect = some e' ∧
      e.Advances e' := by
  have moved := World.run_commandsMoved (reached_jobsValid cat ls)
    (along_respects_any cat (reached cat ls) ms)
  rw [reached_append]
  obtain ⟨k', find', moves⟩ := moved.moved c k find
  obtain ⟨e', effect', advances⟩ := (moves.advances (reached_tokenInv find)).2 e effect
  exact ⟨k', e', find', effect', advances⟩

/-! ## Submits -/

namespace World

/-- Worker `i` holds the committed marker of command `c` and has yet to enter the provider. -/
def Marked (w : World) (i : WorkerId) (c : CommandId) : Prop :=
  ∃ send, w.workers i = some (.demoSend send .marked) ∧ send.command = c

def SpentFor (w : World) (c : CommandId) : Prop :=
  ∃ k e, w.db.commands.find c = some k ∧ k.effect = some e ∧ e.Spent

/-- One marker for each command, or one submit, and either has spent the authority. -/
structure SendInv (w : World) : Prop where
  tokens : ∀ c k, w.db.commands.find c = some k → k.TokenInv
  once : w.submits.Nodup
  one_marker : ∀ i j c, w.Marked i c → w.Marked j c → i = j
  marker_first : ∀ i c, w.Marked i c → c ∉ w.submits
  marked_spent : ∀ i c, w.Marked i c → w.SpentFor c
  submitted_spent : ∀ c, c ∈ w.submits → w.SpentFor c

variable {cat : Catalog} {w w' : World} {l : Label}

variable {c : CommandId} {i : WorkerId} {send : DemoSend}

theorem step_spentFor (jobs : w.JobsValid cat)
    (tokens : ∀ c k, w.db.commands.find c = some k → k.TokenInv) (h : w.SpentFor c) :
    (w.step cat l).SpentFor c := by
  obtain ⟨k, e, find, effect, spent⟩ := h
  have moved := step_commandsMoved jobs (respects_any w l)
  obtain ⟨k', find', moves⟩ := moved.moved c k find
  obtain ⟨e', effect', advances⟩ := (moves.advances (tokens c k find)).2 e effect
  exact ⟨k', e', find', effect', advances.spent spent⟩

theorem step_tokenInv (jobs : w.JobsValid cat) (tokens : ∀ c k, w.db.commands.find c = some k →
    k.TokenInv) (c : CommandId) (k : Command)
    (find : (w.step cat l).db.commands.find c = some k) : k.TokenInv := by
  have moved := step_commandsMoved jobs (respects_any w l)
  cases before : w.db.commands.find c with
  | some k₀ =>
    obtain ⟨k', find', moves⟩ := moved.moved c k₀ before
    obtain rfl : k' = k := Option.some.inj (find'.symm.trans find)
    exact (moves.advances (tokens c k₀ before)).1
  | none =>
    obtain ⟨k₀, created, moves⟩ := moved.filed c k before find
    exact (moves.advances created.tokenInv).1

/-- A step that hands out no marker and submits nothing. -/
theorem SendInv.of_quiet (inv : w.SendInv) (jobs : w.JobsValid cat)
    (submits : (w.step cat l).submits = w.submits)
    (markers : ∀ i c, (w.step cat l).Marked i c → w.Marked i c) : (w.step cat l).SendInv where
  tokens := step_tokenInv jobs inv.tokens
  once := submits ▸ inv.once
  one_marker i j c hi hj := inv.one_marker i j c (markers i c hi) (markers j c hj)
  marker_first i c h := submits ▸ inv.marker_first i c (markers i c h)
  marked_spent i c h := step_spentFor jobs inv.tokens (inv.marked_spent i c (markers i c h))
  submitted_spent c h := step_spentFor jobs inv.tokens (inv.submitted_spent c (submits ▸ h))

theorem marked_of_assign {j : WorkerId} {job : Option Job} (h : (w.assign i job).Marked j c)
    (quiet : ∀ send, job ≠ some (.demoSend send .marked)) : w.Marked j c := by
  obtain ⟨send, running, command⟩ := h
  by_cases same : j = i
  · subst same
    exact absurd (by simpa [assign] using running) (quiet send)
  · exact ⟨send, by simpa [assign, Function.update_of_ne same] using running, command⟩

theorem marked_of_start {j : WorkerId} {job : Except Error Job} (h : (w.start i job).Marked j c)
    (quiet : ∀ send, job ≠ .ok (.demoSend send .marked)) : w.Marked j c := by
  unfold start at h
  split at h
  · refine marked_of_assign h fun send eq => quiet send ?_
    rw [Option.some.inj eq]
  · exact h

theorem marked_of_workers_eq {j : WorkerId} (h : w'.Marked j c) (same : w'.workers = w.workers) :
    w.Marked j c := by
  obtain ⟨send, running, command⟩ := h
  exact ⟨send, same ▸ running, command⟩

@[simp] theorem commit_submits (r : Except Error Db) : (w.commit r).submits = w.submits := by
  cases r <;> rfl

@[simp] theorem start_submits (i : WorkerId) (job : Except Error Job) :
    (w.start i job).submits = w.submits := by
  unfold start
  split <;> rfl

/-- What a consumed send finds and leaves. -/
theorem consumeDemoSend_spends {ctx : Ctx} {db db' : Db} {settings : DemoSettings} {plan : Plan}
    {answer : DemoConsumption} (h : db.consumeDemoSend ctx c settings plan = .ok (db', answer)) :
    (∃ k e, db.commands.find c = some k ∧ k.effect = some e ∧ e.state = .dispatchAuthorized) ∧
      ∃ k' e', db'.commands.find c = some k' ∧ k'.effect = some e' ∧ e'.Spent := by
  simp only [Db.consumeDemoSend, Db.markAmbiguous, bind_eq_ok, Db.requireCommand_eq_ok,
    Command.requireEffect_eq_ok, ensure_eq_ok, Db.lockEpoch_commands] at h
  obtain ⟨k, find, e, effect, _, state, _, -, marked, ⟨k', find', e', effect', mark⟩, h⟩ := h
  obtain ⟨rfl, -⟩ := Prod.mk.inj (Except.ok.inj h)
  obtain rfl := Except.ok.inj mark
  refine ⟨⟨k, e, find, effect, state⟩, ?_⟩
  exact ⟨_, _, Table.find_put_self _ _ _, rfl, Command.spent_sendAmbiguous rfl⟩

theorem SendInv.not_spentFor_authorized {k : Command} {e : Effect}
    (find : w.db.commands.find c = some k) (effect : k.effect = some e)
    (state : e.state = .dispatchAuthorized) : ¬w.SpentFor c := by
  rintro ⟨k', e', find', effect', spent⟩
  obtain rfl : k = k' := Option.some.inj (find.symm.trans find')
  obtain rfl : e = e' := Option.some.inj (effect.symm.trans effect')
  exact spent.2 state

/-- The step that commits a marker finds its command's authority unspent, so no other
marker and no submit of that command exist. -/
theorem SendInv.consume {ctx : Ctx} (inv : w.SendInv) (jobs : w.JobsValid cat)
    (running : w.workers i = some (.demoSend send .checked)) :
    (w.step cat (.consumeDemoSend ctx i)).SendInv := by
  have eq : w.step cat (.consumeDemoSend ctx i) = w.consumeDemoSend ctx i send := by
    simp only [step, running]
  cases consumed : w.db.consumeDemoSend ctx send.command send.settings send.plan with
  | error _ =>
    refine inv.of_quiet jobs ?_ ?_ <;> rw [eq] <;> unfold consumeDemoSend <;> rw [consumed]
    · rfl
    · exact fun j c h => marked_of_assign h (by simp)
  | ok x =>
    obtain ⟨db', answer⟩ := x
    cases answer with
    | withheld =>
      refine inv.of_quiet jobs ?_ ?_ <;> rw [eq] <;> unfold consumeDemoSend <;> rw [consumed]
      · rfl
      · exact fun j c h => marked_of_workers_eq (marked_of_assign h (by simp)) rfl
    | send =>
      have next : w.step cat (.consumeDemoSend ctx i) =
          { w with db := db' }.assign i (some (.demoSend send .marked)) := by
        rw [eq, consumeDemoSend, consumed]
      obtain ⟨⟨k, e, find, effect, state⟩, after⟩ := consumeDemoSend_spends consumed
      have unspent := SendInv.not_spentFor_authorized find effect state
      -- A marker after the step is the new one or an old one of another command.
      have cases_ : ∀ j c, (w.step cat (.consumeDemoSend ctx i)).Marked j c →
          (j = i ∧ c = send.command) ∨ (w.Marked j c ∧ c ≠ send.command) := by
        intro j c h
        rw [next] at h
        obtain ⟨send', held, command⟩ := h
        by_cases same : j = i
        · subst same
          obtain rfl : send = send' := by simpa [assign] using held
          exact .inl ⟨rfl, command.symm⟩
        · have old : w.Marked j c :=
            ⟨send', by simpa [assign, Function.update_of_ne same] using held, command⟩
          refine .inr ⟨old, ?_⟩
          rintro rfl
          exact unspent (inv.marked_spent j _ old)
      have submits : (w.step cat (.consumeDemoSend ctx i)).submits = w.submits := by rw [next]; rfl
      have spent : (w.step cat (.consumeDemoSend ctx i)).SpentFor send.command := by
        rw [next]
        exact after
      refine ⟨step_tokenInv jobs inv.tokens, submits ▸ inv.once, ?_, ?_, ?_, ?_⟩
      · intro j j' c h h'
        obtain ⟨rfl, rfl⟩ | ⟨old, other⟩ := cases_ j c h
        · obtain ⟨rfl, -⟩ | ⟨-, other⟩ := cases_ j' _ h'
          · rfl
          · exact absurd rfl other
        · obtain ⟨-, rfl⟩ | ⟨old', -⟩ := cases_ j' c h'
          · exact absurd rfl other
          · exact inv.one_marker j j' c old old'
      · intro j c h
        rw [submits]
        obtain ⟨-, rfl⟩ | ⟨old, -⟩ := cases_ j c h
        · exact fun mem => unspent (inv.submitted_spent _ mem)
        · exact inv.marker_first j c old
      · intro j c h
        obtain ⟨-, rfl⟩ | ⟨old, -⟩ := cases_ j c h
        · exact spent
        · exact step_spentFor jobs inv.tokens (inv.marked_spent j c old)
      · intro c mem
        exact step_spentFor jobs inv.tokens (inv.submitted_spent c (submits ▸ mem))

/-- The step that enters the provider gives up the marker it enters with. -/
theorem SendInv.enter (inv : w.SendInv) (jobs : w.JobsValid cat)
    (running : w.workers i = some (.demoSend send .marked)) :
    (w.step cat (.enterDemoSubmit i)).SendInv := by
  have next : w.step cat (.enterDemoSubmit i) =
      { w with submits := w.submits ++ [send.command] }.assign i
        (some (.demoSend send .entered)) := by
    simp only [step, running]
  have marked : w.Marked i send.command := ⟨send, running, rfl⟩
  have cases_ : ∀ j c, (w.step cat (.enterDemoSubmit i)).Marked j c →
      w.Marked j c ∧ c ≠ send.command := by
    intro j c h
    rw [next] at h
    obtain ⟨send', held, command⟩ := h
    by_cases same : j = i
    · subst same
      simp [assign] at held
    · have old : w.Marked j c :=
        ⟨send', by simpa [assign, Function.update_of_ne same] using held, command⟩
      refine ⟨old, ?_⟩
      rintro rfl
      exact same (inv.one_marker j i _ old marked)
  have submits : (w.step cat (.enterDemoSubmit i)).submits = w.submits ++ [send.command] := by
    rw [next]; rfl
  have spent : ∀ c, w.SpentFor c → (w.step cat (.enterDemoSubmit i)).SpentFor c :=
    fun c h => step_spentFor jobs inv.tokens h
  refine ⟨step_tokenInv jobs inv.tokens, ?_, ?_, ?_, ?_, ?_⟩
  · rw [submits]
    refine List.nodup_append.mpr ⟨inv.once, List.nodup_singleton _, ?_⟩
    rintro c mem c' mem' rfl
    obtain rfl := List.mem_singleton.mp mem'
    exact inv.marker_first i _ marked mem
  · exact fun j j' c h h' => inv.one_marker j j' c (cases_ j c h).1 (cases_ j' c h').1
  · intro j c h
    obtain ⟨old, other⟩ := cases_ j c h
    rw [submits, List.mem_append, List.mem_singleton]
    rintro (mem | rfl)
    · exact inv.marker_first j c old mem
    · exact other rfl
  · exact fun j c h => spent c (inv.marked_spent j c (cases_ j c h).1)
  · intro c mem
    rw [submits, List.mem_append, List.mem_singleton] at mem
    obtain mem | rfl := mem
    · exact spent c (inv.submitted_spent c mem)
    · exact spent _ (inv.marked_spent i _ marked)

theorem step_sendInv (inv : w.SendInv) (jobs : w.JobsValid cat) : (w.step cat l).SendInv := by
  cases l with
  | consumeDemoSend ctx i =>
    cases running : w.workers i with
    | none => exact inv.of_quiet jobs (by simp [step, running]) (by simp [step, running])
    | some job =>
      cases job with
      | demoSend send phase =>
        cases phase with
        | checked => exact inv.consume jobs running
        | _ => exact inv.of_quiet jobs (by simp [step, running]) (by simp [step, running])
      | _ => exact inv.of_quiet jobs (by simp [step, running]) (by simp [step, running])
  | enterDemoSubmit i =>
    cases running : w.workers i with
    | none => exact inv.of_quiet jobs (by simp [step, running]) (by simp [step, running])
    | some job =>
      cases job with
      | demoSend send phase =>
        cases phase with
        | marked => exact inv.enter jobs running
        | _ => exact inv.of_quiet jobs (by simp [step, running]) (by simp [step, running])
      | _ => exact inv.of_quiet jobs (by simp [step, running]) (by simp [step, running])
  | beginClaim ctx i gate request =>
    refine inv.of_quiet jobs (start_submits _ _) fun j c h => marked_of_start h ?_
    intro send eq
    cases begun : w.db.beginClaim cat ctx gate request <;> simp [begun, Except.map] at eq
  | beginFakeSend i c owner token =>
    refine inv.of_quiet jobs (start_submits _ _) fun j c h => marked_of_start h ?_
    simp [beginFakeSend]
  | beginDemoSend i send =>
    refine inv.of_quiet jobs (start_submits _ _) fun j c h => marked_of_start h ?_
    simp [beginDemoSend]
  | verifyDemoSendGate ctx i =>
    refine inv.of_quiet jobs ?_ fun j c h => ?_
    · simp only [step]
      split
      · unfold verifyDemoSendGate
        split <;> rfl
      · rfl
    · simp only [step] at h
      split at h
      · unfold verifyDemoSendGate at h
        split at h <;> exact marked_of_workers_eq (marked_of_assign h (by simp)) rfl
      · exact h
  | finishClaim ctx i refreshed env =>
    refine inv.of_quiet jobs ?_ fun j c h => ?_
    · simp only [step]
      split
      · exact commit_submits _
      · rfl
    · simp only [step] at h
      split at h
      · exact marked_of_workers_eq (marked_of_assign h (by simp)) (commit_workers _)
      · exact h
  | finishFakeSend ctx i outcome =>
    refine inv.of_quiet jobs ?_ fun j c h => ?_
    · simp only [step]
      split
      · exact commit_submits _
      · rfl
    · simp only [step] at h
      split at h
      · exact marked_of_workers_eq (marked_of_assign h (by simp)) (commit_workers _)
      · exact h
  | finishDemoSend ctx i outcome =>
    refine inv.of_quiet jobs ?_ fun j c h => ?_
    · simp only [step]
      split
      · exact commit_submits _
      · split
        · rfl
        · exact commit_submits _
      · rfl
    · simp only [step] at h
      split at h
      · exact marked_of_workers_eq (marked_of_assign h (by simp)) (commit_workers _)
      · split at h
        · exact h
        · exact marked_of_workers_eq (marked_of_assign h (by simp)) (commit_workers _)
      · exact h
  | crash i => exact inv.of_quiet jobs rfl fun j c h => marked_of_assign h (by simp)
  | issueAuthorization id issuance => exact inv.of_quiet jobs rfl fun j c h => h
  | revokeAuthorization id => exact inv.of_quiet jobs rfl fun j c h => h
  | expireAuthorization ctx id => exact inv.of_quiet jobs rfl fun j c h => h
  | _ =>
    exact inv.of_quiet jobs (commit_submits _) fun j c h =>
      marked_of_workers_eq h (commit_workers _)

theorem init_sendInv : init.SendInv where
  tokens c k find := by simp [init, Db.empty] at find
  once := List.nodup_nil
  one_marker i j c h := by simp [Marked, init] at h
  marker_first i c h := by simp [Marked, init] at h
  marked_spent i c h := by simp [Marked, init] at h
  submitted_spent c mem := by simp [init] at mem

end World

theorem reached_sendInv (cat : Catalog) (ls : List Label) : (reached cat ls).SendInv := by
  have both : (reached cat ls).SendInv ∧ (reached cat ls).JobsValid cat :=
    run_invariant_of_step (World.step cat) (I := fun w => w.SendInv ∧ w.JobsValid cat)
      (fun w l h => ⟨World.step_sendInv h.1 h.2, World.step_jobsValid h.2⟩) ls
      ⟨World.init_sendInv, World.init_jobsValid cat⟩
  exact both.1

/-- After any run the provider was entered at most once for a command; from any point of a
run to any later one the stored dispatch token is the same token; and in one step the
fencing token does not fall, and rises when the effect comes out newly leased. -/
theorem demo_order_at_most_once (cat : Catalog) (ls : List Label) (c : CommandId) :
    (reached cat ls).submits.count c ≤ 1 ∧
    (∀ ms k e k' e' token token', (reached cat ls).db.commands.find c = some k →
      k.effect = some e → (reached cat (ls ++ ms)).db.commands.find c = some k' →
      k'.effect = some e' → e.dispatchFencingToken = some token →
      e'.dispatchFencingToken = some token' → token' = token) ∧
    ∀ l k e k' e', (reached cat ls).db.commands.find c = some k → k.effect = some e →
      (reached cat (ls ++ [l])).db.commands.find c = some k' → k'.effect = some e' →
      e.fencingToken ≤ e'.fencingToken ∧
        (e'.state = .leased → e' ≠ e → e.fencingToken < e'.fencingToken) := by
  -- Both later statements read the same advance of the effect.
  have advance : ∀ ms k e k' e', (reached cat ls).db.commands.find c = some k →
      k.effect = some e → (reached cat (ls ++ ms)).db.commands.find c = some k' →
      k'.effect = some e' → e.Advances e' := by
    intro ms k e k' e' find effect find' effect'
    obtain ⟨k₁, e₁, find₁, effect₁, advances⟩ := reached_advances ms find effect
    obtain rfl : k₁ = k' := Option.some.inj (find₁.symm.trans find')
    obtain rfl : e₁ = e' := Option.some.inj (effect₁.symm.trans effect')
    exact advances
  refine ⟨List.nodup_iff_count_le_one.mp (reached_sendInv cat ls).once c, ?_, ?_⟩
  · intro ms k e k' e' token token' find effect find' effect' stored stored'
    have kept := (advance ms k e k' e' find effect find' effect').stored token stored
    exact Option.some.inj (stored'.symm.trans kept)
  · intro l k e k' e' find effect find' effect'
    have advances := advance [l] k e k' e' find effect find' effect'
    refine ⟨advances.fencing, fun leased changed => ?_⟩
    exact (advances.leased leased).resolve_left changed

end AlphaTrade.Execution
