import Mathlib.Data.List.Induction
import AlphaTrade.Evidence.SetupLifetime

/-!
# An expired trigger does not come back

One pin is followed on its own: `nextPin` is what a call makes of the pin under an index. The
store in memory does exactly that, and so does the store over the table for the calls that the
table admits. What never happens to a pin is proved once, on `nextPin`.
-/
namespace AlphaTrade.Evidence
open Library
open Execution (Instant)

/-! ## One pin -/

def SetupTriggerPin.Precedes (earlier later : SetupTriggerPin Instant) : Prop :=
  earlier.triggerEnd < later.triggerEnd ∨
    earlier.triggerEnd = later.triggerEnd ∧ (earlier.expired → later.expired)

namespace SetupTriggerPin.Precedes

variable {first second third : SetupTriggerPin Instant}

theorem refl (pin : SetupTriggerPin Instant) : pin.Precedes pin := .inr ⟨rfl, id⟩

theorem trans (start : first.Precedes second) (rest : second.Precedes third) :
    first.Precedes third := by
  unfold SetupTriggerPin.Precedes at *
  grind

theorem triggerEnd_le (precedes : first.Precedes second) :
    first.triggerEnd ≤ second.triggerEnd := by
  unfold SetupTriggerPin.Precedes at precedes
  grind

theorem lt_of_active (precedes : first.Precedes second) (expired : first.expired)
    (active : second.expired = false) : first.triggerEnd < second.triggerEnd := by
  unfold SetupTriggerPin.Precedes at precedes
  grind

end SetupTriggerPin.Precedes

section Converge

variable {current incoming : SetupTriggerPin Instant}

theorem converge_active (active : current.expired = false)
    (other : incoming.triggerEnd ≠ current.triggerEnd) :
    convergeSetupTriggerPin (some current) incoming = current := by
  have different : ¬(current.triggerEnd = incoming.triggerEnd ∧
      current.triggerBarHash = incoming.triggerBarHash) := fun same => other same.1.symm
  simp [convergeSetupTriggerPin, active, different, other]

/-- An expired pin stays, or gives way to a later trigger. -/
theorem converge_expired (incoming : SetupTriggerPin Instant) (expired : current.expired) :
    convergeSetupTriggerPin (some current) incoming = current ∨
      convergeSetupTriggerPin (some current) incoming = incoming ∧
        current.triggerEnd < incoming.triggerEnd := by
  by_cases later : current.triggerEnd < incoming.triggerEnd
  · have different : ¬(current.triggerEnd = incoming.triggerEnd ∧
        current.triggerBarHash = incoming.triggerBarHash) := fun same => later.ne same.1
    exact .inr ⟨by simp [convergeSetupTriggerPin, expired, different, later.not_ge, later], later⟩
  · exact .inl (by simp [convergeSetupTriggerPin, expired, not_lt.mp later])

theorem converge_precedes : current.Precedes (convergeSetupTriggerPin (some current) incoming) := by
  cases expired : current.expired with
  | true =>
    obtain same | ⟨merged, later⟩ := converge_expired incoming expired
    · rw [same]
      exact .refl current
    · rw [merged]
      exact .inl later
  | false =>
    by_cases same : incoming.triggerEnd = current.triggerEnd
    · refine .inr ⟨?_, fun expired' => absurd expired' (by simp [expired])⟩
      simp [convergeSetupTriggerPin, expired, same]
    · rw [converge_active expired same]
      exact .refl current

/-- The hashes of a merged pin are hashes of the two. -/
theorem converge_constraints {organizations : List Uuid} {key : Index}
    {held : Option (SetupTriggerPin Instant)}
    (before : ∀ pin ∈ held, Constraints organizations key pin)
    (fits : Constraints organizations key incoming) :
    Constraints organizations key (convergeSetupTriggerPin held incoming) := by
  cases held with
  | none => exact fits
  | some current =>
    have old := before current rfl
    unfold convergeSetupTriggerPin Constraints at *
    grind

end Converge

section Next

variable (runtime : LineageRuntime)

def LifetimeCall.key : LifetimeCall → SetupLifetimeKey
  | .remember key _ | .expire key => key

/-- What a call makes of the pin under an index. -/
def nextPin (call : LifetimeCall) (i : Index) (current : Option (SetupTriggerPin Instant)) :
    Option (SetupTriggerPin Instant) :=
  if index runtime call.key = i then
    match call with
    | .remember key pin =>
      match bindSetupTriggerPin runtime key pin with
      | .ok incoming => some (convergeSetupTriggerPin current incoming)
      | .error _ => current
    | .expire _ => current.map fun pin => { pin with expired := true }
  else current

variable {runtime} {call : LifetimeCall} {i : Index} {current : Option (SetupTriggerPin Instant)}

theorem nextPin_other (other : i ≠ index runtime call.key) :
    nextPin runtime call i current = current := if_neg other.symm

section Own

variable {key : SetupLifetimeKey} {given : SetupTriggerPin PyDateTime}

theorem nextPin_bound {incoming : SetupTriggerPin Instant} (own : index runtime key = i)
    (bound : bindSetupTriggerPin runtime key given = .ok incoming) :
    nextPin runtime (.remember key given) i current =
      some (convergeSetupTriggerPin current incoming) := by
  simp [nextPin, LifetimeCall.key, own, bound]

theorem nextPin_raised {raised : PyRaised}
    (bound : bindSetupTriggerPin runtime key given = .error raised) :
    nextPin runtime (.remember key given) i current = current := by
  simp [nextPin, LifetimeCall.key, bound]

theorem nextPin_expire (own : index runtime key = i) :
    nextPin runtime (.expire key) i current =
      current.map fun pin => { pin with expired := true } := by
  simp [nextPin, LifetimeCall.key, own]

end Own

theorem nextPin_precedes (pin : SetupTriggerPin Instant) :
    ∃ later, nextPin runtime call i (some pin) = some later ∧ pin.Precedes later := by
  by_cases own : index runtime call.key = i
  · cases call with
    | remember key given =>
      cases bound : bindSetupTriggerPin runtime key given with
      | ok incoming => exact ⟨_, nextPin_bound own bound, converge_precedes⟩
      | error raised => exact ⟨pin, nextPin_raised bound, .refl pin⟩
    | expire key => exact ⟨_, nextPin_expire own, .inr ⟨rfl, fun _ => rfl⟩⟩
  · exact ⟨pin, nextPin_other (Ne.symm own), .refl pin⟩

variable {given : SetupTriggerPin PyDateTime} {pin : SetupTriggerPin Instant}

/-- The trigger end of a bound pin is the one given, in UTC. -/
theorem triggerEnd_of_bind {key : SetupLifetimeKey} {incoming : SetupTriggerPin Instant}
    (bound : bindSetupTriggerPin runtime key given = .ok incoming) :
    utcTriggerEnd given.triggerEnd = .ok incoming.triggerEnd := by
  obtain ⟨triggerEnd, read, rest⟩ := bind_eq_ok.mp bound
  obtain rfl := Except.ok.inj rest
  exact read

theorem nextPin_active {key : SetupLifetimeKey} (active : pin.expired = false)
    (differs : utcTriggerEnd given.triggerEnd ≠ .ok pin.triggerEnd) :
    nextPin runtime (.remember key given) i (some pin) = some pin := by
  by_cases own : index runtime key = i
  · cases bound : bindSetupTriggerPin runtime key given with
    | ok incoming =>
      have apart : incoming.triggerEnd ≠ pin.triggerEnd := fun same =>
        differs (same ▸ triggerEnd_of_bind bound)
      rw [nextPin_bound own bound, converge_active active apart]
    | error raised => exact nextPin_raised bound
  · exact nextPin_other (Ne.symm own)

/-- An expired pin stays as it is, or gives way to a later trigger. -/
theorem nextPin_expired (expired : pin.expired) :
    nextPin runtime call i (some pin) = some pin ∨
      ∃ later, nextPin runtime call i (some pin) = some later ∧
        pin.triggerEnd < later.triggerEnd := by
  by_cases own : i = index runtime call.key
  · cases call with
    | remember key given =>
      cases bound : bindSetupTriggerPin runtime key given with
      | ok incoming =>
        have next : nextPin runtime _ i (some pin) = _ := nextPin_bound own.symm bound
        obtain same | ⟨merged, later⟩ := converge_expired incoming expired
        · exact .inl (next.trans (congrArg some same))
        · exact .inr ⟨incoming, next.trans (congrArg some merged), later⟩
      | error raised => exact .inl (nextPin_raised bound)
    | expire key =>
      have next : nextPin runtime _ i (some pin) = _ := nextPin_expire own.symm
      exact .inl (next.trans (by rw [Option.map_some, ← expired]))
  · exact .inl (nextPin_other own)

end Next

/-! ## The two stores do the same -/

section Stores

variable {runtime : LineageRuntime} {organizations : List Uuid} {call : LifetimeCall}

/-- The store in memory does to each pin what a call makes of it. -/
theorem SetupLifetimeStore.find_call (store : SetupLifetimeStore) (i : Index) :
    (store.call runtime call).pins.find i = nextPin runtime call i (store.pins.find i) := by
  cases call with
  | remember key given =>
    cases bound : bindSetupTriggerPin runtime key given with
    | ok incoming =>
      have stored : store.call runtime (.remember key given) = ⟨store.pins.put (index runtime key)
          (convergeSetupTriggerPin (store.pins.find (index runtime key)) incoming)⟩ := by
        simp [SetupLifetimeStore.call, SetupLifetimeStore.remember, bound, ok_bind, pure,
          Except.pure]
      rw [stored]
      by_cases own : i = index runtime key
      · subst own
        rw [nextPin_bound rfl bound, Table.find_put_self]
      · rw [nextPin_other own, Table.find_put_of_ne _ own]
    | error raised =>
      rw [nextPin_raised bound]
      simp [SetupLifetimeStore.call, SetupLifetimeStore.remember, bound]
  | expire key =>
    have called : store.call runtime (.expire key) = store.expire runtime key := rfl
    rw [called]
    cases found : store.pins.find (index runtime key) with
    | none =>
      rw [SetupLifetimeStore.expire, found]
      by_cases own : i = index runtime key
      · rw [own, nextPin_expire rfl, found]
        rfl
      · rw [nextPin_other own]
    | some current =>
      rw [SetupLifetimeStore.expire, found]
      by_cases own : i = index runtime key
      · rw [own, nextPin_expire rfl, found, Table.find_put_self]
        rfl
      · rw [nextPin_other own, Table.find_put_of_ne _ own]

def Admitted (runtime : LineageRuntime) (organizations : List Uuid) : LifetimeCall → Prop
  | .remember key pin =>
    key.organizationId ∈ organizations ∧ (runtime.upper key.symbol).length ≤ 32 ∧
      key.compiledContentHash.length = 64 ∧ pin.triggerBarHash.length = 64 ∧
      (pin.requiredLineageHash = "" ∨ pin.requiredLineageHash.length = 64)
  | .expire _ => True

instance (call : LifetimeCall) : Decidable (Admitted runtime organizations call) :=
  match call with
  | .remember _ _ => inferInstanceAs (Decidable (_ ∧ _))
  | .expire _ => .isTrue trivial

def Recorded (audits : List AuditLog) (row : SetupLifetimePin) : Prop :=
  ∃ audit ∈ audits, audit.resourceId = row.id ∧ audit.payloadHash = row.requiredLineageHash

/-- A call does to the rows what it does to a pin, and it advances no expired row that is not
on record. -/
structure Follows (runtime : LineageRuntime) (call : LifetimeCall)
    (store after : SqlSetupLifetimeStore) : Prop where
  organizations : after.organizations = store.organizations
  pins : ∀ i, (after.pins.find i).map SetupLifetimePin.pin =
    nextPin runtime call i ((store.pins.find i).map SetupLifetimePin.pin)
  ids : ∀ i row, store.pins.find i = some row →
    ∃ later, after.pins.find i = some later ∧ later.id = row.id
  audits : store.audits ⊆ after.audits
  recorded : ∀ i row later, store.pins.find i = some row → row.expired →
    after.pins.find i = some later → row.triggerEnd < later.triggerEnd → Recorded after.audits row

def SqlSetupLifetimeStore.Sound (store : SqlSetupLifetimeStore) : Prop :=
  ∀ i row, store.pins.find i = some row → Constraints store.organizations i row.pin

theorem constraints_of_bind {key : SetupLifetimeKey} {given : SetupTriggerPin PyDateTime}
    {incoming : SetupTriggerPin Instant}
    (admitted : Admitted runtime organizations (.remember key given))
    (bound : bindSetupTriggerPin runtime key given = .ok incoming) :
    Constraints organizations (index runtime key) incoming := by
  obtain ⟨triggerEnd, -, rest⟩ := bind_eq_ok.mp bound
  obtain rfl := Except.ok.inj rest
  obtain ⟨known, symbol, compiled, bar, lineage⟩ := admitted
  refine ⟨known, symbol, compiled, bar, ?_⟩
  by_cases given' : given.requiredLineageHash = ""
  · simp [given', setupLifetimeLineageHash, runtime.sha256_length]
  · simpa [given'] using lineage

namespace SqlSetupLifetimeStore

variable {store base : SqlSetupLifetimeStore} {key : Index} {row : SetupLifetimePin}

@[simp] theorem recordExpiry_pins : (store.recordExpiry key row).pins = store.pins := by
  unfold recordExpiry
  split <;> rfl

@[simp] theorem recordExpiry_organizations :
    (store.recordExpiry key row).organizations = store.organizations := by
  unfold recordExpiry
  split <;> rfl

theorem recordExpiry_audits : store.audits ⊆ (store.recordExpiry key row).audits := by
  unfold recordExpiry
  split
  · exact fun _ => id
  · exact List.subset_append_left ..

theorem recordExpiry_recorded : Recorded (store.recordExpiry key row).audits row := by
  unfold recordExpiry
  split
  · rename_i listed
    obtain ⟨audit, member, same⟩ := List.any_eq_true.mp listed
    exact ⟨audit, member, of_decide_eq_true same⟩
  · exact ⟨_, List.mem_append_right _ (List.mem_singleton_self _), rfl, rfl⟩

end SqlSetupLifetimeStore

namespace Follows

variable {store : SqlSetupLifetimeStore} {i : Index}

/-- A flush of the next pin, after what may be added to the records. -/
theorem of_flush (base : SqlSetupLifetimeStore) (id : Nat) {pin : SetupTriggerPin Instant}
    (own : index runtime call.key = i)
    (organizations : base.organizations = store.organizations) (pins : base.pins = store.pins)
    (audits : store.audits ⊆ base.audits) (fits : Constraints store.organizations i pin)
    (next : nextPin runtime call i ((store.pins.find i).map SetupLifetimePin.pin) = some pin)
    (kept : ∀ row, store.pins.find i = some row → row.id = id)
    (recorded : ∀ row, store.pins.find i = some row → row.expired →
      row.triggerEnd < pin.triggerEnd → Recorded base.audits row) :
    ∃ after, base.flush i id pin = .ok after ∧ Follows runtime call store after := by
  subst own
  refine ⟨_, if_pos (organizations ▸ fits), organizations, fun j => ?_, fun j row found => ?_,
    audits, fun j row later found expired became advanced => ?_⟩
  · by_cases same : j = index runtime call.key
    · rw [same, next, Table.find_put_self]
      rfl
    · rw [nextPin_other same, Table.find_put_of_ne _ same, pins]
  · by_cases same : j = index runtime call.key
    · subst same
      exact ⟨_, Table.find_put_self .., (kept row found).symm⟩
    · exact ⟨row, by rw [Table.find_put_of_ne _ same, pins, found], rfl⟩
  · by_cases same : j = index runtime call.key
    · subst same
      obtain rfl := Option.some.inj ((Table.find_put_self ..).symm.trans became)
      exact recorded row found expired advanced
    · rw [Table.find_put_of_ne _ same, pins, found] at became
      obtain rfl := Option.some.inj became
      exact absurd advanced (lt_irrefl _)

/-- A call that leaves the pin under its index as it is. -/
theorem of_same (own : index runtime call.key = i)
    (same : nextPin runtime call i ((store.pins.find i).map SetupLifetimePin.pin) =
      (store.pins.find i).map SetupLifetimePin.pin) : Follows runtime call store store := by
  refine ⟨rfl, fun j => ?_, fun _ row found => ⟨row, found, rfl⟩, fun _ => id,
    fun _ _ _ found _ became advanced =>
      absurd advanced (by simp [Option.some.inj (found.symm.trans became)])⟩
  by_cases here : j = i
  · rw [here, same]
  · rw [nextPin_other (own ▸ here)]

end Follows

namespace SqlSetupLifetimeStore

variable {store : SqlSetupLifetimeStore}

theorem Sound.follows_merge (sound : store.Sound) {i : Index} {row : SetupLifetimePin}
    {incoming : SetupTriggerPin Instant} (found : store.pins.find i = some row)
    (own : index runtime call.key = i)
    (fits : Constraints store.organizations i incoming)
    (next : nextPin runtime call i (some row.pin) =
      some (convergeSetupTriggerPin (some row.pin) incoming)) :
    ∃ after, store.applyMerge i row incoming = .ok after ∧ Follows runtime call store after := by
  have before : ∀ pin ∈ some row.pin, Constraints store.organizations i pin := by
    rintro pin ⟨⟩
    exact sound i row found
  have next' : nextPin runtime call i ((store.pins.find i).map SetupLifetimePin.pin) =
      some (convergeSetupTriggerPin (some row.pin) incoming) := by rw [found, ← next]; rfl
  have same : ∀ other, store.pins.find i = some other → other = row := fun other held =>
    Option.some.inj (held.symm.trans found)
  unfold applyMerge
  by_cases stays : convergeSetupTriggerPin (some row.pin) incoming = row.pin
  · exact ⟨store, if_pos stays, .of_same own (by rw [next', found, stays]; rfl)⟩
  · rw [if_neg stays]
    by_cases retires : row.expired ∧
        (convergeSetupTriggerPin (some row.pin) incoming).triggerEnd > row.triggerEnd
    · rw [if_pos retires]
      refine Follows.of_flush (store.recordExpiry i row) row.id own recordExpiry_organizations
        recordExpiry_pins recordExpiry_audits (converge_constraints before fits) next'
        (fun other held => by rw [same other held]) fun other held _ _ => ?_
      rw [same other held]
      exact recordExpiry_recorded
    · rw [if_neg retires]
      refine Follows.of_flush store row.id own rfl rfl (fun _ => id)
        (converge_constraints before fits) next' (fun other held => by rw [same other held])
        fun other held expired later => ?_
      rw [same other held] at expired later
      exact absurd ⟨expired, later⟩ retires

theorem Sound.follows_remember (sound : store.Sound) {key : SetupLifetimeKey}
    {given : SetupTriggerPin PyDateTime}
    (admitted : Admitted runtime store.organizations (.remember key given)) :
    Follows runtime (.remember key given) store (store.call runtime (.remember key given)) := by
  cases bound : bindSetupTriggerPin runtime key given with
  | error raised =>
    have called : store.call runtime (.remember key given) = store := by
      simp [call, remember, bound]
    rw [called]
    exact .of_same rfl (nextPin_raised bound)
  | ok incoming =>
    have fits := constraints_of_bind admitted bound
    cases found : store.pins.find (index runtime key) with
    | none =>
      obtain ⟨after, flushed, follows⟩ :
          ∃ after, { store with nextId := store.nextId + 1 }.flush (index runtime key)
            store.nextId incoming = .ok after ∧
              Follows runtime (.remember key given) store after := by
        refine Follows.of_flush _ _ rfl rfl rfl (fun _ => id) fits ?_ (by simp [found])
          (by simp [found])
        rw [found]
        exact nextPin_bound rfl bound
      have called : store.call runtime (.remember key given) = after := by
        simp [call, remember, bound, found, flushed]
      exact called ▸ follows
    | some row =>
      obtain ⟨after, merged, follows⟩ := sound.follows_merge found rfl fits
        (nextPin_bound rfl bound)
      have called : store.call runtime (.remember key given) = after := by
        simp [call, remember, bound, found, merged]
      exact called ▸ follows

theorem Sound.follows_expire (sound : store.Sound) (key : SetupLifetimeKey) :
    Follows runtime (.expire key) store (store.call runtime (.expire key)) := by
  have next : nextPin runtime (.expire key) (index runtime key)
      ((store.pins.find (index runtime key)).map SetupLifetimePin.pin) = _ := nextPin_expire rfl
  cases found : store.pins.find (index runtime key) with
  | none =>
    have called : store.call runtime (.expire key) = store := by simp [call, expire, found]
    rw [called]
    exact .of_same (i := index runtime key) rfl (by rw [next, found]; rfl)
  | some row =>
    cases expired : row.expired with
    | true =>
      have called : store.call runtime (.expire key) = store := by
        simp [call, expire, found, expired]
      rw [called]
      refine .of_same (i := index runtime key) rfl ?_
      rw [next, found]
      simp [SetupLifetimePin.pin, expired]
    | false =>
      obtain ⟨after, flushed, follows⟩ :
          ∃ after, (store.recordExpiry (index runtime key) row).flush (index runtime key) row.id
            { row.pin with expired := true } = .ok after ∧
              Follows runtime (.expire key) store after := by
        refine Follows.of_flush _ _ rfl recordExpiry_organizations recordExpiry_pins
          recordExpiry_audits (sound _ row found) ?_ ?_ ?_
        · rw [next, found]
          rfl
        · rintro other held
          rw [Option.some.inj (held.symm.trans found)]
        · rintro other held expired' -
          simp [Option.some.inj (held.symm.trans found), expired] at expired'
      have called : store.call runtime (.expire key) = after := by
        simp [call, expire, found, expired, flushed]
      exact called ▸ follows

/-- An admitted call does to the rows what it does to a pin. -/
theorem Sound.follows (sound : store.Sound)
    (admitted : Admitted runtime store.organizations call) :
    Follows runtime call store (store.call runtime call) := by
  cases call with
  | remember key given => exact sound.follows_remember admitted
  | expire key => exact sound.follows_expire key

end SqlSetupLifetimeStore

/-- A pin that fits is followed by one that fits. -/
theorem nextPin_constraints {i : Index} {current : Option (SetupTriggerPin Instant)}
    (admitted : Admitted runtime organizations call)
    (before : ∀ pin ∈ current, Constraints organizations i pin) :
    ∀ pin ∈ nextPin runtime call i current, Constraints organizations i pin := by
  intro pin next
  cases call with
  | remember key given =>
    cases bound : bindSetupTriggerPin runtime key given with
    | ok incoming =>
      by_cases own : i = index runtime key
      · rw [nextPin_bound own.symm bound] at next
        obtain rfl := Option.some.inj next
        exact converge_constraints before (own ▸ constraints_of_bind admitted bound)
      · rw [nextPin_other own] at next
        exact before pin next
    | error raised =>
      rw [nextPin_raised bound] at next
      exact before pin next
  | expire key =>
    by_cases own : i = index runtime key
    · rw [nextPin_expire own.symm] at next
      obtain ⟨old, listed, rfl⟩ := Option.map_eq_some_iff.mp next
      exact before old listed
    · rw [nextPin_other own] at next
      exact before pin next

theorem Follows.sound {store after : SqlSetupLifetimeStore}
    (follows : Follows runtime call store after) (sound : store.Sound)
    (admitted : Admitted runtime store.organizations call) : after.Sound := by
  intro i row found
  rw [follows.organizations]
  refine nextPin_constraints admitted (fun pin held => ?_) row.pin
    (by rw [← follows.pins, found]; rfl)
  obtain ⟨old, listed, rfl⟩ := Option.map_eq_some_iff.mp held
  exact sound i old listed

end Stores

/-! ## Runs -/

section Runs

variable (runtime : LineageRuntime) (organizations : List Uuid)

/-- The stores after the same calls. -/
structure Alike (calls : List LifetimeCall) : Prop where
  known : (SqlSetupLifetimeStore.after runtime organizations calls).organizations = organizations
  sound : (SqlSetupLifetimeStore.after runtime organizations calls).Sound
  pins : ∀ i, ((SqlSetupLifetimeStore.after runtime organizations calls).pins.find i).map
    SetupLifetimePin.pin = (SetupLifetimeStore.after runtime calls).pins.find i

variable {runtime organizations}

theorem SetupLifetimeStore.after_concat (calls : List LifetimeCall) (call : LifetimeCall) :
    SetupLifetimeStore.after runtime (calls ++ [call]) =
      (SetupLifetimeStore.after runtime calls).call runtime call := run_append ..

theorem SqlSetupLifetimeStore.after_concat (calls : List LifetimeCall) (call : LifetimeCall) :
    SqlSetupLifetimeStore.after runtime organizations (calls ++ [call]) =
      (SqlSetupLifetimeStore.after runtime organizations calls).call runtime call := run_append ..

variable {calls : List LifetimeCall} {i : Index}

theorem Alike.follows {call : LifetimeCall} (alike : Alike runtime organizations calls)
    (admitted : Admitted runtime organizations call) :
    Follows runtime call (SqlSetupLifetimeStore.after runtime organizations calls)
      (SqlSetupLifetimeStore.after runtime organizations (calls ++ [call])) := by
  rw [SqlSetupLifetimeStore.after_concat]
  exact alike.sound.follows (alike.known.symm ▸ admitted)

theorem Alike.concat {call : LifetimeCall} (alike : Alike runtime organizations calls)
    (admitted : Admitted runtime organizations call) :
    Alike runtime organizations (calls ++ [call]) := by
  have follows := alike.follows admitted
  refine ⟨follows.organizations.trans alike.known,
    follows.sound alike.sound (alike.known.symm ▸ admitted), fun i => ?_⟩
  rw [follows.pins, alike.pins, SetupLifetimeStore.after_concat, SetupLifetimeStore.find_call]

theorem alike_of_admitted (calls : List LifetimeCall)
    (admitted : ∀ call ∈ calls, Admitted runtime organizations call) :
    Alike runtime organizations calls := by
  induction calls using List.reverseRecOn with
  | nil => exact ⟨rfl, fun i row found => by simp [SqlSetupLifetimeStore.after,
      SqlSetupLifetimeStore.new] at found, fun i => rfl⟩
  | append_singleton calls call ih =>
    exact (ih fun other listed => admitted other (by simp [listed])).concat
      (admitted call (by simp))

/-- Along the calls a pin only goes forward. -/
theorem after_precedes (calls more : List LifetimeCall) {pin : SetupTriggerPin Instant}
    (found : (SetupLifetimeStore.after runtime calls).pins.find i = some pin) :
    ∃ later, (SetupLifetimeStore.after runtime (calls ++ more)).pins.find i = some later ∧
      pin.Precedes later := by
  induction more using List.reverseRecOn with
  | nil => exact ⟨pin, by simpa using found, .refl pin⟩
  | append_singleton more call ih =>
    obtain ⟨middle, held, start⟩ := ih
    obtain ⟨later, next, rest⟩ : ∃ later, nextPin runtime call i (some middle) = some later ∧ _ :=
      nextPin_precedes middle
    refine ⟨later, ?_, start.trans rest⟩
    rw [← List.append_assoc, SetupLifetimeStore.after_concat, SetupLifetimeStore.find_call, held,
      next]

/-- What never happens to the pins that a store holds after admitted calls. -/
structure NeverResurrects (admitted : LifetimeCall → Prop)
    (get : List LifetimeCall → SetupLifetimeKey → Option (SetupTriggerPin Instant)) : Prop where
  forward : ∀ calls more key pin, (∀ call ∈ calls ++ more, admitted call) →
    get calls key = some pin →
      ∃ later, get (calls ++ more) key = some later ∧ pin.triggerEnd ≤ later.triggerEnd
  kept : ∀ calls key pin other given,
    (∀ call ∈ calls ++ [.remember other given], admitted call) →
    get calls key = some pin → pin.expired = false →
    utcTriggerEnd given.triggerEnd ≠ .ok pin.triggerEnd →
      get (calls ++ [.remember other given]) key = some pin
  retired : ∀ calls more key pin time, (∀ call ∈ calls ++ more, admitted call) →
    get calls key = some pin → pin.expired →
    activeTriggerEnd (get (calls ++ more) key) = some time → pin.triggerEnd < time

theorem SetupLifetimeStore.neverResurrects :
    NeverResurrects (fun _ => True) fun calls key =>
      (SetupLifetimeStore.after runtime calls).get runtime key where
  forward calls more key pin _ found := by
    obtain ⟨later, held, precedes⟩ := after_precedes calls more found
    exact ⟨later, held, precedes.triggerEnd_le⟩
  kept calls key pin other given _ found active differs := by
    unfold get at *
    rw [after_concat, find_call, found, nextPin_active active differs]
  retired calls more key pin time _ found expired active := by
    obtain ⟨later, held, precedes⟩ := after_precedes calls more found
    simp only [get, held, activeTriggerEnd] at active
    cases still : later.expired with
    | true => simp [still] at active
    | false =>
      rw [still] at active
      obtain rfl := Option.some.inj active
      exact precedes.lt_of_active expired still

/-- A store that holds the same pins after the admitted calls does not resurrect one either. -/
theorem NeverResurrects.of_same {admitted : LifetimeCall → Prop}
    {get get' : List LifetimeCall → SetupLifetimeKey → Option (SetupTriggerPin Instant)}
    (never : NeverResurrects (fun _ => True) get)
    (same : ∀ calls key, (∀ call ∈ calls, admitted call) → get' calls key = get calls key) :
    NeverResurrects admitted get' where
  forward calls more key pin admitted found := by
    have first := same calls key fun call listed => admitted call (by simp [listed])
    rw [same _ key admitted]
    exact never.forward calls more key pin (fun _ _ => trivial) (first ▸ found)
  kept calls key pin other given admitted found active differs := by
    have first := same calls key fun call listed => admitted call (by simp [listed])
    rw [same _ key admitted]
    exact never.kept calls key pin other given (fun _ _ => trivial) (first ▸ found) active differs
  retired calls more key pin time admitted found expired active := by
    have first := same calls key fun call listed => admitted call (by simp [listed])
    rw [same _ key admitted] at active
    exact never.retired calls more key pin time (fun _ _ => trivial) (first ▸ found) expired active

/-- A row that has expired stays as it is, or it is on record. -/
theorem kept_or_recorded (calls more : List LifetimeCall)
    (admitted : ∀ call ∈ calls ++ more, Admitted runtime organizations call)
    {row : SetupLifetimePin} (expired : row.expired)
    (found : (SqlSetupLifetimeStore.after runtime organizations calls).pins.find i = some row) :
    (SqlSetupLifetimeStore.after runtime organizations (calls ++ more)).pins.find i = some row ∨
      Recorded (SqlSetupLifetimeStore.after runtime organizations (calls ++ more)).audits row := by
  induction more using List.reverseRecOn with
  | nil => exact .inl (by simpa using found)
  | append_singleton more call ih =>
    rw [← List.append_assoc] at admitted ⊢
    have earlier : ∀ call ∈ calls ++ more, Admitted runtime organizations call :=
      fun other listed => admitted other (List.mem_append_left _ listed)
    have follows := (alike_of_admitted _ earlier).follows (admitted call (by simp))
    obtain held | ⟨audit, listed, record⟩ := ih earlier
    · obtain ⟨later, became, id⟩ := follows.ids i row held
      have next := follows.pins i
      rw [held, became] at next
      obtain same | ⟨pin, advances, advanced⟩ :=
        nextPin_expired (i := i) (show row.pin.expired from expired)
      · rw [Option.map_some, Option.map_some, same] at next
        have unchanged : later = row := by
          have := Option.some.inj next
          simp only [SetupLifetimePin.pin, SetupTriggerPin.mk.injEq] at this
          grind [SetupLifetimePin]
        exact .inl (unchanged ▸ became)
      · rw [Option.map_some, Option.map_some, advances] at next
        obtain rfl := Option.some.inj next
        exact .inr (follows.recorded i row later held expired became advanced)
    · exact .inr ⟨audit, follows.audits listed, record⟩

/-- A trigger that has expired does not come back, in either store: the pins never go back, an
active pin is not replaced, and what is active after an expiry triggered later. After calls that
the table admits the two stores hold the same pins, and no expired row has been advanced without
a record of its lineage hash. -/
theorem expired_trigger_never_returns (runtime : LineageRuntime) (organizations : List Uuid) :
    (NeverResurrects (fun _ => True) fun calls key =>
        (SetupLifetimeStore.after runtime calls).get runtime key) ∧
      (NeverResurrects (Admitted runtime organizations) fun calls key =>
        (SqlSetupLifetimeStore.after runtime organizations calls).get runtime key) ∧
      ∀ calls, (∀ call ∈ calls, Admitted runtime organizations call) →
        (∀ key, (SqlSetupLifetimeStore.after runtime organizations calls).get runtime key =
          (SetupLifetimeStore.after runtime calls).get runtime key) ∧
        ∀ before more, calls = before ++ more → ∀ i row later,
          (SqlSetupLifetimeStore.after runtime organizations before).pins.find i = some row →
          row.expired →
          (SqlSetupLifetimeStore.after runtime organizations calls).pins.find i = some later →
          row.triggerEnd < later.triggerEnd →
            Recorded (SqlSetupLifetimeStore.after runtime organizations calls).audits row := by
  have same : ∀ calls key, (∀ call ∈ calls, Admitted runtime organizations call) →
      (SqlSetupLifetimeStore.after runtime organizations calls).get runtime key =
        (SetupLifetimeStore.after runtime calls).get runtime key := fun calls key admitted =>
    (alike_of_admitted calls admitted).pins (index runtime key)
  refine ⟨SetupLifetimeStore.neverResurrects, .of_same SetupLifetimeStore.neverResurrects same,
    fun calls admitted => ⟨fun key => same calls key admitted, ?_⟩⟩
  rintro before more rfl i row later found expired became advanced
  obtain held | recorded := kept_or_recorded before more admitted expired found
  · obtain rfl := Option.some.inj (held.symm.trans became)
    exact absurd advanced (lt_irrefl _)
  · exact recorded

end Runs

/-! ## Some calls -/

def sampleRuntime : LineageRuntime where
  nfc text := text
  nfc_ascii _ _ := rfl
  sha256 text := String.ofList ((text.toList ++ List.replicate 64 '0').take 64)
  sha256_length text := by simp
  upper := String.toUpper

def sampleKey : SetupLifetimeKey where
  organizationId := "organization"
  symbol := "btcusdt"
  timeframe := .m15
  strategyVersionId := "strategy"
  compiledSetupDefinitionId := "definition"
  compiledContentHash := String.ofList (List.replicate 64 'c')

def samplePin (minute : Nat) (triggerBarHash : String) : SetupTriggerPin PyDateTime where
  triggerEnd := ⟨2026, 1, 5, 10, minute, 0, 0, some 0⟩
  triggerBarHash := triggerBarHash
  expired := false
  requiredLineageHash := ""

/-- A bar hash of one character is pinned in memory, and refused by the table. -/
theorem stores_differ_on_short_hash :
    let calls := [.remember sampleKey (samplePin 15 "b")]
    ((SetupLifetimeStore.after sampleRuntime calls).get sampleRuntime sampleKey).isSome ∧
      (SqlSetupLifetimeStore.after sampleRuntime ["organization"] calls).get sampleRuntime
        sampleKey = none := by
  decide +kernel

def sampleCalls : List LifetimeCall :=
  let hash := String.ofList (List.replicate 64 'b')
  [.remember sampleKey (samplePin 15 hash), .expire sampleKey,
    .remember sampleKey (samplePin 15 hash), .remember sampleKey (samplePin 30 hash)]

theorem sampleCalls_agree :
    (∀ call ∈ sampleCalls, Admitted sampleRuntime ["organization"] call) ∧
      ∀ key, (SqlSetupLifetimeStore.after sampleRuntime ["organization"] sampleCalls).get
          sampleRuntime key =
        (SetupLifetimeStore.after sampleRuntime sampleCalls).get sampleRuntime key := by
  have admitted : ∀ call ∈ sampleCalls, Admitted sampleRuntime ["organization"] call := by
    decide +kernel
  exact ⟨admitted,
    ((expired_trigger_never_returns sampleRuntime ["organization"]).2.2 sampleCalls admitted).1⟩

end AlphaTrade.Evidence
