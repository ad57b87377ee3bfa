import AlphaTrade.Journal.Arrival
import AlphaTrade.Library.Repeats

/-!
# Redelivered lifecycle events

Events are delivered at least once. What the store holds of an event stays, and an event that it
holds is answered from there, so that a stream ends in the same store however often its events
come again.

## Main results

* `redelivered_project_once`: repeated events leave no trace.
-/
namespace AlphaTrade.Journal
open Library
open Execution (OrganizationId UserId)

section redelivery

variable {hash : OrganizationId → Event → String} {org : OrganizationId} {user : UserId}
  {j j' : Store} {event other : Event} {r : ProjectionResult}

namespace Store

theorem records_of_apply {c : Execution.CommandId} {created : Bool}
    (applied : j.applyToTrade org user c event = .ok (j', created)) : j'.records = j.records := by
  simp only [applyToTrade, bind_eq_ok, pure, Except.pure] at applied
  obtain ⟨_, -, _, -, _, -, _, -, written⟩ := applied
  obtain ⟨rfl, -⟩ := Prod.mk.inj (Except.ok.inj written)
  rfl

/-- The store answers an event by what it holds of it. -/
def Holds (hash : OrganizationId → Event → String) (org : OrganizationId) (j : Store)
    (event : Event) : Prop :=
  (event.sourceSystem ≠ "" ∧ event.sourceAggregate ≠ "" ∧ event.sourceEventId ≠ "") ∧
    ∃ stored, j.findRecord org event = some stored ∧ stored.contentHash = hash org event

theorem Holds.replayed (holds : j.Holds hash org event) :
    ∃ r, j.project hash org user event = .ok (j, r) := by
  obtain ⟨provenance, stored, found, same⟩ := holds
  simp only [project, found, ensure, if_pos provenance, if_pos same]
  exact ⟨_, rfl⟩

/-- A projection answers from the store, or appends its record. -/
theorem project_cases (projected : j.project hash org user event = .ok (j', r)) :
    j.Holds hash org event ∧ j' = j ∨
      (event.sourceSystem ≠ "" ∧ event.sourceAggregate ≠ "" ∧ event.sourceEventId ≠ "") ∧
        j.findRecord org event = none ∧ ∃ hasTrade skipped,
          j'.records = j.records ++ [⟨org, event, hash org event, hasTrade, skipped⟩] := by
  simp only [project, bind_eq_ok, ensure_eq_ok] at projected
  obtain ⟨-, provenance, projected⟩ := projected
  split at projected
  · rename_i stored found
    simp only [bind_eq_ok, ensure_eq_ok, pure, Except.pure] at projected
    obtain ⟨-, same, projected⟩ := projected
    obtain ⟨rfl, -⟩ := Prod.mk.inj (Except.ok.inj projected)
    exact .inl ⟨⟨provenance, stored, found, same⟩, rfl⟩
  · rename_i new
    refine .inr ⟨provenance, new, ?_⟩
    obtain ⟨-, -, projected⟩ := bind_eq_ok.mp projected
    have recorded {before : Store} {hasTrade created : Bool} {skipped : Option String}
        (same : before.records = j.records)
        (ok : (Except.ok (before.record org event (hash org event) hasTrade created skipped) :
          Except Error _) = .ok (j', r)) : ∃ hasTrade skipped,
        j'.records = j.records ++ [⟨org, event, hash org event, hasTrade, skipped⟩] := by
      obtain ⟨rfl, -⟩ := Prod.mk.inj (Except.ok.inj ok)
      exact ⟨hasTrade, skipped, congrArg (· ++ _) same⟩
    split at projected
    · exact recorded rfl projected
    split at projected
    · exact recorded rfl projected
    split at projected
    · exact recorded rfl projected
    obtain ⟨⟨applied, created⟩, applies, projected⟩ := bind_eq_ok.mp projected
    exact recorded (records_of_apply applies) projected

theorem holds_of_project (projected : j.project hash org user event = .ok (j', r)) :
    j'.Holds hash org event := by
  rcases project_cases projected with ⟨holds, rfl⟩ | ⟨provenance, new, hasTrade, skipped, records⟩
  · exact holds
  · refine ⟨provenance, ⟨org, event, hash org event, hasTrade, skipped⟩, ?_, rfl⟩
    unfold findRecord at new ⊢
    rw [records, List.find?_append, new]
    simp [Event.SameIdentity]

/-- The first record of an identity stays the first. -/
theorem Holds.project (holds : j.Holds hash org event)
    (projected : j.project hash org user other = .ok (j', r)) : j'.Holds hash org event := by
  rcases project_cases projected with ⟨-, rfl⟩ | ⟨-, -, hasTrade, skipped, records⟩
  · exact holds
  · obtain ⟨provenance, stored, found, same⟩ := holds
    refine ⟨provenance, stored, ?_, same⟩
    unfold findRecord at found ⊢
    rw [records, List.find?_append, found, Option.some_or]

/-- One event of a stream, of which an earlier one may have been refused. -/
def deliver (hash : OrganizationId → Event → String) (org : OrganizationId) (user : UserId)
    (reached : Except Error Store) (event : Event) : Except Error Store := do
  let j ← reached
  (j.project hash org user event).map Prod.fst

theorem deliver_of_holds (holds : j.Holds hash org event) :
    deliver hash org user (.ok j) event = .ok j := by
  obtain ⟨r, replayed⟩ := @Holds.replayed hash org user j event holds
  change (j.project hash org user event).map Prod.fst = _
  rw [replayed]
  rfl

theorem holds_of_deliver (delivered : deliver hash org user (.ok j) event = .ok j') :
    j'.Holds hash org event := by
  obtain ⟨⟨_, r⟩, projected, rfl⟩ := map_eq_ok.mp delivered
  exact holds_of_project projected

end Store

/-- **At least once is exactly once.** Whichever events of a stream come again, however often and
wherever behind their first delivery, the stream ends in the same rows and records, or in the same
refusal. -/
theorem redelivered_project_once (hash : OrganizationId → Event → String) (org : OrganizationId)
    (user : UserId) (j : Store) {events again : List Event} (repeats : Repeats [] events again) :
    j.projectAll hash org user again = j.projectAll hash org user events := by
  have settles (reached : Except Error Store) (event : Event) :
      Store.deliver hash org user (Store.deliver hash org user reached event) event =
        Store.deliver hash org user reached event := by
    cases delivered : Store.deliver hash org user reached event with
    | error => rfl
    | ok j' =>
      cases reached with
      | error => cases delivered
      | ok j => exact Store.deliver_of_holds (Store.holds_of_deliver delivered)
  have stays (reached : Except Error Store) (event other : Event)
      (settled : Store.deliver hash org user reached event = reached) :
      Store.deliver hash org user (Store.deliver hash org user reached other) event =
        Store.deliver hash org user reached other := by
    cases reached with
    | error => rfl
    | ok j =>
      cases delivered : Store.deliver hash org user (.ok j) other with
      | error => rfl
      | ok j' =>
        obtain ⟨⟨_, r⟩, projected, rfl⟩ := map_eq_ok.mp delivered
        exact Store.deliver_of_holds ((Store.holds_of_deliver settled).project projected)
  unfold Store.projectAll
  rw [List.foldlM_eq_foldl, List.foldlM_eq_foldl]
  exact repeats.foldl_eq settles stays nofun

def Sample.typeHash (_ : OrganizationId) (event : Event) : String :=
  if event.eventType = .fill then "fill" else "close"

/-- The fill comes again before the close, and behind it. -/
theorem fill_redelivered :
    Store.empty.projectAll Sample.typeHash 1 1
        [Sample.fill, Sample.fill, Sample.close, Sample.fill] =
      Store.empty.projectAll Sample.typeHash 1 1 [Sample.fill, Sample.close] ∧
    (Store.empty.projectAll Sample.typeHash 1 1 [Sample.fill, Sample.close]).toOption.isSome := by
  refine ⟨redelivered_project_once Sample.typeHash 1 1 Store.empty ?_, by decide⟩
  exact .next _ (.repeated (.head _) (.next _ (.repeated (.tail _ (.head _)) (.nil _))))

end redelivery

end AlphaTrade.Journal
