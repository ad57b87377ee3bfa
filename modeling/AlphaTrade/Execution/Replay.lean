import Mathlib.Data.List.Induction
import AlphaTrade.Execution.Fills

/-!
# Replayed fills

A fill that comes again under a stored identity is compared by a hash over the text of its
amounts and of its time. So a repeated fill is a replay when its texts are those of the
request the fact was stored from, whatever the numbers say.

Every stored fact was reported by a request of the run; `Reported` keeps the request.
-/
namespace AlphaTrade.Execution
open Library

/-! ## Where a fact comes from -/

namespace Command

variable {cat : Catalog} {gate : Gate} {k k' : Command} {c : CommandId}

theorem Mark.quantityUnit_eq (h : Mark gate k k') :
    k'.projection.quantityUnit = k.projection.quantityUnit := by
  cases h <;> rfl

theorem Move.quantityUnit_eq (h : Move gate cat k k') :
    k'.projection.quantityUnit = k.projection.quantityUnit := by
  cases h with
  | mark h => exact h.quantityUnit_eq
  | roll h =>
    obtain ⟨_, _, -, -, -, rfl⟩ := h.orphan
    rfl
  | release _ _ => rfl
  | fill h =>
    obtain ⟨_, _, _, _, -, -, -, rfl⟩ := h.written
    rfl

/-- Only a fill stores a fact. -/
theorem GatedMove.fills_eq (quiet : ¬gate.fill) (h : GatedMove gate cat k k') :
    k'.fills = k.fills := by
  cases h with
  | mark h _ => exact h.fills_eq
  | roll h =>
    obtain ⟨_, _, -, -, -, rfl⟩ := h.orphan
    rfl
  | release _ _ => rfl
  | fill _ allowed => exact absurd allowed quiet

theorem Created.fills_eq (h : Created cat c k) : k.fills = [] := by
  cases h <;> rfl

/-- A fact reads of its command what no move changes. -/
theorem Moves.fillFact_eq (h : Moves gate cat k k') (request : FillRequest) (identity : String)
    (time : PyDateTime) :
    fillFact cat c k' request identity time = fillFact cat c k request identity time := by
  have receipt := h.sameTerms.receiptId
  have unit : k'.projection.quantityUnit = k.projection.quantityUnit :=
    h.invariant (I := fun k' => k'.projection.quantityUnit = k.projection.quantityUnit)
      (fun _ _ same m => m.quantityUnit_eq.trans same) rfl
  simp [fillFact, fillContentHash, receipt, unit]

end Command

variable {cat : Catalog} {gate : Gate} {c : CommandId} {k : Command} {request : FillRequest}
  {time : PyDateTime}

/-- Where no fill is let in, a stored fact was stored before. -/
theorem Db.CommandsGated.fact {db db' : Db} {k' : Command} {fact : FillFact}
    (h : CommandsGated gate cat db db') (quiet : ¬gate.fill) (find' : db'.commands.find c = some k')
    (mem : fact ∈ k'.fills) : ∃ k, db.commands.find c = some k ∧ fact ∈ k.fills := by
  obtain ⟨k, origin, moves⟩ := h c k' find'
  have same : k'.fills = k.fills := by
    clear find' mem
    induction moves with
    | refl => rfl
    | tail _ move ih => exact (move.fills_eq quiet).trans ih
  rw [same] at mem
  obtain created | find := origin
  · simp [created.fills_eq] at mem
  · exact ⟨k, find, mem⟩

def Reported (cat : Catalog) (ls : List Label) (c : CommandId) (k : Command) (fact : FillFact) :
    Prop :=
  ∃ ctx request identity time, Label.applyUniqueFill ctx c request ∈ ls ∧
    request.check = .ok (identity, time) ∧ fact = fillFact cat c k request identity time ∧
    k.reservation.isSome

theorem Reported.of_moves {ls ls' : List Label} {k' : Command} {fact : FillFact}
    (h : Reported cat ls c k fact) (more : ls ⊆ ls') (moves : Command.Moves gate cat k k') :
    Reported cat ls' c k' fact := by
  obtain ⟨ctx, request, identity, time, mem, checked, fact_eq, reserved⟩ := h
  refine ⟨ctx, request, identity, time, more mem, checked, ?_, ?_⟩
  · rw [fact_eq, moves.fillFact_eq]
  · rw [moves.sameTerms.reservation]
    exact reserved

namespace World

variable {cat : Catalog} {w : World} {l : Label}

/-- A fact after a step was there before, or is the one the step reports. -/
theorem step_reported {c : CommandId} {k' : Command} {fact : FillFact} (jobs : w.JobsValid cat)
    (find' : (w.step cat l).db.commands.find c = some k') (mem : fact ∈ k'.fills) :
    (∃ k, w.db.commands.find c = some k ∧ fact ∈ k.fills) ∨ Reported cat [l] c k' fact := by
  by_cases quiet : l.fills = false
  · have side : w.Respects { Gate.any with fill := False } l :=
      { w.respects_any l with fill := fun fills => absurd fills (by simp [quiet]) }
    exact .inl ((step_writes jobs side).commandsGated.fact id find' mem)
  cases l with
  | applyUniqueFill ctx c' request =>
    simp only [step] at find'
    cases applied : w.db.applyUniqueFill cat ctx c' request with
    | error _ =>
      rw [applied] at find'
      exact .inl ⟨k', find', mem⟩
    | ok x =>
      obtain ⟨db', result⟩ := x
      rw [applied] at find'
      change db'.commands.find c = some k' at find'
      cases Db.applyUniqueFill_outcome applied with
      | replayed _ _ _ _ =>
        rw [Db.lockEpoch_commands] at find'
        exact .inl ⟨k', find', mem⟩
      | @accepted k₀ k₁ r r₁ identity time fact₀ row notional weighted locked checked find
          reservation fact_eq fresh covered lock row_eq found rolled reservation₁ _ _ =>
        obtain ⟨rfl, rfl⟩ | ⟨other, old⟩ := Table.find_put_cases find'
        · obtain stored | rfl : fact ∈ k₁.fills ∨ fact = fact₀ := by
            simpa [Command.recordFill] using mem
          · exact .inl ⟨k₀, find, rolled.fills_eq ▸ stored⟩
          · right
            refine ⟨ctx, request, identity, time, by simp, checked, ?_, rfl⟩
            have same : k₁.receiptId = k₀.receiptId := rolled.sameTerms.receiptId
            have unit : k₁.projection = k₀.projection := rolled.projection_eq
            rw [fact_eq]
            simp [fillFact, fillContentHash, Command.recordFill, same, unit]
        · have commands : Db.CommandsRolled cat ctx.now ((w.db.lockEpoch ctx
              k₀.accountKey).1.putCommand c' (k₀.addFill fact₀)) locked :=
            lock ▸ Db.ensureAccounting_commandsRolled _ _ _ _ _ _ _
          have gated : Db.CommandsGated { Gate.any with fill := False } cat _ locked :=
            commands.commandsGated
          obtain ⟨k, find, stored⟩ := gated.fact id old mem
          refine .inl ⟨k, ?_, stored⟩
          simpa [Db.putCommand, Table.find_put_of_ne _ other] using find
  | _ => exact absurd rfl quiet

end World

/-- Every stored fact was reported in the run. -/
theorem reached_reported {ls : List Label} {fact : FillFact}
    (find : (reached cat ls).db.commands.find c = some k) (mem : fact ∈ k.fills) :
    Reported cat ls c k fact := by
  induction ls using List.reverseRecOn generalizing k with
  | nil => simp [reached, World.init, Db.empty] at find
  | append_singleton ls l ih =>
    have moved := World.step_commandsMoved (l := l) (reached_jobsValid cat ls)
      (World.respects_any (reached cat ls) l)
    rw [reached_append] at find
    obtain ⟨k₀, find₀, mem₀⟩ | reported := World.step_reported (reached_jobsValid cat ls) find mem
    · obtain ⟨k₁, find₁, moves⟩ := moved.moved c k₀ find₀
      obtain rfl : k₁ = k := Option.some.inj (find₁.symm.trans find)
      exact (ih find₀ mem₀).of_moves (List.subset_append_left ls [l]) moves
    · exact reported.of_moves (List.subset_append_right ls [l]) (.refl (r := Command.Move .any cat))

/-! ## Repeated fills -/

def FillRequest.rendering (request : FillRequest) : String × String × Option String :=
  (request.fillQuantity.str, request.fillPrice.str,
    request.occurredAt.map fun t => t.aware.isoformat)

/-- The preimage of the hash of a request about a stored identity. -/
def FillRequest.preimage (request : FillRequest) (c : CommandId) (k : Command)
    (fact : FillFact) : FillPreimage where
  receiptId := k.receiptId
  commandId := c
  venueSource := request.venueSource
  sourceFillIdentity := fact.sourceFillIdentity
  quantity := request.rendering.1
  price := request.rendering.2.1
  unit := k.projection.quantityUnit
  occurredAt := request.rendering.2.2.getD ""

/-- The request repeats a stored fact: the same identity and source, finite amounts that are
numerically equal to the stored ones, and a time that denotes the same instant. -/
structure FillRequest.Repeats (request : FillRequest) (fact : FillFact) : Prop where
  identity : request.sourceIdentity = some fact.sourceFillIdentity
  venue : request.venueSource = fact.venueSource
  finite : request.fillQuantity.isFinite ∧ request.fillPrice.isFinite
  quantity : request.fillQuantity.toRat = fact.quantity
  price : request.fillPrice.toRat = fact.price
  time : ∃ t, request.occurredAt = some t ∧ t.aware.instant = fact.occurredAt.instant

def Db.ReplaysFill (cat : Catalog) (ctx : Ctx) (db : Db) (c : CommandId)
    (request : FillRequest) : Prop :=
  ∃ db' result, db.applyUniqueFill cat ctx c request = .ok (db', result) ∧
    result.replayed = true ∧ db'.commands = db.commands ∧ db'.accounting = db.accounting

theorem FillRequest.check_eq_ok {identity : String} :
    request.check = .ok (identity, time) ↔
      request.sourceIdentity = some identity ∧ isBlank identity = false ∧
        (∃ t, request.occurredAt = some t ∧ t.aware = time) ∧
        (request.fillQuantity.isFinite ∧ request.fillPrice.isFinite) ∧
        0 < request.fillQuantity.toRat ∧ 0 < request.fillPrice.toRat := by
  unfold check
  cases request.sourceIdentity with
  | none => simp
  | some given =>
    cases request.occurredAt with
    | none => grind
    | some t => grind

/-- A repeated fill passes the checks, as the fill it repeats did. -/
theorem FillRequest.Repeats.checked {original : FillRequest} {fact : FillFact}
    (h : request.Repeats fact) (same : original.Repeats fact)
    (passed : original.check = .ok (fact.sourceFillIdentity, time)) :
    ∃ t, request.occurredAt = some t ∧
      request.check = .ok (fact.sourceFillIdentity, t.aware) := by
  obtain ⟨-, named, -, -, quantity, price⟩ := check_eq_ok.mp passed
  obtain ⟨t, occurred, -⟩ := h.time
  rw [same.quantity] at quantity
  rw [same.price] at price
  refine ⟨t, occurred, check_eq_ok.mpr ⟨h.identity, named, ⟨t, occurred, rfl⟩, h.finite, ?_, ?_⟩⟩
  · rwa [h.quantity]
  · rwa [h.price]

/-- Requests that repeat one fact have one preimage when they have one rendering. -/
theorem FillRequest.Repeats.preimage_eq_iff {original : FillRequest} {fact : FillFact}
    (h : request.Repeats fact) (same : original.Repeats fact) (c : CommandId) (k : Command) :
    request.preimage c k fact = original.preimage c k fact ↔
      request.rendering = original.rendering := by
  obtain ⟨t, occurred, -⟩ := h.time
  obtain ⟨t', occurred', -⟩ := same.time
  simp [preimage, rendering, occurred, occurred', h.venue, same.venue, Prod.ext_iff]

/-- The fact that is found under its identity is the fact itself. -/
theorem Command.FillInv.find?_eq (h : k.FillInv cat) {fact : FillFact} (mem : fact ∈ k.fills) :
    k.fills.find? (·.sourceFillIdentity = fact.sourceFillIdentity) = some fact := by
  have found : (k.fills.find? (·.sourceFillIdentity = fact.sourceFillIdentity)).isSome := by
    rw [List.find?_isSome]
    exact ⟨fact, mem, by simp⟩
  obtain ⟨fact', eq⟩ := Option.isSome_iff_exists.mp found
  have identity : fact'.sourceFillIdentity = fact.sourceFillIdentity := by
    simpa using List.find?_some eq
  rw [eq, List.inj_on_of_nodup_map h.distinct (List.mem_of_find?_eq_some eq) mem identity]

/-- A fill that finds its identity stored is answered by the hash alone. -/
theorem Db.replaysFill_iff {ctx : Ctx} {db : Db} {fact : FillFact} {t : PyDateTime}
    (inv : k.FillInv cat) (find : db.commands.find c = some k) (mem : fact ∈ k.fills)
    (reserved : k.reservation.isSome) (occurred : request.occurredAt = some t)
    (checked : request.check = .ok (fact.sourceFillIdentity, t.aware)) :
    db.ReplaysFill cat ctx c request ↔
      fact.contentHash = cat.canonicalSha256 (request.preimage c k fact) := by
  obtain ⟨r, reservation⟩ := Option.isSome_iff_exists.mp reserved
  have fetched : db.requireCommand c = .ok k := requireCommand_eq_ok.mpr find
  have hash : fillContentHash cat c k request fact.sourceFillIdentity t.aware =
      cat.canonicalSha256 (request.preimage c k fact) := by
    simp [fillContentHash, FillRequest.preimage, FillRequest.rendering, occurred]
  unfold ReplaysFill applyUniqueFill
  simp only [checked, fetched, reservation, inv.find?_eq mem, hash, Bind.bind, Except.bind]
  by_cases same : fact.contentHash = cat.canonicalSha256 (request.preimage c k fact) <;>
    simp [same, ensure]

/-- For every stored fact of every run there is the request it was stored from, and a repeated
fill (the same identity and source, numerically equal amounts, a time that denotes the same
instant) is a no-op that answers with the stored fact exactly when the texts of its amounts
and its time are those of that request; the hash is only asked to tell the two preimages
apart. -/
theorem repeated_fill_replays_iff (cat : Catalog) (ls : List Label) (c : CommandId) (k : Command)
    (find : (reached cat ls).db.commands.find c = some k) (fact : FillFact)
    (mem : fact ∈ k.fills) :
    ∃ ctx₀ original, Label.applyUniqueFill ctx₀ c original ∈ ls ∧ original.Repeats fact ∧
      ∀ ctx request, request.Repeats fact →
        (cat.canonicalSha256 (request.preimage c k fact) =
            cat.canonicalSha256 (original.preimage c k fact) →
          request.preimage c k fact = original.preimage c k fact) →
        ((reached cat ls).db.ReplaysFill cat ctx c request ↔
          request.rendering = original.rendering) := by
  obtain ⟨ctx₀, original, identity, time, reported, passed, fact_eq, reserved⟩ :=
    reached_reported find mem
  obtain ⟨identity_eq, -, ⟨t₀, occurred₀, rfl⟩, finite, -⟩ := FillRequest.check_eq_ok.mp passed
  have same : original.Repeats fact := by
    subst fact_eq
    exact ⟨identity_eq, rfl, finite, rfl, rfl, t₀, occurred₀, rfl⟩
  have named : fact.sourceFillIdentity = identity := by rw [fact_eq]; rfl
  have stored : fact.contentHash = cat.canonicalSha256 (original.preimage c k fact) := by
    rw [fact_eq]
    simp [fillFact, fillContentHash, FillRequest.preimage, FillRequest.rendering, occurred₀]
  refine ⟨ctx₀, original, reported, same, fun ctx request repeats apart => ?_⟩
  obtain ⟨t, occurred, checked⟩ := repeats.checked same (named.symm ▸ passed)
  rw [Db.replaysFill_iff (reached_fillInv find) find mem reserved occurred checked, stored,
    ← repeats.preimage_eq_iff same c k]
  exact ⟨fun hashes => apart hashes.symm, fun preimages => by rw [preimages]⟩

def textCatalog : Catalog :=
  { Sample.catalog blofinDemoVenue with
    canonicalSha256 := fun f =>
      f.sourceFillIdentity ++ "/" ++ f.quantity ++ "/" ++ f.price ++ "/" ++ f.occurredAt }

def oneFillRun : List Label :=
  Sample.claim 0 1 ++ Sample.dispatch 0 1 ++ [Sample.fill 1 1 "a" 1 100]

def rewrittenFill : FillRequest :=
  { Sample.fillRequest "a" 1 100 with fillQuantity := .finite false 10 (-1) }

def relocatedFill : FillRequest :=
  { Sample.fillRequest "a" 1 100 with occurredAt := some ⟨2026, 1, 2, 4, 4, 5, 0, some 3600⟩ }

def oneFillFact : FillFact where
  venueSource := "phase1-fake-venue"
  sourceFillIdentity := "a"
  quantity := 1
  price := 100
  unit := .contracts
  occurredAt := ⟨2026, 1, 2, 3, 4, 5, 0, some 0⟩
  contentHash := "a/1/100/2026-01-02T03:04:05+00:00"

theorem oneFillRun_fills : ((reached textCatalog oneFillRun).db.commands.find 1).map (·.fills) =
    some [oneFillFact] := by
  decide_cbv

theorem repeats_oneFillFact : (Sample.fillRequest "a" 1 100).Repeats oneFillFact ∧
    rewrittenFill.Repeats oneFillFact ∧ relocatedFill.Repeats oneFillFact :=
  ⟨⟨rfl, rfl, ⟨rfl, rfl⟩, by decide_cbv, by decide_cbv, _, rfl, by decide_cbv⟩,
    ⟨rfl, rfl, ⟨rfl, rfl⟩, by decide_cbv, by decide_cbv, _, rfl, by decide_cbv⟩,
    ⟨rfl, rfl, ⟨rfl, rfl⟩, by decide_cbv, by decide_cbv, _, rfl, by decide_cbv⟩⟩

theorem repeated_fill_replays_iff_oneFillRun :
    (reached textCatalog oneFillRun).db.ReplaysFill textCatalog (Sample.ctx 2) 1
        (Sample.fillRequest "a" 1 100) ∧
      ¬(reached textCatalog oneFillRun).db.ReplaysFill textCatalog (Sample.ctx 2) 1
        rewrittenFill := by
  obtain ⟨k, find, fills⟩ := Option.map_eq_some_iff.mp oneFillRun_fills
  obtain ⟨ctx₀, original, mem, -, iff_⟩ := repeated_fill_replays_iff textCatalog oneFillRun 1 k find
    oneFillFact (by simp [fills])
  obtain ⟨-, rfl⟩ : ctx₀ = Sample.ctx 1 ∧ original = Sample.fillRequest "a" 1 100 := by
    simpa [oneFillRun, Sample.claim, Sample.dispatch, Sample.fill] using mem
  refine ⟨(iff_ _ _ repeats_oneFillFact.1 fun _ => rfl).mpr rfl, fun replays => ?_⟩
  have apart : textCatalog.canonicalSha256 (rewrittenFill.preimage 1 k oneFillFact) ≠
      textCatalog.canonicalSha256 ((Sample.fillRequest "a" 1 100).preimage 1 k oneFillFact) := by
    change "a/1.0/100/2026-01-02T03:04:05+00:00" ≠ "a/1/100/2026-01-02T03:04:05+00:00"
    decide
  have same := (iff_ _ _ repeats_oneFillFact.2.1 fun hashes => absurd hashes apart).mp replays
  exact absurd same (by decide)

def fillRefusal (w : World) (request : FillRequest) : Option Error :=
  match w.db.applyUniqueFill textCatalog (Sample.ctx 2) 1 request with
  | .error refusal => some refusal
  | .ok _ => none

/-- Equal fills are refused as conflicting when only a trailing zero or the zone differs. -/
theorem repeated_fill_refused :
    ((reached textCatalog oneFillRun).db.commands.find 1).map (·.fills) = some [oneFillFact] ∧
      rewrittenFill.Repeats oneFillFact ∧ relocatedFill.Repeats oneFillFact ∧
      fillRefusal (reached textCatalog oneFillRun) rewrittenFill =
        some (.conflict "Source fill identity already exists with conflicting content."
          (some "conflicting_fill_identity")) ∧
      fillRefusal (reached textCatalog oneFillRun) relocatedFill =
        some (.conflict "Source fill identity already exists with conflicting content."
          (some "conflicting_fill_identity")) :=
  ⟨oneFillRun_fills, repeats_oneFillFact.2.1, repeats_oneFillFact.2.2, by decide +kernel,
    by decide +kernel⟩

end AlphaTrade.Execution
