import AlphaTrade.Fusion.EvidenceWindow

/-!
# What the evidence window hash depends on

Inputs with the same members in each collection give windows with the same preimage, whatever the
order of the members, how often one is repeated and what the transport fields say. In the other
direction a preimage determines the evidence of its window.

## Main results

* `canonicalObservations_congr`, `canonicalAssertionRefs_congr`, `canonicalSources_congr` — the
  normal forms of collections with the same members.
* `SameEvidence.build` — an accepted input's window and that of any input with its evidence.
* `window_hash_identifies_evidence` — both directions for the builder.
-/
namespace AlphaTrade.Fusion
open Library Market

/-! ## Values tell the members of an enumeration apart -/

theorem EvidenceRole.value_injective : Function.Injective EvidenceRole.value := by
  intro a b h
  cases a <;> cases b <;> first | rfl | exact absurd h (by decide)

theorem venueId_value_injective : Function.Injective VenueId.value := by
  intro a b h
  cases a <;> cases b <;> first | rfl | exact absurd h (by decide)

theorem marketType_value_injective : Function.Injective MarketType.value := by
  intro a b h
  cases a <;> cases b <;> first | rfl | exact absurd h (by decide)

theorem sourceFamily_value_injective : Function.Injective SourceFamily.value := by
  intro a b h
  cases a <;> cases b <;> first | rfl | exact absurd h (by decide)

theorem SemanticSourceIdentity.key_injective : Function.Injective SemanticSourceIdentity.key := by
  rintro ⟨venue, market, family⟩ ⟨venue', market', family'⟩ h
  simp only [key, toLex_inj, Prod.mk.injEq] at h
  obtain ⟨hv, hm, hf⟩ := h
  rw [venueId_value_injective hv, marketType_value_injective hm, sourceFamily_value_injective hf]

theorem SemanticSourceIdentity.dictKey_injective : Function.Injective dictKey := by
  rintro ⟨venue, market, family⟩ ⟨venue', market', family'⟩ h
  simp only [dictKey, Prod.mk.injEq] at h
  rw [h.1, h.2.1, sourceFamily_value_injective h.2.2]

/-! ## Normal forms -/

theorem uniqueSortedRoles_congr {roles others : List EvidenceRole}
    (same : ∀ role, role ∈ roles ↔ role ∈ others) :
    uniqueSortedRoles roles = uniqueSortedRoles others :=
  sortedOn_congr EvidenceRole.value_injective roles.nodup_dedup others.nodup_dedup
    (by simpa using same)

variable {bindings : List RoleTimeframeBinding} {observation : ObservedMarket}
  {identity : EvidenceMarketIdentity} {role : EvidenceRole} {fields left right : WindowFields}

theorem timeframeBindingsByRole_congr {others : List RoleTimeframeBinding}
    (same : ∀ binding, binding ∈ bindings ↔ binding ∈ others) {table}
    (h : timeframeBindingsByRole bindings = .ok table) :
    ∃ table', timeframeBindingsByRole others = .ok table' ∧ table'.find = table.find := by
  have agree := Table.enterAll_iff.mp ⟨table, h⟩
  obtain ⟨table', h'⟩ := Table.enterAll_iff.mpr ((Agree.congr _ _ same).mp agree)
  refine ⟨table', h', funext fun role => ?_⟩
  cases found : table.find role with
  | some timeframe =>
    obtain before | ⟨binding, mem, entered⟩ := Table.find_of_enterAll h found
    · simp at before
    · simpa using (Table.tag_of_enterAll h').2 binding ((same binding).mp mem) role
        timeframe entered
  | none =>
    cases found' : table'.find role with
    | none => rfl
    | some timeframe =>
      obtain before | ⟨binding, mem, entered⟩ := Table.find_of_enterAll h' found'
      · simp at before
      · have := (Table.tag_of_enterAll h).2 binding ((same binding).mpr mem) role timeframe entered
        simp [found] at this

theorem requireObservationMatchesEvidence_congr {others : List RoleTimeframeBinding}
    (same : ∀ binding, binding ∈ bindings ↔ binding ∈ others)
    (h : requireObservationMatchesEvidence observation identity role bindings = .ok ⟨⟩) :
    requireObservationMatchesEvidence observation identity role others = .ok ⟨⟩ := by
  unfold requireObservationMatchesEvidence at h ⊢
  simp only [bind_eq_ok, ensure_eq_ok] at h ⊢
  obtain ⟨u, venue, v, market, w, instrument, table, read, rest⟩ := h
  obtain ⟨table', read', find⟩ := timeframeBindingsByRole_congr same read
  exact ⟨u, venue, v, market, w, instrument, table', read', by rw [find]; exact rest⟩

/-- What an observation that was let through has in common with the evidence identity. -/
theorem market_of_requireObservationMatchesEvidence
    (h : requireObservationMatchesEvidence observation identity role bindings = .ok ⟨⟩) :
    observation.venue = identity.venue ∧ observation.marketType = identity.marketType ∧
      observation.instrumentId = identity.instrument.instrumentId := by
  unfold requireObservationMatchesEvidence at h
  simp only [bind_eq_ok, ensure_eq_ok] at h
  obtain ⟨-, venue, -, market, -, instrument, -⟩ := h
  exact ⟨venue, market, instrument⟩

/-- The entry of an observation under its role and its identifier. -/
abbrev identityEntry (item : SelectedPublicObservation) :
    Option ((EvidenceRole × PublicObservationId) × Sha256Hex) :=
  item.observationId.map fun id => ((item.role, id), item.contentHash)

def lastObservations (items : List SelectedPublicObservation) :
    Table (EvidenceRole × Sha256Hex) SelectedPublicObservation :=
  items.foldl (fun unique item => unique.put item.key item) .empty

abbrev conflictingObservation (item : SelectedPublicObservation) : FusionError :=
  .conflictingSemanticInput
    ("Conflicting selected observation content for the same role " ++ item.role.value
      ++ " and observation_id.")

/-- The two dicts of the loop do not read one another. -/
theorem canonicalObservations_eq (items : List SelectedPublicObservation) :
    canonicalObservations items =
      (items.foldlM (Table.enter identityEntry id conflictingObservation) .empty).map
        fun _ => sortedObservations ((lastObservations items).rows.map Prod.snd) := by
  have loop : items.foldlM collectObservation (.empty, .empty) =
      (items.foldlM (Table.enter identityEntry id conflictingObservation) .empty).map
        fun byObservationId => (lastObservations items, byObservationId) :=
    foldlM_prod (fun (unique : Table _ SelectedPublicObservation) item => unique.put item.key item)
      (Table.enter identityEntry id conflictingObservation) items Table.empty Table.empty
  unfold canonicalObservations
  rw [loop]
  cases List.foldlM (Table.enter identityEntry id conflictingObservation) .empty items <;> rfl

def observationOrder (k : EvidenceRole × Sha256Hex) : String ×ₗ Sha256Hex :=
  toLex (k.1.value, k.2)

theorem observationOrder_injective : Function.Injective observationOrder := by
  intro k k' h
  obtain ⟨hr, hh⟩ := Prod.mk.inj (toLex_inj.mp h)
  exact Prod.ext (EvidenceRole.value_injective hr) hh

theorem order_lastObservations (items : List SelectedPublicObservation) :
    ((lastObservations items).rows.map Prod.snd).map (observationOrder ∘ (·.key)) =
      (lastObservations items).keys.map observationOrder := by
  rw [← List.map_map]
  exact congrArg _ (Table.map_values fun _ _ found => (Table.keyed_foldl_put found).2)

theorem canonicalObservations_congr {items others obs : List SelectedPublicObservation}
    (same : ∀ item, item ∈ items ↔ item ∈ others) (h : canonicalObservations items = .ok obs) :
    ∃ obs', canonicalObservations others = .ok obs' ∧ obs'.map (·.key) = obs.map (·.key) := by
  rw [canonicalObservations_eq] at h
  obtain ⟨byId, loop, rfl⟩ := map_eq_ok.mp h
  obtain ⟨byId', loop'⟩ :=
    Table.enterAll_iff.mpr ((Agree.congr _ _ same).mp (Table.enterAll_iff.mp ⟨byId, loop⟩))
  refine ⟨_, by rw [canonicalObservations_eq, loop']; rfl, ?_⟩
  have distinct (items : List SelectedPublicObservation) :
      (((lastObservations items).rows.map Prod.snd).map (observationOrder ∘ (·.key))).Nodup := by
    rw [order_lastObservations]
    exact (lastObservations items).nodup.map observationOrder_injective
  refine List.map_injective_iff.mpr observationOrder_injective ?_
  rw [List.map_map, List.map_map]
  refine map_sortedOn_congr (distinct others) (distinct items) fun k => ?_
  rw [order_lastObservations, order_lastObservations]
  simp only [List.mem_map, lastObservations, Table.mem_keys_foldl_put, same]

theorem mem_of_canonicalObservations {items obs : List SelectedPublicObservation}
    (h : canonicalObservations items = .ok obs) : ∀ item ∈ obs, item ∈ items := by
  rw [canonicalObservations_eq] at h
  obtain ⟨byId, -, rfl⟩ := map_eq_ok.mp h
  intro item mem
  obtain ⟨k, found⟩ := Table.mem_values.mp ((mem_sortedOn _).mp mem)
  exact (Table.keyed_foldl_put found).1

/-! ### Assertions and sources -/

abbrev assertionEntry (item : TenantAssertionRef) : Option (AssertionId × TenantAssertionRef) :=
  some (item.assertionId, item)

variable {refusal : TenantAssertionRef → FusionError}

variable {items refs : List TenantAssertionRef} {unique : Table AssertionId TenantAssertionRef}

/-- The dict of `_canonical_assertion_refs` holds the references it was given. -/
theorem mem_values_assertions
    (loop : items.foldlM (Table.enter assertionEntry (·.contentHash) refusal) .empty = .ok unique)
    (item : TenantAssertionRef) : item ∈ unique.rows.map Prod.snd ↔ item ∈ items := by
  have own : ∀ k held, unique.find k = some held → held ∈ items ∧ held.assertionId = k := by
    intro k held found
    obtain before | ⟨a, mem, entered⟩ := Table.find_of_enterAll loop found
    · simp at before
    · obtain ⟨rfl, rfl⟩ := Prod.mk.inj (Option.some.inj entered)
      exact ⟨mem, rfl⟩
  rw [Table.mem_values]
  constructor
  · rintro ⟨k, found⟩
    exact (own k item found).1
  · intro mem
    obtain ⟨held, found, hash⟩ :=
      Option.map_eq_some_iff.mp ((Table.tag_of_enterAll loop).2 item mem item.assertionId item rfl)
    have same : held = item := TenantAssertionRef.ext (own _ _ found).2 hash
    exact ⟨item.assertionId, same ▸ found⟩

theorem nodup_values_assertions
    (loop : items.foldlM (Table.enter assertionEntry (·.contentHash) refusal) .empty = .ok unique) :
    (unique.rows.map Prod.snd).Nodup := by
  refine List.Nodup.of_map TenantAssertionRef.assertionId ?_
  rw [Table.map_values]
  · exact unique.nodup
  · intro k held found
    obtain before | ⟨a, -, entered⟩ := Table.find_of_enterAll loop found
    · simp at before
    · obtain ⟨rfl, rfl⟩ := Prod.mk.inj (Option.some.inj entered)
      rfl

theorem canonicalAssertionRefs_congr {others : List TenantAssertionRef}
    (same : ∀ item, item ∈ items ↔ item ∈ others) (h : canonicalAssertionRefs items = .ok refs) :
    canonicalAssertionRefs others = .ok refs := by
  unfold canonicalAssertionRefs at h ⊢
  obtain ⟨unique, loop, h⟩ := bind_eq_ok.mp h
  obtain rfl := Except.ok.inj h
  obtain ⟨unique', loop'⟩ :=
    Table.enterAll_iff.mpr ((Agree.congr _ _ same).mp (Table.enterAll_iff.mp ⟨unique, loop⟩))
  refine bind_eq_ok.mpr ⟨unique', loop', congrArg Except.ok ?_⟩
  refine sortedOn_congr ?_ (nodup_values_assertions loop') (nodup_values_assertions loop)
    fun item => ?_
  · rintro ⟨id, hash⟩ ⟨id', hash'⟩ h
    obtain ⟨rfl, rfl⟩ := Prod.mk.inj (toLex_inj.mp h)
    rfl
  · rw [mem_values_assertions loop', mem_values_assertions loop, same]

theorem mem_fromkeys {α : Type} [DecidableEq α] (items : List α) (a : α) :
    a ∈ fromkeys items ↔ a ∈ items := by
  induction items with
  | nil => simp [fromkeys]
  | cons b items ih => grind [fromkeys]

theorem selectIdentityFormingTenantAssertions_congr {items others : List SelectedTenantAssertion}
    {required required' identity identity' : List TenantAssertionRole}
    (same : ∀ item, item ∈ items ↔ item ∈ others)
    (sameRequired : ∀ role, role ∈ required ↔ role ∈ required')
    (sameIdentity : ∀ role, role ∈ identity ↔ role ∈ identity')
    (h : selectIdentityFormingTenantAssertions items required identity = .ok refs) :
    selectIdentityFormingTenantAssertions others required' identity' = .ok refs := by
  have empty : identity = [] ↔ identity' = [] := by
    simp only [List.eq_nil_iff_forall_not_mem, sameIdentity]
  have allowed (role : TenantAssertionRole) :
      role ∈ fromkeys (if identity = [] then required else identity) ↔
        role ∈ fromkeys (if identity' = [] then required' else identity') := by
    rw [mem_fromkeys, mem_fromkeys]
    simp only [empty]
    split
    · exact sameRequired role
    · exact sameIdentity role
  unfold selectIdentityFormingTenantAssertions at h ⊢
  simp only [bind_eq_ok, ensure_eq_ok] at h ⊢
  obtain ⟨u, noRequired, v, noIdentity, w, complete, h⟩ := h
  refine ⟨u, by rwa [← sameRequired], v, by rwa [← sameIdentity], w, ?_, ?_⟩
  · rw [List.filter_eq_nil_iff] at complete ⊢
    simpa [mem_fromkeys, same, sameRequired, allowed] using complete
  · refine canonicalAssertionRefs_congr (fun ref => ?_) h
    simp [same, allowed]

theorem mem_values_sources (items : List SemanticSourceIdentity) (item : SemanticSourceIdentity) :
    item ∈ (uniqueSources items).rows.map Prod.snd ↔ item ∈ items := by
  rw [Table.mem_values]
  constructor
  · rintro ⟨_, found⟩
    exact (Table.keyed_foldl_put found).1
  · intro mem
    have listed : item.dictKey ∈ (uniqueSources items).keys :=
      (Table.mem_keys_foldl_put items Table.empty _).mpr (.inr (List.mem_map_of_mem mem))
    obtain ⟨held, found⟩ := Table.exists_find_of_mem _ listed
    have same := SemanticSourceIdentity.dictKey_injective (Table.keyed_foldl_put found).2
    exact ⟨_, same ▸ found⟩

theorem nodup_values_sources (items : List SemanticSourceIdentity) :
    ((uniqueSources items).rows.map Prod.snd).Nodup := by
  refine List.Nodup.of_map SemanticSourceIdentity.dictKey ?_
  have keyed : ∀ k item, (uniqueSources items).find k = some item → item.dictKey = k :=
    fun _ _ found => (Table.keyed_foldl_put found).2
  rw [Table.map_values keyed]
  exact (uniqueSources items).nodup

theorem canonicalSources_congr {items others : List SemanticSourceIdentity}
    (same : ∀ item, item ∈ items ↔ item ∈ others) :
    canonicalSources items = canonicalSources others :=
  sortedOn_congr SemanticSourceIdentity.key_injective (nodup_values_sources items)
    (nodup_values_sources others) fun item => by simp only [mem_values_sources, same]

/-! ## Windows -/

/-- What `_roles_covered` establishes. -/
structure WindowFields.Covered (fields : WindowFields) : Prop where
  roles : fields.mandatoryEvidenceRoles.Nodup
  sources : fields.sourceSet.Nodup
  assertions : (fields.tenantAssertions.map (·.assertionId)).Nodup
  observations : (fields.selectedPublicObservations.map (·.key)).Nodup
  market : ∀ item ∈ fields.selectedPublicObservations, item.venue = fields.evidenceVenue ∧
    item.marketType = fields.evidenceMarket ∧ item.instrumentId = fields.evidenceInstrument
  complete : ∀ role ∈ fields.mandatoryEvidenceRoles,
    role ∈ fields.selectedPublicObservations.map (·.role)

theorem WindowFields.requireEvidenceMarket_eq_ok {item : SelectedPublicObservation} {u : Unit} :
    fields.requireEvidenceMarket item = .ok u ↔ item.venue = fields.evidenceVenue ∧
      item.marketType = fields.evidenceMarket ∧ item.instrumentId = fields.evidenceInstrument := by
  simp [requireEvidenceMarket]

theorem WindowFields.rolesCovered_eq_ok : fields.rolesCovered = .ok ⟨⟩ ↔ fields.Covered := by
  have complete : fields.missingRoles = [] ↔ ∀ role ∈ fields.mandatoryEvidenceRoles,
      role ∈ fields.selectedPublicObservations.map (·.role) := by
    simp [missingRoles, List.filter_eq_nil_iff]
  unfold rolesCovered
  simp only [bind_eq_ok, ensure_eq_ok, complete]
  constructor
  · rintro ⟨_, roles, _, sources, _, assertions, _, observations, _, market, complete⟩
    exact ⟨roles, sources, assertions, observations,
      fun item mem => requireEvidenceMarket_eq_ok.mp (forM_eq_ok.mp market item mem), complete⟩
  · rintro ⟨roles, sources, assertions, observations, market, complete⟩
    exact ⟨⟨⟩, roles, ⟨⟩, sources, ⟨⟩, assertions, ⟨⟩, observations, ⟨⟩,
      forM_eq_ok.mpr fun item mem => requireEvidenceMarket_eq_ok.mpr (market item mem), complete⟩

theorem of_validate {contentHash : String} {window : CanonicalEvidenceWindowV1}
    (h : CanonicalEvidenceWindowV1.validate fields contentHash = .ok window) :
    window.toWindowFields = fields := by
  unfold CanonicalEvidenceWindowV1.validate at h
  split at h
  · split at h
    · obtain rfl := Except.ok.inj h
      rfl
    · cases h
  · cases h

theorem validate_of (bounded : fields.Bounded) (covered : fields.Covered) (contentHash : String) :
    ∃ window, CanonicalEvidenceWindowV1.validate fields contentHash = .ok window := by
  have passed := WindowFields.rolesCovered_eq_ok.mpr covered
  unfold CanonicalEvidenceWindowV1.validate
  rw [dif_pos bounded]
  split
  · exact ⟨_, rfl⟩
  · rename_i e failed
    exact absurd (passed.symm.trans failed) (by simp)

/-! ### Preimages -/

theorem mandatoryEvidenceRoles_of_preimage_eq
    (same : evidenceWindowPreimage left = evidenceWindowPreimage right) :
    left.mandatoryEvidenceRoles = right.mandatoryEvidenceRoles :=
  List.map_injective_iff.mpr EvidenceRole.value_injective
    (congrArg EvidenceWindowPreimage.mandatoryEvidenceRoles same)

theorem sourceSet_of_preimage_eq
    (same : evidenceWindowPreimage left = evidenceWindowPreimage right) :
    left.sourceSet = right.sourceSet := by
  refine List.map_injective_iff.mpr ?_ (congrArg EvidenceWindowPreimage.sourceSet same)
  rintro ⟨venue, market, family⟩ ⟨venue', market', family'⟩ h
  simp only [Prod.mk.injEq] at h
  rw [marketType_value_injective h.1, sourceFamily_value_injective h.2.1,
    venueId_value_injective h.2.2]

theorem tenantAssertions_of_preimage_eq
    (same : evidenceWindowPreimage left = evidenceWindowPreimage right) :
    left.tenantAssertions = right.tenantAssertions := by
  refine List.map_injective_iff.mpr ?_ (congrArg EvidenceWindowPreimage.tenantAssertions same)
  intro ref ref' h
  obtain ⟨id, hash⟩ := Prod.mk.inj h
  exact TenantAssertionRef.ext id (Subtype.ext hash)

theorem observations_of_preimage_eq
    (same : evidenceWindowPreimage left = evidenceWindowPreimage right) :
    left.selectedPublicObservations.map (·.key) = right.selectedPublicObservations.map (·.key) := by
  have listed (fields : WindowFields) :
      (evidenceWindowPreimage fields).selectedPublicObservationContentHashes =
        (fields.selectedPublicObservations.map (·.key)).map
          fun key => (key.2.val, key.1.value) := by
    rw [List.map_map]
    rfl
  have hashes := congrArg EvidenceWindowPreimage.selectedPublicObservationContentHashes same
  rw [listed, listed] at hashes
  refine List.map_injective_iff.mpr ?_ hashes
  intro key key' h
  obtain ⟨hash, role⟩ := Prod.mk.inj h
  exact Prod.ext (EvidenceRole.value_injective role) (Subtype.ext hash)

/-- The evidence and the policy versions of two windows are the same. -/
structure WindowFields.SameContent (left right : WindowFields) : Prop where
  observations : ∀ key, key ∈ left.selectedPublicObservations.map (·.key) ↔
    key ∈ right.selectedPublicObservations.map (·.key)
  assertions : ∀ ref, ref ∈ left.tenantAssertions ↔ ref ∈ right.tenantAssertions
  interval : left.interval = right.interval
  fusionPolicyVersion : left.fusionPolicyVersion = right.fusionPolicyVersion
  finalityPolicyVersion : left.finalityPolicyVersion = right.finalityPolicyVersion
  freshnessPolicyVersion : left.freshnessPolicyVersion = right.freshnessPolicyVersion
  correctionSelectionPolicy : left.correctionSelectionPolicy = right.correctionSelectionPolicy

theorem sameContent_of_preimage_eq
    (same : evidenceWindowPreimage left = evidenceWindowPreimage right) :
    left.SameContent right where
  observations _ := by rw [observations_of_preimage_eq same]
  assertions _ := by rw [tenantAssertions_of_preimage_eq same]
  interval := HalfOpenInterval.ext (congrArg EvidenceWindowPreimage.intervalStart same)
    (congrArg EvidenceWindowPreimage.intervalEnd same)
  fusionPolicyVersion := congrArg EvidenceWindowPreimage.fusionPolicyVersion same
  finalityPolicyVersion := congrArg EvidenceWindowPreimage.finalityPolicyVersion same
  freshnessPolicyVersion := congrArg EvidenceWindowPreimage.freshnessPolicyVersion same
  correctionSelectionPolicy := congrArg EvidenceWindowPreimage.correctionSelectionPolicy same

theorem bounded_of_preimage_eq (same : evidenceWindowPreimage left = evidenceWindowPreimage right)
    (h : left.Bounded) : right.Bounded := by
  have setup : left.compiledSetupContentHash = right.compiledSetupContentHash :=
    congrArg EvidenceWindowPreimage.compiledSetupContentHash same
  have instrument : left.evidenceInstrument = right.evidenceInstrument :=
    congrArg EvidenceWindowPreimage.evidenceInstrument same
  have content := sameContent_of_preimage_eq same
  exact {
    compiledSetup := setup ▸ h.compiledSetup
    fusionPolicy := content.fusionPolicyVersion ▸ h.fusionPolicy
    finalityPolicy := content.finalityPolicyVersion ▸ h.finalityPolicy
    freshnessPolicy := content.freshnessPolicyVersion ▸ h.freshnessPolicy
    instrument := instrument ▸ h.instrument
    correctionPolicy := content.correctionSelectionPolicy ▸ h.correctionPolicy }

/-- Fields with one preimage and observations of their own market are covered together. -/
theorem covered_of_preimage_eq (same : evidenceWindowPreimage left = evidenceWindowPreimage right)
    (h : left.Covered)
    (market : ∀ item ∈ right.selectedPublicObservations, item.venue = right.evidenceVenue ∧
      item.marketType = right.evidenceMarket ∧ item.instrumentId = right.evidenceInstrument) :
    right.Covered := by
  have keys := observations_of_preimage_eq same
  have roles : left.selectedPublicObservations.map (·.role) =
      right.selectedPublicObservations.map (·.role) := by
    have firsts := congrArg (List.map Prod.fst) keys
    rwa [List.map_map, List.map_map] at firsts
  exact {
    roles := mandatoryEvidenceRoles_of_preimage_eq same ▸ h.roles
    sources := sourceSet_of_preimage_eq same ▸ h.sources
    assertions := tenantAssertions_of_preimage_eq same ▸ h.assertions
    observations := keys ▸ h.observations
    market := market
    complete := roles ▸ mandatoryEvidenceRoles_of_preimage_eq same ▸ h.complete }

/-! ## Builder -/

section Builder

variable {canonicalSha256 : EvidenceWindowPreimage → String} {inputs : WindowInputs}

/-- The normal forms that an input is accepted with. -/
structure WindowInputs.Accepted (inputs : WindowInputs) (timeframe : Timeframe)
    (obs : List SelectedPublicObservation) (refs : List TenantAssertionRef) : Prop where
  known : inputs.evidenceIdentity.timeframe = some timeframe
  checked : ∀ item ∈ inputs.selectedPublicObservations,
    requireObservationMatchesEvidence item.market
    inputs.evidenceIdentity item.role inputs.roleTimeframes = .ok ⟨⟩
  observations : canonicalObservations inputs.selectedPublicObservations = .ok obs
  assertions : selectIdentityFormingTenantAssertions inputs.tenantAssertions
    inputs.requiredAssertionRoles inputs.identityAssertionRoles = .ok refs
  bounded : (inputs.draft timeframe obs refs).Bounded
  covered : (inputs.draft timeframe obs refs).Covered

/-- A window is built from the normal forms of an accepted input, under the hash of its fields. -/
theorem of_build {window : CanonicalEvidenceWindowV1}
    (h : buildCanonicalEvidenceWindowV1 canonicalSha256 inputs = .ok window) :
    ∃ timeframe obs refs, inputs.Accepted timeframe obs refs ∧
      window.toWindowFields = inputs.draft timeframe obs refs ∧
      window.contentHash = hashCanonicalEvidenceWindow canonicalSha256 window.toWindowFields := by
  unfold buildCanonicalEvidenceWindowV1 at h
  split at h
  · cases h
  · rename_i timeframe known
    obtain ⟨_, checked, h⟩ := bind_eq_ok.mp h
    obtain ⟨obs, observations, h⟩ := bind_eq_ok.mp h
    obtain ⟨refs, assertions, h⟩ := bind_eq_ok.mp h
    obtain ⟨draft, validated, h⟩ := bind_eq_ok.mp h
    obtain rfl := Except.ok.inj h
    have fields := of_validate validated
    refine ⟨timeframe, obs, refs, ?_, fields, rfl⟩
    exact {
      known := known
      checked := forM_eq_ok.mp checked
      observations := observations
      assertions := assertions
      bounded := fields ▸ draft.bounded
      covered := fields ▸ WindowFields.rolesCovered_eq_ok.mp draft.covered }

theorem build_of_accepted (canonicalSha256 : EvidenceWindowPreimage → String)
    {timeframe : Timeframe} {obs : List SelectedPublicObservation}
    {refs : List TenantAssertionRef} (accepted : inputs.Accepted timeframe obs refs) :
    ∃ window, buildCanonicalEvidenceWindowV1 canonicalSha256 inputs = .ok window ∧
      window.contentHash =
        hashCanonicalEvidenceWindow canonicalSha256 (inputs.draft timeframe obs refs) := by
  obtain ⟨draft, validated⟩ :=
    validate_of accepted.bounded accepted.covered ("".pushn '0' 64)
  refine ⟨{ draft with contentHash :=
    hashCanonicalEvidenceWindow canonicalSha256 draft.toWindowFields }, ?_, ?_⟩
  · unfold buildCanonicalEvidenceWindowV1
    rw [accepted.known]
    dsimp only
    rw [forM_eq_ok.mpr accepted.checked, ok_bind, accepted.observations, ok_bind,
      accepted.assertions, ok_bind, validated]
    rfl
  · exact congrArg (hashCanonicalEvidenceWindow canonicalSha256) (of_validate validated)

end Builder

/-- Two inputs that differ at most in the order and the repetition of their collections' members
and in their transport fields. -/
structure WindowInputs.SameEvidence (left right : WindowInputs) : Prop where
  rest : right = { left with
    mandatoryEvidenceRoles := right.mandatoryEvidenceRoles
    selectedPublicObservations := right.selectedPublicObservations
    sourceSet := right.sourceSet
    tenantAssertions := right.tenantAssertions
    requiredAssertionRoles := right.requiredAssertionRoles
    identityAssertionRoles := right.identityAssertionRoles
    roleTimeframes := right.roleTimeframes
    transport := right.transport }
  mandatoryEvidenceRoles : ∀ role,
    role ∈ left.mandatoryEvidenceRoles ↔ role ∈ right.mandatoryEvidenceRoles
  selectedPublicObservations : ∀ item,
    item ∈ left.selectedPublicObservations ↔ item ∈ right.selectedPublicObservations
  sourceSet : ∀ item, item ∈ left.sourceSet ↔ item ∈ right.sourceSet
  tenantAssertions : ∀ item, item ∈ left.tenantAssertions ↔ item ∈ right.tenantAssertions
  requiredAssertionRoles : ∀ role,
    role ∈ left.requiredAssertionRoles ↔ role ∈ right.requiredAssertionRoles
  identityAssertionRoles : ∀ role,
    role ∈ left.identityAssertionRoles ↔ role ∈ right.identityAssertionRoles
  roleTimeframes : ∀ binding, binding ∈ left.roleTimeframes ↔ binding ∈ right.roleTimeframes

namespace WindowInputs.SameEvidence

variable {left right : WindowInputs}

theorem symm (same : left.SameEvidence right) : right.SameEvidence left where
  rest := by
    rw [same.rest]
  mandatoryEvidenceRoles role := (same.mandatoryEvidenceRoles role).symm
  selectedPublicObservations item := (same.selectedPublicObservations item).symm
  sourceSet item := (same.sourceSet item).symm
  tenantAssertions item := (same.tenantAssertions item).symm
  requiredAssertionRoles role := (same.requiredAssertionRoles role).symm
  identityAssertionRoles role := (same.identityAssertionRoles role).symm
  roleTimeframes binding := (same.roleTimeframes binding).symm

variable {obs : List SelectedPublicObservation}

/-- The drafts of the two inputs have one preimage. -/
theorem preimage_draft (same : left.SameEvidence right) (timeframe : Timeframe)
    {obs' : List SelectedPublicObservation} (keys : obs'.map (·.key) = obs.map (·.key))
    (refs : List TenantAssertionRef) :
    evidenceWindowPreimage (left.draft timeframe obs refs) =
      evidenceWindowPreimage (right.draft timeframe obs' refs) := by
  rw [same.rest]
  unfold evidenceWindowPreimage WindowInputs.draft
  have hashes : obs.map (fun item => (item.contentHash.val, item.role.value)) =
      obs'.map fun item => (item.contentHash.val, item.role.value) := by
    have swapped := congrArg (List.map fun k => (k.2.val, k.1.value)) keys.symm
    rwa [List.map_map, List.map_map] at swapped
  simp only [hashes, uniqueSortedRoles_congr same.mandatoryEvidenceRoles,
    canonicalSources_congr same.sourceSet]

variable (canonicalSha256 : EvidenceWindowPreimage → String)

theorem accepted (same : left.SameEvidence right) {timeframe : Timeframe}
    {refs : List TenantAssertionRef} (h : left.Accepted timeframe obs refs) :
    ∃ obs', right.Accepted timeframe obs' refs ∧
      evidenceWindowPreimage (left.draft timeframe obs refs) =
        evidenceWindowPreimage (right.draft timeframe obs' refs) := by
  have identity : right.evidenceIdentity = left.evidenceIdentity := by
    rw [same.rest]
  obtain ⟨obs', observations, keys⟩ :=
    canonicalObservations_congr same.selectedPublicObservations h.observations
  have preimage := same.preimage_draft timeframe keys refs
  have checked : ∀ item ∈ right.selectedPublicObservations,
      requireObservationMatchesEvidence item.market right.evidenceIdentity item.role
        right.roleTimeframes = .ok ⟨⟩ := by
    intro item mem
    rw [identity]
    exact requireObservationMatchesEvidence_congr same.roleTimeframes
      (h.checked item ((same.selectedPublicObservations item).mpr mem))
  refine ⟨obs', ?_, preimage⟩
  exact {
    known := identity ▸ h.known
    checked := checked
    observations := observations
    assertions := selectIdentityFormingTenantAssertions_congr same.tenantAssertions
      same.requiredAssertionRoles same.identityAssertionRoles h.assertions
    bounded := bounded_of_preimage_eq preimage h.bounded
    covered := covered_of_preimage_eq preimage h.covered fun item mem =>
      market_of_requireObservationMatchesEvidence
        (checked item (mem_of_canonicalObservations observations item mem)) }

/-- An accepted input's hash is that of every input with its evidence. -/
theorem build (same : left.SameEvidence right) {window : CanonicalEvidenceWindowV1}
    (h : buildCanonicalEvidenceWindowV1 canonicalSha256 left = .ok window) :
    ∃ window', buildCanonicalEvidenceWindowV1 canonicalSha256 right = .ok window' ∧
      window'.contentHash = window.contentHash := by
  obtain ⟨timeframe, obs, refs, accepted, fields, hash⟩ := of_build h
  obtain ⟨obs', accepted', preimage⟩ := same.accepted accepted
  obtain ⟨window', built, hash'⟩ := build_of_accepted canonicalSha256 accepted'
  refine ⟨window', built, ?_⟩
  rw [hash', hash, fields, hashCanonicalEvidenceWindow, hashCanonicalEvidenceWindow, preimage]

end WindowInputs.SameEvidence

def SameOutcome (left right : Except FusionError CanonicalEvidenceWindowV1) : Prop :=
  left.toOption.map (·.contentHash) = right.toOption.map (·.contentHash)

/-- The order and the repetition of the evidence and the transport fields change neither whether
a window is accepted nor its hash, and accepted windows of different evidence or policy versions
have different preimages. -/
theorem window_hash_identifies_evidence (canonicalSha256 : EvidenceWindowPreimage → String) :
    (∀ left right : WindowInputs, left.SameEvidence right →
      SameOutcome (buildCanonicalEvidenceWindowV1 canonicalSha256 left)
        (buildCanonicalEvidenceWindowV1 canonicalSha256 right)) ∧
    ∀ (left right : WindowInputs) (leftWindow rightWindow : CanonicalEvidenceWindowV1),
      buildCanonicalEvidenceWindowV1 canonicalSha256 left = .ok leftWindow →
      buildCanonicalEvidenceWindowV1 canonicalSha256 right = .ok rightWindow →
      ¬leftWindow.SameContent rightWindow.toWindowFields →
      evidenceWindowPreimage leftWindow.toWindowFields ≠
        evidenceWindowPreimage rightWindow.toWindowFields := by
  refine ⟨fun left right same => ?_, fun left right leftWindow rightWindow _ _ differ equal =>
    differ (sameContent_of_preimage_eq equal)⟩
  unfold SameOutcome
  cases hl : buildCanonicalEvidenceWindowV1 canonicalSha256 left with
  | ok window =>
    obtain ⟨window', built, hash⟩ := same.build canonicalSha256 hl
    rw [built]
    exact congrArg some hash.symm
  | error _ =>
    cases hr : buildCanonicalEvidenceWindowV1 canonicalSha256 right with
    | error _ => rfl
    | ok window =>
      obtain ⟨window', built, -⟩ := same.symm.build canonicalSha256 hr
      rw [hl] at built
      cases built

/-! ### A window of the sample market -/

theorem sampleHash_isSha256Hex : IsSha256Hex ("".pushn '0' 64) := by decide

def sampleHash : Sha256Hex := ⟨"".pushn '0' 64, sampleHash_isSha256Hex⟩

def sampleSelected (role : EvidenceRole) : SelectedPublicObservation where
  role := role
  contentHash := sampleHash
  finality := .final
  venue := sampleIdentity.venue
  marketType := sampleIdentity.marketType
  instrumentId := sampleIdentity.instrument.instrumentId
  timeframe := none
  observationId := none
  executableFinality := rfl

def sampleInterval : HalfOpenInterval := ⟨0, 1, Int.one_pos⟩

def sampleInputs (fusionPolicyVersion : String) (roles : List EvidenceRole) : WindowInputs where
  organizationId := 1
  strategyVersionId := 2
  compiledSetupDefinitionId := 3
  compiledSetupContentHash := sampleHash.val
  fusionPolicyVersion := fusionPolicyVersion
  finalityPolicyVersion := "finality/v1"
  freshnessPolicyVersion := "freshness/v1"
  direction := .short
  evidenceIdentity := { sampleIdentity with timeframe := some .m15 }
  interval := sampleInterval
  trigger := ⟨"trigger", 1⟩
  mandatoryEvidenceRoles := roles
  selectedPublicObservations := roles.map sampleSelected
  sourceSet := []
  tenantAssertions := []
  requiredAssertionRoles := []
  identityAssertionRoles := []
  roleTimeframes := []
  manualLevelRevision := none
  correctionSelectionPolicy := "selected-final-revision/v1"
  transport := ⟨none, none, none, none, none, [], none⟩

theorem sampleInputs_accepted (fusionPolicyVersion : String)
    (version : IsPolicyVersion fusionPolicyVersion) :
    (sampleInputs fusionPolicyVersion [.triggerOhlcv]).Accepted .m15
      [sampleSelected .triggerOhlcv] [] where
  known := rfl
  checked := List.forall_mem_singleton.mpr rfl
  observations := rfl
  assertions := rfl
  bounded := {
    compiledSetup := sampleHash.property
    fusionPolicy := version
    finalityPolicy := (by decide : IsPolicyVersion "finality/v1")
    freshnessPolicy := (by decide : IsPolicyVersion "freshness/v1")
    instrument := 
      (by decide : 8 ≤ "BINANCE:BTCUSDT".length ∧ "BINANCE:BTCUSDT".length ≤ 80)
    correctionPolicy := (by decide : IsPolicyVersion "selected-final-revision/v1") }
  covered := WindowFields.rolesCovered_eq_ok.mp rfl

theorem sampleInputs_sameEvidence :
    (sampleInputs "fusion/v1" [.triggerOhlcv, .signedFlow]).SameEvidence
      (sampleInputs "fusion/v1" [.signedFlow, .triggerOhlcv, .signedFlow]) where
  rest := rfl
  mandatoryEvidenceRoles role := by grind [sampleInputs]
  selectedPublicObservations item := by grind [sampleInputs]
  sourceSet _ := .rfl
  tenantAssertions _ := .rfl
  requiredAssertionRoles _ := .rfl
  identityAssertionRoles _ := .rfl
  roleTimeframes _ := .rfl

theorem reordered_roles_have_one_hash :
    SameOutcome
      (buildCanonicalEvidenceWindowV1 (·.fusionPolicyVersion)
        (sampleInputs "fusion/v1" [.triggerOhlcv, .signedFlow]))
      (buildCanonicalEvidenceWindowV1 (·.fusionPolicyVersion)
        (sampleInputs "fusion/v1" [.signedFlow, .triggerOhlcv, .signedFlow])) ∧
    ∃ first second : CanonicalEvidenceWindowV1,
      buildCanonicalEvidenceWindowV1 (·.fusionPolicyVersion)
        (sampleInputs "fusion/v1" [.triggerOhlcv]) = .ok first ∧
      buildCanonicalEvidenceWindowV1 (·.fusionPolicyVersion)
        (sampleInputs "fusion/v2" [.triggerOhlcv]) = .ok second ∧
      evidenceWindowPreimage first.toWindowFields ≠
        evidenceWindowPreimage second.toWindowFields := by
  refine ⟨(window_hash_identifies_evidence _).1 _ _ sampleInputs_sameEvidence, ?_⟩
  obtain ⟨first, built, -⟩ := build_of_accepted (·.fusionPolicyVersion)
    (sampleInputs_accepted "fusion/v1" (by decide))
  obtain ⟨second, built', -⟩ := build_of_accepted (·.fusionPolicyVersion)
    (sampleInputs_accepted "fusion/v2" (by decide))
  refine ⟨first, second, built, built', ?_⟩
  refine (window_hash_identifies_evidence _).2 _ _ first second built built' fun same => ?_
  obtain ⟨_, _, _, _, fields, -⟩ := of_build built
  obtain ⟨_, _, _, _, fields', -⟩ := of_build built'
  have versions := same.fusionPolicyVersion
  rw [fields, fields'] at versions
  have differ : "fusion/v1" ≠ "fusion/v2" := by decide
  exact differ versions

end AlphaTrade.Fusion
