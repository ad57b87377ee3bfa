import AlphaTrade.Library.Ordered
import AlphaTrade.Market.AggTrades

/-!
# The stream and the collection

Both walk the same pages. A row that the stream lets pass is one that the proof keeps or
finds repeated, so where the stream ends the proof returns what was yielded.
-/
namespace AlphaTrade.Market
open Library
open Execution (Instant)

variable {builtins : PyBuiltins}

/-! ## Rows of a page -/

variable {rows : List PyDict} {signature : RowSignature} {stream : RowStream} {row : PyDict}

theorem sortRows_ids {sorted : List PyDict} (h : sortRows builtins rows = .ok sorted) :
    ∀ row ∈ sorted, ∃ aggId, rowId builtins row = .ok aggId := by
  obtain ⟨keyed, read, h⟩ := bind_eq_ok.mp h
  obtain rfl := Except.ok.inj h
  have readable : ∀ pair ∈ keyed, rowId builtins pair.2 = .ok pair.1 :=
    mapM_forall (fun row pair read => by obtain ⟨aggId, own, rfl⟩ := map_eq_ok.mp read; exact own)
      read
  intro row listed
  obtain ⟨pair, member, rfl⟩ := List.mem_map.mp listed
  exact ⟨pair.1, readable pair ((List.perm_insertionSort _ keyed).mem_iff.mp member)⟩

/-! ## Two walks over the same pages -/

section Simulation

variable {getJson : JsonGetter} {symbol : String} {overallLastMs : Int} {σ τ : Type}
  {visit : σ → Int → PyDict → Except MarketError σ}
  {visit' : τ → Int → PyDict → Except MarketError τ} {R : σ → τ → Prop}

variable (builtins R visit visit') in
/-- Every row that the second visit accepts is accepted by the first, and the states stay
related. -/
def Follows : Prop :=
  ∀ s t row aggId eventMs t', R s t → rowId builtins row = .ok aggId →
    rowEventMs builtins row = .ok eventMs → visit' t eventMs row = .ok t' →
    ∃ s', visit s eventMs row = .ok s' ∧ R s' t'

variable {chunk : Int × Int} {fromId : Option Int} {s : σ}

theorem Follows.scanRows (follows : Follows builtins visit visit' R) {rows : List PyDict}
    (readable : ∀ row ∈ rows, ∃ aggId, rowId builtins row = .ok aggId) {crossed ends : Bool}
    {t t' : τ} (related : R s t)
    (h : scanRows builtins overallLastMs visit' chunk fromId rows crossed t = .ok (ends, t')) :
    ∃ s', scanRows builtins overallLastMs visit chunk fromId rows crossed s = .ok (ends, s') ∧
      R s' t' := by
  induction rows generalizing crossed s t with
  | nil =>
    obtain ⟨rfl, rfl⟩ := Prod.mk.inj (Except.ok.inj h)
    exact ⟨s, rfl, related⟩
  | cons row rows ih =>
    have rest := fun later listed => readable later (List.mem_cons_of_mem row listed)
    obtain ⟨aggId, own⟩ := readable row (List.mem_cons_self ..)
    unfold Market.scanRows at h ⊢
    obtain ⟨eventMs, read, h⟩ := bind_eq_ok.mp h
    rw [read, ok_bind]
    split at h
    · rename_i behind
      rw [if_pos behind]
      exact ih rest related h
    rename_i within
    rw [if_neg within]
    split at h
    · rename_i behind
      rw [if_pos behind]
      exact ih rest related h
    rename_i inside
    rw [if_neg inside]
    split at h
    · rename_i before
      rw [if_pos before]
      exact ih rest related h
    rename_i reached
    rw [if_neg reached]
    obtain ⟨next, visited, h⟩ := bind_eq_ok.mp h
    obtain ⟨s', followed, related'⟩ := follows s t row aggId eventMs next related own read visited
    rw [followed, ok_bind]
    exact ih rest related' h

theorem Follows.drain (follows : Follows builtins visit visit' R) {pages : Nat} {t t' : τ}
    (related : R s t)
    (h : drain builtins getJson symbol overallLastMs visit' chunk pages fromId t = .ok t') :
    ∃ s', drain builtins getJson symbol overallLastMs visit chunk pages fromId s = .ok s' ∧
      R s' t' := by
  induction pages generalizing fromId s t with
  | zero => cases h
  | succ pages ih =>
    unfold Market.drain at h ⊢
    obtain ⟨rows, received, h⟩ := bind_eq_ok.mp h
    obtain ⟨pageRows, sorted, h⟩ := bind_eq_ok.mp h
    rw [received, ok_bind, sorted, ok_bind]
    cases last : pageRows.getLast? with
    | none =>
      rw [last] at h
      obtain rfl := Except.ok.inj h
      exact ⟨s, rfl, related⟩
    | some row =>
      simp only [last] at h ⊢
      obtain ⟨⟨crossed, next⟩, scanned, h⟩ := bind_eq_ok.mp h
      obtain ⟨s', followed, related'⟩ :=
        follows.scanRows (sortRows_ids sorted) related scanned
      rw [followed, ok_bind]
      dsimp only at h ⊢
      split at h
      · rename_i over'
        obtain rfl := Except.ok.inj h
        exact ⟨s', if_pos over', related'⟩
      · rename_i more
        obtain ⟨aggId, read, h⟩ := bind_eq_ok.mp h
        rw [if_neg more, read, ok_bind]
        exact ih related' h

theorem Follows.walk (follows : Follows builtins visit visit' R) {chunks : List (Int × Int)}
    {t t' : τ} (related : R s t)
    (h : walk builtins getJson symbol overallLastMs visit' chunks t = .ok t') :
    ∃ s', walk builtins getJson symbol overallLastMs visit chunks s = .ok s' ∧ R s' t' := by
  unfold Market.walk at h ⊢
  refine foldlM_simulates (R := R) (fun chunk _ s t t' related drained => ?_) related h
  exact follows.drain related drained

end Simulation

/-! ## What the proof keeps -/

/-- The rows that are kept are those that were yielded, under consecutive ids, and the last
of them has the signature that the stream remembers. -/
structure Indexed (builtins : PyBuiltins) (byId : Table Int PyDict) (stream : RowStream) :
    Prop where
  rows : byId.keys.filterMap byId.find = stream.yielded
  consecutive : Consecutive id byId.keys
  last : byId.keys.getLast? = stream.previous.map (·.1)
  signature : ∀ aggId signature, stream.previous = some (aggId, signature) →
    ∃ row, byId.find aggId = some row ∧ rowSignature builtins row = .ok signature

theorem indexed_empty : Indexed builtins .empty ⟨none, []⟩ where
  rows := rfl
  consecutive := .nil
  last := rfl
  signature := nofun

/-- Rows of one signature are no conflict. -/
theorem dedupeRow_of_signature {existing incoming : PyDict}
    (first : rowSignature builtins existing = .ok signature)
    (second : rowSignature builtins incoming = .ok signature) (aggId : Int) :
    dedupeRow builtins existing incoming aggId = .ok () := by
  unfold rowSignature at first second
  cases flag : existing.get "m" <;> simp only [flag] at first <;> try cases first
  cases flag' : incoming.get "m" <;> simp only [flag'] at second <;> try cases second
  obtain ⟨before, read, first⟩ := bind_eq_ok.mp first
  obtain ⟨after, read', second⟩ := bind_eq_ok.mp second
  obtain rfl := Except.ok.inj first
  obtain ⟨price, quantity, time, maker⟩ :
      builtins.str (incoming.get "p") = builtins.str (existing.get "p") ∧
        builtins.str (incoming.get "q") = builtins.str (existing.get "q") ∧ after = before ∧
          _ = _ := by
    simpa using Except.ok.inj second
  subst time maker
  unfold dedupeRow
  rw [read, ok_bind, read', ok_bind]
  exact ensure_of ⟨price.symm, quantity.symm, rfl, by rw [flag, flag', builtins.eq_bool],
    by rw [flag, flag']; rfl⟩

variable {byId : Table Int PyDict}

/-- A row under an id that is not kept joins the rows. -/
theorem Indexed.put (indexed : Indexed builtins byId stream) {aggId : Int}
    (next : ∀ last ∈ byId.keys.getLast?, aggId = last + 1)
    (signed : rowSignature builtins row = .ok signature) :
    byId.find aggId = none ∧ Indexed builtins (byId.put aggId row)
      ⟨some (aggId, signature), stream.yielded ++ [row]⟩ := by
  have unlisted : aggId ∉ byId.keys := by
    intro listed
    cases last : byId.keys.getLast? with
    | none =>
      rw [List.getLast?_eq_none_iff.mp last] at listed
      cases listed
    | some largest =>
      have below := indexed.consecutive.le_last last aggId listed
      have above := next largest last
      simp only [id] at below
      omega
  have absent : byId.find aggId = none := by
    cases found : byId.find aggId with
    | none => rfl
    | some kept => exact absurd (byId.mem_keys_of_find found) unlisted
  have keys : (byId.put aggId row).keys = byId.keys ++ [aggId] := by simp [Table.put, absent]
  refine ⟨absent, ?_, ?_, ?_, ?_⟩
  · have same : ∀ k ∈ byId.keys, (byId.put aggId row).find k = byId.find k := by
      intro k listed
      have other : k ≠ aggId := fun same => unlisted (same ▸ listed)
      exact byId.find_put_of_ne other row
    rw [keys, List.filterMap_append, List.filterMap_congr same, indexed.rows]
    simp
  · rw [keys]
    exact indexed.consecutive.concat next
  · rw [keys]
    simp
  · rintro _ _ ⟨⟩
    exact ⟨row, byId.find_put_self aggId row, signed⟩

/-- What the stream lets pass, the proof keeps or finds repeated. -/
theorem Indexed.passed {stream' : RowStream} (indexed : Indexed builtins byId stream)
    {startMs lastMs aggId eventMs : Int} (own : rowId builtins row = .ok aggId)
    (read : rowEventMs builtins row = .ok eventMs)
    (h : admitRow builtins startMs lastMs stream eventMs row = .ok stream') :
    ∃ byId', indexRow builtins startMs lastMs byId row = .ok byId' ∧
      Indexed builtins byId' stream' := by
  unfold admitRow at h
  unfold indexRow
  rw [own, ok_bind, read, ok_bind]
  split at h
  · rename_i outside
    obtain rfl := Except.ok.inj h
    exact ⟨byId, if_pos outside, indexed⟩
  rename_i inside
  rw [if_neg inside]
  rw [own, ok_bind] at h
  obtain ⟨signature, signed, h⟩ := bind_eq_ok.mp h
  dsimp only at h
  cases previous : stream.previous with
  | none =>
    rw [previous] at h
    obtain rfl := Except.ok.inj h
    have none : byId.keys.getLast? = none := by rw [indexed.last, previous]; rfl
    obtain ⟨absent, joined⟩ := indexed.put (fun last ends => by simp [none] at ends) signed
    exact ⟨byId.put aggId row, by rw [absent]; rfl, joined⟩
  | some pair =>
    obtain ⟨previousId, previousSignature⟩ := pair
    simp only [previous] at h
    split at h
    · rename_i same
      subst same
      split at h
      · cases h
      rename_i alike
      obtain rfl := not_not.mp alike
      obtain rfl := Except.ok.inj h
      obtain ⟨prior, kept, priorSigned⟩ := indexed.signature _ _ previous
      refine ⟨byId, ?_, indexed⟩
      rw [kept]
      dsimp only
      rw [dedupeRow_of_signature priorSigned signed]
      rfl
    · split at h
      · cases h
      rename_i follows
      obtain rfl := Except.ok.inj h
      have last : byId.keys.getLast? = some previousId := by rw [indexed.last, previous]; rfl
      obtain ⟨absent, joined⟩ := indexed.put (fun largest ends => by
        rw [last] at ends
        obtain rfl := Option.some.inj ends
        exact not_not.mp follows) signed
      exact ⟨byId.put aggId row, by rw [absent]; rfl, joined⟩

theorem contiguousFrom_of_consecutive {first : Int} {rest : List Int}
    (consecutive : Consecutive id (first :: rest)) : contiguousFrom first rest = .ok () := by
  induction rest generalizing first with
  | nil => rfl
  | cons next rest ih =>
    obtain ⟨follows, later⟩ := List.isChain_cons_cons.mp consecutive
    simp only [id] at follows
    unfold contiguousFrom
    rw [if_neg (by omega), if_neg (by simpa using follows)]
    exact ih later

theorem requireContiguousSequences_of_consecutive {ids : List Int}
    (consecutive : Consecutive id ids) : requireContiguousSequences ids = .ok () := by
  cases ids with
  | nil => rfl
  | cons first rest => exact contiguousFrom_of_consecutive consecutive

/-- The proof of rows that were kept returns what was yielded. -/
theorem Indexed.proved (indexed : Indexed builtins byId stream) {start stop : Instant}
    {startMs lastMs : Int} (window : inclusiveMsWindow start stop = .ok (startMs, lastMs))
    (kept : rows.foldlM (indexRow builtins startMs lastMs) .empty = .ok byId) :
    proveAggtradeCoverage builtins rows start stop = .ok stream.yielded := by
  have sorted : byId.keys.insertionSort (· ≤ ·) = byId.keys :=
    List.Pairwise.insertionSort_eq indexed.consecutive.ordered
  unfold proveAggtradeCoverage
  rw [window, ok_bind]
  dsimp only
  rw [kept, ok_bind, sorted, requireContiguousSequences_of_consecutive indexed.consecutive,
    ← indexed.rows]
  rfl

/-- Where the stream ends, the collection of the same responses is what was yielded. -/
theorem fetch_of_stream {getJson : JsonGetter} {symbol : String} {start stop : Instant}
    (h : iterContiguousAggTradeRows builtins getJson symbol start stop = .ok rows) :
    fetchCompleteAggTradeRows builtins getJson symbol start stop = .ok rows := by
  obtain ⟨⟨startMs, lastMs⟩, window, h⟩ := bind_eq_ok.mp h
  obtain ⟨chunks, cut, h⟩ := bind_eq_ok.mp h
  obtain ⟨stream, walked, h⟩ := bind_eq_ok.mp h
  obtain rfl := Except.ok.inj h
  let Kept (collected : List PyDict) (stream : RowStream) : Prop :=
    ∃ byId, collected.foldlM (indexRow builtins startMs lastMs) .empty = .ok byId ∧
      Indexed builtins byId stream
  have follows : Follows builtins (fun collected _ row => .ok (collected ++ [row]))
      (admitRow builtins startMs lastMs) Kept := by
    rintro collected stream row aggId eventMs stream' ⟨byId, kept, indexed⟩ own read admitted
    obtain ⟨byId', step, indexed'⟩ := indexed.passed own read admitted
    refine ⟨_, rfl, byId', ?_, indexed'⟩
    rw [List.foldlM_append, kept, ok_bind, List.foldlM_cons, step]
    rfl
  have empty : Kept [] ⟨none, []⟩ := ⟨.empty, rfl, indexed_empty⟩
  obtain ⟨collected, gathered, byId, kept, indexed⟩ := follows.walk empty walked
  unfold fetchCompleteAggTradeRows
  rw [cut, ok_bind, window, ok_bind]
  dsimp only
  rw [gathered, ok_bind]
  exact indexed.proved window kept

end AlphaTrade.Market
