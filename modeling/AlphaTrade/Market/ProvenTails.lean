import AlphaTrade.Market.RecentTape

/-!
# What a lineage has proven

A proven tail ends in the print that the lineage goes on from. Up to the time of that print it has
every print of its claim, those of the same millisecond apart that came late: the source has
numbered them behind the end of the tail, so numbers in a row never reach a later print without
them. This holds of every lineage in front of every call, as long as its last print is still among
those the venue answers.
-/
namespace AlphaTrade.Market
open Library
open Execution (Instant)

variable {runtime : PyRuntime} {tape : PrintTape runtime} {m n base place : Nat}
  {history : List Print} {ranks : Ranks String} {proof : LineageProof} {anchor p : Print}

/-! ## Trimming -/

theorem dropOld_suffix (cutoffMs : Int) (prints : List Print) :
    dropOld cutoffMs prints <:+ prints := by
  fun_induction dropOld cutoffMs prints with
  | case1 first next rest old ih => exact ih.trans (List.suffix_cons ..)
  | case2 => exact List.suffix_rfl
  | case3 => exact List.suffix_rfl

theorem dropOld_ne_nil {cutoffMs : Int} {prints : List Print} (some : prints ≠ []) :
    dropOld cutoffMs prints ≠ [] := by
  fun_induction dropOld cutoffMs prints with
  | case1 first next rest old ih => exact ih (by simp)
  | case2 => exact some
  | case3 => exact some

/-- A trim takes prints off the front and raises the bound above them. -/
theorem trimProvenPrefix_cases {limit : Nat} {fromMs : Int} (positive : 0 < limit)
    (ordered : Ordered Print.timeMs proof.proven) (bounded : proof.provenFromMs = some fromMs)
    (inside : ∀ p ∈ proof.proven, fromMs ≤ p.timeMs + 1) :
    proof.trimProvenPrefix limit = proof ∨
      ∃ dropped kept laterMs, proof.proven = dropped ++ kept ∧ kept ≠ [] ∧
        proof.trimProvenPrefix limit =
          { proof with proven := kept, provenFromMs := some laterMs } ∧
        fromMs ≤ laterMs ∧ (∀ p ∈ dropped, p.timeMs < laterMs) ∧
        ∀ p ∈ kept, laterMs ≤ p.timeMs + 1 := by
  unfold LineageProof.trimProvenPrefix
  split
  · exact .inl rfl
  rename_i newest last
  dsimp only
  set cutoff := newest.timeMs - provenTailRetentionMs
  have nonempty : proof.proven ≠ [] := by
    rintro empty
    simp [empty] at last
  have suffix : dropOld cutoff (proof.proven.drop (proof.proven.length - limit)) <:+
      proof.proven := (dropOld_suffix ..).trans (List.drop_suffix ..)
  have stays : dropOld cutoff (proof.proven.drop (proof.proven.length - limit)) ≠ [] := by
    refine dropOld_ne_nil ?_
    have := List.length_pos_iff.mpr nonempty
    simp only [ne_eq, List.drop_eq_nil_iff]
    omega
  set kept := dropOld cutoff (proof.proven.drop (proof.proven.length - limit))
  obtain ⟨dropped, split⟩ := suffix
  have front : proof.proven.take (proof.proven.length - kept.length) = dropped := by
    rw [← split]
    simp
  rw [front]
  split
  · rename_i before first ends starts
    refine .inr ⟨dropped, kept, _, split.symm, stays, rfl, ?_⟩
    obtain ⟨earlier, rfl⟩ := List.getLast?_eq_some_iff.mp ends
    obtain ⟨rest, isKept⟩ := List.head?_eq_some_iff.mp starts
    rw [← split, isKept] at ordered inside
    obtain ⟨front, back, across⟩ := List.pairwise_append.mp ordered
    have step : before.timeMs ≤ first.timeMs := across before (by simp) first (by simp)
    have early : ∀ p ∈ earlier ++ [before], p.timeMs ≤ before.timeMs := by
      intro p listed
      rcases List.mem_append.mp listed with old | same
      · exact (List.pairwise_append.mp front).2.2 p old before (by simp)
      · rw [List.mem_singleton.mp same]
    have late : ∀ p ∈ kept, first.timeMs ≤ p.timeMs := by
      intro p listed
      rw [isKept] at listed
      rcases List.mem_cons.mp listed with rfl | listed
      · exact le_rfl
      · exact (List.pairwise_cons.mp back).1 p listed
    have floor := inside before (by simp)
    have bound : fromMs ≤ if before.timeMs = first.timeMs then first.timeMs + 1
        else first.timeMs := by
      split <;> omega
    rw [bounded]
    set firstMs := if before.timeMs = first.timeMs then first.timeMs + 1 else first.timeMs
      with isFirst
    have raised : max (if fromMs = 0 then firstMs else fromMs) firstMs = firstMs := by
      split <;> omega
    simp only [raised]
    refine ⟨bound, fun p listed => ?_, fun p listed => ?_⟩
    · have := early p listed
      rw [isFirst]
      split <;> omega
    · have := late p listed
      rw [isFirst]
      split <;> omega
  · exact .inl rfl

/-! ## Tails -/

def Alive (tape : PrintTape runtime) (moment : Nat) (anchor : Print) : Prop :=
  anchor ∈ newest recentTradeLimit (tape.held moment)

/-- A proven tail, its bounds and the place of its last print among the sightings. -/
structure Tail (tape : PrintTape runtime) (moment base : Nat) (history : List Print)
    (ranks : Ranks String) (proof : LineageProof) (fromMs oldestMs : Int) (anchor : Print)
    (place : Nat) : Prop where
  last : proof.proven.getLast? = some anchor
  anchored : proof.anchorExecId = some anchor.execId
  bounded : proof.provenFromMs = some fromMs
  oldest : proof.initialOldestMs = some oldestMs
  oldest_le : oldestMs ≤ fromMs
  held : ∀ p ∈ proof.proven, p ∈ tape.held moment
  inside : ∀ p ∈ proof.proven, fromMs ≤ p.timeMs + 1
  rising : proof.proven.Pairwise fun left right =>
    stamp Print.timeMs Print.execId left < stamp Print.timeMs Print.execId right
  row : ∃ first, InRow Print.execId ranks proof.proven first
  numbered : ranks.rank anchor.execId = some (base + place)
  placed : history[place]? = some anchor
  whole : Alive tape moment anchor → ∀ p ∈ tape.held moment, fromMs ≤ p.timeMs →
    oldestMs < p.timeMs → p.timeMs ≤ anchor.timeMs →
    p ∈ proof.proven ∨ Late Print.timeMs tape.prints history place anchor p

namespace Tail

variable {fromMs oldestMs : Int}

theorem anchor_proven (tail : Tail tape m base history ranks proof fromMs oldestMs anchor place) :
    anchor ∈ proof.proven := List.mem_of_getLast? tail.last

theorem ordered (tail : Tail tape m base history ranks proof fromMs oldestMs anchor place) :
    Ordered Print.timeMs proof.proven :=
  tail.rising.imp fun before => time_le_of_stamp_le before.le

/-- A tail stays one when its front is trimmed. -/
theorem trim (tail : Tail tape m base history ranks proof fromMs oldestMs anchor place)
    {limit : Nat} (positive : 0 < limit) :
    ∃ laterMs, fromMs ≤ laterMs ∧ Tail tape m base history ranks
        (proof.trimProvenPrefix limit) laterMs oldestMs anchor place ∧
      (∀ p ∈ proof.proven, laterMs ≤ p.timeMs → p ∈ (proof.trimProvenPrefix limit).proven) ∧
      ∀ p ∈ (proof.trimProvenPrefix limit).proven, p ∈ proof.proven := by
  rcases trimProvenPrefix_cases positive tail.ordered tail.bounded tail.inside with
    same | ⟨dropped, kept, laterMs, split, stays, trimmed, raised, early, late⟩
  · rw [same]
    exact ⟨fromMs, le_rfl, tail, fun _ listed _ => listed, fun _ listed => listed⟩
  · have sub : kept.Sublist proof.proven := by
      rw [split]
      exact List.sublist_append_right ..
    have stays_in : ∀ p ∈ proof.proven, laterMs ≤ p.timeMs → p ∈ kept := by
      intro p proven bounded
      rw [split, List.mem_append] at proven
      exact proven.resolve_left fun gone => absurd (early p gone) (not_lt.mpr bounded)
    refine ⟨laterMs, raised, ?_, by rwa [trimmed], by rw [trimmed]; exact fun _ is => sub.subset is⟩
    rw [trimmed]
    exact {
      tail with
      last := by
        have := tail.last
        rwa [split, List.getLast?_append_of_ne_nil _ stays] at this
      bounded := rfl
      oldest_le := tail.oldest_le.trans raised
      held := fun p listed => tail.held p (sub.subset listed)
      inside := late
      rising := tail.rising.sublist sub
      row := by
        obtain ⟨first, row⟩ := tail.row
        refine ⟨first + dropped.length, ?_⟩
        have := row.drop dropped.length
        rwa [split, List.drop_left] at this
      whole := fun alive p arrived bounded aged level => by
        rcases tail.whole alive p arrived (raised.trans bounded) aged level with proven | late
        · exact .inl (stays_in p proven bounded)
        · exact .inr late }

/-- Prints arrive: those no later than the end of the tail are late. -/
theorem later (tail : Tail tape m base history ranks proof fromMs oldestMs anchor place)
    (seen : ∀ p ∈ history, p ∈ tape.held m) (le : m ≤ n) :
    Tail tape n base history ranks proof fromMs oldestMs anchor place := by
  have anchored := tail.held anchor tail.anchor_proven
  refine { tail with
    held := fun p listed => mem_take_mono le (tail.held p listed)
    whole := fun alive p arrived bounded aged level => ?_ }
  by_cases old : p ∈ tape.held m
  · have earlier : Alive tape m anchor :=
      mem_newest_earlier tape.timeline.nodup le anchored alive
    exact tail.whole earlier p old bounded aged level
  · exact .inr (late_of_arrival tape.timeline.ordered seen anchored (List.mem_of_mem_take arrived)
      old level)

/-- Numbers may be forgotten when those of the tail stay. -/
theorem retain (tail : Tail tape m base history ranks proof fromMs oldestMs anchor place)
    {retained : String → Bool} (kept : ∀ p ∈ proof.proven, retained p.execId) :
    Tail tape m base history (ranks.retain retained) proof fromMs oldestMs anchor place where
  __ := tail
  row := by
    obtain ⟨first, row⟩ := tail.row
    refine ⟨first, Eq.trans (List.map_congr_left fun p listed => ?_) row⟩
    simp [Ranks.retain, kept p listed]
  numbered := Ranks.rank_retain.mpr ⟨kept anchor tail.anchor_proven, tail.numbered⟩

end Tail

/-! ## Sightings of a page -/

def freshOf (ranks : Ranks String) (page : List Print) : List Print :=
  page.filter fun p => (ranks.rank p.execId).isNone

section Page
variable {receiveAt : Instant}

theorem mem_held_of_mem_page (seen : p ∈ tape.page n receiveAt) : p ∈ tape.held n :=
  (newest_sublist ..).subset (tape.mem_page.mp seen).1

theorem eq_of_execId {q : Print} (hp : p ∈ tape.held n) (hq : q ∈ tape.held n)
    (same : p.execId = q.execId) : p = q :=
  tape.timeline.eq_of_ident (List.mem_of_mem_take hp) (List.mem_of_mem_take hq) same

variable (tape n receiveAt) in
theorem page_rising : (tape.page n receiveAt).Pairwise fun left right =>
    stamp Print.timeMs Print.execId left < stamp Print.timeMs Print.execId right := by
  rw [PrintTape.page_eq]
  exact recent_rising (tape.unique_held n)

theorem page_unique : ((tape.page n receiveAt).map Print.execId).Nodup := by
  refine List.pairwise_map.mpr ((List.Pairwise.and_mem.mp (page_rising ..)).imp ?_)
  rintro left right ⟨first, second, before⟩ same
  have isSame := eq_of_execId (mem_held_of_mem_page first) (mem_held_of_mem_page second) same
  exact lt_irrefl _ (isSame ▸ before)

/-- A numbered print has been sighted. -/
theorem mem_history (sighted : Sighted Print.execId base history ranks)
    (seen : ∀ p ∈ history, p ∈ tape.held n) (held : p ∈ tape.held n)
    (numbered : (ranks.rank p.execId).isSome) : p ∈ history := by
  obtain ⟨r, known⟩ := Option.isSome_iff_exists.mp numbered
  obtain ⟨i, q, -, at', same⟩ := sighted.placed _ _ known
  have listed := List.mem_of_getElem? at'
  rwa [← eq_of_execId (seen q listed) held same]

theorem sighted_page (sighted : Sighted Print.execId base history ranks)
    (seen : ∀ p ∈ history, p ∈ tape.held n) (onPage : p ∈ tape.page n receiveAt) :
    p ∈ history ∨ p ∈ freshOf ranks (tape.page n receiveAt) := by
  by_cases numbered : (ranks.rank p.execId).isSome
  · exact .inl (mem_history sighted seen (mem_held_of_mem_page onPage) numbered)
  · exact .inr (List.mem_filter.mpr ⟨onPage, by simpa using numbered⟩)

namespace Tail
variable {fromMs oldestMs : Int}

/-- A tail stays one when a page is sighted. -/
theorem sight (tail : Tail tape n base history ranks proof fromMs oldestMs anchor place)
    (sighted : Sighted Print.execId base history ranks)
    (seen : ∀ p ∈ history, p ∈ tape.held n) :
    Tail tape n base (history ++ freshOf ranks (tape.page n receiveAt))
      (ranks.sightAll ((tape.page n receiveAt).map Print.execId)) proof fromMs oldestMs anchor
      place where
  __ := tail
  row := by
    obtain ⟨first, row⟩ := tail.row
    refine ⟨first, Eq.trans (List.map_congr_left fun p listed => ?_) row⟩
    obtain ⟨i, inside, rfl⟩ := List.mem_iff_getElem.mp listed
    have known := row.rank_getElem (List.getElem?_eq_getElem inside)
    rw [known, Ranks.rank_sightAll known]
  numbered := Ranks.rank_sightAll tail.numbered _
  placed := by
    have inside := (List.getElem?_eq_some_iff.mp tail.placed).1
    rw [List.getElem?_append_left inside, tail.placed]
  whole := fun alive p held bounded aged level => by
    refine (tail.whole alive p held bounded aged level).imp_right fun late => ?_
    have page : ∀ q ∈ tape.page n receiveAt,
        q ∈ history ∨ q ∈ freshOf ranks (tape.page n receiveAt) :=
      fun q => sighted_page sighted seen
    have sub : (freshOf ranks (tape.page n receiveAt)).Sublist (tape.page n receiveAt) :=
      List.filter_sublist
    simp only [PrintTape.page_eq] at page sub ⊢
    exact late.append tape.timeline (List.getElem?_eq_some_iff.mp tail.placed).1 alive held sub page

end Tail

/-! ## A page that is gone on over -/

variable {prints : List Print}

theorem requireRankTail_ok (row : requireRankTail ranks prints = .ok ()) :
    ∃ first, InRow Print.execId ranks prints first := by
  obtain ⟨numbers, read, row⟩ := bind_eq_ok.mp row
  cases numbers with
  | nil => cases row
  | cons first rest =>
    have consecutive := ensure_eq_ok.mp row
    have each := map_of_mapM read
    have known : prints.map (fun p => ranks.rank p.execId) = (first :: rest).map some := by
      apply List.ext_getElem?
      intro i
      have here := congrArg (·[i]?) each
      simp only [List.getElem?_map] at here ⊢
      cases at' : prints[i]? with
      | none => simpa [at'] using here
      | some p =>
        cases number : (first :: rest)[i]? with
        | none => simp [at', number] at here
        | some r =>
          simp only [at', number, Option.map_some, Option.some.injEq] at here ⊢
          grind
    have length : prints.length = (first :: rest).length := by
      simpa using congrArg List.length known
    exact ⟨first, by rw [InRow, known, length]; exact congrArg _ consecutive⟩

theorem recentTradeLimit_pos : 0 < recentTradeLimit := by simp [recentTradeLimit]

theorem maxProvenTrades_pos : 0 < maxProvenTrades := by simp [maxProvenTrades, recentTradeLimit]

variable {startMs : Int} {proof' : LineageProof}

/-- The last print from a time on is the last print. -/
theorem getLast?_of_filter (ordered : Ordered Print.timeMs prints)
    (ends : (prints.filter (startMs ≤ ·.timeMs)).getLast? = some p) : prints.getLast? = some p := by
  rcases prints.eq_nil_or_concat with rfl | ⟨before, last, rfl⟩
  · exact ends
  · rw [List.concat_eq_append] at *
    have listed := List.mem_filter.mp (List.mem_of_getLast? ends)
    have behind : p.timeMs ≤ last.timeMs := by
      rcases List.mem_append.mp listed.1 with old | same
      · exact (List.pairwise_append.mp ordered).2.2 p old last (by simp)
      · rw [List.mem_singleton.mp same]
    have within : startMs ≤ last.timeMs := by
      have := listed.2
      simp only [decide_eq_true_eq] at this
      omega
    simpa [within] using ends

/-- A first page proves the tail from the start of the window, its own first millisecond apart. -/
theorem tail_of_proveInitialTail (sighted : Sighted Print.execId base history ranks)
    (seen : ∀ p ∈ history, p ∈ tape.held n)
    (proves : proveInitialTail ranks (tape.page n receiveAt) startMs proof = .ok proof') :
    ∃ fromMs oldest anchor place, (tape.page n receiveAt).head? = some oldest ∧
      (tape.page n receiveAt).getLast? = some anchor ∧ startMs ≤ fromMs ∧
      Tail tape n base history ranks proof' fromMs oldest.timeMs anchor place ∧
      (∀ p ∈ tape.page n receiveAt, startMs ≤ p.timeMs → fromMs ≤ p.timeMs → p ∈ proof'.proven) ∧
      ∀ p ∈ proof'.proven, p ∈ tape.page n receiveAt ∧ startMs ≤ p.timeMs := by
  unfold proveInitialTail at proves
  split at proves
  · cases proves
  rename_i oldest starts
  obtain ⟨_, reaches, proves⟩ := bind_eq_ok.mp proves
  have reaches := ensure_eq_ok.mp reaches
  dsimp only at proves
  split at proves
  · cases proves
  rename_i anchor ends
  obtain ⟨_, row, proves⟩ := bind_eq_ok.mp proves
  obtain rfl := Except.ok.inj proves
  obtain ⟨first, row⟩ := requireRankTail_ok row
  have rising : (tape.page n receiveAt).Pairwise fun left right =>
      stamp Print.timeMs Print.execId left <
      stamp Print.timeMs Print.execId right := page_rising ..
  have anchorSeen := List.mem_filter.mp (List.mem_of_getLast? ends)
  have ordered : Ordered Print.timeMs (tape.page n receiveAt) :=
    rising.imp fun before => time_le_of_stamp_le before.le
  have rank : ∃ r, ranks.rank anchor.execId = some r := by
    obtain ⟨i, inside, rfl⟩ := List.mem_iff_getElem.mp (List.mem_of_getLast? ends)
    exact ⟨_, row.rank_getElem (List.getElem?_eq_getElem inside)⟩
  obtain ⟨r, known⟩ := rank
  obtain ⟨place, sight, numbered, placed, same⟩ := sighted.placed _ _ known
  have isAnchor : sight = anchor := eq_of_execId (seen sight (List.mem_of_getElem? placed))
    (mem_held_of_mem_page anchorSeen.1) same
  have tail : Tail tape n base history ranks
      { proof with
        proven := (tape.page n receiveAt).filter (startMs ≤ ·.timeMs)
        initialOldestMs := some oldest.timeMs
        provenFromMs := some startMs
        anchorExecId := some anchor.execId } startMs oldest.timeMs anchor place :=
    { last := by
        dsimp only
        exact ends
      anchored := rfl
      bounded := rfl
      oldest := rfl
      oldest_le := reaches
      held := fun p listed => by
        simp only [List.mem_filter] at listed
        exact mem_held_of_mem_page listed.1
      inside := fun p listed => by
        simp only [List.mem_filter, decide_eq_true_eq] at listed
        omega
      rising := by
        dsimp only
        exact rising.sublist List.filter_sublist
      row := ⟨first, row⟩
      numbered := by rw [known, numbered]
      placed := by rw [placed, isAnchor]
      whole := fun _ p held bounded aged level => by
        have onPage : p ∈ tape.page n receiveAt := tape.mem_page.mpr
          ⟨mem_newest_later tape.timeline.nodup tape.timeline.ordered
            (tape.mem_page.mp (List.mem_of_head? starts)).1 held aged,
            level.trans (tape.mem_page.mp anchorSeen.1).2⟩
        simp only [List.mem_filter, decide_eq_true_eq]
        exact .inl ⟨onPage, bounded⟩ }
  obtain ⟨fromMs, raised, trimmed, kept, old⟩ := tail.trim maxProvenTrades_pos
  refine ⟨fromMs, oldest, anchor, place, starts, ?_, raised, trimmed, fun p onPage late bounded =>
    kept p (List.mem_filter.mpr ⟨onPage, by simpa using late⟩) bounded, fun p listed => ?_⟩
  · exact getLast?_of_filter ordered ends
  · simpa using List.mem_filter.mp (old p listed)

/-- The order of a page. -/
abbrev pageStamp (p : Print) : Int ×ₗ String := stamp Print.timeMs Print.execId p

theorem dropWhile_cases {extension : List Print} {found : Print} {wanted : Option String}
    (rest : prints.dropWhile (fun item => some item.execId ≠ wanted) = found :: extension) :
    some found.execId = wanted ∧ ∃ before, prints = before ++ found :: extension := by
  refine ⟨?_, prints.takeWhile fun item => some item.execId ≠ wanted, ?_⟩
  · have head := List.head?_dropWhile_not (fun item : Print => some item.execId ≠ wanted) prints
    rw [rest] at head
    simpa using head
  · rw [← rest, List.takeWhile_append_dropWhile]

/-- A later page goes on from the last print: where the numbers are in a row, no late print has
come in between. -/
theorem tail_of_extendProvenTail {fromMs oldestMs : Int}
    (tail : Tail tape n base history ranks proof fromMs oldestMs anchor place)
    (sighted : Sighted Print.execId base history ranks)
    (seen : ∀ p ∈ history, p ∈ tape.held n)
    (counted : ∀ p ∈ tape.page n receiveAt, p ∈ history)
    (proves : extendProvenTail ranks (tape.page n receiveAt) proof = .ok proof') :
    ∃ laterMs next place', (tape.page n receiveAt).getLast? = some next ∧ fromMs ≤ laterMs ∧
      Tail tape n base history ranks proof' laterMs oldestMs next place' ∧
      (∀ p, p ∈ proof.proven ∨ p ∈ tape.page n receiveAt ∧ pageStamp anchor < pageStamp p →
        laterMs ≤ p.timeMs → p ∈ proof'.proven) ∧
      ∀ p ∈ proof'.proven, p ∈ proof.proven ∨
        p ∈ tape.page n receiveAt ∧ pageStamp anchor < pageStamp p := by
  unfold extendProvenTail at proves
  split at proves
  · cases proves
  rename_i found extension rest
  obtain ⟨same, before, split⟩ := dropWhile_cases rest
  rw [tail.anchored, Option.some.injEq] at same
  have onPage : found ∈ tape.page n receiveAt := by simp [split]
  obtain rfl : found = anchor := eq_of_execId (mem_held_of_mem_page onPage)
    (tail.held anchor tail.anchor_proven) same
  have rising := page_rising tape n receiveAt
  have behind : ∀ p, p ∈ extension ↔ p ∈ tape.page n receiveAt ∧ pageStamp found < pageStamp p := by
    intro p
    rw [split] at rising ⊢
    exact mem_behind_iff rising
  split at proves
  · rename_i none
    have none : extension = [] := List.getLast?_eq_none_iff.mp none
    obtain rfl := Except.ok.inj proves
    obtain ⟨laterMs, raised, trimmed, kept, old⟩ := tail.trim maxProvenTrades_pos
    refine ⟨laterMs, found, place, by simp [split, none], raised, trimmed,
      fun p gained bounded => ?_,
      fun p listed => .inl (old p listed)⟩
    refine kept p (gained.resolve_right fun later => ?_) bounded
    have := (behind p).mpr later
    simp [none] at this
  · rename_i next ends
    obtain ⟨_, row, proves⟩ := bind_eq_ok.mp proves
    obtain rfl := Except.ok.inj proves
    obtain ⟨first, row⟩ := requireRankTail_ok row
    have stays : extension ≠ [] := by
      rintro rfl
      cases ends
    obtain ⟨pre, isProven⟩ := List.getLast?_eq_some_iff.mp tail.last
    have aliveFound : Alive tape n found := (tape.mem_page.mp onPage).1
    have onPage' : ∀ p ∈ extension, p ∈ tape.page n receiveAt := fun p listed =>
      ((behind p).mp listed).1
    have forward : ∀ p ∈ extension, found.timeMs ≤ p.timeMs := fun p listed =>
      time_le_of_stamp_le ((behind p).mp listed).2.le
    have joined : proof.proven ++ extension = pre ++ found :: extension := by simp [isProven]
    have stretch : (history.drop place).take (extension.length + 1) = found :: extension := by
      rw [joined] at row
      obtain ⟨at', numbered, stretch⟩ := sighted.stretch row fun b listed c member same =>
        eq_of_execId (seen b listed) (mem_held_of_mem_page (by
          rcases List.mem_cons.mp member with rfl | member
          · exact onPage
          · exact onPage' c member)) same
      obtain rfl : at' = place := by
        rw [tail.numbered, Option.some.injEq] at numbered
        omega
      exact stretch
    have lastAt : extension[extension.length - 1]? = some next := by
      rw [← List.getLast?_eq_getElem?, ends]
    have positive := List.length_pos_iff.mpr stays
    have placed : history[place + extension.length]? = some next := by
      have here := congrArg (·[extension.length]?) stretch
      simp only [List.getElem?_take, List.getElem?_drop, Nat.lt_succ_self, if_true] at here
      rw [here, List.getElem?_cons, if_neg (by omega), lastAt]
    have numbered : ranks.rank next.execId = some (base + (place + extension.length)) := by
      have start := tail.numbered
      rw [joined] at row
      have at' := row.rank_getElem (i := pre.length) (a := found) (by simp)
      have further := row.rank_getElem (i := pre.length + extension.length) (a := next) (by
        rw [List.getElem?_append_right (by omega)]
        simp only [Nat.add_sub_cancel_left]
        rw [List.getElem?_cons, if_neg (by omega), lastAt])
      rw [at', Option.some.injEq] at start
      rw [further]
      congr 1
      omega
    have extended : Tail tape n base history ranks
        { proof with proven := proof.proven ++ extension, anchorExecId := some next.execId }
        fromMs oldestMs next (place + extension.length) :=
      { last := by
          dsimp only
          rw [List.getLast?_append_of_ne_nil _ stays, ends]
        anchored := rfl
        bounded := tail.bounded
        oldest := tail.oldest
        oldest_le := tail.oldest_le
        held := fun p listed => by
          rcases List.mem_append.mp listed with old | new
          · exact tail.held p old
          · exact mem_held_of_mem_page (onPage' p new)
        inside := fun p listed => by
          rcases List.mem_append.mp listed with old | new
          · exact tail.inside p old
          · have := tail.inside found tail.anchor_proven
            have := forward p new
            omega
        rising := by
          refine List.pairwise_append.mpr ⟨tail.rising, ?_, fun p old q new => ?_⟩
          · refine rising.sublist ?_
            rw [split]
            exact (List.sublist_cons_self ..).trans (List.sublist_append_right ..)
          · have later := ((behind q).mp new).2
            have sorted := tail.rising
            rw [isProven] at old sorted
            rcases List.mem_append.mp old with earlier | same
            · exact ((List.pairwise_append.mp sorted).2.2 p earlier found (by simp)).trans later
            · rw [List.mem_singleton.mp same]
              exact later
        row := ⟨first, row⟩
        numbered := numbered
        placed := placed
        whole := fun _ p held bounded aged level => by
          dsimp only
          rw [List.mem_append]
          by_cases early : p.timeMs ≤ found.timeMs
          · rcases tail.whole aliveFound p held bounded aged early with old | late
            · exact .inl (.inl old)
            · by_cases new : p ∈ extension
              · exact .inl (.inr new)
              · have known : p ∈ history := by
                  have page := counted p
                  rw [PrintTape.page_eq] at onPage page
                  exact (late.sighted_or_seen tape.timeline onPage held).elim id page
                obtain ⟨k, length⟩ := Nat.exists_eq_succ_of_ne_zero positive.ne'
                have skipped : p ∉ (history.drop (place + 1)).take (k + 1) := by
                  have behindFound : (history.drop (place + 1)).take extension.length =
                      extension := by
                    rw [← List.tail_drop]
                    cases start : history.drop place with
                    | nil => simp [start] at stretch
                    | cons h t =>
                      rw [start, List.take_succ_cons] at stretch
                      exact (List.cons.inj stretch).2
                  rwa [← Nat.succ_eq_add_one k, ← length, behindFound]
                rw [length] at placed ⊢
                exact .inr (late.extend known placed skipped
                  (forward next (List.mem_of_getLast? ends)))
          · have later : found.timeMs < p.timeMs := not_le.mp early
            have seen : p ∈ tape.page n receiveAt := tape.mem_page.mpr
              ⟨mem_newest_later tape.timeline.nodup tape.timeline.ordered aliveFound held later,
                level.trans (tape.mem_page.mp (onPage' next (List.mem_of_getLast? ends))).2⟩
            exact .inl (.inr ((behind p).mpr ⟨seen, stamp_lt_of_time_lt later⟩)) }
    obtain ⟨laterMs, raised, trimmed, kept, old⟩ := extended.trim maxProvenTrades_pos
    refine ⟨laterMs, next, _, ?_, raised, trimmed, fun p gained bounded => ?_, fun p listed => ?_⟩
    · rw [split, List.getLast?_append_of_ne_nil _ (by simp), List.getLast?_cons, ends]
      rfl
    · refine kept p (List.mem_append.mpr ?_) bounded
      rwa [behind]
    · have member := old p listed
      rwa [List.mem_append, behind] at member

end Page

end AlphaTrade.Market
