import AlphaTrade.Market.TapeRuns

/-!
# What a served window holds

A batch has the prints of a window that its lineage has proven. Between the oldest print that the
lineage started from and the newest print of the page these are all the prints that the venue
held, and in the two milliseconds at the ends they are the prints that settled before: a print
that arrived at the end of the tail after it was proven is passed over.
-/
namespace AlphaTrade.Market
open Library
open Execution (Instant)

variable {runtime : PyRuntime} {tape : PrintTape runtime} {n : Nat} {receiveAt : Instant}
  {startMs endMs : Int} {proof proof' : LineageProof} {rows : List (Print × Nat)} {p : Print}

/-- The millisecond of the oldest print that a lineage starts from: that of the page, where
nothing is proven yet. -/
def oldestBucket (page : List Print) (proof : LineageProof) : Option Int :=
  if proof.proven = [] then page.head?.map Print.timeMs else proof.initialOldestMs

/-- In the milliseconds of a window that the page or the lineage's first page may hold in part,
every print of the venue is settled. -/
def EndsSettled (tape : PrintTape runtime) (n : Nat) (receiveAt : Instant) (startMs endMs : Int)
    (proof : LineageProof) : Prop :=
  ∀ p ∈ tape.held n, startMs ≤ p.timeMs → p.timeMs < endMs →
    (some p.timeMs = (tape.page n receiveAt).getLast?.map Print.timeMs ∨
      some p.timeMs = oldestBucket (tape.page n receiveAt) proof) →
    Settled (tape.page n receiveAt) proof p

namespace ServesWindow

theorem mem_rows (served : ServesWindow tape n receiveAt startMs endMs proof proof' rows) :
    p ∈ rows.map Prod.fst ↔ p ∈ proof'.proven ∧ startMs ≤ p.timeMs ∧ p.timeMs < endMs := by
  rw [served.window]
  simp

/-- A print of the window is served when it is settled. -/
theorem served_iff (served : ServesWindow tape n receiveAt startMs endMs proof proof' rows)
    (late : startMs ≤ p.timeMs) (early : p.timeMs < endMs) :
    p ∈ rows.map Prod.fst ↔ Settled (tape.page n receiveAt) proof p := by
  obtain ⟨_, _, fromMs, oldestMs, anchor, place, advanced, bounded, -⟩ := served.advanced
  rw [served.mem_rows]
  exact ⟨fun listed => advanced.gained p listed.1,
    fun settled => ⟨advanced.gains p settled late (bounded.trans late), late, early⟩⟩

theorem held (served : ServesWindow tape n receiveAt startMs endMs proof proof' rows) :
    ∀ p ∈ rows.map Prod.fst, p ∈ tape.held n := by
  obtain ⟨_, _, fromMs, oldestMs, anchor, place, advanced, -⟩ := served.advanced
  exact fun p listed => advanced.tail.held p (served.mem_rows.mp listed).1

theorem rising (served : ServesWindow tape n receiveAt startMs endMs proof proof' rows) :
    (rows.map Prod.fst).Pairwise fun left right => pageStamp left < pageStamp right := by
  obtain ⟨_, _, fromMs, oldestMs, anchor, place, advanced, -⟩ := served.advanced
  rw [served.window]
  exact advanced.tail.rising.sublist List.filter_sublist

theorem unique (served : ServesWindow tape n receiveAt startMs endMs proof proof' rows) :
    ((rows.map Prod.fst).map Print.execId).Nodup := by
  refine List.pairwise_map.mpr ((List.Pairwise.and_mem.mp served.rising).imp ?_)
  rintro left right ⟨first, second, before⟩ same
  have isSame := eq_of_execId (served.held left first) (served.held right second) same
  exact lt_irrefl _ (isSame ▸ before)

/-- Every print between the ends is served. -/
theorem between (served : ServesWindow tape n receiveAt startMs endMs proof proof' rows)
    (bounded : endMs ≤ runtime.timestampMs receiveAt) (held : p ∈ tape.held n)
    (late : startMs ≤ p.timeMs) (early : p.timeMs < endMs)
    (newest : some p.timeMs ≠ (tape.page n receiveAt).getLast?.map Print.timeMs)
    (oldest : some p.timeMs ≠ oldestBucket (tape.page n receiveAt) proof) :
    p ∈ rows.map Prod.fst := by
  obtain ⟨_, _, fromMs, oldestMs, anchor, place, advanced, within, -⟩ := served.advanced
  have alive : Alive tape n anchor :=
    (tape.mem_page.mp (List.mem_of_getLast? advanced.last)).1
  have aged : oldestMs < p.timeMs := by
    have starts : oldestBucket (tape.page n receiveAt) proof = some oldestMs := by
      have := advanced.oldest
      unfold oldestBucket
      split at this <;> simp_all
    have := advanced.tail.oldest_le
    rw [starts, ne_eq, Option.some.injEq] at oldest
    omega
  have apart : p.timeMs ≠ anchor.timeMs := by
    simpa [advanced.last] using newest
  -- a print behind the newest one of the page would be on the page
  have level : p.timeMs ≤ anchor.timeMs := by
    by_contra behind
    have behind := not_le.mp behind
    have onPage : p ∈ tape.page n receiveAt := tape.mem_page.mpr
      ⟨mem_newest_later tape.timeline.nodup tape.timeline.ordered alive held behind, by omega⟩
    obtain ⟨before, split⟩ := List.getLast?_eq_some_iff.mp advanced.last
    have sorted := page_rising tape n receiveAt
    rw [split] at onPage sorted
    rcases List.mem_append.mp onPage with earlier | same
    · have := time_le_of_stamp_le
        ((List.pairwise_append.mp sorted).2.2 p earlier anchor (by simp)).le
      omega
    · exact apart (congrArg _ (List.mem_singleton.mp same))
  refine served.mem_rows.mpr ⟨?_, late, early⟩
  exact (advanced.tail.whole alive p held (within.trans late) aged level).resolve_right
    fun isLate => apart isLate.level

/-- A window is served whole exactly when the prints at its ends are settled. -/
theorem whole_iff (served : ServesWindow tape n receiveAt startMs endMs proof proof' rows)
    (bounded : endMs ≤ runtime.timestampMs receiveAt) :
    (∀ p ∈ tape.held n, startMs ≤ p.timeMs → p.timeMs < endMs → p ∈ rows.map Prod.fst) ↔
      EndsSettled tape n receiveAt startMs endMs proof := by
  constructor
  · intro whole p held late early _
    exact (served.served_iff late early).mp (whole p held late early)
  · intro settled p held late early
    by_cases ends : some p.timeMs = (tape.page n receiveAt).getLast?.map Print.timeMs ∨
        some p.timeMs = oldestBucket (tape.page n receiveAt) proof
    · exact (served.served_iff late early).mpr (settled p held late early ends)
    · obtain ⟨newest, oldest⟩ := not_or.mp ends
      exact served.between bounded held late early newest oldest

end ServesWindow

end AlphaTrade.Market
