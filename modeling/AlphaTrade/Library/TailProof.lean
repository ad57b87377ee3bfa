import Mathlib.Data.List.Infix
import Mathlib.Data.List.Sort
import Mathlib.Data.Prod.Lex
import AlphaTrade.Library.Ordered

/-!
# The tail of a growing log

A log grows at its end, in the order of a time that several entries share. What it holds at a
moment is a prefix, and a reader sees the last few entries of that prefix, sorted by time and
identifier. A reader who goes on from an anchor sees what came behind the anchor, but not an
entry that came later with the anchor's time and a smaller identifier.
-/
namespace AlphaTrade.Library

section Pages

variable {α : Type*} {log : List α} {a : α} {limit n m : ℕ}

theorem mem_take_mono (le : n ≤ m) (ha : a ∈ log.take n) : a ∈ log.take m :=
  (List.take_prefix_take_left le).subset ha

def newest (limit : ℕ) (held : List α) : List α := held.drop (held.length - limit)

theorem newest_sublist (limit : ℕ) (held : List α) : (newest limit held).Sublist held :=
  List.drop_sublist ..

theorem mem_of_mem_newest (seen : a ∈ newest limit (log.take n)) : a ∈ log.take n :=
  (newest_sublist limit _).subset seen

end Pages

section Positions

variable {α τ : Type*} [DecidableEq α] [LinearOrder τ] {time : α → τ} {log : List α} {a b : α}
  {limit n m : ℕ}

theorem Ordered.le_of_idxOf_le (ordered : Ordered time log) (ha : a ∈ log) (hb : b ∈ log)
    (before : log.idxOf a ≤ log.idxOf b) : time a ≤ time b := by
  have first := List.idxOf_lt_length_of_mem ha
  have second := List.idxOf_lt_length_of_mem hb
  obtain same | earlier := before.eq_or_lt
  · rw [(List.idxOf_inj ha).mp same]
  · have placed := List.pairwise_iff_getElem.mp ordered _ _ first second earlier
    rwa [List.getElem_idxOf first, List.getElem_idxOf second] at placed

theorem Ordered.idxOf_lt_of_lt (ordered : Ordered time log) (ha : a ∈ log) (hb : b ∈ log)
    (earlier : time a < time b) : log.idxOf a < log.idxOf b := by
  by_contra behind
  exact absurd (ordered.le_of_idxOf_le hb ha (not_lt.mp behind)) (not_le.mpr earlier)

theorem mem_take_iff (ha : a ∈ log) : a ∈ log.take n ↔ log.idxOf a < n :=
  List.mem_take_iff_idxOf_lt ha

theorem mem_newest (nodup : log.Nodup) (ha : a ∈ log.take n) :
    a ∈ newest limit (log.take n) ↔ (log.take n).length ≤ log.idxOf a + limit := by
  have held : (log.take n).idxOf a = log.idxOf a :=
    (List.take_prefix n log).idxOf_eq_of_mem ha
  have bound := List.idxOf_lt_length_of_mem ha
  have at' := List.getElem_idxOf bound
  have distinct : (log.take n).Nodup := nodup.sublist (List.take_sublist n log)
  unfold newest
  constructor
  · intro listed
    obtain ⟨i, inside, same⟩ := List.mem_iff_getElem.mp listed
    rw [List.getElem_drop] at same
    rw [List.length_drop] at inside
    have := distinct.idxOf_getElem (i := (log.take n).length - limit + i) (by omega)
    rw [same, held] at this
    omega
  · intro late
    refine List.mem_iff_getElem.mpr
      ⟨(log.take n).idxOf a - ((log.take n).length - limit), ?_, ?_⟩
    · rw [List.length_drop]
      omega
    · rw [List.getElem_drop]
      have : (log.take n).length - limit + ((log.take n).idxOf a -
          ((log.take n).length - limit)) = (log.take n).idxOf a := by omega
      simp only [this, at']

/-- What is held behind an entry that is seen is seen. -/
theorem mem_newest_behind (nodup : log.Nodup) (seen : a ∈ newest limit (log.take n))
    (held : b ∈ log.take n) (behind : log.idxOf a ≤ log.idxOf b) :
    b ∈ newest limit (log.take n) := by
  have first := (mem_newest nodup (mem_of_mem_newest seen)).mp seen
  exact (mem_newest nodup held).mpr (by omega)

/-- What is held with a later time than an entry that is seen is seen. -/
theorem mem_newest_later (nodup : log.Nodup) (ordered : Ordered time log)
    (seen : a ∈ newest limit (log.take n)) (held : b ∈ log.take n) (later : time a < time b) :
    b ∈ newest limit (log.take n) :=
  mem_newest_behind nodup seen held
    (ordered.idxOf_lt_of_lt (List.mem_of_mem_take (mem_of_mem_newest seen))
      (List.mem_of_mem_take held) later).le

/-- An entry that was seen is seen no more once it has left the page. -/
theorem mem_newest_earlier (nodup : log.Nodup) (le : n ≤ m) (held : a ∈ log.take n)
    (seen : a ∈ newest limit (log.take m)) : a ∈ newest limit (log.take n) := by
  have last := (mem_newest nodup (mem_of_mem_newest seen)).mp seen
  rw [List.length_take] at last
  refine (mem_newest nodup held).mpr ?_
  rw [List.length_take]
  omega

end Positions

section Stamps

variable {α τ ι : Type*} {time : α → τ} {ident : α → ι} {a b : α}

def stamp (time : α → τ) (ident : α → ι) (a : α) : τ ×ₗ ι := toLex (time a, ident a)

theorem ident_eq_of_stamp_eq (same : stamp time ident a = stamp time ident b) :
    ident a = ident b := congrArg (fun s => (ofLex s).2) same

variable [LinearOrder τ]

/-- Entries in the order of their times, with identifiers of their own. -/
structure Timeline (time : α → τ) (ident : α → ι) (log : List α) : Prop where
  ordered : Ordered time log
  unique : (log.map ident).Nodup

namespace Timeline

variable {log : List α}

theorem nodup (timeline : Timeline time ident log) : log.Nodup := timeline.unique.of_map

theorem eq_of_ident (timeline : Timeline time ident log) (ha : a ∈ log) (hb : b ∈ log)
    (same : ident a = ident b) : a = b := List.inj_on_of_nodup_map timeline.unique ha hb same

end Timeline

variable [LinearOrder ι]

theorem stamp_lt : stamp time ident a < stamp time ident b ↔
    time a < time b ∨ time a = time b ∧ ident a < ident b := Prod.Lex.toLex_lt_toLex

theorem stamp_lt_of_time_lt (earlier : time a < time b) :
    stamp time ident a < stamp time ident b := stamp_lt.mpr (.inl earlier)

theorem time_le_of_stamp_le (le : stamp time ident a ≤ stamp time ident b) : time a ≤ time b := by
  by_contra later
  exact absurd (stamp_lt_of_time_lt (not_le.mp later)) (not_lt.mpr le)

/-- In a sorted list the entries behind one are those with a greater stamp. -/
theorem mem_behind_iff {before after : List α} {c : α}
    (rising : (before ++ c :: after).Pairwise fun a b =>
      stamp time ident a < stamp time ident b) :
    b ∈ after ↔ b ∈ before ++ c :: after ∧ stamp time ident c < stamp time ident b := by
  obtain ⟨-, behind, across⟩ := List.pairwise_append.mp rising
  obtain ⟨first, -⟩ := List.pairwise_cons.mp behind
  constructor
  · intro listed
    exact ⟨by simp [listed], first b listed⟩
  · rintro ⟨listed, later⟩
    rcases List.mem_append.mp listed with earlier | at'
    · exact absurd (across b earlier c (List.mem_cons_self ..)) later.asymm
    · rcases List.mem_cons.mp at' with rfl | listed
      · exact absurd later (lt_irrefl _)
      · exact listed

/-! ## What a reader sees -/

def recent (time : α → τ) (ident : α → ι) (limit : ℕ) (bound : τ) (held : List α) : List α :=
  ((newest limit held).insertionSort fun a b => stamp time ident a ≤ stamp time ident b).filter
    (time · ≤ bound)

variable {log held : List α} {limit n : ℕ} {bound : τ}

theorem mem_recent : a ∈ recent time ident limit bound held ↔
    a ∈ newest limit held ∧ time a ≤ bound := by
  rw [recent, List.mem_filter, List.mem_insertionSort, decide_eq_true_eq]

/-- In a sorted list an entry stands before every entry with a greater stamp. -/
theorem mem_take_of_stamp_lt {l : List α} {j : ℕ}
    (rising : l.Pairwise fun a b => stamp time ident a < stamp time ident b) (listed : a ∈ l)
    (at' : l[j]? = some b) (before : stamp time ident a < stamp time ident b) : a ∈ l.take j := by
  obtain ⟨inside, rfl⟩ := List.getElem?_eq_some_iff.mp at'
  rw [← List.take_append_drop j l, List.drop_eq_getElem_cons inside] at listed rising
  by_contra absent
  obtain behind := (List.mem_append.mp listed).resolve_left absent
  obtain ⟨-, tail, -⟩ := List.pairwise_append.mp rising
  rcases List.mem_cons.mp behind with rfl | later
  · exact lt_irrefl _ before
  · exact before.asymm ((List.pairwise_cons.mp tail).1 a later)

/-- A page is sorted, and no entry is on it twice. -/
theorem recent_rising (unique : (held.map ident).Nodup) :
    (recent time ident limit bound held).Pairwise fun a b =>
      stamp time ident a < stamp time ident b := by
  have total : Std.Total fun a b : α => stamp time ident a ≤ stamp time ident b :=
    ⟨fun _ _ => le_total _ _⟩
  have trans : IsTrans α fun a b => stamp time ident a ≤ stamp time ident b :=
    ⟨fun _ _ _ => le_trans⟩
  have sorted := List.pairwise_insertionSort
    (fun a b : α => stamp time ident a ≤ stamp time ident b) (newest limit held)
  have perm := List.perm_insertionSort
    (fun a b : α => stamp time ident a ≤ stamp time ident b) (newest limit held)
  have distinct : ((newest limit held).insertionSort
      fun a b => stamp time ident a ≤ stamp time ident b).Pairwise fun a b => ident a ≠ ident b :=
    List.pairwise_map.mp ((perm.map ident).nodup_iff.mpr
      (unique.sublist ((newest_sublist limit held).map ident)))
  have strict := (sorted.and distinct).imp fun {a b} h =>
    lt_of_le_of_ne h.1 fun same => h.2 (ident_eq_of_stamp_eq same)
  exact strict.filter _

/-- Lists of the same entries are sorted alike. -/
theorem insertionSort_eq_of_perm {l l' : List α} (perm : l.Perm l')
    (unique : (l'.map ident).Nodup) :
    (l.insertionSort fun a b => stamp time ident a ≤ stamp time ident b) =
      l'.insertionSort fun a b => stamp time ident a ≤ stamp time ident b := by
  have total : Std.Total fun a b : α => stamp time ident a ≤ stamp time ident b :=
    ⟨fun _ _ => le_total _ _⟩
  have trans : IsTrans α fun a b => stamp time ident a ≤ stamp time ident b :=
    ⟨fun _ _ _ => le_trans⟩
  refine List.Perm.eq_of_pairwise (fun a b ha hb le ge => ?_) (List.pairwise_insertionSort _ _)
    (List.pairwise_insertionSort _ _)
    ((List.perm_insertionSort _ l).trans (perm.trans (List.perm_insertionSort _ l').symm))
  have first := perm.subset ((List.mem_insertionSort _).mp ha)
  have second := (List.mem_insertionSort _).mp hb
  exact List.inj_on_of_nodup_map unique first second (ident_eq_of_stamp_eq (le_antisymm le ge))

end Stamps

/-! ## Proofs up to an anchor -/

section Anchored

variable {α τ ι : Type*} [DecidableEq α] [LinearOrder τ] {time : α → τ} {ident : α → ι}
  {log proven before after : List α} {claims : α → Prop} {limit n : ℕ} {bound : τ} {anchor a : α}

variable [LinearOrder ι]

/-- What came behind the anchor is on a page that has the anchor. -/
theorem mem_recent_behind (timeline : Timeline time ident log)
    (seen : anchor ∈ recent time ident limit bound (log.take n)) (held : a ∈ log.take n)
    (behind : log.idxOf anchor ≤ log.idxOf a) (within : time a ≤ bound) :
    a ∈ recent time ident limit bound (log.take n) :=
  mem_recent.mpr
    ⟨mem_newest_behind timeline.nodup (mem_recent.mp seen).1 held behind, within⟩

end Anchored

/-! ## Entries that come late -/

section Late

variable {α τ ι : Type*} [DecidableEq α] [LinearOrder τ] [LinearOrder ι] {time : α → τ}
  {ident : α → ι} {log history fresh : List α} {place limit n : ℕ} {bound : τ}
  {anchor entry : α}

/-- An entry of the anchor's time that is not sighted up to the anchor. Behind the anchor
nothing of a later time is sighted before it. -/
structure Late (time : α → τ) (log history : List α) (place : ℕ) (anchor entry : α) : Prop where
  level : time entry = time anchor
  unplaced : entry ∉ history.take (place + 1)
  comes : log.idxOf anchor < log.idxOf entry ∨ entry ∈ history
  first : ∀ j a, place < j → history[j]? = some a → time anchor < time a →
    entry ∈ history.take j

/-- An entry that arrives with no later time than the anchor is late. -/
theorem late_of_arrival (ordered : Ordered time log) (sighted : history ⊆ log.take n)
    (held : anchor ∈ log.take n) (logged : entry ∈ log) (arrives : entry ∉ log.take n)
    (level : time entry ≤ time anchor) : Late time log history place anchor entry := by
  have anchored := List.mem_of_mem_take held
  have early := (mem_take_iff anchored).mp held
  have later : n ≤ log.idxOf entry := not_lt.mp fun h => arrives ((mem_take_iff logged).mpr h)
  have same := le_antisymm level (ordered.le_of_idxOf_le anchored logged (by omega))
  refine ⟨same, fun listed => arrives (sighted (List.mem_of_mem_take listed)),
    .inl (by omega), fun j a _ at' behind => ?_⟩
  have known := sighted (List.mem_of_getElem? at')
  have before := (mem_take_iff (List.mem_of_mem_take known)).mp known
  have := ordered.le_of_idxOf_le (List.mem_of_mem_take known) logged (by omega)
  exact absurd (this.trans same.le) (not_le.mpr behind)

namespace Late

/-- On a page that has the anchor a late entry is sighted. -/
theorem sighted_or_seen (late : Late time log history place anchor entry)
    (timeline : Timeline time ident log)
    (seen : anchor ∈ recent time ident limit bound (log.take n)) (held : entry ∈ log.take n) :
    entry ∈ history ∨ entry ∈ recent time ident limit bound (log.take n) := by
  obtain behind | placed := late.comes
  · exact .inr (mem_recent_behind timeline seen held behind.le
      (late.level.trans_le (mem_recent.mp seen).2))
  · exact .inl placed

/-- New sightings of a page that reaches back to the anchor keep an entry late. -/
theorem append (late : Late time log history place anchor entry)
    (timeline : Timeline time ident log) (placed : place < history.length)
    (alive : anchor ∈ newest limit (log.take n)) (held : entry ∈ log.take n)
    (sub : fresh.Sublist (recent time ident limit bound (log.take n)))
    (sighted : ∀ a ∈ recent time ident limit bound (log.take n), a ∈ history ∨ a ∈ fresh) :
    Late time log (history ++ fresh) place anchor entry := by
  refine ⟨late.level, ?_, late.comes.imp_right (List.mem_append_left fresh), ?_⟩
  · rw [List.take_append_of_le_length placed]
    exact late.unplaced
  intro j a behind at' later
  obtain inside | outside := lt_or_ge j history.length
  · rw [List.getElem?_append_left inside] at at'
    exact (List.prefix_append history fresh).take j |>.subset (late.first j a behind at' later)
  rw [List.getElem?_append_right outside] at at'
  have old : entry ∈ history → entry ∈ (history ++ fresh).take j := fun listed => by
    rw [List.take_append, List.take_of_length_le outside]
    exact List.mem_append_left _ listed
  obtain comes | listed := late.comes
  · have onPage : entry ∈ recent time ident limit bound (log.take n) := by
      refine mem_recent.mpr ⟨mem_newest_behind timeline.nodup alive held comes.le, ?_⟩
      have := (mem_recent.mp (sub.subset (List.mem_of_getElem? at'))).2
      exact late.level.trans_le (later.le.trans this)
    obtain listed | listed := sighted entry onPage
    · exact old listed
    · have rising : (recent time ident limit bound (log.take n)).Pairwise fun a b =>
          stamp time ident a < stamp time ident b :=
        recent_rising (timeline.unique.sublist ((List.take_sublist n log).map ident))
      have earlier := mem_take_of_stamp_lt (rising.sublist sub) listed at'
        (stamp_lt_of_time_lt (late.level.trans_lt later))
      rw [List.take_append, List.take_of_length_le outside]
      exact List.mem_append_right _ earlier
  · exact old listed

/-- A proof that goes on along the sightings without a late entry stays at its time. -/
theorem extend (late : Late time log history place anchor entry) {k : ℕ} {next : α}
    (placed : entry ∈ history) (at' : history[place + (k + 1)]? = some next)
    (skipped : entry ∉ (history.drop (place + 1)).take (k + 1))
    (forward : time anchor ≤ time next) :
    Late time log history (place + (k + 1)) next entry := by
  have unplaced : entry ∉ history.take (place + (k + 1) + 1) := by
    rw [show place + (k + 1) + 1 = place + 1 + (k + 1) by omega, List.take_add]
    exact fun listed => (List.mem_append.mp listed).elim late.unplaced skipped
  have level : time next = time anchor := by
    refine le_antisymm (not_lt.mp fun later => unplaced ?_) forward
    exact mem_take_mono (by omega) (late.first _ next (by omega) at' later)
  exact ⟨late.level.trans level.symm, unplaced, .inr placed, fun j a behind found later =>
    late.first j a (by omega) found (level ▸ later)⟩

end Late

end Late

end AlphaTrade.Library
