import Mathlib.Data.List.Sort

/-!
# Windows from open and close marks

A log of marks, each opening or closing a window at a time, is read by sorting it
and sweeping once: the first open after a close starts a window, the next close
ends it. At equal times an open comes before a close.

The sweep is the code's way of computing an order-theoretic fact, `Covers`: a
point is covered when some open at or before it has no close between the two.
`covered_iff` and `openSince_isSome_iff` say so for every log, whatever the order
it was written in, and everything else about windows is derived from them.
-/
namespace AlphaTrade.Library

inductive Phase where
  | open | close
  deriving DecidableEq, Repr

/-- One opening or closing. -/
structure Mark (τ : Type*) where
  phase : Phase
  time : τ
  deriving DecidableEq, Repr

namespace Mark

variable {τ : Type*} [LinearOrder τ]

def Before (a b : Mark τ) : Prop := a.time < b.time ∨ a.time = b.time ∧ (a.phase = .open ∨
  b.phase = .close)

instance (a b : Mark τ) : Decidable (Before a b) :=
  inferInstanceAs (Decidable (a.time < b.time ∨ a.time = b.time ∧ (a.phase = .open ∨
    b.phase = .close)))

theorem Before.time_le {a b : Mark τ} (h : Before a b) : a.time ≤ b.time :=
  h.elim le_of_lt fun h => h.1.le

/-- What comes after a close and opens is strictly later. -/
theorem Before.time_lt {a b : Mark τ} (h : Before a b) (closes : a.phase = .close)
    (opens : b.phase = .open) : a.time < b.time := by
  rcases h with h | ⟨-, h | h⟩
  · exact h
  · rw [closes] at h; cases h
  · rw [opens] at h; cases h

instance : Std.Total (@Before τ _) where
  total a b := by
    rcases lt_trichotomy a.time b.time with h | h | h
    · exact .inl (.inl h)
    · cases ha : a.phase
      · exact .inl (.inr ⟨h, .inl ha⟩)
      · exact .inr (.inr ⟨h.symm, .inr ha⟩)
    · exact .inr (.inl h)

instance : IsTrans (Mark τ) Before where
  trans a b c hab hbc := by
    rcases hab with hab | ⟨eab, hab⟩ <;> rcases hbc with hbc | ⟨ebc, hbc⟩
    · exact .inl (hab.trans hbc)
    · exact .inl (hab.trans_eq ebc)
    · exact .inl (eab.trans_lt hbc)
    · refine .inr ⟨eab.trans ebc, ?_⟩
      rcases hab with hab | hab
      · exact .inl hab
      · rcases hbc with hbc | hbc
        · rw [hab] at hbc; cases hbc
        · exact .inr hbc

def ordered (marks : List (Mark τ)) : List (Mark τ) := marks.insertionSort Before

/-- One pass over ordered marks: is the point inside a window? -/
def sweep (point : τ) : Option τ → List (Mark τ) → Bool
  | none, [] => false
  | some opened, [] => opened ≤ point
  | none, ⟨.open, time⟩ :: rest => sweep point (some time) rest
  | some opened, ⟨.open, _⟩ :: rest => sweep point (some opened) rest
  | none, ⟨.close, _⟩ :: rest => sweep point none rest
  | some opened, ⟨.close, time⟩ :: rest =>
    opened ≤ point && point < time || sweep point none rest

def covered (marks : List (Mark τ)) (point : τ) : Bool := sweep point none (ordered marks)

def lastOpened : Option τ → List (Mark τ) → Option τ
  | opened, [] => opened
  | none, ⟨.open, time⟩ :: rest => lastOpened (some time) rest
  | some opened, ⟨.open, _⟩ :: rest => lastOpened (some opened) rest
  | _, ⟨.close, _⟩ :: rest => lastOpened none rest

def openSince (marks : List (Mark τ)) : Option τ := lastOpened none (ordered marks)

/-! ## What the sweep computes -/

def Covers (marks : Set (Mark τ)) (point : τ) : Prop :=
  ∃ start, ⟨.open, start⟩ ∈ marks ∧ start ≤ point ∧
    ∀ stop, ⟨.close, stop⟩ ∈ marks → stop < start ∨ point < stop

def Unclosed (marks : Set (Mark τ)) : Prop :=
  ∃ start, ⟨.open, start⟩ ∈ marks ∧ ∀ stop, ⟨.close, stop⟩ ∈ marks → stop < start

section First

variable {marks : Set (Mark τ)} {point time : τ}

/-- A close that comes first closes nothing. -/
theorem covers_insert_close (later : ∀ mark ∈ marks, Before ⟨.close, time⟩ mark) :
    Covers (insert ⟨.close, time⟩ marks) point ↔ Covers marks point := by
  constructor
  · rintro ⟨start, opens, start_le, clear⟩
    exact ⟨start, by simpa using opens, start_le, fun stop h => clear stop (by simp [h])⟩
  · rintro ⟨start, opens, start_le, clear⟩
    refine ⟨start, by simp [opens], start_le, fun stop h => ?_⟩
    rcases Set.mem_insert_iff.mp h with h | h
    · cases h
      exact .inl ((later _ opens).time_lt rfl rfl)
    · exact clear stop h

/-- An open that comes first covers up to the next close. -/
theorem covers_insert_open (later : ∀ mark ∈ marks, Before ⟨.open, time⟩ mark) :
    Covers (insert ⟨.open, time⟩ marks) point ↔
      (time ≤ point ∧ ∀ stop, ⟨.close, stop⟩ ∈ marks → point < stop) ∨ Covers marks point := by
  constructor
  · rintro ⟨start, opens, start_le, clear⟩
    rcases Set.mem_insert_iff.mp opens with h | h
    · cases h
      refine .inl ⟨start_le, fun stop h => (clear stop (by simp [h])).resolve_left ?_⟩
      exact not_lt.mpr (later _ h).time_le
    · exact .inr ⟨start, h, start_le, fun stop h => clear stop (by simp [h])⟩
  · rintro (⟨start_le, clear⟩ | ⟨start, opens, start_le, clear⟩)
    · exact ⟨time, by simp, start_le, fun stop h => .inr (clear stop (by simpa using h))⟩
    · exact ⟨start, by simp [opens], start_le, fun stop h => clear stop (by simpa using h)⟩

theorem unclosed_insert_close (later : ∀ mark ∈ marks, Before ⟨.close, time⟩ mark) :
    Unclosed (insert ⟨.close, time⟩ marks) ↔ Unclosed marks := by
  constructor
  · rintro ⟨start, opens, clear⟩
    exact ⟨start, by simpa using opens, fun stop h => clear stop (by simp [h])⟩
  · rintro ⟨start, opens, clear⟩
    refine ⟨start, by simp [opens], fun stop h => ?_⟩
    rcases Set.mem_insert_iff.mp h with h | h
    · cases h
      exact (later _ opens).time_lt rfl rfl
    · exact clear stop h

theorem unclosed_insert_open (later : ∀ mark ∈ marks, Before ⟨.open, time⟩ mark) :
    Unclosed (insert ⟨.open, time⟩ marks) ↔
      (∀ stop, ⟨.close, stop⟩ ∉ marks) ∨ Unclosed marks := by
  constructor
  · rintro ⟨start, opens, clear⟩
    rcases Set.mem_insert_iff.mp opens with h | h
    · cases h
      exact .inl fun stop h => not_lt.mpr (later _ h).time_le (clear stop (by simp [h]))
    · exact .inr ⟨start, h, fun stop h => clear stop (by simp [h])⟩
  · rintro (none | ⟨start, opens, clear⟩)
    · exact ⟨time, by simp, fun stop h => absurd (by simpa using h) (none stop)⟩
    · exact ⟨start, by simp [opens], fun stop h => clear stop (by simpa using h)⟩

end First

section Sweep

variable {marks : List (Mark τ)} {point : τ}

/-- The first of an ordered log comes before the rest, which is ordered. -/
theorem pairwise_cons {mark : Mark τ} (sorted : (mark :: marks).Pairwise Before) :
    (∀ other ∈ {other | other ∈ marks}, Before mark other) ∧ marks.Pairwise Before :=
  List.pairwise_cons.mp sorted

/-- The sweep, from a window that is already open or from none. -/
theorem sweep_iff (opened : Option τ) (sorted : marks.Pairwise Before)
    (early : ∀ start, opened = some start → ∀ mark ∈ marks, start ≤ mark.time) :
    sweep point opened marks = true ↔
      (∃ start, opened = some start ∧ start ≤ point ∧
        ∀ stop, ⟨.close, stop⟩ ∈ marks → point < stop) ∨ Covers {mark | mark ∈ marks} point := by
  fun_induction sweep point opened marks with
  | case1 => simp [Covers]
  | case2 opened => simp [Covers]
  | case3 time rest ih =>
    obtain ⟨first, sorted⟩ := pairwise_cons sorted
    rw [ih sorted fun start h mark listed => by cases h; exact (first mark listed).time_le,
      List.setOfPred_mem_cons, covers_insert_open first]
    simp
  | case4 opened time rest ih =>
    obtain ⟨first, sorted⟩ := pairwise_cons sorted
    rw [ih sorted fun start h mark listed => early start h mark (by simp [listed]),
      List.setOfPred_mem_cons, covers_insert_open first]
    have before := early opened rfl ⟨.open, time⟩ (by simp)
    -- the later open adds nothing: what it covers, the open window covers already
    constructor
    · rintro (h | h)
      · exact .inl (by simpa using h)
      · exact .inr (.inr h)
    · rintro (h | ⟨h, clear⟩ | h)
      · exact .inl (by simpa using h)
      · exact .inl ⟨opened, rfl, before.trans h, clear⟩
      · exact .inr h
  | case5 time rest ih =>
    obtain ⟨first, sorted⟩ := pairwise_cons sorted
    rw [ih sorted (by simp), List.setOfPred_mem_cons, covers_insert_close first]
    simp
  | case6 opened time rest ih =>
    obtain ⟨first, sorted⟩ := pairwise_cons sorted
    simp only [Bool.or_eq_true, Bool.and_eq_true, decide_eq_true_eq, List.setOfPred_mem_cons,
      covers_insert_close first, ih sorted (by simp)]
    have rest_later : ∀ stop, ⟨.close, stop⟩ ∈ rest → time ≤ stop :=
      fun stop h => (first _ h).time_le
    constructor
    · rintro (⟨start_le, ends⟩ | h)
      · refine .inl ⟨opened, rfl, start_le, fun stop h => ?_⟩
        rcases List.mem_cons.mp h with h | h
        · cases h
          exact ends
        · exact ends.trans_le (rest_later stop h)
      · exact .inr (by simpa using h)
    · rintro (⟨start, same, start_le, clear⟩ | h)
      · cases same
        exact .inl ⟨start_le, clear time (by simp)⟩
      · exact .inr (.inr h)

theorem setOf_mem_ordered (marks : List (Mark τ)) :
    {mark | mark ∈ ordered marks} = {mark | mark ∈ marks} :=
  Set.ext fun _ => List.mem_insertionSort Before

theorem pairwise_ordered (marks : List (Mark τ)) : (ordered marks).Pairwise Before :=
  List.pairwise_insertionSort Before marks

/-- The sweep of the sorted log decides coverage. -/
theorem covered_iff : covered marks point = true ↔ Covers {mark | mark ∈ marks} point := by
  rw [covered, sweep_iff none (pairwise_ordered marks) (by simp), setOf_mem_ordered]
  simp

theorem lastOpened_isSome_iff (opened : Option τ) (sorted : marks.Pairwise Before) :
    (lastOpened opened marks).isSome ↔
      (opened.isSome ∧ ∀ stop, ⟨.close, stop⟩ ∉ marks) ∨ Unclosed {mark | mark ∈ marks} := by
  fun_induction lastOpened opened marks with
  | case1 opened => simp [Unclosed]
  | case2 time rest ih =>
    obtain ⟨first, sorted⟩ := pairwise_cons sorted
    rw [ih sorted, List.setOfPred_mem_cons, unclosed_insert_open first]
    simp
  | case3 opened time rest ih =>
    obtain ⟨first, sorted⟩ := pairwise_cons sorted
    rw [ih sorted, List.setOfPred_mem_cons, unclosed_insert_open first]
    simp
  | case4 opened time rest ih =>
    obtain ⟨first, sorted⟩ := pairwise_cons sorted
    rw [ih sorted, List.setOfPred_mem_cons, unclosed_insert_close first]
    simp only [Option.isSome_none, Bool.false_eq_true, false_and, false_or, iff_or_self]
    exact fun h => absurd (List.mem_cons_self ..) (h.2 time)

/-- A window is open at the end of the log when some open has no close after it. -/
theorem openSince_isSome_iff : (openSince marks).isSome ↔ Unclosed {mark | mark ∈ marks} := by
  rw [openSince, lastOpened_isSome_iff none (pairwise_ordered marks), setOf_mem_ordered]
  simp

end Sweep

/-! ## Writing to the log -/

variable {marks : Set (Mark τ)} {point time : τ}

/-- Marks later than a point change nothing at the point. -/
theorem covers_iff_of_later {grown : Set (Mark τ)} (sub : marks ⊆ grown)
    (new : ∀ mark ∈ grown, mark ∈ marks ∨ point < mark.time) :
    Covers grown point ↔ Covers marks point := by
  constructor
  · rintro ⟨start, opens, start_le, clear⟩
    refine ⟨start, (new _ opens).resolve_right ?_, start_le, fun stop h => clear stop (sub h)⟩
    exact not_lt.mpr start_le
  · rintro ⟨start, opens, start_le, clear⟩
    refine ⟨start, sub opens, start_le, fun stop h => ?_⟩
    rcases new _ h with h | h
    · exact clear stop h
    · exact .inr h

/-- A window that nothing closes covers every point from its start on. -/
theorem Unclosed.covers (h : Unclosed marks) (past : ∀ mark ∈ marks, mark.time ≤ point) :
    Covers marks point := by
  obtain ⟨start, opens, clear⟩ := h
  exact ⟨start, opens, past _ opens, fun stop h => .inl (clear stop h)⟩

/-- An open that is later than every close is not closed. -/
theorem unclosed_insert_open_of_lt (later : ∀ stop, ⟨.close, stop⟩ ∈ marks → stop < time) :
    Unclosed (insert ⟨.open, time⟩ marks) :=
  ⟨time, .inl rfl, fun stop h => later stop (by simpa using h)⟩

end Mark

end AlphaTrade.Library
