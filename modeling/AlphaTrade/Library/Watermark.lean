import Mathlib.Data.List.Nodup
import Mathlib.Data.Set.Finite.Lemmas
import AlphaTrade.Library.Run

/-!
# Events with ranks

An event changes a state one way when it arrives in the order of the ranks, and another way
when an event of a higher rank was there before it. The mark is the highest rank seen.

An event of the highest rank is never late, and everything after it is. For a nullable field
that is overwritten in order and only filled in when late, `merged_perm_iff` says for which
events the arrival order does not matter.
-/
namespace AlphaTrade.Library

/-- A state with the highest rank seen. -/
structure Marked (S : Type*) where
  mark : Nat
  state : S

section arrival

variable {ι S : Type*} (rank : ι → Nat) (fresh late : ι → S → S)

def arrive (m : Marked S) (i : ι) : Marked S :=
  if rank i < m.mark then ⟨m.mark, late i m.state⟩ else ⟨rank i, fresh i m.state⟩

variable {rank fresh late} {m : Marked S} {i t : ι} {is pre post : List ι}

theorem arrive_of_lt (h : rank i < m.mark) :
    arrive rank fresh late m i = ⟨m.mark, late i m.state⟩ := if_pos h

theorem arrive_of_le (h : m.mark ≤ rank i) :
    arrive rank fresh late m i = ⟨rank i, fresh i m.state⟩ := if_neg (Nat.not_lt.mpr h)

theorem eq_arrive {m' : Marked S} (mark : m'.mark = max m.mark (rank i))
    (state : m'.state = if rank i < m.mark then late i m.state else fresh i m.state) :
    m' = arrive rank fresh late m i := by
  obtain ⟨mark', state'⟩ := m'
  simp only at mark state
  unfold arrive
  split
  · rename_i late
    rw [mark, state, if_pos late, max_eq_left late.le]
  · rename_i inOrder
    rw [mark, state, if_neg inOrder, max_eq_right (Nat.le_of_not_lt inOrder)]

theorem mark_arrive (m : Marked S) (i : ι) :
    (arrive rank fresh late m i).mark = max m.mark (rank i) := by
  unfold arrive
  split <;> simp <;> omega

theorem mark_run_lt {n : Nat} (h : m.mark < n) (below : ∀ i ∈ is, rank i < n) :
    (run (arrive rank fresh late) m is).mark < n := by
  induction is generalizing m with
  | nil => exact h
  | cons i is ih =>
    obtain ⟨head, tail⟩ := List.forall_mem_cons.mp below
    exact ih (by simp [mark_arrive, h, head]) tail

theorem mark_run_le {n : Nat} (h : m.mark ≤ n) (below : ∀ i ∈ is, rank i ≤ n) :
    (run (arrive rank fresh late) m is).mark ≤ n :=
  Nat.lt_succ_iff.mp (mark_run_lt (Nat.lt_succ_of_le h) fun i mem =>
    Nat.lt_succ_of_le (below i mem))

/-- Below the mark everything is late. -/
theorem run_of_lt (below : ∀ i ∈ is, rank i < m.mark) :
    run (arrive rank fresh late) m is = ⟨m.mark, run (fun s i => late i s) m.state is⟩ := by
  induction is generalizing m with
  | nil => rfl
  | cons i is ih =>
    obtain ⟨head, tail⟩ := List.forall_mem_cons.mp below
    rw [run_cons, arrive_of_lt head, ih (by simpa using tail)]
    rfl

/-- The event of the highest rank is fresh, and what follows it is late. -/
theorem run_of_top (mark : m.mark ≤ rank t) (before : ∀ i ∈ pre, rank i < rank t)
    (after : ∀ i ∈ post, rank i < rank t) :
    (run (arrive rank fresh late) m (pre ++ t :: post)).state =
      run (fun s i => late i s) (fresh t (run (arrive rank fresh late) m pre).state) post := by
  rw [run_append, run_cons, arrive_of_le (mark_run_le mark fun i mem => (before i mem).le),
    run_of_lt after]

/-- Of events with distinct ranks, the others rank strictly below the top. -/
theorem lt_top_of_nodup (nodup : ((pre ++ t :: post).map rank).Nodup)
    (top : ∀ i ∈ pre ++ t :: post, rank i ≤ rank t) :
    (∀ i ∈ pre, rank i < rank t) ∧ ∀ i ∈ post, rank i < rank t := by
  simp only [List.map_append, List.map_cons, List.nodup_append, List.nodup_cons, List.mem_map,
    List.mem_cons] at nodup
  obtain ⟨-, ⟨behind, -⟩, apart⟩ := nodup
  constructor
  · intro i mem
    refine lt_of_le_of_ne (top i (by simp [mem])) fun same => ?_
    exact apart _ ⟨i, mem, rfl⟩ _ (.inl rfl) same
  · intro i mem
    refine lt_of_le_of_ne (top i (by simp [mem])) fun same => ?_
    exact behind ⟨i, mem, same⟩

/-- A nonempty list has an element of the highest rank among those with a property. -/
theorem exists_top (rank : ι → Nat) {p : ι → Prop} (h : ∃ i ∈ is, p i) :
    ∃ t ∈ is, p t ∧ ∀ i ∈ is, p i → rank i ≤ rank t := by
  have finite : {i | i ∈ is ∧ p i}.Finite := (List.finite_toSet is).subset fun i mem => mem.1
  obtain ⟨t, ⟨mem, pt⟩, top⟩ := Set.exists_max_image _ rank finite h
  exact ⟨t, mem, pt, fun i mem pi => top i ⟨mem, pi⟩⟩

/-- Two members can be brought to the front. -/
theorem exists_perm_cons_cons {i j : ι} (hi : i ∈ is) (hj : j ∈ is) (apart : i ≠ j) :
    ∃ rest, (i :: j :: rest).Perm is := by
  obtain ⟨a, b, rfl⟩ := List.append_of_mem hi
  have mem : j ∈ a ++ b := by
    simp only [List.mem_append, List.mem_cons] at hj ⊢
    obtain hj | rfl | hj := hj
    · exact .inl hj
    · exact absurd rfl apart
    · exact .inr hj
  obtain ⟨c, d, eq⟩ := List.append_of_mem mem
  refine ⟨c ++ d, ?_⟩
  have front : (a ++ i :: b).Perm (i :: (c ++ j :: d)) := eq ▸ List.perm_middle
  exact ((List.perm_middle.symm).cons i).trans front.symm

/-- Two events can come first, the top being one of them. -/
theorem exists_perm_with_top {i t : ι} (nodup : (is.map rank).Nodup) (hi : i ∈ is) (ht : t ∈ is)
    (top : ∀ i ∈ is, rank i ≤ rank t) (apart : i ≠ t) :
    ∃ rest, (t :: i :: rest).Perm is ∧ (i :: t :: rest).Perm is ∧ rank i < rank t ∧
      ∀ j ∈ rest, rank j < rank t := by
  obtain ⟨rest, perm⟩ := exists_perm_cons_cons ht hi apart.symm
  have distinct := (perm.map rank).nodup_iff.mpr nodup
  have below := (lt_top_of_nodup (show (([] ++ t :: i :: rest).map rank).Nodup from distinct)
    fun j mem => top j (perm.mem_iff.mp mem)).2
  obtain ⟨first, later⟩ := List.forall_mem_cons.mp below
  exact ⟨rest, perm, (List.Perm.swap t i rest).trans perm, first, later⟩

end arrival

/-! ## Nullable fields -/

/-- What an event says about a field. -/
inductive Entry (α : Type*) where
  | absent | null | value (a : α)
  deriving DecidableEq

namespace Entry

variable {α : Type*}

def overwrite (e : Entry α) (current : Option α) : Option α :=
  match e with
  | .absent => current
  | .null => none
  | .value a => some a

def fill (e : Entry α) (current : Option α) : Option α :=
  if current.isSome then current else e.overwrite current

@[simp] theorem overwrite_absent (current : Option α) :
    (absent : Entry α).overwrite current = current := rfl

@[simp] theorem overwrite_null (current : Option α) :
    (null : Entry α).overwrite current = none := rfl

@[simp] theorem overwrite_value (a : α) (current : Option α) :
    (value a).overwrite current = some a := rfl

@[simp] theorem fill_some (e : Entry α) (a : α) : e.fill (some a) = some a := rfl

@[simp] theorem fill_none (e : Entry α) : e.fill none = e.overwrite none := rfl

end Entry

section merging

variable {ι α : Type*} (rank : ι → Nat) (entry : ι → Entry α)

def mergeStep : Marked (Option α) → ι → Marked (Option α) :=
  arrive rank (fun i => (entry i).overwrite) (fun i => (entry i).fill)

def merged (is : List ι) : Option α := (run (mergeStep rank entry) ⟨0, none⟩ is).state

def Valued (i : ι) : Prop := ∃ a, entry i = .value a

/-- The event of the highest rank has a value; or all values are one, and above every null
with a value below it there is a value. -/
def Settled (is : List ι) : Prop :=
  (∃ t ∈ is, (∀ i ∈ is, rank i ≤ rank t) ∧ Valued entry t) ∨
    (∀ i ∈ is, ∀ j ∈ is, ∀ a b, entry i = .value a → entry j = .value b → a = b) ∧
      ∀ h ∈ is, entry h = .null → ∀ l ∈ is, rank l < rank h → Valued entry l →
        ∃ k ∈ is, rank h < rank k ∧ Valued entry k

variable {rank entry} {m : Marked (Option α)} {is o pre post : List ι} {t : ι} {v : α}

theorem run_fill_some (is : List ι) : run (fun s i => (entry i).fill s) (some v) is = some v :=
  run_invariant_of_step _ (fun s i (h : s = some v) => by rw [h, Entry.fill_some]) is rfl

theorem merged_of_top {a : α} (nodup : (is.map rank).Nodup) (mem : t ∈ is)
    (top : ∀ i ∈ is, rank i ≤ rank t) (said : entry t = .value a) :
    merged rank entry is = some a := by
  obtain ⟨pre, post, rfl⟩ := List.append_of_mem mem
  obtain ⟨before, after⟩ := lt_top_of_nodup nodup top
  rw [merged, mergeStep, run_of_top (Nat.zero_le _) before after]
  simp only [said, Entry.overwrite_value]
  exact run_fill_some post

/-- Whatever is in the field came from an event. -/
theorem mem_run_of_entry {P : α → Prop} (said : ∀ i ∈ is, ∀ a, entry i = .value a → P a)
    (h : ∀ a ∈ m.state, P a) : ∀ a ∈ (run (mergeStep rank entry) m is).state, P a := by
  induction is generalizing m with
  | nil => exact h
  | cons i is ih =>
    obtain ⟨head, tail⟩ := List.forall_mem_cons.mp said
    refine ih tail ?_
    have written : ∀ s : Option α, (∀ a ∈ s, P a) → ∀ a ∈ (entry i).overwrite s, P a := by
      intro s hs a mem
      cases e : entry i with
      | absent => exact hs a (by simpa [e] using mem)
      | null => simp [e] at mem
      | value b =>
        obtain rfl : b = a := by simpa [e] using mem
        exact head b e
    unfold mergeStep arrive
    split
    · intro a mem
      cases current : m.state with
      | none => exact written none (by simp) a (by simpa [current] using mem)
      | some b =>
        obtain rfl : b = a := by simpa [current] using mem
        exact h b current
    · exact written m.state h

theorem merged_of_unvalued (unvalued : ∀ i ∈ is, ¬Valued entry i) :
    merged rank entry is = none := by
  refine Option.eq_none_iff_forall_ne_some.mpr fun a there => ?_
  exact mem_run_of_entry (P := fun _ => False) (fun i mem a said => unvalued i mem ⟨a, said⟩)
    (by simp) a there

/-- A value stays while every null still to come is late. -/
theorem run_some_of_covered (agree : ∀ i ∈ is, ∀ a, entry i = .value a → a = v)
    (covered : ∀ i ∈ is, entry i = .null → rank i < m.mark) (h : m.state = some v) :
    (run (mergeStep rank entry) m is).state = some v := by
  induction is generalizing m with
  | nil => exact h
  | cons i is ih =>
    obtain ⟨head, tail⟩ := List.forall_mem_cons.mp agree
    obtain ⟨null, nulls⟩ := List.forall_mem_cons.mp covered
    have marked : m.mark ≤ (mergeStep rank entry m i).mark := by simp [mergeStep, mark_arrive]
    refine ih tail (fun j mem said => (nulls j mem said).trans_le marked) ?_
    unfold mergeStep arrive
    split
    · simp [h]
    · rename_i fresh
      cases said : entry i with
      | absent => simpa [said] using h
      | null => exact absurd (null said) fresh
      | value a => simp [said, head a said]

/-- Where all values are one and the highest of them is above the nulls that have a value
below them, it is what remains. -/
theorem merged_of_agree (nodup : (is.map rank).Nodup) (mem : t ∈ is)
    (agree : ∀ i ∈ is, ∀ a, entry i = .value a → a = v) (said : entry t = .value v)
    (covered : ∀ i ∈ is, entry i = .null → rank i ≤ rank t) : merged rank entry is = some v := by
  obtain ⟨pre, post, rfl⟩ := List.append_of_mem mem
  have before : ∀ a ∈ (run (mergeStep rank entry) ⟨0, none⟩ pre).state, a = v :=
    mem_run_of_entry (fun i hi => agree i (by simp [hi])) (by simp)
  rw [merged, run_append, run_cons]
  generalize run (mergeStep rank entry) ⟨0, none⟩ pre = s at before ⊢
  have marked : rank t ≤ (mergeStep rank entry s t).mark := by simp [mergeStep, mark_arrive]
  refine run_some_of_covered (fun i hi => agree i (by simp [hi])) ?_ ?_
  · intro i hi null
    have below := covered i (by simp [hi]) null
    have apart : rank i ≠ rank t := by
      intro same
      simp only [List.map_append, List.map_cons, List.nodup_append, List.nodup_cons,
        List.mem_map] at nodup
      exact nodup.2.1.1 ⟨i, hi, same⟩
    omega
  · unfold mergeStep arrive
    split
    · cases current : s.state with
      | none => simp [said]
      | some b => simp [before b current]
    · simp [said]

/-- Settled events give one value in every order. -/
theorem Settled.exists_merged (h : Settled rank entry is) (nodup : (is.map rank).Nodup) :
    ∃ result, ∀ o : List ι, o.Perm is → merged rank entry o = result := by
  have distinct : ∀ o : List ι, o.Perm is → (o.map rank).Nodup := fun o perm =>
    (perm.map rank).nodup_iff.mpr nodup
  obtain ⟨t, mem, top, a, said⟩ | ⟨agree, covered⟩ := h
  · refine ⟨some a, fun o perm => ?_⟩
    exact merged_of_top (distinct o perm) (perm.mem_iff.mpr mem)
      (fun i mem => top i (perm.mem_iff.mp mem)) said
  by_cases some_value : ∃ i ∈ is, Valued entry i
  · obtain ⟨t, mem, ⟨v, said⟩, top⟩ := exists_top rank some_value
    refine ⟨some v, fun o perm => merged_of_agree (distinct o perm)
      (perm.mem_iff.mpr mem) ?_ said ?_⟩
    · intro i imem a here
      exact agree i (perm.mem_iff.mp imem) t mem a v here said
    · intro i imem null
      by_contra above
      obtain ⟨k, kmem, higher, valued⟩ := covered i (perm.mem_iff.mp imem) null t mem
        (Nat.lt_of_not_le above) ⟨v, said⟩
      have := top k kmem valued
      omega
  · refine ⟨none, fun o perm => merged_of_unvalued fun i mem valued => ?_⟩
    exact some_value ⟨i, perm.mem_iff.mp mem, valued⟩

/-- The top first makes all others late: the next one with a value decides. -/
theorem merged_top_first {l : ι} {rest : List ι} (below : ∀ i ∈ l :: rest, rank i < rank t)
    (unvalued : ¬Valued entry t) (said : entry l = .value v) :
    merged rank entry (t :: l :: rest) = some v := by
  have empty : (entry t).overwrite none = none := by
    cases e : entry t with
    | value a => exact absurd ⟨a, e⟩ unvalued
    | _ => rfl
  rw [merged, mergeStep, ← List.nil_append (t :: l :: rest),
    run_of_top (Nat.zero_le (rank t)) (by simp) below, run_nil, run_cons, empty, said]
  exact run_fill_some rest

/-- A null in order, with no value above it, is what remains. -/
theorem merged_null_last {h : ι} {pre post : List ι} (below : ∀ i ∈ pre, rank i < rank h)
    (null : entry h = .null) (unvalued : ∀ i ∈ post, ¬Valued entry i) :
    merged rank entry (pre ++ h :: post) = none := by
  have marked : (run (arrive rank (fun i => (entry i).overwrite) fun i => (entry i).fill)
      ⟨0, none⟩ pre).mark ≤ rank h :=
    mark_run_le (Nat.zero_le (rank h)) fun i mem => (below i mem).le
  rw [merged, run_append, run_cons, mergeStep, arrive_of_le marked, null]
  refine Option.eq_none_iff_forall_ne_some.mpr fun a there => ?_
  exact mem_run_of_entry (P := fun _ => False) (fun i mem a said => unvalued i mem ⟨a, said⟩)
    (by simp) a there

/-- Bring what ranks below a member before it, and what ranks above it after it. -/
theorem exists_null_last {h : ι} (nodup : (is.map rank).Nodup) (mem : h ∈ is)
    (null : entry h = .null) (unvalued : ∀ k ∈ is, rank h < rank k → ¬Valued entry k) :
    ∃ o : List ι, o.Perm is ∧ merged rank entry o = none := by
  obtain ⟨pre, post, rfl⟩ := List.append_of_mem mem
  let others := pre ++ post
  refine ⟨others.filter (fun i => decide (rank i < rank h)) ++
    h :: others.filter (fun i => !decide (rank i < rank h)), ?_, ?_⟩
  · refine List.perm_middle.trans (List.Perm.trans ?_ List.perm_middle.symm)
    exact (List.filter_append_perm _ others).cons h
  · refine merged_null_last (by simp) null fun i imem => ?_
    obtain ⟨imem, notBelow⟩ := List.mem_filter.mp imem
    have apart : rank i ≠ rank h := by
      have middle : (pre ++ h :: post).Perm (h :: (pre ++ post)) := List.perm_middle
      have distinct := (middle.map rank).nodup_iff.mp nodup
      rw [List.map_cons, List.nodup_cons] at distinct
      exact fun same => distinct.1 (same ▸ List.mem_map_of_mem imem)
    refine unvalued i ?_ ?_
    · simp only [others, List.mem_append, List.mem_cons] at imem ⊢
      tauto
    · simp only [Bool.not_eq_true', decide_eq_false_iff_not, not_lt] at notBelow
      omega

/-- The arrival order does not matter exactly when the events are settled. -/
theorem merged_perm_iff (nodup : (is.map rank).Nodup) :
    (∀ o o' : List ι, o.Perm is → o'.Perm is → merged rank entry o = merged rank entry o') ↔
      Settled rank entry is := by
  constructor
  · intro same
    by_cases none_ : is = []
    · subst none_
      exact .inr ⟨by simp, by simp⟩
    obtain ⟨i₀, mem₀⟩ := List.exists_mem_of_ne_nil is none_
    obtain ⟨t, mem, -, top⟩ := exists_top rank (p := fun _ => True) ⟨i₀, mem₀, trivial⟩
    have top : ∀ i ∈ is, rank i ≤ rank t := fun i mem => top i mem trivial
    by_cases valued : Valued entry t
    · exact .inl ⟨t, mem, top, valued⟩
    -- Every value can be the one that remains.
    have remains : ∀ l ∈ is, ∀ v, entry l = .value v →
        ∃ o : List ι, o.Perm is ∧ merged rank entry o = some v := by
      intro l lmem v said
      have apart : t ≠ l := by
        rintro rfl
        exact valued ⟨v, said⟩
      obtain ⟨rest, perm, -, first, later⟩ := exists_perm_with_top nodup lmem mem top apart.symm
      exact ⟨_, perm, merged_top_first (List.forall_mem_cons.mpr ⟨first, later⟩) valued said⟩
    refine .inr ⟨?_, ?_⟩
    · intro i imem j jmem a b ha hb
      obtain ⟨o, perm, eq⟩ := remains i imem a ha
      obtain ⟨o', perm', eq'⟩ := remains j jmem b hb
      have := same o o' perm perm'
      rw [eq, eq'] at this
      exact Option.some.inj this
    · intro h hmem null l lmem lower lvalued
      by_contra no_value
      obtain ⟨v, said⟩ := lvalued
      obtain ⟨o, perm, eq⟩ := remains l lmem v said
      obtain ⟨o', perm', eq'⟩ := exists_null_last nodup hmem null fun k kmem higher kvalued =>
        no_value ⟨k, kmem, higher, kvalued⟩
      have := same o o' perm perm'
      rw [eq, eq'] at this
      cases this
  · intro settled o o' perm perm'
    obtain ⟨result, all⟩ := settled.exists_merged nodup
    rw [all o perm, all o' perm']

end merging

/-! ## Fields that always have a value -/

section latest

variable {ι S : Type*} (rank : ι → Nat) (said : ι → Option S)

def latestStep : Marked S → ι → Marked S :=
  arrive rank (fun i s => (said i).getD s) (fun _ s => s)

def latest (init : S) (is : List ι) : S := (run (latestStep rank said) ⟨0, init⟩ is).state

variable {rank said} {init : S} {is pre post : List ι} {t : ι}

theorem run_late_self (s : S) (is : List ι) : run (fun (s : S) (_ : ι) => s) s is = s := by
  induction is with
  | nil => rfl
  | cons i is ih => exact ih

theorem latest_of_top (before : ∀ i ∈ pre, rank i < rank t) (after : ∀ i ∈ post, rank i < rank t) :
    latest rank said init (pre ++ t :: post) = (said t).getD (latest rank said init pre) := by
  rw [latest, latestStep, run_of_top (Nat.zero_le _) before after, run_late_self]
  rfl

theorem run_latest_eq {m : Marked S} (same : ∀ i ∈ is, ∀ a ∈ said i, a = init)
    (h : m.state = init) : (run (latestStep rank said) m is).state = init := by
  induction is generalizing m with
  | nil => exact h
  | cons i is ih =>
    obtain ⟨head, tail⟩ := List.forall_mem_cons.mp same
    refine ih tail ?_
    unfold latestStep arrive
    split
    · exact h
    · cases here : said i with
      | none => simpa [here] using h
      | some a => simpa [here] using head a here

/-- The arrival order does not matter exactly when the event of the highest rank says what
the value is, or no event says anything else than the first value. -/
theorem latest_perm_iff (nodup : (is.map rank).Nodup) :
    (∀ o o' : List ι, o.Perm is → o'.Perm is →
      latest rank said init o = latest rank said init o') ↔
      (∃ t ∈ is, (∀ i ∈ is, rank i ≤ rank t) ∧ (said t).isSome) ∨
        ∀ i ∈ is, ∀ a ∈ said i, a = init := by
  constructor
  · intro same
    by_contra neither
    obtain ⟨silent, other⟩ := not_or.mp neither
    push Not at silent other
    obtain ⟨i, imem, a, ha, differs⟩ := other
    obtain ⟨t, mem, -, top⟩ := exists_top rank (p := fun _ => True) ⟨i, imem, trivial⟩
    have top : ∀ i ∈ is, rank i ≤ rank t := fun i mem => top i mem trivial
    have quiet : said t = none := by simpa using silent t mem top
    have apart : i ≠ t := by
      rintro rfl
      simp [quiet] at ha
    obtain ⟨rest, perm, perm', first, later⟩ := exists_perm_with_top nodup imem mem top apart
    have before : latest rank said init ([] ++ t :: i :: rest) = _ :=
      latest_of_top (by simp) (List.forall_mem_cons.mpr ⟨first, later⟩)
    have after : latest rank said init ([i] ++ t :: rest) = _ :=
      latest_of_top (by simpa using first) later
    have eq := same _ _ perm perm'
    rw [List.nil_append] at before
    rw [List.singleton_append] at after
    rw [before, after, quiet] at eq
    have alone : latest rank said init [i] = a := by
      simp [latest, latestStep, arrive, Option.mem_def.mp ha]
    rw [Option.getD_none, Option.getD_none, alone] at eq
    exact differs eq.symm
  · intro h o o' perm perm'
    obtain ⟨t, mem, top, told⟩ | silent := h
    · obtain ⟨a, ha⟩ := Option.isSome_iff_exists.mp told
      have all : ∀ o : List ι, o.Perm is → latest rank said init o = a := by
        intro o perm
        have distinct := (perm.map rank).nodup_iff.mpr nodup
        have highest : ∀ i ∈ o, rank i ≤ rank t := fun i imem => top i (perm.mem_iff.mp imem)
        obtain ⟨pre, post, rfl⟩ := List.append_of_mem (perm.mem_iff.mpr mem)
        obtain ⟨before, after⟩ := lt_top_of_nodup distinct highest
        rw [latest_of_top before after, ha, Option.getD_some]
      rw [all o perm, all o' perm']
    · have all : ∀ o : List ι, o.Perm is → latest rank said init o = init := fun o perm =>
        run_latest_eq (fun i mem => silent i (perm.mem_iff.mp mem)) rfl
      rw [all o perm, all o' perm']

end latest

end AlphaTrade.Library
