import AlphaTrade.Backtest.Replay
import AlphaTrade.Library.Drawdown
import AlphaTrade.Library.SortedOn

/-!
# The ledger of a replay

Each candidate of an event stands in a ledger beside what the run has made of it. The candidates
that were entered, in their order, and the trades, with the open one last, have the same keys.

## Main results

* `segment_accounts`: in an uncancelled run the trades do not overlap and count up from the start
  of the sequence, the equity and the drawdown agree with them, and every confirmed candidate is
  blocked with a reason or is the entry of exactly one trade.
-/
namespace AlphaTrade.Backtest
open Library
open Market (OhlcvBar Contiguous)

/-- What a candidate becomes. -/
structure Settled (original final : ReplayCandidate) : Prop where
  setup : final.setupId = original.setupId
  unconfirmed : ¬original.Confirmed → final = original
  confirmed : original.Confirmed →
    final.state = "blocked" ∧ final.reasons ≠ [] ∨ final.Entered

def BacktestTradeRecord.key (record : BacktestTradeRecord) : Option Nat × Option Nat :=
  (some record.sequence, record.setupId)

def ReplayCandidate.key (candidate : ReplayCandidate) : Option Nat × Option Nat :=
  (candidate.tradeSequence, some candidate.setupId)

def enteredKeys (pairs : List (ReplayCandidate × ReplayCandidate)) :
    List (Option Nat × Option Nat) :=
  (pairs.filter fun pair => pair.1.Confirmed ∧ pair.2.Entered).map (·.2.key)

/-- All candidates are settled but the waiting one, behind which none is entered. -/
inductive Filed : Option Nat → List (ReplayCandidate × ReplayCandidate) → Prop where
  | idle {pairs : List (ReplayCandidate × ReplayCandidate)}
      (settled : ∀ pair ∈ pairs, Settled pair.1 pair.2) : Filed none pairs
  | waiting {before after : List (ReplayCandidate × ReplayCandidate)} {candidate : ReplayCandidate}
      (confirmed : candidate.Confirmed) (first : ∀ pair ∈ before, Settled pair.1 pair.2)
      (later : ∀ pair ∈ after, Settled pair.1 pair.2) (behind : enteredKeys after = []) :
      Filed (some before.length) (before ++ (candidate, candidate) :: after)

def ReplayState.openKeys (terms : ReplayTerms) (s : ReplayState) : List (Option Nat × Option Nat) :=
  match s.opened with
  | none => []
  | some holding => [(some (terms.sequenceStart + s.trades.length),
      (s.candidates.map (·.setupId))[holding.owner]?)]

/-- The ledger of a state: the events so far and what they have become. -/
structure Ledger (terms : ReplayTerms) (seen : List ReplayCandidate)
    (pairs : List (ReplayCandidate × ReplayCandidate)) (s : ReplayState) : Prop where
  originals : pairs.map (·.1) = seen
  finals : pairs.map (·.2) = s.candidates
  filed : Filed s.pending pairs
  owned : ∀ holding ∈ s.opened, holding.owner < s.candidates.length
  keyed : enteredKeys pairs = s.trades.map (·.key) ++ s.openKeys terms
  numbered : s.trades.map (·.sequence) = List.range' terms.sequenceStart s.trades.length
  accounted : Accounted terms.initialCapital (s.trades.map (·.netPnl)) s.equity s.peak s.maxDd

section lemmas

variable {original final candidate : ReplayCandidate} {k : Nat}
  {pairs others before after : List (ReplayCandidate × ReplayCandidate)}

theorem ReplayCandidate.Confirmed.not_entered (confirmed : candidate.Confirmed) :
    ¬candidate.Entered := by
  unfold ReplayCandidate.Confirmed at confirmed
  unfold ReplayCandidate.Entered
  rw [confirmed]
  decide

theorem settled_of_unconfirmed (unconfirmed : ¬candidate.Confirmed) : Settled candidate candidate :=
  ⟨rfl, fun _ => rfl, fun confirmed => absurd confirmed unconfirmed⟩

variable {becomes : ReplayCandidate → ReplayCandidate} {pending : Option Nat}

theorem settled_of_blocks (blocks : ReplayState.Blocks becomes) (confirmed : candidate.Confirmed) :
    Settled candidate (becomes candidate) where
  setup := blocks.setup candidate
  unconfirmed unconfirmed := absurd confirmed unconfirmed
  confirmed _ := .inl ⟨blocks.state candidate, blocks.reasons candidate⟩

@[simp] theorem enteredKeys_append :
    enteredKeys (pairs ++ others) = enteredKeys pairs ++ enteredKeys others := by
  simp [enteredKeys]

theorem enteredKeys_cons_of_not (stays : ¬(original.Confirmed ∧ final.Entered)) :
    enteredKeys ((original, final) :: pairs) = enteredKeys pairs := by
  unfold enteredKeys
  rw [List.filter_cons_of_neg (by simpa using stays)]

theorem enteredKeys_cons_of (confirmed : original.Confirmed) (entered : final.Entered) :
    enteredKeys ((original, final) :: pairs) = final.key :: enteredKeys pairs := by
  unfold enteredKeys
  rw [List.filter_cons_of_pos (by simpa using ⟨confirmed, entered⟩), List.map_cons]

theorem not_entered_of_blocks (blocks : ReplayState.Blocks becomes) :
    ¬(becomes candidate).Entered := by
  unfold ReplayCandidate.Entered
  rw [blocks.state]
  decide

theorem modify_append_cons {α : Type} (front : List α) (a : α) (back : List α) (f : α → α) :
    (front ++ a :: back).modify front.length f = front ++ f a :: back := by
  induction front with
  | nil => rfl
  | cons b front ih => rw [List.cons_append, List.length_cons, List.modify_succ_cons, ih,
      List.cons_append]

/-- A filed ledger splits at its waiting candidate. -/
theorem Filed.split (filed : Filed pending pairs) (waits : pending = some k) :
    ∃ before candidate after, pairs = before ++ (candidate, candidate) :: after ∧
      k = before.length ∧ candidate.Confirmed ∧ (∀ pair ∈ before, Settled pair.1 pair.2) ∧
      (∀ pair ∈ after, Settled pair.1 pair.2) ∧ enteredKeys after = [] := by
  cases filed with
  | idle => cases waits
  | waiting confirmed first later behind =>
    exact ⟨_, _, _, rfl, (Option.some.inj waits).symm, confirmed, first, later, behind⟩

/-- A candidate is listed behind a waiting one, or where none waits. -/
theorem Filed.list (filed : Filed pending pairs) {final : ReplayCandidate}
    (settled : Settled candidate final) (unentered : ¬(candidate.Confirmed ∧ final.Entered)) :
    Filed pending (pairs ++ [(candidate, final)]) := by
  have one : ∀ pair ∈ [(candidate, final)], Settled pair.1 pair.2 := by simpa using settled
  cases filed with
  | idle all =>
    exact .idle fun pair mem => (List.mem_append.mp mem).elim (all pair) (one pair)
  | @waiting before after waits confirmed first later behind =>
    rw [List.append_assoc, List.cons_append]
    refine .waiting confirmed first
      (fun pair mem => (List.mem_append.mp mem).elim (later pair) (one pair)) ?_
    rw [enteredKeys_append, behind, enteredKeys_cons_of_not unentered]
    rfl

end lemmas

namespace Ledger

variable {terms : ReplayTerms} {seen : List ReplayCandidate}
  {pairs : List (ReplayCandidate × ReplayCandidate)} {s after : ReplayState} {i k : Nat}
  {bar : OhlcvBar} {candidate : ReplayCandidate} {last : Bool}

theorem openKeys_congr {s t : ReplayState}
    (opened : t.opened.map (·.owner) = s.opened.map (·.owner))
    (trades : t.trades = s.trades)
    (setups : t.candidates.map (·.setupId) = s.candidates.map (·.setupId)) :
    t.openKeys terms = s.openKeys terms := by
  unfold ReplayState.openKeys
  rw [trades, setups]
  cases first : t.opened <;> cases second : s.opened <;> simp_all

theorem openKeys_of_flat (flat : s.opened = none) : s.openKeys terms = [] := by
  unfold ReplayState.openKeys
  rw [flat]

theorem openKeys_of_opened {holding : Holding} (opened : s.opened = some holding) :
    s.openKeys terms = [(some (terms.sequenceStart + s.trades.length),
      (s.candidates.map (·.setupId))[holding.owner]?)] := by
  unfold ReplayState.openKeys
  rw [opened]

theorem openKeys_list (owned : ∀ holding ∈ s.opened, holding.owner < s.candidates.length)
    (final : ReplayCandidate) (pending : Option Nat) :
    ({ s with candidates := s.candidates ++ [final], pending } : ReplayState).openKeys terms =
      s.openKeys terms := by
  unfold ReplayState.openKeys
  dsimp only
  split
  · rfl
  · rename_i holding opened
    have inside : holding.owner < (s.candidates.map (·.setupId)).length := by
      simpa using owned holding opened
    rw [List.map_append, List.getElem?_append_left inside]

/-- The ledger splits at the waiting candidate. -/
theorem split (ledger : Ledger terms seen pairs s) (waits : s.waiting = some (k, candidate)) :
    ∃ before after, pairs = before ++ (candidate, candidate) :: after ∧ k = before.length ∧
      s.candidates = before.map (·.2) ++ candidate :: after.map (·.2) ∧ candidate.Confirmed ∧
      (∀ pair ∈ before, Settled pair.1 pair.2) ∧ (∀ pair ∈ after, Settled pair.1 pair.2) ∧
      enteredKeys after = [] := by
  obtain ⟨pending, found⟩ := ReplayState.waiting_eq_some.mp waits
  obtain ⟨before, c, after, rfl, rfl, facts⟩ := ledger.filed.split pending
  have finals := ledger.finals
  rw [List.map_append, List.map_cons] at finals
  obtain rfl : c = candidate := by
    rw [← finals, List.getElem?_append_right (by simp)] at found
    simpa using found
  exact ⟨before, after, rfl, rfl, finals.symm, facts⟩

/-- The waiting candidate is settled, with no key or with one. -/
theorem settle (ledger : Ledger terms seen pairs s) (waits : s.waiting = some (k, candidate))
    {becomes : ReplayCandidate → ReplayCandidate}
    (settled : Settled candidate (becomes candidate)) :
    ∃ pairs', pairs'.map (·.1) = seen ∧ pairs'.map (·.2) = (s.settle k becomes).candidates ∧
      Filed none pairs' ∧
      enteredKeys pairs' = enteredKeys pairs ++ enteredKeys [(candidate, becomes candidate)] := by
  obtain ⟨before, after, rfl, rfl, finals, confirmed, first, later, behind⟩ := ledger.split waits
  refine ⟨before ++ (candidate, becomes candidate) :: after, ?_, ?_, .idle ?_, ?_⟩
  · rw [← ledger.originals]
    simp
  · have modified := modify_append_cons (before.map (·.2)) candidate (after.map (·.2)) becomes
    rw [List.length_map, ← finals] at modified
    simpa [ReplayState.settle] using modified.symm
  · intro pair mem
    rcases List.mem_append.mp mem with mem | mem
    · exact first pair mem
    · rcases List.mem_cons.mp mem with rfl | mem
      · exact settled
      · exact later pair mem
  · have unentered : ¬(candidate.Confirmed ∧ candidate.Entered) :=
      fun both => both.1.not_entered both.2
    rw [enteredKeys_append, enteredKeys_append, enteredKeys_cons_of_not unentered, behind,
      List.append_nil, ← List.singleton_append, enteredKeys_append, behind, List.append_nil]

/-- An open keeps the ledger. -/
theorem decide (ledger : Ledger terms seen pairs s)
    (decided : ReplayState.Decided terms s i bar after) :
    ∃ pairs', Ledger terms seen pairs' after := by
  cases decided with
  | idle => exact ⟨pairs, ledger⟩
  | @blocked k candidate becomes waits blocks =>
    have confirmed := (ledger.split waits).choose_spec.choose_spec.2.2.2.1
    obtain ⟨pairs', originals, finals, filed, keys⟩ := ledger.settle waits
      (settled_of_blocks blocks confirmed)
    refine ⟨pairs', originals, finals, filed, ?_, ?_, ledger.numbered, ledger.accounted⟩
    · intro holding opened
      have owned := ledger.owned holding opened
      simpa [ReplayState.settle] using owned
    · rw [keys, enteredKeys_cons_of_not fun both => not_entered_of_blocks blocks both.2,
        ledger.keyed]
      have same : (s.settle k becomes).openKeys terms = s.openKeys terms :=
        openKeys_congr rfl rfl (ReplayState.setups_settle becomes blocks.setup s k)
      rw [same]
      exact List.append_nil _
  | @entered k candidate stop action waits checked =>
    obtain ⟨_, found⟩ := ReplayState.waiting_eq_some.mp waits
    have confirmed := (ledger.split waits).choose_spec.choose_spec.2.2.2.1
    have listed : k < s.candidates.length := (List.getElem?_eq_some_iff.mp found).1
    have settled : Settled candidate (s.accept terms bar action candidate) :=
      ⟨rfl, fun unconfirmed => absurd confirmed unconfirmed, fun _ => .inr rfl⟩
    obtain ⟨pairs', originals, finals, filed, keys⟩ := ledger.settle waits settled
    refine ⟨pairs', originals, finals, filed, ?_, ?_, ledger.numbered, ledger.accounted⟩
    · rintro holding ⟨⟩
      simpa [ReplayState.enter, ReplayState.settle] using listed
    · have own : (s.candidates.map (·.setupId))[k]? = some candidate.setupId := by
        rw [List.getElem?_map, found, Option.map_some]
      have setups : (s.settle k (s.accept terms bar action)).candidates.map (·.setupId) =
          s.candidates.map (·.setupId) :=
        ReplayState.setups_settle (s.accept terms bar action) (fun _ => rfl) s k
      have opens : (s.enter terms k candidate stop action i bar).openKeys terms =
          [(some (terms.sequenceStart + s.trades.length), some candidate.setupId)] := by
        rw [← own, ← setups]
        rfl
      have accepted : (s.accept terms bar action candidate).Entered := rfl
      rw [keys, ledger.keyed, openKeys_of_flat checked.flat, List.append_nil,
        enteredKeys_cons_of confirmed accepted,
        opens]
      rfl

/-- A bar keeps the ledger of the open trade. -/
theorem hold (ledger : Ledger terms seen pairs s) (held : ReplayState.Held terms s bar last after) :
    Ledger terms seen pairs after := by
  cases held with
  | idle => exact ledger
  | @carried holding opened stays =>
    refine ⟨ledger.originals, ledger.finals, ledger.filed, ?_, ?_, ledger.numbered,
      ledger.accounted⟩
    · rintro _ ⟨⟩
      exact ledger.owned holding opened
    · rw [ledger.keyed, openKeys_of_opened opened, openKeys_of_opened rfl]
  | @closed holding exit opened leaves =>
    refine ⟨ledger.originals, ledger.finals, ledger.filed, ?_, ?_, ?_, ?_⟩
    · rintro _ ⟨⟩
    · have key : s.openKeys terms = [(s.record terms (terms.heldTrade holding.trade bar)
          holding.owner exit).key] := by
        rw [openKeys_of_opened opened, List.getElem?_map]
        rfl
      rw [ledger.keyed, key]
      simp [ReplayState.book, ReplayState.openKeys]
    · simp only [ReplayState.book, List.map_append, List.length_append, List.length_singleton,
        List.map_singleton, ledger.numbered, List.range'_concat, Nat.one_mul]
      rfl
    · simp only [ReplayState.book, List.map_append, List.map_singleton]
      exact ledger.accounted.book _

/-- A ledger with one more candidate, which is not entered. -/
theorem list (ledger : Ledger terms seen pairs s) {final : ReplayCandidate} {pending : Option Nat}
    (filed : Filed pending (pairs ++ [(candidate, final)]))
    (unentered : ¬(candidate.Confirmed ∧ final.Entered)) :
    Ledger terms (seen ++ [candidate]) (pairs ++ [(candidate, final)])
      { s with candidates := s.candidates ++ [final], pending } where
  originals := by rw [List.map_append, ledger.originals, List.map_singleton]
  finals := by rw [List.map_append, ledger.finals, List.map_singleton]
  filed := filed
  owned holding opened := by
    have owned := ledger.owned holding opened
    simp only [List.length_append, List.length_singleton]
    omega
  keyed := by
    rw [enteredKeys_append, enteredKeys_cons_of_not unentered, ledger.keyed]
    rw [openKeys_list ledger.owned, List.append_assoc]
    exact congrArg _ (List.append_nil _)
  numbered := ledger.numbered
  accounted := ledger.accounted

/-- The candidates of a bar are added to the ledger. -/
theorem schedule (ledger : Ledger terms seen pairs s) (candidate : ReplayCandidate) :
    ∃ pairs', Ledger terms (seen ++ [candidate]) pairs' (s.schedule candidate) := by
  unfold ReplayState.schedule
  split
  · rename_i confirmed
    split
    · have blocks := ReplayState.blocks_block id (fun _ => rfl) "another_confirmation_pending"
      have unentered : ¬(candidate.block "another_confirmation_pending").Entered :=
        not_entered_of_blocks blocks
      exact ⟨_, ledger.list (ledger.filed.list (settled_of_blocks blocks confirmed)
        fun both => unentered both.2) fun both => unentered both.2⟩
    · rename_i free
      have idle : s.pending = none := by simpa using free
      have filed := ledger.filed
      rw [idle] at filed
      have length : s.candidates.length = pairs.length := by
        rw [← ledger.finals, List.length_map]
      refine ⟨_, ledger.list ?_ fun both => both.1.not_entered both.2⟩
      rw [length]
      cases filed with
      | idle all => exact .waiting confirmed all (by simp) rfl
  · rename_i unconfirmed
    exact ⟨_, ledger.list (ledger.filed.list (settled_of_unconfirmed unconfirmed)
      fun both => unconfirmed both.1) fun both => unconfirmed both.1⟩

theorem schedules (ledger : Ledger terms seen pairs s) (candidates : List ReplayCandidate) :
    ∃ pairs', Ledger terms (seen ++ candidates) pairs'
      (candidates.foldl ReplayState.schedule s) := by
  induction candidates generalizing seen pairs s with
  | nil =>
    rw [List.append_nil]
    exact ⟨pairs, ledger⟩
  | cons candidate candidates ih =>
    obtain ⟨_, next⟩ := ledger.schedule candidate
    rw [← List.singleton_append, ← List.append_assoc]
    exact ih next

end Ledger

/-! ## Times -/

/-- The trades up to a time do not overlap, and neither does the open one. -/
structure Timed (limit : Int) (s : ReplayState) : Prop where
  lived : ∀ trade ∈ s.trades, trade.entryTime ≤ trade.exitTime
  apart : s.trades.Pairwise fun trade next => trade.exitTime ≤ next.entryTime
  past : ∀ trade ∈ s.trades, trade.exitTime ≤ limit
  behind : ∀ holding ∈ s.opened, ∀ trade ∈ s.trades, trade.exitTime ≤ holding.trade.entryTime
  begun : ∀ holding ∈ s.opened, holding.trade.entryTime ≤ limit

namespace Timed

variable {terms : ReplayTerms} {limit : Int} {s after : ReplayState} {bar : OhlcvBar} {i : Nat}
  {last : Bool}

theorem of_same {t : ReplayState} (timed : Timed limit s) (trades : t.trades = s.trades)
    (opened : t.opened = s.opened) : Timed limit t := by
  obtain ⟨lived, apart, past, behind, begun⟩ := timed
  exact ⟨trades ▸ lived, trades ▸ apart, trades ▸ past, trades ▸ opened ▸ behind, opened ▸ begun⟩

theorem mono {limit' : Int} (timed : Timed limit s) (le : limit ≤ limit') : Timed limit' s where
  lived := timed.lived
  apart := timed.apart
  past trade mem := (timed.past trade mem).trans le
  behind := timed.behind
  begun holding opened := (timed.begun holding opened).trans le

theorem decide (timed : Timed bar.intervalStart s)
    (decided : ReplayState.Decided terms s i bar after) : Timed bar.intervalStart after := by
  cases decided with
  | idle => exact timed
  | blocked => exact timed.of_same rfl rfl
  | entered =>
    refine ⟨timed.lived, timed.apart, timed.past, ?_, ?_⟩
    · rintro _ ⟨⟩
      exact timed.past
    · rintro _ ⟨⟩
      exact le_rfl

theorem hold (timed : Timed bar.intervalStart s)
    (held : ReplayState.Held terms s bar last after) : Timed bar.intervalEnd after := by
  have whole := timed.mono bar.intervalStart_lt_intervalEnd.le
  cases held with
  | idle => exact whole
  | @carried holding opened stays =>
    refine ⟨whole.lived, whole.apart, whole.past, ?_, ?_⟩
    · rintro _ ⟨⟩
      rw [(terms.sameEntry_heldTrade holding.trade bar).entryTime]
      exact whole.behind holding opened
    · rintro _ ⟨⟩
      rw [(terms.sameEntry_heldTrade holding.trade bar).entryTime]
      exact whole.begun holding opened
  | @closed holding exit opened leaves =>
    obtain ⟨early, late⟩ := ReplayTerms.time_exitAt leaves
    have entry : (s.record terms (terms.heldTrade holding.trade bar) holding.owner exit).entryTime =
        holding.trade.entryTime := (terms.sameEntry_heldTrade _ _).entryTime
    have begun := (timed.begun holding opened).trans early
    refine ⟨?_, ?_, ?_, by rintro _ ⟨⟩, by rintro _ ⟨⟩⟩
    · refine List.forall_mem_append.mpr ⟨timed.lived, ?_⟩
      rw [List.forall_mem_singleton, entry]
      exact begun
    · refine List.pairwise_append.mpr ⟨timed.apart, List.pairwise_singleton _ _, ?_⟩
      intro trade mem
      rw [List.forall_mem_singleton, entry]
      exact timed.behind holding opened trade mem
    · refine List.forall_mem_append.mpr ⟨whole.past, ?_⟩
      rw [List.forall_mem_singleton]
      exact late

theorem schedules (timed : Timed limit s) (candidates : List ReplayCandidate) :
    Timed limit (candidates.foldl ReplayState.schedule s) := by
  induction candidates generalizing s with
  | nil => exact timed
  | cons candidate candidates ih =>
    exact ih (timed.of_same ReplayState.trades_schedule ReplayState.opened_schedule)

end Timed

/-! ## Runs -/

/-- What holds of a state before a bar. -/
structure Booked (terms : ReplayTerms) (events : List (Int × ReplayCandidate))
    (all : List OhlcvBar) (i : Nat) (s : ReplayState) : Prop where
  ledger : ∃ pairs, Ledger terms ((List.range i).flatMap (ReplayState.scheduledAt events)) pairs s
  timed : ∃ limit, Timed limit s ∧ ∀ bar, all[i]? = some bar → limit ≤ bar.intervalStart
  drawn : ∀ point ∈ s.curve.getLast?, point.equity = s.equity
  flat : i = all.length → s.opened = none

variable {terms : ReplayTerms} {events : List (Int × ReplayCandidate)} {all : List OhlcvBar}

theorem booked_initial (terms : ReplayTerms) : Booked terms events all 0 (.initial terms) where
  ledger := ⟨[], rfl, rfl, .idle (by simp), by rintro _ ⟨⟩, rfl, rfl, accounted_nil _⟩
  timed := by
    cases all with
    | nil => exact ⟨0, ⟨by simp [ReplayState.initial], .nil, by simp [ReplayState.initial],
        by rintro _ ⟨⟩, by rintro _ ⟨⟩⟩, by simp⟩
    | cons bar all => exact ⟨bar.intervalStart, ⟨by simp [ReplayState.initial], .nil,
        by simp [ReplayState.initial], by rintro _ ⟨⟩, by rintro _ ⟨⟩⟩, by simp⟩
  drawn := by rintro _ ⟨⟩
  flat _ := rfl

theorem keeps_booked (contiguous : Contiguous all) :
    ReplayState.Keeps terms events all (Booked terms events all) := by
  intro i s bar decided held here booked decides holds
  obtain ⟨_, ledger⟩ := booked.ledger
  obtain ⟨limit, timed, reaches⟩ := booked.timed
  obtain ⟨_, first⟩ := ledger.decide decides
  obtain ⟨pairs, listed⟩ := (first.hold holds).schedules (ReplayState.scheduledAt events i)
  constructor
  · refine ⟨pairs, ?_⟩
    rw [List.range_succ, List.flatMap_append, List.flatMap_singleton]
    exact ⟨listed.originals, listed.finals, listed.filed, listed.owned, listed.keyed,
      listed.numbered, listed.accounted⟩
  · have closed := (((timed.mono (reaches bar here)).decide decides).hold holds).schedules
      (ReplayState.scheduledAt events i)
    refine ⟨bar.intervalEnd, closed.of_same rfl rfl, fun next there => ?_⟩
    obtain ⟨later, rfl⟩ := List.getElem?_eq_some_iff.mp there
    obtain ⟨_, rfl⟩ := List.getElem?_eq_some_iff.mp here
    exact (List.isChain_iff_getElem.mp contiguous i later).ge
  · intro point mem
    simp only [ReplayState.draw, List.getLast?_append, List.getLast?_singleton,
      Option.some_or, Option.mem_def, Option.some.injEq] at mem
    rw [← mem]
    rfl
  · intro whole
    rw [decide_eq_true whole] at holds
    exact (ReplayState.opened_schedules _ _).trans holds.flat

/-- What a ledger is as the candidate that still waits is blocked. -/
theorem Ledger.release {seen : List ReplayCandidate}
    {pairs : List (ReplayCandidate × ReplayCandidate)} {s : ReplayState}
    (ledger : Ledger terms seen pairs s) (cancelled : Bool) :
    ∃ pairs', pairs'.map (·.1) = seen ∧ pairs'.map (·.2) = s.release cancelled ∧
      Filed none pairs' ∧ enteredKeys pairs' = enteredKeys pairs := by
  unfold ReplayState.release
  have filed := ledger.filed
  split
  · rename_i free
    rw [free] at filed
    exact ⟨pairs, ledger.originals, ledger.finals, filed, rfl⟩
  · rename_i k pending
    obtain ⟨before, candidate, after, split, rfl, confirmed, -⟩ := filed.split pending
    have waits : s.waiting = some (before.length, candidate) := by
      refine ReplayState.waiting_eq_some.mpr ⟨pending, ?_⟩
      rw [← ledger.finals, split, List.map_append, List.map_cons,
        List.getElem?_append_right (by simp)]
      simp
    have blocks := ReplayState.blocks_block id (fun _ => rfl)
      (if cancelled then "replay_cancelled" else "no_next_closed_candle_in_window")
    obtain ⟨pairs', originals, finals, idle, keys⟩ := ledger.settle waits
      (settled_of_blocks blocks confirmed)
    refine ⟨pairs', originals, finals, idle, ?_⟩
    rw [keys, enteredKeys_cons_of_not fun both => not_entered_of_blocks blocks both.2]
    exact List.append_nil _

/-- All events are seen once all bars are. -/
theorem Chronological.seen (checked : Chronological terms all (-1) events) :
    (List.range all.length).flatMap (ReplayState.scheduledAt events) = events.map (·.2) := by
  obtain ⟨sorted, each⟩ := checked.sorted
  have buckets := flatMap_buckets sorted fun event mem => (each event mem).2.imp_right And.left
  unfold ReplayState.scheduledAt
  rw [← List.map_flatMap, buckets]

/-- **The accounts of a replay.** -/
theorem segment_accounts {env : ReplayEnvironment} {terms : ReplayTerms} {bars : List OhlcvBar}
    {events : List (Int × ReplayCandidate)} {result : ReplayResult}
    (contiguous : Contiguous bars) (ok : segment env terms bars events = .ok result)
    (whole : result.cancelled = false) :
    (∀ trade ∈ result.trades, trade.entryTime ≤ trade.exitTime) ∧
    result.trades.Pairwise (fun trade next => trade.exitTime ≤ next.entryTime) ∧
    result.trades.map (·.sequence) = List.range' terms.sequenceStart result.trades.length ∧
    (∀ point ∈ result.curve.getLast?,
      point.equity = terms.initialCapital + (result.trades.map (·.netPnl)).sum) ∧
    IsBest (drawdownAfter terms.initialCapital) (result.trades.map (·.netPnl)) result.maxDd ∧
    List.Forall₂ Settled (events.map (·.2)) result.candidates ∧
    enteredKeys ((events.map (·.2)).zip result.candidates) = result.trades.map (·.key) := by
  rcases segment_invariant (booked_initial terms) (fun _ => keeps_booked contiguous) ok with
    empty | ⟨checked, n, s, booked, reaches, finished⟩
  · rw [empty] at whole
    cases whole
  · obtain rfl := reaches whole
    rw [whole] at finished
    obtain ⟨pairs, ledger⟩ := booked.ledger
    obtain ⟨limit, timed, -⟩ := booked.timed
    have flat := booked.flat rfl
    obtain ⟨pairs', originals, finals, filed, keys⟩ := ledger.release false
    have released : result.candidates = s.release false := by
      rw [finished]
      unfold ReplayState.finish
      rw [flat]
    have trades : result.trades = s.trades := congrArg (·.trades) finished
    have curve : result.curve = s.curve := congrArg (·.curve) finished
    have maxDd : result.maxDd = s.maxDd := congrArg (·.maxDd) finished
    have seen := checked.seen
    rw [trades, curve, maxDd, released, ← finals, ← seen, ← originals]
    refine ⟨timed.lived, timed.apart, ledger.numbered, fun point mem => ?_, ledger.accounted.worst,
      ?_, ?_⟩
    · exact (booked.drawn point mem).trans ledger.accounted.balanced
    · rw [List.forall₂_map_left_iff, List.forall₂_map_right_iff, List.forall₂_same]
      cases filed with
      | idle settled => exact settled
    · have same : pairs'.map (fun pair => (pair.1, pair.2)) = pairs' := List.map_id' _
      rw [List.zip_map', same, keys, ledger.keyed, Ledger.openKeys_of_flat flat, List.append_nil]

def risingBars : List OhlcvBar :=
  [Market.sampleCandle 0 100, Market.sampleCandle 1 100, Market.sampleCandle 2 110]

def twoConfirmations : List (Int × ReplayCandidate) :=
  [(0, replayCandidate 7 0 90 110), (0, replayCandidate 8 0 90 110)]

/-- A trade that hits its target, and one confirmation too many. -/
theorem risingRun_accounted : ∃ result,
    segment openEnvironment (replayTerms 0 le_rfl) risingBars twoConfirmations = .ok result ∧
    result.trades.map (·.key) = [(some 3, some 7)] ∧
    enteredKeys ((twoConfirmations.map (·.2)).zip result.candidates) =
      result.trades.map (·.key) := by
  have ran : ((segment openEnvironment (replayTerms 0 le_rfl) risingBars
      twoConfirmations).toOption.map fun result => (result.trades.map (·.key), result.cancelled)) =
        some ([(some 3, some 7)], false) := by
    decide +kernel
  obtain ⟨result, ok, facts⟩ := Option.map_eq_some_iff.mp ran
  obtain ⟨keys, whole⟩ := Prod.mk.inj facts
  have ok := toOption_eq_some.mp ok
  have accounts := segment_accounts (by decide) ok whole
  exact ⟨result, ok, keys, accounts.2.2.2.2.2.2⟩

end AlphaTrade.Backtest
