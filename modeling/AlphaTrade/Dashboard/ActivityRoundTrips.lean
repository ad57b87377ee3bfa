import Mathlib.Algebra.Order.BigOperators.Group.List
import Mathlib.Data.Finset.Card
import Mathlib.Data.Prod.Lex
import Mathlib.Data.String.Basic
import AlphaTrade.Library.HalfEven
import AlphaTrade.Library.SortedOn

/-!
# Round trips of an account

The stored fills of a position key are read in their order. A trip is the position returning to
flat. A fill that crosses zero is split: one slice closes the trip and the other opens the next.
Quantities and money are exact, and only the figures of a closed trip are quantized.
-/
namespace AlphaTrade.Dashboard
open Library

inductive FillSide where
  | buy
  | sell
  deriving DecidableEq

inductive PositionSide where
  | net
  | long
  | short
  deriving DecidableEq

def PositionSide.text : PositionSide → String
  | net => "net"
  | long => "long"
  | short => "short"

/-- One stored fill. -/
structure ActivityFill where
  nativeId : String
  orderId : String
  instrument : String
  side : FillSide
  positionSide : PositionSide
  quantity : ℚ
  fee : Option ℚ
  feeCurrency : Option String
  realizedPnl : Option ℚ
  occurredAtMs : Int
  settlementCurrency : Option String
  deriving DecidableEq

/-- The size of a completed order. -/
structure ActivityOrder where
  orderId : String
  filledQuantity : ℚ

structure RoundTripPerformance where
  tradeCount : Nat
  wins : Nat
  losses : Nat
  scratches : Nat
  unresolved : Nat
  winRate : Option ℚ
  realizedPnl : Option ℚ
  fees : Option ℚ
  grossPnl : Option ℚ
  windowStart : Option ℚ
  windowEnd : Option ℚ
  missingOrders : Bool
  orderMismatches : Nat
  deriving DecidableEq

/-- A part of a fill. -/
structure Slice where
  fill : ActivityFill
  quantity : ℚ
  deriving DecidableEq

namespace ActivityFill

/-- The signed change of the position. A short grows on a sell. -/
def delta (fill : ActivityFill) : ℚ :=
  match fill.positionSide, fill.side with
  | .short, .sell => fill.quantity
  | .short, .buy => -fill.quantity
  | _, .buy => fill.quantity
  | _, .sell => -fill.quantity

/-- `(fill.instrument, fill.position_side)` -/
def positionKey (fill : ActivityFill) : String ×ₗ String :=
  toLex (fill.instrument, fill.positionSide.text)

/-- `(item.occurred_at_ms, item.native_id)` -/
def stamp (fill : ActivityFill) : Int ×ₗ String := toLex (fill.occurredAtMs, fill.nativeId)

end ActivityFill

/-! ## Slices -/

/-- The variables of `_closed_slices`. -/
structure SliceScan where
  position : ℚ
  openSlices : List Slice
  closed : List (List Slice)

def SliceScan.initial : SliceScan := ⟨0, [], []⟩

/-- One turn of the loop of `_closed_slices`. -/
def SliceScan.next (scan : SliceScan) (fill : ActivityFill) : SliceScan :=
  let delta := fill.delta
  if delta = 0 then scan
  else if scan.position = 0 then { scan with openSlices := [⟨fill, |delta|⟩], position := delta }
  else if (0 < scan.position ∧ 0 < delta) ∨ (scan.position < 0 ∧ delta < 0) then
    { scan with
      openSlices := scan.openSlices ++ [⟨fill, |delta|⟩]
      position := scan.position + delta }
  else
    let closeQty := min |scan.position| |delta|
    let remainder := |delta| - closeQty
    let openSlices := scan.openSlices ++ [⟨fill, closeQty⟩]
    let newPosition := scan.position + delta
    if newPosition = 0 then ⟨0, [], scan.closed ++ [openSlices]⟩
    -- the fill crosses zero and opens the next trip with what it has left
    else if (0 < scan.position ∧ newPosition < 0) ∨ (scan.position < 0 ∧ 0 < newPosition) then
      ⟨newPosition, [⟨fill, remainder⟩], scan.closed ++ [openSlices]⟩
    else { scan with openSlices := openSlices, position := newPosition }

/-- The loop of `_closed_slices`, with the slices it leaves open. -/
def scanSlices (fills : List ActivityFill) : SliceScan := fills.foldl SliceScan.next .initial

def closedSlices (fills : List ActivityFill) : List (List Slice) := (scanSlices fills).closed

/-! ## Money -/

def money (value : ℚ) : ℚ := quantize 8 value

/-- The variables of the loop of `_economics`. -/
structure EconomicsScan where
  gross : ℚ
  fees : ℚ
  currencies : Finset String

def EconomicsScan.next (scan : EconomicsScan) (sliver : Slice) : Option EconomicsScan :=
  let fill := sliver.fill
  if fill.quantity ≤ 0 ∨ sliver.quantity ≤ 0 ∨ fill.quantity < sliver.quantity then none
  else match fill.realizedPnl, fill.fee, fill.feeCurrency with
    | some realizedPnl, some fee, some feeCurrency =>
      if feeCurrency = "" ∨ fill.settlementCurrency ≠ some feeCurrency then none
      else
        let fraction := sliver.quantity / fill.quantity
        some ⟨scan.gross + realizedPnl * fraction, scan.fees + fee * fraction,
          insert feeCurrency scan.currencies⟩
    | _, _, _ => none

def economics (slices : List Slice) : Option (ℚ × ℚ × ℚ) := do
  let scan ← slices.foldlM EconomicsScan.next ⟨0, 0, ∅⟩
  if scan.currencies.card ≠ 1 then none
  else some (money scan.gross, money scan.fees, money scan.gross)

/-! ## The account -/

def inOrder (fills : List ActivityFill) : List ActivityFill := sortedOn ActivityFill.stamp fills

/-- The closed trips in the order in which `account_round_trips` comes to them. -/
def trips (fills : List ActivityFill) : List (List Slice) :=
  (sortedOn id (fills.map ActivityFill.positionKey).dedup).flatMap fun key =>
    closedSlices (inOrder (fills.filter (·.positionKey = key)))

/-- `filled_by_order.get(order_id, Decimal(0))` -/
def filledByOrder (fills : List ActivityFill) (orderId : String) : ℚ :=
  ((fills.filter (·.orderId = orderId)).map ActivityFill.quantity).sum

def ordersById (orders : List ActivityOrder) : Table String ℚ :=
  orders.foldl (fun table order => table.put order.orderId order.filledQuantity) .empty

def mismatched (fills : List ActivityFill) (orders : List ActivityOrder) : List String :=
  (ordersById orders).keys.filter fun orderId =>
    some (filledByOrder fills orderId) ≠ (ordersById orders).find orderId

/-- The variables of the loop over the trips. -/
structure Tally where
  trades : Nat
  wins : Nat
  losses : Nat
  scratches : Nat
  unresolved : Nat
  missingOrders : Bool
  netTotal : ℚ
  feeTotal : ℚ
  grossTotal : ℚ
  earliest : Option Int
  latest : Option Int

namespace Tally

def initial : Tally := ⟨0, 0, 0, 0, 0, false, 0, 0, 0, none, none⟩

def window (tally : Tally) (sliver : Slice) : Tally :=
  let stamp := sliver.fill.occurredAtMs
  { tally with
    earliest := some (tally.earliest.elim stamp (min · stamp))
    latest := some (tally.latest.elim stamp (max · stamp)) }

def next (orders : Table String ℚ) (mismatched : List String) (tally : Tally)
    (slices : List Slice) : Tally :=
  if slices.any (·.fill.orderId ∈ mismatched) then
    { tally with unresolved := tally.unresolved + 1 }
  else
    let missing := slices.any fun sliver => (orders.find sliver.fill.orderId).isNone
    let tally := { tally with missingOrders := tally.missingOrders || missing }
    match economics slices with
    | none => { tally with unresolved := tally.unresolved + 1 }
    | some (net, fee, gross) =>
      slices.foldl window { tally with
        trades := tally.trades + 1
        netTotal := tally.netTotal + net
        feeTotal := tally.feeTotal + fee
        grossTotal := tally.grossTotal + gross
        wins := if 0 < net then tally.wins + 1 else tally.wins
        losses := if net < 0 then tally.losses + 1 else tally.losses
        scratches := if net = 0 then tally.scratches + 1 else tally.scratches }

end Tally

/-- `datetime.fromtimestamp(millis / 1000)`, in seconds. -/
def stampOf (millis : Option Int) : Option ℚ := millis.map fun millis => millis / 1000

def accountRoundTrips (fills : List ActivityFill) (orders : List ActivityOrder) :
    RoundTripPerformance :=
  let mismatched := mismatched fills orders
  let tally := (trips fills).foldl (Tally.next (ordersById orders) mismatched) .initial
  let decisive := tally.wins + tally.losses
  { tradeCount := tally.trades
    wins := tally.wins
    losses := tally.losses
    scratches := tally.scratches
    unresolved := tally.unresolved
    winRate := if decisive = 0 then none else some (quantize 4 (tally.wins / decisive))
    realizedPnl := if tally.trades = 0 then none else some (money tally.netTotal)
    fees := if tally.trades = 0 then none else some (money tally.feeTotal)
    grossPnl := if tally.trades = 0 then none else some (money tally.grossTotal)
    windowStart := stampOf tally.earliest
    windowEnd := stampOf tally.latest
    missingOrders := tally.missingOrders
    orderMismatches := mismatched.length }

/-! ## Where the slices go -/

def Slice.signed (sliver : Slice) : ℚ :=
  if 0 < sliver.fill.delta then sliver.quantity else -sliver.quantity

def SliceScan.slices (scan : SliceScan) : List Slice := scan.closed.flatten ++ scan.openSlices

def weighed (worth : ActivityFill → ℚ) (slices : List Slice) : ℚ :=
  (slices.map fun sliver => worth sliver.fill * sliver.quantity).sum

@[simp] theorem weighed_nil (worth : ActivityFill → ℚ) : weighed worth [] = 0 := rfl

@[simp] theorem weighed_append (worth : ActivityFill → ℚ) (slices others : List Slice) :
    weighed worth (slices ++ others) = weighed worth slices + weighed worth others := by
  simp [weighed]

@[simp] theorem weighed_singleton (worth : ActivityFill → ℚ) (sliver : Slice) :
    weighed worth [sliver] = worth sliver.fill * sliver.quantity := by
  simp [weighed]

theorem weighed_flatten (worth : ActivityFill → ℚ) (trips : List (List Slice)) :
    weighed worth trips.flatten = (trips.map (weighed worth)).sum := by
  induction trips with
  | nil => rfl
  | cons trip trips ih => rw [List.flatten_cons, weighed_append, ih, List.map_cons, List.sum_cons]

def net (slices : List Slice) : ℚ := (slices.map Slice.signed).sum

@[simp] theorem net_append (slices others : List Slice) :
    net (slices ++ others) = net slices + net others := by
  simp [net]

@[simp] theorem net_singleton (sliver : Slice) : net [sliver] = sliver.signed := by
  simp [net]

def Unflat (slices : List Slice) : Prop :=
  ∀ part, part <+: slices → part ≠ [] → part ≠ slices → net part ≠ 0

/-- Slices that are not flat at the end nor before make a trip with the slice that ends it. -/
theorem Unflat.push {slices : List Slice} (unflat : Unflat slices)
    (some : slices ≠ [] → net slices ≠ 0) (sliver : Slice) : Unflat (slices ++ [sliver]) := by
  intro part initial nonempty proper
  rcases List.prefix_concat_iff.mp initial with whole | within
  · exact absurd whole proper
  · by_cases all : part = slices
    · subst all
      exact some nonempty
    · exact unflat part within nonempty all

/-- What a scan has of its slices. -/
structure SliceScan.Sound (scan : SliceScan) : Prop where
  net_open : net scan.openSlices = scan.position
  open_flat : scan.position = 0 → scan.openSlices = []
  unflat_open : Unflat scan.openSlices
  flat_closed : ∀ trip ∈ scan.closed, net trip = 0 ∧ Unflat trip
  positive : ∀ sliver ∈ scan.slices, 0 < sliver.quantity

theorem sound_initial : SliceScan.initial.Sound where
  net_open := rfl
  open_flat _ := rfl
  unflat_open _ initial nonempty _ := absurd (List.prefix_nil.mp initial) nonempty
  flat_closed _ mem := by simp [SliceScan.initial] at mem
  positive _ mem := by simp [SliceScan.initial, SliceScan.slices] at mem

/-- The part of a fill that moves the position by so much of its change. -/
theorem signed_eq {fill : ActivityFill} {quantity change : ℚ} (size : |change| = quantity)
    (up : 0 < fill.delta → 0 ≤ change) (down : ¬0 < fill.delta → change ≤ 0) :
    Slice.signed ⟨fill, quantity⟩ = change := by
  unfold Slice.signed
  split
  · rename_i positive
    rw [← size, abs_of_nonneg (up positive)]
  · rename_i negative
    rw [← size, abs_of_nonpos (down negative), neg_neg]

theorem ActivityFill.abs_delta {fill : ActivityFill} (positive : 0 < fill.quantity) :
    |fill.delta| = fill.quantity := by
  have signs : fill.delta = fill.quantity ∨ fill.delta = -fill.quantity := by
    unfold delta
    split
    · exact .inl rfl
    · exact .inr rfl
    · exact .inl rfl
    · exact .inr rfl
  rcases signs with same | back
  · rw [same, abs_of_pos positive]
  · rw [back, abs_neg, abs_of_pos positive]

theorem signed_whole (fill : ActivityFill) : Slice.signed ⟨fill, |fill.delta|⟩ = fill.delta :=
  signed_eq rfl le_of_lt not_lt.mp

def Against (position delta : ℚ) : Prop :=
  (0 < position ∧ delta < 0) ∨ (position < 0 ∧ 0 < delta)

theorem against_of {position delta : ℚ} (held : position ≠ 0) (moves : delta ≠ 0)
    (differ : ¬((0 < position ∧ 0 < delta) ∨ (position < 0 ∧ delta < 0))) :
    Against position delta := by
  rcases lt_or_gt_of_ne held with hp | hp <;> rcases lt_or_gt_of_ne moves with hd | hd
  · exact absurd (.inr ⟨hp, hd⟩) differ
  · exact .inr ⟨hp, hd⟩
  · exact .inl ⟨hp, hd⟩
  · exact absurd (.inl ⟨hp, hd⟩) differ

theorem Against.abs_add {position delta : ℚ} (against : Against position delta) :
    |position + delta| = |(|delta| - |position|)| := by
  rcases against with ⟨hp, hd⟩ | ⟨hp, hd⟩
  · rw [abs_of_pos hp, abs_of_neg hd, ← abs_neg]
    congr 1
    ring
  · rw [abs_of_neg hp, abs_of_pos hd]
    congr 1
    ring

/-- The position crosses zero if the change is the larger. -/
theorem Against.crosses_iff {position delta : ℚ} (against : Against position delta) :
    (0 < position ∧ position + delta < 0) ∨ (position < 0 ∧ 0 < position + delta) ↔
      |position| < |delta| := by
  rcases against with ⟨hp, hd⟩ | ⟨hp, hd⟩
  · rw [abs_of_pos hp, abs_of_neg hd]
    constructor
    · rintro (⟨-, below⟩ | ⟨negative, -⟩) <;> linarith
    · exact fun larger => .inl ⟨hp, by linarith⟩
  · rw [abs_of_neg hp, abs_of_pos hd]
    constructor
    · rintro (⟨positive, -⟩ | ⟨-, above⟩) <;> linarith
    · exact fun larger => .inr ⟨hp, by linarith⟩

/-- A fill adds one slice to the open ones, or flattens them with it, or is split between the trip
it closes and the one it opens. -/
inductive Booked (scan : SliceScan) (fill : ActivityFill) : SliceScan → Prop where
  | kept (moved : scan.position + fill.delta ≠ 0) :
    Booked scan fill
      ⟨scan.position + fill.delta, scan.openSlices ++ [⟨fill, |fill.delta|⟩], scan.closed⟩
  | flat (moved : scan.position + fill.delta = 0) (held : scan.openSlices ≠ []) :
    Booked scan fill ⟨0, [], scan.closed ++ [scan.openSlices ++ [⟨fill, |fill.delta|⟩]]⟩
  | crossed {closing opening : ℚ} (closes : 0 < closing) (opens : 0 < opening)
    (whole : closing + opening = |fill.delta|) (held : scan.position ≠ 0)
    (moved : scan.position + fill.delta ≠ 0)
    (back : Slice.signed ⟨fill, closing⟩ = -scan.position)
    (beyond : Slice.signed ⟨fill, opening⟩ = scan.position + fill.delta) :
    Booked scan fill ⟨scan.position + fill.delta, [⟨fill, opening⟩],
      scan.closed ++ [scan.openSlices ++ [⟨fill, closing⟩]]⟩

variable {scan : SliceScan} {fill : ActivityFill}

/-- A fill that is larger than the position it is against is split. -/
theorem Against.booked (against : Against scan.position fill.delta)
    (larger : |scan.position| < |fill.delta|) : Booked scan fill
      ⟨scan.position + fill.delta, [⟨fill, |fill.delta| - |scan.position|⟩],
        scan.closed ++ [scan.openSlices ++ [⟨fill, |scan.position|⟩]]⟩ := by
  have size := against.abs_add
  rw [abs_of_pos (sub_pos.mpr larger)] at size
  have held : scan.position ≠ 0 := by
    rcases against with ⟨hp, -⟩ | ⟨hp, -⟩
    · exact hp.ne'
    · exact hp.ne
  have moved : scan.position + fill.delta ≠ 0 :=
    abs_pos.mp (size ▸ sub_pos.mpr larger)
  have cross := against.crosses_iff.mpr larger
  refine .crossed (abs_pos.mpr held) (sub_pos.mpr larger) (by ring) held moved ?_ ?_
  · refine signed_eq (abs_neg _) (fun up => ?_) fun down => ?_
    · rcases against with ⟨hp, hd⟩ | ⟨hp, hd⟩ <;> linarith
    · rcases against with ⟨hp, hd⟩ | ⟨hp, hd⟩ <;> linarith
  · refine signed_eq size (fun up => ?_) fun down => ?_
    · rcases against with ⟨hp, hd⟩ | ⟨hp, hd⟩
      · exact absurd up hd.not_gt
      · rcases cross with ⟨hp', -⟩ | ⟨-, beyond⟩ <;> linarith
    · rcases against with ⟨hp, hd⟩ | ⟨hp, hd⟩
      · rcases cross with ⟨-, beyond⟩ | ⟨hp', -⟩ <;> linarith
      · exact absurd hd down

theorem SliceScan.Sound.booked (sound : scan.Sound) (moves : fill.delta ≠ 0) :
    Booked scan fill (scan.next fill) := by
  unfold SliceScan.next
  simp only [if_neg moves]
  split
  · rename_i flat
    have whole := @Booked.kept scan fill (by rwa [flat, zero_add])
    rwa [flat, zero_add, sound.open_flat flat, List.nil_append] at whole
  rename_i held
  have nonempty : scan.openSlices ≠ [] := fun none => held (by rw [← sound.net_open, none]; rfl)
  split
  · rename_i same
    refine .kept fun flat => ?_
    rcases same with ⟨hp, hd⟩ | ⟨hp, hd⟩ <;> linarith
  rename_i differ
  have against := against_of held moves differ
  split
  · rename_i flat
    have equal : |scan.position| = |fill.delta| := by
      rw [eq_neg_of_add_eq_zero_left flat, abs_neg]
    rw [equal, min_self]
    exact .flat flat nonempty
  rename_i left
  split
  · rename_i cross
    have larger := against.crosses_iff.mp cross
    rw [min_eq_left larger.le]
    exact against.booked larger
  · rename_i reduced
    have smaller := not_lt.mp (mt against.crosses_iff.mpr reduced)
    rw [min_eq_right smaller]
    exact .kept left

variable {after : SliceScan}

theorem Booked.sound (booked : Booked scan fill after) (moves : fill.delta ≠ 0)
    (sound : scan.Sound) : after.Sound := by
  have size : 0 < |fill.delta| := abs_pos.mpr moves
  have unflat : ∀ sliver, Unflat (scan.openSlices ++ [sliver]) := fun sliver => by
    refine sound.unflat_open.push (fun nonempty flat => ?_) sliver
    exact nonempty (sound.open_flat (sound.net_open ▸ flat))
  have positive := sound.positive
  simp only [SliceScan.slices, List.mem_append] at positive
  cases booked with
  | kept moved =>
    refine ⟨?_, fun flat => absurd flat moved, unflat _, sound.flat_closed, fun sliver mem => ?_⟩
    · rw [net_append, net_singleton, sound.net_open, signed_whole]
    · simp only [SliceScan.slices, List.mem_append, List.mem_singleton] at mem
      rcases mem with old | old | rfl
      · exact positive _ (.inl old)
      · exact positive _ (.inr old)
      · exact size
  | flat moved held =>
    refine ⟨rfl, fun _ => rfl, sound_initial.unflat_open, fun trip mem => ?_, fun sliver mem => ?_⟩
    · rcases List.mem_append.mp mem with old | new
      · exact sound.flat_closed trip old
      · rw [List.mem_singleton.mp new, net_append, net_singleton, sound.net_open, signed_whole]
        exact ⟨moved, unflat _⟩
    · simp only [SliceScan.slices, List.flatten_append, List.flatten_singleton, List.append_nil,
        List.mem_append, List.mem_singleton] at mem
      rcases mem with old | old | rfl
      · exact positive _ (.inl old)
      · exact positive _ (.inr old)
      · exact size
  | crossed closes opens whole held moved back beyond =>
    refine ⟨?_, fun flat => absurd flat moved, ?_, fun trip mem => ?_, fun sliver mem => ?_⟩
    · rw [net_singleton, beyond]
    · exact sound_initial.unflat_open.push (fun nonempty => absurd rfl nonempty) _
    · rcases List.mem_append.mp mem with old | new
      · exact sound.flat_closed trip old
      · rw [List.mem_singleton.mp new, net_append, net_singleton, sound.net_open, back]
        exact ⟨add_neg_cancel _, unflat _⟩
    · simp only [SliceScan.slices, List.flatten_append, List.flatten_singleton,
        List.mem_append, List.mem_singleton] at mem
      rcases mem with (old | old | rfl) | rfl
      · exact positive _ (.inl old)
      · exact positive _ (.inr old)
      · exact closes
      · exact opens

/-- A fill's slices have its whole quantity. -/
theorem Booked.weighed_eq (booked : Booked scan fill after) (worth : ActivityFill → ℚ) :
    weighed worth after.slices = weighed worth scan.slices + worth fill * |fill.delta| := by
  cases booked with
  | kept => simp [SliceScan.slices, add_assoc]
  | flat => simp [SliceScan.slices, add_assoc]
  | crossed closes opens whole =>
    simp only [SliceScan.slices, List.flatten_append, List.flatten_singleton, weighed_append,
      weighed_singleton, ← whole]
    ring

theorem next_of_still (still : fill.delta = 0) : scan.next fill = scan := by
  simp [SliceScan.next, still]

theorem SliceScan.Sound.next (sound : scan.Sound) (fill : ActivityFill) :
    (scan.next fill).Sound := by
  by_cases moves : fill.delta = 0
  · rwa [next_of_still moves]
  · exact (sound.booked moves).sound moves sound

theorem SliceScan.Sound.weighed_next (sound : scan.Sound) (worth : ActivityFill → ℚ)
    (fill : ActivityFill) : weighed worth (scan.next fill).slices =
      weighed worth scan.slices + worth fill * |fill.delta| := by
  by_cases moves : fill.delta = 0
  · rw [next_of_still moves, moves, abs_zero, mul_zero, add_zero]
  · exact (sound.booked moves).weighed_eq worth

theorem sound_foldl (fills : List ActivityFill) (sound : scan.Sound) :
    (fills.foldl SliceScan.next scan).Sound := by
  induction fills generalizing scan with
  | nil => exact sound
  | cons fill fills ih => exact ih (sound.next fill)

theorem sound_scanSlices (fills : List ActivityFill) : (scanSlices fills).Sound :=
  sound_foldl fills sound_initial

theorem weighed_foldl (worth : ActivityFill → ℚ) (fills : List ActivityFill) (sound : scan.Sound) :
    weighed worth (fills.foldl SliceScan.next scan).slices =
      weighed worth scan.slices + (fills.map fun fill => worth fill * |fill.delta|).sum := by
  induction fills generalizing scan with
  | nil => simp
  | cons fill fills ih =>
    rw [List.foldl_cons, ih (sound.next fill), sound.weighed_next, List.map_cons, List.sum_cons]
    ring

/-- **Conservation.** The slices weigh what the fills do, whatever a unit of each fill is worth. -/
theorem weighed_scanSlices (worth : ActivityFill → ℚ) (fills : List ActivityFill) :
    weighed worth (scanSlices fills).slices =
      (fills.map fun fill => worth fill * |fill.delta|).sum := by
  have run := weighed_foldl worth fills sound_initial
  rwa [show weighed worth SliceScan.initial.slices = 0 from rfl, zero_add] at run

def taken (slices : List Slice) (fill : ActivityFill) : ℚ :=
  ((slices.filter (·.fill = fill)).map Slice.quantity).sum

theorem taken_eq_weighed (slices : List Slice) (fill : ActivityFill) : taken slices fill =
    weighed (fun other => if other = fill then 1 else 0) slices := by
  unfold taken weighed
  induction slices with
  | nil => rfl
  | cons sliver slices ih =>
    rw [List.filter_cons, List.map_cons, List.sum_cons, ← ih]
    split <;> simp_all

theorem taken_scanSlices (fills : List ActivityFill) (fill : ActivityFill) :
    taken (scanSlices fills).slices fill = fills.count fill * |fill.delta| := by
  rw [taken_eq_weighed, weighed_scanSlices, List.sum_map_eq_nsmul_single fill]
  · simp
  · intro other differ _
    simp [differ]

theorem fill_of_slice {fills : List ActivityFill} {sliver : Slice}
    (mem : sliver ∈ (scanSlices fills).slices) : sliver.fill ∈ fills := by
  by_contra foreign
  have nothing := taken_scanSlices fills sliver.fill
  rw [List.count_eq_zero.mpr foreign, Nat.cast_zero, zero_mul] at nothing
  have positive := (sound_scanSlices fills).positive
  have part : sliver.quantity ≤ taken (scanSlices fills).slices sliver.fill := by
    refine List.single_le_sum (fun quantity listed => ?_) _
      (List.mem_map_of_mem (List.mem_filter.mpr ⟨mem, by simp⟩))
    obtain ⟨other, kept, rfl⟩ := List.mem_map.mp listed
    exact (positive other (List.mem_of_mem_filter kept)).le
  exact absurd (positive sliver mem) (by linarith)

/-! ## What a trip has earned -/

def apportioned (slices : List Slice) : ℚ :=
  (slices.map fun sliver =>
    sliver.fill.realizedPnl.getD 0 * (sliver.quantity / sliver.fill.quantity)).sum

theorem apportioned_eq_weighed : apportioned =
    weighed fun fill => fill.realizedPnl.getD 0 / fill.quantity := by
  funext slices
  unfold apportioned weighed
  congr 1
  refine List.map_congr_left fun sliver _ => ?_
  ring

/-- Closed trips and the open slices have earned what the fills have. -/
theorem apportioned_scanSlices {fills : List ActivityFill}
    (positive : ∀ fill ∈ fills, 0 < fill.quantity) :
    ((scanSlices fills).closed.map apportioned).sum + apportioned (scanSlices fills).openSlices =
      (fills.map fun fill => fill.realizedPnl.getD 0).sum := by
  rw [apportioned_eq_weighed, ← weighed_flatten, ← weighed_append]
  refine (weighed_scanSlices _ fills).trans (congrArg List.sum ?_)
  refine List.map_congr_left fun fill listed => ?_
  rw [ActivityFill.abs_delta (positive fill listed), div_mul_cancel₀ _ (positive fill listed).ne']

theorem gross_foldlM {slices : List Slice} {scan after : EconomicsScan}
    (run : slices.foldlM EconomicsScan.next scan = some after) :
    after.gross = scan.gross + apportioned slices := by
  induction slices generalizing scan with
  | nil =>
    obtain rfl := Option.some.inj run
    simp [apportioned]
  | cons sliver slices ih =>
    obtain ⟨first, step, rest⟩ := Option.bind_eq_some_iff.mp run
    have gross : first.gross =
        scan.gross + sliver.fill.realizedPnl.getD 0 * (sliver.quantity / sliver.fill.quantity) := by
      unfold EconomicsScan.next at step
      grind
    rw [ih rest, gross, apportioned, apportioned, List.map_cons, List.sum_cons]
    ring

/-- The result of a trip is what its slices are apportioned, quantized once. -/
theorem economics_eq_some {slices : List Slice} {figures : ℚ × ℚ × ℚ}
    (resolved : economics slices = some figures) : figures.1 = money (apportioned slices) := by
  obtain ⟨scan, run, rest⟩ := Option.bind_eq_some_iff.mp resolved
  have gross := gross_foldlM run
  rw [zero_add] at gross
  split at rest
  · cases rest
  · obtain rfl := Option.some.inj rest
    rw [← gross]

/-! ## The order of the fills -/

variable {fills others : List ActivityFill}

theorem filledByOrder_perm (perm : others.Perm fills) (orderId : String) :
    filledByOrder others orderId = filledByOrder fills orderId :=
  ((perm.filter _).map _).sum_eq

theorem mismatched_perm (perm : others.Perm fills) (orders : List ActivityOrder) :
    mismatched others orders = mismatched fills orders := by
  unfold mismatched
  simp only [filledByOrder_perm perm]

theorem inOrder_perm (perm : others.Perm fills) (distinct : (fills.map ActivityFill.stamp).Nodup) :
    inOrder others = inOrder fills :=
  (sortedOn_eq_of_perm perm.symm distinct).symm

theorem trips_perm (perm : others.Perm fills)
    (distinct : ∀ key, ((fills.filter (·.positionKey = key)).map ActivityFill.stamp).Nodup) :
    trips others = trips fills := by
  unfold trips
  have keys : (others.map ActivityFill.positionKey).dedup.Perm
      (fills.map ActivityFill.positionKey).dedup := (perm.map _).dedup
  rw [sortedOn_eq_of_perm keys (by simpa using List.nodup_dedup _)]
  simp only [fun key => inOrder_perm (perm.filter (·.positionKey = key)) (distinct key)]

/-- The fills may come in any order, if the stamps tell those of a position key apart. -/
theorem accountRoundTrips_perm (perm : others.Perm fills)
    (distinct : ∀ key, ((fills.filter (·.positionKey = key)).map ActivityFill.stamp).Nodup)
    (orders : List ActivityOrder) :
    accountRoundTrips others orders = accountRoundTrips fills orders := by
  unfold accountRoundTrips
  rw [mismatched_perm perm, trips_perm perm distinct]

theorem trips_of_key {key : String ×ₗ String} (keyed : ∀ fill ∈ fills, fill.positionKey = key) :
    trips fills = closedSlices (inOrder fills) := by
  have all : fills.filter (·.positionKey = key) = fills :=
    List.filter_eq_self.mpr fun fill listed => by simpa using keyed fill listed
  unfold trips
  cases fills with
  | nil => rfl
  | cons fill fills =>
    have keys : ((fill :: fills).map ActivityFill.positionKey).dedup = [key] := by
      have same : (fill :: fills).map ActivityFill.positionKey =
          List.replicate (fills.length + 1) key :=
        List.eq_replicate_iff.mpr ⟨by simp, by simpa using keyed⟩
      rw [same, List.replicate_dedup (by omega)]
    rw [keys, show sortedOn id [key] = [key] from rfl, List.flatMap_singleton, all]

/-- **Round trips conserve fills.** -/
theorem round_trips_conserve {key : String ×ₗ String}
    (positive : ∀ fill ∈ fills, 0 < fill.quantity)
    (keyed : ∀ fill ∈ fills, fill.positionKey = key)
    (distinct : (fills.map ActivityFill.stamp).Nodup) :
    trips fills = (scanSlices (inOrder fills)).closed ∧
    (∀ sliver ∈ (scanSlices (inOrder fills)).slices,
      sliver.fill ∈ fills ∧ 0 < sliver.quantity) ∧
    (∀ fill ∈ fills, taken (scanSlices (inOrder fills)).slices fill = fill.quantity) ∧
    (∀ trip ∈ (scanSlices (inOrder fills)).closed, net trip = 0 ∧ Unflat trip) ∧
    ((scanSlices (inOrder fills)).closed.map apportioned).sum +
        apportioned (scanSlices (inOrder fills)).openSlices =
      (fills.map fun fill => fill.realizedPnl.getD 0).sum ∧
    (∀ trip ∈ (scanSlices (inOrder fills)).closed, ∀ figures, economics trip = some figures →
      figures.1 = money (apportioned trip)) ∧
    ∀ others, others.Perm fills → ∀ orders,
      trips others = trips fills ∧
      accountRoundTrips others orders = accountRoundTrips fills orders := by
  have perm : (inOrder fills).Perm fills := sortedOn_perm _ fills
  have sound := sound_scanSlices (inOrder fills)
  refine ⟨trips_of_key keyed, fun sliver mem => ?_, fun fill listed => ?_, sound.flat_closed, ?_,
    fun trip _ figures => economics_eq_some, fun others reordered orders => ?_⟩
  · exact ⟨perm.mem_iff.mp (fill_of_slice mem), sound.positive sliver mem⟩
  · have once : (inOrder fills).count fill = 1 := by
      rw [perm.count_eq, List.count_eq_one_of_mem distinct.of_map listed]
    rw [taken_scanSlices, once, Nat.cast_one, one_mul]
    exact ActivityFill.abs_delta (positive fill listed)
  · rw [apportioned_scanSlices fun fill listed => positive fill (perm.mem_iff.mp listed)]
    exact (perm.map _).sum_eq
  · have apart : ∀ key, ((fills.filter (·.positionKey = key)).map ActivityFill.stamp).Nodup :=
      fun key => distinct.sublist (List.filter_sublist.map _)
    exact ⟨trips_perm reordered apart, accountRoundTrips_perm reordered apart orders⟩

def crossingFills : List ActivityFill :=
  [⟨"f1", "o1", "BTC-USDT", .buy, .net, 2, some 1, some "USDT", some 0, 1, some "USDT"⟩,
    ⟨"f2", "o2", "BTC-USDT", .sell, .net, 3, some 1, some "USDT", some 9, 2, some "USDT"⟩,
    ⟨"f3", "o3", "BTC-USDT", .buy, .net, 1, some 1, some "USDT", some 4, 3, some "USDT"⟩]

theorem crossingFills_conserved : (trips crossingFills).length = 2 ∧
    ((scanSlices (inOrder crossingFills)).closed.map apportioned).sum +
      apportioned (scanSlices (inOrder crossingFills)).openSlices = 13 := by
  have conserved := @round_trips_conserve crossingFills (toLex ("BTC-USDT", "net"))
    (by decide) (by decide) (by decide)
  obtain ⟨-, -, -, -, total, -⟩ := conserved
  exact ⟨by decide +kernel, total.trans (by decide +kernel)⟩

/-! ## Later fills -/

variable {later : List ActivityFill}

/-- The fills of a position key in their order. -/
def ofKey (key : String ×ₗ String) (fills : List ActivityFill) : List ActivityFill :=
  inOrder (fills.filter (·.positionKey = key))

/-- The closed trips are written and not read. -/
theorem next_closed (done : List (List Slice)) :
    SliceScan.next { scan with closed := done ++ scan.closed } fill =
      { scan.next fill with closed := done ++ (scan.next fill).closed } := by
  unfold SliceScan.next
  dsimp only
  split_ifs <;> simp only [List.append_assoc]

theorem foldl_closed (done : List (List Slice)) (fills : List ActivityFill) :
    (fills.foldl SliceScan.next { scan with closed := done ++ scan.closed }).closed =
      done ++ (fills.foldl SliceScan.next scan).closed := by
  induction fills generalizing scan with
  | nil => rfl
  | cons fill fills ih => rw [List.foldl_cons, next_closed, ih, List.foldl_cons]

/-- **Closed trips are settled.** Fills that come later leave the closed trips of every position key
as they are, and where its position is flat they make the trips that they make by themselves. -/
theorem closed_trips_settled
    (behind : ∀ fill ∈ fills, ∀ next ∈ later, fill.positionKey = next.positionKey →
      fill.stamp ≤ next.stamp) :
    (∀ key, closedSlices (ofKey key fills) <+: closedSlices (ofKey key (fills ++ later)) ∧
      ((scanSlices (ofKey key fills)).position = 0 →
        closedSlices (ofKey key (fills ++ later)) =
          closedSlices (ofKey key fills) ++ closedSlices (ofKey key later))) ∧
    trips fills ⊆ trips (fills ++ later) := by
  have settled (key : String ×ₗ String) :
      closedSlices (ofKey key (fills ++ later)) = closedSlices (ofKey key fills) ++
        ((ofKey key later).foldl SliceScan.next ⟨(scanSlices (ofKey key fills)).position,
          (scanSlices (ofKey key fills)).openSlices, []⟩).closed := by
    have sorted : ofKey key (fills ++ later) = ofKey key fills ++ ofKey key later := by
      unfold ofKey inOrder
      rw [List.filter_append]
      refine sortedOn_append fun fill listed next listed' => ?_
      simp only [List.mem_filter, decide_eq_true_eq] at listed listed'
      exact behind fill listed.1 next listed'.1 (listed.2.trans listed'.2.symm)
    rw [sorted, ← foldl_closed, List.append_nil]
    unfold closedSlices scanSlices
    rw [List.foldl_append]
  refine ⟨fun key => ⟨?_, fun flat => ?_⟩, fun trip mem => ?_⟩
  · rw [settled]
    exact List.prefix_append _ _
  · have none := (sound_scanSlices (ofKey key fills)).open_flat flat
    rw [settled, flat, none]
    rfl
  · obtain ⟨key, listed, closed⟩ := List.mem_flatMap.mp mem
    have listed : key ∈ (fills ++ later).map ActivityFill.positionKey := by
      rw [List.map_append]
      exact List.mem_append_left _ (by simpa using listed)
    refine List.mem_flatMap.mpr ⟨key, by simpa using listed, ?_⟩
    have kept : trip ∈ closedSlices (ofKey key (fills ++ later)) := by
      rw [settled]
      exact List.mem_append_left _ closed
    exact kept

/-- After the third fill the position is flat, and what follows makes its own trips. -/
theorem crossingFills_settled : closedSlices (ofKey (toLex ("BTC-USDT", "net")) (crossingFills ++
      [⟨"f4", "o4", "BTC-USDT", .buy, .net, 1, none, none, none, 4, none⟩])) =
    closedSlices (ofKey (toLex ("BTC-USDT", "net")) crossingFills) ++
      closedSlices (ofKey (toLex ("BTC-USDT", "net"))
        [⟨"f4", "o4", "BTC-USDT", .buy, .net, 1, none, none, none, 4, none⟩]) :=
  ((closed_trips_settled (by decide)).1 _).2 (by decide +kernel)

end AlphaTrade.Dashboard
