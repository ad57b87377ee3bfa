import AlphaTrade.Evidence.SetupLifetime
import AlphaTrade.Journal.Projector
import AlphaTrade.Market.Ohlcv

/-!
# What the detectors share

Prices are exact rationals. A detector looks at a market from the side of its direction: in the
mirrored coordinates of a short, falling prices are rising ones. Identifiers are named by `uuid5`,
which stands as a parameter.
-/
namespace AlphaTrade.StrategyBrain
open Market (OhlcvBar)
open Journal (TradeDirection)
open Evidence (Uuid)

inductive BrainSetupState where
  | noSetup | watch | forming | confirmed | tradeCandidate | blockedByRisk | invalidated
  | expired | completed
  deriving DecidableEq, Repr

/-- `state in {INVALIDATED, EXPIRED}`. -/
def BrainSetupState.Terminal (state : BrainSetupState) : Prop :=
  state = .invalidated ∨ state = .expired

instance (state : BrainSetupState) : Decidable state.Terminal := inferInstanceAs (Decidable (_ ∨ _))

inductive EvidenceAvailability where
  | available | missing | stale | unsupported | incomplete
  deriving DecidableEq, Repr

/-- `direction.value`. -/
def directionValue : TradeDirection → String
  | .long => "long"
  | .short => "short"

/-- `sign`. -/
def sign : TradeDirection → ℚ
  | .long => 1
  | .short => -1

def mirroredHigh (direction : TradeDirection) (bar : OhlcvBar) : ℚ :=
  match direction with
  | .long => bar.high
  | .short => -bar.low

def mirroredLow (direction : TradeDirection) (bar : OhlcvBar) : ℚ :=
  match direction with
  | .long => bar.low
  | .short => -bar.high

def mirroredClose (direction : TradeDirection) (bar : OhlcvBar) : ℚ :=
  bar.close * sign direction

def OnLosingSide (direction : TradeDirection) (stop entry : ℚ) : Prop :=
  match direction with
  | .long => stop < entry
  | .short => entry < stop

@[simp] theorem sign_mul_sign (direction : TradeDirection) :
    sign direction * sign direction = 1 := by
  cases direction <;> simp [sign]

theorem onLosingSide_iff (direction : TradeDirection) (stop entry : ℚ) :
    OnLosingSide direction stop entry ↔ stop * sign direction < entry * sign direction := by
  cases direction <;> simp [OnLosingSide, sign]

end AlphaTrade.StrategyBrain
