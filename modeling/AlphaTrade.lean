import AlphaTrade.Approval.Service
import AlphaTrade.Approval.Statements
import AlphaTrade.Approval.Uniqueness
import AlphaTrade.Backtest.Causality
import AlphaTrade.Backtest.ReplayLedger
import AlphaTrade.Backtest.ReplayTimes
import AlphaTrade.Backtest.Simulation
import AlphaTrade.Dashboard.ActivityRoundTrips
import AlphaTrade.Dashboard.ManualMirror
import AlphaTrade.Dashboard.MirrorFunding
import AlphaTrade.Dashboard.MirrorPages
import AlphaTrade.Dashboard.MirrorRows
import AlphaTrade.Evidence.SetupLifetime
import AlphaTrade.Evidence.SetupPins
import AlphaTrade.Execution.Books
import AlphaTrade.Execution.Claim
import AlphaTrade.Execution.Claims
import AlphaTrade.Execution.Close
import AlphaTrade.Execution.Conservation
import AlphaTrade.Execution.Cover
import AlphaTrade.Execution.Database
import AlphaTrade.Execution.Dispatch
import AlphaTrade.Execution.Dispatcher
import AlphaTrade.Execution.Fencing
import AlphaTrade.Execution.Fills
import AlphaTrade.Execution.Freed
import AlphaTrade.Execution.Ledger
import AlphaTrade.Execution.Log
import AlphaTrade.Execution.Moves
import AlphaTrade.Execution.Order
import AlphaTrade.Execution.Outcomes
import AlphaTrade.Execution.Rebuild
import AlphaTrade.Execution.Replay
import AlphaTrade.Execution.Rows
import AlphaTrade.Execution.SafetyEpoch
import AlphaTrade.Execution.Sends
import AlphaTrade.Execution.Steps
import AlphaTrade.Execution.System
import AlphaTrade.Execution.Tally
import AlphaTrade.Execution.Transitions
import AlphaTrade.Execution.Writes
import AlphaTrade.Fusion.Command
import AlphaTrade.Fusion.Confirmation
import AlphaTrade.Fusion.DeadSetups
import AlphaTrade.Fusion.Evaluator
import AlphaTrade.Fusion.EvidenceWindow
import AlphaTrade.Fusion.FailClosed
import AlphaTrade.Fusion.FirstSlice
import AlphaTrade.Fusion.RuleRuns
import AlphaTrade.Fusion.Rules
import AlphaTrade.Fusion.Soundness
import AlphaTrade.Fusion.Swings
import AlphaTrade.Fusion.WindowIdentity
import AlphaTrade.Journal.Arrival
import AlphaTrade.Journal.Redelivery
import AlphaTrade.Journal.Projector
import AlphaTrade.Library.Asks
import AlphaTrade.Library.Attempt
import AlphaTrade.Library.CanonicalJson
import AlphaTrade.Library.Check
import AlphaTrade.Library.DecimalContext
import AlphaTrade.Library.Entering
import AlphaTrade.Library.Episodes
import AlphaTrade.Library.Intervals
import AlphaTrade.Library.Journal
import AlphaTrade.Library.Numbered
import AlphaTrade.Library.Ordered
import AlphaTrade.Library.PrefixCode
import AlphaTrade.Library.Program
import AlphaTrade.Library.PyClock
import AlphaTrade.Library.PyJson
import AlphaTrade.Library.PyValue
import AlphaTrade.Library.Rounding
import AlphaTrade.Library.Run
import AlphaTrade.Library.Saturate
import AlphaTrade.Library.Scan
import AlphaTrade.Library.Sightings
import AlphaTrade.Library.SlidingWindow
import AlphaTrade.Library.SortedOn
import AlphaTrade.Library.SqlTruth
import AlphaTrade.Library.Table
import AlphaTrade.Library.TailProof
import AlphaTrade.Library.Transaction
import AlphaTrade.Library.Watermark
import AlphaTrade.Library.Windows
import AlphaTrade.Market.AggTrades
import AlphaTrade.Market.ClosedSeries
import AlphaTrade.Market.ExactFlow
import AlphaTrade.Market.Freshness
import AlphaTrade.Market.HonestCoverage
import AlphaTrade.Market.Ohlcv
import AlphaTrade.Market.ProvenTails
import AlphaTrade.Market.PublicObservation
import AlphaTrade.Market.QuoteFlow
import AlphaTrade.Market.RecentTape
import AlphaTrade.Market.RecentTrades
import AlphaTrade.Market.Reconnects
import AlphaTrade.Market.ReducedBars
import AlphaTrade.Market.RequestBudget
import AlphaTrade.Market.RetainedTrades
import AlphaTrade.Market.ServedWindows
import AlphaTrade.Market.SettledKlines
import AlphaTrade.Market.Singleflight
import AlphaTrade.Market.StreamingHash
import AlphaTrade.Market.TapeRuns
import AlphaTrade.Market.TradeReduction
import AlphaTrade.Market.TradeStream
import AlphaTrade.Market.TradeVenue
import AlphaTrade.Market.TradeWindows
import AlphaTrade.Market.Trades
import AlphaTrade.Market.UpstreamPause
import AlphaTrade.Market.WindowCache
import AlphaTrade.PaperExit.FirstTouch
import AlphaTrade.PaperExit.Monitor
import AlphaTrade.Performance.EquityCalculator
import AlphaTrade.Performance.EquityConservation
import AlphaTrade.Risk.Accounting
import AlphaTrade.Risk.Breakers
import AlphaTrade.Risk.BusinessDays
import AlphaTrade.Risk.ConcurrentSizing
import AlphaTrade.Risk.Coverage
import AlphaTrade.Risk.Drawdown
import AlphaTrade.Risk.Force
import AlphaTrade.Risk.Governance
import AlphaTrade.Risk.Latches
import AlphaTrade.Risk.LeverageReduction
import AlphaTrade.Risk.PlanSizing
import AlphaTrade.Risk.Policy
import AlphaTrade.Risk.Profile
import AlphaTrade.Risk.Recheck
import AlphaTrade.Risk.RoundTrip
import AlphaTrade.Risk.Sizer
import AlphaTrade.Risk.SizerBounds
import AlphaTrade.Risk.Versions
import AlphaTrade.SignalFusion.Agreement
import AlphaTrade.SignalFusion.Candidate
import AlphaTrade.SignalFusion.Eligibility
import AlphaTrade.SignalFusion.Epochs
import AlphaTrade.SignalFusion.History
import AlphaTrade.SignalFusion.Memory
import AlphaTrade.SignalFusion.Postgres
import AlphaTrade.SignalFusion.Validity
import AlphaTrade.StrategyBrain.Nested
import AlphaTrade.StrategyBrain.NestedEpisodes
import AlphaTrade.StrategyBrain.NestedReplay
import AlphaTrade.StrategyBrain.SetupAst
import AlphaTrade.StrategyBrain.SetupUnits
import AlphaTrade.StrategyBrain.Setups
import AlphaTrade.Telegram.Bindings
import AlphaTrade.Telegram.ClaimFilter
import AlphaTrade.Telegram.Contracts
import AlphaTrade.Telegram.Delivery
import AlphaTrade.Telegram.Intents
import AlphaTrade.Telegram.Keys
import AlphaTrade.Telegram.Moves
import AlphaTrade.Telegram.Nonces
import AlphaTrade.Telegram.Outbox
import AlphaTrade.Telegram.Attempts
import AlphaTrade.Telegram.Policy
import AlphaTrade.Telegram.Presenting
import AlphaTrade.Telegram.Protocol
import AlphaTrade.Telegram.RateWindows
import AlphaTrade.Telegram.Redelivery
import AlphaTrade.Telegram.Serving
import AlphaTrade.Telegram.Spacing
import AlphaTrade.Telegram.Store
import AlphaTrade.TradePlan.CanonicalDecimal
import AlphaTrade.TradePlan.RewardRisk
import AlphaTrade.Watcher.Expiry
import AlphaTrade.Watcher.Fencing
import AlphaTrade.Watcher.Methods
import AlphaTrade.Watcher.Orchestrator
import AlphaTrade.Watcher.Publishing
import AlphaTrade.Watcher.Replay
import AlphaTrade.Watcher.Requests
import AlphaTrade.Watcher.Store
