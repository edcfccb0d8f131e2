import Switchboard.Bot
import Switchboard.Bundled.Commands
import Switchboard.Bundled.Guess
import Switchboard.Bundled.Routine
import Switchboard.Bundled.Settings
import Switchboard.Calendar
import Switchboard.Command.LiveSet
import Switchboard.Command.Matcher
import Switchboard.Command.Template
import Switchboard.CommandLine
import Switchboard.Console
import Switchboard.Console.Session
import Switchboard.Conversations
import Switchboard.Conversations.Sweeper
import Switchboard.Declaration
import Switchboard.Error
import Switchboard.Execution
import Switchboard.Files.Path
import Switchboard.Files.Tree
import Switchboard.Inspection
import Switchboard.Json.Access
import Switchboard.Json.Basic
import Switchboard.Json.Merge
import Switchboard.Json.Printer
import Switchboard.Json.Reader
import Switchboard.Log
import Switchboard.Main
import Switchboard.Message
import Switchboard.Message.Document
import Switchboard.Metrics
import Switchboard.MetricsReport
import Switchboard.Note
import Switchboard.Number.Binary64
import Switchboard.Number.Shortest
import Switchboard.Pattern.Basic
import Switchboard.Pattern.Match
import Switchboard.Pattern.Parser
import Switchboard.Pool
import Switchboard.Pool.Workload
import Switchboard.Processes
import Switchboard.Proofs.Aborts
import Switchboard.Proofs.Accounts
import Switchboard.Proofs.Backgrounds
import Switchboard.Proofs.Balances
import Switchboard.Proofs.Bindings
import Switchboard.Proofs.Breakdowns
import Switchboard.Proofs.Builds
import Switchboard.Proofs.Calls
import Switchboard.Proofs.Cancellation
import Switchboard.Proofs.ClosedLoop
import Switchboard.Proofs.CommandSeries
import Switchboard.Proofs.Containment
import Switchboard.Proofs.Counters
import Switchboard.Proofs.Debounce
import Switchboard.Proofs.DeepMerge
import Switchboard.Proofs.Deliveries
import Switchboard.Proofs.Dialogue
import Switchboard.Proofs.Effects
import Switchboard.Proofs.Executions
import Switchboard.Proofs.FairRuns
import Switchboard.Proofs.FairTimers
import Switchboard.Proofs.FileNames
import Switchboard.Proofs.FiringTimers
import Switchboard.Proofs.FirstSubscribers
import Switchboard.Proofs.FirstWords
import Switchboard.Proofs.GuessingGames
import Switchboard.Proofs.HotReload
import Switchboard.Proofs.Intakes
import Switchboard.Proofs.Intervals
import Switchboard.Proofs.Labours
import Switchboard.Proofs.LaneMoves
import Switchboard.Proofs.Lasting
import Switchboard.Proofs.Lifecycle
import Switchboard.Proofs.LiveInstances
import Switchboard.Proofs.LiveTimers
import Switchboard.Proofs.LookoutClock
import Switchboard.Proofs.Moves
import Switchboard.Proofs.Occurrences
import Switchboard.Proofs.Opening
import Switchboard.Proofs.OpeningWrites
import Switchboard.Proofs.OrderedDocuments
import Switchboard.Proofs.Origins
import Switchboard.Proofs.OverlaidRecords
import Switchboard.Proofs.Overlays
import Switchboard.Proofs.Paths
import Switchboard.Proofs.PendingFiles
import Switchboard.Proofs.Placeholders
import Switchboard.Proofs.PoolConservation
import Switchboard.Proofs.PoolJobs
import Switchboard.Proofs.PoolLines
import Switchboard.Proofs.PoolMoves
import Switchboard.Proofs.PoolRuns
import Switchboard.Proofs.PoolShutdown
import Switchboard.Proofs.Recordings
import Switchboard.Proofs.Requests
import Switchboard.Proofs.Routing
import Switchboard.Proofs.RunEndings
import Switchboard.Proofs.SeriesKeys
import Switchboard.Proofs.ServedTasks
import Switchboard.Proofs.SharedStore
import Switchboard.Proofs.SortedTables
import Switchboard.Proofs.StandingTimers
import Switchboard.Proofs.Startup
import Switchboard.Proofs.SteadyTimers
import Switchboard.Proofs.StoppedTimers
import Switchboard.Proofs.StoreHistories
import Switchboard.Proofs.StoreRoom
import Switchboard.Proofs.StoredSteps
import Switchboard.Proofs.Sweeping
import Switchboard.Proofs.Targets
import Switchboard.Proofs.TaskBuilds
import Switchboard.Proofs.TaskLabours
import Switchboard.Proofs.TaskMoves
import Switchboard.Proofs.TimedMap
import Switchboard.Proofs.Turns
import Switchboard.Proofs.WatchCalls
import Switchboard.Proofs.Watching
import Switchboard.Proofs.WorkloadRuns
import Switchboard.Proofs.WorkloadShutdown
import Switchboard.Proofs.Writes
import Switchboard.Property.Age
import Switchboard.Property.AgeTable
import Switchboard.Property.Basic
import Switchboard.Property.Break
import Switchboard.Property.BreakTable
import Switchboard.Property.Category
import Switchboard.Property.CategoryTable
import Switchboard.Property.Flag
import Switchboard.Property.FlagTable
import Switchboard.Property.Folding
import Switchboard.Property.FoldingTable
import Switchboard.Property.Lookup
import Switchboard.Property.Script
import Switchboard.Property.ScriptTable
import Switchboard.Property.SharedTable
import Switchboard.Registry
import Switchboard.Registry.Workshop
import Switchboard.Runner.Actors
import Switchboard.Runner.Background
import Switchboard.Runner.Bot
import Switchboard.Runner.Dispatch
import Switchboard.Runner.Happening
import Switchboard.Runner.Job
import Switchboard.Runner.Labour
import Switchboard.Runner.Lane
import Switchboard.Runner.Start
import Switchboard.Runner.State
import Switchboard.Runner.Supervision
import Switchboard.Schedule
import Switchboard.Schedule.Cron
import Switchboard.Schedule.Field
import Switchboard.Schedule.Interval
import Switchboard.Scope
import Switchboard.Scope.Named
import Switchboard.Script
import Switchboard.Settings.Format
import Switchboard.Settings.Overlay
import Switchboard.Settings.Record
import Switchboard.Settings.Runner
import Switchboard.Settings.Source
import Switchboard.Settings.Typed
import Switchboard.Status
import Switchboard.Table
import Switchboard.Task.Template
import Switchboard.Task.Timers
import Switchboard.Task.Timetable
import Switchboard.Text.Blank
import Switchboard.Text.CaseRun
import Switchboard.Text.CasedTable
import Switchboard.Text.Duration
import Switchboard.Text.Lowercase
import Switchboard.Text.LowercaseTable
import Switchboard.Text.PrintableTable
import Switchboard.Text.Quoted
import Switchboard.Text.Ranges
import Switchboard.Text.Substitute
import Switchboard.Text.Utf8
import Switchboard.Ticker
import Switchboard.Timestamp
import Switchboard.Watch.Event
import Switchboard.Watch.Lookout
import Switchboard.Watch.Watcher
import Switchboard.Watch.Watches
import Switchboard.Yaml.Cursor
import Switchboard.Yaml.Json
import Switchboard.Yaml.Node
import Switchboard.Yaml.Node.Composer
import Switchboard.Yaml.Schema
import Switchboard.Yaml.Token
import Switchboard.Yaml.Token.Lexer
import Switchboard.Yaml.Token.Scalar
