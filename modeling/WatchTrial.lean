import WatchTrial.Ascending
import WatchTrial.Bench.Basic
import WatchTrial.Bench.Event
import WatchTrial.CommandLine.Completion
import WatchTrial.CommandLine.EnvFile
import WatchTrial.CommandLine.Flag
import WatchTrial.CommandLine.Log
import WatchTrial.CommandLine.Options
import WatchTrial.CommandLine.Program
import WatchTrial.CommandLine.Terminal
import WatchTrial.Companion.Automation
import WatchTrial.Companion.Bench
import WatchTrial.Companion.Picker
import WatchTrial.Companion.Selector
import WatchTrial.Device.Adb
import WatchTrial.Device.Address
import WatchTrial.Device.DisplaySize
import WatchTrial.Device.Listing
import WatchTrial.Device.Operations
import WatchTrial.Device.Screenshot
import WatchTrial.Duration
import WatchTrial.Effect
import WatchTrial.Face.ApkList
import WatchTrial.Face.Labels
import WatchTrial.Face.Progress
import WatchTrial.Fault
import WatchTrial.Gesture.Move
import WatchTrial.Gesture.Player
import WatchTrial.Gesture.Rehearsal
import WatchTrial.Gesture.Standard
import WatchTrial.Gesture.Swipe
import WatchTrial.Image.Checksum
import WatchTrial.Image.Chunk
import WatchTrial.Image.Inflate
import WatchTrial.Image.Png
import WatchTrial.Instant
import WatchTrial.Json.Basic
import WatchTrial.Json.Reader
import WatchTrial.Json.Record
import WatchTrial.Json.Writer
import WatchTrial.Link.Command
import WatchTrial.Main
import WatchTrial.Rehearsal.Handset
import WatchTrial.Rehearsal.Host
import WatchTrial.Rehearsal.Script
import WatchTrial.Rehearsal.Shell.Machine
import WatchTrial.Rehearsal.Shell.Pattern
import WatchTrial.Rehearsal.Shell.Reader
import WatchTrial.Rehearsal.Shell.Run
import WatchTrial.Rehearsal.Shell.Sum
import WatchTrial.Rehearsal.Shell.Tree
import WatchTrial.Rehearsal.Tool.Basic
import WatchTrial.Rehearsal.Tool.Condition
import WatchTrial.Rehearsal.Tool.Echo
import WatchTrial.Rehearsal.Tool.Filter
import WatchTrial.Rehearsal.Tool.Numeral
import WatchTrial.Rehearsal.Tool.Options
import WatchTrial.Rehearsal.Tool.Printf
import WatchTrial.Rehearsal.Tool.Sequence
import WatchTrial.Rehearsal.Tool.Table
import WatchTrial.Sensor.Changes
import WatchTrial.Sensor.Dump
import WatchTrial.Sensor.Filter
import WatchTrial.Sensor.Registration
import WatchTrial.Sensor.Snapshot
import WatchTrial.Session
import WatchTrial.Settings.Basic
import WatchTrial.Settings.Load
import WatchTrial.Settings.Variables
import WatchTrial.Storage.Files
import WatchTrial.Storage.Glob
import WatchTrial.Storage.Path
import WatchTrial.Text.Base64
import WatchTrial.Text.Blank
import WatchTrial.Text.Decimal
import WatchTrial.Text.Edit
import WatchTrial.Text.Float
import WatchTrial.Text.Lines
import WatchTrial.Text.Literal
import WatchTrial.Text.Order
import WatchTrial.Text.Patch
import WatchTrial.Text.Printable
import WatchTrial.Text.Quoted
import WatchTrial.Text.Record
import WatchTrial.Text.Stencil
import WatchTrial.Text.Utf8
import WatchTrial.Trial.Bench
import WatchTrial.Trial.Report
import WatchTrial.Trial.Rig
import WatchTrial.Trial.Run
import WatchTrial.Trial.Step
import WatchTrial.Web.Address
import WatchTrial.Web.Escape
import WatchTrial.Web.Number
import WatchTrial.Yaml.Document
import WatchTrial.Yaml.Node
import WatchTrial.Yaml.Record
import WatchTrial.Yaml.Scalar
import WatchTrial.Yaml.Source
import WatchTrial.Yaml.Timestamp
import WatchTrial.Yaml.Token
import WatchTrial.Yaml.Token.Property
import WatchTrial.Yaml.Token.Queue
import WatchTrial.Yaml.Token.Scalar
import WatchTrial.Proofs.Frame.Device
import WatchTrial.Proofs.Frame.Companion
import WatchTrial.Proofs.Frame.Watch
import WatchTrial.Proofs.ByteOrder
import WatchTrial.Proofs.Frame.Trial
import WatchTrial.Proofs.Journal
import WatchTrial.Proofs.Snapshots
import WatchTrial.Proofs.Steps
import WatchTrial.Proofs.Leaks
import WatchTrial.Proofs.Recording
import WatchTrial.Proofs.Plan
import WatchTrial.Proofs.Verdicts
import WatchTrial.Proofs.Triples
import WatchTrial.Proofs.Links
import WatchTrial.Proofs.ManagedSession
import WatchTrial.Proofs.Patience
import WatchTrial.Proofs.Connecting
import WatchTrial.Proofs.Replay
import WatchTrial.Proofs.CancelledTrial
import WatchTrial.Proofs.Raising
import WatchTrial.Proofs.FailedStages
import WatchTrial.Proofs.AutomationLog
import WatchTrial.Proofs.AutomationRequests
import WatchTrial.Proofs.AutomationSessions
import WatchTrial.Proofs.PickedFace
import WatchTrial.Proofs.Frame.Files
import WatchTrial.Proofs.Screenshots
import WatchTrial.Proofs.DisplayTrial
import WatchTrial.Proofs.CleanPaths
import WatchTrial.Proofs.CleanedPaths
import WatchTrial.Proofs.Completed
import WatchTrial.Proofs.Campaign
import WatchTrial.Proofs.DumpBlocks
import WatchTrial.Proofs.Removal
import WatchTrial.Proofs.Undisturbed
import WatchTrial.Proofs.WrittenJson
import WatchTrial.Proofs.WrittenReports
import WatchTrial.Proofs.ExitStatus
import WatchTrial.Proofs.JoinedDumps
import WatchTrial.Proofs.IgnoredListeners
import WatchTrial.Proofs.SelectingSteps
import WatchTrial.Proofs.SwipePath
import WatchTrial.Proofs.RegistryHistory
import WatchTrial.Proofs.PlayedScript
import WatchTrial.Proofs.Bracketing
import WatchTrial.Proofs.OnScreen
import WatchTrial.Proofs.EditScripts
import WatchTrial.Proofs.Patches
import WatchTrial.Proofs.SnapshotChanges
import WatchTrial.Proofs.Retrying
import WatchTrial.Proofs.Installing
import WatchTrial.Proofs.FaultTrees
import WatchTrial.Proofs.RepliesInOrder
import WatchTrial.Proofs.SelectorExpressions
import WatchTrial.Proofs.LabelTables
import WatchTrial.Proofs.Decimals
import WatchTrial.Proofs.TrimmedLines
import WatchTrial.Proofs.PackageLists
import WatchTrial.Proofs.FileText
import WatchTrial.Proofs.DisplaySizes
import WatchTrial.Proofs.LineEnds
import WatchTrial.Proofs.CallLines
import WatchTrial.Proofs.NetworkAddresses
import WatchTrial.Proofs.DeviceListings
import WatchTrial.Proofs.GivenFlags
import WatchTrial.Proofs.LayeredSettings
