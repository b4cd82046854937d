import Rwl.Lib.Run
import Rwl.Lib.Pairing
import Rwl.Lib.Recency
import Rwl.Lib.Registry
import Rwl.Lib.Mask
import Rwl.Lib.Backlink
import Rwl.Lib.Split
import Rwl.Lib.Hub
import Rwl.Lib.Writes
import Rwl.Lib.Latest
import Rwl.Lib.Keyed
import Rwl.Lib.Guillotine
import Rwl.Lib.Shares
import Rwl.Core.Geometry
import Rwl.Core.Config
import Rwl.Core.Window
import Rwl.Core.Monitor
import Rwl.Core.Layout
import Rwl.Core.Desk
import Rwl.Core.Arrange
import Rwl.Core.Seat
import Rwl.Core.State
import Rwl.Core.Focus
import Rwl.Core.Lock
import Rwl.Core.Overview
import Rwl.Core.Output
import Rwl.Core.Actions
import Rwl.Core.GrabOps
import Rwl.Core.Rules
import Rwl.Core.Shell
import Rwl.Core.XWayland
import Rwl.Core.Input
import Rwl.Core.Render
import Rwl.Core.Step
import Rwl.Core.Gate
import Rwl.Core.Drm
import Rwl.Core.Text
import Rwl.Core.Status
import Rwl.Core.Bar
import Rwl.Core.Ipc
import Rwl.Core.Streams
import Rwl.Core.CommandQueue
import Rwl.Core.Numbers
import Rwl.Core.TagCount
import Rwl.Core.Masters
import Rwl.Theory.DeskRegistry
import Rwl.Theory.Acts
import Rwl.Theory.ActionActs
import Rwl.Theory.ShellActs
import Rwl.Theory.OutputActs
import Rwl.Theory.StepActs
import Rwl.Theory.MonitorIndices
import Rwl.Theory.FocusStack
import Rwl.Theory.Sessions
import Rwl.Theory.NativeLock
import Rwl.Theory.ExternalLock
import Rwl.Theory.Footprint
import Rwl.Theory.Captures
import Rwl.Theory.KeyPairing
import Rwl.Theory.ButtonPairing
import Rwl.Theory.LockedKeyboard
import Rwl.Theory.Swallowed
import Rwl.Theory.DeskChanges
import Rwl.Theory.ActionChanges
import Rwl.Theory.ShellChanges
import Rwl.Theory.StepChanges
import Rwl.Theory.Views
import Rwl.Theory.Reload
import Rwl.Theory.Pins
import Rwl.Theory.InForce
import Rwl.Theory.FocusRests
import Rwl.Theory.SocketCommands
import Rwl.Theory.Refocus
import Rwl.Theory.Closing
import Rwl.Theory.QuietClose
import Rwl.Theory.SwallowLinks
import Rwl.Theory.SwallowRuns
import Rwl.Theory.StatusStream
import Rwl.Theory.BarDecoders
import Rwl.Theory.StatusPipe
import Rwl.Theory.OutputFilter
import Rwl.Theory.StreamIntegrity
import Rwl.Theory.MsgRoundTrip
import Rwl.Theory.BarCommands
import Rwl.Theory.Heard
import Rwl.Theory.HeardEvents
import Rwl.Theory.WindowStream
import Rwl.Theory.LayoutCells
import Rwl.Theory.LayoutSplits
import Rwl.Theory.LayoutColumns
import Rwl.Theory.MonitorBoxes
import Rwl.Theory.Placement
import Rwl.Theory.RenderGate
import Rwl.Theory.PageFlips
import Rwl.Theory.Connectors
import Rwl.Theory.Hotplug
import Rwl.Theory.Mapped
import Rwl.Theory.Rolls
import Rwl.Theory.RollActions
import Rwl.Theory.RollShell
import Rwl.Theory.RollSteps
import Rwl.Theory.Lost
import Rwl.Theory.Drags
import Rwl.Theory.ColumnFractions
import Rwl.Theory.CommandQueue
import Rwl.Theory.TagArithmetic
import Rwl.Theory.MasterRuns
import Rwl.Theory.RuleResults
import Rwl.Theory.QuietActions
import Rwl.Theory.LayerKeyboard
import Rwl.Theory.Settled
import Rwl.Theory.OnScreen
import Rwl.Theory.Hints
import Rwl.Theory.FocusCycle
import Rwl.Theory.Zoom
import Rwl.Theory.NextOccupied
import Rwl.Theory.ModTap
import Rwl.Theory.Scratchpads
import Rwl.Theory.TagSwitches
import Rwl.Theory.AutoBack
import Rwl.Theory.TagHistory
import Rwl.Theory.FaithfulHistory
import Rwl.Theory.Replug
import Rwl.Theory.PasswordBuffer
import Rwl.Theory.OverviewGrid
import Rwl.Theory.BarVisibility
import Rwl.Theory.BarBuffers
import Rwl.Theory.HoverResults
import Rwl.Theory.GammaOwnership
import Rwl.Theory.JsonLines
import Rwl.Theory.PointerBounds
import Rwl.Theory.GuardDiscipline
import Rwl.Theory.ScreencopyRuns
import Rwl.Theory.WeightedSpans
import Rwl.Theory.BlockSignals
import Rwl.Theory.AnsiText
import Rwl.Theory.StatusMarkup
import Rwl.Theory.WallpaperDecodes
import Rwl.Theory.PromptEditing
import Rwl.Theory.BarSegments
import Rwl.Theory.BlockHits
import Rwl.Lib.Nudge
import Rwl.Core.Popup
import Rwl.Theory.PopupPlacement
import Rwl.Lib.Carving
import Rwl.Core.LayerShell
import Rwl.Theory.PanelZones
import Rwl.Theory.PanelBoxes
import Rwl.Lib.SerialNumbers
import Rwl.Theory.ConfigureHandshake
import Rwl.Theory.Passes
import Rwl.Theory.StackOrder
import Rwl.Lib.Painting
import Rwl.Core.Frame
import Rwl.Theory.BorderColors
import Rwl.Core.Commands
import Rwl.Theory.CommandWords
import Rwl.Theory.CommandEvents
import Rwl.Lib.Forest
import Rwl.Core.PopupTree
import Rwl.Theory.PopupWalks
import Rwl.Theory.PopupRuns
import Rwl.Theory.PopupGrabs
