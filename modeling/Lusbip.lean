import Lusbip.Lib.Transition
import Lusbip.Lib.Progress
import Lusbip.Lib.Reader
import Lusbip.Lib.Text
import Lusbip.Lib.Fields
import Lusbip.Lib.Program
import Lusbip.Lib.Tenancy
import Lusbip.Lib.Locks
import Lusbip.Lib.Placement
import Lusbip.Usb.Outcome
import Lusbip.Usb.Host
import Lusbip.Usb.Device
import Lusbip.Usb.HostTransfer
import Lusbip.Usb.HandleUrb
import Lusbip.Usb.Protocol
import Lusbip.Usb.Codec
import Lusbip.Usb.ControlRequest
import Lusbip.Usb.ReplyLength
import Lusbip.Usb.Responses
import Lusbip.Usb.DeviceRecord
import Lusbip.Handler.Framing
import Lusbip.Handler.CommandStream
import Lusbip.Server.Locks
import Lusbip.Server.HostDevices
import Lusbip.Server.Inventory
import Lusbip.Server.DeviceList
import Lusbip.Server.Listing
import Lusbip.Server.Ownership
import Lusbip.Server.Occupancy
import Lusbip.Server.SessionEnd
import Lusbip.Server.Exports
import Lusbip.Server.Conservation
import Lusbip.Server.ListingRuns
import Lusbip.Server.Freshness
import Lusbip.Client.Control
import Lusbip.Client.Tables
import Lusbip.Client.VidPid
import Lusbip.Client.PortTable
import Lusbip.Server.OccupancyStatus
import Lusbip.Client.Matching
import Lusbip.Client.Occupancy
import Lusbip.Client.Commands
import Lusbip.Client.Recovery
import Lusbip.Client.RecoveryRun
import Lusbip.Client.Detaching
import Lusbip.Client.Rows
import Lusbip.Client.ExitPath
import Lusbip.Client.ExitScope
import Lusbip.Client.RowCache
import Lusbip.Client.SessionLock
import Lusbip.Session.BulkIn
import Lusbip.Session.BulkOut
import Lusbip.Session.Connection
import Lusbip.Session.Effect
import Lusbip.Session.BulkInBooks
import Lusbip.Session.Outcomes
import Lusbip.Session.Isolation
import Lusbip.Session.Ledger
import Lusbip.Session.Workers
import Lusbip.Session.Barrier
import Lusbip.Session.BulkInData
import Lusbip.Session.Chronicle
import Lusbip.Session.BulkOutData
import Lusbip.Session.Replies
import Lusbip.Session.ReplyBounds
import Lusbip.Session.ReplyStream
import Lusbip.Session.Accepted
import Lusbip.Session.Orphans
import Lusbip.Session.Whereabouts
import Lusbip.Session.OneOutcome
import Lusbip.Session.Teardown
import Lusbip.Client.AgentRuntime
import Lusbip.Client.Agent
import Lusbip.Client.PortUrls
import Lusbip.Client.StatePaths
import Lusbip.Client.AgentRun
import Lusbip.Client.AgentRows
import Lusbip.Client.ManagedPorts
import Lusbip.Client.OwnPorts
import Lusbip.Session.BulkInOrder
import Lusbip.Server.ConfigurationDescriptors
import Lusbip.Server.ConfigurationLayout
import Lusbip.Server.InterfaceNumbers
import Lusbip.Usb.Exchanges
import Lusbip.Usb.Configured
import Lusbip.Usb.InterruptIn
import Lusbip.Usb.Performed
import Lusbip.Usb.Strings
import Lusbip.Session.BulkOutSticky
import Lusbip.Session.SynchronousRead
import Lusbip.Session.Fallback
import Lusbip.Session.Reports
import Lusbip.Session.CancelledWrites
import Lusbip.Lib.Withdrawals
import Lusbip.Session.BulkInWords
import Lusbip.Session.Bearers
import Lusbip.Session.Bookkeeping
import Lusbip.Session.Answerable
import Lusbip.Session.Waiting
import Lusbip.Session.InHand
import Lusbip.Session.Docket
import Lusbip.Session.BulkInRounds
import Lusbip.Lib.Keyed
import Lusbip.Tui.Items
import Lusbip.Tui.ActionList
import Lusbip.Tui.Refreshing
import Lusbip.Tui.RunningActions
import Lusbip.Usb.StringDescriptors
import Lusbip.Server.InterfaceStrings
import Lusbip.Lib.Terminal
import Lusbip.Tui.Frame
import Lusbip.Tui.Screen
import Lusbip.Tui.Selecting
import Lusbip.Tui.Provenance
import Lusbip.Client.RemoteControl
import Lusbip.Client.Controller
import Lusbip.Client.Doctor
import Lusbip.Client.Sanctioned
import Lusbip.Server.Lifecycle
import Lusbip.Server.Cleanup
import Lusbip.Lib.Child
import Lusbip.Client.Runner
import Lusbip.Lib.Radix
import Lusbip.Cli.Arguments
import Lusbip.Server.StatusPage
import Lusbip.Usb.InterfaceHandlers
import Lusbip.Server.Exclusive
import Lusbip.Server.Stranded
