import HostedFs.Capability
import HostedFs.Data.Codec
import HostedFs.Data.Json
import HostedFs.Data.Native
import HostedFs.Data.Record
import HostedFs.Data.Toml.Build
import HostedFs.Data.Toml.Number
import HostedFs.Data.Toml.Parse
import HostedFs.Data.Toml.Render
import HostedFs.Data.Toml.Text
import HostedFs.Data.Tree
import HostedFs.Disk
import HostedFs.Errno
import HostedFs.Event
import HostedFs.FileSystem.Basic
import HostedFs.FileSystem.Call
import HostedFs.FileSystem.Trace
import HostedFs.Host.Arguments
import HostedFs.Host.Error
import HostedFs.Host.Record
import HostedFs.Host.Schedule
import HostedFs.Host.Step
import HostedFs.Host.World
import HostedFs.Identity
import HostedFs.Log.Directive
import HostedFs.Log.Entry
import HostedFs.Log.File
import HostedFs.Log.Filter
import HostedFs.Log.Value
import HostedFs.Main
import HostedFs.Native.FileInfo
import HostedFs.Native.Library
import HostedFs.Native.Memory
import HostedFs.Native.Operations
import HostedFs.Notification
import HostedFs.Options.Error
import HostedFs.Options.Numeral
import HostedFs.Options.Parse
import HostedFs.Options.Scan
import HostedFs.Options.Slot
import HostedFs.Options.Template
import HostedFs.Path
import HostedFs.Pattern.Class
import HostedFs.Pattern.Escape
import HostedFs.Pattern.Flags
import HostedFs.Pattern.Group
import HostedFs.Probe.Arguments
import HostedFs.Probe.FileSystem
import HostedFs.Probe.Plan
import HostedFs.Probe.Run
import HostedFs.Proofs.Attempts
import HostedFs.Proofs.Data.Codecs
import HostedFs.Proofs.Data.Fields
import HostedFs.Proofs.Data.Records
import HostedFs.Proofs.Data.Shapes
import HostedFs.Proofs.Host.Callbacks
import HostedFs.Proofs.Host.Calm
import HostedFs.Proofs.Host.Course
import HostedFs.Proofs.Host.Deeds
import HostedFs.Proofs.Host.Ending
import HostedFs.Proofs.Host.Gate
import HostedFs.Proofs.Host.Handshake
import HostedFs.Proofs.Host.Locks
import HostedFs.Proofs.Host.Minding
import HostedFs.Proofs.Host.Mounting
import HostedFs.Proofs.Host.Mountpoint
import HostedFs.Proofs.Host.Numbering
import HostedFs.Proofs.Host.Obstacles
import HostedFs.Proofs.Host.Outline
import HostedFs.Proofs.Host.Ownership
import HostedFs.Proofs.Host.Pausing
import HostedFs.Proofs.Host.Quiet
import HostedFs.Proofs.Host.Returning
import HostedFs.Proofs.Host.Runs
import HostedFs.Proofs.Host.Scheduling
import HostedFs.Proofs.Host.Simulation
import HostedFs.Proofs.Host.Stages
import HostedFs.Proofs.Host.Threads
import HostedFs.Proofs.Host.Unmounting
import HostedFs.Proofs.Host.Waiting
import HostedFs.Proofs.Json.Lexical
import HostedFs.Proofs.Json.Values
import HostedFs.Proofs.Native.Loading
import HostedFs.Proofs.Native.Negotiation
import HostedFs.Proofs.Options.Candidates
import HostedFs.Proofs.Options.Decoding
import HostedFs.Proofs.Options.Filling
import HostedFs.Proofs.Options.Groups
import HostedFs.Proofs.Options.Numbers
import HostedFs.Proofs.Options.Numerals
import HostedFs.Proofs.Options.Pieces
import HostedFs.Proofs.Options.Positionals
import HostedFs.Proofs.Options.Reference
import HostedFs.Proofs.Options.Refusals
import HostedFs.Proofs.Options.Remainder
import HostedFs.Proofs.Options.Rereading
import HostedFs.Proofs.Options.Rules
import HostedFs.Proofs.Options.Separator
import HostedFs.Proofs.Probe.Reading
import HostedFs.Proofs.Registry.Blocks
import HostedFs.Proofs.Registry.History
import HostedFs.Proofs.Registry.Refinement
import HostedFs.Proofs.Registry.Runs
import HostedFs.Proofs.Request.Answers
import HostedFs.Proofs.Request.Arguments
import HostedFs.Proofs.Request.Attributes
import HostedFs.Proofs.Request.Calling
import HostedFs.Proofs.Request.Contract
import HostedFs.Proofs.Request.Creation
import HostedFs.Proofs.Request.Filling
import HostedFs.Proofs.Request.Handles
import HostedFs.Proofs.Request.NameLists
import HostedFs.Proofs.Request.Outcomes
import HostedFs.Proofs.Request.Outputs
import HostedFs.Proofs.Request.Packing
import HostedFs.Proofs.Request.Recording
import HostedFs.Proofs.Request.Serving
import HostedFs.Proofs.Request.Texts
import HostedFs.Proofs.Request.Times
import HostedFs.Proofs.Settings.Documents
import HostedFs.Proofs.Signal.Bridge
import HostedFs.Proofs.Signal.Consistency
import HostedFs.Proofs.Signal.Delivery
import HostedFs.Proofs.Signal.Sharing
import HostedFs.Proofs.Signal.Turns
import HostedFs.Proofs.Stat.Posix
import HostedFs.Proofs.Stat.WinFsp
import HostedFs.Proofs.Time.Clock
import HostedFs.Proofs.Time.Normal
import HostedFs.Proofs.Time.Order
import HostedFs.Proofs.Time.Written
import HostedFs.Proofs.Toml.Documents
import HostedFs.Proofs.Toml.Strings
import HostedFs.Proofs.Toml.Values
import HostedFs.Proofs.Word.Nearest
import HostedFs.Registry.Basic
import HostedFs.Registry.Steps
import HostedFs.Request.Basic
import HostedFs.Request.Job
import HostedFs.Request.Serve
import HostedFs.Settings.Document
import HostedFs.Settings.Host
import HostedFs.Settings.Load
import HostedFs.Settings.Log
import HostedFs.Signal.Bridge
import HostedFs.Signal.Group
import HostedFs.Stat.Basic
import HostedFs.Stat.Layout
import HostedFs.Text.Blank
import HostedFs.Text.Hex
import HostedFs.Text.Letter
import HostedFs.Text.Printable
import HostedFs.Text.Quoted
import HostedFs.Text.Utf8
import HostedFs.Time.Instant
import HostedFs.Time.Native
import HostedFs.Time.Timespec
import HostedFs.Word
