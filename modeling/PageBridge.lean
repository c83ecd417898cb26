import PageBridge.Json.Parse
import PageBridge.Json.Render
import PageBridge.Json.Skip
import PageBridge.Text.Blank
import PageBridge.Text.Literal
import PageBridge.Unicode.Bidi
import PageBridge.Unicode.Canonical
import PageBridge.Unicode.DomainMapping
import PageBridge.Unicode.GraphemeExtend
import PageBridge.Unicode.Joining
import PageBridge.Unicode.LowerCase
import PageBridge.Unicode.Mark
import PageBridge.Unicode.Printable
import PageBridge.Unicode.Compose
import PageBridge.Url.Origin
import PageBridge.Origin.AllowList
import PageBridge.Origin.Security
import PageBridge.Script.Descriptor
import PageBridge.Script.Store
import PageBridge.Script.Template
import PageBridge.Text.Quoted
import PageBridge.Engine.Call
import PageBridge.Message.Admission
import PageBridge.Bridge.Basic
import PageBridge.Engine.EventQueue
import PageBridge.Host.Action
import PageBridge.InvokeKey
import PageBridge.Json.Fixed
import PageBridge.View
import PageBridge.Proofs.Installation.Standing
import PageBridge.Proofs.Installation.Lockstep
import PageBridge.Proofs.Bridge.Acceptance
import PageBridge.Proofs.View.Run
import PageBridge.Proofs.View.Provenance
import PageBridge.Proofs.Script.Template
import PageBridge.Proofs.Installation.KeySecrecy
import PageBridge.Proofs.Bridge.KeySecrecy
import PageBridge.Proofs.Installation.Supersession
import PageBridge.Proofs.Installation.Prepared
import PageBridge.Proofs.Installation.Order
import PageBridge.Proofs.Host.QueuedInstall
import PageBridge.Proofs.Text.Literal
import PageBridge.Proofs.Installation.Marks
import PageBridge.Proofs.Json.Quoted
import PageBridge.Proofs.Bridge.PageMessages
import PageBridge.Proofs.Json.Numeral
import PageBridge.Proofs.Json.RoundTrip
import PageBridge.Proofs.Bridge.ChannelMessages
import PageBridge.Proofs.Installation.Calls
import PageBridge.Proofs.Installation.Placement
import PageBridge.Proofs.View.Ledger
import PageBridge.Proofs.View.Results
import PageBridge.Proofs.Engine.Queue
import PageBridge.Proofs.Bridge.Reports
import PageBridge.Proofs.Host.Callbacks
import PageBridge.Proofs.Host.Numbers
import PageBridge.Proofs.Host.Settings
import PageBridge.Proofs.Message.FrameOrigin
import PageBridge.Proofs.Origin.Opaque
import PageBridge.Proofs.Origin.Spelling
import PageBridge.Proofs.Origin.Report
import PageBridge.Proofs.Installation.Refusal
import PageBridge.Proofs.Installation.Contents
import PageBridge.Proofs.Installation.Replacement
import PageBridge.Proofs.Script.Resource
import PageBridge.Proofs.Message.Values
import PageBridge.Proofs.Host.Buffers
import PageBridge.Proofs.Unicode.LowerCase
import PageBridge.Proofs.Host.Addresses
import PageBridge.Proofs.Host.Views
import PageBridge.Proofs.Script.Bundled
