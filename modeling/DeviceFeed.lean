import DeviceFeed.Main
import DeviceFeed.Event.Reader
import DeviceFeed.Tracking.Reader
import DeviceFeed.Proofs.Session.Delivery
import DeviceFeed.Proofs.Session.Rejection
import DeviceFeed.Proofs.Session.Conservation
import DeviceFeed.Proofs.Session.Isolation
import DeviceFeed.Proofs.Session.Exchange
import DeviceFeed.Proofs.Session.Withholding
import DeviceFeed.Proofs.Session.Correlation
import DeviceFeed.Proofs.Stream
import DeviceFeed.Proofs.Session.Sinks
import DeviceFeed.Proofs.Session.Independence
import DeviceFeed.Proofs.Session.Records
import DeviceFeed.Proofs.Text.Digits
import DeviceFeed.Proofs.Script.Frames
import DeviceFeed.Proofs.Script.Rendering
import DeviceFeed.Proofs.Script.Composition
import DeviceFeed.Proofs.Json.Values
import DeviceFeed.Proofs.Json.Structures
import DeviceFeed.Proofs.Event
import DeviceFeed.Proofs.Replay.Printing
import DeviceFeed.Proofs.Replay.Accounting
import DeviceFeed.Proofs.CommandLine
import DeviceFeed.Proofs.Replay.Directives
import DeviceFeed.Proofs.Tracking.Sharing
import DeviceFeed.Proofs.Message
import DeviceFeed.Proofs.Session.Log
import DeviceFeed.Proofs.Field
import DeviceFeed.Proofs.Field.Range
import DeviceFeed.Proofs.Field.Body
import DeviceFeed.Proofs.Config
import DeviceFeed.Proofs.Script.Hexadecimal
import DeviceFeed.Proofs.Readings
import DeviceFeed.Proofs.Setup
import DeviceFeed.Proofs.Devices
import DeviceFeed.Proofs.Padding
import DeviceFeed.Proofs.Field.Damage
import DeviceFeed.Proofs.Script.Numbering
