import RoadsideSnmp.Ber.Cursor
import RoadsideSnmp.Ber.Fault
import RoadsideSnmp.Ber.Length
import RoadsideSnmp.Ber.Number
import RoadsideSnmp.Ber.Tag
import RoadsideSnmp.Ber.Writer
import RoadsideSnmp.Binding
import RoadsideSnmp.Binding.Text
import RoadsideSnmp.Binding.Value
import RoadsideSnmp.Console.Arguments
import RoadsideSnmp.Console.Host
import RoadsideSnmp.Console.Json
import RoadsideSnmp.Console.Names
import RoadsideSnmp.Console.OptionValue
import RoadsideSnmp.Console.Report
import RoadsideSnmp.Console.Trace
import RoadsideSnmp.Decimal.Binary64
import RoadsideSnmp.Decimal.Literal
import RoadsideSnmp.Decimal.Shortest
import RoadsideSnmp.Dissection
import RoadsideSnmp.ErrorStatus
import RoadsideSnmp.Failure
import RoadsideSnmp.Item
import RoadsideSnmp.Main
import RoadsideSnmp.Message
import RoadsideSnmp.Octets
import RoadsideSnmp.Oid
import RoadsideSnmp.Oid.Content
import RoadsideSnmp.Pmpp.Checksum
import RoadsideSnmp.Pmpp.Frame
import RoadsideSnmp.Pmpp.Link
import RoadsideSnmp.Pmpp.Splitter
import RoadsideSnmp.Pmpp.Station
import RoadsideSnmp.Pmpp.Stuffing
import RoadsideSnmp.Proofs.Ber.Backwards
import RoadsideSnmp.Proofs.Ber.Bounds
import RoadsideSnmp.Proofs.Ber.Extent
import RoadsideSnmp.Proofs.Ber.Length
import RoadsideSnmp.Proofs.Ber.Length.Shortest
import RoadsideSnmp.Proofs.Ber.Number
import RoadsideSnmp.Proofs.Ber.Reads
import RoadsideSnmp.Proofs.Ber.Shortest
import RoadsideSnmp.Proofs.Ber.Skipping
import RoadsideSnmp.Proofs.Ber.Tlv
import RoadsideSnmp.Proofs.Ber.Yields
import RoadsideSnmp.Proofs.Binding
import RoadsideSnmp.Proofs.Binding.Counter
import RoadsideSnmp.Proofs.Binding.Layout
import RoadsideSnmp.Proofs.Binding.Listing
import RoadsideSnmp.Proofs.Binding.Making
import RoadsideSnmp.Proofs.Binding.Number
import RoadsideSnmp.Proofs.Console.Arguments
import RoadsideSnmp.Proofs.Console.OptionValue
import RoadsideSnmp.Proofs.Dissection
import RoadsideSnmp.Proofs.Item
import RoadsideSnmp.Proofs.Message.Extent
import RoadsideSnmp.Proofs.Message.Normal
import RoadsideSnmp.Proofs.Message.RoundTrip
import RoadsideSnmp.Proofs.Octets
import RoadsideSnmp.Proofs.Octets.TwosComplement
import RoadsideSnmp.Proofs.Oid.Content
import RoadsideSnmp.Proofs.Oid.Order
import RoadsideSnmp.Proofs.Oid.Padding
import RoadsideSnmp.Proofs.Oid.Text
import RoadsideSnmp.Proofs.Outcome
import RoadsideSnmp.Proofs.Pmpp.Closing
import RoadsideSnmp.Proofs.Pmpp.Damage
import RoadsideSnmp.Proofs.Pmpp.Delivery
import RoadsideSnmp.Proofs.Pmpp.Division
import RoadsideSnmp.Proofs.Pmpp.Framing
import RoadsideSnmp.Proofs.Pmpp.Noise
import RoadsideSnmp.Proofs.Pmpp.Reception
import RoadsideSnmp.Proofs.Pmpp.Reframing
import RoadsideSnmp.Proofs.Pmpp.Register
import RoadsideSnmp.Proofs.Pmpp.Resynchronisation
import RoadsideSnmp.Proofs.Pmpp.Series
import RoadsideSnmp.Proofs.Pmpp.Spans
import RoadsideSnmp.Proofs.Pmpp.Stuffing
import RoadsideSnmp.Proofs.Pmpp.Wrapping
import RoadsideSnmp.Proofs.Session.Accounts
import RoadsideSnmp.Proofs.Session.Attempts
import RoadsideSnmp.Proofs.Session.Balance
import RoadsideSnmp.Proofs.Session.Course
import RoadsideSnmp.Proofs.Session.Framed
import RoadsideSnmp.Proofs.Session.Interplay
import RoadsideSnmp.Proofs.Session.Moves
import RoadsideSnmp.Proofs.Session.Numbering
import RoadsideSnmp.Proofs.Session.Operations
import RoadsideSnmp.Proofs.Session.Order
import RoadsideSnmp.Proofs.Session.Overlap
import RoadsideSnmp.Proofs.Session.Overtaking
import RoadsideSnmp.Proofs.Session.Parcels
import RoadsideSnmp.Proofs.Session.Prompt
import RoadsideSnmp.Proofs.Session.Record
import RoadsideSnmp.Proofs.Session.Registered
import RoadsideSnmp.Proofs.Session.Replies
import RoadsideSnmp.Proofs.Session.Retrying
import RoadsideSnmp.Proofs.Session.Routing
import RoadsideSnmp.Proofs.Session.Simulation
import RoadsideSnmp.Proofs.Session.Table
import RoadsideSnmp.Proofs.Session.Takings
import RoadsideSnmp.Proofs.Session.Traffic
import RoadsideSnmp.Proofs.Session.Transparent
import RoadsideSnmp.Proofs.Session.Undisturbed
import RoadsideSnmp.Proofs.Session.Walk
import RoadsideSnmp.Proofs.Text.Utf8
import RoadsideSnmp.ProtocolVersion
import RoadsideSnmp.Session
import RoadsideSnmp.Session.Dialogue
import RoadsideSnmp.Session.Exchange
import RoadsideSnmp.Session.Exchange.Poll
import RoadsideSnmp.Session.Line
import RoadsideSnmp.Session.Query
import RoadsideSnmp.Session.Timer
import RoadsideSnmp.Session.Together
import RoadsideSnmp.Session.Walk
import RoadsideSnmp.Text.Quoted
import RoadsideSnmp.Text.Timestamp
import RoadsideSnmp.Text.Unprintable
import RoadsideSnmp.Text.Utf8
