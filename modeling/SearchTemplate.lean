import SearchTemplate.Config.Printer
import SearchTemplate.Json.Reader
import SearchTemplate.Main
import SearchTemplate.Percent.Reading
import SearchTemplate.Proofs.CommandLine.Reply
import SearchTemplate.Proofs.Config.Locations
import SearchTemplate.Proofs.Engine.Endings
import SearchTemplate.Proofs.Engine.Independence
import SearchTemplate.Proofs.Engine.Log
import SearchTemplate.Proofs.Engine.LogLine
import SearchTemplate.Proofs.Engine.UrlList
import SearchTemplate.Proofs.Engine.WireFormat
import SearchTemplate.Proofs.Entry.NamedQueries
import SearchTemplate.Proofs.Entry.Selection
import SearchTemplate.Proofs.Percent.Decode
import SearchTemplate.Proofs.Percent.Reading
import SearchTemplate.Proofs.Placeholder.Options
import SearchTemplate.Proofs.Placeholder.RoundTrip
import SearchTemplate.Proofs.Query.EscapeMark
import SearchTemplate.Proofs.Query.OnePass
import SearchTemplate.Proofs.Query.Order
import SearchTemplate.Proofs.Query.Render
import SearchTemplate.Proofs.Query.Reverse
import SearchTemplate.Proofs.Query.Split
