import Parley.Bus
import Parley.Bus.Rehearsal
import Parley.Catalogue
import Parley.CommandLine.Arguments
import Parley.CommandLine.Command
import Parley.CommandLine.Run
import Parley.CommandLine.Usage
import Parley.Conversation.Engine
import Parley.Conversation.Session
import Parley.Conversation.View
import Parley.Decimal.Shortest
import Parley.Dialogue.Copy
import Parley.Dialogue.Document
import Parley.Dialogue.Encode
import Parley.Dialogue.Equality
import Parley.Dialogue.Finding
import Parley.Dialogue.Location
import Parley.Dialogue.Reading
import Parley.Dialogue.Resolution
import Parley.Dialogue.Statistics
import Parley.Double
import Parley.Fault
import Parley.Files.Path
import Parley.Files.Tree
import Parley.Inventory.Grant
import Parley.Inventory.Service
import Parley.Inventory.Snapshot
import Parley.Json.Display
import Parley.Json.Reader
import Parley.Json.Value
import Parley.Main
import Parley.Number
import Parley.Power
import Parley.Repository
import Parley.Settings
import Parley.Terminal.Box
import Parley.Terminal.Player
import Parley.Terminal.Stream
import Parley.Terminal.Style
import Parley.Terminal.Wrap
import Parley.Text.Blank
import Parley.Text.Bytes
import Parley.Text.Composition
import Parley.Text.Digit
import Parley.Text.Direction
import Parley.Text.Encoding
import Parley.Text.Folding
import Parley.Text.Integer
import Parley.Text.Order
import Parley.Text.Printable
import Parley.Text.Punycode
import Parley.Text.Quoted
import Parley.Text.Ranges
import Parley.Text.Replace
import Parley.Text.Split
import Parley.Text.Surrogate
import Parley.Text.Table
import Parley.Text.Utf8
import Parley.Text.Word
import Parley.Text.Writable
import Parley.Validation.Flaw
import Parley.Validation.Issue
import Parley.Validation.Report
import Parley.Web.Address
import Parley.Web.Authority
import Parley.Web.Content
import Parley.Web.Framework
import Parley.Web.Handlers
import Parley.Web.Host
import Parley.Web.Numeric
import Parley.Web.Percent
import Parley.Web.Problem
import Parley.Web.Route
import Parley.Web.Server
import Parley.Web.Target
import Parley.Proofs.Dialogue.Section
import Parley.Proofs.Dialogue.ReadBack
import Parley.Proofs.Conversation.Steps
import Parley.Proofs.Dialogue.Resolution
import Parley.Proofs.Dialogue.Weight
import Parley.Proofs.Conversation.Recital
import Parley.Proofs.Conversation.Playback
import Parley.Proofs.Conversation.Settled
import Parley.Proofs.Conversation.Shape
import Parley.Proofs.Conversation.Protocol
import Parley.Proofs.Conversation.Bookkeeping
import Parley.Proofs.Conversation.Coherence
import Parley.Proofs.Conversation.Rewards
import Parley.Proofs.Validation.Selectable
import Parley.Proofs.Validation.WellFormed
import Parley.Proofs.Validation.SoundReading
import Parley.Proofs.Validation.Verdict
import Parley.Proofs.Dialogue.Location
import Parley.Proofs.Conversation.Suspension
import Parley.Proofs.Conversation.Segments
import Parley.Proofs.Conversation.Interleaving
import Parley.Proofs.Validation.Defects
import Parley.Proofs.Validation.Diagnosis
import Parley.Proofs.Validation.Findings
import Parley.Proofs.Validation.Completeness
import Parley.Proofs.Conversation.Ending
import Parley.Proofs.Dialogue.LinesWithin
import Parley.Proofs.Inventory.Rearrangement
import Parley.Proofs.Inventory.Batch
import Parley.Proofs.Text.Ascii
import Parley.Proofs.Conversation.Repertoire
import Parley.Proofs.Conversation.Indifference
import Parley.Proofs.Conversation.Keys
import Parley.Proofs.Inventory.Granting
import Parley.Proofs.Conversation.Faultless
import Parley.Proofs.Validation.Whereabouts
import Parley.Proofs.Double
import Parley.Proofs.Validation.Breakdown
import Parley.Proofs.Bus.Rehearsal
import Parley.Proofs.Conversation.Overwriting
import Parley.Proofs.Bus.Subscriptions
import Parley.Proofs.Conversation.Preview
import Parley.Proofs.Repository
import Parley.Proofs.Terminal.Playing
import Parley.Proofs.Files.Directory
import Parley.Proofs.Repository.Ids
import Parley.Proofs.Web.Percent
import Parley.Proofs.Web.Target
import Parley.Proofs.Web.Requests
import Parley.Proofs.Web.Listing
import Parley.Proofs.Web.Posting
import Parley.Proofs.Dialogue.Fetching
import Parley.Proofs.Dialogue.FirstMatch
import Parley.Proofs.Inventory.Transcript
import Parley.Proofs.Conversation.Selecting
import Parley.Proofs.Text.OneLine
import Parley.Proofs.Validation.Filing
import Parley.Proofs.Validation.Litter
import Parley.Proofs.Inventory.Wire
import Parley.Proofs.Validation.Pieces
import Parley.Proofs.Validation.Reports
import Parley.Proofs.Inventory.Payload
import Parley.Proofs.Text.Order
import Parley.Proofs.Dialogue.Replica
import Parley.Proofs.Dialogue.Census
import Parley.Proofs.Conversation.Mentions
import Parley.Proofs.Text.Replacing
import Parley.Proofs.Catalogue
import Parley.Proofs.Catalogue.Sources
import Parley.Proofs.Text.Split
import Parley.Proofs.Text.Carries
import Parley.Proofs.Terminal.Wrap
import Parley.Proofs.Terminal.Box
