import TopicReader.Arguments
import TopicReader.Arguments.Flag
import TopicReader.Arguments.Word
import TopicReader.Calendar
import TopicReader.Category
import TopicReader.Certificates
import TopicReader.Client
import TopicReader.Client.Script
import TopicReader.ClientSettings
import TopicReader.Command
import TopicReader.Connection.Basic
import TopicReader.Connection.Servers
import TopicReader.Delimiter
import TopicReader.EndTracker
import TopicReader.Environment
import TopicReader.Environment.Dotfile
import TopicReader.Failure.Basic
import TopicReader.Failure.Known
import TopicReader.Failure.Misconfiguration
import TopicReader.Failure.Problem
import TopicReader.Journal.Basic
import TopicReader.Journal.Context
import TopicReader.Journal.Line
import TopicReader.Journal.Report
import TopicReader.Journal.Setup
import TopicReader.Json
import TopicReader.Json.Reader
import TopicReader.Limit
import TopicReader.Main
import TopicReader.Metadata.Basic
import TopicReader.Metadata.ErrorCode
import TopicReader.Number.Double
import TopicReader.Number.DoubleText
import TopicReader.Number.Shortest
import TopicReader.Number.Whole
import TopicReader.Offset
import TopicReader.Offset.Spec
import TopicReader.Output
import TopicReader.Path
import TopicReader.Proofs.EndTracker
import TopicReader.Proofs.Run.Batching
import TopicReader.Proofs.Run.Calls
import TopicReader.Proofs.Run.Emission
import TopicReader.Proofs.Run.Ends
import TopicReader.Proofs.Run.History
import TopicReader.Proofs.Run.Loop
import TopicReader.Proofs.Run.Moments
import TopicReader.Proofs.Run.Outcome
import TopicReader.Proofs.Run.Reading
import TopicReader.Proofs.Run.Release
import TopicReader.Proofs.Run.Whole
import TopicReader.Proofs.Settings.Loading
import TopicReader.Proofs.Transport.Assignment
import TopicReader.Proofs.Transport.Broker
import TopicReader.Proofs.Transport.Consumer
import TopicReader.Proofs.Transport.Delivery
import TopicReader.Proofs.Transport.Dequeuing
import TopicReader.Proofs.Transport.Marks
import TopicReader.Proofs.Transport.Placing
import TopicReader.Proofs.Transport.Polling
import TopicReader.Proofs.Transport.Session
import TopicReader.Property
import TopicReader.Record
import TopicReader.Run.Basic
import TopicReader.Run.Consume
import TopicReader.Run.Loop
import TopicReader.Run.Streams
import TopicReader.Settings
import TopicReader.Settings.File
import TopicReader.Signals
import TopicReader.Standing
import TopicReader.Startup
import TopicReader.Summary
import TopicReader.Text.Base64
import TopicReader.Text.Blank
import TopicReader.Text.Case
import TopicReader.Text.CaseTable
import TopicReader.Text.Digit
import TopicReader.Text.Feed
import TopicReader.Text.PrintableTable
import TopicReader.Text.Quoted
import TopicReader.Text.Utf8
import TopicReader.Transport.Basic
import TopicReader.Transport.Request
import TopicReader.Transport.Table
import TopicReader.Value.Basic
import TopicReader.Value.Convert
import TopicReader.Value.Text
import TopicReader.Yaml.Content
import TopicReader.Yaml.Cursor
import TopicReader.Yaml.Document
import TopicReader.Yaml.Graph
import TopicReader.Yaml.Graph.Draft
import TopicReader.Yaml.Heap
import TopicReader.Yaml.Scalar
import TopicReader.Yaml.Source
import TopicReader.Yaml.Stamp
import TopicReader.Yaml.Tag
import TopicReader.Yaml.Token
import TopicReader.Yaml.Token.Stream
import TopicReader.Proofs.Settings.Properties
import TopicReader.Proofs.Settings.Merging
import TopicReader.Proofs.Settings.Protocol
import TopicReader.Proofs.Settings.Escapes
import TopicReader.Proofs.Run.Failing
import TopicReader.Proofs.Transport.Refusals
import TopicReader.Proofs.Transport.Classification
import TopicReader.Proofs.Settings.Furnishing
import TopicReader.Proofs.Settings.Precedence
import TopicReader.Proofs.Settings.ClientSettings
import TopicReader.Proofs.Settings.Secrecy
import TopicReader.Proofs.CommandLine
import TopicReader.Proofs.Settings.Handover
import TopicReader.Proofs.Settings.Clients
import TopicReader.Proofs.Settings.Group
import TopicReader.Proofs.Layout
import TopicReader.Proofs.Run.Opening
import TopicReader.Proofs.Run.Scope
import TopicReader.Proofs.Numerals
import TopicReader.Proofs.Offset
import TopicReader.Proofs.Expansion
import TopicReader.Proofs.Paths
import TopicReader.Proofs.Settings.Certificates
import TopicReader.Proofs.Transport.Handles
import TopicReader.Proofs.Settings.Typed
import TopicReader.Proofs.Journal.Report
import TopicReader.Proofs.Settings.Absence
import TopicReader.Proofs.Decimals
import TopicReader.Proofs.Json
import TopicReader.Proofs.Documents
import TopicReader.Proofs.Journal.Line
import TopicReader.Proofs.Journal.Shown
import TopicReader.Proofs.Delimiter
import TopicReader.Proofs.Settings.Servers
import TopicReader.Proofs.Run.Answers
import TopicReader.Proofs.Settings.Spelling
import TopicReader.Proofs.Settings.Overriding
import TopicReader.Proofs.Journal.Bracketing
import TopicReader.Proofs.Run.Attribution
