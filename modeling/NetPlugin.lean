import NetPlugin.Main
import NetPlugin.Netns.PlainHost
import NetPlugin.Proofs.ErrorOrigin
import NetPlugin.Proofs.GatedNegotiation
import NetPlugin.Proofs.InputUse
import NetPlugin.Proofs.Json.Grammar
import NetPlugin.Proofs.Json.Strings
import NetPlugin.Proofs.Json.Integers
import NetPlugin.Proofs.Json.Reading
import NetPlugin.Proofs.Json.Records
import NetPlugin.Proofs.Json.Writing
import NetPlugin.Proofs.Stream.Sink
import NetPlugin.Proofs.ErrorForm
import NetPlugin.Proofs.ReportForm
import NetPlugin.Proofs.Output
import NetPlugin.Proofs.Execution
import NetPlugin.Proofs.Json.Members
import NetPlugin.Proofs.Reached
import NetPlugin.Proofs.Noop
import NetPlugin.Proofs.Resolution
import NetPlugin.Proofs.NamespaceCheck
import NetPlugin.Proofs.OutputUse
import NetPlugin.Proofs.ConfigReading
import NetPlugin.Proofs.MonotoneNegotiation
import NetPlugin.Proofs.NegotiationLog
import NetPlugin.Proofs.EventLog
import NetPlugin.Proofs.Stream.Attempts
import NetPlugin.Proofs.FaultyOutput
import NetPlugin.Proofs.Version.Grammar
import NetPlugin.Proofs.Version.Comparison
import NetPlugin.Proofs.Introduction
import NetPlugin.Proofs.Classification
import NetPlugin.Proofs.ArgPairs
import NetPlugin.Proofs.IdentifierLanguages
import NetPlugin.Proofs.Text.Quoted
import NetPlugin.Proofs.RefusalDetails
import NetPlugin.Proofs.Text.Lossy
import NetPlugin.Proofs.RawEnvironment
import NetPlugin.Proofs.Netns.Lookup
import NetPlugin.Proofs.LogFilter
