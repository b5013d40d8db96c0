import SessionGate.Index.Indexer
import SessionGate.Json.Reader
import SessionGate.Main
import SessionGate.Node.Manager
import SessionGate.Program
import SessionGate.Proofs.Capability.Announcement
import SessionGate.Proofs.Host.Log
import SessionGate.Proofs.Host.Move
import SessionGate.Proofs.Host.Coherence
import SessionGate.Proofs.Host.Order
import SessionGate.Proofs.Host.Record
import SessionGate.Proofs.Host.Refused
import SessionGate.Proofs.Host.Lockout
import SessionGate.Proofs.Host.ExitCode
import SessionGate.Proofs.Session.History
import SessionGate.Proofs.Session.Stages
import SessionGate.Proofs.Session.Record
import SessionGate.Proofs.Session.Work
import SessionGate.Proofs.Capability.Entries
import SessionGate.Proofs.Capability.Plain
import SessionGate.Proofs.CommandLine.Flag
import SessionGate.Proofs.Host.Announced
import SessionGate.Proofs.Path.Names
import SessionGate.Proofs.Index.Listing
import SessionGate.Proofs.Index.Exclusions
import SessionGate.Proofs.Index.Once
import SessionGate.Proofs.Text.Utf8
import SessionGate.Proofs.Uri.Percent
import SessionGate.Proofs.Uri.FileUri
import SessionGate.Proofs.Session.Root
import SessionGate.Proofs.Session.Spelling
import SessionGate.Proofs.Schema.Acceptance
import SessionGate.Proofs.Session.Grammar
import SessionGate.Proofs.Session.Faults
import SessionGate.Proofs.Host.Neutral
import SessionGate.Proofs.Host.Widening
import SessionGate.Proofs.Watch.Coverage
import SessionGate.Proofs.Session.Ending
import SessionGate.Proofs.Host.RawFields
import SessionGate.Proofs.Node.Name
import SessionGate.Proofs.Node.Running
import SessionGate.Proofs.Session.Registration
import SessionGate.Proofs.CommandLine.RoundTrip
import SessionGate.Proofs.Session.LocalPath
import SessionGate.Proofs.Server.Service
