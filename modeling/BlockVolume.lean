import BlockVolume.Text.Quoted
import BlockVolume.Text.Blank
import BlockVolume.Text.Charset
import BlockVolume.Text.Percent
import BlockVolume.Text.Base64
import BlockVolume.Text.Decimal
import BlockVolume.Text.Octal
import BlockVolume.Host.FileTree
import BlockVolume.Digest.Hmac
import BlockVolume.Json.Record
import BlockVolume.Host.Target
import BlockVolume.Mount.TableText
import BlockVolume.Mount.BindOptions
import BlockVolume.Mount.System
import BlockVolume.Mount.Ledger
import BlockVolume.Mount.Queue
import BlockVolume.Cloud.Client
import BlockVolume.Operation.Policy
import BlockVolume.Operation.Outcome
import BlockVolume.Operation.Execute
import BlockVolume.Node.Service
import BlockVolume.Http.Target
import BlockVolume.Cloud.SignedQuery
import BlockVolume.Cloud.Endpoints
import BlockVolume.Cloud.Reply
import BlockVolume.Config
import BlockVolume.Node.World
import BlockVolume.Node.Schedule
import BlockVolume.Rehearsal.Script
import BlockVolume.Rehearsal.Bench
import BlockVolume.Rehearsal.Server
import BlockVolume.Proofs.History
import BlockVolume.Proofs.Lock.Exclusion
import BlockVolume.Proofs.Mount.Table
import BlockVolume.Proofs.Node.Frame
import BlockVolume.Proofs.Operation.Parts
import BlockVolume.Proofs.Operation.AttachOrder
import BlockVolume.Proofs.Operation.DetachClear
import BlockVolume.Node.Traffic
import BlockVolume.Proofs.Lock.Turns
import BlockVolume.Proofs.Node.Traffic
import BlockVolume.Proofs.Operation.Alphabet
import BlockVolume.Proofs.Volume.Request
import BlockVolume.Proofs.Node.Discipline
import BlockVolume.Proofs.Node.Serialization
import BlockVolume.Proofs.Mount.Formatting
import BlockVolume.Proofs.Node.Formatting
import BlockVolume.Proofs.Node.Publishing
import BlockVolume.Proofs.Node.ReadOnlyPublish
import BlockVolume.Proofs.Node.ConcurrentPublish
import BlockVolume.Proofs.Node.Schedule
import BlockVolume.Proofs.Text.Cutting
import BlockVolume.Proofs.Volume.RoundTrip
import BlockVolume.Proofs.Text.Octal
import BlockVolume.Proofs.Mount.TableText
import BlockVolume.Proofs.Lock.Entries
import BlockVolume.Proofs.Lock.Waiters
import BlockVolume.Proofs.Lock.HandOver
import BlockVolume.Proofs.Lock.Independence
import BlockVolume.Proofs.Budget
import BlockVolume.Proofs.Operation.CallBounds
import BlockVolume.Proofs.Host.Canonical
import BlockVolume.Proofs.Host.Creation
import BlockVolume.Proofs.Operation.AttachAgain
import BlockVolume.Proofs.Operation.DetachAgain
import BlockVolume.Proofs.Operation.AttachBooks
import BlockVolume.Proofs.Node.Restoring
import BlockVolume.Proofs.Cloud.Clients
import BlockVolume.Proofs.Text.Percent
import BlockVolume.Proofs.Cloud.SignedUrl
import BlockVolume.Proofs.Cloud.SigningInput
import BlockVolume.Node.Dispatch
import BlockVolume.Proofs.Node.Dispatch
import BlockVolume.Proofs.Node.JobOrder
import BlockVolume.Proofs.InStep
import BlockVolume.Proofs.Cloud.Masking
import BlockVolume.Proofs.Operation.Secrets
import BlockVolume.Proofs.Node.Secrets
import BlockVolume.Proofs.Operation.DetachFound
import BlockVolume.Proofs.Operation.DetachBooks
import BlockVolume.Proofs.Operation.BetweenCalls
import BlockVolume.Proofs.Operation.Polling
import BlockVolume.Proofs.Operation.LastFailures
import BlockVolume.Proofs.Operation.Exhausted
import BlockVolume.Proofs.Volume.Grammar
import BlockVolume.Proofs.Node.Refusal
import BlockVolume.Proofs.Cloud.Resolution
import BlockVolume.Proofs.Operation.Backoff
import BlockVolume.Proofs.Text.Layout
import BlockVolume.Proofs.Mount.TableGrammar
import BlockVolume.Proofs.Mount.ConsistentRead
import BlockVolume.Proofs.Json.Grammar
import BlockVolume.Proofs.Json.Reading
import BlockVolume.Proofs.Cloud.Answers
import BlockVolume.Proofs.Json.Strings
import BlockVolume.Proofs.Cloud.DiskLookup
import BlockVolume.Proofs.Mount.BindOptions
import BlockVolume.Proofs.Mount.Commands
import BlockVolume.Proofs.Mount.ProbeOutput
import BlockVolume.Proofs.Mount.BlankDevice
import BlockVolume.Proofs.Node.PublishAgain
import BlockVolume.Proofs.Mount.Queue
import BlockVolume.Proofs.Text.Unescaping
import BlockVolume.Proofs.Mount.Lookups
import BlockVolume.Proofs.Json.Fields
import BlockVolume.Proofs.Config
import BlockVolume.Proofs.Host.Walks
import BlockVolume.Proofs.Host.Targets
