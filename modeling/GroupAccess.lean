import GroupAccess.Core.Concurrent
import GroupAccess.Http.Server
import GroupAccess.Json.Access
import GroupAccess.Main
import GroupAccess.Proofs.Codec.Base64
import GroupAccess.Proofs.Codec.Except
import GroupAccess.Proofs.Codec.Text
import GroupAccess.Proofs.Codec.Uuid
import GroupAccess.Proofs.Config.Production
import GroupAccess.Proofs.Float.Order
import GroupAccess.Proofs.Float.Product
import GroupAccess.Proofs.Float.Rounding
import GroupAccess.Proofs.Hash.Blake2b
import GroupAccess.Proofs.Http.Atomicity
import GroupAccess.Proofs.Http.Confidentiality
import GroupAccess.Proofs.Http.Gate
import GroupAccess.Proofs.Interleaving.Accounts
import GroupAccess.Proofs.Interleaving.Admission
import GroupAccess.Proofs.Interleaving.Advance
import GroupAccess.Proofs.Interleaving.Cascade
import GroupAccess.Proofs.Interleaving.Conservation
import GroupAccess.Proofs.Interleaving.Contest
import GroupAccess.Proofs.Interleaving.Counting
import GroupAccess.Proofs.Interleaving.Entry
import GroupAccess.Proofs.Interleaving.Foundation
import GroupAccess.Proofs.Interleaving.Grounding
import GroupAccess.Proofs.Interleaving.Interning
import GroupAccess.Proofs.Interleaving.Invitation
import GroupAccess.Proofs.Interleaving.Lapse
import GroupAccess.Proofs.Interleaving.Move
import GroupAccess.Proofs.Interleaving.Placing
import GroupAccess.Proofs.Interleaving.Race
import GroupAccess.Proofs.Interleaving.Reliance
import GroupAccess.Proofs.Interleaving.RoleStability
import GroupAccess.Proofs.Interleaving.Rounds
import GroupAccess.Proofs.Interleaving.Task
import GroupAccess.Proofs.Interleaving.Usability
import GroupAccess.Proofs.Interleaving.Validity
import GroupAccess.Proofs.Interleaving.World
import GroupAccess.Proofs.Json.Number
import GroupAccess.Proofs.Json.Record
import GroupAccess.Proofs.Json.Spelling
import GroupAccess.Proofs.Json.String
import GroupAccess.Proofs.Json.Value
import GroupAccess.Proofs.Operation.Alarm
import GroupAccess.Proofs.Operation.Confidentiality
import GroupAccess.Proofs.Operation.Credentials
import GroupAccess.Proofs.Operation.Effect
import GroupAccess.Proofs.Operation.Footprint
import GroupAccess.Proofs.Operation.Grounding
import GroupAccess.Proofs.Operation.Indifference
import GroupAccess.Proofs.Operation.Inviting
import GroupAccess.Proofs.Operation.Outcome
import GroupAccess.Proofs.Operation.Repetition
import GroupAccess.Proofs.Operation.Report
import GroupAccess.Proofs.Operation.WriteOrder
import GroupAccess.Proofs.Password.Format
import GroupAccess.Proofs.Password.Runs
import GroupAccess.Proofs.Password.Stored
import GroupAccess.Proofs.Password.Strength
import GroupAccess.Proofs.Password.Verification
import GroupAccess.Proofs.Program.Calls
import GroupAccess.Proofs.Program.Events
import GroupAccess.Proofs.Program.Redemption
import GroupAccess.Proofs.Program.Reliance
import GroupAccess.Proofs.Program.Results
import GroupAccess.Proofs.Role.Inclusion
import GroupAccess.Proofs.Service.Alike
import GroupAccess.Proofs.Service.Alone
import GroupAccess.Proofs.Service.Dropping
import GroupAccess.Proofs.Service.Idle
import GroupAccess.Proofs.Service.Lapse
import GroupAccess.Proofs.Service.Looking
import GroupAccess.Proofs.Session.Basic
import GroupAccess.Proofs.Session.Consistency
import GroupAccess.Proofs.Session.Delegation
import GroupAccess.Proofs.Session.Deletion
import GroupAccess.Proofs.Session.Interning
import GroupAccess.Proofs.Session.Purge
import GroupAccess.Proofs.Store.Answered
import GroupAccess.Proofs.Store.Balance
import GroupAccess.Proofs.Store.Cascade
import GroupAccess.Proofs.Store.Frame
import GroupAccess.Proofs.Store.Holding
import GroupAccess.Proofs.Store.Interning
import GroupAccess.Proofs.Store.Lapse
import GroupAccess.Proofs.Store.Rollback
import GroupAccess.Proofs.Store.Unique
import GroupAccess.Proofs.Store.Veil
import GroupAccess.Proofs.Text.Lowercase
import GroupAccess.Proofs.Text.Split
import GroupAccess.Proofs.Text.Trim
import GroupAccess.Proofs.Token.Audience
import GroupAccess.Proofs.Token.Bearer
import GroupAccess.Proofs.Token.Binding
import GroupAccess.Proofs.Token.Claims
import GroupAccess.Proofs.Token.Expiry
import GroupAccess.Proofs.Token.Issue
import GroupAccess.Proofs.Token.Lifetime
import GroupAccess.Proofs.Token.Presented
import GroupAccess.Proofs.Token.RoundTrip
import GroupAccess.Proofs.Token.Session
import GroupAccess.Proofs.Token.Text
