import HostRoster.Main
import HostRoster.Store.World
import HostRoster.Wire.Principal
import HostRoster.Proofs.Dict
import HostRoster.Proofs.KeyedList
import HostRoster.Proofs.Store.Holders
import HostRoster.Proofs.Store.Writes
import HostRoster.Proofs.Store.Acceptance
import HostRoster.Proofs.Store.Commit
import HostRoster.Proofs.Store.Calls
import HostRoster.Proofs.Store.Interleaving
import HostRoster.Proofs.Run.Attempt
import HostRoster.Proofs.Store.Owned
import HostRoster.Proofs.Known
import HostRoster.Proofs.Matching
import HostRoster.Proofs.Plan
import HostRoster.Proofs.Run.Footprint
import HostRoster.Proofs.Run.Errand
import HostRoster.Proofs.Run.Traffic
import HostRoster.Proofs.Identity
import HostRoster.Proofs.Report
import HostRoster.Proofs.Guests
import HostRoster.Proofs.Guests.EditScript
import HostRoster.Proofs.Reflection
import HostRoster.Proofs.WellFormed
import HostRoster.Proofs.Run.Clashes
import HostRoster.Proofs.Run.Amid
import HostRoster.Proofs.Run.Failure
import HostRoster.Proofs.Run.Recording
import HostRoster.Proofs.Run.Keys
import HostRoster.Proofs.Run.Success
import HostRoster.Proofs.Run.Account
import HostRoster.Proofs.Run.Contents
import HostRoster.Proofs.Run.Migrations
import HostRoster.Proofs.Run.Repeat
import HostRoster.Proofs.Run.Idempotence
import HostRoster.Proofs.Run.Serializability
import HostRoster.Proofs.Run.History
import HostRoster.Proofs.Run.Batching
import HostRoster.Proofs.Store.Chronicle
import HostRoster.Proofs.Store.Conflicts
import HostRoster.Proofs.Store.LostUpdates
import HostRoster.Proofs.Store.Uuids
import HostRoster.Proofs.Run.Atomicity
import HostRoster.Proofs.Run.Isolation
import HostRoster.Proofs.Run.Grants
import HostRoster.Proofs.Run.Filing
import HostRoster.Proofs.Answers
import HostRoster.Proofs.Json.Values
import HostRoster.Proofs.Json.Decoding
import HostRoster.Proofs.Program.StateFile
import HostRoster.Proofs.File.Path
import HostRoster.Proofs.Program.Disk
import HostRoster.Proofs.Program.Calls
import HostRoster.Proofs.Program.Visits
import HostRoster.Proofs.Run.Lookup
import HostRoster.Proofs.Report.Older
import HostRoster.Proofs.Spelling
import HostRoster.Proofs.Run.Spelling
import HostRoster.Proofs.Matching.Assignment
import HostRoster.Proofs.Matching.SharedMachine
import HostRoster.Proofs.Plan.Changes
import HostRoster.Proofs.Row
import HostRoster.Proofs.Report.Reference
import HostRoster.Proofs.Run.Heartbeat
import HostRoster.Proofs.Run.Tally
import HostRoster.Proofs.Command.Grant
import HostRoster.Proofs.Known.Replacement
