import AccessControl.Administration
import AccessControl.Bootstrap
import AccessControl.Clients
import AccessControl.Directory
import AccessControl.Guard
import AccessControl.LogFormat
import AccessControl.Registry
import AccessControl.Session
import AccessControl.Sorted
import AccessControl.Proofs.Directory.Consistency
import AccessControl.Store.Faulty
import AccessControl.Proofs.Directory.Permanence
import AccessControl.Proofs.Session.Calls
import AccessControl.Proofs.Session.History
import AccessControl.Proofs.Session.Renewal
import AccessControl.Proofs.Session.Interleaving
import AccessControl.Proofs.Session.Exclusion
import AccessControl.Proofs.Directory.Edits
import AccessControl.Proofs.Guard.Mediation
import AccessControl.Proofs.Guard.Agreement
import AccessControl.Proofs.Rights.Stored
import AccessControl.Proofs.Policy.Validity
import AccessControl.Proofs.Directory.Installation
import AccessControl.Proofs.Session.Outcomes
import AccessControl.Proofs.Time.Dates
import AccessControl.Proofs.Time.Texts
import AccessControl.Proofs.Json.Records
import AccessControl.Proofs.Role.Persistence
import AccessControl.Proofs.Text.Bytes
import AccessControl.Proofs.Directory.Calls
import AccessControl.Proofs.Directory.Authority
import AccessControl.Proofs.Directory.Order
import AccessControl.Proofs.Directory.Restart
import AccessControl.Proofs.Rights.Repair
import AccessControl.Proofs.Role.Loading
import AccessControl.Proofs.Directory.Independence
import AccessControl.Proofs.Number.Numerals
import AccessControl.Proofs.Session.Windows
import AccessControl.Proofs.Settings.Acceptance
import AccessControl.Proofs.Role.Explanation
import AccessControl.Proofs.Session.Purges
import AccessControl.Proofs.Registry.Listing
import AccessControl.Proofs.Identifier.Texts
import AccessControl.Proofs.Json.Numerals
import AccessControl.Proofs.Json.Skipping
import AccessControl.Proofs.Json.Members
import AccessControl.Proofs.Wire.RoundTrip
import AccessControl.Proofs.Json.Refusals
import AccessControl.Proofs.Json.Canonical
import AccessControl.Proofs.Json.Repetition
import AccessControl.Proofs.Json.Forms
import AccessControl.Proofs.Policy.Documents
import AccessControl.Proofs.Rights.Writes
import AccessControl.Proofs.Identifier.Forms
import AccessControl.Proofs.Identifier.Order
