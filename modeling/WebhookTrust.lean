import WebhookTrust.Health
import WebhookTrust.Main
import WebhookTrust.Signal
import WebhookTrust.Simulation.Controller
import WebhookTrust.Simulation.Scheduler
import WebhookTrust.Proofs.Agreement
import WebhookTrust.Proofs.Healing
import WebhookTrust.Proofs.Acceptance
import WebhookTrust.Proofs.Faithful
import WebhookTrust.Proofs.Isolation
import WebhookTrust.Proofs.Trust
import WebhookTrust.Proofs.Atomicity
import WebhookTrust.Proofs.Lookahead
import WebhookTrust.Proofs.ControlLoop
import WebhookTrust.Proofs.Stores
import WebhookTrust.Proofs.Edits
import WebhookTrust.Proofs.LeafRotation
import WebhookTrust.Proofs.Footprint
import WebhookTrust.Proofs.LostReplies
import WebhookTrust.Proofs.Reinjection
import WebhookTrust.Proofs.Containment
import WebhookTrust.Proofs.Gate
import WebhookTrust.Proofs.Bootstrap
import WebhookTrust.Proofs.Armour
import WebhookTrust.Proofs.Storage
import WebhookTrust.Proofs.Chaining
import WebhookTrust.Proofs.Schedule
import WebhookTrust.Proofs.Labels
import WebhookTrust.Proofs.Coverage
import WebhookTrust.Proofs.Declarations
import WebhookTrust.Proofs.Numbering
import WebhookTrust.Proofs.Families
import WebhookTrust.Proofs.Instruments
import WebhookTrust.Proofs.Errands
import WebhookTrust.Proofs.Booking
import WebhookTrust.Proofs.Accounting
