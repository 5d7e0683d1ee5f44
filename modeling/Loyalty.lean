import Loyalty.Authority.Race
import Loyalty.Http.Router
import Loyalty.Main
import Loyalty.Proofs.Account.Opening
import Loyalty.Proofs.Amount.ByValue
import Loyalty.Proofs.Authority.Capping
import Loyalty.Proofs.Authority.Finality
import Loyalty.Proofs.Authority.Pausing
import Loyalty.Proofs.Authority.Waiting
import Loyalty.Proofs.Digest.Keys
import Loyalty.Proofs.Http.Atomicity
import Loyalty.Proofs.Http.Isolation
import Loyalty.Proofs.Ledger.AllOrNothing
import Loyalty.Proofs.Ledger.AnyOrder
import Loyalty.Proofs.Ledger.Attempts
import Loyalty.Proofs.Ledger.Events
import Loyalty.Proofs.Ledger.Exactness
import Loyalty.Proofs.Ledger.InHand
import Loyalty.Proofs.Ledger.Listings
import Loyalty.Proofs.Ledger.Recovery
import Loyalty.Proofs.Ledger.SecondCredit
import Loyalty.Proofs.Ledger.Spending
import Loyalty.Proofs.Ledger.Submissions
import Loyalty.Proofs.Order.Luhn
import Loyalty.Proofs.Order.Reading
import Loyalty.Proofs.Reconciliation.Conservation
import Loyalty.Proofs.Reconciliation.Counts
import Loyalty.Proofs.Reconciliation.Crediting
import Loyalty.Proofs.Reconciliation.Errands
import Loyalty.Proofs.Reconciliation.Return
import Loyalty.Proofs.Reconciliation.Steps
import Loyalty.Proofs.Reconciliation.Stopping
import Loyalty.Proofs.Reconciliation.Tally
import Loyalty.Proofs.Session.Lifetime
import Loyalty.Proofs.Session.RoundTrip
import Loyalty.Proofs.Session.Signed
import Loyalty.Proofs.Settings.Scheme
import Loyalty.Reconciliation.Lookup
import Loyalty.Reconciliation.Schedule
