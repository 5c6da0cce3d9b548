import GuestInventory.Main
import GuestInventory.Proofs.Pairing
import GuestInventory.Proofs.RoundTrip
import GuestInventory.Survey.Roster
import GuestInventory.Proofs.Messages
import GuestInventory.Proofs.Exchanges
import GuestInventory.Proofs.Order
import GuestInventory.Proofs.Script
import GuestInventory.Proofs.Refinement
import GuestInventory.Proofs.Codec
import GuestInventory.Proofs.Taking
import GuestInventory.Proofs.Spare
import GuestInventory.Proofs.Acceptance
import GuestInventory.Proofs.Interjections
import GuestInventory.Proofs.Undisturbed
import GuestInventory.Proofs.JsonReading
import GuestInventory.Proofs.Document
import GuestInventory.Proofs.Closing
import GuestInventory.Proofs.Arguments
import GuestInventory.Proofs.Replies
import GuestInventory.Proofs.Prefixes
import GuestInventory.Proofs.Sending
import GuestInventory.Proofs.Alignment
import GuestInventory.Proofs.Admission
import GuestInventory.Proofs.Marks
import GuestInventory.Proofs.Supplies
import GuestInventory.Proofs.Dispatch
import GuestInventory.Proofs.Puts
import GuestInventory.Proofs.Refusals
import GuestInventory.Proofs.Receipts
import GuestInventory.Proofs.Printing
import GuestInventory.Proofs.Identifiers
