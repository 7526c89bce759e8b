import Notary.Account.Checksummed
import Notary.Account.Derivation
import Notary.Account.Mnemonic
import Notary.Account.Seed
import Notary.Account.Signer
import Notary.Account.WordList
import Notary.Backoff
import Notary.Boundary.Basic
import Notary.Boundary.Record
import Notary.Bytes
import Notary.Client.Basic
import Notary.Command.Delivery
import Notary.Command.Options
import Notary.Config.Basic
import Notary.Config.Document
import Notary.Config.Validation
import Notary.Curve.Secp256k1
import Notary.Docket
import Notary.Error
import Notary.Hash.Keccak
import Notary.Hash.Sha256
import Notary.Hash.Sha512
import Notary.Ledger.Call
import Notary.Ledger.Chain
import Notary.Ledger.Gateway
import Notary.Ledger.Scripted
import Notary.Main
import Notary.Metrics
import Notary.NonceBook
import Notary.Number.Binary64
import Notary.Number.Checked
import Notary.Program
import Notary.Proofs.Finality.Confirmed
import Notary.Proofs.Nonces.Uniqueness
import Notary.Proofs.Registry.History
import Notary.Proofs.Session.Outcome
import Notary.Registry.Arena
import Notary.Registry.Basic
import Notary.Registry.Handle
import Notary.Session
import Notary.SocketAddress
import Notary.Submission
import Notary.Text.Hex
import Notary.Text.Quoted
import Notary.Toml.Document
import Notary.Toml.Lexeme
import Notary.Toml.Table
import Notary.Tracker.Basic
import Notary.Tracker.Finality
import Notary.Tracker.Submitting
import Notary.Transaction.AppData
import Notary.Transaction.Basic
import Notary.Transaction.Rlp
import Notary.Url.Basic
import Notary.Url.Host
import Notary.Url.Percent
import Notary.Url.Punycode
import Notary.Proofs.Finality.Mortality
import Notary.Proofs.Account.Secrecy
import Notary.Proofs.Delivery.Broadcasts
import Notary.Proofs.Delivery.Submitting
import Notary.Proofs.Session.Delivery
import Notary.Proofs.Number.Rounding
import Notary.Proofs.Delivery.Pricing
import Notary.Proofs.Delivery.Relaying
import Notary.Proofs.Delivery.Inclusions
import Notary.Proofs.Receipts.Phases
import Notary.Proofs.Receipts.Bureau
import Notary.Proofs.Wire.Strings
import Notary.Proofs.Wire.Signed
import Notary.Proofs.Receipts.Moves
import Notary.Proofs.Receipts.Truth
import Notary.Proofs.Receipts.Evidence
import Notary.Proofs.Boundary.Entries
import Notary.Proofs.Boundary.Refinement
import Notary.Proofs.Boundary.Values
import Notary.Proofs.Boundary.Contract
import Notary.Proofs.Receipts.Schedules
import Notary.Proofs.Delivery.Blocks
import Notary.Proofs.Session.Refusals
import Notary.Proofs.Boundary.Ownership
import Notary.Proofs.Nonces.Handback
import Notary.Proofs.Finality.Verdict
import Notary.Proofs.Finality.Polling
import Notary.Proofs.Finality.Rounds
import Notary.Proofs.Delivery.Wording
import Notary.Proofs.Number.Overflow
import Notary.Proofs.Registry.Slots
import Notary.Proofs.Registry.Bookkeeping
import Notary.Proofs.Nonces.Succession
import Notary.Proofs.Finality.Waiting
import Notary.Proofs.Delivery.Failover
import Notary.Proofs.Delivery.Agreement
import Notary.Proofs.Session.Settings
import Notary.Proofs.Session.Cancelled
import Notary.Proofs.Number.Delays
import Notary.Proofs.Account.Spellings
import Notary.Proofs.Config.Overlay
