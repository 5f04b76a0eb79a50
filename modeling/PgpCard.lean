import PgpCard.Main
import PgpCard.Proofs.Apdu.Frame
import PgpCard.Proofs.Apdu.Reassembly
import PgpCard.Proofs.Card.Accounting
import PgpCard.Proofs.Card.Authority
import PgpCard.Proofs.Card.Chaining
import PgpCard.Proofs.Card.Composed
import PgpCard.Proofs.Card.Inert
import PgpCard.Proofs.Card.Published
import PgpCard.Proofs.Card.Recalling
import PgpCard.Proofs.Card.Reviving
import PgpCard.Proofs.Card.Secrecy
import PgpCard.Proofs.Card.Vouching
import PgpCard.Proofs.Card.WellKept
import PgpCard.Proofs.Guarded.Process
import PgpCard.Proofs.Host.Session
import PgpCard.Proofs.Key.Accepted
import PgpCard.Proofs.Key.Fingerprint
import PgpCard.Proofs.Key.Isolation
import PgpCard.Proofs.Key.Working
import PgpCard.Proofs.Secret.Refinement
import PgpCard.Proofs.Store.Records
import PgpCard.Proofs.Store.Refinement
import PgpCard.Proofs.Tlv.Layout
import PgpCard.Proofs.Tlv.RoundTrip
import PgpCard.Store.Faulty
import PgpCard.Store.Veiled
