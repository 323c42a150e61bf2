import KeyExport.Proofs.Curve.PrimeField
import KeyExport.Recipient
import KeyExport.Release
import KeyExport.Workspace
import KeyExport.Proofs.Curve.GroupLaw
import KeyExport.Proofs.Curve.P256
import KeyExport.Proofs.Action
import KeyExport.Proofs.Cipher.Gcm
import KeyExport.Proofs.Cipher.Stream
import KeyExport.Proofs.Sealing
import KeyExport.Proofs.KeyDerivation
import KeyExport.Proofs.Coordinates
import KeyExport.Proofs.PrivateKey
import KeyExport.Proofs.KeyAgreement
import KeyExport.Proofs.PointImport
import KeyExport.Proofs.Session.Opening
import KeyExport.Proofs.Hex
import KeyExport.Proofs.Record.Decoding
import KeyExport.Proofs.Session.Encryption
import KeyExport.Proofs.Recipient
import KeyExport.Proofs.Workspace.Opening
import KeyExport.Proofs.Workspace.Step
import KeyExport.Proofs.Workspace.Effect
import KeyExport.Proofs.Workspace.Ledger
import KeyExport.Proofs.Validation
import KeyExport.Proofs.EntryPoint
import KeyExport.Proofs.Record.Editing
import KeyExport.Proofs.Record.Steps
import KeyExport.Proofs.Curve.CubicRoots
import KeyExport.Proofs.Curve.PrimeGroup
import KeyExport.Proofs.Session.OpeningsAgree
import KeyExport.Proofs.Session.Layout
import KeyExport.Proofs.Session.Invariant
import KeyExport.Proofs.Workspace.Sessions
import KeyExport.Proofs.Workspace.Tokens
import KeyExport.Proofs.Workspace.OneShot
import KeyExport.Proofs.Secrecy.Action
import KeyExport.Proofs.Secrecy.Record
import KeyExport.Proofs.Secrecy.Session
import KeyExport.Proofs.Workspace.Logs
import KeyExport.Proofs.Secrecy.Workspace
import KeyExport.Proofs.Alteration
import KeyExport.Proofs.Cipher.Aes
import KeyExport.Proofs.Cipher.Authentication
import KeyExport.Proofs.Authenticity
import KeyExport.Proofs.Guards
import KeyExport.Proofs.Session.Failures
import KeyExport.Proofs.OwnFailures
import KeyExport.Proofs.Expansion
import KeyExport.Proofs.Session.OppositePoint
import KeyExport.Proofs.HexGrammar
import KeyExport.Proofs.SignedLength
import KeyExport.Proofs.PrintedCoordinates
import KeyExport.Proofs.Failure
