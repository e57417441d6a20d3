import RollupTx.Amount.Decimal
import RollupTx.Amount.Packed
import RollupTx.Bytes.BigEndian
import RollupTx.Bytes.Hex
import RollupTx.Crypto.Blake3
import RollupTx.Crypto.Curve25519
import RollupTx.Crypto.Ed25519
import RollupTx.Crypto.Sha512
import RollupTx.Encode.Error
import RollupTx.Encode.Field
import RollupTx.Fixture.Generate
import RollupTx.Fixture.Party
import RollupTx.Fixture.Vectors
import RollupTx.Float.Binary64
import RollupTx.Float.Shortest
import RollupTx.Json.Reader
import RollupTx.Json.Value
import RollupTx.Proofs.Amount.DecimalGrammar
import RollupTx.Proofs.Amount.DecimalText
import RollupTx.Proofs.Amount.RatioText
import RollupTx.Proofs.Encode.AddressText
import RollupTx.Proofs.Encode.HexText
import RollupTx.Proofs.Fixture.Parties
import RollupTx.Proofs.Json.Fuel
import RollupTx.Proofs.Packing.Amount
import RollupTx.Proofs.Packing.Fee
import RollupTx.Proofs.Packing.Form
import RollupTx.Proofs.Packing.Rounding
import RollupTx.Proofs.Payload.Domain
import RollupTx.Proofs.Payload.Fields
import RollupTx.Proofs.Payload.Frame
import RollupTx.Proofs.Payload.Layout
import RollupTx.Proofs.Payload.Legs
import RollupTx.Proofs.Payload.Signing
import RollupTx.Proofs.Payload.Writers
import RollupTx.Proofs.Text.Edits
import RollupTx.Proofs.Token.Lookup
import RollupTx.Proofs.Transport.Dictionary
import RollupTx.Proofs.Transport.Envelope
import RollupTx.Proofs.Wallet.Message
import RollupTx.Text.CaseTable
import RollupTx.Text.DebugForm
import RollupTx.Text.Lower
import RollupTx.Text.Printable
import RollupTx.Token.Basic
import RollupTx.Token.Registry
import RollupTx.Token.Snapshot
import RollupTx.Tx.ChangePubKey
import RollupTx.Tx.Debug
import RollupTx.Tx.ForcedExit
import RollupTx.Tx.MintNft
import RollupTx.Tx.Order
import RollupTx.Tx.Swap
import RollupTx.Tx.Transaction
import RollupTx.Tx.Transfer
import RollupTx.Tx.Withdraw
import RollupTx.Tx.WithdrawNft
import RollupTx.Proofs.Encode.IntegerFields
import RollupTx.Proofs.Encode.HexFields
import RollupTx.Tx.Basic
import RollupTx.Tx.Signer
