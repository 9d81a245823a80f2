import XoLedger.Act
import XoLedger.Bytes.Base64
import XoLedger.Bytes.Basic
import XoLedger.Bytes.Hex
import XoLedger.Client
import XoLedger.Command.Arguments
import XoLedger.Command.Run
import XoLedger.Curve.Modular
import XoLedger.Curve.Point
import XoLedger.Decimal.Shortest
import XoLedger.Digest.Blocks
import XoLedger.Digest.Hmac
import XoLedger.Digest.Sha256
import XoLedger.Digest.Sha512
import XoLedger.Fault
import XoLedger.Game.Address
import XoLedger.Game.Basic
import XoLedger.Game.Data
import XoLedger.Game.Intent
import XoLedger.Game.Record
import XoLedger.Gateway.Answer
import XoLedger.Gateway.Basic
import XoLedger.Gateway.Memory
import XoLedger.Gateway.Network
import XoLedger.Gateway.Rest
import XoLedger.Gateway.Retry
import XoLedger.Json.Decoder
import XoLedger.Json.Token
import XoLedger.Json.Value
import XoLedger.Log
import XoLedger.Main
import XoLedger.Nonce
import XoLedger.Polling
import XoLedger.Projection
import XoLedger.Proofs.Act
import XoLedger.Proofs.Bytes.Base64
import XoLedger.Proofs.Bytes.Digits
import XoLedger.Proofs.Bytes.Hex
import XoLedger.Proofs.Bytes.Numbers
import XoLedger.Proofs.Client
import XoLedger.Proofs.Command
import XoLedger.Proofs.Curve.Group
import XoLedger.Proofs.Curve.Modular
import XoLedger.Proofs.Curve.Order
import XoLedger.Proofs.Curve.Primes
import XoLedger.Proofs.Curve.Root
import XoLedger.Proofs.Digest.Blocks
import XoLedger.Proofs.Game.Address
import XoLedger.Proofs.Game.Data
import XoLedger.Proofs.Game.Intent
import XoLedger.Proofs.Game.Payload
import XoLedger.Proofs.Gateway.Account
import XoLedger.Proofs.Gateway.Answer
import XoLedger.Proofs.Gateway.Attempts
import XoLedger.Proofs.Gateway.Calls
import XoLedger.Proofs.Gateway.Endpoint
import XoLedger.Proofs.Gateway.Link
import XoLedger.Proofs.Gateway.Memory
import XoLedger.Proofs.Gateway.Prompt
import XoLedger.Proofs.Gateway.Replies
import XoLedger.Proofs.Gateway.Rest
import XoLedger.Proofs.Gateway.Retry
import XoLedger.Proofs.Gateway.Rounds
import XoLedger.Proofs.Gateway.StatusLink
import XoLedger.Proofs.Header
import XoLedger.Proofs.Json.Number
import XoLedger.Proofs.Json.Reader
import XoLedger.Proofs.Json.Record
import XoLedger.Proofs.Json.Text
import XoLedger.Proofs.Json.Token
import XoLedger.Proofs.Json.Value
import XoLedger.Proofs.Listing
import XoLedger.Proofs.Order
import XoLedger.Proofs.Outcome
import XoLedger.Proofs.Play
import XoLedger.Proofs.Polling
import XoLedger.Proofs.Projection
import XoLedger.Proofs.Record
import XoLedger.Proofs.Report
import XoLedger.Proofs.Session
import XoLedger.Proofs.Settings
import XoLedger.Proofs.Settings.EnvFile
import XoLedger.Proofs.Settings.Sources
import XoLedger.Proofs.Shelf
import XoLedger.Proofs.Signature.Canonical
import XoLedger.Proofs.Signature.Ecdsa
import XoLedger.Proofs.Signature.Key
import XoLedger.Proofs.Signature.PrivateKey
import XoLedger.Proofs.Signed
import XoLedger.Proofs.Submission
import XoLedger.Proofs.Text.Blank
import XoLedger.Proofs.Text.Composed
import XoLedger.Proofs.Text.Composites
import XoLedger.Proofs.Text.Numeral
import XoLedger.Proofs.Text.Ranges
import XoLedger.Proofs.Text.Split
import XoLedger.Proofs.Text.Utf8
import XoLedger.Proofs.Url.Authority
import XoLedger.Proofs.Url.Domain.Image
import XoLedger.Proofs.Url.Domain.Label
import XoLedger.Proofs.Url.Domain.Punycode
import XoLedger.Proofs.Url.Form
import XoLedger.Proofs.Url.Host
import XoLedger.Proofs.Url.Parse
import XoLedger.Proofs.Url.Path
import XoLedger.Proofs.Watch
import XoLedger.Proofs.Wire.Field
import XoLedger.Proofs.Wire.Message
import XoLedger.Proofs.Wire.Nesting
import XoLedger.Proofs.Wire.Size
import XoLedger.Proofs.Wire.Varint
import XoLedger.Settings.Basic
import XoLedger.Settings.Data
import XoLedger.Settings.EnvFile
import XoLedger.Settings.Environment
import XoLedger.Signature.Ecdsa
import XoLedger.Signature.Key
import XoLedger.Signature.Signer
import XoLedger.Signed
import XoLedger.Text.AlphanumericRanges
import XoLedger.Text.Blank
import XoLedger.Text.CaseRanges
import XoLedger.Text.CombiningClasses
import XoLedger.Text.Composed
import XoLedger.Text.CompositionRows
import XoLedger.Text.HiddenRanges
import XoLedger.Text.Lowercase
import XoLedger.Text.MarkRanges
import XoLedger.Text.Numeral
import XoLedger.Text.Padding
import XoLedger.Text.Quoted
import XoLedger.Text.Ranges
import XoLedger.Text.Split
import XoLedger.Text.Utf8
import XoLedger.Url.Basic
import XoLedger.Url.Domain
import XoLedger.Url.Domain.Direction
import XoLedger.Url.Domain.Image
import XoLedger.Url.Domain.ImageRows
import XoLedger.Url.Domain.Joining
import XoLedger.Url.Domain.Label
import XoLedger.Url.Domain.Punycode
import XoLedger.Url.Domain.ValidRanges
import XoLedger.Url.Error
import XoLedger.Url.Form
import XoLedger.Url.Host
import XoLedger.Url.Ipv4
import XoLedger.Url.Ipv6
import XoLedger.Url.Parse
import XoLedger.Url.Percent
import XoLedger.Wire.Field
import XoLedger.Wire.Message
import XoLedger.Wire.Varint
