import ChatKeys.Account
import ChatKeys.Audit.Event
import ChatKeys.Audit.Logged
import ChatKeys.Bytes
import ChatKeys.Capability
import ChatKeys.Config
import ChatKeys.Crypto.ChaCha20
import ChatKeys.Crypto.Hmac
import ChatKeys.Crypto.KeyDerivation
import ChatKeys.Crypto.Poly1305
import ChatKeys.Crypto.Sha256
import ChatKeys.Crypto.X25519
import ChatKeys.Crypto.XChaCha20Poly1305
import ChatKeys.Error
import ChatKeys.Json.Codec
import ChatKeys.Json.Error
import ChatKeys.Json.Number
import ChatKeys.Json.Reader
import ChatKeys.Json.Record
import ChatKeys.Json.Skip
import ChatKeys.Json.Value
import ChatKeys.Key.Basic
import ChatKeys.Key.Content
import ChatKeys.Key.Derived
import ChatKeys.Key.Pair
import ChatKeys.Key.Stored
import ChatKeys.Key.Summary
import ChatKeys.Key.Type
import ChatKeys.Message.Basic
import ChatKeys.Message.Encryption
import ChatKeys.Proofs.Json.Integers
import ChatKeys.Proofs.Json.Strings
import ChatKeys.Proofs.Json.Tokens
import ChatKeys.Proofs.Snowflake
import ChatKeys.Proofs.Text.Base64
import ChatKeys.Proofs.Text.Utf8
import ChatKeys.Reset
import ChatKeys.Room
import ChatKeys.Room.MessageKey
import ChatKeys.Service.Dialogue
import ChatKeys.Service.Environment
import ChatKeys.Service.Faults
import ChatKeys.Service.LocalKms
import ChatKeys.Service.Responder
import ChatKeys.Service.SplitMix
import ChatKeys.Snowflake
import ChatKeys.Text.Base64
import ChatKeys.Text.Hex
import ChatKeys.Text.Quoted
import ChatKeys.Text.Unseen
import ChatKeys.Time
import ChatKeys.Proofs.Json.Codec
import ChatKeys.Proofs.Json.Record
import ChatKeys.Proofs.Key.Stored
import ChatKeys.Proofs.Key.Content
import ChatKeys.Proofs.Message.Opening
import ChatKeys.Proofs.Message.Sealing
import ChatKeys.Proofs.Message.Formats
import ChatKeys.Proofs.Key.Wrapping
import ChatKeys.Proofs.Service.Running
import ChatKeys.Proofs.Account.Operations
import ChatKeys.Proofs.Account.Stored
import ChatKeys.Proofs.Account.Hierarchy
import ChatKeys.Proofs.Account.Runs
import ChatKeys.Proofs.Crypto.Tags
import ChatKeys.Proofs.Key.Context
import ChatKeys.Proofs.Capability
import ChatKeys.Proofs.Crypto.Passwords
import ChatKeys.Proofs.Account.Passwords
import ChatKeys.Proofs.Account.Grants
import ChatKeys.Proofs.Room.Stored
import ChatKeys.Proofs.Room.Hierarchy
import ChatKeys.Proofs.Room.Runs
import ChatKeys.Proofs.Service.Calls
import ChatKeys.Proofs.Service.Failures
import ChatKeys.Proofs.Reset.Confirmation
import ChatKeys.Proofs.Reset.Stored
import ChatKeys.Proofs.Reset.Runs
import ChatKeys.Proofs.Room.History
import ChatKeys.Proofs.Message.Reading
import ChatKeys.Proofs.Message.Levels
import ChatKeys.Proofs.Json.Accepted
import ChatKeys.Proofs.Storage
import ChatKeys.Proofs.Room.Revocation
import ChatKeys.Proofs.Service.Draws
import ChatKeys.Proofs.Service.Miscounts
import ChatKeys.Proofs.Service.Exchanges
import ChatKeys.Proofs.Service.Openings
import ChatKeys.Proofs.Account.Staff
import ChatKeys.Proofs.Message.KeyText
import ChatKeys.Proofs.Account.Deeds
import ChatKeys.Proofs.Account.Vectors
import ChatKeys.Proofs.Audit.Completion
import ChatKeys.Proofs.Json.Grammar
import ChatKeys.Proofs.Json.Wording
import ChatKeys.Proofs.Json.Refused
import ChatKeys.Proofs.Capability.Disclosure
import ChatKeys.Proofs.Capability.Answers
import ChatKeys.Proofs.Account.Replacement
import ChatKeys.Proofs.Gates
import ChatKeys.Proofs.Message.Spelling
import ChatKeys.Proofs.Snowflake.Text
import ChatKeys.Proofs.Snowflake.Clock
import ChatKeys.Proofs.Message.Hiding
import ChatKeys.Proofs.Message.Answers
import ChatKeys.Proofs.Snowflake.Packing
import ChatKeys.Proofs.Reset.Grammar
import ChatKeys.Proofs.Reset.Lifetime
import ChatKeys.Proofs.Raw.Obtainable
