import TokenLifecycle.Claims.Availability
import TokenLifecycle.Claims.Basic
import TokenLifecycle.Claims.Wire
import TokenLifecycle.Describe
import TokenLifecycle.Digest.Mac
import TokenLifecycle.Digest.Sha2
import TokenLifecycle.Directory.Basic
import TokenLifecycle.Directory.Roster
import TokenLifecycle.Directory.Server
import TokenLifecycle.Disclosure
import TokenLifecycle.Event
import TokenLifecycle.Gate
import TokenLifecycle.Json.Escape
import TokenLifecycle.Json.Scan
import TokenLifecycle.Json.Value
import TokenLifecycle.Json.Written
import TokenLifecycle.Session
import TokenLifecycle.Settings.Basic
import TokenLifecycle.Settings.Lookup
import TokenLifecycle.Text.Base64Url
import TokenLifecycle.Text.Base64Url.Lemmas
import TokenLifecycle.Text.Quoted
import TokenLifecycle.Text.Segments
import TokenLifecycle.Text.Utf8
import TokenLifecycle.Time.Instant
import TokenLifecycle.Time.Leeway
import TokenLifecycle.Token.Basic
import TokenLifecycle.Token.Judgement
import TokenLifecycle.Token.Renewal
import TokenLifecycle.Token.Validator
import TokenLifecycle.Proofs.Json.Grammar
import TokenLifecycle.Proofs.Json.Text
import TokenLifecycle.Proofs.Json.Number
import TokenLifecycle.Proofs.Json.Document
import TokenLifecycle.Proofs.Json.Members
import TokenLifecycle.Proofs.Text.Base64Url
import TokenLifecycle.Proofs.Text.Places
import TokenLifecycle.Proofs.Claims.Document
import TokenLifecycle.Proofs.Claims.Members
import TokenLifecycle.Proofs.Token.Judgement
import TokenLifecycle.Proofs.Token.Reading
import TokenLifecycle.Proofs.Token.Shape
import TokenLifecycle.Proofs.Token.Classification
import TokenLifecycle.Proofs.Token.Payload
import TokenLifecycle.Proofs.Token.Signing
import TokenLifecycle.Proofs.Token.Length
import TokenLifecycle.Proofs.Token.Variants
import TokenLifecycle.Proofs.Token.Issuance
import TokenLifecycle.Proofs.Token.Renewal
import TokenLifecycle.Proofs.Token.Rekeying
import TokenLifecycle.Proofs.Token.Chain
import TokenLifecycle.Proofs.Token.Sequence
import TokenLifecycle.Proofs.Token.Phases
import TokenLifecycle.Proofs.Token.History
import TokenLifecycle.Proofs.Token.Idempotence
import TokenLifecycle.Proofs.Gate.Availability
import TokenLifecycle.Proofs.Gate.SignIn
import TokenLifecycle.Proofs.Gate.Blame
import TokenLifecycle.Proofs.Session.Run
import TokenLifecycle.Proofs.Session.Credentials
import TokenLifecycle.Proofs.Session.Provenance
import TokenLifecycle.Proofs.Session.Secrecy
import TokenLifecycle.Proofs.Token.Rules
import TokenLifecycle.Proofs.Token.Loosening
import TokenLifecycle.Proofs.Token.Trail
import TokenLifecycle.Proofs.Disclosure
import TokenLifecycle.Proofs.Reveal
import TokenLifecycle.Proofs.Gate.EmptyKey
import TokenLifecycle.Proofs.Gate.Trail
import TokenLifecycle.Proofs.Settings.SpanText
import TokenLifecycle.Proofs.Settings.Lookup
