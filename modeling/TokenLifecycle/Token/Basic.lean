import TokenLifecycle.Claims.Wire
import TokenLifecycle.Text.Base64Url
import TokenLifecycle.Text.Segments

namespace TokenLifecycle

-- What can be wrong with a segment of a token: the encoding of its bytes, or what they say.
inductive Fault where
  | encoding
  | content
deriving DecidableEq

-- Why a text is not a token.
inductive Malformed where
  | segments
  | header (fault : Fault)
  | payload (fault : Fault)
  | signature
deriving DecidableEq

def Malformed.message : Malformed → String
  | segments  => "malformed JWT"
  | header _  => "malformed JWT header"
  | payload _ => "malformed JWT payload"
  | signature => "malformed JWT signature"

-- A token that could be read. Its signature was not checked, and no horizon was looked at. The
-- message is the part that is signed, exactly as it was written.
@[ext]
structure AccessToken where
  encoded   : String
  message   : String
  header    : Header
  claims    : Claims
  signature : Bytes

namespace AccessToken

def readSegment (segment : List Char) (read? : Json → Option α) : Except Fault α :=
  match Base64Url.decode? segment with
  | none    => .error .encoding
  | some bs =>
    match (Json.read? bs).bind read? with
    | none   => .error .content
    | some v => .ok v

def read (s : String) : Except Malformed AccessToken :=
  match Segments.split s.toList with
  | [h, p, g] => do
    let header    ← (readSegment h Header.ofJson?).mapError .header
    let claims    ← (readSegment p Claims.ofJson?).mapError .payload
    let signature ← (Base64Url.decode? g).elim (.error .signature) .ok
    return { encoded := s, message := .ofList <| h ++ '.' :: p, header, claims, signature }
  | _         => .error .segments

-- The token says something about the field.
def Has (t : AccessToken) : Field → Prop
  | .algorithm       => t.header.algorithm ≠ none
  | .kind            => t.header.kind ≠ none
  | .issuer          => t.claims.issuer ≠ none
  | .subject         => t.claims.subject ≠ none
  | .audience        => t.claims.audiences ≠ []
  | .issuedAt        => t.claims.issuedAt ≠ none
  | .expiry          => t.claims.expiry ≠ none
  | .refreshDeadline => t.claims.refreshDeadline ≠ none
  | .availability    => t.claims.availability ≠ none
  | .principal       => t.claims.principal ≠ none

instance (t : AccessToken) (f : Field) : Decidable (t.Has f) := by
  cases f <;> (simp only [Has]; infer_instance)

-- The token that two documents make, with a signature over both of them.
def assemble (header payload : Bytes) (a : Algorithm) (k : Key) : Except SigningError String := do
  let message := Base64Url.encode header ++ '.' :: Base64Url.encode payload
  let signature ← k.sign a <| Utf8.encode message
  return .ofList <| message ++ '.' :: Base64Url.encode signature

-- The number of bytes that a token takes up. The lengths of its documents tell it before there is
-- anything to sign.
def assembledLength (header payload : Nat) (a : Algorithm) : Nat :=
  Base64Url.encodedLength header + Base64Url.encodedLength payload +
    Base64Url.encodedLength a.size + 2

end AccessToken

-- The token that holds the claims under the given header, signed with an algorithm that need not
-- be the one that the header names.
def Claims.sign (c : Claims) (h : Header) (a : Algorithm) (k : Key) :
    Except SigningError String :=
  AccessToken.assemble (Utf8.encode h.written) (Utf8.encode c.written) a k

end TokenLifecycle
