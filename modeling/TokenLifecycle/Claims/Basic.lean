import TokenLifecycle.Claims.Availability
import TokenLifecycle.Digest.Mac

namespace TokenLifecycle

-- What a token says in its header and in its payload.
inductive Field where
  | algorithm
  | kind
  | issuer
  | subject
  | audience
  | issuedAt
  | expiry
  | refreshDeadline
  | availability
  | principal
deriving DecidableEq

namespace Field

def name : Field → String
  | algorithm       => "alg"
  | kind            => "typ"
  | issuer          => "iss"
  | subject         => "sub"
  | audience        => "aud"
  | issuedAt        => "iat"
  | expiry          => "exp"
  | refreshDeadline => "tsurugi/exp/refresh"
  | availability    => "tsurugi/exp/available"
  | principal       => "tsurugi/auth/name"

-- The fields of each part, in the order in which they are written.
def header : List Field :=
  [algorithm, kind]

def payload : List Field :=
  [issuer, subject, audience, issuedAt, expiry, refreshDeadline, availability, principal]

end Field

-- The header of a token says how it is signed. Anything may be left out, which is for a validator
-- to notice.
@[ext]
structure Header where
  algorithm : Option Algorithm := none
  kind      : Option String    := none
deriving DecidableEq

def Header.ofAlgorithm (a : Algorithm) : Header where
  algorithm := a
  kind      := "JWT"

-- The payload of a token. Its horizons are the expiry, up to which it may be used, the refresh
-- deadline, up to which it may be exchanged for a fresh one, and the ceiling on all of them.
@[ext]
structure Claims where
  issuer          : Option String       := none
  subject         : Option String       := none
  audiences       : List String         := []
  issuedAt        : Option Instant      := none
  expiry          : Option Instant      := none
  refreshDeadline : Option Instant      := none
  availability    : Option Availability := none
  principal       : Option String       := none
deriving DecidableEq

end TokenLifecycle
