import TokenLifecycle.Claims.Basic
import TokenLifecycle.Time.Leeway

namespace TokenLifecycle

-- How tokens are issued and renewed: the key they are signed with, what they say about their
-- origin, how long each of their horizons is, and the leeway with which they are judged when they
-- are presented for renewal. A window of no length leaves the availability without a ceiling.
@[ext]
structure Settings where
  key                : Key
  issuer             : Option String := "authentication-manager"
  audience           : Option String := "metadata-manager"
  subject            : Option String := "AuthenticationToken"
  expiration         : Span          := { seconds := 300 }
  refreshWindow      : Span          := { seconds := 24 * 60 * 60 }
  availabilityWindow : Span          := { seconds := 7 * 24 * 60 * 60 }
  leeway             : Leeway        := .standard
deriving DecidableEq

namespace Settings

def default (key : Key) : Settings where
  key := key

-- What a token for the principal says if it is issued `now`.
def claims (s : Settings) (principal : String) (now : Instant) : Claims where
  issuer          := s.issuer
  subject         := s.subject
  audiences       := s.audience.toList
  issuedAt        := now
  expiry          := some <| now + s.expiration
  refreshDeadline := some <| now + s.refreshWindow
  availability    := some <| .fromWindow now s.availabilityWindow
  principal       := principal

end Settings
end TokenLifecycle
