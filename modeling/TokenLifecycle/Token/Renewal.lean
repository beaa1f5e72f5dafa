import TokenLifecycle.Event
import TokenLifecycle.Settings.Basic
import TokenLifecycle.Token.Validator

namespace TokenLifecycle

-- Signs the claims of a token of our own, always with the one algorithm that every validator
-- approves.
def Claims.seal (c : Claims) (k : Key) : Logged (Except SigningError String) :=
  match c.sign (.ofAlgorithm .hs256) .hs256 k with
  | .error e  => .reporting (.signingFailed e) (.error e)
  | .ok token => pure <| .ok token

-- A fresh token for the principal.
def Settings.issue (s : Settings) (principal : String) (now : Instant) :
    Logged (Except SigningError String) := do
  match ← (s.claims principal now).seal s.key with
  | .error e  => return .error e
  | .ok token => .reporting (.issued principal) (.ok token)

-- Why a token cannot be exchanged.
inductive InvalidToken where
  | malformed (cause : Malformed)
  | notAvailable (cause : Rejection)
  | refreshWindowExpired
deriving DecidableEq

def InvalidToken.message : InvalidToken → String
  | malformed _          => "invalid token"
  | notAvailable _       => "token is not available"
  | refreshWindowExpired => "token refresh window expired"

-- Why there is no token: the one to exchange is to blame, or the key to sign with.
inductive TokenError where
  | invalid (cause : InvalidToken)
  | signing (cause : SigningError)
deriving DecidableEq

def TokenError.message : TokenError → String
  | invalid cause => cause.message
  | signing _     => "internal error: unable to sign token"

namespace TokenError

def IsInvalidToken : TokenError → Prop
  | invalid _ => True
  | signing _ => False

def IsRefreshWindowExpired (e : TokenError) : Prop :=
  e = .invalid .refreshWindowExpired

def IsInternal : TokenError → Prop
  | invalid _ => False
  | signing _ => True

instance : DecidablePred IsInvalidToken
  | .invalid _ => isTrue trivial
  | .signing _ => isFalse id

instance : DecidablePred IsRefreshWindowExpired :=
  fun _ => inferInstanceAs (Decidable (_ = _))

instance : DecidablePred IsInternal
  | .invalid _ => isFalse id
  | .signing _ => isTrue trivial

end TokenError

-- What the token that takes the place of another says. Its horizons are counted from `now`, but do
-- not go beyond the ceiling, which is handed on like everything else.
def Claims.renewed (c : Claims) (availability : Availability) (s : Settings) (extension : Span)
    (now : Instant) : Claims :=
  { c with
    expiry          := some <| availability.clamp (now + extension)
    refreshDeadline := some <| availability.clamp (now + s.refreshWindow) }

-- Exchanges a token that is still available for a fresh one that expires after the extension. The
-- refresh window has to be open even if the token itself has not expired. A token that passes has a
-- standing, which holds its refresh deadline and its ceiling, so after the check no token can be
-- turned down because one of them is missing.
def Settings.renew (s : Settings) (token : String) (extension : Span) (now : Instant) :
    Logged (Except TokenError String) :=
  match AccessToken.read token with
  | .error e => .reporting (.renewalOfUnreadable e) (.error <| .invalid <| .malformed e)
  | .ok t    => do
    let v : Validator := { key := s.key, policy := .renewable, leeway := s.leeway }
    match ← v.check t now with
    | .error r => .reporting (.renewalOfRejected r) (.error <| .invalid <| .notAvailable r)
    | .ok h    =>
      if s.leeway.Elapsed h.refreshDeadline now then
        .reporting (.refreshWindowExpired h.refreshDeadline now)
          (.error <| .invalid .refreshWindowExpired)
      else
        let c := t.claims.renewed h.availability s extension now
        match ← c.seal s.key with
        | .error e => return .error <| .signing e
        | .ok new  => .reporting (.renewed c.expiry c.refreshDeadline) (.ok new)

end TokenLifecycle
