import TokenLifecycle.Directory.Basic
import TokenLifecycle.Settings.Lookup
import TokenLifecycle.Token.Renewal

namespace TokenLifecycle

-- Why nobody is let in. What goes wrong with the directory or with a token is taken over as it is.
inductive GateError where
  | directory (cause : DirectoryError)
  | token (cause : TokenError)
deriving DecidableEq

-- What there is to do about an error: present other credentials, ask again later, sign in again, or
-- mend the settings.
inductive GateError.Kind where
  | authenticationFailed
  | backendUnavailable
  | invalidToken
  | internal
deriving DecidableEq

def DirectoryError.kind (e : DirectoryError) : GateError.Kind :=
  if e.IsAuthenticationFailure then .authenticationFailed else .backendUnavailable

def TokenError.kind : TokenError → GateError.Kind
  | invalid _ => .invalidToken
  | signing _ => .internal

namespace GateError

def kind : GateError → Kind
  | directory cause => cause.kind
  | token cause     => cause.kind

def message : GateError → String
  | directory (.refused _)     => "authentication failed"
  | directory (.unavailable _) => "authentication backend unavailable"
  | token cause                => cause.message

def IsAuthenticationFailure (e : GateError) : Prop :=
  e.kind = .authenticationFailed

def IsBackendUnavailable (e : GateError) : Prop :=
  e.kind = .backendUnavailable

def IsInvalidToken (e : GateError) : Prop :=
  e.kind = .invalidToken

instance : DecidablePred IsAuthenticationFailure :=
  fun _ => inferInstanceAs (Decidable (_ = _))

instance : DecidablePred IsBackendUnavailable :=
  fun _ => inferInstanceAs (Decidable (_ = _))

instance : DecidablePred IsInvalidToken :=
  fun _ => inferInstanceAs (Decidable (_ = _))

end GateError

-- Lets users in whom the directory knows, and hands out the tokens that stand for them.
structure Gate (δ : Type) where
  directory : δ
  target    : String
  settings  : Settings

namespace Gate

variable {δ : Type} [Directory δ]

def defaultTarget : String := "postgres://localhost/tsurugi"

-- The gate that the variables describe.
def lookup (directory : δ) (lookup : String → Option String) :
    Logged (Except SettingsError (Gate δ)) := do
  match ← Settings.lookup lookup with
  | .error e     => return .error e
  | .ok settings =>
    let target := (lookup Variable.target).getD defaultTarget
    return .ok { directory, target, settings }

-- The directory is asked first, so a user whom it refuses learns nothing about the key.
def signInAt (g : Gate δ) (target identity secret : String) (now : Instant) :
    Logged (Except GateError String) := do
  match ← Directory.attempt g.directory target identity secret with
  | .error cause =>
    let e : GateError := .directory cause
    let event := if e.IsAuthenticationFailure then .signInRejected else .signInIncomplete
    .reporting event (.error e)
  | .ok _        =>
    match ← g.settings.issue identity now with
    | .error e  => return .error <| .token <| .signing e
    | .ok token => .reporting .signedIn (.ok token)

def signIn (g : Gate δ) (identity secret : String) (now : Instant) :
    Logged (Except GateError String) :=
  g.signInAt g.target identity secret now

omit [Directory δ]

def renew (g : Gate δ) (token : String) (extension : Span) (now : Instant) :
    Logged (Except GateError String) := do
  return (← g.settings.renew token extension now).mapError .token

-- A text that is no token passes for none, with a report of its own.
def judge (token : String) (passes : AccessToken → Logged Bool) : Logged Bool :=
  match AccessToken.read token with
  | .error e => .reporting (.unreadable e) false
  | .ok t    => passes t

def isValid (g : Gate δ) (token : String) (now : Instant) : Logged Bool :=
  judge token (·.isValid g.settings.key now)

def isAvailable (g : Gate δ) (token : String) (now : Instant) : Logged Bool :=
  judge token (·.isAvailable g.settings.key now)

end Gate
end TokenLifecycle
