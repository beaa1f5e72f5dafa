import TokenLifecycle.Describe
import TokenLifecycle.Token.Judgement

namespace TokenLifecycle

-- What an operation reports on its way. No event holds a key, a secret or a token.
inductive Event where
  | issued (principal : String)
  | signingFailed (cause : SigningError)
  | verificationFailed
  | unreadable (cause : Malformed)
  | rejected (policy : Policy) (reason : Rejection)
  | renewalOfUnreadable (cause : Malformed)
  | renewalOfRejected (reason : Rejection)
  | refreshWindowExpired (deadline now : Instant)
  | renewed (expiry refreshDeadline : Option Instant)
  | defaultedSpan (name value : String) (default : Span)
  | credentialsRejected (code : String)
  | directoryUnavailable (cause : String)
  | directoryTimedOut (limit : Span)
  | closingFailed (cause : String)
  | signInRejected
  | signInIncomplete
  | signedIn
deriving DecidableEq

namespace Event

inductive Level where
  | trace
  | debug
  | info
  | warn
  | error
deriving DecidableEq

def Level.name : Level → String
  | trace => "TRACE"
  | debug => "DEBUG"
  | info  => "INFO"
  | warn  => "WARN"
  | error => "ERROR"

def level : Event → Level
  | issued ..               => .trace
  | signingFailed ..        => .error
  | verificationFailed      => .trace
  | unreadable ..           => .debug
  | rejected ..             => .debug
  | renewalOfUnreadable ..  => .debug
  | renewalOfRejected ..    => .debug
  | refreshWindowExpired .. => .debug
  | renewed ..              => .trace
  | defaultedSpan ..        => .warn
  | credentialsRejected ..  => .debug
  | directoryUnavailable .. => .warn
  | directoryTimedOut ..    => .warn
  | closingFailed ..        => .debug
  | signInRejected          => .info
  | signInIncomplete        => .warn
  | signedIn                => .info

def message : Event → String
  | issued ..               => "token issued"
  | signingFailed ..        => "unable to sign token"
  | verificationFailed      => "signature verification failed"
  | unreadable ..           => "token rejected"
  | rejected ..             => "token rejected"
  | renewalOfUnreadable ..  => "refusing to renew malformed token"
  | renewalOfRejected ..    => "refusing to renew unavailable token"
  | refreshWindowExpired .. => "refresh window expired"
  | renewed ..              => "token renewed"
  | defaultedSpan ..        => "unable to parse duration, using default"
  | credentialsRejected ..  => "directory rejected credentials"
  | directoryUnavailable .. => "directory unavailable"
  | directoryTimedOut ..    => "directory connection timed out"
  | closingFailed ..        => "error closing directory connection"
  | signInRejected          => "authentication rejected"
  | signInIncomplete        => "authentication could not be completed"
  | signedIn                => "authenticated"

def horizon : Option Instant → String :=
  Describe.optional Describe.instant

-- What an event says beyond its message, by name.
def details : Event → List (String × String)
  | issued principal                  => [("principal", principal)]
  | signingFailed cause               => [("error", cause.message)]
  | verificationFailed                => [("error", Rejection.signatureMismatch.message)]
  | unreadable cause                  => [("error", cause.message)]
  | rejected policy reason            => [("policy", policy.name), ("reason", reason.message)]
  | renewalOfUnreadable cause         => [("error", cause.message)]
  | renewalOfRejected reason          => [("reason", reason.message)]
  | refreshWindowExpired deadline now => [("refresh_deadline", deadline.render),
                                          ("now", now.render)]
  | renewed expiry refreshDeadline    => [("expires_at", horizon expiry),
                                          ("refresh_expires_at", horizon refreshDeadline)]
  | defaultedSpan name value d        => [("variable", name), ("value", value),
                                          ("default", d.render)]
  | credentialsRejected code          => [("sqlstate", code)]
  | directoryUnavailable cause        => [("error", cause)]
  | directoryTimedOut limit           => [("timeout", limit.render)]
  | closingFailed cause               => [("error", cause)]
  | signInRejected                    => [("reason", "authentication failed")]
  | signInIncomplete                  => [("reason", "authentication backend unavailable")]
  | signedIn                          => []

def render (e : Event) : String :=
  e.details.foldl (fun s (name, v) => s ++ " " ++ name ++ "=" ++ v)
    (e.level.name ++ " " ++ e.message)

end Event

-- A result together with the events on the way to it, the earliest first.
@[ext]
structure Logged (α : Type) where
  value  : α
  events : List Event := []

namespace Logged

-- A result that is reported with one event.
def reporting (e : Event) (v : α) : Logged α :=
  ⟨v, [e]⟩

instance : Monad Logged where
  pure v   := ⟨v, []⟩
  bind x f := ⟨(f x.value).value, x.events ++ (f x.value).events⟩

variable {x : Logged α} {f : α → Logged β} {v : α} {e : Event}

@[simp]
theorem value_pure : (pure v : Logged α).value = v :=
  rfl

@[simp]
theorem events_pure : (pure v : Logged α).events = [] :=
  rfl

@[simp]
theorem value_bind : (x >>= f).value = (f x.value).value :=
  rfl

@[simp]
theorem events_bind : (x >>= f).events = x.events ++ (f x.value).events :=
  rfl

@[simp]
theorem value_reporting : (reporting e v).value = v :=
  rfl

@[simp]
theorem events_reporting : (reporting e v).events = [e] :=
  rfl

end Logged
end TokenLifecycle
