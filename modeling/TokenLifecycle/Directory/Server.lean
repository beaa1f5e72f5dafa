import TokenLifecycle.Directory.Basic

namespace TokenLifecycle

-- How an attempt to connect to a server with some credentials ends. A connection is only opened to
-- see whether it can be, and closed again, which may fail as well.
inductive Server.Reply where
  | accepted (closing : Option String)
  | error (code : Option String) (message : String)
  | invalidTarget (cause : String)
  | timedOut
  | failed (message : String)
deriving DecidableEq

-- A directory that is a database server. Whoever may connect to it may sign in.
structure Server where
  connect : (target identity secret : String) → Server.Reply
  limit   : Span := .saturating 10

namespace Server

-- Targets are also known by a longer name, of which the first part is left out.
def normalize (target : String) : String :=
  match target.toList with
  | 'j' :: 'd' :: 'b' :: 'c' :: ':' :: cs => .ofList cs
  | _                                     => target

-- The codes that blame the credentials are those of class 28, which is no code by itself.
def IsAuthorizationFailure (code : String) : Prop :=
  ['2', '8'] <+: code.toList ∧ 2 < code.length

instance (code : String) : Decidable (IsAuthorizationFailure code) :=
  inferInstanceAs (Decidable (_ ∧ _))

-- What a reply says about the credentials. Only the server itself can refuse them, and any other
-- way not to get through to it is an outage.
def Reply.verdict (limit : Span) : Reply → Logged (Except DirectoryError Unit)
  | accepted none           => pure <| .ok ()
  | accepted (some cause)   => .reporting (.closingFailed cause) <| .ok ()
  | invalidTarget cause     => pure <| .error <| .unavailable <| .invalidTarget cause
  | timedOut                =>
    .reporting (.directoryTimedOut limit) <| .error <| .unavailable .timedOut
  | failed message          => unavailable <| .connection message
  | error none message      => unavailable <| .serverError message
  | error (some c) message  =>
    if IsAuthorizationFailure c then
      .reporting (.credentialsRejected c) <| .error <| .refused <| .byServer message
    else
      unavailable <| .serverError message
where
  unavailable (o : Outage) : Logged (Except DirectoryError Unit) :=
    .reporting (.directoryUnavailable o.message) <| .error <| .unavailable o

instance : Directory Server where
  attempt d target identity secret := (d.connect (normalize target) identity secret).verdict d.limit

end Server
end TokenLifecycle
