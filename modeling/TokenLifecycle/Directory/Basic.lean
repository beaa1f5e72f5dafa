import TokenLifecycle.Event

namespace TokenLifecycle

-- Why a directory does not accept what a user presents.
inductive Refusal where
  | wrongSecret (identity : String)
  | unknownIdentity (identity : String)
  | byServer (message : String)
deriving DecidableEq

def Refusal.message : Refusal → String
  | wrongSecret identity     => "password authentication failed for user \"" ++ identity ++ "\""
  | unknownIdentity identity => "role \"" ++ identity ++ "\" does not exist"
  | byServer message         => "error returned from database: " ++ message

-- Why a directory cannot be asked, for which no user is to blame.
inductive Outage where
  | offline
  | timedOut
  | invalidTarget (cause : String)
  | serverError (message : String)
  | connection (message : String)
deriving DecidableEq

def Outage.message : Outage → String
  | offline             => "static directory is offline"
  | timedOut            => "deadline has elapsed"
  | invalidTarget cause => "error with configuration: " ++ cause
  | serverError message => "error returned from database: " ++ message
  | connection message  => message

inductive DirectoryError where
  | refused (cause : Refusal)
  | unavailable (cause : Outage)
deriving DecidableEq

def DirectoryError.message : DirectoryError → String
  | refused cause => "authentication failed: " ++ cause.message
  | unavailable _ => "directory unavailable"

-- The user is to blame, and not the directory.
def DirectoryError.IsAuthenticationFailure : DirectoryError → Prop
  | refused _     => True
  | unavailable _ => False

instance : DecidablePred DirectoryError.IsAuthenticationFailure
  | .refused _     => isTrue trivial
  | .unavailable _ => isFalse id

-- A directory is asked once for each attempt to sign in, and knows which secret belongs to which
-- identity at the target.
class Directory (δ : Type) where
  attempt (directory : δ) (target identity secret : String) : Logged (Except DirectoryError Unit)

end TokenLifecycle
