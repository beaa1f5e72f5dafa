import TokenLifecycle.Time.Leeway
import TokenLifecycle.Token.Basic

namespace TokenLifecycle

-- What a token is judged for. To be used it has to be unexpired, to be exchanged for a fresh one
-- it is enough that its refresh window is open.
inductive Policy where
  | strict
  | renewable
deriving DecidableEq

def Policy.name : Policy → String
  | strict    => "Strict"
  | renewable => "Renewable"

-- Why a token is turned down. The first three reasons concern the token itself, and the others the
-- time at which it is presented.
inductive Rejection where
  | missing (field : Field)
  | unapprovedAlgorithm
  | signatureMismatch
  | issuedInFuture
  | expired
  | refreshWindowElapsed
  | availabilityElapsed
deriving DecidableEq

namespace Rejection

def message : Rejection → String
  | missing f            => "required " ++ f.name ++ " claim missing"
  | unapprovedAlgorithm  => "invalid algorithm"
  | signatureMismatch    => "signature mismatch"
  | issuedInFuture       => "token issued in the future"
  | expired              => "token expired"
  | refreshWindowElapsed => "token expired and refresh window elapsed"
  | availabilityElapsed  => "token availability elapsed"

def IsIntegrityFailure : Rejection → Prop
  | missing _           => True
  | unapprovedAlgorithm => True
  | signatureMismatch   => True
  | _                   => False

instance (r : Rejection) : Decidable r.IsIntegrityFailure := by
  cases r <;> (simp only [IsIntegrityFailure]; infer_instance)

end Rejection
end TokenLifecycle
