import TokenLifecycle.Event

namespace TokenLifecycle

-- What a token has to say before it can be judged.
@[ext]
structure Standing where
  algorithm       : Algorithm
  issuedAt        : Instant
  expiry          : Instant
  refreshDeadline : Instant
  availability    : Availability
deriving DecidableEq

namespace AccessToken

-- The fields that a token has to have, in the order in which they are looked for.
def required : List Field :=
  [.algorithm, .kind, .issuedAt, .expiry, .principal, .refreshDeadline, .availability]

def HasRequired (t : AccessToken) : Prop :=
  ∀ f ∈ required, t.Has f

instance (t : AccessToken) : Decidable t.HasRequired :=
  inferInstanceAs (Decidable (∀ f ∈ required, t.Has f))

-- The value of a field, or else the field itself as the one that is missing.
def need (f : Field) : Option α → Except Field α
  | some v => .ok v
  | none   => .error f

def standing (t : AccessToken) : Except Field Standing := do
  let algorithm       ← need .algorithm t.header.algorithm
  let _               ← need .kind t.header.kind
  let issuedAt        ← need .issuedAt t.claims.issuedAt
  let expiry          ← need .expiry t.claims.expiry
  let _               ← need .principal t.claims.principal
  let refreshDeadline ← need .refreshDeadline t.claims.refreshDeadline
  let availability    ← need .availability t.claims.availability
  return { algorithm, issuedAt, expiry, refreshDeadline, availability }

-- Checks the signature with the algorithm that the header names. This is all there is to trust in
-- a token, and says nothing about its horizons.
def verify (t : AccessToken) (k : Key) : Logged (Except Rejection Unit) :=
  match t.header.algorithm with
  | none   => pure <| .error <| .missing .algorithm
  | some a =>
    if k.Accepts a (Utf8.encode t.message.toList) t.signature then
      pure <| .ok ()
    else
      .reporting .verificationFailed <| .error .signatureMismatch

end AccessToken

-- Judges tokens that were signed with its key. One algorithm is always approved.
structure Validator where
  key      : Key
  policy   : Policy
  leeway   : Leeway         := .standard
  approved : List Algorithm := []

namespace Validator

def algorithms (v : Validator) : List Algorithm :=
  .hs256 :: v.approved

-- The first rule about time that is broken `now`. The ceiling is looked at last when the token is
-- to be used, and first when it is to be exchanged.
def judge (v : Validator) (s : Standing) (now : Instant) : Except Rejection Standing :=
  let ceilingElapsed := s.availability.deadline?.any (v.leeway.Elapsed · now)
  if v.leeway.Premature s.issuedAt now then
    .error .issuedInFuture
  else
    match v.policy with
    | .strict    =>
      if v.leeway.Elapsed s.expiry now then .error .expired
      else if ceilingElapsed then .error .availabilityElapsed
      else .ok s
    | .renewable =>
      if ceilingElapsed then .error .availabilityElapsed
      else if v.leeway.Elapsed s.expiry now ∧ v.leeway.Elapsed s.refreshDeadline now then
        .error .refreshWindowElapsed
      else .ok s

-- The first rule that is broken, if any: what the token has to say, which algorithm it may be
-- signed with, the signature, and then the time.
def check (v : Validator) (t : AccessToken) (now : Instant) :
    Logged (Except Rejection Standing) :=
  match t.standing with
  | .error f => pure <| .error <| .missing f
  | .ok s    =>
    if s.algorithm ∈ v.algorithms then do
      match ← t.verify v.key with
      | .error r => return .error r
      | .ok _    => return v.judge s now
    else
      pure <| .error .unapprovedAlgorithm

-- Whether the token passes. If it does not, the reason is reported and not returned.
def accepts (v : Validator) (t : AccessToken) (now : Instant) : Logged Bool := do
  match ← v.check t now with
  | .ok _    => return true
  | .error r => .reporting (.rejected v.policy r) false

end Validator

-- Whether a token may be used, and whether it may be exchanged, with the usual leeway.

def AccessToken.isValid (t : AccessToken) (k : Key) (now : Instant) : Logged Bool :=
  Validator.accepts { key := k, policy := .strict } t now

def AccessToken.isAvailable (t : AccessToken) (k : Key) (now : Instant) : Logged Bool :=
  Validator.accepts { key := k, policy := .renewable } t now

end TokenLifecycle
