import TokenLifecycle.Settings.Basic
import TokenLifecycle.Text.Quoted
import TokenLifecycle.Token.Basic

namespace TokenLifecycle

-- Descriptions are for people who look for a fault. They hold no key, no signature and no encoded
-- token.
namespace Describe

def optional (describe : α → String) : Option α → String
  | none   => "None"
  | some v => "Some(" ++ describe v ++ ")"

def field (name v : String) : String :=
  name ++ ": " ++ v

def record (name : String) (fields : List String) : String :=
  name ++ " \x7b " ++ ", ".intercalate fields ++ " \x7d"

def span (d : Span) : String :=
  "DurationSecs(" ++ toString d.seconds ++ ")"

def instant (t : Instant) : String :=
  "UnixTime(" ++ t.render ++ ")"

def leeway (l : Leeway) : String :=
  "Leeway(" ++ span l.tolerance ++ ")"

def availability : Availability → String
  | .unbounded       => "Unbounded"
  | .bounded ceiling => "Until(" ++ instant ceiling ++ ")"

def header (h : Header) : String :=
  record "TokenHeaders" [
    field "alg" <| optional Algorithm.name h.algorithm,
    field "typ" <| optional Quoted.text h.kind]

def claims (c : Claims) : String :=
  record "TokenClaims" [
    field "iss" <| optional Quoted.text c.issuer,
    field "sub" <| optional Quoted.text c.subject,
    field "aud" <| "Audiences(" ++ Quoted.texts c.audiences ++ ")",
    field "iat" <| optional instant c.issuedAt,
    field "exp" <| optional instant c.expiry,
    field "refresh_exp" <| optional instant c.refreshDeadline,
    field "available" <| optional availability c.availability,
    field "principal" <| optional Quoted.text c.principal]

-- The two dots stand for what is not shown.
def token (t : AccessToken) : String :=
  record "AccessToken" [
    field "headers" <| header t.header,
    field "claims" <| claims t.claims,
    ".."]

def settings (s : Settings) : String :=
  record "TokenConfig" [
    field "secret_key" s.key.describe,
    field "issuer" <| optional Quoted.text s.issuer,
    field "audience" <| optional Quoted.text s.audience,
    field "subject" <| optional Quoted.text s.subject,
    field "expiration" <| span s.expiration,
    field "refresh_expiration" <| span s.refreshWindow,
    field "available_expiration" <| span s.availabilityWindow,
    field "leeway" <| leeway s.leeway]

end Describe
end TokenLifecycle
