import TokenLifecycle.Event
import TokenLifecycle.Settings.Basic

namespace TokenLifecycle

-- White space, as the Unicode property of that name has it.
def Blank (c : Char) : Prop :=
  c.toNat ∈ [0x09, 0x0a, 0x0b, 0x0c, 0x0d, 0x20, 0x85, 0xa0, 0x1680, 0x2000, 0x2001, 0x2002, 0x2003,
    0x2004, 0x2005, 0x2006, 0x2007, 0x2008, 0x2009, 0x200a, 0x2028, 0x2029, 0x202f, 0x205f, 0x3000]

instance (c : Char) : Decidable (Blank c) :=
  inferInstanceAs (Decidable (_ ∈ _))

-- The text without the blanks around it.
def trim (cs : List Char) : List Char :=
  ((cs.dropWhile (Blank ·)).reverse.dropWhile (Blank ·)).reverse

namespace Span

-- The units in which a span may be given, by what follows the number.
def unit? : List Char → Option Nat
  | []              => some 1
  | ['s']           => some 1
  | ['m', 'i', 'n'] => some 60
  | ['h']           => some (60 * 60)
  | ['d']           => some (24 * 60 * 60)
  | _               => none

-- The span that a text names: a decimal number and a unit, with blanks around both but not
-- between them. A span that is too long to be held has no text.
def ofText? (s : String) : Option Span :=
  let cs     := trim s.toList
  let digits := cs.takeWhile Char.isDigit
  if digits = [] then
    none
  else
    (unit? <| cs.dropWhile Char.isDigit).bind fun u => ofNat? (Nat.ofDigitChars 10 digits 0 * u)

end Span

-- The variables that settings are read from.
namespace Variable

def secretKey : String := "WARDEN_JWT_SECRET_KEY"

def issuer : String := "WARDEN_JWT_CLAIM_ISS"

def audience : String := "WARDEN_JWT_CLAIM_AUD"

def subject : String := "WARDEN_JWT_CLAIM_SUB"

def expiration : String := "WARDEN_TOKEN_EXPIRATION"

def refreshWindow : String := "WARDEN_TOKEN_EXPIRATION_REFRESH"

def availabilityWindow : String := "WARDEN_TOKEN_EXPIRATION_AVAILABLE"

def target : String := "WARDEN_CONNECTION_STRING_AUTH"

end Variable

-- There are no settings without a key.
inductive SettingsError where
  | missingSecretKey
deriving DecidableEq

def SettingsError.message : SettingsError → String
  | missingSecretKey => Variable.secretKey ++ " must be set to a non-empty value"

-- The span that a variable names. One that names none counts as unset, but not silently.
def Span.lookup (lookup : String → Option String) (name : String) (default : Span) : Logged Span :=
  match lookup name with
  | none   => pure default
  | some v =>
    match ofText? v with
    | some d => pure d
    | none   => .reporting (.defaultedSpan name v default) default

-- The settings that the variables describe. Every unset variable but the key has a default.
def Settings.lookup (lookup : String → Option String) : Logged (Except SettingsError Settings) :=
  match lookup Variable.secretKey with
  | none     => pure <| .error .missingSecretKey
  | some ""  => pure <| .error .missingSecretKey
  | some key => do
    let s : Settings := .default ⟨Utf8.encode key.toList⟩
    let expiration         ← Span.lookup lookup Variable.expiration s.expiration
    let refreshWindow      ← Span.lookup lookup Variable.refreshWindow s.refreshWindow
    let availabilityWindow ← Span.lookup lookup Variable.availabilityWindow s.availabilityWindow
    return .ok {
      s with
      issuer   := (lookup Variable.issuer).or s.issuer
      audience := (lookup Variable.audience).or s.audience
      subject  := (lookup Variable.subject).or s.subject
      expiration, refreshWindow, availabilityWindow
    }

end TokenLifecycle
