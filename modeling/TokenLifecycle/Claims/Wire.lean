import TokenLifecycle.Claims.Basic
import TokenLifecycle.Json.Scan
import TokenLifecycle.Json.Written

namespace TokenLifecycle

open Json

-- How each value that a token holds is written, and which documents are read as one.

namespace Instant

def ofJson? (v : Json) : Option Instant :=
  v.natural?.bind ofNat?

def written (t : Instant) : List Char :=
  Written.natural t.seconds

end Instant

namespace Span

def ofJson? (v : Json) : Option Span :=
  v.natural?.bind ofNat?

def written (d : Span) : List Char :=
  Written.natural d.seconds

end Span

namespace Availability

def ofJson? (v : Json) : Option Availability :=
  (Instant.ofJson? v).map ofInstant

def written (av : Availability) : List Char :=
  av.toInstant.written

end Availability

namespace Algorithm

-- An algorithm is a name, which may be written alone or as the only member of an object.
def ofJson? : Json → Option Algorithm
  | .text name                   => name.bind ofName?
  | .object [(some name, .null)] => ofName? name
  | _                            => none

def written (a : Algorithm) : List Char :=
  Written.text a.name

end Algorithm

namespace Audiences

-- A single audience may be written alone, and is.
def ofJson? (v : Json) : Option (List String) :=
  (v.text?.map ([·])).or v.texts?

def written : List String → List Char
  | [a] => Written.text a
  | as  => Written.array <| as.map Written.text

end Audiences

-- The members for a field with a value, which are none if the value is absent.
def Field.member (f : Field) (v : Option (List Char)) : List (String × List Char) :=
  (v.map (f.name, ·)).toList

namespace Header

def ofJson? (v : Json) : Option Header := do
  let members ← v.members? (Field.header.map Field.name)
  return {
    algorithm := ← member? members Field.algorithm.name none (nullOr Algorithm.ofJson?)
    kind      := ← member? members Field.kind.name none (nullOr text?)
  }

def written (h : Header) : List Char :=
  Written.object <|
    Field.algorithm.member (h.algorithm.map Algorithm.written) ++
    Field.kind.member (h.kind.map Written.text)

end Header

namespace Claims

def ofJson? (v : Json) : Option Claims := do
  let members ← v.members? (Field.payload.map Field.name)
  return {
    issuer          := ← member? members Field.issuer.name none (nullOr text?)
    subject         := ← member? members Field.subject.name none (nullOr text?)
    audiences       := ← member? members Field.audience.name [] Audiences.ofJson?
    issuedAt        := ← member? members Field.issuedAt.name none (nullOr Instant.ofJson?)
    expiry          := ← member? members Field.expiry.name none (nullOr Instant.ofJson?)
    refreshDeadline := ← member? members Field.refreshDeadline.name none (nullOr Instant.ofJson?)
    availability    := ← member? members Field.availability.name none (nullOr Availability.ofJson?)
    principal       := ← member? members Field.principal.name none (nullOr text?)
  }

def written (c : Claims) : List Char :=
  let audiences := if c.audiences = [] then none else some <| Audiences.written c.audiences
  Written.object <|
    Field.issuer.member (c.issuer.map Written.text) ++
    Field.subject.member (c.subject.map Written.text) ++
    Field.audience.member audiences ++
    Field.issuedAt.member (c.issuedAt.map Instant.written) ++
    Field.expiry.member (c.expiry.map Instant.written) ++
    Field.refreshDeadline.member (c.refreshDeadline.map Instant.written) ++
    Field.availability.member (c.availability.map Availability.written) ++
    Field.principal.member (c.principal.map Written.text)

end Claims
end TokenLifecycle
