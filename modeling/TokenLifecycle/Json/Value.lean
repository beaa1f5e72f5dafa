namespace TokenLifecycle

-- A document, as far as its content can matter. A number has a value only if it is written with
-- digits alone, that is without sign, fraction and exponent. A text has content only if it is made
-- of characters: a document may hold others, as long as nothing asks for their content.
inductive Json where
  | null
  | bool (b : Bool)
  | number (value : Option Nat)
  | text (content : Option String)
  | array (items : List Json)
  | object (members : List (Option String × Json))

namespace Json

def text? : Json → Option String
  | text content => content
  | _            => none

def natural? : Json → Option Nat
  | number value => value
  | _            => none

-- Where a value may be absent, it may also be written as null.
def nullOr (read? : Json → Option α) : Json → Option (Option α)
  | null => some none
  | v    => (read? v).map some

def texts? : Json → Option (List String)
  | array items => items.mapM text?
  | _           => none

-- The members of a record with known member names. A record may also be written as the array of
-- its members' values, in the order of `names`, of which the last ones may be left out.
def members? (names : List String) : Json → Option (List (String × Json))
  | object members => members.mapM fun (name, v) => name.map (·, v)
  | array items    => if items.length ≤ names.length then some (names.zip items) else none
  | _              => none

-- A member that does not occur has a value of its own, and one that occurs twice has none.
def member? (members : List (String × Json)) (name : String) (absent : α)
    (read? : Json → Option α) : Option α :=
  match members.filter (·.1 = name) with
  | []       => some absent
  | [(_, v)] => read? v
  | _        => none

end Json
end TokenLifecycle
