import TokenLifecycle.Text.Quoted

namespace TokenLifecycle

-- How a text is asked for: in quotes or plain, in the form that may disclose it or not, and how
-- many characters wide.
structure Form where
  quoted    : Bool
  alternate : Bool
  width     : Option Nat := none

-- The first characters of a text, of which there is one less than the width leaves room for if
-- some are left out. Without a width nothing is left out.
def reveal (width : Option Nat) (cs : List Char) : List Char :=
  match width with
  | none   => cs
  | some w =>
    if w ≤ 1 then ['…']
    else if cs.length < w then cs
    else cs.take (w - 1) ++ ['…']

theorem length_reveal_le (w : Nat) (cs : List Char) : (reveal (some w) cs).length ≤ max w 1 := by
  simp only [reveal]
  split
  case isTrue => simp only [List.length_singleton]; omega
  case isFalse =>
    split
    case isTrue  => omega
    case isFalse => simp only [List.length_append, List.length_take, List.length_singleton]; omega

-- Texts that are not to end up where they can be read by accident.
inductive Confidential where
  | token
  | secret
  | target
deriving DecidableEq

namespace Confidential

def placeholder : Confidential → String
  | token  => "***JWT***"
  | secret => "***SECRET***"
  | target => "***CONNECTION TARGET***"

-- How much is revealed in quotes if no width is given.
def quotedWidth : Confidential → Nat
  | token  => 0
  | secret => 0
  | target => 12

-- The last segment of a token, which alone is protected, as the others are of no use without it.
def lastSegment (cs : List Char) : List Char :=
  (cs.reverse.takeWhile (· ≠ '.')).reverse

-- What of the text is shown anyway, and the rest, which is revealed up to a width.
def split : Confidential → List Char → List Char × List Char
  | token, cs => (cs.take (cs.length - (lastSegment cs).length), lastSegment cs)
  | _,     cs => ([], cs)

def disclose (k : Confidential) (f : Form) (s : String) : String :=
  let (shown, rest) := k.split s.toList
  let width         := f.width.or <| if f.quoted then some k.quotedWidth else none
  let text          := shown ++ reveal width rest
  .ofList <| if f.quoted then '"' :: text ++ ['"'] else text

-- Only the alternate form discloses anything.
def render (k : Confidential) (f : Form) (s : String) : String :=
  if f.alternate then k.disclose f s else k.placeholder

end Confidential

-- An identity is no secret. Plain, it is filled up with blanks to the width.
def Form.identity (f : Form) (s : String) : String :=
  if f.quoted then
    Quoted.text s
  else
    s ++ .ofList (List.replicate (f.width.getD 0 - s.length) ' ')

end TokenLifecycle
