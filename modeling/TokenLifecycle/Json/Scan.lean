import TokenLifecycle.Json.Escape
import TokenLifecycle.Json.Value

namespace TokenLifecycle.Json

-- Where reading stands inside a number.
inductive NumberScan where
  | minus
  | zero (negative : Bool)
  | digits (negative : Bool) (n : Nat)
  | point
  | fraction
  | exponent
  | sign
  | power

namespace NumberScan

-- What follows the whole part of a number, apart from more digits.
def afterWhole : Char → Option NumberScan
  | '.' => some point
  | 'e' => some exponent
  | 'E' => some exponent
  | _   => none

def digit (c : Char) : Nat :=
  c.toNat - '0'.toNat

-- A number begins with a minus or a digit, and a zero is not followed by more digits.
def start (c : Char) : Option NumberScan :=
  if c = '-' then some minus
  else if c = '0' then some (zero false)
  else if c.isDigit then some (digits false (digit c))
  else none

def step (q : NumberScan) (c : Char) : Option NumberScan :=
  match q with
  | minus             =>
    if c = '0' then some (zero true)
    else if c.isDigit then some (digits true (digit c))
    else none
  | zero _            => afterWhole c
  | digits negative n =>
    if c.isDigit then some (digits negative (n * 10 + digit c)) else afterWhole c
  | point             => if c.isDigit then some fraction else none
  | fraction          =>
    if c.isDigit then some fraction
    else if c = 'e' ∨ c = 'E' then some exponent
    else none
  | exponent          =>
    if c = '+' ∨ c = '-' then some sign
    else if c.isDigit then some power
    else none
  | sign              => if c.isDigit then some power else none
  | power             => if c.isDigit then some power else none

-- The number as it stands, where it may end.
def number? : NumberScan → Option Json
  | zero false     => some (number (some 0))
  | digits false n => some (number (some n))
  | zero true      => some (number none)
  | digits true _  => some (number none)
  | fraction       => some (number none)
  | power          => some (number none)
  | _              => none

end NumberScan

-- Where reading stands inside a text.
inductive TextScan where
  | plain
  | escape
  | hex (left : Nat) (value : Nat)

-- What is left open around the place where reading stands. What was read of it already is kept
-- with the latest first.
inductive Frame where
  | items (done : List Json)
  | members (done : List (Option String × Json)) (name : Option String)

-- What has just been read, or has to come next.
inductive Mode where
  | value
  | firstItem
  | firstMember
  | nextMember (done : List (Option String × Json))
  | colon (done : List (Option String × Json)) (name : Option String)
  | literal (rest : List Char) (v : Json)
  | number (q : NumberScan)
  | text (key : Option (List (Option String × Json))) (done : List Piece) (q : TextScan)
  | complete (v : Json)

-- A document is read byte by byte. All that later bytes depend on is here.
structure Scan where
  mode   : Mode
  frames : List Frame

namespace Scan

def Blank (c : Char) : Prop :=
  c = ' ' ∨ c = '\t' ∨ c = '\n' ∨ c = '\r'

instance : Decidable (Blank c) :=
  inferInstanceAs (Decidable (_ ∨ _))

def start : Scan :=
  ⟨.value, []⟩

-- The first byte of a value.
def begin (c : Char) (fs : List Frame) : Option Scan :=
  match c with
  | '\x7b' => some ⟨.firstMember, fs⟩
  | '['    => some ⟨.firstItem, fs⟩
  | '"'    => some ⟨.text none [] .plain, fs⟩
  | 't'    => some ⟨.literal ['r', 'u', 'e'] (.bool true), fs⟩
  | 'f'    => some ⟨.literal ['a', 'l', 's', 'e'] (.bool false), fs⟩
  | 'n'    => some ⟨.literal ['u', 'l', 'l'] .null, fs⟩
  | c      => (NumberScan.start c).map (⟨.number ·, fs⟩)

-- A byte behind a value that is complete.
def after (v : Json) (c : Char) (fs : List Frame) : Option Scan :=
  if Blank c then some ⟨.complete v, fs⟩
  else
    match fs, c with
    | .items done :: fs,        ','    => some ⟨.value, .items (v :: done) :: fs⟩
    | .items done :: fs,        ']'    => some ⟨.complete <| .array (v :: done).reverse, fs⟩
    | .members done name :: fs, ','    => some ⟨.nextMember ((name, v) :: done), fs⟩
    | .members done name :: fs, '\x7d' =>
      some ⟨.complete <| .object ((name, v) :: done).reverse, fs⟩
    | _,                        _      => none

-- A byte inside a text, which is a member's name or a value.
def textStep (key : Option (List (Option String × Json))) (done : List Piece) (q : TextScan)
    (b : UInt8) (fs : List Frame) : Option Scan :=
  let c := Char.ofUInt8 b
  match q with
  | .plain          =>
    if c = '"' then
      let content := Piece.content? done.reverse
      match key with
      | some members => some ⟨.colon members content, fs⟩
      | none         => some ⟨.complete <| .text content, fs⟩
    else if c = '\\' then some ⟨.text key done .escape, fs⟩
    else if b < 0x20 then none
    else some ⟨.text key (.byte b :: done) .plain, fs⟩
  | .escape         =>
    if c = 'u' then some ⟨.text key done (.hex 3 0), fs⟩
    else (shortEscape? c).map fun b => ⟨.text key (.byte b :: done) .plain, fs⟩
  | .hex left value =>
    (hexDigit? c).map fun d =>
      match left with
      | 0        => ⟨.text key (.unit (value * 16 + d) :: done) .plain, fs⟩
      | left + 1 => ⟨.text key done (.hex left (value * 16 + d)), fs⟩

def step (s : Scan) (b : UInt8) : Option Scan :=
  let c  := Char.ofUInt8 b
  let fs := s.frames
  match s.mode with
  | .value            => if Blank c then some s else begin c fs
  | .firstItem        =>
    if Blank c then some s
    else if c = ']' then some ⟨.complete <| .array [], fs⟩
    else begin c (.items [] :: fs)
  | .firstMember      =>
    if Blank c then some s
    else if c = '\x7d' then some ⟨.complete <| .object [], fs⟩
    else if c = '"' then some ⟨.text (some []) [] .plain, fs⟩
    else none
  | .nextMember done  =>
    if Blank c then some s
    else if c = '"' then some ⟨.text (some done) [] .plain, fs⟩
    else none
  | .colon done name  =>
    if Blank c then some s
    else if c = ':' then some ⟨.value, .members done name :: fs⟩
    else none
  | .literal rest v   =>
    match rest with
    | [d]     => if c = d then some ⟨.complete v, fs⟩ else none
    | d :: ds => if c = d then some ⟨.literal ds v, fs⟩ else none
    | []      => none
  | .number q         =>
    match q.step c with
    | some q => some ⟨.number q, fs⟩
    | none   => q.number?.bind (after · c fs)
  | .text key done q  => textStep key done q b fs
  | .complete v       => after v c fs

-- The document that ends here, if it may.
def finish : Scan → Option Json
  | ⟨.complete v, []⟩ => some v
  | ⟨.number q, []⟩   => q.number?
  | _                 => none

def run (s : Scan) (bs : Bytes) : Option Scan :=
  bs.foldlM step s

theorem run_cons (s : Scan) (b : UInt8) (bs : Bytes) :
    s.run (b :: bs) = (s.step b).bind (·.run bs) :=
  List.foldlM_cons

theorem run_append (s : Scan) (bs₁ bs₂ : Bytes) :
    s.run (bs₁ ++ bs₂) = (s.run bs₁).bind (·.run bs₂) :=
  List.foldlM_append

end Scan

-- The document that the bytes are, with nothing but blanks around it.
def read? (bs : Bytes) : Option Json :=
  (Scan.start.run bs).bind Scan.finish

end TokenLifecycle.Json
