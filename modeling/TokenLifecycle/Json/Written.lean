namespace TokenLifecycle.Json.Written

-- The written forms of values, without any blanks.

def hexDigit (n : Nat) : Char :=
  Nat.digitChar n

-- A character within a text. Quotes, backslashes and control characters cannot stand for
-- themselves.
def character (c : Char) : List Char :=
  match c with
  | '"'    => ['\\', '"']
  | '\\'   => ['\\', '\\']
  | '\x08' => ['\\', 'b']
  | '\t'   => ['\\', 't']
  | '\n'   => ['\\', 'n']
  | '\x0c' => ['\\', 'f']
  | '\r'   => ['\\', 'r']
  | c      =>
    if c.toNat < 0x20 then
      ['\\', 'u', '0', '0', hexDigit (c.toNat / 16), hexDigit (c.toNat % 16)]
    else
      [c]

def text (s : String) : List Char :=
  '"' :: s.toList.flatMap character ++ ['"']

def natural (n : Nat) : List Char :=
  Nat.toDigits 10 n

def array (items : List (List Char)) : List Char :=
  '[' :: [','].intercalate items ++ [']']

def object (members : List (String × List Char)) : List Char :=
  '\x7b' :: [','].intercalate (members.map fun (name, v) => text name ++ ':' :: v) ++ ['\x7d']

end TokenLifecycle.Json.Written
