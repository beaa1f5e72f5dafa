import Mathlib.Data.List.Forall2
import TokenLifecycle.Json.Scan
import TokenLifecycle.Json.Written

namespace TokenLifecycle.Json

-- A document in which every member has a name that is a text.
def record (members : List (String × Json)) : Json :=
  .object <| members.map fun (name, v) => (some name, v)

end TokenLifecycle.Json

-- Which texts are documents, and what they say. Every text in them is made of characters, so none
-- of them holds half a pair of numbered escapes.
namespace TokenLifecycle.Json.Grammar

open List (Forall₂)

def Blanks (cs : List Char) : Prop :=
  ∀ c ∈ cs, c ∈ [' ', '\t', '\n', '\r']

inductive HexDigit : Char → Nat → Prop
  | lower {d : Nat} : (d < 16) → HexDigit d.digitChar d
  | upper {d : Nat} : (d < 16) → HexDigit d.digitChar.toUpper d

-- A number that is written as an escape.
inductive Escape : List Char → Nat → Prop
  | digits {c₁ c₂ c₃ c₄ : Char} {d₁ d₂ d₃ d₄ : Nat} :
    HexDigit c₁ d₁ → HexDigit c₂ d₂ → HexDigit c₃ d₃ → HexDigit c₄ d₄ →
    Escape ['\\', 'u', c₁, c₂, c₃, c₄] (((d₁ * 16 + d₂) * 16 + d₃) * 16 + d₄)

-- The letters that stand for another character behind a backslash.
def letters : List (Char × Char) :=
  [('"', '"'), ('\\', '\\'), ('/', '/'), ('b', '\x08'), ('f', '\x0c'), ('n', '\n'), ('r', '\r'),
   ('t', '\t')]

-- The ways to write down a character within a text. A character with a number of more than four
-- digits takes two escapes.
inductive Character : List Char → Char → Prop
  | plain {c : Char} : (c ≠ '"') → (c ≠ '\\') → (0x20 ≤ c.toNat) → Character [c] c
  | letter {e c : Char} : ((e, c) ∈ letters) → Character ['\\', e] c
  | escape {w : List Char} {c : Char} : Escape w c.toNat → Character w c
  | pair {w₁ w₂ : List Char} {c : Char} : (0x10000 ≤ c.toNat) →
    Escape w₁ (0xd800 + (c.toNat - 0x10000) / 0x400) →
    Escape w₂ (0xdc00 + (c.toNat - 0x10000) % 0x400) → Character (w₁ ++ w₂) c

inductive Text : List Char → String → Prop
  | quoted {ws : List (List Char)} {s : String} : Forall₂ Character ws s.toList →
    Text ('"' :: ws.flatten ++ ['"']) s

def Digits (ds : List Char) : Prop :=
  ds ≠ [] ∧ ∀ d ∈ ds, d.isDigit

inductive Fraction : List Char → Prop
  | absent : Fraction []
  | digits {ds : List Char} : Digits ds → Fraction ('.' :: ds)

inductive Exponent : List Char → Prop
  | absent : Exponent []
  | digits {e : Char} {sign ds : List Char} : (e ∈ ['e', 'E']) → (sign ∈ [[], ['+'], ['-']]) →
    Digits ds → Exponent (e :: sign ++ ds)

-- A number has a value if it is written with digits alone, the first of which is no needless zero.
inductive Number : List Char → Option Nat → Prop
  | natural (n : Nat) : Number (Nat.toDigits 10 n) (some n)
  | other {sign fraction exponent : List Char} {n : Nat} : (sign ∈ [[], ['-']]) →
    Fraction fraction → Exponent exponent → (sign ≠ [] ∨ fraction ≠ [] ∨ exponent ≠ []) →
    Number (sign ++ Nat.toDigits 10 n ++ fraction ++ exponent) none

inductive Padded (V : List Char → α → Prop) : List Char → α → Prop
  | blanks {before w after : List Char} {v : α} : Blanks before → V w v → Blanks after →
    Padded V (before ++ w ++ after) v

inductive Member (V : List Char → Json → Prop) : List Char → String × Json → Prop
  | colon {n w : List Char} {name : String} {v : Json} : Padded Text n name → Padded V w v →
    Member V (n ++ ':' :: w) (name, v)

inductive Value : List Char → Json → Prop
  | null : Value "null".toList .null
  | true : Value "true".toList (.bool Bool.true)
  | false : Value "false".toList (.bool Bool.false)
  | number {w : List Char} {n : Option Nat} : Number w n → Value w (.number n)
  | text {w : List Char} {s : String} : Text w s → Value w (.text s)
  | emptyArray {w : List Char} : Blanks w → Value ('[' :: w ++ [']']) (.array [])
  | array {ws : List (List Char)} {vs : List Json} : Forall₂ (Padded Value) ws vs →
    Value ('[' :: [','].intercalate ws ++ [']']) (.array vs)
  | emptyObject {w : List Char} : Blanks w → Value ('\x7b' :: w ++ ['\x7d']) (record [])
  | object {ws : List (List Char)} {ms : List (String × Json)} : Forall₂ (Member Value) ws ms →
    Value ('\x7b' :: [','].intercalate ws ++ ['\x7d']) (record ms)

def Document (text : List Char) (v : Json) : Prop :=
  Padded Value text v

-- What holds of every value if it holds of those with nothing in them, and of an array or an object
-- if it holds of all that is in it.
@[elab_as_elim]
theorem Value.rec_of_parts {motive : List Char → Json → Prop}
    (null : motive "null".toList .null)
    (true : motive "true".toList (.bool Bool.true))
    (false : motive "false".toList (.bool Bool.false))
    (number : ∀ {w n}, Number w n → motive w (.number n))
    (text : ∀ {w} {s : String}, Text w s → motive w (.text s))
    (emptyArray : ∀ {w}, Blanks w → motive ('[' :: w ++ [']']) (.array []))
    (array : ∀ {ws vs}, Forall₂ (Padded motive) ws vs →
      motive ('[' :: [','].intercalate ws ++ [']']) (.array vs))
    (emptyObject : ∀ {w}, Blanks w → motive ('\x7b' :: w ++ ['\x7d']) (record []))
    (object : ∀ {ws ms}, Forall₂ (Member motive) ws ms →
      motive ('\x7b' :: [','].intercalate ws ++ ['\x7d']) (record ms))
    {w : List Char} {v : Json} (h : Value w v) : motive w v :=
  @Value.rec (fun w v _ => motive w v) (fun ws vs _ => Forall₂ (Padded motive) ws vs)
    (fun ws ms _ => Forall₂ (Member motive) ws ms) (fun w v _ => Padded motive w v)
    (fun w m _ => Member motive w m)
    null true false number text emptyArray (fun _ => array) emptyObject (fun _ => object)
    .nil (fun _ _ => .cons) .nil (fun _ _ => .cons)
    (fun hb _ ha h => .blanks hb h ha) (fun hn _ h => .colon hn h) w v h

theorem padded_of {V : List Char → α → Prop} {w : List Char} {v : α} (h : V w v) :
    Padded V w v := by
  have hb : Blanks [] := nofun
  simpa using Padded.blanks hb h hb

-- What is written is among what may be written.

theorem character_written (c : Char) : Character (Written.character c) c := by
  unfold Written.character
  split
  case h_8 _ hq hb _ _ _ _ _ =>
    split
    case isTrue h  =>
      have hd (n : Nat) (hn : n < 16) : HexDigit (Written.hexDigit n) n := .lower hn
      have he := Escape.digits (hd 0 (by decide)) (hd 0 (by decide)) (hd (c.toNat / 16) (by omega))
        (hd (c.toNat % 16) (by omega))
      have hn : ((0 * 16 + 0) * 16 + c.toNat / 16) * 16 + c.toNat % 16 = c.toNat := by omega
      rw [hn] at he
      exact .escape he
    case isFalse h => exact .plain hq hb (Nat.le_of_not_lt h)
  all_goals exact .letter (by decide)

theorem text_written (s : String) : Text (Written.text s) s :=
  .quoted <| List.forall₂_map_left_iff.mpr <| List.forall₂_same.mpr fun c _ => character_written c

end TokenLifecycle.Json.Grammar
