import TokenLifecycle.Text.Segments
import TokenLifecycle.Text.Utf8

namespace TokenLifecycle.Utf8

variable {n i : Nat} {cs p g : List Char}

-- The characters of a text, each with the place of its first byte. The first one is at `i`.
def placesFrom (i : Nat) : List Char → List (Nat × Char)
  | []      => []
  | c :: cs => (i, c) :: placesFrom (i + c.utf8Size) cs

def places (cs : List Char) : List (Nat × Char) :=
  placesFrom 0 cs

-- The number of bytes of a text.
def size (cs : List Char) : Nat :=
  (encode cs).length

-- The text of the first bytes, and that of the others. There is none if there are not so many, or
-- if a character would be cut in two.

def before? (n : Nat) (cs : List Char) : Option (List Char) :=
  if n ≤ size cs then decode? ((encode cs).take n) else none

def after? (n : Nat) (cs : List Char) : Option (List Char) :=
  if n ≤ size cs then decode? ((encode cs).drop n) else none

@[simp]
theorem size_nil : size [] = 0 :=
  rfl

@[simp]
theorem size_cons (c : Char) (cs : List Char) : size (c :: cs) = c.utf8Size + size cs := by
  rw [size, encode, List.flatMap_cons, List.length_append, String.length_utf8EncodeChar]
  rfl

@[simp]
theorem size_append (p g : List Char) : size (p ++ g) = size p + size g := by
  rw [size, encode_append, List.length_append]
  rfl

theorem length_le_size (cs : List Char) : cs.length ≤ size cs := by
  induction cs
  case nil => exact Nat.le_refl 0
  case cons c cs hi =>
    have := c.utf8Size_pos
    rw [List.length_cons, size_cons]
    omega

theorem placesFrom_append (i : Nat) (p g : List Char) :
    placesFrom i (p ++ g) = placesFrom i p ++ placesFrom (i + size p) g := by
  induction p generalizing i
  case nil          => rfl
  case cons c cs hi =>
    rw [List.cons_append, placesFrom, hi, size_cons, Nat.add_assoc]
    rfl

theorem getElem?_placesFrom (i n : Nat) (cs : List Char) :
    (placesFrom i cs)[n]? = cs[n]?.map fun c => (i + size (cs.take n), c) := by
  induction cs generalizing i n
  case nil          => rfl
  case cons c cs hi =>
    cases n
    case zero   => rfl
    case succ n =>
      rw [placesFrom, List.getElem?_cons_succ, hi, List.getElem?_cons_succ, List.take_succ_cons,
        size_cons, Nat.add_assoc]

theorem snd_mem_of_mem_placesFrom {x : Nat × Char} (h : x ∈ placesFrom i cs) : x.2 ∈ cs := by
  induction cs generalizing i
  case nil          => cases h
  case cons c cs hi =>
    cases h
    case head   => exact .head _
    case tail h => exact .tail _ <| hi h

theorem before?_append (p g : List Char) : before? (size p) (p ++ g) = some p := by
  rw [before?, if_pos (by simp), encode_append, size, List.take_left, decode?_encode]

theorem after?_append (p g : List Char) : after? (size p) (p ++ g) = some g := by
  rw [after?, if_pos (by simp), encode_append, size, List.drop_left, decode?_encode]

-- What is cut off is as long as it was meant to be.
theorem size_of_before?_eq_some (h : before? n cs = some p) : size p = n := by
  unfold before? at h
  split at h
  case isTrue hn =>
    rw [size, encode_of_decode?_eq_some h, List.length_take]
    exact Nat.min_eq_left hn
  case isFalse   => cases h

-- The last dot is the first one from the end, and it takes up one byte.

theorem find?_places_of_not_mem (i : Nat) (h : '.' ∉ g) :
    (placesFrom i g).reverse.find? (·.2 = '.') = none := by
  refine List.find?_eq_none.mpr fun x hx => ?_
  have hm := snd_mem_of_mem_placesFrom <| List.mem_reverse.mp hx
  have hd : x.2 ≠ '.' := fun he => h (he ▸ hm)
  simpa using hd

theorem find?_places_append_dot (p : List Char) (h : '.' ∉ g) :
    (places (p ++ '.' :: g)).reverse.find? (·.2 = '.') = some (size p, '.') := by
  rw [places, placesFrom_append, placesFrom, List.reverse_append, List.reverse_cons,
    List.append_assoc, List.find?_append, find?_places_of_not_mem _ h, Option.none_or,
    List.singleton_append, List.find?_cons_of_pos (by rfl), Nat.zero_add]

theorem size_append_dot (p : List Char) : size (p ++ ['.']) = size p + 1 :=
  size_append p ['.']

theorem before?_append_dot (p g : List Char) :
    before? (size p + 1) (p ++ '.' :: g) = some (p ++ ['.']) := by
  rw [← size_append_dot, List.append_cons p '.' g, before?_append]

theorem after?_append_dot (p g : List Char) : after? (size p + 1) (p ++ '.' :: g) = some g := by
  rw [← size_append_dot, List.append_cons p '.' g, after?_append]

-- The parts of a text between its dots, from the last one to the first, cut out of its bytes. No
-- more parts are made than were asked for, and the last of them is all that is left.
def partsFromEnd? : Nat → List Char → Option (List (List Char))
  | 0,     _  => some []
  | 1,     cs => some [cs]
  | n + 2, cs =>
    match (places cs).reverse.find? (·.2 = '.') with
    | none        => some [cs]
    | some (i, _) => do return (← after? (i + 1) cs) :: (← partsFromEnd? (n + 1) <| ← before? i cs)

theorem partsFromEnd?_of_not_mem (n : Nat) (h : '.' ∉ cs) :
    partsFromEnd? (n + 1) cs = some [cs] := by
  cases n
  case zero   => rfl
  case succ n => rw [partsFromEnd?, places, find?_places_of_not_mem 0 h]

theorem partsFromEnd?_append_dot (n : Nat) (p : List Char) (h : '.' ∉ g) :
    partsFromEnd? (n + 2) (p ++ '.' :: g) = (partsFromEnd? (n + 1) p).map (g :: ·) := by
  rw [partsFromEnd?, find?_places_append_dot p h, Option.map_eq_bind]
  simp only [after?_append_dot, before?_append, Option.bind_eq_bind, Option.bind_some]
  rfl

-- What stands before the last dot and what stands behind it, if there is one.
def cutAtLastDot? (cs : List Char) : Option (Option (List Char × List Char)) := do
  match ← partsFromEnd? 2 cs with
  | [g, p] => return some (p, g)
  | _      => return none

theorem cutAtLastDot?_of_not_mem (h : '.' ∉ cs) : cutAtLastDot? cs = some none := by
  rw [cutAtLastDot?, partsFromEnd?_of_not_mem 1 h]
  rfl

theorem cutAtLastDot?_append_dot (p : List Char) (h : '.' ∉ g) :
    cutAtLastDot? (p ++ '.' :: g) = some (some (p, g)) := by
  rw [cutAtLastDot?, partsFromEnd?_append_dot 0 p h]
  rfl

end TokenLifecycle.Utf8
