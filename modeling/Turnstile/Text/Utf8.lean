/-!
# UTF-8

`encode` writes characters as bytes.  `decode?` reads bytes that are exactly such a
form; `decodeLossy` reads any bytes, with one replacement character for each longest
piece that starts a form and does not complete it.
-/

namespace Turnstile.Utf8

/-- The bytes of a character. -/
def encodeChar (c : Char) : List Nat :=
  let n := c.toNat
  if n < 0x80 then [n]
  else if n < 0x800 then [0xC0 + n / 64, 0x80 + n % 64]
  else if n < 0x10000 then [0xE0 + n / 4096, 0x80 + n / 64 % 64, 0x80 + n % 64]
  else [0xF0 + n / 262144, 0x80 + n / 4096 % 64, 0x80 + n / 64 % 64, 0x80 + n % 64]

/-- The bytes of characters. -/
def encode (cs : List Char) : List Nat := cs.flatMap encodeChar

/-- A byte that continues a form. -/
def isTail (b : Nat) : Bool := 0x80 ≤ b && b < 0xC0

/-- A second byte that may follow a first one, without overlong forms and surrogates. -/
def isSecond (first b : Nat) : Bool :=
  isTail b && (first != 0xE0 || 0xA0 ≤ b) && (first != 0xED || b < 0xA0)
    && (first != 0xF0 || 0x90 ≤ b) && (first != 0xF4 || b < 0x90)

/-- The replacement character. -/
def replacement : Char := Char.ofNat 0xFFFD

/-- What a sequence of bytes starts with: a character or a broken piece, and what follows. -/
def step (first : Nat) (rest : List Nat) : Option Char × List Nat :=
  if first < 0x80 then (some (Char.ofNat first), rest)
  else if 0xC2 ≤ first && first < 0xE0 then
    match rest with
    | b :: more =>
      if isSecond first b then (some (Char.ofNat ((first - 0xC0) * 64 + (b - 0x80))), more)
      else (none, rest)
    | [] => (none, rest)
  else if 0xE0 ≤ first && first < 0xF0 then
    match rest with
    | b :: more =>
      if isSecond first b then
        match more with
        | c :: last =>
          if isTail c then
            (some (Char.ofNat ((first - 0xE0) * 4096 + (b - 0x80) * 64 + (c - 0x80))), last)
          else (none, more)
        | [] => (none, more)
      else (none, rest)
    | [] => (none, rest)
  else if 0xF0 ≤ first && first < 0xF5 then
    match rest with
    | b :: more =>
      if isSecond first b then
        match more with
        | c :: further =>
          if isTail c then
            match further with
            | d :: last =>
              if isTail d then
                (some (Char.ofNat ((first - 0xF0) * 262144 + (b - 0x80) * 4096 + (c - 0x80) * 64
                  + (d - 0x80))), last)
              else (none, further)
            | [] => (none, further)
          else (none, more)
        | [] => (none, more)
      else (none, rest)
    | [] => (none, rest)
  else (none, rest)

/-- What follows is no longer than the bytes after the first. -/
theorem length_step_le (first : Nat) (rest : List Nat) : (step first rest).2.length ≤ rest.length := by
  unfold step
  repeat' split
  all_goals simp only [List.length_cons]
  all_goals omega

/-- The characters of bytes, and a gap for each broken piece. -/
def pieces : List Nat → List (Option Char)
  | [] => []
  | first :: rest => (step first rest).1 :: pieces (step first rest).2
termination_by bytes => bytes.length
decreasing_by
  have := length_step_le first rest
  simp only [List.length_cons]
  omega

/-- The characters of bytes; a replacement character for each broken piece. -/
def decodeLossy (bytes : List Nat) : List Char := (pieces bytes).map (·.getD replacement)

/-- The characters of bytes without broken pieces. -/
def decode? (bytes : List Nat) : Option (List Char) := (pieces bytes).mapM id

end Turnstile.Utf8
