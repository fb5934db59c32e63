import Yola.Text.Utf8

/-!
# `encoding/json` on flat objects of strings

The scanner is strict RFC 8259 with a nesting limit.  Strings are written with the HTML-safe
escapes of `json.Marshal` and read back with invalid UTF-8 replaced.  A struct whose fields are all
strings is filled member by member: a member reaches the field whose name it spells exactly, or else
the one it matches without regard to case; `null` leaves the field alone and any other value that is
not a string is a type error.
-/

namespace Yola.Text

inductive Json where
  | null
  | bool (b : Bool)
  | num (text : Bytes)
  | str (s : Bytes)
  | arr (items : List Json)
  | obj (members : List (Bytes × Json))

/-! ## Strings -/

def hexValue (c : UInt8) : Option Nat :=
  if 48 ≤ c ∧ c ≤ 57 then some (c.toNat - 48)
  else if 97 ≤ c ∧ c ≤ 102 then some (c.toNat - 87)
  else if 65 ≤ c ∧ c ≤ 70 then some (c.toNat - 55)
  else none

/-- Four hexadecimal digits, as after `\u`. -/
def hex4 : Bytes → Option (Nat × Bytes)
  | a :: b :: c :: d :: rest => do
      let w ← hexValue a
      let x ← hexValue b
      let y ← hexValue c
      let z ← hexValue d
      some (w * 4096 + x * 256 + y * 16 + z, rest)
  | _ => none

/-- `utf8.AppendRune`: surrogates and out-of-range values become U+FFFD. -/
def encodeRune (c : Nat) : Bytes :=
  if c < 0x80 then [UInt8.ofNat c]
  else if c < 0x800 then [UInt8.ofNat (0xC0 + c / 64), UInt8.ofNat (0x80 + c % 64)]
  else if 0xD800 ≤ c ∧ c < 0xE000 ∨ 0x10FFFF < c then [0xEF, 0xBF, 0xBD]
  else if c < 0x10000 then
    [UInt8.ofNat (0xE0 + c / 4096), UInt8.ofNat (0x80 + c / 64 % 64), UInt8.ofNat (0x80 + c % 64)]
  else
    [UInt8.ofNat (0xF0 + c / 262144), UInt8.ofNat (0x80 + c / 4096 % 64),
      UInt8.ofNat (0x80 + c / 64 % 64), UInt8.ofNat (0x80 + c % 64)]

/-- The low surrogate that completes a pair, where the text goes on with one. -/
def lowSurrogate : Bytes → Option (Nat × Bytes)
  | 0x5C :: 0x75 :: rest =>
      match hex4 rest with
      | some (v, rest') => if 0xDC00 ≤ v ∧ v < 0xE000 then some (v, rest') else none
      | none => none
  | _ => none

/-- The escapes that stand for one byte. -/
def simpleEscape : UInt8 → Option UInt8
  | 0x22 => some 0x22
  | 0x5C => some 0x5C
  | 0x2F => some 0x2F
  | 0x62 => some 0x08
  | 0x66 => some 0x0C
  | 0x6E => some 0x0A
  | 0x72 => some 0x0D
  | 0x74 => some 0x09
  | _ => none

/-- What follows `\u`; a surrogate without its partner reads as U+FFFD. -/
def unicodeEscape (text : Bytes) : Option (Bytes × Bytes) :=
  match hex4 text with
  | none => none
  | some (u, rest) =>
      if 0xD800 ≤ u ∧ u < 0xDC00 then
        match lowSurrogate rest with
        | some (v, rest') =>
            some (encodeRune (0x10000 + (u - 0xD800) * 1024 + (v - 0xDC00)), rest')
        | none => some (encodeRune u, rest)
      else some (encodeRune u, rest)

/-- What follows a backslash: the bytes it stands for and the text after it. -/
def unescape : Bytes → Option (Bytes × Bytes)
  | [] => none
  | c :: rest =>
      if c = 0x75 then unicodeEscape rest else (simpleEscape c).map fun b => ([b], rest)

/-- The contents of a string literal whose opening quote has been read. -/
def unquote : Nat → Bytes → Option (Bytes × Bytes)
  | 0, _ => none
  | _ + 1, [] => none
  | n + 1, a :: rest =>
      if a = 0x22 then some ([], rest)
      else if a = 0x5C then
        match unescape rest with
        | none => none
        | some (out, rest') => (unquote n rest').map fun p => (out ++ p.1, p.2)
      else if a < 0x20 then none
      else (unquote n (nextRune a rest).2).map fun p => ((nextRune a rest).1.validBytes ++ p.1, p.2)

/-! ## Values -/

def skipSpace : Bytes → Bytes
  | [] => []
  | a :: rest => if a = 0x20 ∨ a = 0x09 ∨ a = 0x0D ∨ a = 0x0A then skipSpace rest else a :: rest

def isDigit (c : UInt8) : Bool := 48 ≤ c && c ≤ 57

def digits (s : Bytes) : Option (Bytes × Bytes) :=
  match s.span isDigit with
  | ([], _) => none
  | (ds, rest) => some (ds, rest)

/-- The integer part: a lone zero or digits without a leading zero. -/
def integerPart : Bytes → Option (Bytes × Bytes)
  | 0x30 :: rest => some ([0x30], rest)
  | s => digits s

def fractionPart : Bytes → Option (Bytes × Bytes)
  | 0x2E :: rest => (digits rest).map fun p => (0x2E :: p.1, p.2)
  | s => some ([], s)

def exponentPart : Bytes → Option (Bytes × Bytes)
  | 0x65 :: 0x2B :: rest => (digits rest).map fun p => (0x65 :: 0x2B :: p.1, p.2)
  | 0x65 :: 0x2D :: rest => (digits rest).map fun p => (0x65 :: 0x2D :: p.1, p.2)
  | 0x65 :: rest => (digits rest).map fun p => (0x65 :: p.1, p.2)
  | 0x45 :: 0x2B :: rest => (digits rest).map fun p => (0x45 :: 0x2B :: p.1, p.2)
  | 0x45 :: 0x2D :: rest => (digits rest).map fun p => (0x45 :: 0x2D :: p.1, p.2)
  | 0x45 :: rest => (digits rest).map fun p => (0x45 :: p.1, p.2)
  | s => some ([], s)

def unsignedNumber (s : Bytes) : Option (Bytes × Bytes) := do
  let (i, s₁) ← integerPart s
  let (f, s₂) ← fractionPart s₁
  let (e, s₃) ← exponentPart s₂
  some (i ++ f ++ e, s₃)

def number : Bytes → Option (Bytes × Bytes)
  | 0x2D :: rest => (unsignedNumber rest).map fun p => (0x2D :: p.1, p.2)
  | s => unsignedNumber s

/-- `literal word v s`: the keyword `word` at the front of `s` as the value `v`. -/
def literal (word : Bytes) (v : Json) (s : Bytes) : Option (Json × Bytes) :=
  if word.isPrefixOf s then some (v, s.drop word.length) else none

-- Every recursive call stands behind at least one byte read, so the length of the text is fuel
-- enough; `depth` is the nesting the scanner still allows.
mutual

def parseValue : Nat → Nat → Bytes → Option (Json × Bytes)
  | 0, _, _ => none
  | n + 1, depth, s =>
      match skipSpace s with
      | [] => none
      | c :: rest =>
          if c = 0x22 then (unquote rest.length rest).map fun p => (.str p.1, p.2)
          else if c = 0x7B then
            match depth with
            | 0 => none
            | depth + 1 =>
                match skipSpace rest with
                | 0x7D :: rest' => some (.obj [], rest')
                | rest' => (parseMembers n depth rest').map fun p => (.obj p.1, p.2)
          else if c = 0x5B then
            match depth with
            | 0 => none
            | depth + 1 =>
                match skipSpace rest with
                | 0x5D :: rest' => some (.arr [], rest')
                | rest' => (parseItems n depth rest').map fun p => (.arr p.1, p.2)
          else if c = 0x74 then literal (utf8 "true") (.bool true) (c :: rest)
          else if c = 0x66 then literal (utf8 "false") (.bool false) (c :: rest)
          else if c = 0x6E then literal (utf8 "null") .null (c :: rest)
          else (number (c :: rest)).map fun p => (.num p.1, p.2)

def parseItems : Nat → Nat → Bytes → Option (List Json × Bytes)
  | 0, _, _ => none
  | n + 1, depth, s =>
      match parseValue n depth s with
      | none => none
      | some (v, rest) =>
          match skipSpace rest with
          | 0x2C :: rest' => (parseItems n depth rest').map fun p => (v :: p.1, p.2)
          | 0x5D :: rest' => some ([v], rest')
          | _ => none

def parseMembers : Nat → Nat → Bytes → Option (List (Bytes × Json) × Bytes)
  | 0, _, _ => none
  | n + 1, depth, s =>
      match skipSpace s with
      | 0x22 :: rest =>
          match unquote rest.length rest with
          | none => none
          | some (key, rest') =>
              match skipSpace rest' with
              | 0x3A :: rest'' =>
                  match parseValue n depth rest'' with
                  | none => none
                  | some (v, rest₃) =>
                      match skipSpace rest₃ with
                      | 0x2C :: rest₄ =>
                          (parseMembers n depth rest₄).map fun p => ((key, v) :: p.1, p.2)
                      | 0x7D :: rest₄ => some ([(key, v)], rest₄)
                      | _ => none
              | _ => none
      | _ => none

end

/-- The scanner's `maxNestingDepth`. -/
def maxNestingDepth : Nat := 10000

def parseJson (s : Bytes) : Option Json :=
  match parseValue (s.length + 1) maxNestingDepth s with
  | some (v, rest) => if skipSpace rest = [] then some v else none
  | none => none

/-! ## Structs of strings -/

/-- `foldName`: two names match without regard to case when their folded runes agree.  Only the
long s and the Kelvin sign fold to an ASCII letter from outside ASCII. -/
def foldRune (r : Rune) : Nat :=
  let c := r.code
  if 97 ≤ c ∧ c ≤ 122 then c - 32
  else if c = 0x17F then 83
  else if c = 0x212A then 75
  else c

def foldName (s : Bytes) : List Nat := (runes s).map foldRune

/-- The field a member name reaches, an exact spelling first. -/
def matchField (names : List Bytes) (key : Bytes) : Option Bytes :=
  if key ∈ names then some key else names.find? fun name => foldName name = foldName key

/-- One member stored into the struct; `none` is an `UnmarshalTypeError`. -/
def storeMember (names : List Bytes) (fields : Bytes → Bytes) (m : Bytes × Json) : Option (Bytes → Bytes) :=
  match matchField names m.1 with
  | none => some fields
  | some name =>
      match m.2 with
      | .str s => some fun f => if f = name then s else fields f
      | .null => some fields
      | _ => none

/-- `json.Unmarshal` into a fresh struct of string fields. -/
def unmarshalStrings (names : List Bytes) (raw : Bytes) : Option (Bytes → Bytes) :=
  match parseJson raw with
  | some (.obj members) => members.foldlM (storeMember names) fun _ => []
  | some .null => some fun _ => []
  | _ => none

end Yola.Text
