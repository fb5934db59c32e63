import Mathlib.Tactic.IntervalCases
import Yola.Text.Json

/-!
# `json.Marshal` on structs of strings, and what `json.Unmarshal` reads back

The round trip replaces invalid UTF-8 and changes nothing else, so the encoding is injective on
valid strings.
-/

namespace Yola.Text

variable {a c : UInt8}

def hexDigit (n : Nat) : UInt8 := if n < 10 then UInt8.ofNat (48 + n) else UInt8.ofNat (87 + n)

/-- The ASCII bytes that stand for themselves, `htmlSafeSet` below `0x80`. -/
def isHtmlSafe (a : UInt8) : Bool := 0x20 ≤ a && a != 0x22 && a != 0x5C && a != 0x3C && a != 0x3E && a != 0x26

def escapeAscii (a : UInt8) : Bytes :=
  if isHtmlSafe a then [a]
  else if a = 0x22 ∨ a = 0x5C then [0x5C, a]
  else if a = 0x08 then [0x5C, 0x62]
  else if a = 0x0C then [0x5C, 0x66]
  else if a = 0x0A then [0x5C, 0x6E]
  else if a = 0x0D then [0x5C, 0x72]
  else if a = 0x09 then [0x5C, 0x74]
  else [0x5C, 0x75, 0x30, 0x30, hexDigit (a.toNat / 16), hexDigit (a.toNat % 16)]

/-- The line and paragraph separators are escaped, every other sequence is copied. -/
def escapeRune : Rune → Bytes
  | .one a => escapeAscii a
  | .bad _ => [0x5C, 0x75, 0x66, 0x66, 0x66, 0x64]
  | .three a b c =>
      if a = 0xE2 ∧ b = 0x80 ∧ c = 0xA8 then [0x5C, 0x75, 0x32, 0x30, 0x32, 0x38]
      else if a = 0xE2 ∧ b = 0x80 ∧ c = 0xA9 then [0x5C, 0x75, 0x32, 0x30, 0x32, 0x39]
      else [a, b, c]
  | .two a b => [a, b]
  | .four a b c d => [a, b, c, d]

def quote (s : Bytes) : Bytes := 0x22 :: ((runes s).flatMap escapeRune ++ [0x22])

def marshalMember (m : Bytes × Bytes) : Bytes := quote m.1 ++ 0x3A :: quote m.2

def marshalMembers : List (Bytes × Bytes) → Bytes
  | [] => [0x7D]
  | [m] => marshalMember m ++ [0x7D]
  | m :: ms => marshalMember m ++ 0x2C :: marshalMembers ms

/-- `json.Marshal` of a struct whose fields are strings. -/
def marshalStrings (ms : List (Bytes × Bytes)) : Bytes := 0x7B :: marshalMembers ms

/-! ## Reading an escaped rune -/

theorem hexValue_hexDigit {n : Nat} (h : n < 16) : hexValue (hexDigit n) = some n := by
  interval_cases n <;> rfl

theorem hex4_control (h : a < 0x80) (rest : Bytes) :
    hex4 (0x30 :: 0x30 :: hexDigit (a.toNat / 16) :: hexDigit (a.toNat % 16) :: rest) = some (a.toNat, rest) := by
  have hlt : a.toNat < 128 := h
  have h0 : hexValue 0x30 = some 0 := rfl
  simp only [hex4, h0, hexValue_hexDigit (show a.toNat / 16 < 16 by omega),
    hexValue_hexDigit (show a.toNat % 16 < 16 by omega), Option.bind_eq_bind, Option.bind_some]
  rw [show 0 * 4096 + 0 * 256 + a.toNat / 16 * 16 + a.toNat % 16 = a.toNat by omega]

theorem encodeRune_ascii (h : a < 0x80) : encodeRune a.toNat = [a] := by
  have hlt : a.toNat < 128 := h
  rw [encodeRune, if_pos hlt, UInt8.ofNat_toNat]

theorem unquote_simpleEscape (n : Nat) {b : UInt8} (hc : c ≠ 0x75)
    (h : simpleEscape c = some b) (rest : Bytes) :
    unquote (n + 1) (0x5C :: c :: rest) = (unquote n rest).map fun p => (b :: p.1, p.2) := by
  simp [unquote, unescape, hc, h]

theorem unquote_unicodeEscape (n : Nat) {text out rest : Bytes} (h : unicodeEscape text = some (out, rest)) :
    unquote (n + 1) (0x5C :: 0x75 :: text) = (unquote n rest).map fun p => (out ++ p.1, p.2) := by
  simp [unquote, unescape, h]

theorem unquote_escapeAscii (n : Nat) (h : a < 0x80) (rest : Bytes) :
    unquote (n + 1) (escapeAscii a ++ rest) = (unquote n rest).map fun p => (a :: p.1, p.2) := by
  unfold escapeAscii
  split
  · rename_i hsafe
    simp only [isHtmlSafe, Bool.and_eq_true, decide_eq_true_eq, bne_iff_ne] at hsafe
    obtain ⟨⟨⟨⟨⟨hlow, hquote⟩, hslash⟩, -⟩, -⟩, -⟩ := hsafe
    have hctl : ¬ a < 0x20 := UInt8.not_lt.mpr hlow
    simp [unquote, hquote, hslash, hctl, nextRune, h, Rune.validBytes, Rune.bytes]
  · split
    · rename_i hself
      rcases hself with rfl | rfl <;> exact unquote_simpleEscape n (by decide) (by rfl) rest
    · split
      · subst a; exact unquote_simpleEscape n (by decide) (by rfl) rest
      · split
        · subst a; exact unquote_simpleEscape n (by decide) (by rfl) rest
        · split
          · subst a; exact unquote_simpleEscape n (by decide) (by rfl) rest
          · split
            · subst a; exact unquote_simpleEscape n (by decide) (by rfl) rest
            · split
              · subst a; exact unquote_simpleEscape n (by decide) (by rfl) rest
              · have hlt : a.toNat < 128 := h
                have hhigh : ¬ (0xD800 ≤ a.toNat ∧ a.toNat < 0xDC00) := by omega
                have hread : unicodeEscape (0x30 :: 0x30 :: hexDigit (a.toNat / 16) ::
                    hexDigit (a.toNat % 16) :: rest) = some ([a], rest) := by
                  simp only [unicodeEscape, hex4_control h, hhigh, if_false, encodeRune_ascii h]
                exact unquote_unicodeEscape n hread

/-- A byte from `0x80` on is none of the bytes a string literal treats specially. -/
theorem unquote_multibyte (n : Nat) (h : ¬ a < 0x80) (text : Bytes) :
    unquote (n + 1) (a :: text) = (unquote n (nextRune a text).2).map
      fun p => ((nextRune a text).1.validBytes ++ p.1, p.2) := by
  have hge : 128 ≤ a.toNat := Nat.not_lt.mp h
  have hquote : a ≠ 0x22 := by rintro rfl; exact absurd hge (by decide)
  have hslash : a ≠ 0x5C := by rintro rfl; exact absurd hge (by decide)
  have hctl : ¬ a < 0x20 := by
    intro hlt
    have hnat : a.toNat < 32 := hlt
    omega
  simp only [unquote, hquote, hslash, hctl, if_false]

theorem unquote_copied (n : Nat) (r : Rune) (hr : r.WellFormed) (hok : r.isBad = false)
    (hone : ∀ a, r ≠ .one a) (rest : Bytes) :
    unquote (n + 1) (r.bytes ++ rest) = (unquote n rest).map fun p => (r.validBytes ++ p.1, p.2) := by
  obtain ⟨a, tail, hbytes, hhigh⟩ : ∃ a tail, r.bytes = a :: tail ∧ ¬ a < 0x80 := by
    cases r with
    | one a => exact absurd rfl (hone a)
    | two a b => exact ⟨a, [b], rfl, hr.1⟩
    | three a b c => exact ⟨a, [b, c], rfl, hr.1⟩
    | four a b c d => exact ⟨a, [b, c, d], rfl, hr.1⟩
    | bad => simp [Rune.isBad] at hok
  have hread := nextRune_of_wellFormed r hr hok a tail rest hbytes
  rw [hbytes, List.cons_append, unquote_multibyte n hhigh, hread]

theorem unquote_escapeRune (n : Nat) (r : Rune) (hr : r.WellFormed) (rest : Bytes) :
    unquote (n + 1) (escapeRune r ++ rest) = (unquote n rest).map fun p => (r.validBytes ++ p.1, p.2) := by
  cases r with
  | one => exact unquote_escapeAscii n hr rest
  | bad => exact unquote_unicodeEscape n (by simp [unicodeEscape, hex4, hexValue, encodeRune]; rfl)
  | two | four => exact unquote_copied n _ hr rfl nofun rest
  | three a b c =>
    dsimp only [escapeRune]
    split_ifs with hline hparagraph
    · obtain ⟨rfl, rfl, rfl⟩ := hline
      exact unquote_unicodeEscape n (by simp [unicodeEscape, hex4, hexValue, encodeRune]; rfl)
    · obtain ⟨rfl, rfl, rfl⟩ := hparagraph
      exact unquote_unicodeEscape n (by simp [unicodeEscape, hex4, hexValue, encodeRune]; rfl)
    · exact unquote_copied n (.three a b c) hr rfl nofun rest

theorem unquote_quoted (s rest : Bytes) (n : Nat) (hn : ((runes s).flatMap escapeRune).length < n) :
    unquote n ((runes s).flatMap escapeRune ++ 0x22 :: rest) = some (toValid s, rest) := by
  induction s using rune_induction generalizing n with
  | nil =>
    obtain ⟨n, rfl⟩ : ∃ k, n = k + 1 := ⟨n - 1, by omega⟩
    rfl
  | cons a tail ih =>
    obtain ⟨n, rfl⟩ : ∃ k, n = k + 1 := ⟨n - 1, by omega⟩
    have hpos : 0 < (escapeRune (nextRune a tail).1).length := by
      cases (nextRune a tail).1 with
      | one a =>
        change 0 < (escapeAscii a).length
        unfold escapeAscii
        split_ifs <;> simp
      | three =>
        dsimp only [escapeRune]
        split_ifs <;> simp
      | _ => simp [escapeRune]
    simp only [runes_cons, List.flatMap_cons, List.length_append] at hn
    rw [toValid, runes_cons, List.flatMap_cons, List.append_assoc,
      unquote_escapeRune n _ (nextRune_wellFormed a tail), ih n (by omega)]
    rfl

/-! ## Round trip -/

theorem quote_append (s rest : Bytes) :
    quote s ++ rest = 0x22 :: ((runes s).flatMap escapeRune ++ 0x22 :: rest) := by
  simp [quote]

theorem unquote_quote (s rest : Bytes) :
    unquote ((runes s).flatMap escapeRune ++ 0x22 :: rest).length
      ((runes s).flatMap escapeRune ++ 0x22 :: rest) = some (toValid s, rest) :=
  unquote_quoted s rest _ (by simp)

theorem skipSpace_cons (h : ¬ (c = 0x20 ∨ c = 0x09 ∨ c = 0x0D ∨ c = 0x0A))
    (rest : Bytes) : skipSpace (c :: rest) = c :: rest := by
  rw [skipSpace, if_neg h]

theorem parseValue_quote (n depth : Nat) (s rest : Bytes) :
    parseValue (n + 1) depth (quote s ++ rest) = some (.str (toValid s), rest) := by
  rw [quote_append, parseValue, skipSpace_cons (by decide)]
  simp only [if_true, unquote_quote, Option.map_some]

/-- The members of an object as they are read back. -/
def readMembers (ms : List (Bytes × Bytes)) : List (Bytes × Json) :=
  ms.map fun m => (toValid m.1, .str (toValid m.2))

theorem parseMembers_last (n depth : Nat) (m : Bytes × Bytes) (rest : Bytes) :
    parseMembers (n + 2) depth (marshalMember m ++ 0x7D :: rest) = some (readMembers [m], rest) := by
  rw [marshalMember, List.append_assoc, quote_append, parseMembers, skipSpace_cons (by decide)]
  simp only [unquote_quote, List.cons_append]
  rw [skipSpace_cons (by decide)]
  simp only [parseValue_quote]
  rw [skipSpace_cons (by decide)]
  rfl

theorem parseMembers_more (n depth : Nat) (m : Bytes × Bytes) (rest : Bytes) :
    parseMembers (n + 2) depth (marshalMember m ++ 0x2C :: rest) =
      (parseMembers (n + 1) depth rest).map fun p => ((toValid m.1, .str (toValid m.2)) :: p.1, p.2) := by
  rw [marshalMember, List.append_assoc, quote_append, parseMembers, skipSpace_cons (by decide)]
  simp only [unquote_quote, List.cons_append]
  rw [skipSpace_cons (by decide)]
  simp only [parseValue_quote]
  rw [skipSpace_cons (by decide)]
  rfl

theorem parseMembers_marshal (depth : Nat) (m : Bytes × Bytes) (ms : List (Bytes × Bytes))
    (n : Nat) (hn : ms.length + 2 ≤ n) :
    parseMembers n depth (marshalMembers (m :: ms)) = some (readMembers (m :: ms), []) := by
  induction ms generalizing m n with
  | nil =>
    obtain ⟨n, rfl⟩ : ∃ k, n = k + 2 := ⟨n - 2, by omega⟩
    exact parseMembers_last n depth m []
  | cons m' ms ih =>
    simp only [List.length_cons] at hn
    obtain ⟨n, rfl⟩ : ∃ k, n = k + 2 := ⟨n - 2, by omega⟩
    rw [marshalMembers, parseMembers_more n depth m, ih m' (n + 1) (by omega)]
    · rfl
    · simp

theorem marshalMembers_length (ms : List (Bytes × Bytes)) : 2 * ms.length < (marshalMembers ms).length := by
  fun_induction marshalMembers ms with
  | case1 => decide
  | case2 m => simp [marshalMember, quote]; omega
  | case3 m ms _ ih => simp [marshalMember, quote] at ih ⊢; omega

theorem marshalMembers_head (m : Bytes × Bytes) (ms : List (Bytes × Bytes)) :
    ∃ rest, marshalMembers (m :: ms) = 0x22 :: rest := by
  cases ms <;> exact ⟨_, rfl⟩

/-- What a marshalled struct reads back as: the same members with invalid UTF-8 replaced. -/
theorem parseJson_marshal (ms : List (Bytes × Bytes)) :
    parseJson (marshalStrings ms) = some (.obj (readMembers ms)) := by
  cases ms with
  | nil => rfl
  | cons m ms =>
    obtain ⟨rest, hhead⟩ := marshalMembers_head m ms
    have hlen := marshalMembers_length (m :: ms)
    simp only [List.length_cons] at hlen
    have hread := parseMembers_marshal 9999 m ms (0x7B :: marshalMembers (m :: ms)).length
      (by simp only [List.length_cons]; omega)
    rw [hhead, List.length_cons, List.length_cons] at hread
    rw [parseJson, marshalStrings, hhead, parseValue, skipSpace_cons (by decide)]
    simp only [maxNestingDepth]
    rw [skipSpace_cons (by decide)]
    simp [hread, skipSpace]

end Yola.Text
