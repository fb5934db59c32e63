import Mathlib.Data.List.Basic

/-!
# Byte strings and their UTF-8 reading

Strings of the modelled languages are byte sequences with no promise about their contents.  A
reader splits them into runes: a well-formed UTF-8 sequence is one rune, and every byte that starts
none is a rune of its own that stands for the replacement character U+FFFD.
-/

namespace Yola.Text

abbrev Bytes := List UInt8

def utf8 (s : String) : Bytes := s.toList.flatMap String.utf8EncodeChar

def isTail (b : UInt8) : Bool := 0x80 ≤ b && b ≤ 0xBF

def isTwo (a b : UInt8) : Bool := 0xC2 ≤ a && a ≤ 0xDF && isTail b

/-- Three-byte sequences: `E0` forbids overlong forms and `ED` forbids surrogates. -/
def isThree (a b c : UInt8) : Bool :=
  (a == 0xE0 && 0xA0 ≤ b && b ≤ 0xBF || 0xE1 ≤ a && a ≤ 0xEC && isTail b ||
    a == 0xED && 0x80 ≤ b && b ≤ 0x9F ||
    0xEE ≤ a && a ≤ 0xEF && isTail b) && isTail c

/-- Four-byte sequences: `F0` forbids overlong forms and `F4` stops at U+10FFFF. -/
def isFour (a b c d : UInt8) : Bool :=
  (a == 0xF0 && 0x90 ≤ b && b ≤ 0xBF || 0xF1 ≤ a && a ≤ 0xF3 && isTail b ||
    a == 0xF4 && 0x80 ≤ b && b ≤ 0x8F) && isTail c && isTail d

/-- One step of a UTF-8 reader. -/
inductive Rune where
  | one (a : UInt8)
  | two (a b : UInt8)
  | three (a b c : UInt8)
  | four (a b c d : UInt8)
  | bad (a : UInt8)
deriving DecidableEq

def nextRune (a : UInt8) (rest : Bytes) : Rune × Bytes :=
  if a < 0x80 then (.one a, rest)
  else match rest with
    | [] => (.bad a, rest)
    | b :: rest₂ =>
      if isTwo a b then (.two a b, rest₂)
      else match rest₂ with
        | [] => (.bad a, rest)
        | c :: rest₃ =>
          if isThree a b c then (.three a b c, rest₃)
          else match rest₃ with
            | [] => (.bad a, rest)
            | d :: rest₄ =>
              if isFour a b c d then (.four a b c d, rest₄) else (.bad a, rest)

namespace Rune

/-- The bytes the reader consumed. -/
def bytes : Rune → Bytes
  | .one a => [a]
  | .two a b => [a, b]
  | .three a b c => [a, b, c]
  | .four a b c d => [a, b, c, d]
  | .bad a => [a]

def isBad : Rune → Bool
  | .bad _ => true
  | _ => false

/-- The code point, U+FFFD for a byte that starts no sequence. -/
def code : Rune → Nat
  | .one a => a.toNat
  | .two a b => (a.toNat % 32) * 64 + b.toNat % 64
  | .three a b c => (a.toNat % 16) * 4096 + (b.toNat % 64) * 64 + c.toNat % 64
  | .four a b c d =>
      (a.toNat % 8) * 262144 + (b.toNat % 64) * 4096 + (c.toNat % 64) * 64 + d.toNat % 64
  | .bad _ => 0xFFFD

/-- What the rune contributes to a string that holds valid UTF-8 only. -/
def validBytes : Rune → Bytes
  | .bad _ => [0xEF, 0xBF, 0xBD]
  | r => r.bytes

/-- The rune is what a reader finds at its own bytes. -/
def WellFormed : Rune → Prop
  | .one a => a < 0x80
  | .two a b => ¬ a < 0x80 ∧ isTwo a b
  | .three a b c => ¬ a < 0x80 ∧ ¬ isTwo a b ∧ isThree a b c
  | .four a b c d => ¬ a < 0x80 ∧ ¬ isTwo a b ∧ ¬ isThree a b c ∧ isFour a b c d
  | .bad a => ¬ a < 0x80

end Rune

theorem nextRune_wellFormed (a : UInt8) (rest : Bytes) : (nextRune a rest).1.WellFormed := by
  unfold nextRune
  split
  · assumption
  · split
    · assumption
    · split
      · exact ⟨by assumption, by assumption⟩
      · split
        · assumption
        · split
          · exact ⟨by assumption, by assumption, by assumption⟩
          · split
            · assumption
            · split
              · exact ⟨by assumption, by assumption, by assumption, by assumption⟩
              · assumption

theorem nextRune_append (a : UInt8) (rest : Bytes) :
    (nextRune a rest).1.bytes ++ (nextRune a rest).2 = a :: rest := by
  unfold nextRune
  split
  · rfl
  · split
    · rfl
    · split
      · rfl
      · split
        · rfl
        · split
          · rfl
          · split
            · rfl
            · split <;> rfl

theorem nextRune_length_le (a : UInt8) (rest : Bytes) : (nextRune a rest).2.length ≤ rest.length := by
  have happ := congrArg List.length (nextRune_append a rest)
  have hpos : 0 < (nextRune a rest).1.bytes.length := by
    cases (nextRune a rest).1 <;> simp [Rune.bytes]
  simp only [List.length_append, List.length_cons] at happ
  omega

theorem nextRune_of_wellFormed (r : Rune) (h : r.WellFormed) (hok : r.isBad = false)
    (a : UInt8) (tail rest : Bytes) (hr : r.bytes = a :: tail) :
    nextRune a (tail ++ rest) = (r, rest) := by
  cases r with
  | one =>
    simp only [Rune.bytes, List.cons.injEq] at hr
    obtain ⟨rfl, rfl⟩ := hr
    simp only [Rune.WellFormed] at h
    simp [nextRune, h]
  | two =>
    simp only [Rune.bytes, List.cons.injEq] at hr
    obtain ⟨rfl, rfl⟩ := hr
    obtain ⟨h1, h2⟩ := h
    simp [nextRune, h1, h2]
  | three =>
    simp only [Rune.bytes, List.cons.injEq] at hr
    obtain ⟨rfl, rfl⟩ := hr
    obtain ⟨h1, h2, h3⟩ := h
    simp [nextRune, h1, h2, h3]
  | four =>
    simp only [Rune.bytes, List.cons.injEq] at hr
    obtain ⟨rfl, rfl⟩ := hr
    obtain ⟨h1, h2, h3, h4⟩ := h
    simp [nextRune, h1, h2, h3, h4]
  | bad => simp [Rune.isBad] at hok

def runesAux : Nat → Bytes → List Rune
  | 0, _ => []
  | _ + 1, [] => []
  | n + 1, a :: rest => (nextRune a rest).1 :: runesAux n (nextRune a rest).2

def runes (s : Bytes) : List Rune := runesAux s.length s

theorem runesAux_eq_of_length_le {n m : Nat} {s : Bytes} (hn : s.length ≤ n) (hm : s.length ≤ m) :
    runesAux n s = runesAux m s := by
  induction n generalizing m s with
  | zero =>
    have hs : s = [] := List.length_eq_zero_iff.mp (by omega)
    subst hs
    cases m <;> rfl
  | succ n ih =>
    cases s with
    | nil => cases m <;> rfl
    | cons a rest =>
      simp only [List.length_cons] at hn hm
      obtain ⟨m, rfl⟩ : ∃ k, m = k + 1 := ⟨m - 1, by omega⟩
      have hlen := nextRune_length_le a rest
      simp only [runesAux, ih (show (nextRune a rest).2.length ≤ n by omega)
        (show (nextRune a rest).2.length ≤ m by omega)]

theorem runes_cons (a : UInt8) (rest : Bytes) :
    runes (a :: rest) = (nextRune a rest).1 :: runes (nextRune a rest).2 := by
  change (nextRune a rest).1 :: runesAux rest.length (nextRune a rest).2 = _
  rw [runes, runesAux_eq_of_length_le (nextRune_length_le a rest) (Nat.le_refl _)]

/-- Induction along the runes of a byte string. -/
theorem rune_induction {P : Bytes → Prop} (nil : P [])
    (cons : ∀ a rest, P (nextRune a rest).2 → P (a :: rest)) (s : Bytes) : P s := by
  induction hn : s.length using Nat.strongRecOn generalizing s with
  | ind n ih =>
    cases s with
    | nil => exact nil
    | cons a rest =>
      simp only [List.length_cons] at hn
      have hlen := nextRune_length_le a rest
      exact cons a rest (ih _ (by omega) _ rfl)

/-- `utf8.ValidString`. -/
def validString (s : Bytes) : Bool := (runes s).all (fun r => !r.isBad)

/-- The string with every bad byte replaced by U+FFFD. -/
def toValid (s : Bytes) : Bytes := (runes s).flatMap Rune.validBytes

theorem toValid_eq_self {s : Bytes} (h : validString s = true) : toValid s = s := by
  induction s using rune_induction with
  | nil => rfl
  | cons a rest ih =>
    simp only [validString, runes_cons, List.all_cons, Bool.and_eq_true] at h
    have hrest : toValid (nextRune a rest).2 = (nextRune a rest).2 := ih h.2
    have hok : (nextRune a rest).1.validBytes = (nextRune a rest).1.bytes := by
      have hb := h.1
      cases hr : (nextRune a rest).1 <;> simp_all [Rune.isBad, Rune.validBytes]
    simp only [toValid] at hrest
    rw [toValid, runes_cons, List.flatMap_cons, hok, hrest, nextRune_append]

theorem toValid_ne_nil {s : Bytes} (h : s ≠ []) : toValid s ≠ [] := by
  cases s with
  | nil => exact absurd rfl h
  | cons a rest =>
    rw [toValid, runes_cons, List.flatMap_cons]
    cases (nextRune a rest).1 <;> simp [Rune.validBytes, Rune.bytes]

end Yola.Text
