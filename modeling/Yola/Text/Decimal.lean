import Yola.Text.Utf8

/-! Decimal numerals, as integers travel in command arguments. -/

namespace Yola.Text

def formatNat (n : Nat) : Bytes := (Nat.toDigits 10 n).flatMap String.utf8EncodeChar

def formatInt (n : Int) : Bytes :=
  if n < 0 then 45 :: formatNat n.natAbs else formatNat n.natAbs

def isDecimalDigit (b : UInt8) : Bool := 48 ≤ b && b ≤ 57

def parseNat (s : Bytes) : Option Nat :=
  if s ≠ [] ∧ s.all isDecimalDigit then some (s.foldl (fun n b => 10 * n + (b.toNat - 48)) 0)
  else none

theorem utf8EncodeChar_digit {c : Char} (h : c.isDigit) :
    String.utf8EncodeChar c = [UInt8.ofNat c.toNat] ∧ 48 ≤ c.toNat ∧ c.toNat ≤ 57 := by
  have hbnd : 48 ≤ c.toNat ∧ c.toNat ≤ 57 := by
    simpa [Char.isDigit, UInt32.le_iff_toNat_le] using h
  refine ⟨?_, hbnd⟩
  have hone : c.toNat ≤ 127 := by omega
  simp [String.utf8EncodeChar, hone]

/-- The digits of a numeral as bytes, one for each character. -/
theorem foldl_digits (cs : List Char) (h : ∀ c ∈ cs, c.isDigit) (init : Nat) :
    (cs.flatMap String.utf8EncodeChar).all isDecimalDigit = true ∧
      (cs.flatMap String.utf8EncodeChar).foldl (fun n b => 10 * n + (b.toNat - 48)) init =
        Nat.ofDigitChars 10 cs init := by
  induction cs generalizing init with
  | nil => exact ⟨rfl, by simp⟩
  | cons c cs ih =>
    obtain ⟨hc, hlo, hhi⟩ := utf8EncodeChar_digit (h c (by simp))
    have hnat : (UInt8.ofNat c.toNat).toNat = c.toNat := by rw [UInt8.toNat_ofNat']; omega
    have hrest := ih (fun d hd => h d (by simp [hd])) (10 * init + (c.toNat - 48))
    refine ⟨?_, ?_⟩
    · rw [List.flatMap_cons, hc, List.singleton_append, List.all_cons, hrest.1, Bool.and_true]
      simp only [isDecimalDigit, UInt8.le_iff_toNat_le, hnat, Bool.and_eq_true, decide_eq_true_eq]
      exact ⟨hlo, hhi⟩
    · rw [List.flatMap_cons, hc, List.singleton_append, List.foldl_cons, hnat, hrest.2,
        Nat.ofDigitChars_cons]
      rfl

theorem parseNat_formatNat (n : Nat) : parseNat (formatNat n) = some n := by
  have hdigit : ∀ c ∈ Nat.toDigits 10 n, c.isDigit := fun c hc =>
    Nat.isDigit_of_mem_toDigits (by omega) (by omega) hc
  have hfold := foldl_digits (Nat.toDigits 10 n) hdigit 0
  have hne : formatNat n ≠ [] := by
    obtain ⟨c, cs, hcs⟩ := List.exists_cons_of_ne_nil (Nat.toDigits_ne_nil (n := n) (b := 10))
    have hc := (utf8EncodeChar_digit (hdigit c (by simp [hcs]))).1
    rw [formatNat, hcs, List.flatMap_cons, hc]
    simp
  rw [parseNat, if_pos ⟨hne, hfold.1⟩, formatNat, hfold.2, Nat.ofDigitChars_ten_toDigits]

theorem parseNat_formatInt {n : Int} (h : 0 ≤ n) : parseNat (formatInt n) = some n.toNat := by
  rw [formatInt, if_neg (by omega), parseNat_formatNat]
  congr 1
  omega

end Yola.Text
