import Yola.Text.Utf8

/-!
# Unpadded URL-safe base64

`base64.RawURLEncoding` writes each group of three bytes as four letters and leaves a shorter last
group unpadded.  Nothing here decodes: what the callers rely on is that two different byte strings
never share a text, and which letters a text can hold.
-/

namespace Yola.Text

/-- The URL-safe alphabet. -/
def base64Letter (n : Nat) : UInt8 :=
  if n < 26 then UInt8.ofNat (65 + n)
  else if n < 52 then UInt8.ofNat (71 + n)
  else if n < 62 then UInt8.ofNat (n - 4)
  else if n = 62 then 45
  else 95

/-- `base64.RawURLEncoding.EncodeToString`. -/
def rawURLEncode : Bytes → Bytes
  | [] => []
  | [a] => [base64Letter (a.toNat / 4), base64Letter (a.toNat % 4 * 16)]
  | [a, b] =>
      [base64Letter (a.toNat / 4), base64Letter (a.toNat % 4 * 16 + b.toNat / 16),
        base64Letter (b.toNat % 16 * 4)]
  | a :: b :: c :: rest =>
      base64Letter (a.toNat / 4) :: base64Letter (a.toNat % 4 * 16 + b.toNat / 16) ::
        base64Letter (b.toNat % 16 * 4 + c.toNat / 64) :: base64Letter (c.toNat % 64) ::
        rawURLEncode rest

theorem base64Letter_toNat {n : Nat} (h : n < 64) :
    (base64Letter n).toNat =
      if n < 26 then 65 + n else if n < 52 then 71 + n else if n < 62 then n - 4
      else if n = 62 then 45 else 95 := by
  unfold base64Letter
  split
  · rw [UInt8.toNat_ofNat']; omega
  · split
    · rw [UInt8.toNat_ofNat']; omega
    · split
      · rw [UInt8.toNat_ofNat']; omega
      · split <;> rfl

theorem base64Letter_inj {m n : Nat} (hm : m < 64) (hn : n < 64)
    (h : base64Letter m = base64Letter n) : m = n := by
  have hnat := congrArg UInt8.toNat h
  rw [base64Letter_toNat hm, base64Letter_toNat hn] at hnat
  split_ifs at hnat <;> omega

/-- One full group is read back from its four letters. -/
theorem base64Group_inj (a b c a' b' c' : UInt8)
    (h1 : base64Letter (a.toNat / 4) = base64Letter (a'.toNat / 4))
    (h2 : base64Letter (a.toNat % 4 * 16 + b.toNat / 16) = base64Letter (a'.toNat % 4 * 16 + b'.toNat / 16))
    (h3 : base64Letter (b.toNat % 16 * 4 + c.toNat / 64) = base64Letter (b'.toNat % 16 * 4 + c'.toNat / 64))
    (h4 : base64Letter (c.toNat % 64) = base64Letter (c'.toNat % 64)) :
    a = a' ∧ b = b' ∧ c = c' := by
  have ha := a.toNat_lt
  have hb := b.toNat_lt
  have hc := c.toNat_lt
  have ha' := a'.toNat_lt
  have hb' := b'.toNat_lt
  have hc' := c'.toNat_lt
  have e1 := base64Letter_inj (by omega) (by omega) h1
  have e2 := base64Letter_inj (by omega) (by omega) h2
  have e3 := base64Letter_inj (by omega) (by omega) h3
  have e4 := base64Letter_inj (by omega) (by omega) h4
  refine ⟨?_, ?_, ?_⟩ <;> apply UInt8.toNat_inj.mp <;> omega

theorem rawURLEncode_length (s : Bytes) : (rawURLEncode s).length = (4 * s.length + 2) / 3 := by
  fun_induction rawURLEncode s with
  | case1 => rfl
  | case2 a | case3 a b => simp
  | case4 a b c rest ih =>
    simp only [List.length_cons, ih]
    omega

theorem mem_rawURLEncode {s : Bytes} {c : UInt8} (h : c ∈ rawURLEncode s) : ∃ n < 64, c = base64Letter n := by
  have hbyte : ∀ a : UInt8, a.toNat < 256 := fun a => a.toNat_lt
  fun_induction rawURLEncode s with
  | case1 => simp at h
  | case2 a =>
    have ha := hbyte a
    simp only [List.mem_cons, List.not_mem_nil, or_false] at h
    rcases h with h | h <;> exact ⟨_, by omega, h⟩
  | case3 a b =>
    have ha := hbyte a
    have hb := hbyte b
    simp only [List.mem_cons, List.not_mem_nil, or_false] at h
    rcases h with h | h | h <;> exact ⟨_, by omega, h⟩
  | case4 a b c' rest ih =>
    have ha := hbyte a
    have hb := hbyte b
    have hc := hbyte c'
    simp only [List.mem_cons] at h
    rcases h with h | h | h | h | h
    iterate 4 exact ⟨_, by omega, h⟩
    exact ih h

-- The text can stand between braces.
theorem brace_notMem_rawURLEncode (s : Bytes) : (125 : UInt8) ∉ rawURLEncode s := by
  intro h
  obtain ⟨n, hn, hc⟩ := mem_rawURLEncode h
  have hnat := congrArg UInt8.toNat hc
  rw [base64Letter_toNat hn] at hnat
  change 125 = _ at hnat
  split_ifs at hnat <;> omega

theorem rawURLEncode_injective : Function.Injective rawURLEncode := by
  intro s t h
  have hlen := congrArg List.length h
  simp only [rawURLEncode_length] at hlen
  fun_induction rawURLEncode s generalizing t with
  | case1 =>
    have ht : t.length = 0 := by simp only [List.length_nil] at hlen; omega
    exact (List.length_eq_zero_iff.mp ht).symm
  | case2 a =>
    have ht : t.length = 1 := by simp only [List.length_cons, List.length_nil] at hlen; omega
    obtain ⟨a', rfl⟩ := List.length_eq_one_iff.mp ht
    simp only [rawURLEncode, List.cons.injEq, and_true] at h
    have ha := a.toNat_lt
    have ha' := a'.toNat_lt
    have e1 := base64Letter_inj (by omega) (by omega) h.1
    have e2 := base64Letter_inj (by omega) (by omega) h.2
    rw [UInt8.toNat_inj.mp (show a.toNat = a'.toNat by omega)]
  | case3 a b =>
    have ht : t.length = 2 := by simp only [List.length_cons, List.length_nil] at hlen; omega
    obtain ⟨a', b', rfl⟩ := List.length_eq_two.mp ht
    simp only [rawURLEncode, List.cons.injEq, and_true] at h
    obtain ⟨rfl, rfl, -⟩ := base64Group_inj a b 0 a' b' 0 h.1 h.2.1 (by simpa using h.2.2) rfl
    rfl
  | case4 a b c rest ih =>
    have ht : 3 ≤ t.length := by simp only [List.length_cons] at hlen; omega
    match t, ht with
    | a' :: b' :: c' :: rest', _ =>
      simp only [rawURLEncode, List.cons.injEq] at h
      obtain ⟨rfl, rfl, rfl⟩ := base64Group_inj a b c a' b' c' h.1 h.2.1 h.2.2.1 h.2.2.2.1
      rw [ih h.2.2.2.2 (congrArg List.length h.2.2.2.2 |> fun e => by
        simpa only [rawURLEncode_length] using e)]

end Yola.Text
