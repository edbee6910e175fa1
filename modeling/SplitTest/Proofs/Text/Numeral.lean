import SplitTest.Text.Ascii
import SplitTest.Text.Numeral
import Mathlib.Data.List.Basic

/-!
# Numerals that are read back

A number that is written in a base is read as itself (`natural?_toDigits`), so no two numbers
have one numeral.  What is read is never empty and has digits only
(`digits_of_natural?`), which tells numerals from the signs that stand beside them.
-/

namespace SplitTest.Text
variable {base bound n d : Nat} {c : Char} {s t : List Char}

/-! ## Digits -/

/-- A digit is one in every base that has its value. -/
theorem digit?_of_lt {base' : Nat} (h : digit? base c = some d) (hd : d < base') :
    digit? base' c = some d := by
  rw [digit?, Option.filter_eq_some_iff] at h ⊢
  exact ⟨h.1, decide_eq_true hd⟩

theorem lt_of_digit? (h : digit? base c = some d) : d < base :=
  of_decide_eq_true (Option.filter_eq_some_iff.mp h).2

theorem digit?_digitChar (hd : d < base) (hbase : base ≤ 16) :
    digit? base d.digitChar = some d := by
  have hsixteen : ∀ d < 16, digit? 16 (Nat.digitChar d) = some d := by decide
  exact digit?_of_lt (hsixteen d (Nat.lt_of_lt_of_le hd hbase)) hd

theorem isDigit_eq_true_iff : isDigit c = true ↔ ∃ d, digit? 10 c = some d :=
  Option.isSome_iff_exists

theorem isHexDigit_eq_true_iff : isHexDigit c = true ↔ ∃ d, digit? 16 c = some d :=
  Option.isSome_iff_exists

theorem isHexDigit_of_isDigit (h : isDigit c = true) : isHexDigit c = true := by
  obtain ⟨d, hd⟩ := isDigit_eq_true_iff.mp h
  have hlt := lt_of_digit? hd
  exact isHexDigit_eq_true_iff.mpr ⟨d, digit?_of_lt hd (by omega)⟩

/-- A letter is the same digit in either case. -/
theorem isHexDigit_foldAscii (c : Char) : isHexDigit (foldAscii c) = isHexDigit c := by
  by_cases hupper : 'A' ≤ c ∧ c ≤ 'Z'
  · have hletters : ∀ n < 91, 65 ≤ n →
        isHexDigit (foldAscii (Char.ofNat n)) = isHexDigit (Char.ofNat n) := by decide
    have hlt : c.toNat < 91 := Nat.lt_succ_of_le hupper.2
    have hcode := hletters c.toNat hlt hupper.1
    rwa [Char.ofNat_toNat] at hcode
  · rw [foldAscii, if_neg hupper]

/-! ## Reading -/

theorem digitsOnto?_append (acc : Nat) (s t : List Char) :
    digitsOnto? base acc (s ++ t) =
      (digitsOnto? base acc s).bind fun n => digitsOnto? base n t := by
  induction s generalizing acc with
  | nil => rfl
  | cons c s ih =>
    rw [List.cons_append, digitsOnto?, digitsOnto?, Option.bind_assoc]
    exact Option.bind_congr fun d _ => ih (acc * base + d)

theorem digits_of_digitsOnto? {acc : Nat} (h : digitsOnto? base acc s = some n) :
    ∀ c ∈ s, ∃ d, digit? base c = some d := by
  induction s generalizing acc with
  | nil => rintro c ⟨⟩
  | cons c s ih =>
    obtain ⟨d, hd, hrest⟩ := Option.bind_eq_some_iff.mp h
    exact List.forall_mem_cons.mpr ⟨⟨d, hd⟩, ih hrest⟩

/-- **A numeral is a non-empty text of digits.** -/
theorem digits_of_natural? (h : natural? base s = some n) :
    s ≠ [] ∧ ∀ c ∈ s, ∃ d, digit? base c = some d := by
  rw [natural?] at h
  split at h
  · cases h
  · next hne => exact ⟨fun e => hne (List.isEmpty_iff.mpr e), digits_of_digitsOnto? h⟩

theorem unsigned?_of_not_mem (h : '+' ∉ s) :
    unsigned? base bound s = (natural? base s).filter (· < bound) := by
  rw [unsigned?]
  rintro rest rfl
  exact h List.mem_cons_self

/-- A number below a bound may have a plus sign. -/
theorem digits_of_unsigned? (h : unsigned? base bound s = some n) :
    s ≠ [] ∧ ∀ c ∈ s, c = '+' ∨ ∃ d, digit? base c = some d := by
  unfold unsigned? at h
  obtain ⟨hread, -⟩ := Option.filter_eq_some_iff.mp h
  split at hread
  · next rest =>
    obtain ⟨-, hdigits⟩ := digits_of_natural? hread
    exact ⟨List.cons_ne_nil _ _, List.forall_mem_cons.mpr
      ⟨Or.inl rfl, fun c hc => Or.inr (hdigits c hc)⟩⟩
  · obtain ⟨hne, hdigits⟩ := digits_of_natural? hread
    exact ⟨hne, fun c hc => Or.inr (hdigits c hc)⟩

theorem lt_of_unsigned? (h : unsigned? base bound s = some n) : n < bound :=
  of_decide_eq_true (Option.filter_eq_some_iff.mp h).2

/-! ## Reading what was written -/

theorem mem_toDigits (hbase : 1 < base) (n : Nat) :
    ∀ c ∈ Nat.toDigits base n, ∃ d < base, c = Nat.digitChar d := by
  induction n using Nat.strongRecOn with
  | ind n ih =>
    intro c hc
    rw [Nat.toDigits_eq_if hbase] at hc
    split at hc
    · next hlt => exact ⟨n, hlt, List.mem_singleton.mp hc⟩
    · next hge =>
      rcases List.mem_append.mp hc with hc | hc
      · exact ih (n / base) (Nat.div_lt_self (by omega) hbase) c hc
      · exact ⟨n % base, Nat.mod_lt n (by omega), List.mem_singleton.mp hc⟩

theorem digitsOnto?_toDigits (hbase : 1 < base) (hle : base ≤ 16) (n : Nat) :
    digitsOnto? base 0 (Nat.toDigits base n) = some n := by
  -- one digit comes off the end at a time
  induction n using Nat.strongRecOn with
  | ind n ih =>
    rw [Nat.toDigits_eq_if hbase]
    split
    · next hlt => simp [digitsOnto?, digit?_digitChar hlt hle]
    · next hge =>
      rw [digitsOnto?_append, ih (n / base) (Nat.div_lt_self (by omega) hbase), Option.bind_some,
        digitsOnto?, digit?_digitChar (Nat.mod_lt n (by omega)) hle, Option.bind_some,
        digitsOnto?, Nat.div_add_mod']

/-- **A number that was written is read as itself.** -/
theorem natural?_toDigits (hbase : 1 < base) (hle : base ≤ 16) (n : Nat) :
    natural? base (Nat.toDigits base n) = some n := by
  rw [natural?, if_neg, digitsOnto?_toDigits hbase hle]
  rw [List.isEmpty_iff]
  exact Nat.toDigits_ne_nil

theorem toDigits_injective (hbase : 1 < base) (hle : base ≤ 16) :
    Function.Injective (Nat.toDigits base) := by
  intro m n h
  have hm := natural?_toDigits hbase hle m
  rw [h, natural?_toDigits hbase hle n] at hm
  exact (Option.some.inj hm).symm

theorem decimal_injective : Function.Injective decimal :=
  toDigits_injective (by decide) (by decide)

theorem hexadecimal_injective : Function.Injective hexadecimal :=
  toDigits_injective (by decide) (by decide)

theorem isDigit_of_mem_decimal (h : c ∈ decimal n) : isDigit c = true := by
  obtain ⟨d, hd, rfl⟩ := mem_toDigits (by decide) n c h
  exact isDigit_eq_true_iff.mpr ⟨d, digit?_digitChar hd (by decide)⟩

theorem isHexDigit_of_mem_hexadecimal (h : c ∈ hexadecimal n) : isHexDigit c = true := by
  obtain ⟨d, hd, rfl⟩ := mem_toDigits (by decide) n c h
  exact isHexDigit_eq_true_iff.mpr ⟨d, digit?_digitChar hd (by decide)⟩

theorem unsigned?_decimal (h : n < bound) : unsigned? 10 bound (decimal n) = some n := by
  have hplus : '+' ∉ decimal n := fun hmem => absurd (isDigit_of_mem_decimal hmem) (by decide)
  rw [unsigned?_of_not_mem hplus, decimal, natural?_toDigits (by decide) (by decide)]
  exact Option.filter_eq_some_iff.mpr ⟨rfl, decide_eq_true h⟩

end SplitTest.Text
