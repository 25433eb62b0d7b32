import LiveConsole.Text.Utf8
import Mathlib.Data.Nat.Basic

/-!
# Reading back what was written in UTF-8

The bytes of a character are read as that character: the first one says how many follow, and the bits of all
of them make up its number again. So a text comes back from its bytes, and no byte of them needs replacing.
-/
namespace LiveConsole.Text

variable {spell : List UInt8 → List Char} {bytes rest : List UInt8} {value bits missing : Nat} {low high : UInt8}

/-- The value of a byte is the number that it is made of. -/
theorem toNat_byte (small : value < 256) : (UInt8.ofNat value).toNat = value := by
  rw [UInt8.toNat_ofNat']
  omega

/-- A byte in the range that a character goes on with is put to its bits. -/
theorem readWith_next (small : value < 256) (least : low.toNat ≤ value) (most : value ≤ high.toNat) :
    readWith spell (some ⟨bytes, missing + 2, low, high, bits⟩) (UInt8.ofNat value :: rest) =
      readWith spell (some ⟨UInt8.ofNat value :: bytes, missing + 1, 0x80, 0xBF, bits * 64 + (value - 0x80)⟩)
        rest := by
  have fits : (low ≤ UInt8.ofNat value && UInt8.ofNat value ≤ high) = true := by
    simp only [Bool.and_eq_true, decide_eq_true_eq, UInt8.le_iff_toNat_le, toNat_byte small]
    exact ⟨least, most⟩
  have more : ¬missing + 2 ≤ 1 := by omega
  rw [readWith, if_pos fits, if_neg more, toNat_byte small]
  rfl

/-- The last byte of a character finishes it. -/
theorem readWith_last (small : value < 256) (least : low.toNat ≤ value) (most : value ≤ high.toNat) :
    readWith spell (some ⟨bytes, 1, low, high, bits⟩) (UInt8.ofNat value :: rest) =
      Char.ofNat (bits * 64 + (value - 0x80)) :: readWith spell none rest := by
  have fits : (low ≤ UInt8.ofNat value && UInt8.ofNat value ≤ high) = true := by
    simp only [Bool.and_eq_true, decide_eq_true_eq, UInt8.le_iff_toNat_le, toNat_byte small]
    exact ⟨least, most⟩
  rw [readWith, if_pos fits, if_pos (Nat.le_refl 1), toNat_byte small]

/-! ## First bytes -/

/-- A byte below all others is a character. -/
theorem beginCharacter_one (small : value < 0x80) :
    beginCharacter (UInt8.ofNat value) = .finished (Char.ofNat value) := by
  rw [beginCharacter, toNat_byte (by omega)]
  exact if_pos small

/-- What begins a character of two bytes. -/
theorem beginCharacter_two (least : 0xC2 ≤ value) (most : value ≤ 0xDF) :
    beginCharacter (UInt8.ofNat value) = .begun ⟨[UInt8.ofNat value], 1, 0x80, 0xBF, value - 0xC0⟩ := by
  rw [beginCharacter, toNat_byte (by omega)]
  have above : ¬value < 0x80 := by omega
  simp [above, least, most]

/-- What begins a character of three bytes: the byte behind it is in a range that depends on it. -/
theorem beginCharacter_three (value : Nat) (least : 0xE0 ≤ value) (most : value ≤ 0xEF) :
    ∃ low high, beginCharacter (UInt8.ofNat value) =
        .begun ⟨[UInt8.ofNat value], 2, low, high, value - 0xE0⟩ ∧
      ∀ next, 0x80 ≤ next → next ≤ 0xBF → (value = 0xE0 → 0xA0 ≤ next) → (value = 0xED → next ≤ 0x9F) →
        low.toNat ≤ next ∧ next ≤ high.toNat := by
  have above : ¬value < 0x80 := by omega
  have noTwo : ¬value ≤ 0xDF := by omega
  rw [beginCharacter, toNat_byte (by omega)]
  by_cases first : value = 0xE0
  · exact ⟨0xA0, 0xBF, by simp [first], fun next _ below start _ => ⟨start first, below⟩⟩
  · by_cases surrogates : value = 0xED
    · exact ⟨0x80, 0x9F, by simp [surrogates], fun next above _ _ stop => ⟨above, stop surrogates⟩⟩
    · have more : 0xE1 ≤ value := by omega
      exact ⟨0x80, 0xBF, by simp [above, noTwo, first, surrogates, more, most],
        fun next above below _ _ => ⟨above, below⟩⟩

/-- What begins a character of four bytes: the byte behind it is in a range that depends on it. -/
theorem beginCharacter_four (value : Nat) (least : 0xF0 ≤ value) (most : value ≤ 0xF4) :
    ∃ low high, beginCharacter (UInt8.ofNat value) =
        .begun ⟨[UInt8.ofNat value], 3, low, high, value - 0xF0⟩ ∧
      ∀ next, 0x80 ≤ next → next ≤ 0xBF → (value = 0xF0 → 0x90 ≤ next) → (value = 0xF4 → next ≤ 0x8F) →
        low.toNat ≤ next ∧ next ≤ high.toNat := by
  have above : ¬value < 0x80 := by omega
  have noTwo : ¬value ≤ 0xDF := by omega
  have noThree : ¬value ≤ 0xEF := by omega
  have noFirst : value ≠ 0xE0 := by omega
  have noSurrogates : value ≠ 0xED := by omega
  rw [beginCharacter, toNat_byte (by omega)]
  by_cases first : value = 0xF0
  · exact ⟨0x90, 0xBF, by simp [first], fun next _ below start _ => ⟨start first, below⟩⟩
  · by_cases last : value = 0xF4
    · exact ⟨0x80, 0x8F, by simp [last], fun next above _ _ stop => ⟨above, stop last⟩⟩
    · have more : 0xF1 ≤ value := by omega
      have less : value ≤ 0xF3 := by omega
      exact ⟨0x80, 0xBF, by simp [above, noTwo, noThree, noFirst, noSurrogates, first, more, less],
        fun next above below _ _ => ⟨above, below⟩⟩

/-! ## Characters -/

/-- The bytes of a character are read as that character. -/
theorem readWith_encodeChar (c : Char) :
    readWith spell none (String.utf8EncodeChar c ++ rest) = c :: readWith spell none rest := by
  have own : Char.ofNat c.val.toNat = c := Char.ofNat_toNat c
  have range : c.val.toNat < 0xD800 ∨ 0xDFFF < c.val.toNat ∧ c.val.toNat < 0x110000 := c.valid
  unfold String.utf8EncodeChar
  generalize c.val.toNat = code at own range
  subst own
  dsimp only
  split
  · rename_i one
    rw [List.singleton_append, readWith, beginCharacter_one (by omega)]
  split
  · rename_i noOne two
    rw [List.cons_append, List.singleton_append, readWith, beginCharacter_two (by omega) (by omega)]
    dsimp only
    have bits : (code / 64 % 0x20 + 0xC0 - 0xC0) * 64 + (code % 0x40 + 0x80 - 0x80) = code := by omega
    rw [readWith_last (by omega) (by simp) (by simp; omega), bits]
  split
  · rename_i noOne noTwo three
    obtain ⟨low, high, opens, inRange⟩ :=
      beginCharacter_three (code / 4096 % 0x10 + 0xE0) (by omega) (by omega)
    obtain ⟨least, most⟩ := inRange (code / 64 % 0x40 + 0x80) (by omega) (by omega) (by omega) (by omega)
    rw [List.cons_append, List.cons_append, List.singleton_append, readWith, opens]
    dsimp only
    have bits : ((code / 4096 % 0x10 + 0xE0 - 0xE0) * 64 + (code / 64 % 0x40 + 0x80 - 0x80)) * 64 +
        (code % 0x40 + 0x80 - 0x80) = code := by omega
    rw [readWith_next (by omega) least most, readWith_last (by omega) (by simp) (by simp; omega), bits]
  · rename_i noOne noTwo noThree
    obtain ⟨low, high, opens, inRange⟩ :=
      beginCharacter_four (code / 262144 % 0x08 + 0xF0) (by omega) (by omega)
    obtain ⟨least, most⟩ := inRange (code / 4096 % 0x40 + 0x80) (by omega) (by omega) (by omega) (by omega)
    rw [List.cons_append, List.cons_append, List.cons_append, List.singleton_append, readWith, opens]
    dsimp only
    have bits : (((code / 262144 % 0x08 + 0xF0 - 0xF0) * 64 + (code / 4096 % 0x40 + 0x80 - 0x80)) * 64 +
        (code / 64 % 0x40 + 0x80 - 0x80)) * 64 + (code % 0x40 + 0x80 - 0x80) = code := by omega
    rw [readWith_next (by omega) least most, readWith_next (by omega) (by simp) (by simp; omega),
      readWith_last (by omega) (by simp) (by simp; omega), bits]

/-- A text comes back from its bytes. -/
theorem ofUtf8Lenient_encode (chars : List Char) :
    ofUtf8Lenient (chars.flatMap String.utf8EncodeChar) = String.ofList chars := by
  rw [ofUtf8Lenient]
  congr 1
  induction chars with
  | nil => rfl
  | cons c chars ih => rw [List.flatMap_cons, readWith_encodeChar, ih]

/-- Writing line ends in one way leaves what stands in front of the first carriage return. -/
theorem unifyLineEnds_append {front : List Char} (plain : '\r' ∉ front) (rest : List Char) :
    unifyLineEnds (front ++ rest) = front ++ unifyLineEnds rest := by
  induction front with
  | nil => rfl
  | cons c front ih =>
    have other : c ≠ '\r' := fun same => plain (same ▸ List.mem_cons_self)
    rw [List.cons_append, unifyLineEnds, ih fun member => plain (List.mem_cons_of_mem c member),
      List.cons_append]
    · exact fun _ same => absurd same other
    · exact other

/-- No carriage return is left when line ends are written in one way. -/
theorem return_not_mem_unifyLineEnds (chars : List Char) : '\r' ∉ unifyLineEnds chars := by
  fun_induction unifyLineEnds chars with
  | case1 rest ih => simpa using ih
  | case2 rest _ ih => simpa using ih
  | case3 c rest _ other ih => simpa using ⟨fun same => other same.symm, ih⟩
  | case4 => exact List.not_mem_nil

/-- A text does not get longer when line ends are written in one way. -/
theorem length_unifyLineEnds_le (chars : List Char) : (unifyLineEnds chars).length ≤ chars.length := by
  fun_induction unifyLineEnds chars with
  | case1 rest ih => simp only [List.length_cons]; omega
  | case2 rest _ ih => simp only [List.length_cons]; omega
  | case3 c rest _ _ ih => simp only [List.length_cons]; omega
  | case4 => exact Nat.le_refl 0

/-- No line feed is lost when line ends are written in one way. -/
theorem count_unifyLineEnds_le (chars : List Char) : chars.count '\n' ≤ (unifyLineEnds chars).count '\n' := by
  fun_induction unifyLineEnds chars with
  | case1 rest ih => simpa using ih
  | case2 rest _ ih => simpa using Nat.le_succ_of_le ih
  | case3 c rest _ _ ih => simpa [List.count_cons] using ih
  | case4 => exact Nat.le_refl 0

end LiveConsole.Text
