import LiveConsole.Proofs.Shell.Commands

/-!
# Lines of text in an input

A line of text is read from an input up to its line feed, whether or not characters may take several bytes
there: the bytes behind the first one of a character are those that it asks for, and none of them is a line
feed or a separator. So the separators at the ends of the line are blanks and tabs of the text.
-/
namespace LiveConsole.Shell

/-! ## The bytes of a character -/

/-- The bytes of a character: a small one stands for itself, and any other one asks for those behind it. -/
structure IsSpelled (c : Char) (first : UInt8) (behind : Bytes) : Prop where
  /-- These are the bytes. -/
  bytes : String.utf8EncodeChar c = first :: behind
  /-- The first one asks for the others. -/
  asks : bytesBehind first = behind.length
  /-- The others go on with a character. -/
  goOn : ∀ byte ∈ behind, 0x80 ≤ byte.toNat ∧ byte.toNat < 0xC0
  /-- The first one is small when the character is, and then it stands for it. -/
  small : c.toNat < 0x80 ∨ first.toNat < 0x80 → first.toNat = c.toNat

/-- What a byte asks for depends on its value. -/
theorem bytesBehind_eq {value : Nat} (small : value < 256) :
    bytesBehind (UInt8.ofNat value) =
      if value < 0xC2 then 0
      else if value < 0xE0 then 1
      else if value < 0xF0 then 2
      else if value < 0xF8 then 3
      else if value < 0xFC then 4
      else if value < 0xFE then 5
      else 0 := by
  simp only [bytesBehind, UInt8.lt_iff_toNat_lt, Text.toNat_byte small]
  rfl

/-- A byte that goes on with a character has its value in the middle. -/
theorem goesOn_ofNat (value : Nat) : 0x80 ≤ (UInt8.ofNat (value % 0x40 + 0x80)).toNat ∧
    (UInt8.ofNat (value % 0x40 + 0x80)).toNat < 0xC0 := by
  rw [Text.toNat_byte (by omega)]
  omega

/-- The bytes of each character are such. -/
theorem exists_isSpelled (c : Char) : ∃ first behind, IsSpelled c first behind := by
  have range : c.val.toNat < 0x110000 := by
    rcases c.valid with low | ⟨-, high⟩
    · omega
    · exact high
  have own : c.toNat = c.val.toNat := rfl
  obtain ⟨bytes, known⟩ : ∃ bytes, String.utf8EncodeChar c = bytes := ⟨_, rfl⟩
  have encoded := known
  unfold String.utf8EncodeChar at encoded
  dsimp only at encoded
  split at encoded
  · rename_i one
    refine ⟨_, _, known.trans encoded.symm, ?_, by simp, fun _ => ?_⟩
    · rw [bytesBehind_eq (by omega), if_pos (by omega)]
      rfl
    · rw [Text.toNat_byte (by omega), own]
  split at encoded
  · rename_i noOne two
    refine ⟨_, _, known.trans encoded.symm, ?_, by
      simp only [List.forall_mem_cons, goesOn_ofNat, List.not_mem_nil, and_self, false_implies,
        implies_true], fun small => ?_⟩
    · rw [bytesBehind_eq (by omega), if_neg (by omega), if_pos (by omega)]
      rfl
    · rw [Text.toNat_byte (by omega)] at small ⊢
      omega
  split at encoded
  · rename_i noOne noTwo three
    refine ⟨_, _, known.trans encoded.symm, ?_, by
      simp only [List.forall_mem_cons, goesOn_ofNat, List.not_mem_nil, and_self, false_implies,
        implies_true], fun small => ?_⟩
    · rw [bytesBehind_eq (by omega), if_neg (by omega), if_neg (by omega), if_pos (by omega)]
      rfl
    · rw [Text.toNat_byte (by omega)] at small ⊢
      omega
  · rename_i noOne noTwo noThree
    refine ⟨_, _, known.trans encoded.symm, ?_, by
      simp only [List.forall_mem_cons, goesOn_ofNat, List.not_mem_nil, and_self, false_implies,
        implies_true], fun small => ?_⟩
    · rw [bytesBehind_eq (by omega), if_neg (by omega), if_neg (by omega), if_neg (by omega),
        if_pos (by omega)]
      rfl
    · rw [Text.toNat_byte (by omega)] at small ⊢
      omega

/-- A small byte is among the bytes of the character that it stands for only. -/
theorem toNat_eq_of_mem_encodeChar {c : Char} {byte : UInt8} (member : byte ∈ String.utf8EncodeChar c)
    (small : byte.toNat < 0x80) : byte.toNat = c.toNat := by
  obtain ⟨first, behind, spelled⟩ := exists_isSpelled c
  rw [spelled.bytes] at member
  rcases List.mem_cons.1 member with rfl | inside
  · exact spelled.small (.inr small)
  · have middle := (spelled.goOn byte inside).1
    omega

/-- A small byte is not among the bytes of a character that it does not stand for. -/
theorem ne_of_mem_encodeChar {c d : Char} {byte value : UInt8} (small : value.toNat < 0x80)
    (stands : value.toNat = d.toNat) (other : c ≠ d) (member : byte ∈ String.utf8EncodeChar c) :
    byte ≠ value := by
  rintro rfl
  exact other (Char.toNat_inj.1 ((toNat_eq_of_mem_encodeChar member small).symm.trans stands))

/-- A character other than a line feed and the null character has neither of their bytes. -/
theorem plain_of_mem_encodeChar {c : Char} (noFeed : c ≠ '\n') (noNull : c ≠ '\x00') {byte : UInt8}
    (member : byte ∈ String.utf8EncodeChar c) : byte ≠ 0x0A ∧ byte ≠ 0 :=
  ⟨ne_of_mem_encodeChar (by decide) (by decide) noFeed member,
    ne_of_mem_encodeChar (by decide) (by decide) noNull member⟩

/-! ## Taking a line -/

namespace InputLine

variable {wanted : UInt8 → Nat}

/-- A line with bytes in front. -/
def behindAll (bytes : Bytes) (line : InputLine) : InputLine := { line with bytes := bytes ++ line.bytes }

/-- The bytes that a character asks for are taken with it. -/
theorem take_behind {behind : Bytes}
    (goOn : ∀ byte ∈ behind, 0x80 ≤ byte.toNat ∧ byte.toNat < 0xC0) (rest : Bytes) :
    take wanted behind.length (behind ++ rest) = (take wanted 0 rest).behindAll behind := by
  induction behind with
  | nil => rfl
  | cons byte behind ih =>
    obtain ⟨low, high⟩ := goOn byte List.mem_cons_self
    have still : stillBehind byte behind.length = behind.length := by
      have middle : (0x80 ≤ byte && byte < 0xC0) = true := by
        simpa [UInt8.le_iff_toNat_le, UInt8.lt_iff_toNat_lt] using ⟨low, high⟩
      rw [stillBehind, if_pos middle]
    rw [List.length_cons, List.cons_append, take, still,
      ih fun other member => goOn other (List.mem_cons_of_mem byte member)]
    rfl

/-- Bytes that end no line are taken one after another where characters take one. -/
theorem take_single {bytes : Bytes} (plain : ∀ byte ∈ bytes, byte ≠ 0x0A ∧ byte ≠ 0) (rest : Bytes) :
    take (fun _ => 0) 0 (bytes ++ rest) = (take (fun _ => 0) 0 rest).behindAll bytes := by
  induction bytes with
  | nil => rfl
  | cons byte bytes ih =>
    obtain ⟨noFeed, noNull⟩ := plain byte List.mem_cons_self
    rw [List.cons_append, take, if_neg noFeed, if_neg noNull,
      ih fun other member => plain other (List.mem_cons_of_mem byte member)]
    rfl

/-- The bytes of a character are taken together, whatever the surroundings let characters take. -/
theorem take_encodeChar (either : wanted = bytesBehind ∨ wanted = fun _ => 0) {c : Char}
    (noFeed : c ≠ '\n') (noNull : c ≠ '\x00') (rest : Bytes) :
    take wanted 0 (String.utf8EncodeChar c ++ rest) =
      (take wanted 0 rest).behindAll (String.utf8EncodeChar c) := by
  have plain : ∀ byte ∈ String.utf8EncodeChar c, byte ≠ 0x0A ∧ byte ≠ 0 :=
    fun _ member => plain_of_mem_encodeChar noFeed noNull member
  rcases either with rfl | rfl
  · obtain ⟨first, behind, spelled⟩ := exists_isSpelled c
    rw [spelled.bytes] at plain ⊢
    obtain ⟨noFeed, noNull⟩ := plain first List.mem_cons_self
    rw [List.cons_append, take, if_neg noFeed, if_neg noNull, spelled.asks, take_behind spelled.goOn]
    rfl
  · exact take_single plain rest

/-- A text is taken up to the line feed behind it. -/
theorem take_encode (either : wanted = bytesBehind ∨ wanted = fun _ => 0) {chars : List Char}
    (single : '\n' ∉ chars) (noNull : '\x00' ∉ chars) (rest : Bytes) :
    take wanted 0 (encode chars ++ 0x0A :: rest) = ⟨true, encode chars, rest⟩ := by
  induction chars with
  | nil => rfl
  | cons c chars ih =>
    simp only [List.mem_cons, not_or] at single noNull
    rw [encode, List.flatMap_cons, List.append_assoc,
      take_encodeChar either (Ne.symm single.1) (Ne.symm noNull.1), ← encode, ih single.2 noNull.2]
    rfl

end InputLine

/-! ## Separators at the ends of a line -/

/-- Dropping from a text that is written item by item drops whole items, where an item is to be dropped with
all that is written for it, or opens with something that is to be kept. -/
theorem dropWhile_flatMap {Item Piece : Type} {write : Item → List Piece} {drop : Piece → Bool}
    {dropItem : Item → Bool} (items : List Item)
    (whole : ∀ item ∈ items, dropItem item = true → ∀ piece ∈ write item, drop piece = true)
    (kept : ∀ item ∈ items, dropItem item = false → (write item).head?.any (!drop ·) = true) :
    (items.flatMap write).dropWhile drop = (items.dropWhile dropItem).flatMap write := by
  induction items with
  | nil => rfl
  | cons item items ih =>
    cases dropped : dropItem item with
    | true =>
      rw [List.flatMap_cons, List.dropWhile_append_of_pos (whole item List.mem_cons_self dropped),
        List.dropWhile_cons_of_pos dropped,
        ih (fun other member => whole other (List.mem_cons_of_mem item member))
          fun other member => kept other (List.mem_cons_of_mem item member)]
    | false =>
      have opens := kept item List.mem_cons_self dropped
      rw [List.dropWhile_cons_of_neg (by simp [dropped]), List.flatMap_cons]
      cases written : write item with
      | nil =>
        rw [written] at opens
        cases opens
      | cons piece pieces =>
        rw [written, List.head?_cons, Option.any_some, Bool.not_eq_true'] at opens
        rw [List.cons_append, List.dropWhile_cons_of_neg (by simp [opens])]

/-- Whether a character separates the words of a line. -/
def isGap (c : Char) : Bool := c == ' ' || c == '\t'

/-- A text without the blanks and tabs at its ends. -/
def trimGaps (chars : List Char) : List Char := Text.dropEndWhile isGap (chars.dropWhile isGap)

/-- The bytes of a blank or a tab separate words. -/
theorem isSeparator_of_isGap {c : Char} (gap : isGap c = true) :
    ∀ byte ∈ String.utf8EncodeChar c, isSeparator byte = true := by
  have blank : String.utf8EncodeChar ' ' = [0x20] := by rfl
  have tab : String.utf8EncodeChar '\t' = [0x09] := by rfl
  rw [isGap, Bool.or_eq_true, beq_iff_eq, beq_iff_eq] at gap
  intro byte member
  rcases gap with rfl | rfl
  · rw [blank] at member
    rw [List.mem_singleton.1 member]
    rfl
  · rw [tab] at member
    rw [List.mem_singleton.1 member]
    rfl

/-- The bytes of other characters do not, but for a line feed. -/
theorem not_isSeparator_of_not_isGap {c : Char} (solid : isGap c = false) (noFeed : c ≠ '\n') :
    ∀ byte ∈ String.utf8EncodeChar c, isSeparator byte = false := by
  intro byte member
  simp only [isGap, Bool.or_eq_false_iff, beq_eq_false_iff_ne] at solid
  have noBlank : byte ≠ 0x20 := ne_of_mem_encodeChar (by decide) (by decide) solid.1 member
  have noTab : byte ≠ 0x09 := ne_of_mem_encodeChar (by decide) (by decide) solid.2 member
  have noEnd : byte ≠ 0x0A := ne_of_mem_encodeChar (by decide) (by decide) noFeed member
  simp [isSeparator, noBlank, noTab, noEnd]

/-- A character opens and ends with a byte that separates nothing if it is no blank, tab or line feed. -/
theorem any_encodeChar {c : Char} (solid : isGap c = false) (noFeed : c ≠ '\n') :
    (String.utf8EncodeChar c).head?.any (!isSeparator ·) = true ∧
      (String.utf8EncodeChar c).reverse.head?.any (!isSeparator ·) = true := by
  have kept := not_isSeparator_of_not_isGap solid noFeed
  have present : String.utf8EncodeChar c ≠ [] := by
    obtain ⟨first, behind, spelled⟩ := exists_isSpelled c
    rw [spelled.bytes]
    exact List.cons_ne_nil first behind
  rw [List.head?_reverse, List.head?_eq_some_head present, List.getLast?_eq_some_getLast present]
  simp [kept _ (List.head_mem present), kept _ (List.getLast_mem present)]

/-- The separators at the ends of a text are the blanks and tabs there. -/
theorem trimSeparators_encode {chars : List Char} (single : '\n' ∉ chars) :
    trimSeparators (encode chars) = encode (trimGaps chars) := by
  have noFeed {c : Char} (member : c ∈ chars) : c ≠ '\n' := fun same => single (same ▸ member)
  have inside {c : Char} (member : c ∈ (chars.dropWhile isGap).reverse) : c ∈ chars :=
    (List.dropWhile_suffix isGap).subset (List.mem_reverse.1 member)
  have front : (encode chars).dropWhile isSeparator = encode (chars.dropWhile isGap) :=
    dropWhile_flatMap chars (fun _ _ gap => isSeparator_of_isGap gap)
      fun _ member solid => (any_encodeChar solid (noFeed member)).1
  have back : (encode (chars.dropWhile isGap)).reverse.dropWhile isSeparator =
      ((chars.dropWhile isGap).reverse.dropWhile isGap).flatMap (List.reverse ∘ String.utf8EncodeChar) := by
    rw [encode, List.reverse_flatMap]
    exact dropWhile_flatMap _
      (fun _ _ gap byte member => isSeparator_of_isGap gap byte (List.mem_reverse.1 member))
      fun _ member solid => (any_encodeChar solid (noFeed (inside member))).2
  have twice : List.reverse ∘ (List.reverse ∘ String.utf8EncodeChar) = String.utf8EncodeChar :=
    funext fun _ => List.reverse_reverse _
  rw [trimSeparators, front, back, List.reverse_flatMap, twice]
  rfl

end LiveConsole.Shell
