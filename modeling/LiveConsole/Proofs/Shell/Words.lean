import LiveConsole.Shell.Quote
import LiveConsole.Shell.Bytes

/-!
# Quoted words of a script

A text that is written as one word of a script is read as one word, whatever is in it: quotes are taken out
behind it, the marks that are left make up a single token, and the token expands to the bytes of the text.
-/
namespace LiveConsole.Shell

/-! ## Marks -/

/-- The marks of a text between single quotes. -/
def bodyMarks : List Char → List Mark
  | [] => []
  | c :: rest =>
    if c = '\'' then .edge :: .char '\'' .double :: .edge :: bodyMarks rest
    else .char c .full :: bodyMarks rest

/-- The marks of a text that is written as one word. -/
def wordMarks (chars : List Char) : List Mark :=
  if chars.all isPlain && !chars.isEmpty then chars.map (.char · .none) else .edge :: bodyMarks chars

/-- A character that stands for itself opens no quotes, no comment and no escape, ends no word and starts no
variable. -/
theorem plain_ne {c : Char} (plain : isPlain c = true) :
    c ≠ '\\' ∧ c ≠ '\'' ∧ c ≠ '"' ∧ c ≠ '#' ∧ c ≠ '$' ∧ endsWord c = false := by
  have other {d : Char} (special : isPlain d = false) : c ≠ d := by
    rintro rfl
    rw [plain] at special
    cases special
  refine ⟨other (by decide), other (by decide), other (by decide), other (by decide), other (by decide), ?_⟩
  have blank := other (show isPlain ' ' = false by decide)
  have tab := other (show isPlain '\t' = false by decide)
  have feed := other (show isPlain '\n' = false by decide)
  have semicolon := other (show isPlain ';' = false by decide)
  have ampersand := other (show isPlain '&' = false by decide)
  have bar := other (show isPlain '|' = false by decide)
  have less := other (show isPlain '<' = false by decide)
  have more := other (show isPlain '>' = false by decide)
  have opening := other (show isPlain '(' = false by decide)
  have closing := other (show isPlain ')' = false by decide)
  simp [endsWord, *]

/-- Outside quotes a character that is not special is marked as it is. -/
theorem marks_bare {c : Char} (fresh : Bool) (rest : List Char) (plain : isPlain c = true) :
    marks (.bare fresh) (c :: rest) = .char c .none :: marks (.bare false) rest := by
  obtain ⟨noEscape, noQuote, noDouble, noComment, -, inWord⟩ := plain_ne plain
  rw [marks]
  · simp [noQuote, noDouble, noComment, inWord]
  · simp [noEscape]
  · simp [noEscape]
  · simp [noEscape]

/-- Up to the closing quote a text is marked character by character. -/
theorem marks_body (chars rest : List Char) :
    marks .single (quotedBody chars ++ '\'' :: rest) = bodyMarks chars ++ marks (.bare false) rest := by
  induction chars with
  | nil => simp [quotedBody, bodyMarks, marks]
  | cons c chars ih =>
    rw [quotedBody, bodyMarks]
    split
    · simp [quotedQuote, marks, ih]
    · rename_i noQuote
      simp [marks, noQuote, ih]

/-- Characters that are not special are marked as they are. -/
theorem marks_plain {chars : List Char} (plain : chars.all isPlain = true) (rest : List Char) :
    marks (.bare false) (chars ++ rest) = chars.map (.char · .none) ++ marks (.bare false) rest := by
  induction chars with
  | nil => rfl
  | cons c chars ih =>
    rw [List.all_cons, Bool.and_eq_true] at plain
    rw [List.cons_append, marks_bare false _ plain.1, ih plain.2, List.map_cons, List.cons_append]

/-- A text that is written as one word is marked as such, and quotes are closed behind it. -/
theorem marks_quoteChars (fresh : Bool) (chars rest : List Char) :
    marks (.bare fresh) (quoteChars chars ++ rest) = wordMarks chars ++ marks (.bare false) rest := by
  unfold quoteChars wordMarks
  split
  · rename_i plain
    rw [Bool.and_eq_true] at plain
    cases chars with
    | nil => cases plain.2
    | cons c chars =>
      rw [List.all_cons, Bool.and_eq_true] at plain
      rw [List.cons_append, marks_bare fresh _ plain.1.1, marks_plain plain.1.2, List.map_cons,
        List.cons_append]
  · rw [List.cons_append, List.cons_append, List.append_assoc, List.singleton_append, marks, if_pos rfl,
      marks_body, List.cons_append]
    all_goals simp

/-! ## Tokens -/

/-- A mark inside of a word is added to the word. -/
theorem tokens_inWord {mark : Mark} (inWord : mark.inWord = true) (word : Option (List Mark)) (rest : List Mark) :
    tokens word (mark :: rest) = tokens (some (word.getD [] ++ [mark])) rest := by
  rw [tokens.eq_def]
  simp only [inWord]

/-- Marks inside of a word are added to the word. -/
theorem tokens_append {inner : List Mark} (inWord : ∀ mark ∈ inner, mark.inWord = true)
    (word : List Mark) (rest : List Mark) :
    tokens (some word) (inner ++ rest) = tokens (some (word ++ inner)) rest := by
  induction inner generalizing word with
  | nil => simp
  | cons mark inner ih =>
    rw [List.cons_append, tokens_inWord (inWord mark List.mem_cons_self),
      ih fun other member => inWord other (List.mem_cons_of_mem _ member)]
    simp

/-- The marks of a text that is written as one word stand inside of a word. -/
theorem wordMarks_inWord (chars : List Char) : ∀ mark ∈ wordMarks chars, mark.inWord = true := by
  unfold wordMarks
  split
  · rename_i plain
    rw [Bool.and_eq_true, List.all_eq_true] at plain
    intro mark member
    obtain ⟨c, known, rfl⟩ := List.mem_map.1 member
    rw [Mark.inWord, (plain_ne (plain.1 c known)).2.2.2.2.2, Bool.not_false]
  · have body (chars : List Char) : ∀ mark ∈ bodyMarks chars, mark.inWord = true := by
      induction chars with
      | nil => simp [bodyMarks]
      | cons c chars ih =>
        rw [bodyMarks]
        split <;> simpa [Mark.inWord] using ih
    simpa [Mark.inWord] using body chars

/-- A text that is written as one word has marks, even where it is empty. -/
theorem wordMarks_ne_nil (chars : List Char) : wordMarks chars ≠ [] := by
  unfold wordMarks
  split
  · rename_i plain
    cases chars with
    | nil => cases plain
    | cons c chars => exact List.cons_ne_nil _ _
  · exact List.cons_ne_nil _ _

/-- A text that is written as one word is a single token up to a blank or a semicolon. -/
theorem tokens_wordMarks (chars : List Char) (rest : List Mark) :
    tokens none (wordMarks chars ++ rest) = tokens (some (wordMarks chars)) rest := by
  cases found : wordMarks chars with
  | nil => exact absurd found (wordMarks_ne_nil chars)
  | cons mark inner =>
    have inWord := wordMarks_inWord chars
    rw [found] at inWord
    rw [List.cons_append, tokens_inWord (inWord mark List.mem_cons_self), Option.getD_none, List.nil_append,
      tokens_append fun other member => inWord other (List.mem_cons_of_mem _ member)]
    simp

/-! ## Words -/

/-- The bytes of a mark that stands for itself. -/
def Mark.ownBytes : Mark → Bytes
  | .char c _ => encode [c]
  | _ => []

/-- The characters of a mark; where quotes open there are none. -/
def Mark.chars : Mark → List Char
  | .char c _ => [c]
  | _ => []

/-- Whether a mark starts no variable and ends no script. -/
def Mark.IsLiteral : Mark → Prop
  | .char c shield => c ≠ '$' ∨ shield = .full
  | .edge => True
  | .unclosed => False

instance : DecidablePred Mark.IsLiteral
  | .char c shield => inferInstanceAs (Decidable (c ≠ '$' ∨ shield = .full))
  | .edge => isTrue trivial
  | .unclosed => isFalse id

/-- Marks that start no variable become their own bytes. -/
theorem expandMarks_literal {inner : List Mark} (literal : ∀ mark ∈ inner, mark.IsLiteral) (scope : Scope) :
    expandMarks scope none inner = inner.map fun mark => .bytes mark.ownBytes := by
  induction inner with
  | nil => rfl
  | cons mark inner ih =>
    have own := literal mark List.mem_cons_self
    have later := ih fun other member => literal other (List.mem_cons_of_mem _ member)
    cases mark with
    | unclosed => exact own.elim
    | edge => rw [expandMarks, later]; rfl
    | char c shield =>
      have noVariable : ¬(c = '$' ∧ shield ≠ .full) := by
        rintro ⟨dollar, open_⟩
        exact own.elim (· dollar) open_
      rw [expandMarks, if_neg noVariable, later]
      rfl

/-- Parts that hold bytes make one word. -/
theorem joinParts_bytes (parts : List Mark) (word : Bytes) :
    joinParts (some word) (parts.map fun mark => .bytes mark.ownBytes) =
      [word ++ parts.flatMap Mark.ownBytes] := by
  induction parts generalizing word with
  | nil => simp [joinParts]
  | cons part parts ih => simp [joinParts, ih]

/-- Marks that start no variable become one word, if there are any. -/
theorem expand_literal {inner : List Mark} (literal : ∀ mark ∈ inner, mark.IsLiteral) (some : inner ≠ [])
    (scope : Scope) : expand scope inner = [inner.flatMap Mark.ownBytes] := by
  rw [expand, expandMarks_literal literal]
  cases inner with
  | nil => exact absurd rfl some
  | cons mark inner =>
    rw [List.map_cons, joinParts, joinParts_bytes]
    simp

/-- The bytes of marks are those of their characters. -/
theorem flatMap_ownBytes (inner : List Mark) :
    inner.flatMap Mark.ownBytes = encode (inner.flatMap Mark.chars) := by
  induction inner with
  | nil => rfl
  | cons mark inner ih =>
    have own : mark.ownBytes = encode mark.chars := by cases mark <;> rfl
    rw [List.flatMap_cons, List.flatMap_cons, ih, own, encode, encode, encode, List.flatMap_append]

/-- The marks of a text that is written as one word start no variable. -/
theorem isLiteral_wordMarks (chars : List Char) : ∀ mark ∈ wordMarks chars, mark.IsLiteral := by
  unfold wordMarks
  split
  · rename_i plain
    rw [Bool.and_eq_true, List.all_eq_true] at plain
    intro mark member
    obtain ⟨c, known, rfl⟩ := List.mem_map.1 member
    exact .inl (plain_ne (plain.1 c known)).2.2.2.2.1
  · have body (chars : List Char) : ∀ mark ∈ bodyMarks chars, mark.IsLiteral := by
      induction chars with
      | nil => simp [bodyMarks]
      | cons c chars ih =>
        rw [bodyMarks]
        split <;> simpa [Mark.IsLiteral] using ih
    simpa [Mark.IsLiteral] using body chars

/-- The characters of the marks are the text that is written. -/
theorem flatMap_chars_wordMarks (chars : List Char) : (wordMarks chars).flatMap Mark.chars = chars := by
  unfold wordMarks
  split
  · simp [List.flatMap_map, Mark.chars]
  · have body (chars : List Char) : (bodyMarks chars).flatMap Mark.chars = chars := by
      induction chars with
      | nil => rfl
      | cons c chars ih =>
        rw [bodyMarks]
        split
        · rename_i quote
          simp [Mark.chars, quote, ih]
        · simp [Mark.chars, ih]
    simp [Mark.chars, body chars]

/-- A text that is written as one word becomes the word that it is. -/
theorem expand_wordMarks (scope : Scope) (chars : List Char) :
    expand scope (wordMarks chars) = [encode chars] := by
  rw [expand_literal (isLiteral_wordMarks chars) (wordMarks_ne_nil chars), flatMap_ownBytes,
    flatMap_chars_wordMarks]

end LiveConsole.Shell
