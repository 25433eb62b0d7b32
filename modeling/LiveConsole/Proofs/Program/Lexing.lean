import LiveConsole.Program.Scan

/-!
# Tokens in front of the end of a line

A token ends where a semicolon or the end of the line follows, if not before: numbers, words, quoted texts
and marks are read alike whatever number of semicolons stands in the end of the line.
-/
namespace LiveConsole.Program

variable {Result : Type} {chars tail : List Char}

/-- Whether a text is made of semicolons and line ends. -/
def Closing (tail : List Char) : Prop := ∀ c ∈ tail, c = ';' ∨ c = '\n'

/-- Whether a property of characters holds neither of semicolons nor of line ends. -/
def Inner (property : Char → Bool) : Prop := property ';' = false ∧ property '\n' = false

/-- Whether what is read from the front of a text, and what is left, are the same with semicolons and line
ends in the end, but for those. -/
def StopsAtClosing (read : List Char → Option (Result × List Char)) (chars : List Char) : Prop :=
  ∀ tail, Closing tail → read (chars ++ tail) = (read chars).map fun found => (found.1, found.2 ++ tail)

/-- What follows the first of semicolons and line ends are semicolons and line ends. -/
theorem Closing.of_cons {c : Char} (closing : Closing (c :: tail)) : Closing tail :=
  fun other member => closing other (List.mem_cons_of_mem _ member)

/-- Semicolons and line ends are none at all, or there is a first one. -/
theorem Closing.opens (closing : Closing tail) :
    tail = [] ∨ ∃ rest, tail = ';' :: rest ∨ tail = '\n' :: rest := by
  cases tail with
  | nil => exact .inl rfl
  | cons c rest => rcases closing c List.mem_cons_self with rfl | rfl <;> simp

/-- An inner property does not hold of what closes a text. -/
theorem Inner.of_closing {property : Char → Bool} (inner : Inner property) {c : Char}
    (closing : Closing (c :: tail)) : property c = false := by
  rcases closing c List.mem_cons_self with rfl | rfl
  · exact inner.1
  · exact inner.2

/-- An inner property of the first character is one of the text in front of what closes it. -/
theorem Inner.any_head?_append {property : Char → Bool} (inner : Inner property) (chars : List Char)
    (closing : Closing tail) : (chars ++ tail).head?.any property = chars.head?.any property := by
  cases chars with
  | nil =>
    cases tail with
    | nil => rfl
    | cons c tail => exact inner.of_closing closing
  | cons c chars => rfl

/-- The characters with an inner property in the front end before what closes the text. -/
theorem Inner.takeWhile_append {property : Char → Bool} (inner : Inner property) (chars : List Char)
    (closing : Closing tail) : (chars ++ tail).takeWhile property = chars.takeWhile property := by
  induction chars with
  | nil =>
    cases tail with
    | nil => rfl
    | cons c tail => exact List.takeWhile_cons_of_neg (by simp [inner.of_closing closing])
  | cons c chars ih =>
    rw [List.cons_append, List.takeWhile_cons, List.takeWhile_cons, ih]

/-- An opening without semicolons and line ends is one of the text in front of what closes it. -/
theorem isPrefixOf_append {opening : List Char} (inner : opening.all (fun c => c != ';' && c != '\n') = true)
    (chars : List Char) (closing : Closing tail) :
    opening.isPrefixOf (chars ++ tail) = opening.isPrefixOf chars := by
  induction opening generalizing chars with
  | nil => simp
  | cons first opening ih =>
    rw [List.all_cons, Bool.and_eq_true, Bool.and_eq_true, bne_iff_ne, bne_iff_ne] at inner
    cases chars with
    | nil =>
      cases tail with
      | nil => rfl
      | cons c tail =>
        have other : (first == c) = false := by
          rw [beq_eq_false_iff_ne]
          rcases closing c List.mem_cons_self with rfl | rfl
          · exact inner.1.1
          · exact inner.1.2
        rw [List.nil_append, List.isPrefixOf_cons_cons, other, Bool.false_and]
        rfl
    | cons c chars =>
      rw [List.cons_append, List.isPrefixOf_cons_cons, List.isPrefixOf_cons_cons, ih inner.2]

/-! ## Numbers -/

/-- No semicolon and no line end is a digit. -/
theorem inner_isDigitTo (base : Nat) : Inner (isDigitTo base) := ⟨rfl, rfl⟩

/-- No semicolon and no line end is a decimal digit. -/
theorem inner_isDigit : Inner Char.isDigit := ⟨rfl, rfl⟩

/-- No semicolon and no line end belongs to a word. -/
theorem inner_mayBelongToWord : Inner mayBelongToWord := ⟨by decide, by decide⟩

/-- Whether a text opens with a digit is known in front of what closes it. -/
theorem opensWithDigit_append (chars : List Char) (closing : Closing tail) :
    opensWithDigit (chars ++ tail) = opensWithDigit chars := inner_isDigit.any_head?_append chars closing

/-- Digits end in front of what closes a text. -/
theorem takeDigits_stops (base : Nat) (chars : List Char) : StopsAtClosing (takeDigits base) chars := by
  intro tail closing
  obtain ⟨noSemicolon, noEnd⟩ := inner_isDigitTo base
  fun_induction takeDigits base chars with
  | case1 => rcases closing.opens with rfl | ⟨rest, rfl | rfl⟩ <;> simp [takeDigits, noSemicolon, noEnd]
  | case2 => rcases closing.opens with rfl | ⟨rest, rfl | rfl⟩ <;> simp [takeDigits, noSemicolon, noEnd]
  | case3 c rest digit ih => simp [takeDigits, digit, ih, Function.comp_def]
  | case4 c rest other => simp [takeDigits, other]
  | case5 c rest plain digit ih => simp [takeDigits, digit, ih, Function.comp_def]
  | case6 c rest plain other => simp [takeDigits, other]

/-- The digits of a fraction or an exponent end in front of what closes a text. -/
theorem passDigits_stops (digits : List Char) :
    StopsAtClosing (fun chars => (takeDigits 10 chars).map fun found => (true, found.2)) digits := by
  intro tail closing
  simp only [takeDigits_stops 10 digits tail closing, Option.map_map]
  rfl

/-- A fraction ends in front of what closes a text. -/
theorem takeFraction_stops (chars : List Char) : StopsAtClosing takeFraction chars := by
  intro tail closing
  cases chars with
  | nil => rcases closing.opens with rfl | ⟨rest, rfl | rfl⟩ <;> rfl
  | cons c rest =>
    by_cases point : c = '.'
    · subst point
      simp only [List.cons_append, takeFraction, opensWithDigit_append rest closing]
      split
      · exact passDigits_stops rest tail closing
      · rfl
    · simp [takeFraction, point]

/-- An exponent ends in front of what closes a text. -/
theorem takeExponent_stops (chars : List Char) : StopsAtClosing takeExponent chars := by
  intro tail closing
  cases chars with
  | nil => rcases closing.opens with rfl | ⟨rest, rfl | rfl⟩ <;> rfl
  | cons c rest =>
    have signs : Inner fun c => c == '+' || c == '-' := ⟨rfl, rfl⟩
    rw [takeExponent, List.cons_append, takeExponent, signs.any_head?_append rest closing]
    by_cases missing : (c != 'e' && c != 'E') = true
    · rw [if_pos missing, if_pos missing]
      rfl
    · rw [if_neg missing, if_neg missing]
      cases isSigned : rest.head?.any fun c => c == '+' || c == '-' with
      | false =>
        simp only [Bool.false_eq_true, if_false, opensWithDigit_append rest closing]
        split
        · exact passDigits_stops rest tail closing
        · rfl
      | true =>
        cases rest with
        | nil => cases isSigned
        | cons sign rest =>
          simp only [if_true, List.cons_append, List.drop_succ_cons, List.drop_zero,
            opensWithDigit_append rest closing]
          split
          · exact passDigits_stops rest tail closing
          · rfl

/-- A number with more behind it. -/
def Numeral.followed (numeral : Numeral) (tail : List Char) : Numeral :=
  { numeral with rest := numeral.rest ++ tail }

/-- Whether a number can end is known in front of what closes a text. -/
theorem endNumber_append (kind : String) (token : Token) (rest : List Char) (closing : Closing tail) :
    endNumber kind token (rest ++ tail) = (endNumber kind token rest).map (·.followed tail) := by
  have words : wordsBehindNumbers.any (·.isPrefixOf (rest ++ tail)) =
      wordsBehindNumbers.any (·.isPrefixOf rest) := by
    have inner : ∀ word ∈ wordsBehindNumbers, word.all (fun c => c != ';' && c != '\n') = true := by decide
    rw [Bool.eq_iff_iff, List.any_eq_true, List.any_eq_true]
    refine exists_congr fun word => and_congr_right fun member => ?_
    rw [isPrefixOf_append (inner word member) rest closing]
  rw [endNumber, endNumber, words, inner_mayBelongToWord.any_head?_append rest closing]
  split
  · rfl
  · split <;> rfl

/-- Whether a number to the base ten can end is known in front of what closes a text. -/
theorem endDecimal_append (whole : List Char) (hasPoint hasExponent : Bool) (rest : List Char)
    (closing : Closing tail) :
    endDecimal whole hasPoint hasExponent (rest ++ tail) =
      (endDecimal whole hasPoint hasExponent rest).map (·.followed tail) := by
  have ends := fun kind token rest => endNumber_append kind token rest closing
  have plain : (if hasPoint || hasExponent then endNumber "decimal" .fraction (rest ++ tail)
      else if whole.head? == some '0' && whole.any (· != '0') then none
      else endNumber "decimal" (integerToken whole) (rest ++ tail)) =
      (if hasPoint || hasExponent then endNumber "decimal" .fraction rest
        else if whole.head? == some '0' && whole.any (· != '0') then none
        else endNumber "decimal" (integerToken whole) rest).map (·.followed tail) := by
    rw [ends, ends]
    split
    · rfl
    · split <;> rfl
  cases rest with
  | nil => rcases closing.opens with rfl | ⟨rest, rfl | rfl⟩ <;> exact plain
  | cons c behind =>
    by_cases small : c = 'j'
    · subst small
      exact ends _ _ behind
    by_cases large : c = 'J'
    · subst large
      exact ends _ _ behind
    by_cases exponent : c = 'e'
    · subst exponent
      exact ends _ _ ('e' :: behind)
    · have other : ∀ {letter : Char}, c ≠ letter → ∀ {rest} more, c :: rest = letter :: more → False :=
        fun differs _ _ same => differs (List.cons.inj same).1
      rw [List.cons_append, endDecimal, endDecimal]
      · exact plain
      all_goals first | exact other small | exact other large | exact other exponent

/-- A number to the base ten ends in front of what closes a text. -/
theorem takeDecimal_append (chars : List Char) (closing : Closing tail) :
    takeDecimal (chars ++ tail) = (takeDecimal chars).map (·.followed tail) := by
  unfold takeDecimal
  rw [takeDigits_stops 10 chars tail closing]
  rcases takeDigits 10 chars with _ | ⟨whole, rest⟩
  · rfl
  simp only [Option.map_some, Option.bind_eq_bind, Option.bind_some]
  rw [takeFraction_stops rest tail closing]
  rcases takeFraction rest with _ | ⟨hasPoint, rest⟩
  · rfl
  simp only [Option.map_some, Option.bind_some]
  rw [takeExponent_stops rest tail closing]
  rcases takeExponent rest with _ | ⟨hasExponent, rest⟩
  · rfl
  simp only [Option.map_some, Option.bind_some]
  exact endDecimal_append whole hasPoint hasExponent rest closing

/-- A number ends in front of what closes a text. -/
theorem takeNumber_append (chars : List Char) (closing : Closing tail) :
    takeNumber (chars ++ tail) = (takeNumber chars).map (·.followed tail) := by
  have decimal := takeDecimal_append chars closing
  cases chars with
  | nil => rcases closing.opens with rfl | ⟨rest, rfl | rfl⟩ <;> exact decimal
  | cons c rest =>
    by_cases zero : c = '0'
    · subst zero
      cases rest with
      | nil => rcases closing.opens with rfl | ⟨rest, rfl | rfl⟩ <;> exact decimal
      | cons letter rest =>
        simp only [List.cons_append, takeNumber]
        cases baseOf? letter with
        | none => exact decimal
        | some known =>
          obtain ⟨base, kind⟩ := known
          simp only [takeDigits_stops base rest tail closing, Option.bind_eq_bind]
          rcases takeDigits base rest with _ | ⟨digits, rest⟩
          · rfl
          simp only [Option.map_some, Option.bind_some, opensWithDigit_append rest closing,
            endNumber_append _ _ rest closing]
          split <;> rfl
    · have plain : ∀ behind, takeNumber (c :: behind) = takeDecimal (c :: behind) := by
        intro behind
        rw [takeNumber]
        exact fun _ _ same => zero (List.cons.inj same).1
      rw [List.cons_append, plain, plain]
      exact decimal

/-! ## Quoted texts -/

/-- No semicolon and no line end is a quote. -/
theorem inner_isQuote : Inner isQuote := ⟨rfl, rfl⟩

/-- A quote is no semicolon, no line end and no backslash. -/
theorem ne_of_isQuote {quote : Char} (quotes : isQuote quote = true) :
    quote ≠ ';' ∧ quote ≠ '\n' ∧ quote ≠ '\\' := by
  rw [isQuote, Bool.or_eq_true, beq_iff_eq, beq_iff_eq] at quotes
  rcases quotes with rfl | rfl <;> decide

/-- A text between single quotes does not end in what closes a text. -/
theorem takeShort_stops {quote : Char} (quotes : isQuote quote = true) (chars : List Char) :
    StopsAtClosing (takeShort quote) chars := by
  obtain ⟨noSemicolon, noEnd, noEscape⟩ := ne_of_isQuote quotes
  have atEnd : ∀ tail, Closing tail → takeShort quote tail = none := by
    intro tail closing
    induction tail with
    | nil => rfl
    | cons c tail ih =>
      have other := ih closing.of_cons
      rcases closing c List.mem_cons_self with rfl | rfl
      · simp [takeShort, Ne.symm noSemicolon, other]
      · simp [takeShort, Ne.symm noEnd]
  intro tail closing
  fun_induction takeShort quote chars with
  | case1 => exact atEnd tail closing
  | case2 c rest ih => simp [takeShort, ih, Function.comp_def]
  | case3 rest plain => simp [takeShort, noEscape]
  | case4 rest plain noQuote => simp [takeShort, noQuote]
  | case5 c rest plain noQuote noEnd ih =>
    by_cases escape : c = '\\'
    · subst escape
      cases rest with
      | nil =>
        cases tail with
        | nil => simp [takeShort, noQuote]
        | cons c tail => simp [takeShort, atEnd tail closing.of_cons]
      | cons c rest => exact absurd rfl (plain c rest rfl)
    · simp [takeShort, escape, noQuote, noEnd, ih, Function.comp_def]

/-- Whether two quotes come next is known in front of what closes a text. -/
theorem take_two_append {quote : Char} (quotes : isQuote quote = true) (rest : List Char)
    (closing : Closing tail) : ((rest ++ tail).take 2 == [quote, quote]) = (rest.take 2 == [quote, quote]) := by
  obtain ⟨noSemicolon, noEnd, -⟩ := ne_of_isQuote quotes
  have other : ∀ c, c ∈ tail → c ≠ quote := by
    rintro c member rfl
    rcases closing c member with same | same
    · exact noSemicolon same
    · exact noEnd same
  have differs : ∀ texts : List Char, (∃ c ∈ texts, c ≠ quote) → (texts == [quote, quote]) = false := by
    rintro texts ⟨c, member, differs⟩
    rw [beq_eq_false_iff_ne]
    rintro rfl
    simp at member
    exact differs member
  rcases rest with _ | ⟨first, _ | ⟨second, rest⟩⟩
  · rcases tail with _ | ⟨c, tail⟩
    · rfl
    · rw [List.nil_append, differs _ ⟨c, by simp, other c List.mem_cons_self⟩]
      rfl
  · rcases tail with _ | ⟨c, tail⟩
    · rfl
    · rw [differs _ ⟨c, by simp, other c List.mem_cons_self⟩]
      simp
  · rfl

/-- A text between three quotes does not end in what closes a text. -/
theorem takeLong_stops {quote : Char} (quotes : isQuote quote = true) (chars : List Char) :
    StopsAtClosing (takeLong quote) chars := by
  obtain ⟨noSemicolon, noEnd, noEscape⟩ := ne_of_isQuote quotes
  have atEnd : ∀ tail, Closing tail → takeLong quote tail = none := by
    intro tail closing
    induction tail with
    | nil => rfl
    | cons c tail ih =>
      have other := ih closing.of_cons
      rcases closing c List.mem_cons_self with rfl | rfl
      · simp [takeLong, Ne.symm noSemicolon, other]
      · simp [takeLong, Ne.symm noEnd, other]
  intro tail closing
  fun_induction takeLong quote chars with
  | case1 => exact atEnd tail closing
  | case2 c rest ih => simp [takeLong, ih, Function.comp_def]
  | case3 c rest plain closes =>
    rw [Bool.and_eq_true, decide_eq_true_eq, beq_iff_eq] at closes
    obtain ⟨rfl, next⟩ := closes
    obtain ⟨behind, rfl⟩ : ∃ behind, rest = c :: c :: behind :=
      ⟨rest.drop 2, by rw [← List.take_append_drop 2 rest, next]; rfl⟩
    simp [takeLong, noEscape]
  | case4 c rest plain goesOn ih =>
    by_cases escape : c = '\\'
    · subst escape
      cases rest with
      | nil =>
        cases tail with
        | nil => simp [takeLong]
        | cons c tail => simp [takeLong, atEnd tail closing.of_cons]
      | cons c rest => exact absurd rfl (plain c rest rfl)
    · have long : ∀ rest, takeLong quote (c :: rest) =
          if c = quote && rest.take 2 == [quote, quote] then some ([], rest.drop 2)
          else (takeLong quote rest).map fun found => (c :: found.1, found.2) := by
        intro rest
        rw [takeLong]
        exact fun _ _ same => absurd same escape
      rw [List.cons_append, long, take_two_append quotes rest closing, if_neg goesOn, ih, Option.map_map,
        Option.map_map]
      rfl

/-- A quoted text does not end in what closes a text. -/
theorem takeInside_stops {quote : Char} (quotes : isQuote quote = true) (rest : List Char) :
    StopsAtClosing takeInside (quote :: rest) := by
  intro tail closing
  rw [List.cons_append, takeInside, takeInside, take_two_append quotes rest closing]
  split
  · rename_i two
    obtain ⟨behind, rfl⟩ : ∃ behind, rest = quote :: quote :: behind :=
      ⟨rest.drop 2, by rw [← List.take_append_drop 2 rest, eq_of_beq two]; rfl⟩
    exact takeLong_stops quotes behind tail closing
  · exact takeShort_stops quotes rest tail closing

/-! ## Marks -/

/-- What is found in a list is known from what holds of its members. -/
theorem find?_congr {Item : Type} {first second : Item → Bool} {items : List Item}
    (same : ∀ item ∈ items, first item = second item) : items.find? first = items.find? second := by
  induction items with
  | nil => rfl
  | cons item items ih =>
    rw [List.find?_cons, List.find?_cons, same item List.mem_cons_self,
      ih fun other member => same other (List.mem_cons_of_mem item member)]

/-- A mark ends in front of what closes a text, where it does not belong to that. -/
theorem takeMark_stops {chars : List Char} (opens : chars ≠ []) (closing : Closing tail) :
    takeMark (chars ++ tail) = ((takeMark chars).1, (takeMark chars).2 ++ tail) := by
  have inner : ∀ mark ∈ longMarks, mark.toList.all (fun c => c != ';' && c != '\n') = true := by decide
  have long := find?_congr fun mark member => isPrefixOf_append (inner mark member) chars closing
  have single : (chars ++ tail).take 1 = chars.take 1 := by
    cases chars with
    | nil => exact absurd rfl opens
    | cons c chars => rfl
  unfold takeMark
  rw [long, single]
  have fits : ((longMarks.find? fun mark => mark.toList.isPrefixOf chars).getD
      (String.ofList (chars.take 1))).length ≤ chars.length := by
    cases found : longMarks.find? fun mark => mark.toList.isPrefixOf chars with
    | none =>
      rw [Option.getD_none, String.length_ofList, List.length_take]
      exact Nat.min_le_right 1 chars.length
    | some mark =>
      have opens : mark.toList.isPrefixOf chars = true :=
        (List.find?_eq_some_iff_append.1 found).1
      rw [Option.getD_some, ← String.length_toList]
      exact (List.isPrefixOf_iff_prefix.1 opens).length_le
  simp only [List.drop_append_of_le_length fits]

/-- The mark that is added ends in front of what closes a text. -/
theorem addMark_stops (position : Position) {chars : List Char} (opens : chars ≠ []) :
    StopsAtClosing (addMark position) chars := by
  intro tail closing
  cases chars with
  | nil => exact absurd rfl opens
  | cons c rest =>
    unfold addMark
    rw [takeMark_stops opens closing, List.cons_append]
    dsimp only
    split
    · split <;> rfl
    · split
      · split
        · rfl
        · split <;> rfl
      · split <;> rfl

/-- The token that is added ends in front of what closes a text. -/
theorem addToken_stops (position : Position) {chars : List Char} (opens : chars ≠ []) :
    StopsAtClosing (addToken position) chars := by
  intro tail closing
  unfold addToken
  rw [opensWithDigit_append chars closing, inner_mayBelongToWord.takeWhile_append chars closing]
  have short : (if opensWithDigit chars then [] else chars.takeWhile mayBelongToWord).length ≤ chars.length := by
    split
    · exact Nat.zero_le _
    · exact (List.takeWhile_prefix _).length_le
  generalize (if opensWithDigit chars then [] else chars.takeWhile mayBelongToWord) = word at short
  have behind : (chars ++ tail).drop word.length = chars.drop word.length ++ tail :=
    List.drop_append_of_le_length short
  simp only [behind, inner_isQuote.any_head?_append _ closing]
  split
  · rename_i quoted
    cases inside : chars.drop word.length with
    | nil =>
      rw [inside] at quoted
      cases quoted
    | cons quote rest =>
      rw [inside] at quoted
      rw [takeInside_stops quoted rest tail closing]
      cases takeInside (quote :: rest) <;> rfl
  · split
    · split <;> rfl
    · have point : ((chars ++ tail).head? == some '.' && opensWithDigit ((chars ++ tail).drop 1)) =
          (chars.head? == some '.' && opensWithDigit (chars.drop 1)) := by
        cases chars with
        | nil => exact absurd rfl opens
        | cons c rest =>
          simp only [List.cons_append, List.head?_cons, List.drop_succ_cons, List.drop_zero,
            opensWithDigit_append rest closing]
      rw [point]
      split
      · rw [takeNumber_append chars closing]
        cases takeNumber chars <;> rfl
      · exact addMark_stops position opens tail closing

/-! ## What a token leaves of a text -/

/-- What is left of a text is left by the reading that a result was made from. -/
theorem exists_of_map {First Second : Type} {read : Option (First × List Char)}
    {change : First × List Char → Second × List Char} {second : Second} {rest : List Char}
    (found : read.map change = some (second, rest)) (keeps : ∀ found, (change found).2 = found.2) :
    ∃ first, read = some (first, rest) := by
  obtain ⟨⟨first, left⟩, before, same⟩ := Option.map_eq_some_iff.1 found
  have kept : rest = left := (congrArg Prod.snd same).symm.trans (keeps (first, left))
  exact ⟨first, kept ▸ before⟩

/-- What is left behind digits is the end of the text. -/
theorem takeDigits_suffix {base : Nat} {chars digits rest : List Char}
    (found : takeDigits base chars = some (digits, rest)) : rest <:+ chars := by
  fun_induction takeDigits base chars generalizing digits with
  | case1 =>
    cases found
    exact List.suffix_refl _
  | case2 => cases found
  | case3 c behind digit ih =>
    obtain ⟨more, before⟩ := exists_of_map found fun _ => rfl
    exact (ih before).trans ((List.suffix_cons c behind).trans (List.suffix_cons _ _))
  | case4 => cases found
  | case5 c behind plain digit ih =>
    obtain ⟨more, before⟩ := exists_of_map found fun _ => rfl
    exact (ih before).trans (List.suffix_cons c behind)
  | case6 =>
    cases found
    exact List.suffix_refl _

/-- A text that opens with a digit has digits. -/
theorem takeDigits_suffix_of_digit {base : Nat} {c : Char} {behind digits rest : List Char}
    (digit : isDigitTo base c = true) (found : takeDigits base (c :: behind) = some (digits, rest)) :
    rest <:+ behind := by
  have plain : c ≠ '_' := by
    rintro rfl
    cases digit
  rw [takeDigits, if_pos digit] at found
  · obtain ⟨more, before⟩ := exists_of_map found fun _ => rfl
    exact takeDigits_suffix before
  · exact plain

/-- What is left behind a fraction is the end of the text. -/
theorem takeFraction_suffix {chars rest : List Char} {hasPoint : Bool}
    (found : takeFraction chars = some (hasPoint, rest)) : rest <:+ chars := by
  unfold takeFraction at found
  split at found
  · rename_i digits
    split at found
    · obtain ⟨more, before⟩ := exists_of_map found fun _ => rfl
      exact (takeDigits_suffix before).trans (List.suffix_cons _ _)
    · cases found
      exact List.suffix_cons _ _
  · cases found
    exact List.suffix_refl _

/-- What is left behind an exponent is the end of the text. -/
theorem takeExponent_suffix {chars rest : List Char} {hasExponent : Bool}
    (found : takeExponent chars = some (hasExponent, rest)) : rest <:+ chars := by
  unfold takeExponent at found
  split at found
  · cases found
    exact List.suffix_refl _
  · rename_i c behind
    split at found
    · cases found
      exact List.suffix_refl _
    · dsimp only at found
      generalize signed : (behind.head?.any fun c => c == '+' || c == '-') = isSigned at found
      have inside : (if isSigned = true then behind.drop 1 else behind) <:+ c :: behind := by
        refine List.IsSuffix.trans ?_ (List.suffix_cons c behind)
        cases isSigned
        · exact List.suffix_refl _
        · exact List.drop_suffix 1 behind
      generalize (if isSigned = true then behind.drop 1 else behind) = digits at found inside
      by_cases digital : opensWithDigit digits = true
      · rw [if_pos digital] at found
        obtain ⟨more, before⟩ := exists_of_map found fun _ => rfl
        exact (takeDigits_suffix before).trans inside
      · rw [if_neg digital] at found
        split at found
        · cases found
        · cases found
          exact List.suffix_refl _

/-- What is left where a number ends is the end of the text. -/
theorem endNumber_rest {kind : String} {token : Token} {rest : List Char} {numeral : Numeral}
    (found : endNumber kind token rest = some numeral) : numeral.rest = rest ∧ numeral.token = token := by
  unfold endNumber at found
  split at found
  · cases found
    exact ⟨rfl, rfl⟩
  · split at found
    · cases found
    · cases found
      exact ⟨rfl, rfl⟩

/-- Whether a token is a number. -/
def Token.isNumeric : Token → Bool
  | number _ | fraction | imaginary | vast => true
  | _ => false

/-- Digits make for a number. -/
theorem integerToken_isNumeric (digits : List Char) : (integerToken digits).isNumeric = true := by
  unfold integerToken
  split <;> rfl

/-- What is left where a number to the base ten ends is the end of the text, and the token is a number. -/
theorem endDecimal_rest {whole rest : List Char} {hasPoint hasExponent : Bool} {numeral : Numeral}
    (found : endDecimal whole hasPoint hasExponent rest = some numeral) :
    numeral.rest <:+ rest ∧ numeral.token.isNumeric = true := by
  unfold endDecimal at found
  dsimp only at found
  split at found
  · obtain ⟨left, token⟩ := endNumber_rest found
    rw [left, token]
    exact ⟨List.suffix_cons _ _, rfl⟩
  · obtain ⟨left, token⟩ := endNumber_rest found
    rw [left, token]
    exact ⟨List.suffix_cons _ _, rfl⟩
  · obtain ⟨left, token⟩ := endNumber_rest found
    rw [left, token]
    refine ⟨List.suffix_refl _, ?_⟩
    split
    · rfl
    · exact integerToken_isNumeric whole
  · split at found
    · obtain ⟨left, token⟩ := endNumber_rest found
      rw [left, token]
      exact ⟨List.suffix_refl _, rfl⟩
    · split at found
      · cases found
      · obtain ⟨left, token⟩ := endNumber_rest found
        rw [left, token]
        exact ⟨List.suffix_refl _, integerToken_isNumeric whole⟩

/-- A decimal digit is one to the base ten. -/
theorem isDigitTo_of_isDigit {c : Char} (digit : c.isDigit = true) : isDigitTo 10 c = true := by
  have bounds : 48 ≤ c.toNat ∧ c.toNat ≤ 57 := by
    simpa [Char.isDigit, UInt32.le_iff_toNat_le] using digit
  have small : c.toNat - 48 < 10 := by omega
  simpa [isDigitTo, digitTo?, digit] using small

/-- What is left behind a number to the base ten is the end of the text without its first character, and the
token is a number. -/
theorem takeDecimal_rest {c : Char} {behind : List Char} {numeral : Numeral}
    (digits : opensWithDigit (c :: behind) = true ∨ c = '.' ∧ opensWithDigit behind = true)
    (found : takeDecimal (c :: behind) = some numeral) :
    numeral.rest <:+ behind ∧ numeral.token.isNumeric = true := by
  unfold takeDecimal at found
  simp only [Option.bind_eq_bind, Option.bind_eq_some_iff] at found
  obtain ⟨⟨whole, first⟩, wholeFound, ⟨hasPoint, second⟩, fractionFound, ⟨hasExponent, third⟩,
    exponentFound, ended⟩ := found
  obtain ⟨numeralEnd, numeric⟩ := endDecimal_rest ended
  have exponentEnd : third <:+ second := takeExponent_suffix exponentFound
  have fractionEnd : second <:+ behind := by
    rcases digits with digital | ⟨rfl, digital⟩
    · exact (takeFraction_suffix fractionFound).trans
        (takeDigits_suffix_of_digit (isDigitTo_of_isDigit digital) wholeFound)
    · have nothing : takeDigits 10 ('.' :: behind) = some ([], '.' :: behind) := by
        rw [takeDigits, if_neg (by decide)]
        decide
      cases nothing.symm.trans wholeFound
      simp only [takeFraction, digital, if_true] at fractionFound
      obtain ⟨more, before⟩ := exists_of_map fractionFound fun _ => rfl
      exact takeDigits_suffix before
  exact ⟨numeralEnd.trans (exponentEnd.trans fractionEnd), numeric⟩

/-- What is left behind a number is the end of the text without its first character, and the token is a
number. -/
theorem takeNumber_rest {c : Char} {behind : List Char} {numeral : Numeral}
    (digits : opensWithDigit (c :: behind) = true ∨ c = '.' ∧ opensWithDigit behind = true)
    (found : takeNumber (c :: behind) = some numeral) :
    numeral.rest <:+ behind ∧ numeral.token.isNumeric = true := by
  unfold takeNumber at found
  split at found
  · rename_i letter rest same
    obtain ⟨rfl, rfl⟩ := List.cons.inj same
    split at found
    · exact takeDecimal_rest digits found
    · simp only [Option.bind_eq_bind, Option.bind_eq_some_iff] at found
      obtain ⟨⟨inside, left⟩, taken, ended⟩ := found
      dsimp only at ended
      split at ended
      · cases ended
      · obtain ⟨same, token⟩ := endNumber_rest ended
        rw [same, token]
        exact ⟨(takeDigits_suffix taken).trans (List.suffix_cons letter rest), rfl⟩
  · exact takeDecimal_rest digits found

/-- What is left behind a text between single quotes is the end of the text. -/
theorem takeShort_suffix {quote : Char} {chars inside rest : List Char}
    (found : takeShort quote chars = some (inside, rest)) : rest <:+ chars := by
  fun_induction takeShort quote chars generalizing inside with
  | case1 => cases found
  | case2 c behind ih =>
    obtain ⟨more, before⟩ := exists_of_map found fun _ => rfl
    exact (ih before).trans ((List.suffix_cons c behind).trans (List.suffix_cons _ _))
  | case3 =>
    cases found
    exact List.suffix_cons _ _
  | case4 => cases found
  | case5 c behind _ _ _ ih =>
    obtain ⟨more, before⟩ := exists_of_map found fun _ => rfl
    exact (ih before).trans (List.suffix_cons c behind)

/-- What is left behind a text between three quotes is the end of the text. -/
theorem takeLong_suffix {quote : Char} {chars inside rest : List Char}
    (found : takeLong quote chars = some (inside, rest)) : rest <:+ chars := by
  fun_induction takeLong quote chars generalizing inside with
  | case1 => cases found
  | case2 c behind ih =>
    obtain ⟨more, before⟩ := exists_of_map found fun _ => rfl
    exact (ih before).trans ((List.suffix_cons c behind).trans (List.suffix_cons _ _))
  | case3 c behind =>
    cases found
    exact (List.drop_suffix 2 behind).trans (List.suffix_cons c behind)
  | case4 c behind _ _ ih =>
    obtain ⟨more, before⟩ := exists_of_map found fun _ => rfl
    exact (ih before).trans (List.suffix_cons c behind)

/-- What is left behind a quoted text is the end of the text without its first quote. -/
theorem takeInside_suffix {quote : Char} {behind inside rest : List Char}
    (found : takeInside (quote :: behind) = some (inside, rest)) : rest <:+ behind := by
  rw [takeInside] at found
  split at found
  · exact (takeLong_suffix found).trans (List.drop_suffix 2 behind)
  · exact takeShort_suffix found

/-- Whether a token stands inside a line: it tells nothing of where lines begin and end. -/
def Token.isInline : Token → Bool
  | lineEnd | indent | dedent | finish => false
  | _ => true

/-- What it is to add the token that a text opens with: a token from inside a line is added, at least one
character is passed, and where lines stand is the same. -/
structure Adds (position after : Position) (behind left : List Char) : Prop where
  /-- What is left is the end of the text without its first character. -/
  shorter : left <:+ behind
  /-- One token is added. -/
  pushed : ∃ placed, after.tokens = position.tokens.push placed ∧ placed.token.isInline = true
  /-- Where the lines stand. -/
  margins : after.margins = position.margins

/-- A mark has at least one character. -/
theorem takeMark_suffix (c : Char) (behind : List Char) : (takeMark (c :: behind)).2 <:+ behind := by
  have long : ∀ mark ∈ longMarks, 1 ≤ mark.length := by decide
  have length : 1 ≤ (takeMark (c :: behind)).1.length := by
    unfold takeMark
    dsimp only
    cases found : longMarks.find? fun mark => mark.toList.isPrefixOf (c :: behind) with
    | none => simp
    | some mark => exact long mark (List.mem_of_find?_eq_some found)
  obtain ⟨more, same⟩ := Nat.exists_eq_add_of_le' length
  have left : (takeMark (c :: behind)).2 = (c :: behind).drop (takeMark (c :: behind)).1.length := rfl
  rw [left, same, List.drop_succ_cons]
  exact List.drop_suffix more behind

/-- What adding a mark does. -/
theorem adds_of_addMark {position after : Position} {c : Char} {behind left : List Char}
    (added : addMark position (c :: behind) = some (after, left)) : Adds position after behind left := by
  have shorter := takeMark_suffix c behind
  unfold addMark at added
  dsimp only at added
  split at added
  · split at added
    · cases added
    · cases added
      exact ⟨shorter, ⟨_, rfl, rfl⟩, rfl⟩
  · split at added
    · split at added
      · cases added
      · split at added
        · cases added
          exact ⟨shorter, ⟨_, rfl, rfl⟩, rfl⟩
        · cases added
    · split at added
      · cases added
      · cases added
        exact ⟨shorter, ⟨_, rfl, rfl⟩, rfl⟩

/-- The token of a quoted text stands inside a line. -/
theorem Manner.isInline_token (manner : Manner) (inside : List Char) :
    (manner.token inside).isInline = true := by
  unfold Manner.token
  split
  · rfl
  · split
    · rfl
    · dsimp only
      split
      · rfl
      · split
        · rfl
        · split <;> rfl

/-- The token of a word stands inside a line. -/
theorem isInline_wordToken (word : List Char) : (wordToken word).isInline = true := by
  unfold wordToken
  dsimp only
  split <;> rfl

/-- A number stands inside a line. -/
theorem isInline_of_isNumeric {token : Token} (numeric : token.isNumeric = true) :
    token.isInline = true := by
  cases token <;> first | rfl | cases numeric

/-- What adding a token does. -/
theorem adds_of_addToken {position after : Position} {c : Char} {behind left : List Char}
    (added : addToken position (c :: behind) = some (after, left)) : Adds position after behind left := by
  unfold addToken at added
  generalize word : (if opensWithDigit (c :: behind) = true then []
    else (c :: behind).takeWhile mayBelongToWord) = front at added
  have within : (c :: behind).drop front.length <:+ c :: behind := List.drop_suffix _ _
  have shorter : front ≠ [] → (c :: behind).drop front.length <:+ behind := by
    intro filled
    obtain ⟨length, same⟩ := Nat.exists_eq_add_of_le' (List.length_pos_iff.2 filled)
    rw [same, List.drop_succ_cons]
    exact List.drop_suffix length behind
  dsimp only at added
  split at added
  · rename_i manner _ quoted
    cases opens : (c :: behind).drop front.length with
    | nil =>
      rw [opens] at quoted
      cases quoted
    | cons quote rest =>
      rw [opens] at added within shorter
      simp only [Option.bind_eq_bind, Option.bind_eq_some_iff] at added
      obtain ⟨⟨inside, last⟩, taken, same⟩ := added
      cases same
      refine ⟨?_, ⟨_, rfl, manner.isInline_token inside⟩, rfl⟩
      have rests : rest <:+ behind := by
        obtain ⟨before, parted⟩ := within
        cases before with
        | nil =>
          cases parted
          exact List.suffix_refl _
        | cons first others =>
          have tail : others ++ quote :: rest = behind := (List.cons.inj parted).2
          exact ⟨others ++ [quote], by rw [List.append_assoc, List.singleton_append, tail]⟩
      exact (takeInside_suffix taken).trans rests
  · split at added
    · rename_i filled
      split at added
      · cases added
        have some : front ≠ [] := by
          rintro rfl
          cases filled
        exact ⟨shorter some, ⟨_, rfl, isInline_wordToken front⟩, rfl⟩
      · cases added
    · split at added
      · rename_i digital
        simp only [Option.bind_eq_bind, Option.bind_eq_some_iff] at added
        obtain ⟨numeral, taken, same⟩ := added
        cases same
        have digits : opensWithDigit (c :: behind) = true ∨ c = '.' ∧ opensWithDigit behind = true := by
          simpa using digital
        obtain ⟨rests, numeric⟩ := takeNumber_rest digits taken
        exact ⟨rests, ⟨_, rfl, isInline_of_isNumeric numeric⟩, rfl⟩
      · exact adds_of_addMark added

end LiveConsole.Program
