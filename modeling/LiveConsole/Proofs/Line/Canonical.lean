import LiveConsole.Proofs.Line.Normal

/-!
# Lines that are the same to the read loop

Two lines have one normal form exactly when they are one text with blanks in front of it and semicolons behind
it. The normal forms are the texts that open with no blank and end in exactly one semicolon, and each of them is
its own normal form. Evaluating a line asks for nothing but its normal form, so lines that have the same one are
of the same kind, and the same code is run for them.
-/
namespace LiveConsole

open Text

namespace Line

/-- Semicolons, so many. -/
def semicolons (count : Nat) : String := String.ofList (List.replicate count ';')

/-- Whether a text is its own part of a line: it opens with no blank and ends in no semicolon. -/
structure IsBare (text : String) : Prop where
  /-- The first character is no blank. -/
  opens : text.toList.head?.any isBlank = false
  /-- The last character is no semicolon. -/
  ends : text.toList.getLast? ≠ some ';'

instance (text : String) : Decidable (IsBare text) :=
  decidable_of_iff (text.toList.head?.any isBlank = false ∧ text.toList.getLast? ≠ some ';')
    ⟨fun ⟨opens, ends⟩ => ⟨opens, ends⟩, fun bare => ⟨bare.opens, bare.ends⟩⟩

/-- Whether a text is in normal form: no blank in front, and one semicolon behind what ends in none. -/
def IsNormal (text : String) : Prop := ∃ bare, IsBare bare ∧ text = bare ++ ";"

/-- Whether a line spells a text: it is that text with blanks in front and semicolons behind. -/
def Spells (line text : String) : Prop :=
  ∃ gap count, allBlank gap = true ∧ line = gap ++ text ++ semicolons count

/-! ## Trimming -/

/-- Semicolons are no blanks. -/
theorem trimStart_replicate (count : Nat) :
    trimStart (List.replicate count ';') = List.replicate count ';' := by
  cases count with
  | zero => rfl
  | succ count => exact trimStart_cons_of_not_blank (by decide)

/-- Trimming the front of a line does not reach the semicolons at its end, not even where all else is blank. -/
theorem trimStart_append_replicate (chars : List Char) (count : Nat) :
    trimStart (chars ++ List.replicate count ';') = trimStart chars ++ List.replicate count ';' := by
  have kept := trimStart_replicate count
  unfold trimStart at kept ⊢
  rw [List.dropWhile_append]
  split
  · rename_i empty
    rw [kept, List.isEmpty_iff.1 empty, List.nil_append]
  · rfl

/-- Semicolons at the end of a line go with those in front of them. -/
theorem bare_append_replicate (chars : List Char) (count : Nat) :
    Program.bare (chars ++ List.replicate count ';') = Program.bare chars := by
  have only : ∀ c ∈ List.replicate count ';', (c == ';') = true := by
    intro c member
    rw [List.eq_of_mem_replicate member]
    rfl
  rw [Program.bare, dropEndWhile, List.reverse_append, List.reverse_replicate,
    List.dropWhile_append_of_pos only]
  rfl

/-! ## Lines and the texts that they spell -/

/-- The text that a line spells. -/
def bareOf (line : String) : String := String.ofList (Program.bare (trimStart line.toList))

/-- The normal form of a line is the text that it spells with a semicolon. -/
theorem normalize_eq_bareOf (line : String) : normalize line = bareOf line ++ ";" := by
  rw [← String.toList_inj, toList_normalize, String.toList_append, bareOf, String.toList_ofList]
  rfl

/-- What is left of a line opens with no blank and ends in no semicolon. -/
theorem isBare_bareOf (line : String) : IsBare (bareOf line) := by
  obtain ⟨count, parted⟩ := Program.exists_replicate_bare (trimStart line.toList)
  have solid := Program.head?_trimStart line.toList
  rw [bareOf]
  refine ⟨?_, ?_⟩
  · rw [String.toList_ofList]
    cases kept : Program.bare (trimStart line.toList) with
    | nil => rfl
    | cons c rest =>
      rw [parted, kept] at solid
      exact solid
  · rw [String.toList_ofList]
    exact Program.getLast?_bare _

/-- A line spells what is left of it. -/
theorem spells_bareOf (line : String) : Spells line (bareOf line) := by
  obtain ⟨count, parted⟩ := Program.exists_replicate_bare (trimStart line.toList)
  refine ⟨String.ofList (line.toList.takeWhile isBlank), count, ?_, ?_⟩
  · rw [allBlank, String.toList_ofList, List.all_takeWhile]
  · rw [← String.toList_inj, bareOf, semicolons, String.toList_append, String.toList_append,
      String.toList_ofList, String.toList_ofList, String.toList_ofList, List.append_assoc, ← parted,
      trimStart, List.takeWhile_append_dropWhile]

/-- Blanks in front of a line and semicolons behind it leave what it spells. -/
theorem bareOf_padded {gap : String} (blank : allBlank gap = true) (line : String) (count : Nat) :
    bareOf (gap ++ line ++ semicolons count) = bareOf line := by
  have blanks : ∀ c ∈ gap.toList, isBlank c = true := List.all_eq_true.1 blank
  have front : trimStart (gap.toList ++ (line.toList ++ List.replicate count ';')) =
      trimStart (line.toList ++ List.replicate count ';') := List.dropWhile_append_of_pos blanks
  rw [bareOf, String.toList_append, String.toList_append, semicolons, String.toList_ofList,
    List.append_assoc, front, trimStart_append_replicate, bare_append_replicate, bareOf]

/-- A text that opens with no blank and ends in no semicolon spells itself. -/
theorem bareOf_of_isBare {text : String} (bare : IsBare text) : bareOf text = text := by
  have front : trimStart text.toList = text.toList := by
    cases opening : text.toList with
    | nil => rfl
    | cons c rest =>
      have solid := bare.opens
      rw [opening] at solid
      exact trimStart_cons_of_not_blank solid
  have kept : ∀ last, text.toList.getLast? = some last → (last == ';') = false := by
    intro last found
    rw [beq_eq_false_iff_ne]
    rintro rfl
    exact bare.ends found
  have whole := dropEndWhile_append_of_kept [] kept
  rw [List.append_nil] at whole
  rw [bareOf, front, Program.bare, whole]
  exact (congrArg String.ofList (List.append_nil _)).trans String.ofList_toList

/-- A line that spells a text which opens with no blank and ends in no semicolon has that text left of it. -/
theorem Spells.bareOf_eq {line text : String} (spells : Spells line text) : bareOf line = bareOf text := by
  obtain ⟨gap, count, blank, rfl⟩ := spells
  exact bareOf_padded blank text count

/-! ## Normal forms -/

/-- Normal forms are the same when what is left of the lines is. -/
theorem normalize_congr_iff {first second : String} :
    normalize first = normalize second ↔ bareOf first = bareOf second := by
  rw [normalize_eq_bareOf, normalize_eq_bareOf]
  refine ⟨fun same => ?_, fun same => by rw [same]⟩
  have chars := congrArg String.toList same
  rw [String.toList_append, String.toList_append] at chars
  exact String.toList_inj.1 (List.append_cancel_right chars)

/-- A text in normal form is its own normal form. -/
theorem normalize_of_isNormal {text : String} (normal : IsNormal text) : normalize text = text := by
  obtain ⟨bare, isBare, rfl⟩ := normal
  have spells : Spells (bare ++ ";") bare := ⟨"", 1, rfl, by rw [String.empty_append]; rfl⟩
  rw [normalize_eq_bareOf, spells.bareOf_eq, bareOf_of_isBare isBare]

/-- What a line comes to is in normal form. -/
theorem isNormal_normalize (line : String) : IsNormal (normalize line) :=
  ⟨bareOf line, isBare_bareOf line, normalize_eq_bareOf line⟩

/-- The normal forms of lines are the texts in normal form. -/
theorem exists_normalize_eq_iff {text : String} : (∃ line, normalize line = text) ↔ IsNormal text := by
  constructor
  · rintro ⟨line, rfl⟩
    exact isNormal_normalize line
  · exact fun normal => ⟨text, normalize_of_isNormal normal⟩

/-- Lines have one normal form exactly when they spell one text. -/
theorem normalize_eq_iff {first second : String} :
    normalize first = normalize second ↔ ∃ text, Spells first text ∧ Spells second text := by
  rw [normalize_congr_iff]
  constructor
  · intro same
    exact ⟨bareOf first, spells_bareOf first, same ▸ spells_bareOf second⟩
  · rintro ⟨text, spells, alsoSpells⟩
    rw [spells.bareOf_eq, alsoSpells.bareOf_eq]

/-! ## Leading words -/

/-- A word leads a line when it opens the line with what ends a word behind it. -/
theorem isSome_afterWord_iff {word : String} {chars : List Char} :
    (afterWord word chars).isSome = true ↔ ∃ c, endsWord c = true ∧ word.toList ++ [c] <+: chars := by
  rw [Option.isSome_iff_exists]
  constructor
  · rintro ⟨rest, found⟩
    obtain ⟨c, tail, ends, -, parted⟩ := afterWord_eq_some_iff.1 found
    exact ⟨c, ends, tail, by rw [parted, List.append_assoc, List.singleton_append]⟩
  · rintro ⟨c, ends, tail, parted⟩
    rw [List.append_assoc, List.singleton_append] at parted
    exact ⟨c :: tail, afterWord_eq_some_iff.2 ⟨c, tail, ends, rfl, parted.symm⟩⟩

/-- No word leads a line because of the semicolons at its end. -/
theorem isSome_afterWord_append_replicate (word : String) (chars : List Char) (count : Nat) :
    (afterWord word (chars ++ List.replicate count ';')).isSome = (afterWord word chars).isSome := by
  rw [Bool.eq_iff_iff, isSome_afterWord_iff, isSome_afterWord_iff]
  constructor
  · rintro ⟨c, ends, front⟩
    refine ⟨c, ends, ?_⟩
    rcases List.prefix_or_prefix_of_prefix front (List.prefix_append chars _) with inside | ⟨rest, beyond⟩
    · exact inside
    · rcases List.eq_nil_or_concat rest with rfl | ⟨rest, last, rfl⟩
      · exact ⟨[], by rw [← beyond, List.append_nil, List.append_nil]⟩
      · -- The character behind the word would be one of the semicolons, and those end no word.
        rw [List.concat_eq_append] at beyond
        obtain ⟨behind, parted⟩ := front
        rw [← beyond, List.append_assoc, List.append_cancel_left_eq] at parted
        have member : last ∈ List.replicate count ';' := by
          rw [← parted]
          simp
        rw [List.eq_of_mem_replicate member, ← List.append_assoc] at beyond
        obtain ⟨-, same⟩ := List.append_inj' beyond rfl
        rw [← List.singleton_inj.1 same] at ends
        exact absurd ends (by decide)
  · rintro ⟨c, ends, front⟩
    exact ⟨c, ends, front.trans (List.prefix_append chars _)⟩

/-- The kind of a line does not depend on the semicolons at its end. -/
theorem classify_append_semicolons (line : String) (count : Nat) :
    classify (line ++ semicolons count) = classify line := by
  simp only [classify, String.toList_append, semicolons, String.toList_ofList,
    isSome_afterWord_append_replicate]

/-- With `return` in front a line is left as it is. -/
theorem asReturn_asReturn (line : String) : asReturn (asReturn line) = asReturn line := by
  have opened : (afterWord "return" (asReturn line).toList).isSome = true := by
    unfold asReturn
    split
    · rename_i opens
      exact opens
    · rw [String.toList_append]
      exact isSome_afterWord_iff.2 ⟨' ', by decide, line.toList, rfl⟩
  rw [asReturn, if_pos opened]

end Line

namespace Loop

open Line

/-- Evaluating a line asks for nothing but its normal form. -/
theorem evaluate_congr {State : Type} (around : Surroundings State) (quiet : Bool) {first second : String}
    (same : normalize first = normalize second) (state : State) :
    evaluate around quiet first state = evaluate around quiet second state := by
  unfold evaluate
  rw [same]

/--
Bringing lines to normal form settles which lines are the same. Blanks in front of a line and semicolons behind
it make no difference; a second time changes nothing; the normal forms are the texts in normal form, each its own;
and lines that have one normal form spell one text. So the kind of a line, the code that is run for it and
all that comes of evaluating it do not depend on the blanks in front and the semicolons behind. Putting
`return` in front a second time changes nothing either, whatever the line.
-/
theorem normal_form_is_canonical {gap : String} (blank : allBlank gap = true) (line : String) (count : Nat) :
    normalize (gap ++ line ++ semicolons count) = normalize line ∧
    normalize (normalize line) = normalize line ∧
    (∀ text, (∃ line, normalize line = text) ↔ IsNormal text) ∧
    (∀ text, IsNormal text → normalize text = text) ∧
    (∀ other, normalize line = normalize other ↔ ∃ text, Spells line text ∧ Spells other text) ∧
    kindOf (gap ++ line ++ semicolons count) = kindOf line ∧
    classify (line ++ semicolons count) = classify line ∧
    code (gap ++ line ++ semicolons count) = code line ∧
    (∀ {State : Type} (around : Surroundings State) (quiet : Bool) (state : State),
      evaluate around quiet (gap ++ line ++ semicolons count) state = evaluate around quiet line state) ∧
    asReturn (asReturn line) = asReturn line := by
  have padded : normalize (gap ++ line ++ semicolons count) = normalize line :=
    normalize_congr_iff.2 (bareOf_padded blank line count)
  refine ⟨padded, normalize_of_isNormal (isNormal_normalize line), fun _ => exists_normalize_eq_iff,
    fun _ => normalize_of_isNormal, fun _ => normalize_eq_iff, ?_, classify_append_semicolons line count, ?_,
    fun around quiet state => evaluate_congr around quiet padded state, asReturn_asReturn line⟩
  · rw [kindOf, padded, kindOf]
  · rw [code, padded, code]

/-- Semicolons between blanks stay where they are, those at the end become one, and the kind is that of the line
without the blanks in front. -/
theorem normal_form_of_padded_loop :
    allBlank "\t" = true ∧ normalize ("\t" ++ "for x in y: ; " ++ semicolons 3) = "for x in y: ; ;" ∧
      kindOf ("\t" ++ "for x in y: ; " ++ semicolons 3) = .statement := by
  have blank : allBlank "\t" = true := by decide
  obtain ⟨padded, -, -, -, -, kind, -⟩ := normal_form_is_canonical blank "for x in y: ; " 3
  rw [padded, kind]
  decide

end Loop

end LiveConsole
