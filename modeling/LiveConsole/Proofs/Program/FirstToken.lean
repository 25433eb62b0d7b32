import LiveConsole.Line
import LiveConsole.Proofs.Program.OneLine
import LiveConsole.Proofs.Program.Semicolon
import LiveConsole.Program.Read

/-!
# The first token of a program

A scan keeps the tokens that it has found, so the first token of a program is the one that its text opens with.
A text that opens with a token that opens no statement is no program, whatever stands behind it.
-/
namespace LiveConsole

namespace Text

/-- Ranges of codes beyond ASCII that hold all blanks there, and nothing that a name goes on with. -/
def blankRanges : List (Nat × Nat) :=
  [(0x80, 0xA0), (0x1680, 0x1680), (0x2000, 0x202F), (0x205F, 0x205F), (0x3000, 0x3000)]

/-- A blank beyond ASCII lies in these ranges. -/
theorem inRanges_of_isBlank {c : Char} (blank : isBlank c = true) (beyond : 0x80 ≤ c.toNat) :
    inRanges blankRanges c.toNat = true := by
  simp only [isBlank, Bool.or_eq_true, Bool.and_eq_true, decide_eq_true_eq, beq_iff_eq] at blank
  simp only [inRanges, blankRanges, List.any_cons, List.any_nil, Bool.or_eq_true, Bool.and_eq_true,
    decide_eq_true_eq, Bool.or_false]
  omega

/-- What lies in ranges does not lie in others that are apart from them. -/
theorem inRanges_of_apart {first second : List (Nat × Nat)} {code : Nat}
    (apart : first.all (fun range => second.all fun other => other.2 < range.1 || range.2 < other.1) = true)
    (inside : inRanges first code = true) : inRanges second code = false := by
  cases outside : inRanges second code with
  | false => rfl
  | true =>
    obtain ⟨range, member, within⟩ := List.any_eq_true.1 inside
    obtain ⟨other, otherMember, alsoWithin⟩ := List.any_eq_true.1 outside
    have differ := List.all_eq_true.1 (List.all_eq_true.1 apart range member) other otherMember
    simp only [Bool.and_eq_true, Bool.or_eq_true, decide_eq_true_eq] at within alsoWithin differ
    omega

/-- No blank goes on with a name. -/
theorem continuesName_of_isBlank {c : Char} (blank : isBlank c = true) : continuesName c = false := by
  unfold continuesName
  split
  · have small : c.toNat ≤ 0x20 := by
      simp only [isBlank, Bool.or_eq_true, Bool.and_eq_true, decide_eq_true_eq, beq_iff_eq] at blank
      omega
    have apart : ∀ code ∈ List.range 0x21,
        ((Char.ofNat code).isAlphanum || Char.ofNat code == '_') = false := by decide
    rw [← Char.ofNat_toNat c]
    exact apart _ (List.mem_range.2 (Nat.lt_succ_of_le small))
  · rename_i late
    have inside := inRanges_of_isBlank blank (Nat.le_of_not_lt late)
    rw [inRanges_of_apart (by decide +kernel) inside, inRanges_of_apart (by decide +kernel) inside]
    rfl

end Text

namespace Program

variable {statements : List Statement}

/-! ## Tokens are kept -/

section Kept

variable {position after : Position} {front : List Placed}

/-- A token is added behind the others. -/
theorem isPrefix_add (found : front <+: position.tokens.toList) (token : Token) :
    front <+: (position.add token).tokens.toList := by
  rw [Position.add, Position.addOdd, Array.toList_push]
  exact found.trans (List.prefix_append _ _)

/-- Tokens are added behind the others. -/
theorem isPrefix_foldl_add (found : front <+: position.tokens.toList) (tokens : List Token) :
    front <+: (tokens.foldl (fun position token => position.add token) position).tokens.toList := by
  induction tokens generalizing position with
  | nil => exact found
  | cons token tokens ih => exact ih (isPrefix_add found token)

/-- Comparing where a line stands with the lines before keeps the tokens that were found. -/
theorem isPrefix_settle {margin : Margin} (settled : settle position margin = .ok after)
    (found : front <+: position.tokens.toList) : front <+: after.tokens.toList := by
  unfold settle at settled
  simp only at settled
  split at settled
  · split at settled <;> cases settled
    exact found
  · split at settled
    · split at settled
      · cases settled
      · split at settled <;> cases settled
        exact isPrefix_add found .indent
    · split at settled
      · cases settled
      · split at settled <;> cases settled
        refine isPrefix_foldl_add ?_ _
        exact found

/-- A scan keeps the tokens that it has found, however it goes on. -/
theorem isPrefix_scanGo (steps : Nat) (starting : Bool) (chars : List Char)
    (found : front <+: position.tokens.toList) :
    front <+: (scanGo steps starting position chars).tokens.toList := by
  induction steps generalizing starting position chars with
  | zero => exact found
  | succ steps ih =>
    cases starting with
    | true =>
      rw [scanGo]
      split
      · exact found
      · dsimp only
        split
        · split
          · exact ih _ _ found
          · exact ih _ _ found
        · split
          · split
            · exact found
            · rename_i settled
              exact ih _ _ (isPrefix_settle settled found)
          · exact ih _ _ found
    | false =>
      rw [scanGo.eq_def]
      dsimp only
      split
      · split
        · exact isPrefix_add found .finish
        · exact found
      · rename_i c rest
        split
        · exact ih _ _ found
        · split
          · exact ih _ _ found
          · split
            · refine ih _ _ ?_
              split
              · exact isPrefix_add found .lineEnd
              · exact found
            · split
              · split
                · exact ih _ _ found
                · exact found
              · split
                · rename_i between left added
                  obtain ⟨placed, pushed, -⟩ := (adds_of_addToken added).pushed
                  refine ih _ _ (found.trans ?_)
                  rw [pushed, Array.toList_push]
                  exact List.prefix_append _ _
                · exact found

end Kept

/-! ## The text of the first token -/

/-- The lines of a text open with what it opens with. -/
theorem exists_lined_append {front : List Char} (plain : '\r' ∉ front) (rest : List Char) :
    ∃ more, lined (String.ofList (front ++ rest)) = front ++ more := by
  unfold lined
  simp only [String.toList_ofList, Text.unifyLineEnds_append plain]
  split
  · exact ⟨_, rfl⟩
  · exact ⟨_, List.append_assoc ..⟩

/-- Three letters or more say nothing of a quoted text behind them. -/
theorem Manner.ofWord?_eq_none {word : List Char} (long : 3 ≤ word.length) : Manner.ofWord? word = none := by
  have length : 3 ≤ (word.map Char.toLower).length := by rwa [List.length_map]
  unfold Manner.ofWord?
  split
  all_goals first | rfl | skip
  all_goals
    rename_i same
    rw [same] at length
    exact absurd length (by decide)

/-- Where a text opens with `return` and no letter behind it, the token that is added is that keyword. -/
theorem addToken_return_of_stops (position : Position) {c : Char} (rest : List Char)
    (stops : mayBelongToWord c = false) :
    addToken position ("return".toList ++ c :: rest) =
      some (position.add (.keyword "return"), c :: rest) := by
  have letters : ∀ letter ∈ "return".toList, mayBelongToWord letter = true :=
    List.all_eq_true.1 (by decide)
  have noDigit : opensWithDigit ("return".toList ++ c :: rest) = false := by rfl
  have manner : Manner.ofWord? "return".toList = none := Manner.ofWord?_eq_none (by decide)
  have named : isWord "return".toList = true := by decide
  have keyword : wordToken "return".toList = .keyword "return" := by decide
  have filled : (!"return".toList.isEmpty) = true := by decide
  unfold addToken
  rw [noDigit, if_neg (by simp), List.takeWhile_append_of_pos letters,
    List.takeWhile_cons_of_neg (by simp [stops]), List.append_nil]
  simp only [manner, named, keyword, filled, if_true]
  rfl

/-- Where a text opens with `return` and a blank or a bracket, the token that is added is that keyword. -/
theorem addToken_return {position after : Position} {c : Char} {rest left : List Char}
    (ends : Line.endsWord c = true)
    (added : addToken position ("return".toList ++ c :: rest) = some (after, left)) :
    ∃ place, after.tokens = position.tokens.push ⟨.keyword "return", place⟩ := by
  have letters : ∀ letter ∈ "return".toList, mayBelongToWord letter = true :=
    List.all_eq_true.1 (by decide)
  have noDigit : opensWithDigit ("return".toList ++ c :: rest) = false := by rfl
  by_cases goesOn : mayBelongToWord c = true
  · -- The blank is taken for a part of the word, which is no name then.
    have blank : Text.isBlank c = true := by
      rw [Line.endsWord, Bool.or_eq_true, beq_iff_eq] at ends
      rcases ends with rfl | blank
      · cases goesOn
      · exact blank
    have unnamed : isWord ("return".toList ++ (c :: rest).takeWhile mayBelongToWord) = false := by
      have other := Text.continuesName_of_isBlank blank
      rw [List.takeWhile_cons_of_pos goesOn]
      have word : "return".toList ++ c :: rest.takeWhile mayBelongToWord =
          'r' :: ("eturn".toList ++ c :: rest.takeWhile mayBelongToWord) := by rfl
      rw [word, isWord, List.all_append, List.all_cons, other]
      simp
    have manner : Manner.ofWord? ("return".toList ++ (c :: rest).takeWhile mayBelongToWord) = none :=
      Manner.ofWord?_eq_none (by simp)
    unfold addToken at added
    rw [noDigit, if_neg (by simp), List.takeWhile_append_of_pos letters] at added
    simp only [manner, unnamed] at added
    simp at added
  · rw [addToken_return_of_stops position rest (by simpa using goesOn)] at added
    cases added
    exact ⟨_, rfl⟩

/-! ## Texts that are no programs -/

/-- What can be read is cut into tokens to its end, and these form its statements. -/
theorem scan_of_read {text : String} (readable : (read text).outcome = .ok statements) :
    '\x00' ∉ text.toList ∧ (scan text).trouble = none ∧
      statements? (scan text).tokens.toList = some statements := by
  unfold read at readable
  split at readable
  · cases readable
  · rename_i plain
    refine ⟨by simpa using plain, ?_⟩
    dsimp only at readable
    split at readable
    · cases readable
    · cases readable
    · rename_i found none some
      cases readable
      cases trouble : (scan text).trouble with
      | none =>
        rw [trouble] at some
        exact ⟨rfl, some⟩
      | some _ =>
        rw [trouble] at some
        cases some

/-- A text whose first token opens no statement is no program. -/
theorem read_of_opensNothing {text : String} {c : Char} {rest left : List Char} {between : Position}
    {first : Placed} (front : lined text = c :: rest) (opens : opensToken c = true)
    (added : addToken .start (c :: rest) = some (between, left))
    (alone : between.tokens.toList = [first]) (nothing : first.token.opensNothing = true) :
    ∃ fault, (read text).outcome = .error fault := by
  cases outcome : (read text).outcome with
  | error fault => exact ⟨fault, rfl⟩
  | ok statements =>
    obtain ⟨-, -, formed⟩ := scan_of_read outcome
    obtain ⟨steps, enough⟩ : ∃ steps, 2 * (c :: rest).length + 2 = steps + 2 := ⟨_, rfl⟩
    have scanned : scan text = scanGo steps false between left := by
      rw [scan, front, enough, scanGo_line opens, scanGo_token opens, added]
    obtain ⟨more, tokens⟩ := isPrefix_scanGo steps false left (List.prefix_refl between.tokens.toList)
    rw [scanned, ← tokens, alone, List.singleton_append, statements?_of_opensNothing nothing] at formed
    cases formed

end Program

end LiveConsole
