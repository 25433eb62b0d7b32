import LiveConsole.Proofs.Program.Lexing
import LiveConsole.Proofs.Text.Utf8

/-!
# Programs of one line

A scan passes a line token by token and leaves out the blanks between them and a comment. What stands in front
of the semicolons at the end of a line is passed alike, however many there are. So the tokens of a program of
one line are those in front, the semicolons unless they are part of a comment, and the end of the program.
-/
namespace LiveConsole.Program

variable {position after : Position} {chars tail rest : List Char} {isComment : Bool}

/-! ## The inside of a line -/

/-- Whether a token may open with a character. -/
def opensToken (c : Char) : Bool := !isGap c && c != '#' && c != '\n' && c != '\\'

section Steps

variable {steps : Nat} {c : Char}

/-- A scan leaves out a blank. -/
theorem scanGo_gap (separates : isGap c = true) (rest : List Char) :
    scanGo (steps + 1) false position (c :: rest) = scanGo steps false position rest := by
  rw [scanGo.eq_def]
  simp only [separates, if_true]

/-- A scan leaves out a comment. -/
theorem scanGo_comment (rest : List Char) :
    scanGo (steps + 1) false position ('#' :: rest) =
      scanGo steps false position (rest.dropWhile (· != '\n')) := by
  rw [scanGo.eq_def]
  rfl

/-- A scan stops at a backslash that goes on to no other line. -/
theorem scanGo_escape (alone : ∀ next more, rest = '\n' :: next :: more → False) :
    scanGo (steps + 1) false position ('\\' :: rest) = position.stop (some brokenOff) := by
  rw [scanGo, if_neg (by decide), if_neg (by decide), if_neg (by decide), if_pos (by decide)]
  exact alone

/-- A scan adds the token that opens. -/
theorem scanGo_token (opens : opensToken c = true) (rest : List Char) :
    scanGo (steps + 1) false position (c :: rest) =
      match addToken position (c :: rest) with
      | some (between, left) => scanGo steps false between left
      | none => position.stop (some .told) := by
  simp only [opensToken, Bool.and_eq_true, Bool.not_eq_true', bne_iff_ne] at opens
  obtain ⟨⟨⟨separates, opensComment⟩, noEnd⟩, escape⟩ := opens
  rw [scanGo.eq_def]
  simp only [separates, beq_eq_false_iff_ne.2 opensComment, beq_eq_false_iff_ne.2 noEnd, beq_eq_false_iff_ne.2 escape]
  rfl

end Steps

/-- How a scan passes the inside of a line: it comes to its end, or to a comment. -/
inductive Passes : Position → List Char → Position → Bool → Prop
  /-- The line is passed. -/
  | ended {position : Position} : Passes position [] position false
  /-- Blanks between tokens are left out. -/
  | gap {position after : Position} {c : Char} {rest : List Char} {isComment : Bool}
      (separates : isGap c = true) (passes : Passes position rest after isComment) :
      Passes position (c :: rest) after isComment
  /-- All of a comment is left out. -/
  | comment {position : Position} {rest : List Char} : Passes position ('#' :: rest) position true
  /-- A token is added. -/
  | token {position between after : Position} {c : Char} {rest left : List Char} {isComment : Bool}
      (opens : opensToken c = true) (added : addToken position (c :: rest) = some (between, left))
      (passes : Passes between left after isComment) : Passes position (c :: rest) after isComment

/-- What closes a line: semicolons and the line end. -/
def closer (semicolons : Nat) : List Char := List.replicate semicolons ';' ++ ['\n']

/-- What closes a line closes a text. -/
theorem closing_closer (semicolons : Nat) : Closing (closer semicolons) := by
  intro c member
  rcases List.mem_append.1 member with inside | last
  · exact .inl (List.eq_of_mem_replicate inside)
  · exact .inr (List.mem_singleton.1 last)

/-- Semicolons and a line end have no line end with more behind it, nor does a line in front of them. -/
theorem append_closer_alone {semicolons : Nat} (single : '\n' ∉ chars) (next : Char) (more : List Char) :
    chars ++ closer semicolons = '\n' :: next :: more → False := by
  intro same
  cases chars with
  | nil =>
    cases semicolons with
    | zero => cases same
    | succ semicolons =>
      rw [List.nil_append, closer, List.replicate_succ, List.cons_append] at same
      exact absurd (List.cons.inj same).1 (by decide)
  | cons c rest =>
    rw [List.cons_append] at same
    exact single ((List.cons.inj same).1 ▸ List.mem_cons_self)

/-- Where a scan inside of a line comes to no trouble, it passes what stands in front of its semicolons. -/
theorem passes_of_scanGo {steps semicolons : Nat} (single : '\n' ∉ chars)
    (fine : (scanGo steps false position (chars ++ closer semicolons)).trouble = none) :
    ∃ after isComment, Passes position chars after isComment := by
  induction steps generalizing position chars with
  | zero => cases fine
  | succ steps ih =>
    cases chars with
    | nil => exact ⟨_, _, .ended⟩
    | cons c rest =>
      have others : '\n' ∉ rest := fun member => single (List.mem_cons_of_mem c member)
      have noEnd : c ≠ '\n' := fun same => single (same ▸ List.mem_cons_self)
      rw [List.cons_append] at fine
      by_cases separates : isGap c = true
      · rw [scanGo_gap separates] at fine
        obtain ⟨after, isComment, passes⟩ := ih others fine
        exact ⟨_, _, .gap separates passes⟩
      by_cases opensComment : c = '#'
      · subst opensComment
        exact ⟨_, _, .comment⟩
      by_cases escape : c = '\\'
      · subst escape
        rw [scanGo_escape (append_closer_alone others)] at fine
        cases fine
      have opens : opensToken c = true := by simp [opensToken, separates, opensComment, noEnd, escape]
      have stops := addToken_stops position (List.cons_ne_nil c rest) _ (closing_closer semicolons)
      rw [List.cons_append] at stops
      rw [scanGo_token opens, stops] at fine
      cases added : addToken position (c :: rest) with
      | none =>
        rw [added] at fine
        cases fine
      | some found =>
        obtain ⟨between, left⟩ := found
        rw [added] at fine
        have shorter := (adds_of_addToken added).shorter
        obtain ⟨after, isComment, passes⟩ := ih (fun member => others (shorter.subset member)) fine
        exact ⟨_, _, .token opens added passes⟩

/-- A scan passes the inside of a line in as many steps as that has characters at most. -/
theorem Passes.scanGo_eq (passes : Passes position chars after isComment) (single : '\n' ∉ chars) :
    ∃ steps, steps ≤ chars.length ∧ ∀ more tail, Closing tail →
      scanGo (more + steps) false position (chars ++ tail) =
        scanGo more false after (if isComment then tail.dropWhile (· != '\n') else tail) := by
  induction passes with
  | ended => exact ⟨0, Nat.le_refl 0, fun more tail _ => rfl⟩
  | @gap position after c rest isComment separates passes ih =>
    obtain ⟨steps, few, scans⟩ := ih fun member => single (List.mem_cons_of_mem c member)
    refine ⟨steps + 1, Nat.succ_le_succ few, fun more tail closing => ?_⟩
    rw [List.cons_append, ← Nat.add_assoc, scanGo_gap separates, scans more tail closing]
  | @comment position rest =>
    refine ⟨1, by simp, fun more tail closing => ?_⟩
    have others : ∀ c ∈ rest, (c != '\n') = true := by
      rintro c member
      rw [bne_iff_ne]
      rintro rfl
      exact single (List.mem_cons_of_mem '#' member)
    rw [List.cons_append, scanGo_comment, List.dropWhile_append_of_pos others]
    rfl
  | @token position between after c rest left isComment opens added passes ih =>
    have adds := adds_of_addToken added
    have others : '\n' ∉ rest := fun member => single (List.mem_cons_of_mem c member)
    obtain ⟨steps, few, scans⟩ := ih fun member => others (adds.shorter.subset member)
    have fewer : steps ≤ rest.length := Nat.le_trans few adds.shorter.length_le
    refine ⟨steps + 1, Nat.succ_le_succ fewer, fun more tail closing => ?_⟩
    have stops := addToken_stops position (List.cons_ne_nil c rest) tail closing
    rw [List.cons_append] at stops ⊢
    rw [← Nat.add_assoc, scanGo_token opens, stops, added]
    exact scans more tail closing

/-- A line is passed in one way only. -/
theorem Passes.unique {first second : Position} {alsoComment : Bool}
    (passes : Passes position chars first isComment) (again : Passes position chars second alsoComment) :
    first = second ∧ isComment = alsoComment := by
  induction passes with
  | ended =>
    cases again
    exact ⟨rfl, rfl⟩
  | gap separates _ ih =>
    cases again with
    | gap _ again => exact ih again
    | comment => cases separates
    | token opens _ _ => simp [opensToken, separates] at opens
  | comment =>
    cases again with
    | gap separates _ => cases separates
    | comment => exact ⟨rfl, rfl⟩
    | token opens _ _ => cases opens
  | token opens added _ ih =>
    cases again with
    | gap separates _ => simp [opensToken, separates] at opens
    | comment => cases opens
    | token _ alsoAdded again =>
      cases added.symm.trans alsoAdded
      exact ih again

/-! ## The end of a line -/

/-- A position behind some more semicolons. -/
def Position.close : Nat → Position → Position
  | 0, position => position
  | semicolons + 1, position => (position.add (.mark ";")).close semicolons

/-- The semicolons are the tokens that are added. -/
theorem Position.tokens_close (semicolons : Nat) (position : Position) :
    (position.close semicolons).tokens.toList = position.tokens.toList ++
      List.replicate semicolons ⟨.mark ";", position.line, position.brackets.length, none⟩ := by
  induction semicolons generalizing position with
  | zero => simp [close]
  | succ semicolons ih => simp [close, ih, add, addOdd, List.replicate_succ]

/-- Semicolons are on the same line. -/
theorem Position.line_close (semicolons : Nat) (position : Position) :
    (position.close semicolons).line = position.line := by
  induction semicolons generalizing position with
  | zero => rfl
  | succ semicolons ih => rw [close, ih]; rfl

/-- Semicolons open and close no bracket. -/
theorem Position.brackets_close (semicolons : Nat) (position : Position) :
    (position.close semicolons).brackets = position.brackets := by
  induction semicolons generalizing position with
  | zero => rfl
  | succ semicolons ih => rw [close, ih]; rfl

/-- Behind semicolons lines stand where they stood. -/
theorem Position.margins_close (semicolons : Nat) (position : Position) :
    (position.close semicolons).margins = position.margins := by
  induction semicolons generalizing position with
  | zero => rfl
  | succ semicolons ih => rw [close, ih]; rfl

/-- A semicolon is a mark. -/
theorem takeMark_semicolon (rest : List Char) : takeMark (';' :: rest) = (";", rest) := by
  have apart : ∀ mark ∈ longMarks, mark.toList.head?.any (· != ';') = true := by decide
  have none : (longMarks.find? fun mark => mark.toList.isPrefixOf (';' :: rest)) = none := by
    rw [List.find?_eq_none]
    intro mark member opens
    have differs := apart mark member
    cases chars : mark.toList with
    | nil =>
      rw [chars] at differs
      cases differs
    | cons c others =>
      rw [chars, List.head?_cons, Option.any_some, bne_iff_ne] at differs
      rw [chars, List.isPrefixOf_cons_cons, Bool.and_eq_true, beq_iff_eq] at opens
      exact differs opens.1
  have single : String.ofList [';'] = ";" := by decide
  simp only [takeMark, none, Option.getD_none, List.take_succ_cons, List.take_zero, single]
  rfl

/-- A semicolon is a token. -/
theorem addToken_semicolon (position : Position) (rest : List Char) :
    addToken position (';' :: rest) = some (position.add (.mark ";"), rest) := by
  have marked : addToken position (';' :: rest) = addMark position (';' :: rest) := rfl
  rw [marked, addMark, takeMark_semicolon]
  rfl

/-- A scan adds semicolons. -/
theorem scanGo_semicolons (steps semicolons : Nat) (position : Position) (rest : List Char) :
    scanGo (steps + semicolons) false position (List.replicate semicolons ';' ++ rest) =
      scanGo steps false (position.close semicolons) rest := by
  induction semicolons generalizing position with
  | zero => rfl
  | succ semicolons ih =>
    rw [List.replicate_succ, List.cons_append, ← Nat.add_assoc, scanGo_token (by decide),
      addToken_semicolon]
    exact ih _

/-- The last line end and the end of a program. -/
def Position.finished (position : Position) : Scanned :=
  ({ position.add .lineEnd with line := position.line + 1 }.add .finish).stop none

/-- A scan comes to the end of the last line, unless a bracket is open. -/
theorem scanGo_lineEnd (steps : Nat) (margins : position.margins = []) :
    scanGo (steps + 3) false position ['\n'] =
      if position.brackets.isEmpty then position.finished
      else { position with line := position.line + 1 }.stop (some brokenOff) := by
  obtain ⟨line, brackets, _, tokens⟩ := position
  cases margins
  cases brackets with
  | nil => rfl
  | cons bracket others => rfl

/-! ## A program of one line -/

/-- Whether a text is one line, without an end. -/
def IsOneLine (chars : List Char) : Prop := '\n' ∉ chars ∧ '\r' ∉ chars

/-- No line ends are written in another way where there are none. -/
theorem unifyLineEnds_oneLine (oneLine : IsOneLine chars) : Text.unifyLineEnds chars = chars := by
  have whole := Text.unifyLineEnds_append oneLine.2 []
  rwa [List.append_nil, Text.unifyLineEnds, List.append_nil] at whole

/-- A line end is put behind a line. -/
theorem lined_oneLine (oneLine : IsOneLine chars) : lined (String.ofList chars) = chars ++ ['\n'] := by
  have noLast : ∀ last, chars.getLast? = some last → last ≠ '\n' ∧ last ≠ '\r' := by
    intro last found
    have member := List.mem_of_getLast? found
    exact ⟨fun same => oneLine.1 (same ▸ member), fun same => oneLine.2 (same ▸ member)⟩
  have unended : (chars.getLast? == some '\n' || chars.getLast? == some '\r') = false := by
    cases found : chars.getLast? with
    | none => rfl
    | some last => simp [noLast last found]
  unfold lined
  simp only [String.toList_ofList, unifyLineEnds_oneLine oneLine, unended, Bool.false_and,
    Bool.false_eq_true, if_false]

/-- A line whose first character opens a token stands at the left. -/
theorem takeLeading_of_opensToken {c : Char} (opens : opensToken c = true) (rest : List Char) :
    takeLeading ⟨0, 0⟩ 0 0 (c :: rest) = some ⟨⟨0, 0⟩, 0, 0, c :: rest⟩ := by
  simp only [opensToken, isGap, Bool.and_eq_true, Bool.not_eq_true', Bool.or_eq_false_iff,
    beq_eq_false_iff_ne, bne_iff_ne] at opens
  obtain ⟨⟨⟨⟨⟨blank, tab⟩, feed⟩, -⟩, -⟩, escape⟩ := opens
  rw [takeLeading]
  · exact fun _ same => blank (List.cons.inj same).1
  · exact fun _ same => tab (List.cons.inj same).1
  · exact fun _ same => feed (List.cons.inj same).1
  · exact fun _ same => escape (List.cons.inj same).1
  · exact fun _ same => escape (List.cons.inj same).1

/-- The scan of a line goes on inside of it. -/
theorem scanGo_line {c : Char} {steps : Nat} (opens : opensToken c = true) (rest : List Char) :
    scanGo (steps + 1) true .start (c :: rest) = scanGo steps false .start (c :: rest) := by
  have noBlank : (c == '#' || c == '\n') = false := by
    simp only [opensToken, Bool.and_eq_true, bne_iff_ne] at opens
    simp [opens.1.1.2, opens.1.2]
  rw [scanGo, takeLeading_of_opensToken opens]
  simp only [List.head?_cons, Option.any_some, noBlank]
  rfl

/-- What the tokens of a line have in common with those that it begins with. -/
theorem Passes.keeps (passes : Passes position chars after isComment) :
    after.margins = position.margins ∧ ∃ added, after.tokens.toList = position.tokens.toList ++ added ∧
      ∀ placed ∈ added, placed.token.isInline = true := by
  induction passes with
  | ended | comment => exact ⟨rfl, [], by simp, by simp⟩
  | gap _ _ ih => exact ih
  | token _ added _ ih =>
    have adds := adds_of_addToken added
    obtain ⟨placed, pushed, inside⟩ := adds.pushed
    obtain ⟨margins, more, tokens, inline⟩ := ih
    refine ⟨margins.trans adds.margins, placed :: more, ?_, ?_⟩
    · rw [tokens, pushed, Array.toList_push, List.append_assoc, List.singleton_append]
    · intro other member
      rcases List.mem_cons.1 member with rfl | later
      · exact inside
      · exact inline other later

/-- The position in front of the line end: semicolons are added, unless they are part of a comment. -/
def Position.behind (position : Position) (isComment : Bool) (semicolons : Nat) : Position :=
  if isComment then position else position.close semicolons

/-- No bracket is opened or closed in front of the line end. -/
theorem Position.brackets_behind (position : Position) (isComment : Bool) (semicolons : Nat) :
    (position.behind isComment semicolons).brackets = position.brackets := by
  unfold behind
  split
  · rfl
  · exact position.brackets_close semicolons

/-- In front of the line end lines stand at the left. -/
theorem Passes.margins_behind (passes : Passes .start chars after isComment) (semicolons : Nat) :
    (after.behind isComment semicolons).margins = [] := by
  have kept : after.margins = [] := passes.keeps.1
  unfold Position.behind
  split
  · exact kept
  · rw [Position.margins_close, kept]

/-- A line with semicolons behind it is one line. -/
theorem IsOneLine.append_replicate (oneLine : IsOneLine chars) (semicolons : Nat) :
    IsOneLine (chars ++ List.replicate semicolons ';') := by
  have none {c : Char} (other : c ≠ ';') (unknown : c ∉ chars) :
      c ∉ chars ++ List.replicate semicolons ';' := by
    intro member
    rcases List.mem_append.1 member with inside | behind
    · exact unknown inside
    · exact other (List.eq_of_mem_replicate behind)
  exact ⟨none (by decide) oneLine.1, none (by decide) oneLine.2⟩

/-- The scan of a line with semicolons behind it goes on inside of it. -/
theorem scan_line {semicolons : Nat} (oneLine : IsOneLine chars)
    (opens : (chars ++ List.replicate semicolons ';').head?.any opensToken = true) :
    scan (String.ofList (chars ++ List.replicate semicolons ';')) =
      scanGo (2 * (chars ++ closer semicolons).length + 1) false .start (chars ++ closer semicolons) := by
  have closes : chars ++ List.replicate semicolons ';' ++ ['\n'] = chars ++ closer semicolons :=
    List.append_assoc ..
  cases first : chars ++ List.replicate semicolons ';' with
  | nil =>
    rw [first] at opens
    cases opens
  | cons c rest =>
    have opensFirst : opensToken c = true := by rwa [first] at opens
    rw [← closes, first, List.cons_append, ← scanGo_line opensFirst, ← List.cons_append, ← first, scan,
      lined_oneLine (oneLine.append_replicate semicolons)]

/-- The scan of a line that is passed comes to its end. -/
theorem exists_scanGo_lineEnd {semicolons : Nat} (oneLine : IsOneLine chars)
    (opens : (chars ++ List.replicate semicolons ';').head?.any opensToken = true)
    (passes : Passes .start chars after isComment) :
    ∃ steps, scan (String.ofList (chars ++ List.replicate semicolons ';')) =
      scanGo (steps + 3) false (after.behind isComment semicolons) ['\n'] := by
  obtain ⟨used, few, scans⟩ := passes.scanGo_eq oneLine.1
  obtain ⟨more, enough⟩ : ∃ more,
      2 * (chars ++ closer semicolons).length + 1 = more + 3 + semicolons + used := by
    have length : (chars ++ closer semicolons).length = chars.length + semicolons + 1 := by
      simp [closer, Nat.add_assoc]
    exact ⟨2 * (chars ++ closer semicolons).length + 1 - (3 + semicolons + used), by omega⟩
  rw [scan_line oneLine opens, enough, scans _ _ (closing_closer semicolons)]
  cases isComment with
  | true =>
    have semicolonsOnly : ∀ c ∈ List.replicate semicolons ';', (c != '\n') = true := by
      intro c member
      rw [List.eq_of_mem_replicate member]
      rfl
    have comment : (closer semicolons).dropWhile (· != '\n') = ['\n'] := by
      rw [closer, List.dropWhile_append_of_pos semicolonsOnly]
      rfl
    have order : more + 3 + semicolons = more + semicolons + 3 := by omega
    exact ⟨more + semicolons, by rw [if_pos rfl, comment, order]; rfl⟩
  | false => exact ⟨more, by rw [if_neg (by simp), closer, scanGo_semicolons]; rfl⟩

/-- The scan of a line that is passed with no bracket open: its tokens and the end of the program. -/
theorem scan_of_passes {semicolons : Nat} (oneLine : IsOneLine chars)
    (opens : (chars ++ List.replicate semicolons ';').head?.any opensToken = true)
    (passes : Passes .start chars after isComment) (closed : after.brackets = []) :
    scan (String.ofList (chars ++ List.replicate semicolons ';')) =
      (after.behind isComment semicolons).finished := by
  obtain ⟨steps, same⟩ := exists_scanGo_lineEnd oneLine opens passes
  rw [same, scanGo_lineEnd steps (passes.margins_behind semicolons), Position.brackets_behind, closed]
  rfl

/-- A line whose scan comes to no trouble is passed, and leaves no bracket open. -/
theorem passes_of_scan {semicolons : Nat} (oneLine : IsOneLine chars)
    (opens : (chars ++ List.replicate semicolons ';').head?.any opensToken = true)
    (fine : (scan (String.ofList (chars ++ List.replicate semicolons ';'))).trouble = none) :
    ∃ after isComment, Passes .start chars after isComment ∧ after.brackets = [] := by
  obtain ⟨after, isComment, passes⟩ := passes_of_scanGo oneLine.1
    (by rwa [← scan_line oneLine opens])
  refine ⟨after, isComment, passes, ?_⟩
  obtain ⟨steps, same⟩ := exists_scanGo_lineEnd oneLine opens passes
  rw [same, scanGo_lineEnd steps (passes.margins_behind semicolons), Position.brackets_behind] at fine
  cases brackets : after.brackets with
  | nil => rfl
  | cons bracket others =>
    rw [brackets] at fine
    cases fine

end LiveConsole.Program
