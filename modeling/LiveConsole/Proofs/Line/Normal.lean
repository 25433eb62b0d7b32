import LiveConsole.Proofs.Program.FirstToken
import LiveConsole.Proofs.Program.Pieces

/-!
# Lines that are programs

A normal line has no blanks in front and one semicolon in the end, whatever number it had. So a line that is a
program without its leading blanks stays that program, and evaluating it does what running it does: unless it
ends in a semicolon with blanks behind it, which then gets a second one and is no program any more.
-/
namespace LiveConsole

namespace Program
variable {chars : List Char} {statements : List Statement}

/-! ## Reading a line -/

/-- Tokens that form statements make for a program, unless it may be too deep. -/
theorem read_of_scan {text : String} (plain : '\x00' ∉ text.toList) (fine : (scan text).trouble = none)
    (formed : statements? (scan text).tokens.toList = some statements)
    (shallow : (scan text).mayBeTooDeep = false) : (read text).outcome = .ok statements := by
  unfold read
  simp [plain, fine, formed, shallow]

/-- Tokens that form no statements make for no program. -/
theorem read_of_not_statements {text : String} (fine : (scan text).trouble = none)
    (unformed : statements? (scan text).tokens.toList = none) :
    ∃ fault, (read text).outcome = .error fault := by
  unfold read
  split
  · exact ⟨_, rfl⟩
  · simp only [fine, unformed]
    split
    · exact ⟨_, rfl⟩
    · exact ⟨_, rfl⟩
    · rename_i none
      cases none

/-- Texts with the same tokens are read alike. -/
theorem read_congr {first second : String} (same : scan first = scan second)
    (plain : '\x00' ∉ first.toList) (alsoPlain : '\x00' ∉ second.toList) : read first = read second := by
  unfold read
  simp [plain, alsoPlain, same]

/-- The scan of a line with nothing but a comment finds no token. -/
theorem scanGo_comment_line (single : '\n' ∉ chars) (steps : Nat) :
    scanGo (steps + 4) true .start ('#' :: chars ++ ['\n']) = ⟨#[⟨.finish, 2, 0, none⟩], none, none⟩ := by
  have others : ∀ c ∈ '#' :: chars, (c != '\n') = true := by
    intro c member
    rw [bne_iff_ne]
    rintro rfl
    rcases List.mem_cons.1 member with same | inside
    · cases same
    · exact single inside
  have leading : takeLeading ⟨0, 0⟩ 0 0 ('#' :: chars ++ ['\n']) =
      some ⟨⟨0, 0⟩, 0, 0, '#' :: chars ++ ['\n']⟩ := rfl
  rw [scanGo, leading]
  simp only [List.dropWhile_append_of_pos others]
  rfl

/-- A line may not open with a backslash. -/
theorem takeLeading_escape_line (single : '\n' ∉ chars) :
    takeLeading ⟨0, 0⟩ 0 0 ('\\' :: chars ++ ['\n']) = none := by
  cases chars with
  | nil => rfl
  | cons next more =>
    have other : next ≠ '\n' := fun same => single (same ▸ List.mem_cons_self)
    simp [takeLeading, other]

/-! ## Semicolons behind tokens -/

/-- The tokens of a line that is passed are inside of it. -/
theorem Passes.onOneLine {after : Position} {isComment : Bool}
    (passes : Passes .start chars after isComment) : OnOneLine after.tokens.toList := by
  obtain ⟨-, added, tokens, inline⟩ := passes.keeps
  have same : after.tokens.toList = added := tokens
  rw [same]
  intro placed member
  have inside := inline placed member
  constructor
  · intro token
    rw [token] at inside
    cases inside
  · intro token
    rw [token] at inside
    cases inside

/-- The tokens of a program of one line. -/
theorem Position.tokens_finished (position : Position) :
    position.finished.tokens.toList = lineTokens position.tokens.toList
      ⟨position.line, position.brackets.length, none⟩
      ⟨position.line + 1, position.brackets.length, none⟩ := by
  simp [finished, stop, add, addOdd, lineTokens]

/-- One semicolon behind the tokens of a line that ends in one makes for no program. -/
theorem statements?_close_double {position : Position} (oneLine : OnOneLine position.tokens.toList)
    (double : endsInSemicolon position.tokens.toList = true) :
    statements? (position.close 1).finished.tokens.toList = none := by
  rw [Position.tokens_finished, Position.tokens_close]
  exact statements?_two_semicolons oneLine _ _ _ double

/-- One semicolon behind the tokens of a program of one line that ends in none changes nothing. -/
theorem statements?_close_single {position : Position} (oneLine : OnOneLine position.tokens.toList)
    (single : endsInSemicolon position.tokens.toList = false)
    (formed : statements? position.finished.tokens.toList = some statements) :
    statements? (position.close 1).finished.tokens.toList = some statements := by
  rw [Position.tokens_finished] at formed
  rw [Position.tokens_finished, Position.tokens_close, Position.line_close, Position.brackets_close]
  exact statements?_semicolon oneLine _ _ _ single formed

/-- Two semicolons or more behind the tokens of a line make for no program. -/
theorem statements?_close_many {position : Position} (oneLine : OnOneLine position.tokens.toList)
    (semicolons : Nat) : statements? (position.close (semicolons + 2)).finished.tokens.toList = none := by
  let semicolon : Placed := ⟨.mark ";", position.line, position.brackets.length, none⟩
  have front : OnOneLine (position.tokens.toList ++ List.replicate (semicolons + 1) semicolon) := by
    intro placed member
    rcases List.mem_append.1 member with inside | behind
    · exact oneLine placed inside
    · rw [List.eq_of_mem_replicate behind]
      exact ⟨Token.noConfusion, Token.noConfusion⟩
  have double : endsInSemicolon (position.tokens.toList ++ List.replicate (semicolons + 1) semicolon) =
      true := by
    rw [List.replicate_succ', ← List.append_assoc, endsInSemicolon, List.getLast?_concat]
    rfl
  rw [Position.tokens_finished, Position.tokens_close, List.replicate_succ', ← List.append_assoc]
  exact statements?_two_semicolons front _ _ _ double

/-- One more semicolon makes no program deeper. -/
theorem mayBeTooDeep_close {position : Position} (closed : position.brackets = []) :
    (position.close 1).finished.mayBeTooDeep = position.finished.mayBeTooDeep := by
  have places : (position.close 1).finished.tokens.toList = position.tokens.toList ++
      [⟨.mark ";", position.line, 0, none⟩, ⟨.lineEnd, position.line, 0, none⟩,
        ⟨.finish, position.line + 1, 0, none⟩] := by
    simp [Position.close, Position.finished, Position.stop, Position.add, Position.addOdd, closed]
  have fewer : position.finished.tokens.toList = position.tokens.toList ++
      [⟨.lineEnd, position.line, 0, none⟩, ⟨.finish, position.line + 1, 0, none⟩] := by
    simp [Position.finished, Position.stop, Position.add, Position.addOdd, closed]
  unfold Scanned.mayBeTooDeep
  simp only [← Array.foldl_toList, places, fewer, List.filter_append, List.foldl_append]
  simp [Scanned.isSign]

/-! ## A line that is a program -/

/-- Whether a line is a program: it has no line end inside of it and opens with no blank, and is read as some
statements. -/
structure IsProgram (chars : List Char) (statements : List Statement) : Prop where
  /-- There is no line end inside of it. -/
  oneLine : IsOneLine chars
  /-- It opens with no blank. -/
  solid : chars.head?.any Text.isBlank = false
  /-- It can be read. -/
  readable : (read (String.ofList chars)).outcome = .ok statements
  /-- It has a statement. -/
  filled : statements ≠ []

/-- A line that is a program opens with a token. -/
theorem IsProgram.head?_opensToken (program : IsProgram chars statements) :
    chars.head?.any opensToken = true := by
  obtain ⟨oneLine, solid, readable, filled⟩ := program
  obtain ⟨-, fine, formed⟩ := scan_of_read readable
  rw [scan, lined_oneLine oneLine] at fine formed
  cases chars with
  | nil =>
    cases formed
    exact absurd rfl filled
  | cons c rest =>
    have others : '\n' ∉ rest := fun member => oneLine.1 (List.mem_cons_of_mem c member)
    obtain ⟨steps, enough⟩ : ∃ steps, 2 * (c :: rest ++ ['\n']).length + 2 = steps + 4 :=
      ⟨2 * rest.length + 2, by simp; omega⟩
    rw [enough] at fine formed
    have separates : isGap c = false := by
      cases gap : isGap c with
      | false => rfl
      | true =>
        simp only [isGap, Bool.or_eq_true, beq_iff_eq] at gap
        rcases gap with (rfl | rfl) | rfl <;> cases solid
    have noEnd : c ≠ '\n' := fun same => oneLine.1 (same ▸ List.mem_cons_self)
    have noComment : c ≠ '#' := by
      rintro rfl
      rw [scanGo_comment_line others] at formed
      cases formed
      exact filled rfl
    have noEscape : c ≠ '\\' := by
      rintro rfl
      rw [scanGo, takeLeading_escape_line others] at fine
      cases fine
    simp [opensToken, separates, noEnd, noComment, noEscape]

/-- A line without the semicolons at its end. -/
def bare (chars : List Char) : List Char := Text.dropEndWhile (· == ';') chars

/-- A line is what is left without the semicolons at its end, and these. -/
theorem exists_replicate_bare (chars : List Char) :
    ∃ semicolons, chars = bare chars ++ List.replicate semicolons ';' := by
  obtain ⟨dropped, parted, only⟩ := Text.dropEndWhile_append (· == ';') chars
  have same : dropped = List.replicate dropped.length ';' :=
    List.eq_replicate_of_mem fun c member => by simpa using only c member
  exact ⟨dropped.length, by rw [← same]; exact parted⟩

/-- Without the semicolons at its end a line does not end in one. -/
theorem getLast?_bare (chars : List Char) : (bare chars).getLast? ≠ some ';' := by
  intro found
  have kept := Text.getLast?_dropEndWhile _ chars found
  cases kept

/-- Without the semicolons at its end a line is one line. -/
theorem IsOneLine.bare (oneLine : IsOneLine chars) : IsOneLine (bare chars) := by
  obtain ⟨semicolons, parted⟩ := exists_replicate_bare chars
  have within : Program.bare chars <+: chars := ⟨_, parted.symm⟩
  exact ⟨fun member => oneLine.1 (within.subset member), fun member => oneLine.2 (within.subset member)⟩

/-- How the scan of a line that is a program goes. -/
structure IsPassed (chars : List Char) (after : Position) (isComment : Bool) (semicolons : Nat) : Prop where
  /-- The semicolons at its end. -/
  parted : chars = bare chars ++ List.replicate semicolons ';'
  /-- What stands in front of them is passed. -/
  passes : Passes .start (bare chars) after isComment
  /-- No bracket is left open. -/
  closed : after.brackets = []
  /-- They are part of a comment, or there is one of them at most. -/
  few : isComment = false → semicolons ≤ 1
  /-- The tokens are those in front, the semicolons, and the end of the program. -/
  scanned : scan (String.ofList chars) = (after.behind isComment semicolons).finished

/-- The scan of a line that is a program passes it. -/
theorem IsProgram.isPassed (program : IsProgram chars statements) :
    ∃ after isComment semicolons, IsPassed chars after isComment semicolons := by
  obtain ⟨semicolons, parted⟩ := exists_replicate_bare chars
  have opens := program.head?_opensToken
  obtain ⟨-, fine, formed⟩ := scan_of_read program.readable
  rw [parted] at opens fine formed
  obtain ⟨after, isComment, passes, closed⟩ := passes_of_scan program.oneLine.bare opens fine
  have scanned := scan_of_passes program.oneLine.bare opens passes closed
  refine ⟨after, isComment, semicolons, parted, passes, closed, fun plain => ?_, ?_⟩
  · subst plain
    rcases Nat.lt_or_ge 1 semicolons with many | few
    · obtain ⟨more, rfl⟩ := Nat.exists_eq_add_of_le' many
      rw [scanned, Position.behind, if_neg (by simp), statements?_close_many passes.onOneLine] at formed
      cases formed
    · exact few
  · rw [← scanned, ← parted]

/-- A line without a semicolon at its end. -/
theorem IsPassed.eq_bare {after : Position} {isComment : Bool} (line : IsPassed chars after isComment 0) :
    chars = bare chars := line.parted.trans (List.append_nil _)

/-! ## Normal lines -/

section Normal

variable {after : Position} {isComment : Bool} {semicolons : Nat}

/-- What the line comes to with one semicolon at its end. -/
def normalChars (chars : List Char) : List Char := bare chars ++ [';']

/-- The scan of a normal line passes it as it passes the line. -/
theorem IsPassed.scan_normal (line : IsPassed chars after isComment semicolons)
    (program : IsProgram chars statements) :
    scan (String.ofList (normalChars chars)) = (after.behind isComment 1).finished := by
  have opens : (bare chars ++ List.replicate 1 ';').head?.any opensToken = true := by
    have first := program.head?_opensToken
    cases front : bare chars with
    | nil => rfl
    | cons c rest =>
      rw [line.parted, front] at first
      exact first
  rw [← scan_of_passes program.oneLine.bare opens line.passes line.closed, List.replicate_one, normalChars]

/-- A normal line holds no null character where the line holds none. -/
theorem IsPassed.plain_normal (line : IsPassed chars after isComment semicolons)
    (plain : '\x00' ∉ (String.ofList chars).toList) :
    '\x00' ∉ (String.ofList (normalChars chars)).toList := by
  rw [String.toList_ofList] at plain ⊢
  intro member
  rcases List.mem_append.1 member with inside | behind
  · exact plain (line.parted ▸ List.mem_append_left _ inside)
  · exact absurd (List.mem_singleton.1 behind) (by decide)

/-- Where the tokens of the normal line are the same, so are its statements. -/
theorem IsPassed.read_normal (line : IsPassed chars after isComment semicolons)
    (program : IsProgram chars statements)
    (same : after.behind isComment semicolons = after.behind isComment 1) :
    (read (String.ofList (normalChars chars))).outcome = .ok statements := by
  have plain := (scan_of_read program.readable).1
  have tokens : scan (String.ofList (normalChars chars)) = scan (String.ofList chars) := by
    rw [line.scan_normal program, line.scanned, same]
  rw [read_congr tokens (line.plain_normal plain) plain, program.readable]

/-- Whether a line ends in a semicolon with blanks behind it: no comment opens in the line, its last token is a
semicolon, and its last character is none. -/
def Hangs (chars : List Char) : Prop :=
  ∃ after, Passes .start chars after false ∧ endsInSemicolon after.tokens.toList = true ∧
    chars.getLast? ≠ some ';'

/-- A line that ends in a semicolon with blanks behind it has no other one at its end. -/
theorem IsPassed.eq_zero_of_hangs (line : IsPassed chars after isComment semicolons)
    (hangs : Hangs chars) : semicolons = 0 := by
  obtain ⟨-, -, -, last⟩ := hangs
  cases semicolons with
  | zero => rfl
  | succ semicolons =>
    rw [line.parted, List.replicate_succ', ← List.append_assoc, List.getLast?_concat] at last
    exact absurd rfl last

end Normal

/-- A line that ends in a semicolon with blanks behind it gets a second one, and is no program any more. -/
theorem IsProgram.normal_of_hangs (program : IsProgram chars statements) (hangs : Hangs chars) :
    ∃ fault, (read (String.ofList (normalChars chars))).outcome = .error fault := by
  obtain ⟨after, isComment, semicolons, line⟩ := program.isPassed
  obtain rfl := line.eq_zero_of_hangs hangs
  have normal := line.scan_normal program
  have passes := line.passes
  obtain ⟨other, again, double, -⟩ := hangs
  rw [← line.eq_bare] at passes
  obtain ⟨rfl, rfl⟩ := passes.unique again
  refine read_of_not_statements (by rw [normal]; rfl) ?_
  rw [normal]
  exact statements?_close_double passes.onOneLine double

/-- Any other line stays the program that it is. -/
theorem IsProgram.normal_of_not_hangs (program : IsProgram chars statements) (settled : ¬ Hangs chars)
    (roomy : (scan (String.ofList chars)).mayBeTooDeep = false) :
    (read (String.ofList (normalChars chars))).outcome = .ok statements := by
  obtain ⟨after, isComment, semicolons, line⟩ := program.isPassed
  cases isComment with
  | true => exact line.read_normal program rfl
  | false =>
    rcases Nat.le_one_iff_eq_zero_or_eq_one.1 (line.few rfl) with rfl | rfl
    · obtain ⟨plain, -, formed⟩ := scan_of_read program.readable
      have normal := line.scan_normal program
      have passes := line.passes
      have single : endsInSemicolon after.tokens.toList = false := by
        cases double : endsInSemicolon after.tokens.toList with
        | false => rfl
        | true =>
          have last := getLast?_bare chars
          rw [← line.eq_bare] at passes last
          exact absurd ⟨after, passes, double, last⟩ settled
      have front : after.behind false 0 = after := rfl
      rw [line.scanned, front] at formed roomy
      refine read_of_scan (line.plain_normal plain) (by rw [normal]; rfl) ?_ ?_
      · rw [normal]
        exact statements?_close_single passes.onOneLine single formed
      · rw [normal]
        exact (mayBeTooDeep_close line.closed).trans roomy
    · exact line.read_normal program rfl

/-! ## The first token -/

/-- In front of the end of a program there are the tokens so far. -/
theorem Position.exists_tokens_behind (position : Position) (isComment : Bool) (semicolons : Nat) :
    ∃ more, (position.behind isComment semicolons).finished.tokens.toList =
      position.tokens.toList ++ more := by
  rw [tokens_finished, behind]
  split
  · exact ⟨_, rfl⟩
  · rw [tokens_close]
    exact ⟨_, List.append_assoc ..⟩

/-- A line that is a program begins with a token that opens something, in front of the semicolons at its end. -/
theorem IsProgram.exists_first (program : IsProgram chars statements) :
    ∃ c rest between left placed, bare chars = c :: rest ∧ addToken .start (c :: rest) = some (between, left) ∧
      between.tokens.toList = [placed] ∧ placed.token.opensNothing = false := by
  obtain ⟨after, isComment, semicolons, line⟩ := program.isPassed
  have opens := program.head?_opensToken
  obtain ⟨-, -, formed⟩ := scan_of_read program.readable
  have passes := line.passes
  cases first : bare chars with
  | nil =>
    rw [first] at passes
    cases passes
    rcases Nat.le_one_iff_eq_zero_or_eq_one.1 (line.few rfl) with rfl | rfl
    · rw [line.eq_bare, first] at opens
      cases opens
    · have semicolon : (Position.start.behind false 1).finished.tokens.toList =
          [⟨.mark ";", 1, 0, none⟩, ⟨.lineEnd, 1, 0, none⟩, ⟨.finish, 2, 0, none⟩] := rfl
      rw [line.scanned, semicolon, statements?_of_opensNothing rfl] at formed
      cases formed
  | cons c rest =>
    rw [first] at passes
    rw [line.parted, first] at opens
    have opensFirst : opensToken c = true := opens
    cases passes with
    | gap separates _ => simp [opensToken, separates] at opensFirst
    | comment => cases opensFirst
    | @token _ between _ _ _ left _ _ added further =>
      obtain ⟨placed, pushed, -⟩ := (adds_of_addToken added).pushed
      have tokens : between.tokens.toList = [placed] := by
        rw [pushed]
        rfl
      refine ⟨c, rest, between, left, placed, rfl, added, tokens, ?_⟩
      obtain ⟨-, more, kept, -⟩ := further.keeps
      obtain ⟨last, behind⟩ := after.exists_tokens_behind isComment semicolons
      rw [line.scanned, behind, kept, tokens, List.singleton_append, List.cons_append] at formed
      cases nothing : placed.token.opensNothing with
      | false => rfl
      | true =>
        rw [statements?_of_opensNothing nothing] at formed
        cases formed

/-- A line that is a program opens with no semicolon. -/
theorem IsProgram.head?_bare (program : IsProgram chars statements) :
    ∃ c rest, bare chars = c :: rest ∧ c ≠ ';' := by
  obtain ⟨c, rest, between, left, placed, first, added, tokens, opens⟩ := program.exists_first
  refine ⟨c, rest, first, ?_⟩
  rintro rfl
  rw [addToken_semicolon] at added
  cases added
  cases tokens
  cases opens

/-- A line that is a program does not open with `return`. -/
theorem IsProgram.not_opensWithReturn (program : IsProgram chars statements) (semicolons : Nat) :
    ¬ Line.OpensWithReturn (String.ofList (bare chars ++ List.replicate semicolons ';')) := by
  rintro ⟨c, rest, ends, opens⟩
  obtain ⟨first, others, between, left, placed, front, added, tokens, opensSomething⟩ := program.exists_first
  have noSemicolon : c ∉ List.replicate semicolons ';' := by
    intro member
    rw [List.eq_of_mem_replicate member] at ends
    cases ends
  obtain ⟨more, same⟩ : ∃ more, bare chars = "return".toList ++ c :: more := by
    rw [String.toList_ofList] at opens
    rcases List.append_eq_append_iff.1 opens with ⟨word, _, behind⟩ | ⟨word, whole, behind⟩
    · exact absurd (behind ▸ List.mem_append_right word List.mem_cons_self) noSemicolon
    · cases word with
      | nil =>
        rw [List.nil_append] at behind
        exact absurd (behind ▸ List.mem_cons_self) noSemicolon
      | cons d word =>
        obtain ⟨rfl, -⟩ := List.cons.inj behind
        exact ⟨word, whole⟩
  rw [← front, same] at added
  obtain ⟨place, pushed⟩ := addToken_return ends added
  rw [pushed] at tokens
  cases tokens
  cases opensSomething

/-- Code holds more than separators where it opens with something else. -/
theorem isOnlySeparators_cons {c : Char} (solid : Text.isBlank c = false) (other : c ≠ ';')
    (rest : List Char) : isOnlySeparators (String.ofList (c :: rest)) = false := by
  have noSemicolon : (c == ';') = false := beq_eq_false_iff_ne.2 other
  have ended (chars : List Char) : Text.dropEndWhile (fun c => c == ';') (c :: chars) =
      c :: Text.dropEndWhile (fun c => c == ';') chars := by
    refine Text.dropEndWhile_cons_of_kept ?_ chars
    exact noSemicolon
  have opened (chars : List Char) : Text.trim (c :: chars) = c :: Text.dropEndWhile Text.isBlank chars := by
    rw [Text.trim, Text.trimStart_cons_of_not_blank solid]
    exact Text.dropEndWhile_cons_of_kept solid chars
  unfold isOnlySeparators
  rw [String.toList_ofList, opened]
  simp only [List.dropWhile_cons, noSemicolon, Bool.false_eq_true, if_false]
  rw [ended, opened]
  rfl

/-- A line that is a program holds more than separators, with a semicolon at its end too. -/
theorem IsProgram.isOnlySeparators_eq_false (program : IsProgram chars statements) :
    isOnlySeparators (String.ofList (normalChars chars)) = false := by
  obtain ⟨c, rest, front, other⟩ := program.head?_bare
  have unblank : Text.isBlank c = false := by
    obtain ⟨semicolons, parted⟩ := exists_replicate_bare chars
    have solid := program.solid
    rw [parted, front] at solid
    exact solid
  rw [normalChars, front, List.cons_append]
  exact isOnlySeparators_cons unblank other _

/-! ## Evaluating a line -/

/-- What a line holds without its leading blanks. -/
def lineProgram (line : String) : String := String.ofList (Text.trimStart line.toList)

variable {World : Type} {scope : Scope World} {line : String}

/-- The normal line is what the line comes to without its leading blanks. -/
theorem normalize_eq (line : String) :
    Line.normalize line = String.ofList (normalChars (Text.trimStart line.toList)) := rfl

/-- A line without its leading blanks opens with no blank. -/
theorem head?_trimStart (chars : List Char) : (Text.trimStart chars).head?.any Text.isBlank = false := by
  have kept := List.head?_dropWhile_not Text.isBlank chars
  unfold Text.trimStart
  cases first : (chars.dropWhile Text.isBlank).head? with
  | none => rfl
  | some c =>
    rw [first] at kept
    exact kept

/-- A line without its leading blanks is one line. -/
theorem IsOneLine.trimStart {chars : List Char} (oneLine : IsOneLine chars) :
    IsOneLine (Text.trimStart chars) := by
  have within : Text.trimStart chars <:+ chars := List.dropWhile_suffix _
  exact ⟨fun member => oneLine.1 (within.subset member), fun member => oneLine.2 (within.subset member)⟩

/-- Texts that are read alike have the same statements, whatever is odd about them. -/
theorem statementsOf_congr (quiet : scope.Quiet) {first second : String}
    (same : (read first).outcome = (read second).outcome) :
    statementsOf scope first = statementsOf scope second := by
  unfold statementsOf
  simp only [quiet.forM, same]

/-- How a line that is a program compares with that program: they are executed alike, but for the value. -/
structure LineLaw {Outside : Type} (scope : Scope (Host Outside)) (line : String)
    (statements : List Statement) (store : Store (Host Outside)) : Prop where
  /-- A line that ends in a semicolon with blanks behind it is refused, and nothing changes. -/
  hangs : Hangs (Text.trimStart line.toList) →
    ∃ fault, execute scope (Line.code line) store = (.error fault, store)
  /-- Any other line that is a statement is run as the program is. -/
  statement : ¬ Hangs (Text.trimStart line.toList) → Loop.kindOf line = .statement →
    execute scope (Line.code line) store = execute scope (lineProgram line) store
  /-- An expression that is a text and nothing else is evaluated to it; the program binds it as a description. -/
  text : ¬ Hangs (Text.trimStart line.toList) → Loop.kindOf line = .expression →
    ∀ text, loneText? statements = some text →
      execute scope (Line.code line) store = capture (loneValue scope text) store ∧
        execute scope (lineProgram line) store =
          capture (do bindName scope descriptionName (← loneValue scope text); return .nothing) store
  /-- Any other expression that is not too deep and has no literal in common with the statements in front of it
  makes the bindings, the output and the fault of the program. -/
  expression : ¬ Hangs (Text.trimStart line.toList) → Loop.kindOf line = .expression →
    depthOf statements ≤ Limit.depth → loneText? statements = none → literalsApart statements = true →
      execute scope (lineProgram line) store =
        ((execute scope (Line.code line) store).1.map Execution.withoutValue,
          (execute scope (Line.code line) store).2)

/-- Evaluating a line does what running it does. The line has no end inside of it, and is a program with
statements once its leading blanks are gone, whose brackets and signs leave room for the grammar. Blanks in
front, a semicolon at the end and a comment behind it make no difference, and neither does its kind. -/
theorem evaluating_line_runs_program {Outside : Type} (call : Host.Step Outside Unit) (space line : String)
    (oneLine : IsOneLine line.toList) {statements : List Statement}
    (readable : (read (lineProgram line)).outcome = .ok statements) (filled : statements ≠ [])
    (roomy : (scan (lineProgram line)).mayBeTooDeep = false) (store : Store (Host Outside)) :
    LineLaw (Host.scope call space) line statements store := by
  have quiet : (Host.scope call space).Quiet := fun _ => rfl
  have program : IsProgram (Text.trimStart line.toList) statements :=
    ⟨oneLine.trimStart, head?_trimStart line.toList, readable, filled⟩
  have more := program.isOnlySeparators_eq_false
  have kept := fun settled => program.normal_of_not_hangs settled roomy
  have refused := program.normal_of_hangs
  rw [← normalize_eq] at more kept refused
  have plain : ¬ Line.OpensWithReturn (Line.normalize line) := program.not_opensWithReturn 1
  have plainProgram : ¬ Line.OpensWithReturn (lineProgram line) := by
    obtain ⟨semicolons, parted⟩ := exists_replicate_bare (Text.trimStart line.toList)
    unfold lineProgram
    rw [parted]
    exact program.not_opensWithReturn semicolons
  have ran : execute (Host.scope call space) (lineProgram line) store =
      capture (runCode (Host.scope call space) (lineProgram line)) store := by
    rw [execute, dispatch_plain plainProgram]
  have runs (kind : Loop.kindOf line = .statement) : execute (Host.scope call space) (Line.code line) store =
      capture (runCode (Host.scope call space) (Line.normalize line)) store := by
    rw [Loop.code_statement kind, execute, dispatch_plain plain]
  have evaluates (kind : Loop.kindOf line = .expression) :=
    Loop.execute_code_of_plain (Host.scope call space) kind plain store
  constructor
  · intro hangs
    obtain ⟨fault, unreadable⟩ := refused hangs
    have nothing := statementsOf_of_error quiet unreadable
    refine ⟨fault, ?_⟩
    cases kind : Loop.kindOf line with
    | statement =>
      rw [runs kind, runCode, nothing]
      rfl
    | expression =>
      rw [evaluates kind, capture_evaluateCode_of_error quiet more unreadable]
  · intro settled kind
    have same := (kept settled).trans readable.symm
    rw [runs kind, ran, runCode, runCode, statementsOf_congr quiet same]
  · intro settled kind text lone
    have normal := kept settled
    rw [eq_of_loneText? lone] at readable normal
    rw [evaluates kind, ran, evaluateCode_of_loneText quiet more normal, runCode_of_loneText quiet readable]
    exact ⟨rfl, rfl⟩
  · intro settled kind shallow other apart
    rw [evaluates kind, ran, evaluateCode_eq quiet more (kept settled) shallow other apart,
      runCode_eq quiet readable shallow, capture_dropped]

/-- Statements that are checked are those of a text. -/
theorem exists_statements (text : String) (check : List Statement → Bool)
    (checked : (read text).outcome.toOption.any check = true) :
    ∃ statements, (read text).outcome = .ok statements ∧ check statements = true := by
  cases outcome : (read text).outcome with
  | error fault =>
    rw [outcome] at checked
    cases checked
  | ok statements =>
    rw [outcome] at checked
    exact ⟨statements, rfl, checked⟩

/-- Of two lines with a blank in front, one is evaluated as it is run, and one with a blank behind its semicolon is
refused, though it is a program. -/
theorem evaluating_lines_with_blanks :
    let scope := Host.scope (pure () : Host.Step Unit Unit) "main"
    let store : Store (Host Unit) := ⟨⟨[], 0⟩, [], "", .ofModules [] ()⟩
    execute scope "x = 1; x + 1;" store =
        ((execute scope (Line.code " x = 1; x + 1;") store).1.map Execution.withoutValue,
          (execute scope (Line.code " x = 1; x + 1;") store).2) ∧
      (∃ statements, (read "1; ").outcome = .ok statements) ∧
        ∃ fault, execute scope (Line.code " 1; ") store = (.error fault, store) := by
  intro scope store
  have sum : lineProgram " x = 1; x + 1;" = "x = 1; x + 1;" := by decide
  have one : lineProgram " 1; " = "1; " := by decide
  obtain ⟨statements, readable, checked⟩ := exists_statements "x = 1; x + 1;"
    (fun statements => !statements.isEmpty && decide (depthOf statements ≤ Limit.depth) &&
      (loneText? statements).isNone && literalsApart statements) (by decide +kernel)
  simp only [Bool.and_eq_true, Bool.not_eq_true', List.isEmpty_eq_false_iff, decide_eq_true_eq,
    Option.isNone_iff_eq_none] at checked
  obtain ⟨⟨⟨filled, shallow⟩, other⟩, apart⟩ := checked
  obtain ⟨others, alsoReadable, alsoFilled⟩ := exists_statements "1; "
    (fun statements => !statements.isEmpty) (by decide +kernel)
  simp only [Bool.not_eq_true', List.isEmpty_eq_false_iff] at alsoFilled
  have law := evaluating_line_runs_program (pure () : Host.Step Unit Unit) "main" " x = 1; x + 1;"
    ⟨by decide, by decide⟩ (by rw [sum]; exact readable) filled (by decide +kernel) store
  have alsoLaw := evaluating_line_runs_program (pure () : Host.Step Unit Unit) "main" " 1; "
    ⟨by decide, by decide⟩ (by rw [one]; exact alsoReadable) alsoFilled (by decide +kernel) store
  have settled : ¬ Hangs (Text.trimStart " x = 1; x + 1;".toList) := by
    rintro ⟨-, -, -, last⟩
    exact last (by decide)
  have hangs : Hangs (Text.trimStart " 1; ".toList) := by
    have chars : Text.trimStart " 1; ".toList = ['1', ';', ' '] := by decide
    rw [chars]
    exact ⟨_, .token (by decide) rfl (.token (by decide) (addToken_semicolon _ _) (.gap (by decide) .ended)),
      rfl, by decide⟩
  refine ⟨?_, ⟨others, alsoReadable⟩, alsoLaw.hangs hangs⟩
  rw [← sum]
  exact law.expression settled (by decide) shallow other apart

end Program

end LiveConsole
