import LiveConsole.Proofs.Program.Parsing

/-!
# A semicolon at the end of a line

The last statement of a line may have one semicolon behind it. One more in front of the line end changes
nothing where there was none, and makes for no program where there was one.
-/
namespace LiveConsole.Program

variable {steps more : Nat}

/-- Whether some tokens are in front of the first stop. -/
def Unstopped (tokens : List Placed) : Prop := ∀ placed ∈ tokens, placed.token.isStop = false

/-- The statement that tokens form, if they form one and nothing is left. -/
def whole? (steps : Nat) (tokens : List Placed) : Option Simple :=
  match simpleStatement steps tokens with
  | some (statement, []) => some statement
  | _ => none

/-- A stop that is expected is not found in front of one. -/
theorem skip?_unstopped {token : Token} (stops : token.isStop = true) (others : List Token) {first : Placed}
    {rest : List Placed} (unstopped : first.token.isStop = false) :
    skip? (token :: others) (first :: rest) = none := by
  rw [skip?, if_neg]
  rintro rfl
  rw [stops] at unstopped
  cases unstopped

/-- No line of simple statements is read where no statement opens. -/
theorem simpleLine_of_opensNothing {tokens : List Placed} (closed : opensNothing tokens = true) (fuel : Nat) :
    simpleLine fuel steps tokens = none := by
  cases fuel with
  | zero => rfl
  | succ fuel => rw [simpleLine, simpleStatement_of_opensNothing closed]; rfl

/-- What a line comes to is told by the tokens in front of the first stop, and by what stands behind it. -/
theorem simpleLine_append {front : List Placed} (unstopped : Unstopped front) {stop : Placed}
    (stops : stop.token.isStop = true) (fuel : Nat) (rest : List Placed) :
    simpleLine (fuel + 1) steps (front ++ stop :: rest) = (do
      let first ← whole? steps front
      if let some rest := skip? [.lineEnd] (stop :: rest) then some ([first], rest)
      else if let some rest := skip? [.mark ";", .lineEnd] (stop :: rest) then some ([first], rest)
      else
        let rest ← skip? [.mark ";"] (stop :: rest)
        let (statements, rest) ← simpleLine fuel steps rest
        some (first :: statements, rest)) := by
  have reads := reads_simpleStatement (Nat.le_refl steps)
  rw [simpleLine, reads.upToStop front stop rest stops, whole?]
  cases read : simpleStatement steps front with
  | none => rfl
  | some outcome =>
    obtain ⟨first, left⟩ := outcome
    cases left with
    | nil => rfl
    | cons other left =>
      have inside : other.token.isStop = false :=
        unstopped other ((reads.left front _ read).subset List.mem_cons_self)
      have noEnd : skip? [.lineEnd] (other :: left ++ stop :: rest) = none :=
        skip?_unstopped rfl [] inside
      have noLast : skip? [.mark ";", .lineEnd] (other :: left ++ stop :: rest) = none :=
        skip?_unstopped rfl [.lineEnd] inside
      have noNext : skip? [.mark ";"] (other :: left ++ stop :: rest) = none :=
        skip?_unstopped rfl [] inside
      simp only [Option.map_some, Option.bind_eq_bind, Option.bind_some, Option.bind_none, noEnd, noLast,
        noNext]

/-- A line of one statement. -/
theorem simpleLine_lineEnd {front : List Placed} (unstopped : Unstopped front) (fuel : Nat) (place : Place)
    (rest : List Placed) :
    simpleLine (fuel + 1) steps (front ++ ⟨.lineEnd, place⟩ :: rest) =
      (whole? steps front).map fun first => ([first], rest) := by
  rw [simpleLine_append unstopped rfl]
  cases whole? steps front <;> rfl

/-- A line of one statement and a semicolon. -/
theorem simpleLine_semicolon_lineEnd {front : List Placed} (unstopped : Unstopped front) (fuel : Nat)
    (place ending : Place) (rest : List Placed) :
    simpleLine (fuel + 1) steps (front ++ ⟨.mark ";", place⟩ :: ⟨.lineEnd, ending⟩ :: rest) =
      (whole? steps front).map fun first => ([first], rest) := by
  rw [simpleLine_append unstopped rfl]
  cases whole? steps front <;> rfl

/-- A line of a statement, a semicolon, and more. -/
theorem simpleLine_semicolon {front : List Placed} (unstopped : Unstopped front) (fuel : Nat)
    (place : Place) {next : Placed} (goesOn : next.token ≠ .lineEnd) (rest : List Placed) :
    simpleLine (fuel + 1) steps (front ++ ⟨.mark ";", place⟩ :: next :: rest) = (do
      let first ← whole? steps front
      let (statements, rest) ← simpleLine fuel steps (next :: rest)
      some (first :: statements, rest)) := by
  rw [simpleLine_append unstopped rfl]
  cases whole? steps front with
  | none => rfl
  | some first => simp [skip?, goesOn]

/-- Tokens up to a first stop, and the rest. -/
theorem exists_unstopped (tokens : List Placed) :
    ∃ front behind, tokens = front ++ behind ∧ Unstopped front ∧
      ∀ stop rest, behind = stop :: rest → stop.token.isStop = true := by
  induction tokens with
  | nil => exact ⟨[], [], rfl, fun _ none => absurd none List.not_mem_nil, fun _ _ none => by cases none⟩
  | cons first rest ih =>
    cases stops : first.token.isStop with
    | true =>
      refine ⟨[], first :: rest, rfl, fun _ none => absurd none List.not_mem_nil, ?_⟩
      rintro stop behind ⟨⟩
      exact stops
    | false =>
      obtain ⟨front, behind, rfl, unstopped, next⟩ := ih
      refine ⟨first :: front, behind, rfl, ?_, next⟩
      intro placed member
      rcases List.mem_cons.1 member with rfl | member
      · exact stops
      · exact unstopped placed member

/-- Whether the last of some tokens is a semicolon. -/
def endsInSemicolon (tokens : List Placed) : Bool := tokens.getLast?.any fun last => last.token == .mark ";"

/-- Tokens in front of the first stop end in no semicolon. -/
theorem endsInSemicolon_of_unstopped {tokens : List Placed} (unstopped : Unstopped tokens) :
    endsInSemicolon tokens = false := by
  unfold endsInSemicolon
  cases last : tokens.getLast? with
  | none => rfl
  | some placed =>
    have inside := unstopped placed (List.mem_of_getLast? last)
    rw [Option.any_some, beq_eq_false_iff_ne]
    intro same
    rw [same] at inside
    cases inside

/-- Whether some tokens are inside one line. -/
def OnOneLine (tokens : List Placed) : Prop :=
  ∀ placed ∈ tokens, placed.token ≠ .lineEnd ∧ placed.token ≠ .finish

/-- A stop on the line is a semicolon. -/
theorem eq_semicolon {stop : Placed} (stops : stop.token.isStop = true) (inside : stop.token ≠ .lineEnd) :
    stop.token = .mark ";" :=
  (Token.eq_of_isStop stops).resolve_right inside

/-- One more semicolon at the end of a line of simple statements. -/
theorem simpleLine_concat (fuel : Nat) {tokens : List Placed} (oneLine : OnOneLine tokens)
    (place ending : Place) (rest : List Placed) :
    simpleLine fuel steps (tokens ++ ⟨.mark ";", place⟩ :: ⟨.lineEnd, ending⟩ :: rest) =
      if endsInSemicolon tokens then none
      else simpleLine fuel steps (tokens ++ ⟨.lineEnd, ending⟩ :: rest) := by
  induction fuel generalizing tokens with
  | zero => rw [simpleLine, simpleLine, ite_self]
  | succ fuel ih =>
    obtain ⟨front, behind, rfl, unstopped, next⟩ := exists_unstopped tokens
    cases behind with
    | nil =>
      rw [List.append_nil, endsInSemicolon_of_unstopped unstopped, simpleLine_lineEnd unstopped,
        simpleLine_semicolon_lineEnd unstopped]
      rfl
    | cons stop behind =>
      obtain ⟨token, here⟩ := stop
      have same : token = .mark ";" := eq_semicolon (next _ _ rfl) (oneLine _ (by simp)).1
      subst same
      cases behind with
      | nil =>
        have refused : simpleLine fuel steps (⟨.mark ";", place⟩ :: ⟨.lineEnd, ending⟩ :: rest) = none :=
          simpleLine_of_opensNothing rfl fuel
        have ends : endsInSemicolon (front ++ [⟨.mark ";", here⟩]) = true := by simp [endsInSemicolon]
        rw [ends, List.append_assoc, List.singleton_append, simpleLine_semicolon unstopped fuel here (by simp),
          refused]
        cases whole? steps front <;> rfl
      | cons second behind =>
        have goesOn : second.token ≠ .lineEnd := (oneLine second (by simp)).1
        have later : OnOneLine (second :: behind) := fun placed member =>
          oneLine placed (List.mem_append_right _ (List.mem_cons_of_mem _ member))
        have ends : endsInSemicolon (front ++ ⟨.mark ";", here⟩ :: second :: behind) =
            endsInSemicolon (second :: behind) := by
          rw [endsInSemicolon, endsInSemicolon, List.getLast?_append, List.getLast?_cons_cons,
            List.getLast?_cons, Option.some_or]
        have again := ih later
        simp only [List.append_assoc, List.cons_append] at again ⊢
        rw [simpleLine_semicolon unstopped fuel here goesOn, simpleLine_semicolon unstopped fuel here goesOn,
          again, ends]
        split
        · cases whole? steps front <;> rfl
        · rfl

/-- What stands in front of the simple statements of a line, and what it leaves of the line. -/
theorem header_append (steps : Nat) {tokens : List Placed} (oneLine : OnOneLine tokens) :
    (∀ stop rest, stop.token.isStop = true → header steps (tokens ++ stop :: rest) = none) ∨
      ∃ whole left, OnOneLine left ∧ endsInSemicolon left = endsInSemicolon tokens ∧
        ∀ stop rest, stop.token.isStop = true →
          header steps (tokens ++ stop :: rest) = some (whole, left ++ stop :: rest) := by
  have reads := reads_header (Nat.le_refl steps)
  obtain ⟨front, behind, rfl, unstopped, next⟩ := exists_unstopped tokens
  have whole : ∀ stop rest, stop.token.isStop = true →
      header steps (front ++ behind ++ stop :: rest) =
        (header steps front).map fun read => (read.1, read.2 ++ (behind ++ stop :: rest)) := by
    intro stop rest stops
    rw [List.append_assoc]
    cases behind with
    | nil => exact reads.upToStop front stop rest stops
    | cons first behind => exact reads.upToStop front first _ (next first behind rfl)
  cases read : header steps front with
  | none =>
    refine .inl fun stop rest stops => ?_
    rw [whole stop rest stops, read]
    rfl
  | some outcome =>
    have suffix := reads.left front outcome read
    refine .inr ⟨outcome.1, outcome.2 ++ behind, ?_, ?_, fun stop rest stops => ?_⟩
    · intro placed member
      rcases List.mem_append.1 member with member | member
      · exact oneLine placed (List.mem_append_left _ (suffix.subset member))
      · exact oneLine placed (List.mem_append_right _ member)
    · cases behind with
      | nil =>
        rw [List.append_nil, List.append_nil, endsInSemicolon_of_unstopped unstopped]
        exact endsInSemicolon_of_unstopped fun placed member => unstopped placed (suffix.subset member)
      | cons first behind =>
        simp only [endsInSemicolon, List.getLast?_append, List.getLast?_cons, Option.some_or]
    · rw [whole stop rest stops, read, Option.map_some, List.append_assoc]

/-- One more semicolon at the end of a line. -/
theorem line_concat {tokens : List Placed} (oneLine : OnOneLine tokens) (place ending : Place)
    (rest : List Placed) :
    line steps (tokens ++ ⟨.mark ";", place⟩ :: ⟨.lineEnd, ending⟩ :: rest) =
      if endsInSemicolon tokens then none else line steps (tokens ++ ⟨.lineEnd, ending⟩ :: rest) := by
  rcases header_append steps oneLine with none | ⟨whole, left, leftOneLine, ends, found⟩
  · rw [line, line, none _ _ rfl, none _ _ rfl]
    exact (ite_self _).symm
  · rw [line, line, found ⟨.mark ";", place⟩ _ rfl, found ⟨.lineEnd, ending⟩ _ rfl]
    simp only [Option.bind_eq_bind, Option.bind_some, simpleLine_concat _ leftOneLine, ends]
    split <;> rfl

/-- One more semicolon at the end of the first line of a program. -/
theorem lines_concat (fuel : Nat) {tokens : List Placed} (oneLine : OnOneLine tokens) (place ending : Place)
    (rest : List Placed) :
    lines fuel steps (tokens ++ ⟨.mark ";", place⟩ :: ⟨.lineEnd, ending⟩ :: rest) =
      if endsInSemicolon tokens then none
      else lines fuel steps (tokens ++ ⟨.lineEnd, ending⟩ :: rest) := by
  have goesOn : ∀ stop behind, stop.token.isStop = true →
      opensWith .finish (tokens ++ stop :: behind) = false := by
    intro stop behind stops
    cases tokens with
    | nil => rw [opensWith_append rfl [] stop behind stops]; rfl
    | cons first tokens => simpa [opensWith] using (oneLine first List.mem_cons_self).2
  cases fuel with
  | zero => rw [lines, lines, ite_self]
  | succ fuel =>
    rw [lines, lines, goesOn ⟨.mark ";", place⟩ _ rfl, goesOn ⟨.lineEnd, ending⟩ _ rfl, line_concat oneLine]
    cases endsInSemicolon tokens <;> rfl

/-! ## More steps -/

/-- A line that is read with some steps is read with more. -/
theorem simpleLine_more (enough : steps ≤ more) {fuel moreFuel : Nat} (enoughFuel : fuel ≤ moreFuel)
    {tokens : List Placed} {read : List Simple × List Placed}
    (found : simpleLine fuel steps tokens = some read) : simpleLine moreFuel more tokens = some read := by
  induction fuel generalizing tokens read moreFuel with
  | zero => cases found
  | succ fuel ih =>
    obtain ⟨moreFuel, rfl⟩ : ∃ other, moreFuel = other + 1 := ⟨moreFuel - 1, by omega⟩
    rw [simpleLine] at found ⊢
    simp only [Option.bind_eq_bind, Option.bind_eq_some_iff] at found ⊢
    obtain ⟨first, before, behind⟩ := found
    refine ⟨first, (reads_simpleStatement enough).more tokens first before, ?_⟩
    split at behind
    · exact behind
    · split at behind
      · exact behind
      · simp only [Option.bind_eq_some_iff] at behind ⊢
        obtain ⟨rest, skipped, others, later, same⟩ := behind
        exact ⟨rest, skipped, others, ih (by omega) later, same⟩

/-- Lines that are read with some steps are read with more. -/
theorem lines_more (enough : steps ≤ more) {fuel moreFuel : Nat} (enoughFuel : fuel ≤ moreFuel)
    {tokens : List Placed} {statements : List Statement}
    (found : lines fuel steps tokens = some statements) : lines moreFuel more tokens = some statements := by
  induction fuel generalizing tokens statements moreFuel with
  | zero => cases found
  | succ fuel ih =>
    obtain ⟨moreFuel, rfl⟩ : ∃ other, moreFuel = other + 1 := ⟨moreFuel - 1, by omega⟩
    rw [lines] at found ⊢
    cases ends : opensWith .finish tokens with
    | true => rwa [ends] at found
    | false =>
      rw [ends] at found
      simp only [Bool.false_eq_true, if_false, line, Option.bind_eq_bind, Option.bind_eq_some_iff] at found ⊢
      obtain ⟨whole, ⟨opening, before, inner, inside, same⟩, behind⟩ := found
      obtain ⟨others, later, together⟩ := Option.map_eq_some_iff.1 behind
      exact ⟨whole, ⟨opening, (reads_header enough).more tokens opening before, inner,
        simpleLine_more enough enough inside, same⟩,
        Option.map_eq_some_iff.2 ⟨others, ih (by omega) later, together⟩⟩

/-! ## Programs of one line -/

/-- The tokens of a program of one line. -/
def lineTokens (tokens : List Placed) (ending last : Place) : List Placed :=
  tokens ++ [⟨.lineEnd, ending⟩, ⟨.finish, last⟩]

/-- A semicolon behind the tokens of a program of one line leaves its statements as they are, where there was
none. -/
theorem statements?_semicolon {tokens : List Placed} (oneLine : OnOneLine tokens)
    (place ending last : Place) {statements : List Statement} (single : endsInSemicolon tokens = false)
    (found : statements? (lineTokens tokens ending last) = some statements) :
    statements? (lineTokens (tokens ++ [⟨.mark ";", place⟩]) ending last) = some statements := by
  unfold statements? at found ⊢
  have longer : (lineTokens (tokens ++ [⟨.mark ";", place⟩]) ending last).length =
      (lineTokens tokens ending last).length + 1 := by
    simp [lineTokens]
  have allowed : allowance (lineTokens tokens ending last).length ≤
      allowance ((lineTokens tokens ending last).length + 1) := by
    unfold allowance
    omega
  rw [longer]
  have more := lines_more allowed (Nat.le_succ _) found
  unfold lineTokens at more ⊢
  rwa [List.append_assoc, List.singleton_append, lines_concat _ oneLine, single]

/-- A second semicolon behind the tokens of a program of one line makes for no program. -/
theorem statements?_two_semicolons {tokens : List Placed} (oneLine : OnOneLine tokens)
    (place ending last : Place) (double : endsInSemicolon tokens = true) :
    statements? (lineTokens (tokens ++ [⟨.mark ";", place⟩]) ending last) = none := by
  unfold statements? lineTokens
  rw [List.append_assoc, List.singleton_append, lines_concat _ oneLine, double]
  rfl

/-- Tokens with which no statement opens are no program. -/
theorem statements?_of_opensNothing {first : Placed} (closed : first.token.opensNothing = true)
    (rest : List Placed) : statements? (first :: rest) = none := by
  have opens : opensNothing (first :: rest) = true := by simpa [opensNothing] using closed
  have more : opensWith .finish (first :: rest) = false := by
    cases finish : opensWith .finish (first :: rest) with
    | false => rfl
    | true =>
      have same : first.token = .finish := by simpa [opensWith] using finish
      rw [same] at closed
      cases closed
  have headless : header (allowance (first :: rest).length) (first :: rest) =
      some (fun statements => statements.map .simple, first :: rest) := by
    rw [header, skip?_of_opensNothing opens rfl, skip?_of_opensNothing opens rfl,
      skip?_of_opensNothing opens rfl]
  unfold statements?
  rw [lines, more, line, headless]
  simp only [Option.bind_eq_bind, Option.bind_some, simpleLine_of_opensNothing opens]
  rfl

end LiveConsole.Program
