import LiveConsole.Proofs.Line.Normal

/-!
# Lines of separators

A line of blanks and semicolons holds no code. Evaluating it comes to nothing where its semicolons stand in two
runs at most, the second of them at its end; any other line of separators is taken for a program, and is none.
The same is true of such a line behind `return`, if a blank stands right behind that word.
-/
namespace LiveConsole

namespace Text

/-- Dropping from the end takes a character in front only with all that stand behind it. -/
theorem dropEndWhile_cons (drop : Char → Bool) (c : Char) (rest : List Char) :
    dropEndWhile drop (c :: rest) =
      if (dropEndWhile drop rest).isEmpty then [c].dropWhile drop else c :: dropEndWhile drop rest := by
  unfold dropEndWhile
  rw [List.reverse_cons, List.dropWhile_append, List.isEmpty_reverse]
  split
  · cases dropped : drop c <;> simp [dropped]
  · simp

/-- Dropping from the end and dropping from the front go in either order. -/
theorem dropWhile_dropEndWhile (drop : Char → Bool) (chars : List Char) :
    (dropEndWhile drop chars).dropWhile drop = dropEndWhile drop (chars.dropWhile drop) := by
  induction chars with
  | nil => rfl
  | cons c rest ih =>
    cases dropped : drop c with
    | true =>
      rw [List.dropWhile_cons_of_pos dropped, ← ih, dropEndWhile_cons]
      split
      · rename_i empty
        simp [dropped, List.isEmpty_iff.1 empty]
      · rw [List.dropWhile_cons_of_pos dropped]
    | false =>
      rw [List.dropWhile_cons_of_neg (by simp [dropped]), dropEndWhile_cons_of_kept dropped,
        List.dropWhile_cons_of_neg (by simp [dropped])]

/-- Two kinds of characters stand in this order, whichever of the two is taken away. -/
theorem all_dropEndWhile (first second : Char → Bool) (chars : List Char) :
    (dropEndWhile second chars).all first = (chars.dropWhile first).all second := by
  rw [Bool.eq_iff_iff, List.all_eq_true, List.all_eq_true]
  constructor
  · intro front c member
    obtain ⟨dropped, parted, only⟩ := dropEndWhile_append second chars
    rw [parted, List.dropWhile_append_of_pos front] at member
    exact only c ((List.dropWhile_suffix first).subset member)
  · intro back c member
    rw [← List.takeWhile_append_dropWhile (p := first) (l := chars), dropEndWhile,
      List.reverse_append, List.dropWhile_append_of_pos fun c inside =>
        back c (List.mem_reverse.1 inside)] at member
    have inside := (List.dropWhile_suffix second).subset (List.mem_reverse.1 member)
    exact List.all_eq_true.1 List.all_takeWhile c (List.mem_reverse.1 inside)

/-- Nothing is left of a text without the blanks at its ends when it has only blanks. -/
theorem isEmpty_trim (chars : List Char) : (trim chars).isEmpty = chars.all isBlank := by
  rw [Bool.eq_iff_iff, List.isEmpty_iff, List.all_eq_true]
  constructor
  · intro empty c member
    obtain ⟨dropped, parted, only⟩ := dropEndWhile_append isBlank (trimStart chars)
    have rest : trimStart chars = dropped := parted.trans (by rw [← trim, empty, List.nil_append])
    rw [← List.takeWhile_append_dropWhile (p := isBlank) (l := chars), ← trimStart, rest] at member
    rcases List.mem_append.1 member with front | behind
    · exact List.all_eq_true.1 List.all_takeWhile c front
    · exact only c behind
  · intro blank
    have start : trimStart chars = [] := by
      have dropped : (chars ++ []).dropWhile isBlank = [] := List.dropWhile_append_of_pos blank
      rwa [List.append_nil] at dropped
    rw [trim, start]
    rfl

end Text

namespace Line

open Text

/-- Whether a text is made of blanks and semicolons. -/
def IsSeparators (chars : List Char) : Prop := ∀ c ∈ chars, isBlank c = true ∨ c = ';'

instance : DecidablePred IsSeparators := fun chars =>
  List.decidableBAll (fun c => isBlank c = true ∨ c = ';') chars

/-- Whether a line is made of blanks, semicolons, blanks and semicolons, in this order: its semicolons stand in
two runs at most, and nothing stands behind the second one. -/
def isTwoRuns (chars : List Char) : Bool :=
  (trimStart ((trimStart chars).dropWhile (· == ';'))).all (· == ';')

/-! ## Normal lines of separators -/

/-- A normal line ends in no blank. -/
theorem trim_normalize (line : String) : trim (normalize line).toList = (normalize line).toList := by
  have kept : isBlank ';' = false := by decide
  rw [trim, trimStart_normalize, toList_normalize, dropEndWhile, List.reverse_concat,
    List.dropWhile_cons_of_neg (by simp [kept]), List.reverse_cons, List.reverse_reverse]

/-- The executor takes a normal line for one without code when its semicolons stand in two runs. -/
theorem isOnlySeparators_normalize (line : String) :
    Program.isOnlySeparators (normalize line) = isTwoRuns line.toList := by
  have again (chars : List Char) : dropEndWhile (· == ';') (dropEndWhile (· == ';') chars ++ [';']) =
      dropEndWhile (· == ';') chars := by
    unfold dropEndWhile
    rw [List.reverse_concat, List.dropWhile_cons_of_pos (by rfl), List.reverse_reverse, dropWhile_dropWhile]
  unfold Program.isOnlySeparators
  simp only
  rw [trim_normalize, ← dropWhile_dropEndWhile, toList_normalize, again, dropWhile_dropEndWhile,
    isEmpty_trim, all_dropEndWhile]
  rfl

/-- A normal line of separators opens with a semicolon. -/
theorem exists_normalize_eq_semicolon {line : String} (separators : IsSeparators line.toList) :
    ∃ rest, (normalize line).toList = ';' :: rest := by
  have known : ∀ c ∈ (normalize line).toList, isBlank c = true ∨ c = ';' := by
    intro c member
    rw [toList_normalize] at member
    rcases List.mem_append.1 member with inside | last
    · obtain ⟨dropped, parted, -⟩ := dropEndWhile_append (· == ';') (trimStart line.toList)
      have front : c ∈ trimStart line.toList := parted ▸ List.mem_append_left dropped inside
      exact separators c ((List.dropWhile_suffix isBlank).subset front)
    · exact .inr (List.mem_singleton.1 last)
  cases opening : (normalize line).toList with
  | nil =>
    rw [toList_normalize] at opening
    exact absurd opening (by simp)
  | cons c rest =>
    have solid := trimStart_normalize line
    rw [opening] at solid known
    rcases known c List.mem_cons_self with blank | rfl
    · have shorter := (List.dropWhile_suffix (l := rest) isBlank).length_le
      rw [trimStart, List.dropWhile_cons_of_pos blank] at solid
      rw [solid, List.length_cons] at shorter
      omega
    · exact ⟨rest, rfl⟩

/-- A line that opens with a semicolon asks for a value. -/
theorem classify_of_semicolon {line : String} {rest : List Char} (opening : line.toList = ';' :: rest) :
    classify line = .expression := by
  have noKeyword : (keywords.any fun keyword => (afterWord keyword line.toList).isSome) = false := by
    rw [opening]
    rfl
  rw [classify, noKeyword]
  rfl

/-- A line that opens with a semicolon does not open with `return`. -/
theorem not_opensWithReturn_of_semicolon {line : String} {rest : List Char}
    (opening : line.toList = ';' :: rest) : ¬ OpensWithReturn line := by
  rintro ⟨c, others, -, opens⟩
  rw [opening] at opens
  cases opens

end Line

namespace Program

/-! ## Texts that are no programs -/

/-- A text that opens with a semicolon is no program. -/
theorem read_of_semicolon {text : String} {rest : List Char} (opening : text.toList = ';' :: rest) :
    ∃ fault, (read text).outcome = .error fault := by
  obtain ⟨more, front⟩ := exists_lined_append (by decide : '\r' ∉ [';']) rest
  rw [List.singleton_append, ← opening, String.ofList_toList] at front
  exact read_of_opensNothing front (by decide) (addToken_semicolon .start more) rfl rfl

/-- A text that opens with `return` and a semicolon is no program. -/
theorem read_of_return {text : String} {rest : List Char}
    (opening : text.toList = "return;".toList ++ rest) : ∃ fault, (read text).outcome = .error fault := by
  obtain ⟨more, front⟩ := exists_lined_append (by decide : '\r' ∉ "return;".toList) rest
  rw [← opening, String.ofList_toList] at front
  have added := addToken_return_of_stops .start more (c := ';') (by decide)
  exact read_of_opensNothing front (by decide) added rfl rfl

end Program

namespace Loop

open Text Line

/-! ## Evaluating separators -/

variable {Outside : Type} (around : Surroundings (Program.Store (Host Outside)))
variable (call : Host.Step Outside Unit) (space : String) {line : String}

/-- Evaluating a line comes to nothing: it has no output and no value, it changes nothing, and all that is
written is that there is no value. -/
structure ComesToNothing (line : String) (store : Program.Store (Host Outside)) : Prop where
  /-- The code is executed to nothing. -/
  executed : Program.execute (Host.scope call space) (code line) store =
    (.ok ⟨"", store.heap, .nothing⟩, store)
  /-- The loop goes on, and writes that there is no value unless it is quiet. -/
  evaluated : ∀ quiet, ∃ events,
    evaluate (around.inNamespace (Host.scope call space)) quiet line store = (.again, events, store) ∧
      ∀ showIdent, textOf showIdent events = if quiet then "" else "=> None\n"

/-- Evaluating a line is refused: it raises a fault, it changes nothing, and nothing is written. -/
structure IsRefused (line : String) (store : Program.Store (Host Outside)) (fault : Fault) : Prop where
  /-- The code raises the fault. -/
  executed : Program.execute (Host.scope call space) (code line) store = (.error fault, store)
  /-- The loop ends with the fault. -/
  evaluated : ∀ quiet, evaluate (around.inNamespace (Host.scope call space)) quiet line store =
    (.over (.error fault), [.ran (code line)], store)

/-- Code that is executed to nothing comes to nothing. -/
theorem comesToNothing_of_executed {store : Program.Store (Host Outside)}
    (asked : kindOf line = .expression)
    (executed : Program.execute (Host.scope call space) (code line) store =
      (.ok ⟨"", store.heap, .nothing⟩, store)) : ComesToNothing around call space line store := by
  refine ⟨executed, fun quiet => ?_⟩
  rw [evaluate_inNamespace, executed, asked]
  cases quiet with
  | true => exact ⟨_, rfl, fun _ => rfl⟩
  | false => exact ⟨_, rfl, fun _ => rfl⟩

/-- Code that raises a fault is refused. -/
theorem isRefused_of_executed {store : Program.Store (Host Outside)} {fault : Fault}
    (executed : Program.execute (Host.scope call space) (code line) store = (.error fault, store)) :
    IsRefused around call space line store fault := by
  refine ⟨executed, fun quiet => ?_⟩
  rw [evaluate_inNamespace, executed]
  rfl

variable (store : Program.Store (Host Outside))

/-- Separators in two runs are executed to nothing. -/
theorem execute_separators (separators : IsSeparators line.toList)
    (runs : isTwoRuns line.toList = true) :
    Program.execute (Host.scope call space) (code line) store =
      (.ok ⟨"", store.heap, .nothing⟩, store) := by
  obtain ⟨rest, opening⟩ := exists_normalize_eq_semicolon separators
  rw [execute_code_of_plain _ (classify_of_semicolon opening) (not_opensWithReturn_of_semicolon opening),
    Program.evaluateCode, isOnlySeparators_normalize, runs]
  rfl

/-- Other separators are taken for a program, which they are not. -/
theorem execute_separators_refused (separators : IsSeparators line.toList)
    (scattered : isTwoRuns line.toList = false) :
    ∃ fault, Program.execute (Host.scope call space) (code line) store = (.error fault, store) := by
  obtain ⟨rest, opening⟩ := exists_normalize_eq_semicolon separators
  obtain ⟨fault, unreadable⟩ := Program.read_of_semicolon opening
  refine ⟨fault, ?_⟩
  rw [execute_code_of_plain _ (classify_of_semicolon opening) (not_opensWithReturn_of_semicolon opening)]
  exact Program.capture_evaluateCode_of_error (fun _ => rfl)
    ((isOnlySeparators_normalize line).trans scattered) unreadable store

/-- A line without its leading blanks. -/
def solidPart (line : String) : String := String.ofList (trimStart line.toList)

/-- A line without its leading blanks has none to lose. -/
theorem trimStart_solidPart (line : String) :
    trimStart (solidPart line).toList = (solidPart line).toList := by
  rw [solidPart, String.toList_ofList]
  exact dropWhile_dropWhile isBlank line.toList

/-- Without its leading blanks a line is made of separators if it is with them. -/
theorem isSeparators_solidPart (separators : IsSeparators line.toList) :
    IsSeparators (solidPart line).toList := by
  rw [solidPart, String.toList_ofList]
  exact fun c member => separators c ((List.dropWhile_suffix isBlank).subset member)

/-- Leading blanks do not matter for the runs of semicolons. -/
theorem isTwoRuns_solidPart (line : String) : isTwoRuns (solidPart line).toList = isTwoRuns line.toList := by
  rw [isTwoRuns, trimStart_solidPart, solidPart, String.toList_ofList]
  rfl

/-- Behind `return` and a blank, separators are executed as they are without these. -/
theorem execute_return_separators (separators : IsSeparators line.toList)
    (apart : line.toList.head?.any isBlank = true) :
    kindOf ("return" ++ line) = .expression ∧
      Program.execute (Host.scope call space) (code ("return" ++ line)) store =
        Program.execute (Host.scope call space) (code (solidPart line)) store := by
  obtain ⟨rest, opening⟩ := exists_normalize_eq_semicolon (isSeparators_solidPart separators)
  have plain : ¬ OpensWithReturn (solidPart line) := by
    rintro ⟨c, others, -, opens⟩
    have letter := isSeparators_solidPart separators 'r' (by rw [opens]; simp)
    exact absurd letter (by decide)
  let gap := String.ofList (line.toList.takeWhile isBlank)
  have blank : allBlank gap = true := by
    rw [allBlank, String.toList_ofList, List.all_takeWhile]
  have filled : gap ≠ "" := by
    intro empty
    have nothing : line.toList.takeWhile isBlank = [] := by simpa [gap] using empty
    cases opening : line.toList with
    | nil =>
      rw [opening] at apart
      cases apart
    | cons c rest =>
      rw [opening, List.head?_cons, Option.any_some] at apart
      rw [opening, List.takeWhile_cons_of_pos apart] at nothing
      cases nothing
  have whole : line = gap ++ solidPart line := by
    rw [← String.toList_inj, String.toList_append, solidPart, String.toList_ofList,
      String.toList_ofList, trimStart, List.takeWhile_append_dropWhile]
  obtain ⟨kind, behind, alone⟩ :=
    returned?_code_return blank filled (trimStart_solidPart line) (classify_of_semicolon opening) plain
  rw [String.append_assoc, ← whole] at kind behind
  exact ⟨kind, execute_congr_of_returned? _ (behind.trans alone.symm) (by rw [behind]; rfl) store⟩

/-- Right behind `return`, a semicolon or the end of the line leaves that word alone in front of a
semicolon. -/
theorem exists_normalize_return (separators : IsSeparators line.toList)
    (joined : line.toList.head?.any isBlank = false) :
    ∃ rest, (normalize ("return" ++ line)).toList = "return;".toList ++ rest := by
  have start : trimStart ("return" ++ line).toList = "return".toList ++ line.toList := by
    rw [String.toList_append]
    exact trimStart_cons_of_not_blank (by decide)
  have kept : ∀ last, "return".toList.getLast? = some last → (last == ';') = false := by
    intro last found
    obtain rfl : 'n' = last := by simpa using found
    rfl
  rw [toList_normalize, start, dropEndWhile_append_of_kept _ kept, List.append_assoc]
  cases opening : line.toList with
  | nil => exact ⟨[], rfl⟩
  | cons c rest =>
    rw [opening, List.head?_cons, Option.any_some] at joined
    obtain rfl : c = ';' := by simpa [joined] using separators c (by simp [opening])
    rw [dropEndWhile_cons]
    split
    · exact ⟨[], rfl⟩
    · exact ⟨_, rfl⟩

/-- Right behind `return`, separators are refused: the word is taken for a part of the program. -/
theorem execute_return_refused (separators : IsSeparators line.toList)
    (joined : line.toList.head?.any isBlank = false) :
    ∃ fault, Program.execute (Host.scope call space) (code ("return" ++ line)) store =
      (.error fault, store) := by
  obtain ⟨rest, opening⟩ := exists_normalize_return separators joined
  obtain ⟨fault, unreadable⟩ := Program.read_of_return opening
  have front : "return".toList <+: (normalize ("return" ++ line)).toList := ⟨';' :: rest, opening.symm⟩
  have plain : ¬ OpensWithReturn (normalize ("return" ++ line)) := by
    rintro ⟨c, others, ends, opens⟩
    have behind : "return".toList ++ ';' :: rest = "return".toList ++ c :: others :=
      opening.symm.trans opens
    obtain rfl : ';' = c := (List.cons.inj (List.append_cancel_left behind)).1
    exact absurd ends (by decide)
  have filled : Program.isOnlySeparators (normalize ("return" ++ line)) = false := by
    rw [← String.ofList_toList (s := normalize ("return" ++ line)), opening]
    exact Program.isOnlySeparators_cons (by decide) (by decide) _
  refine ⟨fault, ?_⟩
  rw [execute_code_of_plain _ (classify_of_isPrefix front) plain]
  exact Program.capture_evaluateCode_of_error (fun _ => rfl) filled unreadable store

/-- Evaluating separators comes to nothing where their semicolons stand in two runs, blanks aside, the second
one at the end of the line; behind `return` a blank has to stand in front of them as well. Any other
separators are refused, and nothing changes. -/
theorem evaluating_separators (separators : IsSeparators line.toList) :
    (if isTwoRuns line.toList then ComesToNothing around call space line store
      else ∃ fault, IsRefused around call space line store fault) ∧
    (if line.toList.head?.any isBlank && isTwoRuns line.toList then
        ComesToNothing around call space ("return" ++ line) store
      else ∃ fault, IsRefused around call space ("return" ++ line) store fault) := by
  obtain ⟨rest, opening⟩ := exists_normalize_eq_semicolon separators
  have asked : kindOf line = .expression := classify_of_semicolon opening
  constructor
  · split
    · rename_i runs
      exact comesToNothing_of_executed around call space asked
        (execute_separators call space store separators runs)
    · rename_i scattered
      obtain ⟨fault, refused⟩ := execute_separators_refused call space store separators
        (by simpa using scattered)
      exact ⟨fault, isRefused_of_executed around call space refused⟩
  · cases apart : line.toList.head?.any isBlank with
    | false =>
      obtain ⟨fault, refused⟩ := execute_return_refused call space store separators apart
      exact ⟨fault, isRefused_of_executed around call space refused⟩
    | true =>
      obtain ⟨asked, same⟩ := execute_return_separators call space store separators apart
      have solid := isSeparators_solidPart separators
      rw [Bool.true_and]
      split
      · rename_i runs
        refine comesToNothing_of_executed around call space asked (same.trans ?_)
        exact execute_separators call space store solid ((isTwoRuns_solidPart line).trans runs)
      · rename_i scattered
        obtain ⟨fault, refused⟩ := execute_separators_refused call space store solid
          ((isTwoRuns_solidPart line).trans (by simpa using scattered))
        exact ⟨fault, isRefused_of_executed around call space (same.trans refused)⟩

/-- Two runs of semicolons come to nothing, also behind `return` and a blank; three runs are refused. -/
theorem evaluating_three_separators :
    let around : Surroundings (Program.Store (Host Unit)) :=
      ⟨fun _ store => (.ok "", store), fun _ _ store => store, fun _ store => (.error .unfinished, store),
        fun _ store => (false, store)⟩
    let store : Program.Store (Host Unit) := ⟨⟨[], 0⟩, [], "", .ofModules [] ()⟩
    ComesToNothing around (pure ()) "main" " ; ;" store ∧
      ComesToNothing around (pure ()) "main" "return ; ;" store ∧
      ∃ fault, IsRefused around (pure ()) "main" "; ; ;" store fault := by
  intro around store
  have separators : IsSeparators " ; ;".toList := by decide
  have more : IsSeparators "; ; ;".toList := by decide
  have two := evaluating_separators around (pure ()) "main" store separators
  have three := evaluating_separators around (pure ()) "main" store more
  exact ⟨two.1, two.2, three.1⟩

end Loop

end LiveConsole
