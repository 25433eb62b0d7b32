import LiveConsole.Proofs.Loop.Round
import LiveConsole.Proofs.Text.Blank

/-!
# Lines and the code that is run for them

The read loop decides from the leading word of a normal line whether it asks for a value, and the executor
decides once more from the leading word of the code that it is handed. The main statement is that the two
always decide alike: a statement is run whole for its effects, the code of an expression is evaluated, and
what is evaluated is the normal line without a leading `return` and the blanks behind it. So a `return` in
front of an expression makes no difference.
-/
namespace LiveConsole

namespace Text

/-- What follows an opening of a text is the text without it. -/
theorem afterOpening_eq_some_iff {opening chars rest : List Char} :
    afterOpening opening chars = some rest ↔ chars = opening ++ rest := by
  induction opening generalizing chars with
  | nil => simp [afterOpening]
  | cons c opening ih =>
    cases chars with
    | nil => simp [afterOpening]
    | cons d chars =>
      by_cases same : c = d
      · simp [afterOpening, same, ih]
      · simp [afterOpening, same, Ne.symm same]

/-- A text that opens with no blank is trimmed already. -/
theorem trimStart_cons_of_not_blank {c : Char} {rest : List Char} (solid : isBlank c = false) :
    trimStart (c :: rest) = c :: rest := by
  rw [trimStart, List.dropWhile_cons_of_neg (by simp [solid])]

end Text

namespace Line

open Text

/-! ## Leading words -/

/-- Whether a line opens with `return` and a blank or an opening parenthesis behind it. -/
def OpensWithReturn (line : String) : Prop :=
  ∃ c rest, endsWord c = true ∧ line.toList = "return".toList ++ c :: rest

/-- A word leads a line when it is followed by a blank or an opening parenthesis. -/
theorem afterWord_eq_some_iff {word : String} {line rest : List Char} :
    afterWord word line = some rest ↔
      ∃ c tail, endsWord c = true ∧ rest = c :: tail ∧ line = word.toList ++ c :: tail := by
  unfold afterWord
  cases found : afterOpening word.toList line with
  | none =>
    constructor
    · intro none
      cases none
    · rintro ⟨c, tail, -, -, parted⟩
      rw [afterOpening_eq_some_iff.2 parted] at found
      cases found
  | some behind =>
    have parted := afterOpening_eq_some_iff.1 found
    cases behind with
    | nil =>
      constructor
      · intro none
        cases none
      · rintro ⟨c, tail, -, -, other⟩
        simp [parted] at other
    | cons c tail =>
      by_cases ends : endsWord c = true
      · simp only [ends, ↓reduceIte, Option.some.injEq]
        constructor
        · rintro rfl
          exact ⟨c, tail, ends, rfl, parted⟩
        · rintro ⟨d, other, -, rfl, again⟩
          exact List.append_cancel_left (parted.symm.trans again)
      · simp only [ends, Bool.false_eq_true, ↓reduceIte, reduceCtorEq, false_iff]
        rintro ⟨d, other, stops, -, again⟩
        have same := List.append_cancel_left (parted.symm.trans again)
        rw [(List.cons.inj same).1] at ends
        exact ends stops

/-- The leading `return` of a line is found exactly when there is one. -/
theorem isSome_afterReturn_iff {line : String} :
    (afterWord "return" line.toList).isSome = true ↔ OpensWithReturn line := by
  rw [Option.isSome_iff_exists]
  constructor
  · rintro ⟨rest, found⟩
    obtain ⟨c, tail, ends, -, parted⟩ := afterWord_eq_some_iff.1 found
    exact ⟨c, tail, ends, parted⟩
  · rintro ⟨c, tail, ends, parted⟩
    exact ⟨c :: tail, afterWord_eq_some_iff.2 ⟨c, tail, ends, rfl, parted⟩⟩

/-- Code without a leading `return` is not evaluated for its value. -/
theorem returned?_eq_none {line : String} (plain : ¬ OpensWithReturn line) : returned? line = none := by
  rw [returned?, Option.map_eq_none_iff, ← Option.not_isSome_iff_eq_none, isSome_afterReturn_iff]
  exact plain

/-- What is evaluated of code with a leading `return` is what follows the blanks behind it. -/
theorem returned?_of_opens {line : String} {c : Char} {rest : List Char} (ends : endsWord c = true)
    (opens : line.toList = "return".toList ++ c :: rest) :
    returned? line = some (String.ofList (trimStart (c :: rest))) := by
  rw [returned?, afterWord_eq_some_iff.2 ⟨c, rest, ends, rfl, opens⟩, Option.map_some]

/-- No word that makes a line a statement is an opening of `return`, or the other way round. -/
theorem keywords_apart :
    ∀ keyword ∈ keywords, ¬ keyword.toList <+: "return".toList ∧ ¬ "return".toList <+: keyword.toList := by
  decide

/-- A line that begins with `return` asks for a value, whatever stands behind it. -/
theorem classify_of_isPrefix {line : String} (front : "return".toList <+: line.toList) :
    classify line = .expression := by
  unfold classify
  rw [if_neg]
  intro found
  obtain ⟨keyword, member, leads⟩ := List.any_eq_true.1 found
  obtain ⟨behind, leads⟩ := Option.isSome_iff_exists.1 leads
  obtain ⟨d, tail, -, -, parted⟩ := afterWord_eq_some_iff.1 leads
  have apart := keywords_apart keyword member
  have first : keyword.toList <+: line.toList := ⟨d :: tail, parted.symm⟩
  rcases List.prefix_or_prefix_of_prefix first front with inside | inside
  · exact apart.1 inside
  · exact apart.2 inside

/-- A line with a leading `return` asks for a value. -/
theorem classify_of_opens {line : String} (opens : OpensWithReturn line) :
    classify line = .expression := by
  obtain ⟨c, rest, -, opens⟩ := opens
  exact classify_of_isPrefix ⟨c :: rest, opens.symm⟩

/-! ## Normal lines -/

/-- The characters of a normal line. -/
theorem toList_normalize (line : String) :
    (normalize line).toList = dropEndWhile (· == ';') (trimStart line.toList) ++ [';'] := by
  rw [normalize, String.toList_ofList]

/-- A normal line opens with no blank. -/
theorem trimStart_normalize (line : String) :
    trimStart (normalize line).toList = (normalize line).toList := by
  rw [toList_normalize]
  cases kept : dropEndWhile (· == ';') (trimStart line.toList) with
  | nil => exact trimStart_cons_of_not_blank (by decide)
  | cons c rest =>
    obtain ⟨dropped, parted, -⟩ := dropEndWhile_append (· == ';') (trimStart line.toList)
    have front : [c] <+: trimStart line.toList := by
      rw [parted, kept]
      exact ⟨rest ++ dropped, by simp⟩
    have solid := dropWhile_of_prefix front (dropWhile_dropWhile isBlank line.toList)
    cases blank : isBlank c with
    | false => exact trimStart_cons_of_not_blank blank
    | true =>
      rw [List.dropWhile_cons_of_pos blank] at solid
      cases solid

/-- A line that opens with `return` and not with a blank does so in its normal form, and only then. -/
theorem opensWithReturn_of_normalize {line : String} (trimmed : trimStart line.toList = line.toList)
    (opens : OpensWithReturn (normalize line)) : OpensWithReturn line := by
  obtain ⟨c, rest, ends, opens⟩ := opens
  rw [toList_normalize, trimmed] at opens
  obtain ⟨dropped, parted, -⟩ := dropEndWhile_append (· == ';') line.toList
  have kept := congrArg List.dropLast opens
  rw [List.dropLast_concat, List.dropLast_append_cons] at kept
  cases rest with
  | nil =>
    have last : ';' = c := by
      have both := congrArg List.getLast? opens
      simpa using both
    rw [← last] at ends
    exact absurd ends (by decide)
  | cons d rest =>
    refine ⟨c, (d :: rest).dropLast ++ dropped, ends, ?_⟩
    rw [parted, kept, List.dropLast_cons_cons, List.append_assoc, List.cons_append]

/-- The normal form of a line behind `return` and blanks is `return`, the blanks, and its normal form. -/
theorem toList_normalize_return {gap line : String} (blank : ∀ c ∈ gap.toList, isBlank c = true)
    (filled : gap ≠ "") (trimmed : trimStart line.toList = line.toList) :
    (normalize ("return" ++ gap ++ line)).toList =
      "return".toList ++ gap.toList ++ (normalize line).toList := by
  have front : trimStart ("return" ++ gap ++ line).toList =
      ("return".toList ++ gap.toList) ++ line.toList := by
    rw [String.toList_append, String.toList_append]
    exact trimStart_cons_of_not_blank (by decide)
  have kept : ∀ last, ("return".toList ++ gap.toList).getLast? = some last → (last == ';') = false := by
    intro last found
    have some : gap.toList ≠ [] := by simpa using filled
    rw [List.getLast?_append, List.getLast?_eq_some_getLast some, Option.some_or] at found
    have isBlank := blank _ (List.getLast_mem some)
    rw [Option.some.inj found] at isBlank
    cases semicolon : last == ';' with
    | false => rfl
    | true =>
      rw [eq_of_beq semicolon] at isBlank
      exact absurd isBlank (by decide)
  rw [toList_normalize, front, dropEndWhile_append_of_kept _ kept, toList_normalize, trimmed,
    List.append_assoc]

/-- The code of an expression is evaluated: the normal line, without a leading `return` and the blanks
behind it. -/
theorem returned?_asReturn (line : String) :
    ∃ body, returned? (asReturn (normalize line)) = some body ∧
      (¬ OpensWithReturn (normalize line) → body = normalize line) ∧
      (OpensWithReturn (normalize line) → ∃ gap, allBlank gap = true ∧
        normalize line = "return" ++ gap ++ body ∧ trimStart body.toList = body.toList) := by
  unfold asReturn
  by_cases opens : OpensWithReturn (normalize line)
  · rw [if_pos (isSome_afterReturn_iff.2 opens)]
    obtain ⟨c, rest, ends, parted⟩ := opens
    refine ⟨_, returned?_of_opens ends parted, fun plain => absurd ⟨c, rest, ends, parted⟩ plain, ?_⟩
    intro _
    refine ⟨String.ofList ((c :: rest).takeWhile isBlank), ?_, ?_, ?_⟩
    · rw [allBlank, String.toList_ofList, List.all_takeWhile]
    · rw [← String.toList_inj, parted]
      simp only [String.toList_append, String.toList_ofList, List.append_assoc, trimStart,
        List.takeWhile_append_dropWhile]
    · rw [String.toList_ofList]
      exact dropWhile_dropWhile isBlank (c :: rest)
  · rw [if_neg (by rwa [isSome_afterReturn_iff])]
    have parted : ("return " ++ normalize line).toList =
        "return".toList ++ ' ' :: (normalize line).toList := by
      rw [String.toList_append]
      rfl
    refine ⟨_, returned?_of_opens (by decide) parted, fun _ => ?_, fun opened => absurd opened opens⟩
    have passed : trimStart (' ' :: (normalize line).toList) = trimStart (normalize line).toList :=
      List.dropWhile_cons_of_pos (by decide)
    rw [passed, trimStart_normalize, String.ofList_toList]

end Line

namespace Loop

open Text Line

/-- A read loop that runs its code in a namespace and whose announcements nobody hears. -/
def Surroundings.inNamespace {World : Type} (around : Surroundings (Program.Store World))
    (scope : Program.Scope World) : Surroundings (Program.Store World) :=
  { around with announce := fun _ _ store => store, execute := Program.execute scope }

variable {World : Type} (around : Surroundings (Program.Store World)) (scope : Program.Scope World)

/-- The call for a line is the execution of its code in the namespace. -/
theorem call_inNamespace (line : String) (store : Program.Store World) :
    call (around.inNamespace scope) line store = Program.execute scope (code line) store := by
  simp only [call, Surroundings.inNamespace]

/-- Evaluating a line in a namespace is executing its code there and the account of what came of it. -/
theorem evaluate_inNamespace (quiet : Bool) (line : String) (store : Program.Store World) :
    evaluate (around.inNamespace scope) quiet line store =
      ((account quiet (kindOf line) (Program.execute scope (code line) store).1).1,
        .ran (code line) ::
          (account quiet (kindOf line) (Program.execute scope (code line) store).1).2,
        (Program.execute scope (code line) store).2) := by
  rw [evaluate_eq, call_inNamespace]

/-- What evaluating a line writes is the account of executing its code. -/
theorem written_evaluate_inNamespace (quiet : Bool) (line : String) (store : Program.Store World) :
    (evaluate (around.inNamespace scope) quiet line store).2.1.filter Event.isWriting =
      (account quiet (kindOf line) (Program.execute scope (code line) store).1).2 := by
  rw [evaluate_inNamespace, List.filter_cons_of_neg (by simp [Event.isWriting])]
  exact List.filter_eq_self.2 (account_writing _ _ _)

/-- Code is executed alike when the same is evaluated of it. -/
theorem execute_congr_of_returned? {code other : String} (same : returned? code = returned? other)
    (evaluated : (returned? code).isSome = true) (store : Program.Store World) :
    Program.execute scope code store = Program.execute scope other store := by
  obtain ⟨body, found⟩ := Option.isSome_iff_exists.1 evaluated
  have dispatched : Program.dispatch scope code = Program.dispatch scope other := by
    rw [Program.dispatch, Program.dispatch, ← same, found]
  rw [Program.execute, Program.execute, dispatched]

/-- Code that is evaluated for its value opens with `return`. -/
theorem opensWithReturn_of_isSome {code : String} (evaluated : (returned? code).isSome = true) :
    OpensWithReturn code := by
  rw [← isSome_afterReturn_iff]
  rwa [returned?, Option.isSome_map] at evaluated

/-- The code of an expression whose normal form does not open with `return` is that normal form, evaluated. -/
theorem execute_code_of_plain {line : String} (asked : kindOf line = .expression)
    (plain : ¬ OpensWithReturn (normalize line)) (store : Program.Store World) :
    Program.execute scope (code line) store =
      Program.capture (Program.evaluateCode scope (normalize line)) store := by
  obtain ⟨body, found, direct, -⟩ := returned?_asReturn line
  rw [code_expression asked, Program.execute, Program.dispatch, found, direct plain]

/-- A `return` and blanks in front of an expression change nothing of what is evaluated. -/
theorem returned?_code_return {gap line : String} (blank : allBlank gap = true) (filled : gap ≠ "")
    (trimmed : trimStart line.toList = line.toList) (asked : kindOf line = .expression)
    (plain : ¬ OpensWithReturn line) :
    kindOf ("return" ++ gap ++ line) = .expression ∧
      returned? (code ("return" ++ gap ++ line)) = some (normalize line) ∧
      returned? (code line) = some (normalize line) := by
  have blanks : ∀ c ∈ gap.toList, isBlank c = true := List.all_eq_true.1 blank
  have whole := toList_normalize_return blanks filled trimmed
  have some : gap.toList ≠ [] := by simpa using filled
  obtain ⟨c, rest, parted⟩ := List.exists_cons_of_ne_nil some
  have ends : endsWord c = true := by
    rw [endsWord, blanks c (by simp [parted]), Bool.or_true]
  rw [parted, List.append_assoc, List.cons_append] at whole
  have opens : OpensWithReturn (normalize ("return" ++ gap ++ line)) := ⟨c, _, ends, whole⟩
  have kind : kindOf ("return" ++ gap ++ line) = .expression := classify_of_opens opens
  refine ⟨kind, ?_, ?_⟩
  · have passed : trimStart (gap.toList ++ (normalize line).toList) =
        trimStart (normalize line).toList := List.dropWhile_append_of_pos blanks
    rw [code_expression kind, asReturn, if_pos (isSome_afterReturn_iff.2 opens),
      returned?_of_opens ends whole, ← List.cons_append, ← parted, passed, trimStart_normalize,
      String.ofList_toList]
  · obtain ⟨body, found, direct, -⟩ := returned?_asReturn line
    have unopened : ¬ OpensWithReturn (normalize line) := fun opened =>
      plain (opensWithReturn_of_normalize trimmed opened)
    rw [code_expression asked, found, direct unopened]

/--
The loop and the executor agree on every line. Code sent for a statement has no leading `return` and is
run whole. Code sent for an expression has one, and what is evaluated is the normal line, without the
`return` that it may open with and the blanks behind that. So evaluating an expression behind `return` and
blanks does what evaluating the expression does.
-/
theorem dispatch_agrees_with_kind :
    (∀ line, kindOf line = .statement →
      code line = normalize line ∧ ¬ OpensWithReturn (code line) ∧
        Program.dispatch scope (code line) = Program.runCode scope (normalize line)) ∧
    (∀ line, kindOf line = .expression →
      code line = asReturn (normalize line) ∧ OpensWithReturn (code line) ∧
        ∃ body, Program.dispatch scope (code line) = Program.evaluateCode scope body ∧
          (¬ OpensWithReturn (normalize line) → body = normalize line) ∧
          (OpensWithReturn (normalize line) → ∃ gap, allBlank gap = true ∧
            normalize line = "return" ++ gap ++ body ∧ trimStart body.toList = body.toList)) ∧
    (∀ gap line quiet store, allBlank gap = true → gap ≠ "" →
      line.toList.head?.any (fun c => !isBlank c) = true → kindOf line = .expression →
      ¬ OpensWithReturn line →
        let behind := evaluate (around.inNamespace scope) quiet ("return" ++ gap ++ line) store
        let alone := evaluate (around.inNamespace scope) quiet line store
        behind.1 = alone.1 ∧ behind.2.2 = alone.2.2 ∧
          behind.2.1.filter Event.isWriting = alone.2.1.filter Event.isWriting) := by
  refine ⟨fun line kind => ?_, fun line kind => ?_, ?_⟩
  · have plain : ¬ OpensWithReturn (code line) := by
      rw [code_statement kind]
      intro opens
      rw [kindOf, classify_of_opens opens] at kind
      cases kind
    refine ⟨code_statement kind, plain, ?_⟩
    rw [Program.dispatch, returned?_eq_none plain, code_statement kind]
  · obtain ⟨body, found, parts⟩ := returned?_asReturn line
    rw [code_expression kind]
    refine ⟨rfl, opensWithReturn_of_isSome (by rw [found]; rfl), body, ?_, parts⟩
    rw [Program.dispatch, found]
  · intro gap line quiet store blank filled solid asked plain
    cases opening : line.toList with
    | nil =>
      rw [opening] at solid
      cases solid
    | cons first others =>
      rw [opening, List.head?_cons, Option.any_some, Bool.not_eq_true'] at solid
      have trimmed : trimStart line.toList = line.toList := by
        rw [opening, trimStart_cons_of_not_blank solid]
      obtain ⟨kind, behind, alone⟩ := returned?_code_return blank filled trimmed asked plain
      have executed : Program.execute scope (code ("return" ++ gap ++ line)) store =
          Program.execute scope (code line) store :=
        execute_congr_of_returned? scope (behind.trans alone.symm) (by rw [behind]; rfl) store
      dsimp only
      rw [written_evaluate_inNamespace, written_evaluate_inNamespace, evaluate_inNamespace,
        evaluate_inNamespace, executed, kind, asked]
      exact ⟨rfl, rfl, rfl⟩

end Loop

end LiveConsole
