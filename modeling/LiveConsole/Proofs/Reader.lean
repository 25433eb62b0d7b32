import Mathlib.Data.List.Infix
import LiveConsole.Proofs.Text.Blank
import LiveConsole.Reader

/-!
# Groups of results

Reading a logical line takes results of runs off the front of what is to come: all that go on in the
next run, and the first one that does not. These results make up a group; the line is put together
from them, and each of them was asked for with a prompt of its own.
-/
namespace LiveConsole.Reader

/-- The physical line that a run gave, without the line feeds at its end; a failed run gave none. -/
def physical (result : Option String) : List Char := dropLineFeeds (result.getD "").toList

/-- Whether the line goes on in the next run. -/
def goesOn (result : Option String) : Bool := (physical result).getLast? == some '\\'

/-- What a run adds to the line. -/
def piece (result : Option String) : List Char :=
  if goesOn result then (physical result).dropLast else physical result

/-- Whether a run gave nothing or failed. -/
def isBlank (result : Option String) : Bool := (result.getD "").isEmpty

/-- Results that make up one line: all but the last one go on. -/
def IsGroup (group : List (Option String)) : Prop :=
  ∃ before last, group = before ++ [last] ∧ (∀ result ∈ before, goesOn result = true) ∧
    goesOn last = false

/-- The line that a group makes up; nothing at all is the word that leaves the loop. -/
def lineOf (group : List (Option String)) : String :=
  if group.head?.all isBlank then exitWord else String.ofList (group.flatMap piece)

/-- The results to come, and the calls made to get results. -/
structure Feed where
  /-- The results to come; when they are used up every run fails. -/
  results : Chunks
  /-- The arguments of the calls made. -/
  calls : List (List String)
  deriving DecidableEq, Repr

variable (history shell : String)

/-- Run the command that reads a line, for the next result. -/
def fromFeed : Source Feed := fun prompt feed =>
  let (text, results) := nextChunk prompt feed.results
  (text, ⟨results, feed.calls ++ [Shell.promptCommand prompt history shell]⟩)

/-- The calls for so many results in the middle of a line. -/
def furtherCalls (count : Nat) : List (List String) :=
  List.replicate count (Shell.promptCommand Shell.continuationPrompt history shell)

/-- The calls for the results of a group: one with the prompt, the others with that of a line that goes
on. -/
def callsOf (prompt : String) (group : List (Option String)) : List (List String) :=
  Shell.promptCommand prompt history shell :: furtherCalls history shell (group.length - 1)

/-! ## Results -/

/-- A text ends in a backslash if there is a text without it. -/
theorem withoutContinuation?_eq (text : List Char) :
    withoutContinuation? text = if text.getLast? = some '\\' then some text.dropLast else none := by
  rw [withoutContinuation?, ← List.head?_reverse]
  split
  · rename_i rest turned
    have same : text = rest.reverse ++ ['\\'] := by
      rw [← List.reverse_reverse text, turned, List.reverse_cons]
    rw [turned, List.head?_cons, if_pos rfl, same, List.dropLast_concat]
  · rename_i other
    rw [if_neg]
    intro found
    obtain ⟨rest, turned⟩ := List.head?_eq_some_iff.1 found
    exact other rest turned

/-- A blank result has no physical line. -/
theorem physical_of_isBlank {result : Option String} (blank : isBlank result = true) :
    physical result = [] := by
  have empty : result.getD "" = "" := by simpa [isBlank] using blank
  rw [physical, empty]
  rfl

/-- A blank result adds nothing to a line. -/
theorem piece_of_isBlank {result : Option String} (blank : isBlank result = true) :
    piece result = [] := by
  simp [piece, physical_of_isBlank blank]

/-- A blank result ends a line. -/
theorem goesOn_of_isBlank {result : Option String} (blank : isBlank result = true) :
    goesOn result = false := by
  simp [goesOn, physical_of_isBlank blank]

/-- A result that goes on is not blank. -/
theorem isBlank_of_goesOn {result : Option String} (more : goesOn result = true) :
    isBlank result = false := by
  rw [Bool.eq_false_iff]
  intro blank
  rw [goesOn_of_isBlank blank] at more
  cases more

/-! ## Groups -/

/-- A result stands in front of a group if it goes on, and is a group if it ends a line. -/
theorem isGroup_cons_iff {result : Option String} {rest : List (Option String)} :
    IsGroup (result :: rest) ↔
      goesOn result = true ∧ IsGroup rest ∨ goesOn result = false ∧ rest = [] := by
  constructor
  · rintro ⟨before, last, parts, goOn, done⟩
    cases before with
    | nil =>
      obtain ⟨rfl, rfl⟩ : result = last ∧ rest = [] := by simpa using parts
      exact .inr ⟨done, rfl⟩
    | cons first before =>
      obtain ⟨rfl, rfl⟩ : result = first ∧ rest = before ++ [last] := by simpa using parts
      exact .inl ⟨goOn result List.mem_cons_self, before, last, rfl,
        fun other member => goOn other (List.mem_cons_of_mem _ member), done⟩
  · rintro (⟨more, before, last, rfl, goOn, done⟩ | ⟨done, rfl⟩)
    · exact ⟨result :: before, last, rfl, by simpa using ⟨more, goOn⟩, done⟩
    · exact ⟨[], result, rfl, by simp, done⟩

/-- However the results to come look, those of one line stand in front: what follows the last of them
are failures. -/
theorem exists_isGroup (results : Chunks) : ∃ group, IsGroup group ∧ group <+: results ++ [none] := by
  induction results with
  | nil => exact ⟨[none], isGroup_cons_iff.2 (.inr ⟨by decide, rfl⟩), List.prefix_rfl⟩
  | cons result rest ih =>
    by_cases more : goesOn result = true
    · obtain ⟨group, complete, first⟩ := ih
      exact ⟨result :: group, isGroup_cons_iff.2 (.inl ⟨more, complete⟩), by simpa using first⟩
    · exact ⟨[result], isGroup_cons_iff.2 (.inr ⟨by simpa using more, rfl⟩), by simp⟩

/-- A group has a first result. -/
theorem IsGroup.length_pos {group : List (Option String)} (complete : IsGroup group) :
    0 < group.length := by
  obtain ⟨before, last, rfl, _⟩ := complete
  simp

/-- Results of runs fall into groups, with failures behind the last of them. -/
structure IsParted (results : Chunks) (groups : List (List (Option String))) : Prop where
  /-- The groups make up single lines. -/
  complete : ∀ group ∈ groups, IsGroup group
  /-- Their results stand in front, one group behind the other. -/
  inOrder : ∃ failures, groups.flatten <+: results ++ List.replicate failures none

/-- A group takes nothing behind the first failure. -/
theorem IsGroup.isPrefix {group : List (Option String)} (complete : IsGroup group) {results : Chunks}
    {failures : Nat} (first : group <+: results ++ List.replicate failures none) :
    group <+: results ++ [none] := by
  induction group generalizing results with
  | nil => exact List.nil_prefix
  | cons result rest ih =>
    cases results with
    | nil =>
      obtain rfl : result = none := List.eq_of_mem_replicate (first.subset List.mem_cons_self)
      obtain ⟨more, -⟩ | ⟨-, rfl⟩ := isGroup_cons_iff.1 complete
      · cases more
      · exact List.prefix_rfl
    | cons next results =>
      obtain ⟨rfl, further⟩ := List.cons_prefix_cons.1 first
      obtain ⟨-, complete⟩ | ⟨-, rfl⟩ := isGroup_cons_iff.1 complete
      · exact List.cons_prefix_cons.2 ⟨rfl, ih complete further⟩
      · exact List.cons_prefix_cons.2 ⟨rfl, List.nil_prefix⟩

/-- Behind a group that stands in front, the rest falls into the other groups. -/
theorem IsParted.tail {group : List (Option String)} {groups : List (List (Option String))} {results : Chunks}
    (parted : IsParted results (group :: groups)) : IsParted (results.drop group.length) groups := by
  obtain ⟨failures, spare, whole⟩ := parted.inOrder
  refine ⟨fun other member => parted.complete other (List.mem_cons_of_mem group member),
    failures - (group.length - results.length), spare, ?_⟩
  have behind := congrArg (List.drop group.length) whole
  rwa [List.flatten_cons, List.append_assoc, List.drop_left, List.drop_append, List.drop_replicate] at behind

/-- However many groups are asked for, the results fall into as many. -/
theorem exists_isParted (count : Nat) (results : Chunks) :
    ∃ groups, groups.length = count ∧ IsParted results groups := by
  induction count generalizing results with
  | zero => exact ⟨[], rfl, by simp, 0, List.nil_prefix⟩
  | succ count ih =>
    obtain ⟨group, complete, first⟩ := exists_isGroup results
    obtain ⟨groups, length, parted⟩ := ih (results.drop group.length)
    obtain ⟨failures, further⟩ := parted.inOrder
    refine ⟨group :: groups, by rw [List.length_cons, length],
      List.forall_mem_cons.2 ⟨complete, parted.complete⟩, failures + 1, ?_⟩
    have short : group.length ≤ results.length + 1 := by simpa using first.length_le
    have front : group <+: results ++ List.replicate (failures + 1) none :=
      first.trans ⟨List.replicate failures none, by simp [List.replicate_succ]⟩
    have whole : results ++ List.replicate (failures + 1) none = group ++ (results.drop group.length ++
        List.replicate (failures + 1 - (group.length - results.length)) none) := by
      rw [← List.drop_replicate, ← List.drop_append]
      exact List.prefix_append_drop front
    have fewer : List.replicate failures none <+:
        List.replicate (failures + 1 - (group.length - results.length)) (none : Option String) := by
      refine ⟨List.replicate (1 - (group.length - results.length)) none, ?_⟩
      rw [List.replicate_append_replicate]
      congr 1
      omega
    rw [List.flatten_cons, whole, List.prefix_append_right_inj]
    exact further.trans ((List.prefix_append_right_inj _).2 fewer)

/-- There are as many calls for a group as it has results. -/
theorem length_callsOf (prompt : String) {group : List (Option String)} (complete : IsGroup group) :
    (callsOf history shell prompt group).length = group.length := by
  have positive := complete.length_pos
  rw [callsOf, List.length_cons, furtherCalls, List.length_replicate]
  omega

/-- The line of a group is the word that leaves the loop if nothing was read or it spells that word. -/
theorem lineOf_eq_exitWord (group : List (Option String)) :
    lineOf group = exitWord ↔
      group.head?.all isBlank = true ∨ String.ofList (group.flatMap piece) = exitWord := by
  unfold lineOf
  split
  · rename_i blank
    simp [blank]
  · rename_i present
    simp [present]

/-! ## Reading a line -/

section Step

variable {State : Type} {source : Source State} {prompt : String} {runs : Nat}
variable {soFar : Option (List Char)} {state after : State} {result : Option String}

/-- The prompt of the next run: that of a line that goes on, where something was read already. -/
def promptFor (prompt : String) (soFar : Option (List Char)) : String :=
  if soFar.isSome then Shell.continuationPrompt else prompt

/-- Successive runs give these results: the first run has the prompt, every other one that of a line
that goes on. -/
inductive Gives (source : Source State) : String → List (Option String) → State → State → Prop
  /-- Without a run nothing is given. -/
  | nothing (prompt : String) (state : State) : Gives source prompt [] state state
  /-- A run gives a result, and the runs after it give the others. -/
  | next {prompt : String} {result : Option String} {rest : List (Option String)}
      {state between after : State} (called : source prompt state = (result, between))
      (others : Gives source Shell.continuationPrompt rest between after) :
      Gives source prompt (result :: rest) state after

/-- A blank result ends the line as it is. -/
theorem readOn_of_isBlank (called : source (promptFor prompt soFar) state = (result, after))
    (blank : isBlank result = true) :
    readOn source prompt (runs + 1) soFar state = (some (finished soFar), after) := by
  unfold promptFor at called
  rw [readOn, called]
  cases result with
  | none => rfl
  | some text =>
    have empty : text.isEmpty = true := by simpa [isBlank] using blank
    simp only [empty]
    rfl

/-- A result that goes on adds its piece to the line, and the line goes on. -/
theorem readOn_of_goesOn (called : source (promptFor prompt soFar) state = (result, after))
    (more : goesOn result = true) :
    readOn source prompt (runs + 1) soFar state =
      readOn source prompt runs (some (soFar.getD [] ++ piece result)) after := by
  have present := isBlank_of_goesOn more
  unfold promptFor at called
  rw [readOn, called]
  cases result with
  | none => cases present
  | some text =>
    have line : dropLineFeeds text.toList = physical (some text) := rfl
    have backslash : (physical (some text)).getLast? = some '\\' := by simpa [goesOn] using more
    have full : text.isEmpty = false := present
    simp only [full, line, withoutContinuation?_eq, if_pos backslash, piece, if_pos more]
    rfl

/-- Any other result adds its piece to the line and ends it. -/
theorem readOn_of_done (called : source (promptFor prompt soFar) state = (result, after))
    (present : isBlank result = false) (done : goesOn result = false) :
    readOn source prompt (runs + 1) soFar state =
      (some (String.ofList (soFar.getD [] ++ piece result)), after) := by
  unfold promptFor at called
  rw [readOn, called]
  cases result with
  | none => cases present
  | some text =>
    have line : dropLineFeeds text.toList = physical (some text) := rfl
    have other : (physical (some text)).getLast? ≠ some '\\' := by simpa [goesOn] using done
    have full : text.isEmpty = false := present
    simp only [full, line, withoutContinuation?_eq, if_neg other, piece, done]
    rfl

/-- What a line so far comes to with the results of a group. -/
def lineBehind (soFar : Option (List Char)) (group : List (Option String)) : String :=
  match soFar with
  | none => lineOf group
  | some chars => String.ofList (chars ++ group.flatMap piece)

/-- A result that goes on joins the line so far. -/
theorem lineBehind_cons (soFar : Option (List Char)) (group : List (Option String))
    (more : goesOn result = true) :
    lineBehind soFar (result :: group) =
      lineBehind (some (soFar.getD [] ++ piece result)) group := by
  have present := isBlank_of_goesOn more
  cases soFar <;> simp [lineBehind, lineOf, present]

/-- With a blank result the line stays as it is. -/
theorem lineBehind_of_isBlank (soFar : Option (List Char)) (blank : isBlank result = true) :
    lineBehind soFar [result] = finished soFar := by
  cases soFar <;> simp [lineBehind, lineOf, finished, blank, piece_of_isBlank blank]

/-- With any other result its piece comes behind the line. -/
theorem lineBehind_of_present (soFar : Option (List Char)) (present : isBlank result = false) :
    lineBehind soFar [result] = String.ofList (soFar.getD [] ++ piece result) := by
  cases soFar <;> simp [lineBehind, lineOf, present]

/-- Reading on takes the results of one line from the source, whatever it would give after them, and
adds all of them to the line. -/
theorem readOn_of_gives {group : List (Option String)} (complete : IsGroup group)
    (given : Gives source (promptFor prompt soFar) group state after) (enough : group.length ≤ runs) :
    readOn source prompt runs soFar state = (some (lineBehind soFar group), after) := by
  induction group generalizing soFar runs state with
  | nil => exact absurd complete.length_pos (Nat.lt_irrefl 0)
  | cons result rest ih =>
    rw [List.length_cons] at enough
    obtain ⟨runs, rfl⟩ : ∃ more, runs = more + 1 := ⟨runs - 1, by omega⟩
    cases given with
    | next called others =>
      rcases isGroup_cons_iff.1 complete with ⟨more, complete⟩ | ⟨done, rfl⟩
      · rw [readOn_of_goesOn called more, lineBehind_cons soFar rest more]
        exact ih complete others (by omega)
      · cases others
        cases blank : isBlank result with
        | true => rw [readOn_of_isBlank called blank, lineBehind_of_isBlank soFar blank]
        | false => rw [readOn_of_done called blank done, lineBehind_of_present soFar blank]

/-- Reading a line takes the results of one line from the source. -/
theorem readLine_of_gives {group : List (Option String)} (complete : IsGroup group)
    (given : Gives source prompt group state after) (enough : group.length ≤ runs) :
    readLine source prompt runs state = (some (lineOf group), after) := by
  have begun : Gives source (promptFor prompt none) group state after := given
  exact readOn_of_gives complete begun enough

end Step

/-! ## Reading from a feed -/

/-- One run of the command takes one result. -/
theorem fromFeed_eq (prompt : String) (feed : Feed) :
    fromFeed history shell prompt feed =
      (feed.results.head?.join, ⟨feed.results.tail,
        feed.calls ++ [Shell.promptCommand prompt history shell]⟩) := by
  obtain ⟨results, calls⟩ := feed
  cases results <;> rfl

/-- The first result of what stands in front is the next one to come; when nothing is to come, it is
the failure behind the end. -/
theorem head_of_isPrefix {result : Option String} {rest : List (Option String)} {results : Chunks}
    (first : result :: rest <+: results ++ [none]) :
    results.head?.join = result ∧ rest <+: results.tail ++ [none] := by
  cases results with
  | nil =>
    obtain ⟨rfl, rfl⟩ : result = none ∧ rest = [] := by simpa [List.cons_prefix_cons] using first
    exact ⟨rfl, List.nil_prefix⟩
  | cons next results =>
    obtain ⟨rfl, further⟩ : result = next ∧ rest <+: results ++ [none] := by
      simpa [List.cons_prefix_cons] using first
    exact ⟨rfl, further⟩

/-- In the middle of a line, successive runs take what stands in front of the results to come. -/
theorem gives_furtherCalls {group : List (Option String)} (feed : Feed)
    (first : group <+: feed.results ++ [none]) :
    Gives (fromFeed history shell) Shell.continuationPrompt group feed
      ⟨feed.results.drop group.length, feed.calls ++ furtherCalls history shell group.length⟩ := by
  induction group generalizing feed with
  | nil => simpa [furtherCalls] using Gives.nothing Shell.continuationPrompt feed
  | cons result rest ih =>
    obtain ⟨rfl, further⟩ := head_of_isPrefix first
    have others := ih ⟨feed.results.tail,
      feed.calls ++ [Shell.promptCommand Shell.continuationPrompt history shell]⟩ further
    rw [List.drop_tail, List.append_assoc] at others
    exact .next (fromFeed_eq history shell Shell.continuationPrompt feed) others

/-- From the start of a line on, successive runs take what stands in front of the results to come. -/
theorem gives_fromFeed (prompt : String) {group : List (Option String)} (feed : Feed)
    (first : group <+: feed.results ++ [none]) (present : group ≠ []) :
    Gives (fromFeed history shell) prompt group feed
      ⟨feed.results.drop group.length, feed.calls ++ callsOf history shell prompt group⟩ := by
  cases group with
  | nil => exact absurd rfl present
  | cons result rest =>
    obtain ⟨rfl, further⟩ := head_of_isPrefix first
    have others := gives_furtherCalls history shell ⟨feed.results.tail,
      feed.calls ++ [Shell.promptCommand prompt history shell]⟩ further
    rw [List.drop_tail, List.append_assoc] at others
    exact .next (fromFeed_eq history shell prompt feed) others

/-- Reading a line takes a group off the front and gives its line, whatever is still to come and however
many runs are allowed beyond those that are needed. -/
theorem readLine_group (prompt : String) {runs : Nat} (feed : Feed)
    (enough : feed.results.length < runs) :
    ∃ group, IsGroup group ∧ group <+: feed.results ++ [none] ∧
      readLine (fromFeed history shell) prompt runs feed =
        (some (lineOf group), ⟨feed.results.drop group.length,
          feed.calls ++ callsOf history shell prompt group⟩) := by
  obtain ⟨group, complete, first⟩ := exists_isGroup feed.results
  refine ⟨group, complete, first, readLine_of_gives complete ?_ ?_⟩
  · exact gives_fromFeed history shell prompt feed first (List.ne_nil_of_length_pos complete.length_pos)
  · have short := first.length_le
    rw [List.length_append, List.length_singleton] at short
    omega

end LiveConsole.Reader

/-!
# Lines typed in fragments

A line can be typed in fragments: a backslash and a line feed stand behind every fragment but the last,
and a line feed behind that. Of each result the reader takes away no more than was put there, whatever the
fragment holds, so the fragments come back in a row.
-/
namespace LiveConsole.Reader

/-- The results of a line typed in fragments. -/
def fragmentResults (fragments : List String) (last : String) : Chunks :=
  fragments.map (fun fragment => some (fragment ++ "\\\n")) ++ [some (last ++ "\n")]

/-- Whether a text can end a line: it ends neither in a backslash, behind which the line would go on,
nor in a line feed, which would be taken for one that ends the result. -/
def Settles (last : String) : Prop :=
  last.toList.getLast? ≠ some '\\' ∧ last.toList.getLast? ≠ some '\n'

/-! ## Single results -/

/-- The physical line of a fragment keeps all of it, line feeds included: the backslash stands behind
them. -/
theorem physical_fragment (fragment : String) :
    physical (some (fragment ++ "\\\n")) = fragment.toList ++ ['\\'] := by
  have kept : ∀ last, (fragment.toList ++ ['\\']).getLast? = some last → (last == '\n') = false := by
    intro last found
    obtain rfl : '\\' = last := by simpa using found
    rfl
  have whole : (fragment ++ "\\\n").toList = (fragment.toList ++ ['\\']) ++ ['\n'] := by simp
  rw [physical, Option.getD_some, whole, dropLineFeeds, Text.dropEndWhile_append_of_kept _ kept]
  simp [Text.dropEndWhile]

/-- A line goes on behind a fragment. -/
theorem goesOn_fragment (fragment : String) : goesOn (some (fragment ++ "\\\n")) = true := by
  simp [goesOn, physical_fragment]

/-- A fragment adds itself to the line. -/
theorem piece_fragment (fragment : String) :
    piece (some (fragment ++ "\\\n")) = fragment.toList := by
  rw [piece, if_pos (goesOn_fragment fragment), physical_fragment, List.dropLast_concat]

variable {last : String}

/-- The physical line of the last fragment is that fragment. -/
theorem physical_last (settled : Settles last) : physical (some (last ++ "\n")) = last.toList := by
  have kept : ∀ c, last.toList.getLast? = some c → (c == '\n') = false := by
    intro c found
    have other : c ≠ '\n' := fun same => settled.2 (same ▸ found)
    simpa using other
  rw [physical, Option.getD_some, String.toList_append, dropLineFeeds,
    Text.dropEndWhile_append_of_kept _ kept]
  simp [Text.dropEndWhile]

/-- A line ends behind its last fragment. -/
theorem goesOn_last (settled : Settles last) : goesOn (some (last ++ "\n")) = false := by
  simpa [goesOn, physical_last settled] using settled.1

/-- The last fragment adds itself to the line. -/
theorem piece_last (settled : Settles last) : piece (some (last ++ "\n")) = last.toList := by
  simp [piece, goesOn_last settled, physical_last settled]

/-! ## All results of a line -/

/-- The results of a line typed in fragments are those of one line. -/
theorem isGroup_fragmentResults (fragments : List String) (settled : Settles last) :
    IsGroup (fragmentResults fragments last) := by
  refine ⟨fragments.map fun fragment => some (fragment ++ "\\\n"), some (last ++ "\n"), rfl, ?_,
    goesOn_last settled⟩
  intro result member
  obtain ⟨fragment, -, rfl⟩ := List.mem_map.1 member
  exact goesOn_fragment fragment

/-- Together the results add the fragments in a row. -/
theorem flatMap_piece_fragmentResults (fragments : List String) (settled : Settles last) :
    (fragmentResults fragments last).flatMap piece = (String.join fragments ++ last).toList := by
  rw [fragmentResults, List.flatMap_append, List.flatMap_map, String.toList_append,
    String.toList_join]
  simp only [piece_fragment, List.flatMap_singleton, piece_last settled]

/-- The line of these results is the text that was typed: a result is not blank even where its fragment
is, so nothing typed is not mistaken for nothing read. -/
theorem lineOf_fragmentResults (fragments : List String) (settled : Settles last) :
    lineOf (fragmentResults fragments last) = String.join fragments ++ last := by
  have read : (fragmentResults fragments last).head?.all isBlank = false := by
    cases fragments <;> simp [fragmentResults, isBlank]
  rw [lineOf, read, flatMap_piece_fragmentResults fragments settled]
  exact String.ofList_toList

/-- A line survives any division into fragments. The reader gives the fragments in a row, after one run for
each of them, and leaves what comes after them for the next line; so the same text divided in another way
gives the same line. -/
theorem readLine_joins_fragments (history shell prompt : String) (fragments : List String)
    (last : String) (settled : Settles last) (later : Chunks) (calls : List (List String))
    (spare : Nat) :
    let results := fragmentResults fragments last
    let asked := callsOf history shell prompt results
    readLine (fromFeed history shell) prompt (results.length + spare) ⟨results ++ later, calls⟩ =
        (some (String.join fragments ++ last), ⟨later, calls ++ asked⟩) ∧
      asked.length = fragments.length + 1 ∧
      ∀ (others : List String) (final : String), Settles final →
        String.join others ++ final = String.join fragments ++ last →
          ∀ (after : Chunks) (more : Nat),
            (readLine (fromFeed history shell) prompt ((fragmentResults others final).length + more)
              ⟨fragmentResults others final ++ after, calls⟩).1 =
                some (String.join fragments ++ last) := by
  have reads : ∀ (others : List String) (final : String), Settles final →
      ∀ (after : Chunks) (more : Nat),
        readLine (fromFeed history shell) prompt ((fragmentResults others final).length + more)
            ⟨fragmentResults others final ++ after, calls⟩ =
          (some (String.join others ++ final),
            ⟨after, calls ++ callsOf history shell prompt (fragmentResults others final)⟩) := by
    intro others final settled after more
    have complete := isGroup_fragmentResults others settled
    have given := gives_fromFeed history shell prompt ⟨fragmentResults others final ++ after, calls⟩
      (by simp : fragmentResults others final <+: _) (List.ne_nil_of_length_pos complete.length_pos)
    rw [readLine_of_gives complete given (Nat.le_add_right _ more),
      lineOf_fragmentResults others settled, List.drop_left]
  refine ⟨reads fragments last settled later spare, ?_, ?_⟩
  · rw [length_callsOf history shell prompt (isGroup_fragmentResults fragments settled)]
    simp [fragmentResults]
  · intro others final settled same after more
    rw [reads others final settled after more, same]

/-- A line of two fragments, the first of them empty. -/
theorem readLine_joins_empty_fragment :
    Settles "x" ∧
      readLine (fromFeed "h" "/bin/bash") "py> " 2 ⟨[some "\\\n", some "x\n", some "y\n"], []⟩ =
        (some "x", ⟨[some "y\n"], callsOf "h" "/bin/bash" "py> " [some "\\\n", some "x\n"]⟩) :=
  have settled : Settles "x" := ⟨by decide, by decide⟩
  ⟨settled, (readLine_joins_fragments "h" "/bin/bash" "py> " [""] "x" settled [some "y\n"] [] 0).1⟩

end LiveConsole.Reader
