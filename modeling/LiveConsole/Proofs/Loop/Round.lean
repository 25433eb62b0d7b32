import LiveConsole.Loop

/-!
# Rounds of the read loop

A round looks at the path under watch, reads a line and acts on it. What the loop does with a line depends
on the line and on what runs code, not on where lines come from; so a reader with a state of its own can
take the place of another one, and the rest of the loop goes on as before. The events of a loop are told
apart here by what they are: lines read, code run, text written.
-/
namespace LiveConsole.Loop

/-! ## Events by what they are -/

/-- The lines read, each with the prompt that it was asked for with. -/
def reads (events : List Event) : List (String × String) :=
  events.filterMap fun
    | .read prompt line => some (prompt, line)
    | _ => none

/-- The code run. -/
def codes (events : List Event) : List String :=
  events.filterMap fun
    | .ran code => some code
    | _ => none

/-- Lines read before are followed by lines read later. -/
@[simp] theorem reads_append (before after : List Event) :
    reads (before ++ after) = reads before ++ reads after :=
  List.filterMap_append

/-- Code run before is followed by code run later. -/
@[simp] theorem codes_append (before after : List Event) :
    codes (before ++ after) = codes before ++ codes after :=
  List.filterMap_append

/-- The code run in turn for each item is that of the items in a row. -/
theorem codes_flatMap {Item : Type} (items : List Item) (events : Item → List Event) :
    codes (items.flatMap events) = items.flatMap fun item => codes (events item) :=
  List.filterMap_flatMap

/-- Reading a line adds that line to the lines read. -/
@[simp] theorem reads_read (prompt line : String) (events : List Event) :
    reads (.read prompt line :: events) = (prompt, line) :: reads events := rfl

/-- Reading a line runs no code. -/
@[simp] theorem codes_read (prompt line : String) (events : List Event) :
    codes (.read prompt line :: events) = codes events := rfl

/-- Running code reads no line. -/
@[simp] theorem reads_ran (code : String) (events : List Event) :
    reads (.ran code :: events) = reads events := rfl

/-- Running code adds that code to the code run. -/
@[simp] theorem codes_ran (code : String) (events : List Event) :
    codes (.ran code :: events) = code :: codes events := rfl

/-- Whether an event writes something and does nothing else. -/
def Event.isWriting : Event → Bool
  | read .. | ran _ => false
  | output _ | shown _ | status _ => true

/-- Events that only write read no line. -/
theorem reads_of_writing {events : List Event} (writing : ∀ event ∈ events, event.isWriting) :
    reads events = [] := by
  unfold reads
  rw [List.filterMap_eq_nil_iff]
  intro event member
  have only := writing event member
  cases event <;> first | rfl | cases only

/-- Events that only write run no code. -/
theorem codes_of_writing {events : List Event} (writing : ∀ event ∈ events, event.isWriting) :
    codes events = [] := by
  unfold codes
  rw [List.filterMap_eq_nil_iff]
  intro event member
  have only := writing event member
  cases event <;> first | rfl | cases only

/-- Captured output is only written. -/
theorem outputEvents_writing (output : String) :
    ∀ event ∈ outputEvents output, event.isWriting := by
  unfold outputEvents
  split <;> simp [Event.isWriting]

/-- A value shown is only written. -/
theorem shownEvents_writing {quiet : Bool} {value : Graph} {shown : List Event}
    (found : shownEvents quiet value = .ok shown) : ∀ event ∈ shown, event.isWriting := by
  unfold shownEvents at found
  split at found
  · cases found
    simp
  · cases dumped : Dump.lines? value with
    | error fault => rw [dumped] at found; cases found
    | ok dump =>
      rw [dumped] at found
      cases found
      simp [Event.isWriting]

/-- A status line is only written. -/
theorem statusEvents_writing (quiet : Bool) (message : String) :
    ∀ event ∈ statusEvents quiet message, event.isWriting := by
  unfold statusEvents
  split <;> simp [Event.isWriting]

section Text

variable (showIdent : Ident → String)

/-- Nothing done writes nothing. -/
@[simp] theorem textOf_nil : textOf showIdent [] = "" := rfl

/-- Text written before is followed by text written later. -/
@[simp] theorem textOf_append (before after : List Event) :
    textOf showIdent (before ++ after) = textOf showIdent before ++ textOf showIdent after := by
  rw [textOf, List.map_append, String.join_append]
  rfl

/-- The text of one event stands in front of that of the others. -/
theorem textOf_cons (event : Event) (events : List Event) :
    textOf showIdent (event :: events) = event.text showIdent ++ textOf showIdent events := by
  rw [textOf, List.map_cons, String.join_cons]
  rfl

/-- The text written in turn for each item is that of the items in a row. -/
theorem textOf_flatMap {Item : Type} (items : List Item) (events : Item → List Event) :
    textOf showIdent (items.flatMap events) =
      String.join (items.map fun item => textOf showIdent (events item)) := by
  induction items with
  | nil => rfl
  | cons item items ih => rw [List.flatMap_cons, textOf_append, ih, List.map_cons, String.join_cons]

/-- Reading a line writes nothing. -/
@[simp] theorem textOf_read (prompt line : String) (events : List Event) :
    textOf showIdent (.read prompt line :: events) = textOf showIdent events := by
  rw [textOf_cons, Event.text, String.empty_append]

/-- Running code writes nothing by itself. -/
@[simp] theorem textOf_ran (code : String) (events : List Event) :
    textOf showIdent (.ran code :: events) = textOf showIdent events := by
  rw [textOf_cons, Event.text, String.empty_append]

end Text

/-! ## What a round does with a line -/

/-- What the outcome of a call comes to: how the loop goes on, and what it writes. -/
def account (quiet : Bool) (kind : Line.Kind) (outcome : Except Fault Program.Execution) :
    Turn × List Event :=
  match outcome with
  | .error fault => (.over (.error fault), [])
  | .ok execution =>
    match kind with
    | .statement => (.again, outputEvents execution.output)
    | .expression =>
      match shownEvents quiet execution.value with
      | .error fault => (.over (.error fault), outputEvents execution.output)
      | .ok shown => (.again, outputEvents execution.output ++ shown)

/-- The account of a call only writes. -/
theorem account_writing (quiet : Bool) (kind : Line.Kind) (outcome : Except Fault Program.Execution) :
    ∀ event ∈ (account quiet kind outcome).2, event.isWriting := by
  cases outcome with
  | error fault => simp [account]
  | ok execution =>
    have output := outputEvents_writing execution.output
    cases kind with
    | statement => exact output
    | expression =>
      cases found : shownEvents quiet execution.value with
      | error fault =>
        simp only [account, found]
        exact output
      | ok shown =>
        simp only [account, found]
        intro event member
        rcases List.mem_append.1 member with written | written
        · exact output event written
        · exact shownEvents_writing found event written

variable {State Lines : Type} (around : Surroundings State)

/-- The kind of a typed line. -/
def kindOf (line : String) : Line.Kind := Line.classify (Line.normalize line)

/-- The call for a line: the line is announced, then its code is run. -/
def call (line : String) (state : State) : Except Fault Program.Execution × State :=
  around.execute (Line.code line) (around.announce (kindOf line) (Line.normalize line) state)

/-- The code of a line that asks for an effect is its normal form. -/
theorem code_statement {line : String} (kind : Line.classify (Line.normalize line) = .statement) :
    Line.code line = Line.normalize line := by
  delta Line.code
  simp only [kind]

/-- The code of a line that asks for a value is its normal form behind the word for that. -/
theorem code_expression {line : String} (kind : Line.classify (Line.normalize line) = .expression) :
    Line.code line = Line.asReturn (Line.normalize line) := by
  delta Line.code
  simp only [kind]

/-- Evaluating a line is one call for it and the account of what the call came to. -/
theorem evaluate_eq (quiet : Bool) (line : String) (state : State) :
    evaluate around quiet line state =
      ((account quiet (kindOf line) (call around line state).1).1,
        .ran (Line.code line) :: (account quiet (kindOf line) (call around line state).1).2,
        (call around line state).2) := by
  obtain ⟨_, announce, execute, _⟩ := around
  cases kind : Line.classify (Line.normalize line) with
  | statement =>
    simp only [evaluate, call, code_statement kind, kindOf, kind]
    generalize execute _ _ = called
    obtain ⟨fault | execution, after⟩ := called <;> rfl
  | expression =>
    simp only [evaluate, call, code_expression kind, kindOf, kind]
    generalize execute _ _ = called
    obtain ⟨fault | execution, after⟩ := called
    · rfl
    · simp only [account]
      cases shownEvents quiet execution.value <;> rfl

/-- What is done with a line that was read. -/
def respond (quiet : Bool) (line : String) (state : State) : Turn × List Event × State :=
  if line = "" then (.again, [], state)
  else if isWord exitWord line then (.over (.ok .left), [], state)
  else if isWord restartWord line then (.over (.ok .restart), statusEvents quiet restarting, state)
  else evaluate around quiet line state

/-- Responding to a line reads no other one. -/
theorem reads_respond (quiet : Bool) (line : String) (state : State) :
    reads (respond around quiet line state).2.1 = [] := by
  unfold respond
  split
  · rfl
  · split
    · rfl
    · split
      · exact reads_of_writing (statusEvents_writing _ _)
      · rw [evaluate_eq, reads_ran]
        exact reads_of_writing (account_writing _ _ _)

/-- Responding to a line makes at most one call: where calls are those of other surroundings, seen from
within them, so are responses. -/
theorem respond_of_call {Outer : Type} (outer : Surroundings Outer) (place : State → Outer)
    (same : ∀ line state, call outer line (place state) =
      ((call around line state).1, place (call around line state).2))
    (quiet : Bool) (line : String) (state : State) :
    respond outer quiet line (place state) =
      ((respond around quiet line state).1, (respond around quiet line state).2.1,
        place (respond around quiet line state).2.2) := by
  unfold respond
  split
  · rfl
  · split
    · rfl
    · split
      · rfl
      · rw [evaluate_eq, evaluate_eq, same]

/-- A round ends the loop when the path under watch has changed; else it reads a line and responds. -/
theorem turn_eq (manner : Manner) (state : State) :
    turn around manner state =
      match look around manner.watch state with
      | (some watch, state) =>
        (.over (.ok .restart), statusEvents manner.quiet (changeDetected watch.path), state)
      | (none, state) =>
        match around.read manner.prompt state with
        | (.error fault, state) => (.over (.error fault), [], state)
        | (.ok line, state) =>
          ((respond around manner.quiet line state).1,
            .read manner.prompt line :: (respond around manner.quiet line state).2.1,
            (respond around manner.quiet line state).2.2) := by
  unfold turn
  rcases look around manner.watch state with ⟨_ | watch, seen⟩
  · rcases found : around.read manner.prompt seen with ⟨fault | line, after⟩
    · simp only [found]
    · simp only [found, respond]
      split
      · rfl
      · split
        · rfl
        · split <;> rfl
  · rfl

/-! ## Rounds seen from within other surroundings -/

/-- Whether surroundings do, in the states that come from those of others, just what the others do. -/
structure Surroundings.Hosts {Outer : Type} (around : Surroundings State) (outer : Surroundings Outer)
    (place : State → Outer) : Prop where
  /-- A line is read there as here. -/
  read : ∀ prompt state, outer.read prompt (place state) =
    ((around.read prompt state).1, place (around.read prompt state).2)
  /-- A line is called for there as here. -/
  call : ∀ line state, call outer line (place state) =
    ((call around line state).1, place (call around line state).2)
  /-- A path under watch is looked at there as here. -/
  changed : ∀ watch state, outer.changed watch (place state) =
    ((around.changed watch state).1, place (around.changed watch state).2)

section Hosts

variable {around} {Outer : Type} {outer : Surroundings Outer} {place : State → Outer}

/-- A round does in other surroundings what it does in those seen from within them. -/
theorem turn_of_hosts (hosts : around.Hosts outer place) (manner : Manner) (state : State) :
    turn outer manner (place state) =
      ((turn around manner state).1, (turn around manner state).2.1,
        place (turn around manner state).2.2) := by
  have looked : look outer manner.watch (place state) =
      ((look around manner.watch state).1, place (look around manner.watch state).2) := by
    unfold look
    cases manner.watch with
    | none => rfl
    | some watch => simp only [hosts.changed]
  rw [turn_eq, turn_eq, looked]
  rcases look around manner.watch state with ⟨_ | watch, seen⟩
  · simp only [hosts.read]
    rcases around.read manner.prompt seen with ⟨fault | line, reached⟩
    · rfl
    · simp only [respond_of_call around outer place hosts.call]
  · rfl

/-- A run does in other surroundings what it does in those seen from within them. -/
theorem run_of_hosts (hosts : around.Hosts outer place) (manner : Manner) (rounds : Nat)
    (state : State) :
    run outer manner rounds (place state) =
      ((run around manner rounds state).1, (run around manner rounds state).2.1,
        place (run around manner rounds state).2.2) := by
  induction rounds generalizing state with
  | zero => rfl
  | succ rounds ih =>
    rw [run, run, turn_of_hosts hosts]
    rcases turn around manner state with ⟨again | result, events, after⟩
    · simp only [ih]
    · rfl

end Hosts

/-! ## Readers with a state of their own -/

/-- The same surroundings, with lines from a reader that keeps a state of its own. -/
def Surroundings.readingFrom (read : String → Lines → Except Fault String × Lines) :
    Surroundings (Lines × State) where
  read prompt both := ((read prompt both.1).1, (read prompt both.1).2, both.2)
  announce kind line both := (both.1, around.announce kind line both.2)
  execute code both := ((around.execute code both.2).1, both.1, (around.execute code both.2).2)
  changed watch both := ((around.changed watch both.2).1, both.1, (around.changed watch both.2).2)

variable (read : String → Lines → Except Fault String × Lines)

/-- Looking at the path under watch leaves a reader's own state alone. -/
theorem look_readingFrom (watch : Option Watch) (lines : Lines) (state : State) :
    look (around.readingFrom read) watch (lines, state) =
      ((look around watch state).1, lines, (look around watch state).2) := by
  cases watch with
  | none => rfl
  | some watch => rfl

/-- Responding to a line leaves a reader's own state alone. -/
theorem respond_readingFrom (quiet : Bool) (line : String) (lines : Lines) (state : State) :
    respond (around.readingFrom read) quiet line (lines, state) =
      ((respond around quiet line state).1, (respond around quiet line state).2.1, lines,
        (respond around quiet line state).2.2) :=
  respond_of_call around (around.readingFrom read) (lines, ·) (fun _ _ => rfl) quiet line state

/-- A round over a reader of its own: a look at the path under watch, a line, and the response to it. -/
theorem turn_readingFrom (manner : Manner) (lines : Lines) (state : State) :
    turn (around.readingFrom read) manner (lines, state) =
      match look around manner.watch state with
      | (some watch, state) =>
        (.over (.ok .restart), statusEvents manner.quiet (changeDetected watch.path), lines, state)
      | (none, state) =>
        match read manner.prompt lines with
        | (.error fault, lines) => (.over (.error fault), [], lines, state)
        | (.ok line, lines) =>
          ((respond around manner.quiet line state).1,
            .read manner.prompt line :: (respond around manner.quiet line state).2.1, lines,
            (respond around manner.quiet line state).2.2) := by
  rw [turn_eq, look_readingFrom]
  rcases look around manner.watch state with ⟨_ | watch, seen⟩
  · simp only [Surroundings.readingFrom]
    rcases read manner.prompt lines with ⟨fault | line, rest⟩
    · rfl
    · simp only
      rw [← Surroundings.readingFrom, respond_readingFrom]
  · rfl

end LiveConsole.Loop
