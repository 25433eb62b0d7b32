import LiveConsole.Proofs.Shell.Running

/-!
# Shells that share a history file

Shells run the script that reads a line at the same time, on the same files and with the same history file. Their
commands come in any order. Each shell writes the file with what was in it when it was loaded there and its own line
behind that. So a line that was written stays in the file for as long as only shells write that loaded the file
after it: the one way to lose it is a shell that had loaded the file before and writes it afterwards.
-/
namespace LiveConsole.Shell

/-- A shell that sees the files of a tree. -/
def Running.onTree (running : Running) (tree : FileTree) : Running :=
  { running with process := { running.process with system := { running.process.system with tree } } }

/-- Where in the script a shell is has nothing to do with the files. -/
theorem Running.IsAt.onTree {running : Running} {prompt history : String} {line : Option Bytes} {place : Nat}
    (here : running.IsAt prompt history line place) (tree : FileTree) :
    (running.onTree tree).IsAt prompt history line place := by
  have entered : (running.onTree tree).process.entered? = running.process.entered? :=
    Process.entered?_congr rfl rfl rfl rfl
  exact ⟨here.rest, here.enough, here.plain.congr rfl, here.fresh,
    fun early => entered.trans (here.asks early), here.told, here.known, here.passed, here.appended⟩

/-- A shell stays on its way through the script when files change. -/
theorem Running.Follows.onTree {running : Running} {prompt history : String} {line : Option Bytes}
    (follows : running.Follows prompt history line) (tree : FileTree) :
    (running.onTree tree).Follows prompt history line := by
  rcases follows with finished | ⟨place, inside, here⟩
  · exact .inl finished
  · exact .inr ⟨place, inside, here.onTree tree⟩

/-- Shells that share a file tree. -/
structure Sharing (ι : Type) where
  /-- The files. -/
  tree : FileTree
  /-- The shells, each between two commands. -/
  shells : ι → Running

namespace Sharing

variable {ι : Type}

/-- A shell with the files as they are now. -/
def seen (sharing : Sharing ι) (i : ι) : Running := (sharing.shells i).onTree sharing.tree

/-- The contents of a file as a shell sees it. -/
def fileAt? (sharing : Sharing ι) (i : ι) (path : String) : Option Bytes :=
  (sharing.seen i).process.system.fileAt? path

/-- What a shell enters when it comes to read a line, if a line feed ends it. -/
def entered? (sharing : Sharing ι) (i : ι) : Option Bytes := (sharing.shells i).process.entered?

/-- Whether shells are in front of the script that reads a line, in one directory, with one history file that can
be written. -/
structure IsReady (directory : Location) (history : String) (sharing : Sharing ι) : Prop where
  /-- Every shell is plain, has an empty history and runs the script with its own prompt. -/
  starts : ∀ i, ∃ process prompt, sharing.shells i = .ofPrompt process prompt history ∧ process.IsPlain ∧
    process.history = []
  /-- The shells work in the same directory. -/
  together : ∀ i, (sharing.shells i).process.system.directory = directory
  /-- The history file can be written. -/
  writable : ∀ i, ((sharing.seen i).process.system.writeFile? history []).isSome = true
  /-- The path of the history file does not ask for help. -/
  noHelpPath : history ≠ "--help"

variable [DecidableEq ι]

/-- A shell takes its next command. -/
def move (sharing : Sharing ι) (i : ι) : Sharing ι :=
  let moved := (sharing.seen i).move
  ⟨moved.process.system.tree, Function.update sharing.shells i moved⟩

/-- Shells take their next commands in turn. -/
def run (sharing : Sharing ι) (schedule : List ι) : Sharing ι := schedule.foldl move sharing

/-- Whether the line of a shell is overwritten by another one: that had loaded the history file when the shell
wrote it, and writes it later. -/
def Overwrites (history : String) (sharing : Sharing ι) (schedule : List ι) (i j : ι) : Prop :=
  ∃ before between later, schedule = before ++ i :: (between ++ j :: later) ∧
    ((sharing.run before).shells i).IsWriting history ∧
    ((sharing.run before).shells j).IsHolding history ∧
    ((sharing.run (before ++ i :: between)).shells j).IsWriting history

/-! ## Moves -/

/-- Whether shells are on their way through the script that reads a line, in one directory, with one history file
that can be written. -/
structure IsUnderWay (directory : Location) (history : String) (lines : ι → Option Bytes) (sharing : Sharing ι) :
    Prop where
  /-- Every shell is on its way through the script or through with it. -/
  follows : ∀ i, ∃ prompt, (sharing.shells i).Follows prompt history (lines i)
  /-- The shells work in the same directory. -/
  together : ∀ i, (sharing.shells i).process.system.directory = directory
  /-- The history file can be written. -/
  writable : ∀ i, ((sharing.seen i).process.system.writeFile? history []).isSome = true

variable {sharing : Sharing ι} {directory : Location} {history : String} {lines : ι → Option Bytes}
variable {schedule : List ι} {i j : ι}

/-- The shell that moves is behind its command. -/
theorem shells_move_self (sharing : Sharing ι) (i : ι) : (sharing.move i).shells i = (sharing.seen i).move :=
  Function.update_self i _ _

/-- The other shells stay where they are. -/
theorem shells_move_of_ne (sharing : Sharing ι) (other : j ≠ i) :
    (sharing.move i).shells j = sharing.shells j :=
  Function.update_of_ne other _ _

omit [DecidableEq ι] in
/-- Shells that are ready are on their way. -/
theorem IsReady.isUnderWay (ready : sharing.IsReady directory history) :
    sharing.IsUnderWay directory history sharing.entered? where
  follows i := by
    obtain ⟨process, prompt, start, plain, fresh⟩ := ready.starts i
    refine ⟨prompt, .inr ⟨0, by decide, ?_⟩⟩
    rw [entered?, start]
    exact Running.isAt_ofPrompt plain fresh prompt history
  together := ready.together
  writable := ready.writable

/-- What was written to the history file can be read by all shells. -/
theorem IsUnderWay.fileAt?_of_write (underWay : sharing.IsUnderWay directory history lines) {entries : List Bytes}
    (written : ((sharing.move i).shells i).process.system =
      ((sharing.seen i).process.system.writeFile? history (HistoryList.write entries)).getD
        (sharing.seen i).process.system)
    (together : (((sharing.move i).shells j).process.system.directory = directory)) :
    (sharing.move i).fileAt? j history = some (HistoryList.write entries) := by
  have possible : ((sharing.seen i).process.system.writeFile? history (HistoryList.write entries)).isSome =
      true := by
    rw [System.writeFile?_isSome_eq rfl rfl history _ []]
    exact underWay.writable i
  obtain ⟨system, outcome⟩ := Option.isSome_iff_exists.1 possible
  rw [outcome, Option.getD_some] at written
  have read := System.fileAt?_writeFile outcome
  have own : system.directory = directory := by
    rw [System.writeFile?_eq outcome]
    exact underWay.together i
  have tree : ((sharing.move i).seen j).process.system.tree = system.tree := by
    rw [← written, shells_move_self]
    rfl
  have folder : ((sharing.move i).seen j).process.system.directory = system.directory :=
    together.trans own.symm
  rw [← read, fileAt?, System.fileAt?_eq tree folder]

/-- A move keeps all shells on their way, and the shell that moves does what its command means for the history. -/
theorem IsUnderWay.move (underWay : sharing.IsUnderWay directory history lines) (noHelpPath : history ≠ "--help")
    (noDash : ∀ i, ∀ text ∈ lines i, text.head? ≠ some 0x2D) (i : ι) :
    (sharing.move i).IsUnderWay directory history lines ∧
      Running.Turn history (sharing.seen i) ((sharing.move i).shells i) := by
  obtain ⟨prompt, follows⟩ := underWay.follows i
  obtain ⟨after, turn, still⟩ := (follows.onTree sharing.tree).move noHelpPath (noDash i)
  have moved : (sharing.move i).shells i = ((sharing.shells i).onTree sharing.tree).move :=
    shells_move_self sharing i
  rw [← moved] at after turn still
  have together (j : ι) : ((sharing.move i).shells j).process.system.directory = directory := by
    by_cases own : j = i
    · rw [own, still]
      exact underWay.together i
    · rw [shells_move_of_ne sharing own]
      exact underWay.together j
  refine ⟨⟨fun j => ?_, together, fun j => ?_⟩, turn⟩
  · by_cases own : j = i
    · rw [own]
      exact ⟨prompt, after⟩
    · rw [shells_move_of_ne sharing own]
      exact underWay.follows j
  · have unchanged (tree : ((sharing.move i).shells i).process.system.tree = (sharing.seen i).process.system.tree) :
        (((sharing.move i).seen j).process.system.writeFile? history []).isSome = true := by
      have same : ((sharing.move i).seen j).process.system.tree = (sharing.seen j).process.system.tree := by
        rw [shells_move_self] at tree
        exact tree
      have folder : ((sharing.move i).seen j).process.system.directory =
          (sharing.seen j).process.system.directory := (together j).trans (underWay.together j).symm
      rw [System.writeFile?_isSome_eq same folder history [] []]
      exact underWay.writable j
    cases turn with
    | quiet tree _ _ => exact unchanged tree
    | load tree _ _ => exact unchanged tree
    | append tree _ _ _ _ => exact unchanged tree
    | write _ _ written _ =>
      exact System.writeFile?_isSome_of_fileAt? (underWay.fileAt?_of_write written (together j)) []

/-! ## Runs -/

/-- One more move behind a run. -/
theorem run_concat (sharing : Sharing ι) (schedule : List ι) (i : ι) :
    sharing.run (schedule ++ [i]) = (sharing.run schedule).move i := by
  rw [run, run, List.foldl_append]
  rfl

/-- A run keeps all shells on their way. -/
theorem IsUnderWay.run (underWay : sharing.IsUnderWay directory history lines) (noHelpPath : history ≠ "--help")
    (noDash : ∀ i, ∀ text ∈ lines i, text.head? ≠ some 0x2D) (schedule : List ι) :
    (sharing.run schedule).IsUnderWay directory history lines := by
  induction schedule using List.reverseRecOn with
  | nil => exact underWay
  | append_singleton schedule i ih =>
    rw [run_concat]
    exact (ih.move noHelpPath noDash i).1

/-- A shell that entered a line and is through with the script has written the history file. -/
theorem IsReady.exists_write (ready : sharing.IsReady directory history)
    (noDash : ∀ i, ∀ text ∈ sharing.entered? i, text.head? ≠ some 0x2D)
    (entered : (sharing.entered? i).isSome = true) (finished : ((sharing.run schedule).shells i).rest = []) :
    ∃ before later, schedule = before ++ i :: later ∧
      ((sharing.run before).shells i).IsWriting history := by
  obtain ⟨process, prompt, start, plain, fresh⟩ := ready.starts i
  have reached : (∃ place ≤ 7, ((sharing.run schedule).shells i).IsAt prompt history (sharing.entered? i) place) ∨
      ∃ before later, schedule = before ++ i :: later ∧
        ((sharing.run before).shells i).IsWriting history := by
    clear finished
    induction schedule using List.reverseRecOn with
    | nil =>
      refine .inl ⟨0, by decide, ?_⟩
      rw [run, List.foldl_nil, entered?, start]
      exact Running.isAt_ofPrompt plain fresh prompt history
    | append_singleton schedule j ih =>
      rcases ih with ⟨place, early, here⟩ | ⟨before, later, rfl, writing⟩
      · rw [run_concat]
        by_cases own : i = j
        · subst own
          by_cases last : place = 7
          · exact .inr ⟨schedule, [], rfl, here.isWriting_iff.2 last⟩
          · refine .inl ⟨place + 1, by omega, ?_⟩
            rw [shells_move_self]
            exact (here.onTree _).next early ready.noHelpPath (noDash i) entered
        · rw [shells_move_of_ne _ own]
          exact .inl ⟨place, early, here⟩
      · exact .inr ⟨before, later ++ [j], by simp, writing⟩
  rcases reached with ⟨place, early, here⟩ | found
  · have missing := here.rest
    rw [finished] at missing
    have length := congrArg List.length missing
    rw [List.length_drop] at length
    simp [promptSteps] at length
    omega
  · exact found

/-! ## Lines that stay -/

/-- Whether a line is in the history file and in all histories that shells hold, but for those of earlier ones. -/
structure Keeps (history : String) (line : Bytes) (earlier : ι → Prop) (sharing : Sharing ι) : Prop where
  /-- The line is in the history file. -/
  inFile : ∀ k, ∃ content, sharing.fileAt? k history = some content ∧ line ∈ HistoryList.linesFrom [] content
  /-- The line is in the histories. -/
  inHistories : ∀ k, (sharing.shells k).IsHolding history →
    earlier k ∨ line ∈ (sharing.shells k).process.history

variable {line : Bytes} {earlier : ι → Prop}

omit [DecidableEq ι] in
/-- All shells see the same file in one place of the same files. -/
theorem IsUnderWay.fileAt?_eq {before after : Sharing ι} (underWay : before.IsUnderWay directory history lines)
    (later : after.IsUnderWay directory history lines) (tree : after.tree = before.tree) (k : ι) :
    after.fileAt? k history = before.fileAt? k history := by
  have files : (after.seen k).process.system.tree = (before.seen k).process.system.tree := tree
  have folder : (after.seen k).process.system.directory = (before.seen k).process.system.directory :=
    (later.together k).trans (underWay.together k).symm
  rw [fileAt?, fileAt?, System.fileAt?_eq files folder]

/-- A line that the history keeps stays when no earlier shell writes. -/
theorem Keeps.move (keeps : sharing.Keeps history line earlier) (kept : HistoryList.IsKept line)
    (underWay : sharing.IsUnderWay directory history lines) (noHelpPath : history ≠ "--help")
    (noDash : ∀ i, ∀ text ∈ lines i, text.head? ≠ some 0x2D)
    (late : earlier i → ¬(sharing.shells i).IsWriting history) :
    (sharing.move i).Keeps history line earlier := by
  obtain ⟨after, turn⟩ := underWay.move noHelpPath noDash i
  -- What does not write leaves the file as it is; then only the history of the shell that moves is in question.
  have reading (tree : ((sharing.move i).shells i).process.system.tree = (sharing.seen i).process.system.tree)
      (own : ((sharing.move i).shells i).IsHolding history →
        earlier i ∨ line ∈ ((sharing.move i).shells i).process.history) :
      (sharing.move i).Keeps history line earlier := by
    refine ⟨fun k => ?_, fun k holding => ?_⟩
    · rw [underWay.fileAt?_eq after (by rw [shells_move_self] at tree; exact tree)]
      exact keeps.inFile k
    · by_cases same : k = i
      · subst same
        exact own holding
      · rw [shells_move_of_ne sharing same] at holding ⊢
        exact keeps.inHistories k holding
  cases turn with
  | quiet tree same _ =>
    refine reading tree fun holding => ?_
    obtain ⟨before, history⟩ := same holding
    rw [history]
    exact keeps.inHistories i before
  | load tree loaded _ =>
    refine reading tree fun _ => .inr ?_
    obtain ⟨content, read, member⟩ := keeps.inFile i
    have found : (sharing.seen i).process.system.fileAt? history = some content := read
    rw [loaded, Running.loadedFrom, found]
    exact kept.mem_load member
  | append tree holding text appended _ =>
    refine reading tree fun _ => ?_
    rw [appended]
    exact (keeps.inHistories i holding).imp_right (List.mem_append_left _)
  | write writing holding written released =>
    have member : line ∈ (sharing.seen i).process.history :=
      (keeps.inHistories i holding).resolve_left fun old => late old writing
    refine ⟨fun k => ⟨_, underWay.fileAt?_of_write written (after.together k),
      HistoryList.mem_linesFrom_write kept.single member⟩, fun k holds => ?_⟩
    by_cases same : k = i
    · rw [same] at holds
      exact absurd holds released
    · rw [shells_move_of_ne sharing same] at holds ⊢
      exact keeps.inHistories k holds

/-- Behind the move with which a shell writes the history file its line is kept, but for shells that had loaded the
file before. -/
theorem IsUnderWay.keeps_of_write (underWay : sharing.IsUnderWay directory history lines)
    (kept : HistoryList.IsKept line) (noHelpPath : history ≠ "--help")
    (noDash : ∀ i, ∀ text ∈ lines i, text.head? ≠ some 0x2D) (entered : lines i = some line)
    (writing : (sharing.shells i).IsWriting history) :
    (sharing.move i).Keeps history line fun k => k ≠ i ∧ (sharing.shells k).IsHolding history := by
  obtain ⟨after, turn⟩ := underWay.move noHelpPath noDash i
  have member : line ∈ (sharing.seen i).process.history := by
    obtain ⟨prompt, finished | ⟨place, -, here⟩⟩ := underWay.follows i
    · rw [Running.IsWriting, finished] at writing
      cases writing
    · obtain rfl := here.isWriting_iff.1 writing
      exact here.appended (by decide) line entered
  cases turn with
  | quiet _ _ reads => exact absurd writing reads
  | load _ _ reads => exact absurd writing reads
  | append _ _ _ _ reads => exact absurd writing reads
  | write _ _ written released =>
    refine ⟨fun k => ⟨_, underWay.fileAt?_of_write written (after.together k),
      HistoryList.mem_linesFrom_write kept.single member⟩, fun k holds => .inl ?_⟩
    have other : k ≠ i := by
      rintro rfl
      exact released holds
    rw [shells_move_of_ne sharing other] at holds
    exact ⟨other, holds⟩

/-- A line that was entered and that the history keeps is in the history file when its shell is through with the
script, unless another shell that had loaded the file before the line was written has written it since. -/
theorem mem_history_or_overwritten (ready : sharing.IsReady directory history)
    (noDash : ∀ i, ∀ text ∈ sharing.entered? i, text.head? ≠ some 0x2D) (schedule : List ι)
    (finished : ((sharing.run schedule).shells i).rest = []) (entered : sharing.entered? i = some line)
    (kept : HistoryList.IsKept line) :
    (∃ content, (sharing.run schedule).fileAt? i history = some content ∧
        line ∈ HistoryList.linesFrom [] content) ∨
      ∃ j ≠ i, sharing.Overwrites history schedule i j := by
  obtain ⟨before, later, rfl, writing⟩ :=
    ready.exists_write noDash (by rw [entered]; rfl) finished
  by_cases overwritten : ∃ j ≠ i, sharing.Overwrites history (before ++ i :: later) i j
  · exact .inr overwritten
  refine .inl ?_
  have underWay (schedule : List ι) := ready.isUnderWay.run ready.noHelpPath noDash schedule
  have stays (between rest : List ι) (parted : later = between ++ rest) :
      (sharing.run (before ++ i :: between)).Keeps history line
        fun k => k ≠ i ∧ ((sharing.run before).shells k).IsHolding history := by
    induction between using List.reverseRecOn generalizing rest with
    | nil =>
      rw [run_concat]
      exact (underWay before).keeps_of_write kept ready.noHelpPath noDash entered writing
    | append_singleton between j ih =>
      rw [← List.cons_append, ← List.append_assoc, run_concat]
      refine (ih (j :: rest) (by rw [parted]; simp)).move kept (underWay _) ready.noHelpPath noDash ?_
      rintro ⟨other, holding⟩ writes
      exact overwritten ⟨j, other, before, between, rest, by rw [parted]; simp, writing, holding, writes⟩
  exact (stays later [] (by simp)).inFile i

/-! ## Lines that are lost -/

/-- A shell that takes some commands in a row takes them as if it were alone. -/
theorem seen_run_replicate (sharing : Sharing ι) (i : ι) (count : Nat) :
    (sharing.run (List.replicate count i)).seen i = Running.move^[count] (sharing.seen i) ∧
      ∀ j ≠ i, (sharing.run (List.replicate count i)).shells j = sharing.shells j := by
  induction count with
  | zero => exact ⟨rfl, fun _ _ => rfl⟩
  | succ count ih =>
    rw [List.replicate_succ', run_concat, Function.iterate_succ_apply', ← ih.1]
    refine ⟨?_, fun j other => (shells_move_of_ne _ other).trans (ih.2 j other)⟩
    rw [seen, shells_move_self]
    rfl

omit [DecidableEq ι] in
/-- A shell in front of the script is in front of its first command, whatever the files are. -/
theorem IsReady.isAt (ready : sharing.IsReady directory history) (i : ι) :
    ∃ prompt, ∀ tree, ((sharing.shells i).onTree tree).IsAt prompt history (sharing.entered? i) 0 := by
  obtain ⟨process, prompt, start, plain, fresh⟩ := ready.starts i
  refine ⟨prompt, fun tree => ?_⟩
  rw [entered?, start]
  exact (Running.isAt_ofPrompt plain fresh prompt history).onTree tree

/-- A shell that takes nine commands in a row is through with the script, if it enters a line. -/
theorem IsReady.rest_run_replicate (ready : sharing.IsReady directory history)
    (noDash : ∀ i, ∀ text ∈ sharing.entered? i, text.head? ≠ some 0x2D) {line : Bytes}
    (entered : sharing.entered? i = some line) :
    ((sharing.run (List.replicate 9 i)).shells i).rest = [] := by
  obtain ⟨prompt, front⟩ := ready.isAt i
  have rest : ((sharing.run (List.replicate 9 i)).seen i).rest = [] := by
    rw [(sharing.seen_run_replicate i 9).1]
    exact (front sharing.tree).rest_moves entered (noDash i line entered) ready.noHelpPath
  exact rest

/-- The order in which one shell loads the history file, another one runs the whole script, and then the first one
goes on. -/
def crossing (i j : ι) : List ι := List.replicate 2 i ++ (List.replicate 9 j ++ List.replicate 7 i)

/-- In the crossing order both shells come to the end of the script, and the history file has what was in it at the
beginning and the line of the first shell, whatever the other one entered. -/
theorem IsReady.fileAt?_crossing (ready : sharing.IsReady directory history)
    (noDash : ∀ i, ∀ text ∈ sharing.entered? i, text.head? ≠ some 0x2D) {first second : Bytes} (other : j ≠ i)
    (entered : sharing.entered? i = some first) (enteredToo : sharing.entered? j = some second) :
    ((sharing.run (crossing i j)).shells i).rest = [] ∧ ((sharing.run (crossing i j)).shells j).rest = [] ∧
      ∀ k, (sharing.run (crossing i j)).fileAt? k history =
        some (HistoryList.write (Running.loadedFrom (sharing.seen i).process.system history ++ [first])) := by
  -- The three stretches of the order.
  obtain ⟨loaded, jWaits⟩ := sharing.seen_run_replicate i 2
  obtain ⟨between, iWaits⟩ := (sharing.run (List.replicate 2 i)).seen_run_replicate j 9
  obtain ⟨ended, jRests⟩ :=
    ((sharing.run (List.replicate 2 i)).run (List.replicate 9 j)).seen_run_replicate i 7
  have parted : sharing.run (crossing i j) =
      ((sharing.run (List.replicate 2 i)).run (List.replicate 9 j)).run (List.replicate 7 i) := by
    rw [crossing, run, List.foldl_append, List.foldl_append]
    rfl
  have underWay := (ready.isUnderWay.run ready.noHelpPath noDash (List.replicate 2 i)).run ready.noHelpPath noDash
    (List.replicate 9 j)
  rw [parted]
  generalize (sharing.run (List.replicate 2 i)).run (List.replicate 9 j) = middle at *
  generalize sharing.run (List.replicate 2 i) = start at *
  -- The first shell has loaded the file before the other one runs, and the other one runs to the end.
  obtain ⟨prompt, front⟩ := ready.isAt i
  obtain ⟨reached, -, known⟩ := (front sharing.tree).moves_load ready.noHelpPath
  have waiting : middle.seen i = (start.seen i).onTree middle.tree := by
    rw [seen, iWaits i (Ne.symm other)]
    rfl
  have here : (middle.seen i).IsAt prompt history (sharing.entered? i) 2 := by
    rw [waiting, loaded]
    exact reached.onTree middle.tree
  have holds : (middle.seen i).process.history = Running.loadedFrom (sharing.seen i).process.system history := by
    rw [waiting, loaded]
    exact known
  have through : (middle.shells j).rest = [] := by
    obtain ⟨_, ahead⟩ := ready.isAt j
    have moved : (middle.seen j).rest = [] := by
      rw [between, seen, jWaits j other]
      exact (ahead start.tree).rest_moves enteredToo (noDash j second enteredToo) ready.noHelpPath
    exact moved
  -- What the first shell writes in the end is what it had loaded and its own line.
  obtain ⟨finished, written⟩ := here.moves_write entered (noDash i first entered) ready.noHelpPath
  rw [← ended, holds] at written
  rw [← ended] at finished
  have possible := underWay.writable i
  rw [System.writeFile?_isSome_eq rfl rfl history []
    (HistoryList.write (Running.loadedFrom (sharing.seen i).process.system history ++ [first]))] at possible
  obtain ⟨system, outcome⟩ := Option.isSome_iff_exists.1 possible
  rw [outcome, Option.getD_some] at written
  refine ⟨finished, by rw [jRests j other]; exact through, fun k => ?_⟩
  have files : ((middle.run (List.replicate 7 i)).seen k).process.system.tree = system.tree := written
  have folder : ((middle.run (List.replicate 7 i)).seen k).process.system.directory = system.directory := by
    rw [System.writeFile?_eq outcome]
    exact ((underWay.run ready.noHelpPath noDash _).together k).trans (underWay.together i).symm
  rw [← System.fileAt?_writeFile outcome, fileAt?, System.fileAt?_eq files folder]

/-- Two shells without a history file in an empty directory: the one enters a line, the other one another. -/
def pair : Sharing Bool where
  tree := .root
  shells isFirst :=
    .ofPrompt
      (Process.start .bash ⟨.root, [], ⟨[], none, []⟩, ofText (if isFirst then "a\n" else "b\n")⟩ [])
      "py> " "h"

/-- The two shells are ready. -/
theorem isReady_pair : pair.IsReady [] "h" where
  starts _ := ⟨_, "py> ", rfl, Process.isPlain_start _ _, rfl⟩
  together _ := rfl
  writable := by decide +kernel
  noHelpPath := by decide

/-- The lines of the two shells. -/
theorem entered?_pair (isFirst : Bool) : pair.entered? isFirst = some (ofText (if isFirst then "a" else "b")) := by
  have shell : (pair.shells isFirst).process = Process.start .bash
      ⟨.root, [], ⟨[], none, []⟩, ofText (if isFirst then "a\n" else "b\n")⟩ [] := rfl
  rw [entered?, Process.entered?_eq, shell, Process.stripped, Process.separates_start]
  cases isFirst <;> rfl

/-- No line of the two shells starts with a dash. -/
theorem noDash_pair : ∀ i, ∀ text ∈ pair.entered? i, text.head? ≠ some 0x2D := by
  intro i text entered
  rw [entered?_pair, Option.mem_some_iff] at entered
  rw [← entered]
  cases i <;> decide

/-- Sharing a history file loses lines: where one shell runs the whole script while another one has loaded the file
and not yet written it, the line of the one is gone after both are through. -/
theorem pair_loses_line :
    pair.IsReady [] "h" ∧
      ¬∀ schedule : List Bool, (∀ i, ((pair.run schedule).shells i).rest = []) →
        ∀ i line, pair.entered? i = some line → line ≠ [] →
          ∃ content, (pair.run schedule).fileAt? i "h" = some content ∧
            line ∈ HistoryList.linesFrom [] content := by
  refine ⟨isReady_pair, fun all => ?_⟩
  obtain ⟨firstRests, secondRests, file⟩ := isReady_pair.fileAt?_crossing noDash_pair (by decide)
    (entered?_pair true) (entered?_pair false)
  obtain ⟨content, read, member⟩ := all (crossing true false)
    (fun i => by cases i with | true => exact firstRests | false => exact secondRests) false (ofText "b")
    (entered?_pair false) (by decide)
  rw [file false, Option.some_inj] at read
  rw [← read] at member
  revert member
  decide +kernel

/-- Of two shells that run the script one after the other, the line of the one that goes first stays. -/
theorem pair_keeps_line :
    (((pair.run (List.replicate 9 true ++ List.replicate 9 false)).shells true).rest = [] ∧
        pair.entered? true = some (ofText "a") ∧ HistoryList.IsKept (ofText "a")) ∧
      ((∃ content, (pair.run (List.replicate 9 true ++ List.replicate 9 false)).fileAt? true "h" = some content ∧
          ofText "a" ∈ HistoryList.linesFrom [] content) ∨
        ∃ j ≠ true, pair.Overwrites "h" (List.replicate 9 true ++ List.replicate 9 false) true j) := by
  have finished : ((pair.run (List.replicate 9 true ++ List.replicate 9 false)).shells true).rest = [] := by
    obtain ⟨-, firstRests⟩ := (pair.run (List.replicate 9 true)).seen_run_replicate false 9
    have parted : pair.run (List.replicate 9 true ++ List.replicate 9 false) =
        (pair.run (List.replicate 9 true)).run (List.replicate 9 false) := List.foldl_append
    rw [parted, firstRests true (by decide)]
    exact isReady_pair.rest_run_replicate noDash_pair (entered?_pair true)
  have kept : HistoryList.IsKept (ofText "a") := by decide
  exact ⟨⟨finished, entered?_pair true, kept⟩,
    mem_history_or_overwritten isReady_pair noDash_pair _ finished (entered?_pair true) kept⟩

end Sharing

end LiveConsole.Shell
