import LiveConsole.Proofs.Shell.Commands
import LiveConsole.Shell.Launch

/-!
# One command after another

A shell that runs a line of commands is stopped between each two of them: what is left to do is kept beside the
shell. Running it command by command until nothing is left to do gives what running the whole line gives. For the
script that reads a line this tells where in the script a shell is, and what its next command does.
-/
namespace LiveConsole.Shell

/-- A shell between two commands of a line. -/
structure Running where
  /-- The number of steps that may still be taken. -/
  fuel : Nat
  /-- The shell. -/
  process : Process
  /-- The commands that are left to do. -/
  rest : Steps

namespace Running

/-- Whether the next command depends on the one before it. -/
def isDependedOn (rest : Steps) : Bool := rest.head?.any fun step => step.1 ≠ .always

/-- The shell behind a command, which runs if it is to run after what came before. -/
def behind (running : Running) (condition : Condition) (command : Command) (rest : Steps) : Process :=
  if Process.runsAfter condition running.process.status then
    (Process.runCommand (running.fuel - 1) (isDependedOn rest) running.process command).stopOnFailure
      (isDependedOn rest)
  else running.process

/-- Take the next command. Where that ends the shell, nothing is left to do. -/
def move (running : Running) : Running :=
  match running.rest with
  | [] => running
  | (condition, command) :: rest =>
    let process := running.behind condition command rest
    ⟨running.fuel - 1, process, if process.isDone then [] else rest⟩

/-- A shell in front of the script that reads a line. -/
def ofPrompt (process : Process) (prompt history : String) : Running :=
  ⟨Process.enoughSteps, process, promptSteps prompt history⟩

variable {running : Running}

/-- Where a command is left to do, the next move leads behind it. -/
theorem move_cons {condition : Condition} {command : Command} {rest : Steps}
    (left : running.rest = (condition, command) :: rest) :
    running.move = ⟨running.fuel - 1, running.behind condition command rest,
      if (running.behind condition command rest).isDone then [] else rest⟩ := by
  rw [move, left]

/-- A shell that is done runs no commands. -/
theorem runSteps_of_isDone {process : Process} (done : process.isDone = true) (fuel : Nat) (rest : Steps) :
    Process.runSteps (fuel + 1) false process rest = process := by
  cases rest with
  | nil => rw [Process.runSteps]; exact Nat.succ_ne_zero fuel
  | cons step rest => rw [Process.runSteps, if_pos done]

/-- Taking the next command does not change what running all of them gives. -/
theorem runSteps_move (stays : running.process.isDone = false) (enough : 1 < running.fuel) :
    Process.runSteps running.move.fuel false running.move.process running.move.rest =
      Process.runSteps running.fuel false running.process running.rest := by
  obtain ⟨fuel, process, rest⟩ := running
  obtain ⟨fuel, rfl⟩ : ∃ fewer, fuel = fewer + 2 := ⟨fuel - 2, by simp at enough; omega⟩
  cases rest with
  | nil => rfl
  | cons step rest =>
    obtain ⟨condition, command⟩ := step
    have onward (next : Process) :
        Process.runSteps (fuel + 1) false next (if next.isDone then [] else rest) =
          Process.runSteps (fuel + 1) false next rest := by
      by_cases done : next.isDone = true
      · rw [runSteps_of_isDone done, runSteps_of_isDone done]
      · rw [if_neg done]
    have unfolded : Process.runSteps (fuel + 2) false process ((condition, command) :: rest) =
        if Process.runsAfter condition process.status then
          Process.runSteps (fuel + 1) false
            ((Process.runCommand (fuel + 1) (isDependedOn rest) process command).stopOnFailure
              (isDependedOn rest)) rest
        else Process.runSteps (fuel + 1) false process rest := by
      rw [Process.runSteps, if_neg (by simpa using stays)]
      simp only [Bool.false_or, isDependedOn]
    refine (onward (behind ⟨fuel + 2, process, _⟩ condition command rest)).trans ?_
    rw [unfolded, behind]
    by_cases runs : Process.runsAfter condition process.status = true
    · rw [if_pos runs, if_pos runs]
      rfl
    · rw [if_neg runs, if_neg runs]

/-- Taking one command after another until nothing is left to do gives what running all of them gives. -/
theorem process_moves {count : Nat} (stays : running.process.isDone = false ∨ running.rest = [])
    (all : running.rest.length ≤ count) (enough : count < running.fuel) :
    (move^[count] running).process =
      Process.runSteps running.fuel false running.process running.rest := by
  induction count generalizing running with
  | zero =>
    obtain ⟨fuel, process, rest⟩ := running
    obtain ⟨fuel, rfl⟩ : ∃ fewer, fuel = fewer + 1 := ⟨fuel - 1, by simp at enough; omega⟩
    obtain rfl : rest = [] := List.length_eq_zero_iff.1 (Nat.le_zero.1 all)
    rw [Process.runSteps]
    · rfl
    · exact Nat.succ_ne_zero fuel
  | succ count ih =>
    rw [Function.iterate_succ_apply]
    cases left : running.rest with
    | nil =>
      have idle : running.move = running := by rw [move, left]
      rw [idle, ih stays (by rw [left]; exact Nat.zero_le count) (by omega), left]
    | cons step rest =>
      obtain ⟨condition, command⟩ := step
      have going : running.process.isDone = false := stays.resolve_right (by rw [left]; exact List.cons_ne_nil _ _)
      have moved := move_cons left
      have length : rest.length ≤ count := by
        rw [left, List.length_cons] at all
        omega
      rw [ih, runSteps_move going (by omega), left]
      · by_cases done : (running.behind condition command rest).isDone = true
        · exact .inr (by rw [moved, if_pos done])
        · exact .inl (by rw [moved]; simpa using done)
      · rw [moved]
        dsimp only
        split
        · exact Nat.zero_le count
        · exact length
      · rw [moved]
        dsimp only
        omega

/-- The script that reads a line is run by taking its nine commands one after another. -/
theorem process_ofPrompt {process : Process} (plain : process.IsPlain) (prompt history : String) :
    (move^[9] (ofPrompt process prompt history)).process =
      process.runScript (promptScript prompt history).toList := by
  rw [process_moves (.inl plain.isDone) (Nat.le_refl 9) (show 9 < Process.enoughSteps by decide),
    Process.runScript, ofText_promptScript]
  rfl

/-! ## A shell that is launched -/

/-- Whether an environment brings a shell nothing that changes how it runs commands. -/
structure BringsNothing (environment : Environment) : Prop where
  /-- No variable holds a function. -/
  functions : ∀ entry ∈ environment.bindings, Process.functionName? entry.1 = none
  /-- No options are asked for. -/
  options : environment.get? "SHELLOPTS" = none
  /-- No file is to be run first. -/
  firstFile : environment.nonempty? "BASH_ENV" = none

/-- A shell that an environment brings nothing runs the script as it starts, but for the letter of the standard. -/
theorem prepare_eq {system : System} (nothing : BringsNothing system.environment) (arguments : List Bytes) :
    (Process.start .bash system arguments).prepare =
      (Process.start .bash system arguments).setOption "posix" (Process.isStrict system.environment) := by
  generalize posed : (Process.start .bash system arguments).setOption "posix"
    (Process.isStrict system.environment) = process
  have environment : process.system.environment = system.environment := by rw [← posed]; rfl
  have noFunctions : process.takeFunctions = process := by
    have unheld := nothing.functions
    rw [Process.takeFunctions, environment]
    generalize Process.isStrict system.environment = strict
    generalize system.environment.bindings = bindings at unheld
    induction bindings with
    | nil => rfl
    | cons entry bindings ih =>
      have missing : Process.heldFunction? strict entry.1 entry.2 = none := by
        rw [Process.heldFunction?, unheld entry List.mem_cons_self]
        rfl
      rw [List.foldl_cons, missing]
      simp only [ite_self]
      exact ih fun other member => unheld other (List.mem_cons_of_mem _ member)
  have noOptions : process.takeOptions = process := by
    rw [Process.takeOptions, environment, nothing.options]
    split
    · rfl
    · rfl
  have noFile : process.runFirstFile = process := by
    have missing : process.firstFile? = none := by
      rw [Process.firstFile?, environment, nothing.firstFile]
      rfl
    rw [Process.runFirstFile, missing]
    split
    · rfl
    · rfl
  have unfolded : (Process.start .bash system arguments).prepare =
      ((((Process.start .bash system arguments).setOption "posix"
        (Process.isStrict system.environment)).takeFunctions).takeOptions).runFirstFile := rfl
  rw [unfolded, posed, noFunctions, noOptions, noFile]

/-- A shell that an environment brings nothing is plain and has an empty history. -/
theorem isPlain_prepare {system : System} (nothing : BringsNothing system.environment) (arguments : List Bytes) :
    (Process.start .bash system arguments).prepare.IsPlain ∧
      (Process.start .bash system arguments).prepare.history = [] := by
  rw [prepare_eq nothing]
  exact ⟨⟨rfl, rfl, rfl, rfl, rfl, rfl⟩, rfl⟩

/-- A shell that is given the script that reads a line runs it as it starts. -/
theorem runShell_script {system : System} (nothing : BringsNothing system.environment)
    (name : Bytes) (prompt history : String) :
    runShell .bash system name [ofText "-c", ofText (promptScript prompt history)] =
      ((Process.start .bash system [name]).prepare.runScript (promptScript prompt history).toList).finished := by
  have plain := (isPlain_prepare nothing [name]).1
  have options : shellOptions [] [ofText "-c", ofText (promptScript prompt history)] =
      (['c'], [ofText (promptScript prompt history)]) := by
    simp only [shellOptions, textOf_ofText]
    rfl
  have run : runShell .bash system name [ofText "-c", ofText (promptScript prompt history)] =
      (if (Process.start .bash system [name]).prepare.isDone then (Process.start .bash system [name]).prepare
        else (Process.start .bash system [name]).prepare.runScript
          (textOf (ofText (promptScript prompt history))).toList).finished := by
    rw [runShell, options]
    rfl
  rw [run, plain.isDone, if_neg Bool.false_ne_true, textOf_ofText]

/-- What the command that reads a line comes to is what its nine commands come to, one after another. -/
theorem runShell_prompt {system : System} (nothing : BringsNothing system.environment)
    (name : Bytes) (prompt history : String) :
    runShell .bash system name [ofText "-c", ofText (promptScript prompt history)] =
      (move^[9] (ofPrompt (Process.start .bash system [name]).prepare prompt history)).process.finished := by
  rw [runShell_script nothing, process_ofPrompt (isPlain_prepare nothing [name]).1]

/-! ## Where in the script a shell is -/

/-- Whether a shell stands in front of a command of the script that reads a line, given what it enters there. -/
structure IsAt (prompt history : String) (line : Option Bytes) (place : Nat) (running : Running) : Prop where
  /-- The commands from there on are left to do. -/
  rest : running.rest = (promptSteps prompt history).drop place
  /-- There are steps enough for them. -/
  enough : 12 ≤ running.fuel + place
  /-- The shell is plain. -/
  plain : running.process.IsPlain
  /-- The history is empty before it is loaded. -/
  fresh : place ≤ 1 → running.process.history = []
  /-- The line is still to be entered before it is read. -/
  asks : place ≤ 3 → running.process.entered? = line
  /-- The status tells whether a line was entered when that is asked. -/
  told : place = 4 ∨ place = 5 → running.process.status = if line.isSome then 0 else 1
  /-- The line that was entered is at hand until it is appended. -/
  known : 4 ≤ place → place ≤ 6 → ∀ text ∈ line, running.process.value "LINE" = text
  /-- Without a line the shell was left. -/
  passed : 6 ≤ place → line.isSome = true
  /-- The line is in the history once it was appended. -/
  appended : 7 ≤ place → ∀ text ∈ line, text ∈ running.process.history

/-- A shell in front of the script is in front of its first command. -/
theorem isAt_ofPrompt {process : Process} (plain : process.IsPlain) (fresh : process.history = [])
    (prompt history : String) :
    (ofPrompt process prompt history).IsAt prompt history process.entered? 0 where
  rest := rfl
  enough := show 12 ≤ Process.enoughSteps + 0 by decide
  plain := plain
  fresh _ := fresh
  asks _ := rfl
  told place := by omega
  known place _ := by omega
  passed place := by omega
  appended place := by omega

/-- A command that leaves the shell plain is followed by the next one. -/
theorem move_eq {condition : Condition} {command : Command} {rest : Steps} {after : Process}
    (left : running.rest = (condition, command) :: rest)
    (runs : Process.runsAfter condition running.process.status = true)
    (effect : Process.runCommand (running.fuel - 1) (isDependedOn rest) running.process command = after)
    (plain : after.IsPlain) : running.move = ⟨running.fuel - 1, after, rest⟩ := by
  have same : running.behind condition command rest = after := by
    rw [behind, if_pos runs, effect, plain.stopOnFailure]
  rw [move_cons left, same, plain.isDone]
  rfl

/-- The entries that the history file holds; one that is not there holds none. -/
def loadedFrom (system : System) (history : String) : List Bytes :=
  ((system.fileAt? history).map HistoryList.load).getD []

namespace IsAt

variable {prompt history : String} {line : Option Bytes} {place : Nat}

/-- There are steps enough for the next command. -/
theorem exists_fuel (here : running.IsAt prompt history line place) (inside : place ≤ 8) :
    ∃ fuel, running.fuel - 1 = fuel + 2 :=
  ⟨running.fuel - 3, by have enough := here.enough; omega⟩

/-- In front of a command that always runs and leaves the shell plain, the next move leads to the shell behind
it. -/
theorem move_always (here : running.IsAt prompt history line place) (inside : place ≤ 8) {command : Command}
    {rest : Steps} {after : Process} (stands : (promptSteps prompt history).drop place = (.always, command) :: rest)
    (effect : ∀ fuel, Process.runCommand (fuel + 2) (isDependedOn rest) running.process command = after)
    (plain : after.IsPlain) : running.move = ⟨running.fuel - 1, after, rest⟩ := by
  obtain ⟨fuel, steps⟩ := here.exists_fuel inside
  exact move_eq (here.rest.trans stands) rfl (by rw [steps]; exact effect fuel) plain

/-- There are steps enough for the commands behind the next one. -/
theorem enough_next (here : running.IsAt prompt history line place) : 12 ≤ running.fuel - 1 + (place + 1) := by
  have enough := here.enough
  omega

/-- The options are set first. -/
theorem set (here : running.IsAt prompt history line 0) :
    running.move.IsAt prompt history line 1 ∧ running.move.process.system = running.process.system := by
  have plain : (running.process.finish 0).IsPlain := here.plain.congr rfl
  have moved := here.move_always (by decide) rfl (fun fuel => here.plain.set fuel _) plain
  have asks : (running.process.finish 0).entered? = line :=
    (Process.entered?_congr rfl rfl rfl rfl).trans (here.asks (by decide))
  rw [moved]
  exact ⟨⟨rfl, here.enough_next, plain, fun _ => here.fresh (by decide), fun _ => asks, by omega, by omega,
    by omega, by omega⟩, rfl⟩

/-- The history is loaded before anything is read. -/
theorem load (here : running.IsAt prompt history line 1) (noHelpPath : history ≠ "--help") :
    running.move.IsAt prompt history line 2 ∧ running.move.process.system = running.process.system ∧
      running.move.process.history = loadedFrom running.process.system history := by
  have fresh := here.fresh (by decide)
  obtain ⟨status, effect⟩ : ∃ status, ∀ fuel, Process.runCommand (fuel + 2) false running.process
      (loadCommand history) =
        { running.process with history := loadedFrom running.process.system history, status } := by
    obtain ⟨status, loads⟩ := here.plain.exists_load noHelpPath
    refine ⟨status, fun fuel => ?_⟩
    rw [loads fuel false, fresh]
    rfl
  have plain : Process.IsPlain
      { running.process with history := loadedFrom running.process.system history, status } :=
    here.plain.congr rfl
  have asks : Process.entered?
      { running.process with history := loadedFrom running.process.system history, status } = line :=
    (Process.entered?_congr rfl rfl rfl rfl).trans (here.asks (by decide))
  rw [here.move_always (by decide) rfl effect plain]
  exact ⟨⟨rfl, here.enough_next, plain, by omega, fun _ => asks, by omega, by omega, by omega, by omega⟩, rfl,
    rfl⟩

/-- The line is emptied. -/
theorem clear (here : running.IsAt prompt history line 2) :
    running.move.IsAt prompt history line 3 ∧ running.move.process.system = running.process.system ∧
      running.move.process.history = running.process.history := by
  have plain : ((running.process.setVariable "LINE" []).finish 0).IsPlain := here.plain.congr rfl
  have moved := here.move_always (by decide) rfl (fun fuel => running.process.clear (fuel + 1) _) plain
  have same : ((running.process.setVariable "LINE" []).finish 0).entered? = running.process.entered? :=
    Process.entered?_congr rfl rfl rfl (running.process.separators_setVariable_line [])
  have asks := same.trans (here.asks (by decide))
  rw [moved]
  exact ⟨⟨rfl, here.enough_next, plain, by omega, fun _ => asks, by omega, by omega, by omega, by omega⟩, rfl,
    rfl⟩

/-- The line is read; whether it was entered whole is told by the status. -/
theorem read (here : running.IsAt prompt history line 3) :
    running.move.IsAt prompt history line 4 ∧
      running.move.process.system = { running.process.system with input := running.process.inputLine.rest } ∧
      running.move.process.history = running.process.history := by
  have plain : (running.process.readLine ⟨true, ["LINE"]⟩).IsPlain := here.plain.congr rfl
  have moved := here.move_always (by decide) rfl (fun fuel => here.plain.read fuel _ prompt) plain
  have asked := here.asks (by decide)
  have value : (running.process.readLine ⟨true, ["LINE"]⟩).value "LINE" =
      running.process.stripped running.process.inputLine.text := running.process.value_readLine
  rw [Process.entered?_eq] at asked
  rw [moved]
  refine ⟨⟨rfl, here.enough_next, plain, by omega, by omega, fun _ => ?_,
    fun _ _ text entered => ?_, by omega, by omega⟩,
    rfl, rfl⟩
  · rw [← asked, Process.readLine_eq]
    cases running.process.inputLine.ended <;> rfl
  · rw [value]
    rw [← asked] at entered
    cases ended : running.process.inputLine.ended with
    | true =>
      rw [ended] at entered
      exact Option.some_inj.1 entered
    | false =>
      rw [ended] at entered
      cases entered

/-- The status of the reading is asked for. -/
theorem test (here : running.IsAt prompt history line 4) :
    running.move.IsAt prompt history line 5 ∧ running.move.process = running.process := by
  have told := here.told (.inl rfl)
  have status : running.process.status = 0 ∨ running.process.status = 1 := by
    rw [told]
    cases line.isSome with
    | true => exact .inl rfl
    | false => exact .inr rfl
  have moved := here.move_always (by decide) rfl (fun fuel => here.plain.test fuel _ status) here.plain
  rw [moved]
  exact ⟨⟨rfl, here.enough_next, here.plain, by omega, by omega, fun _ => told,
    fun _ _ => here.known (by decide) (by decide), by omega, by omega⟩, rfl⟩

/-- What is left to do when the shell may have to be left. -/
theorem rest_exit (here : running.IsAt prompt history line 5) :
    running.rest = (.onFailure, .simple [bare "exit"] []) :: (promptSteps prompt history).drop 6 := here.rest

/-- Where a line was entered the shell goes on. -/
theorem goOn (here : running.IsAt prompt history line 5) (entered : line.isSome = true) :
    running.move.IsAt prompt history line 6 ∧ running.move.process = running.process := by
  have told := here.told (.inr rfl)
  rw [entered] at told
  have same : running.behind .onFailure (.simple [bare "exit"] []) ((promptSteps prompt history).drop 6) =
      running.process := by
    rw [behind, told]
    rfl
  have moved := move_cons here.rest_exit
  rw [same, here.plain.isDone] at moved
  rw [moved]
  exact ⟨⟨rfl, here.enough_next, here.plain, by omega, by omega, by omega,
    fun _ _ => here.known (by decide) (by decide), fun _ => entered, by omega⟩, rfl⟩

/-- Where no line was entered the shell is left, and nothing is left to do. -/
theorem leave (here : running.IsAt prompt history line 5) (missing : line.isSome = false) :
    running.move.rest = [] ∧ running.move.process.system = running.process.system := by
  have told := here.told (.inr rfl)
  rw [missing] at told
  obtain ⟨fuel, steps⟩ := here.exists_fuel (by decide)
  have left : running.behind .onFailure (.simple [bare "exit"] []) ((promptSteps prompt history).drop 6) =
      running.process.leave running.process.status := by
    rw [behind, told, steps, here.plain.exit, Process.stopOnFailure, told]
    show (if (running.process.manner.stops && _ && _ && _) = true then _ else _) = _
    rw [here.plain.goesOn]
    rfl
  have moved := move_cons here.rest_exit
  rw [left] at moved
  rw [moved]
  exact ⟨rfl, rfl⟩

/-- The line is appended to the history. -/
theorem append (here : running.IsAt prompt history line 6) {text : Bytes} (entered : line = some text)
    (noDash : text.head? ≠ some 0x2D) :
    running.move.IsAt prompt history line 7 ∧ running.move.process.system = running.process.system ∧
      running.move.process.history = running.process.history ++ [text] := by
  have known := here.known (by decide) (by decide) text entered
  have plain : Process.IsPlain
      { running.process with history := running.process.history ++ [text], status := 0 } :=
    here.plain.congr rfl
  have moved := here.move_always (by decide) rfl
    (fun fuel => (here.plain.append fuel _ (by rw [known]; exact noDash)).trans (by rw [known])) plain
  rw [moved]
  refine ⟨⟨rfl, here.enough_next, plain, by omega, by omega, by omega, by omega,
    fun _ => here.passed (by decide), fun _ other same => ?_⟩, rfl, rfl⟩
  rw [entered, Option.mem_some_iff] at same
  rw [← same]
  exact List.mem_append_right _ (List.mem_singleton_self text)

/-- The history is written to the history file, if that can be written. -/
theorem write (here : running.IsAt prompt history line 7) (noHelpPath : history ≠ "--help") :
    running.move.IsAt prompt history line 8 ∧
      running.move.process.system =
        (running.process.system.writeFile? history (HistoryList.write running.process.history)).getD
          running.process.system := by
  obtain ⟨status, writes⟩ := here.plain.exists_write noHelpPath
  have plain : Process.IsPlain
      { running.process with
        system :=
          (running.process.system.writeFile? history (HistoryList.write running.process.history)).getD
            running.process.system
        status } := here.plain.congr rfl
  rw [here.move_always (by decide) rfl (fun fuel => writes fuel false) plain]
  exact ⟨⟨rfl, here.enough_next, plain, by omega, by omega, by omega, by omega,
    fun _ => here.passed (by decide), fun _ => here.appended (by decide)⟩, rfl⟩

/-- The line is printed, and nothing is left to do. -/
theorem print (here : running.IsAt prompt history line 8) :
    running.move.rest = [] ∧ running.move.process.system = running.process.system := by
  have plain : (running.process.put (formatted [ofText "%s\\n", running.process.value "LINE"])).IsPlain :=
    here.plain.congr rfl
  rw [here.move_always (by decide) rfl (fun fuel => here.plain.print fuel _) plain]
  exact ⟨rfl, rfl⟩

end IsAt

/-! ## Between loading and writing -/

/-- Whether a shell has loaded the history file and is still to write it. -/
def IsHolding (history : String) (running : Running) : Prop :=
  (.always, loadCommand history) ∉ running.rest ∧ (.always, writeCommand history) ∈ running.rest

/-- Whether a shell writes the history file next. -/
def IsWriting (history : String) (running : Running) : Prop :=
  running.rest.head? = some (.always, writeCommand history)

/-- The first two words of a command. -/
def opening : Command → List (List Mark)
  | .simple words _ => words.take 2
  | _ => []

/-- The first words of the commands of the script that reads a line. -/
def scriptOpenings : List (List (List Mark)) :=
  [[bare "set", bare "-f"], [bare "history", bare "-r"], [bare "LINE=" ++ inDouble ""],
    [bare "read", bare "-re"], [bare "[", bare "$?"], [bare "exit"], [bare "history", bare "-s"],
    [bare "history", bare "-w"], [bare "printf", inSingle "%s\\n"]]

variable {prompt history : String} {line : Option Bytes} {place : Nat}

/-- A command of the script stands in front of the others by its first words. -/
theorem opening_mem {condition : Condition} {command : Command}
    (member : (condition, command) ∈ (promptSteps prompt history).drop place) :
    opening command ∈ scriptOpenings.drop place := by
  have mapped := List.mem_map_of_mem (f := fun step : Condition × Command => opening step.2) member
  rwa [List.map_drop] at mapped

namespace IsAt

/-- A shell holds what it loaded from behind the command that loads up to the one that writes. -/
theorem isHolding_iff (here : running.IsAt prompt history line place) :
    running.IsHolding history ↔ 2 ≤ place ∧ place ≤ 7 := by
  rw [IsHolding, here.rest]
  constructor
  · rintro ⟨loaded, unwritten⟩
    constructor
    · by_contra early
      have soon : place = 0 ∨ place = 1 := by omega
      rcases soon with rfl | rfl
      · exact loaded (.tail _ (.head _))
      · exact loaded (.head _)
    · by_contra late
      have behind : [bare "history", bare "-w"] ∈ scriptOpenings.drop 8 :=
        List.drop_subset_drop_left scriptOpenings (show 8 ≤ place by omega) (opening_mem unwritten)
      exact absurd behind (by decide)
  · rintro ⟨late, early⟩
    constructor
    · intro unloaded
      have behind : [bare "history", bare "-r"] ∈ scriptOpenings.drop 2 :=
        List.drop_subset_drop_left scriptOpenings late (opening_mem unloaded)
      exact absurd behind (by decide)
    · refine List.drop_subset_drop_left _ early (?_ : _ ∈ (promptSteps prompt history).drop 7)
      exact .head _

/-- A shell writes next where the command that writes is the next one. -/
theorem isWriting_iff (here : running.IsAt prompt history line place) :
    running.IsWriting history ↔ place = 7 := by
  rw [IsWriting, here.rest]
  constructor
  · intro next
    have first : (scriptOpenings.drop place).head? = some [bare "history", bare "-w"] := by
      have mapped := congrArg (Option.map fun step : Condition × Command => opening step.2) next
      rwa [← List.head?_map, List.map_drop] at mapped
    by_contra other
    have inside : place < 9 := by
      by_contra outside
      rw [List.drop_eq_nil_of_le (show scriptOpenings.length ≤ place by simp [scriptOpenings]; omega)] at first
      cases first
    interval_cases place <;> first | exact absurd first (by decide) | exact other rfl
  · rintro rfl
    rfl

end IsAt

/-- Whether a shell is on its way through the script that reads a line, or through with it. -/
def Follows (prompt history : String) (line : Option Bytes) (running : Running) : Prop :=
  running.rest = [] ∨ ∃ place < 9, running.IsAt prompt history line place

/-- What is left to do at the end is neither to load nor to write. -/
theorem not_isHolding_of_rest (finished : running.rest = []) : ¬running.IsHolding history := by
  rintro ⟨-, unwritten⟩
  rw [finished] at unwritten
  cases unwritten

/-- What a move of a shell on its way through the script means for the history. -/
inductive Turn (history : String) (before after : Running) : Prop
  /-- The files and the history stay as they are. -/
  | quiet (tree : after.process.system.tree = before.process.system.tree)
      (kept : after.IsHolding history →
        before.IsHolding history ∧ after.process.history = before.process.history)
      (reads : ¬before.IsWriting history)
  /-- The history file is loaded. -/
  | load (tree : after.process.system.tree = before.process.system.tree)
      (loaded : after.process.history = loadedFrom before.process.system history)
      (reads : ¬before.IsWriting history)
  /-- The line is appended to the history. -/
  | append (tree : after.process.system.tree = before.process.system.tree) (holding : before.IsHolding history)
      (text : Bytes) (appended : after.process.history = before.process.history ++ [text])
      (reads : ¬before.IsWriting history)
  /-- The history is written to the history file, if that can be written. -/
  | write (writing : before.IsWriting history) (holding : before.IsHolding history)
      (written : after.process.system =
        (before.process.system.writeFile? history (HistoryList.write before.process.history)).getD
          before.process.system)
      (released : ¬after.IsHolding history)

/-- A quiet move from one command to the next one. -/
theorem IsAt.turn_quiet {after : Running} (here : running.IsAt prompt history line place)
    (next : after.rest = [] ∨ after.IsAt prompt history line (place + 1))
    (system : after.process.system.tree = running.process.system.tree)
    (kept : 2 ≤ place → place ≤ 6 → after.process.history = running.process.history)
    (apart : place ≠ 1) (reads : place ≠ 7) : Turn history running after := by
  refine .quiet system (fun holding => ?_) (here.isWriting_iff.not.2 reads)
  rcases next with finished | there
  · exact absurd holding (not_isHolding_of_rest finished)
  · obtain ⟨late, early⟩ := there.isHolding_iff.1 holding
    exact ⟨here.isHolding_iff.2 ⟨by omega, by omega⟩, kept (by omega) (by omega)⟩

/-- A shell on its way through the script stays on it. Its moves load the history file, append the line, write the
history file, or mean nothing for the history. -/
theorem Follows.move (follows : running.Follows prompt history line) (noHelpPath : history ≠ "--help")
    (noDash : ∀ text ∈ line, text.head? ≠ some 0x2D) :
    running.move.Follows prompt history line ∧ Turn history running running.move ∧
      running.move.process.system.directory = running.process.system.directory := by
  rcases follows with finished | ⟨place, inside, here⟩
  · have idle : running.move = running := by rw [Running.move, finished]
    rw [idle]
    exact ⟨.inl finished, .quiet rfl (fun holding => absurd holding (not_isHolding_of_rest finished))
      (by rw [IsWriting, finished]; simp), rfl⟩
  -- One case for each command, in the order of the script.
  interval_cases place
  · obtain ⟨next, system⟩ := here.set
    exact ⟨.inr ⟨1, by decide, next⟩, here.turn_quiet (.inr next) (by rw [system]) (by omega) (by decide)
      (by decide), by rw [system]⟩
  · obtain ⟨next, system, loaded⟩ := here.load noHelpPath
    exact ⟨.inr ⟨2, by decide, next⟩, .load (by rw [system]) loaded (here.isWriting_iff.not.2 (by decide)),
      by rw [system]⟩
  · obtain ⟨next, system, kept⟩ := here.clear
    exact ⟨.inr ⟨3, by decide, next⟩, here.turn_quiet (.inr next) (by rw [system]) (fun _ _ => kept) (by decide)
      (by decide), by rw [system]⟩
  · obtain ⟨next, system, kept⟩ := here.read
    exact ⟨.inr ⟨4, by decide, next⟩, here.turn_quiet (.inr next) (by rw [system]) (fun _ _ => kept) (by decide)
      (by decide), by rw [system]⟩
  · obtain ⟨next, same⟩ := here.test
    exact ⟨.inr ⟨5, by decide, next⟩, here.turn_quiet (.inr next) (by rw [same]) (fun _ _ => by rw [same])
      (by decide) (by decide), by rw [same]⟩
  · by_cases entered : line.isSome = true
    · obtain ⟨next, same⟩ := here.goOn entered
      exact ⟨.inr ⟨6, by decide, next⟩, here.turn_quiet (.inr next) (by rw [same]) (fun _ _ => by rw [same])
        (by decide) (by decide), by rw [same]⟩
    · obtain ⟨finished, system⟩ := here.leave (by simpa using entered)
      exact ⟨.inl finished, .quiet (by rw [system])
        (fun holding => absurd holding (not_isHolding_of_rest finished))
        (here.isWriting_iff.not.2 (by decide)), by rw [system]⟩
  · obtain ⟨text, entered⟩ := Option.isSome_iff_exists.1 (here.passed (by decide))
    obtain ⟨next, system, appended⟩ := here.append entered (noDash text entered)
    exact ⟨.inr ⟨7, by decide, next⟩, .append (by rw [system]) (here.isHolding_iff.2 (by decide)) text appended
      (here.isWriting_iff.not.2 (by decide)), by rw [system]⟩
  · obtain ⟨next, written⟩ := here.write noHelpPath
    refine ⟨.inr ⟨8, by decide, next⟩, .write (here.isWriting_iff.2 rfl) (here.isHolding_iff.2 (by decide)) written
      (next.isHolding_iff.not.2 (by decide)), ?_⟩
    rw [written]
    cases outcome : running.process.system.writeFile? history (HistoryList.write running.process.history) with
    | none => rfl
    | some system => rw [Option.getD_some, System.writeFile?_eq outcome]
  · obtain ⟨finished, system⟩ := here.print
    exact ⟨.inl finished, .quiet (by rw [system])
      (fun holding => absurd holding (not_isHolding_of_rest finished))
      (here.isWriting_iff.not.2 (by decide)), by rw [system]⟩

/-- Where a line is entered, each command up to the one that writes is followed by the next one. -/
theorem IsAt.next (here : running.IsAt prompt history line place) (early : place ≤ 7) (noHelpPath : history ≠ "--help")
    (noDash : ∀ text ∈ line, text.head? ≠ some 0x2D) (entered : line.isSome = true) :
    running.move.IsAt prompt history line (place + 1) := by
  interval_cases place
  · exact here.set.1
  · exact (here.load noHelpPath).1
  · exact here.clear.1
  · exact here.read.1
  · exact here.test.1
  · exact (here.goOn entered).1
  · obtain ⟨text, known⟩ := Option.isSome_iff_exists.1 entered
    exact (here.append known (noDash text known)).1
  · exact (here.write noHelpPath).1

/-! ## Without a pause -/

namespace IsAt

/-- The first two commands load the history file. -/
theorem moves_load (here : running.IsAt prompt history line 0) (noHelpPath : history ≠ "--help") :
    (Running.move^[2] running).IsAt prompt history line 2 ∧
      (Running.move^[2] running).process.system = running.process.system ∧
      (Running.move^[2] running).process.history = loadedFrom running.process.system history := by
  obtain ⟨second, same⟩ := here.set
  obtain ⟨third, still, loaded⟩ := second.load noHelpPath
  rw [same] at still loaded
  exact ⟨third, still, loaded⟩

/-- The other commands write the file with what was loaded and the line behind it, if a line was entered. -/
theorem moves_write (here : running.IsAt prompt history line 2) {text : Bytes} (entered : line = some text)
    (noDash : text.head? ≠ some 0x2D) (noHelpPath : history ≠ "--help") :
    (Running.move^[7] running).rest = [] ∧
      (Running.move^[7] running).process.system.tree =
        ((running.process.system.writeFile? history
          (HistoryList.write (running.process.history ++ [text]))).getD running.process.system).tree := by
  obtain ⟨third, cleared, kept⟩ := here.clear
  obtain ⟨fourth, read, keptOn⟩ := third.read
  obtain ⟨fifth, tested⟩ := fourth.test
  obtain ⟨sixth, wentOn⟩ := fifth.goOn (by rw [entered]; rfl)
  obtain ⟨seventh, still, appended⟩ := sixth.append entered noDash
  obtain ⟨eighth, written⟩ := seventh.write noHelpPath
  obtain ⟨finished, after⟩ := eighth.print
  refine ⟨finished, (congrArg System.tree (after.trans written)).trans ?_⟩
  rw [appended, still, wentOn, tested, keptOn, kept, read, cleared]
  exact System.writeFile?_tree _ _ history _

/-- After all nine commands nothing is left to do. -/
theorem rest_moves (here : running.IsAt prompt history line 0) {text : Bytes} (entered : line = some text)
    (noDash : text.head? ≠ some 0x2D) (noHelpPath : history ≠ "--help") :
    (Running.move^[9] running).rest = [] :=
  ((here.moves_load noHelpPath).1.moves_write entered noDash noHelpPath).1

end IsAt

end Running

end LiveConsole.Shell
