import LiveConsole.Proofs.CommandLine.Hook
import LiveConsole.Proofs.CommandLine.Shadowing
import LiveConsole.Proofs.Options.Straying

/-!
# Faults of settings that reach the caller

A command line that is understood comes to options, or to a fault. A fault of the set-up is told in one line and
ends in an exit code. Every other fault goes to the caller, and where such a fault can come from is known: from
the directory of the settings file, from a settings file that cannot be read as the text of a document whose
values can be built, from its keys, and from paths that stop the building of options.
-/
namespace LiveConsole

/-! ## The settings file -/

namespace Settings

variable {place : Place} {fault : Fault}

/-- Bytes come to a fault that is none of the set-up if the values of the document cannot be built. -/
theorem ofBytes_stray_iff {content : List UInt8} :
    ofBytes content = .error fault ∧ fault.isConfiguration = false ↔
      Yaml.readData (.ofBytes content) = .error (.unbuildable fault) ∧ fault.isConfiguration = false := by
  have told {other : Fault} (configuration : other.isConfiguration = true) :
      ¬((Except.error other : Except Fault Entries) = .error fault ∧ fault.isConfiguration = false) := by
    rintro ⟨same, strange⟩
    cases same
    rw [configuration] at strange
    cases strange
  unfold ofBytes
  rcases Yaml.readData (.ofBytes content) with (_ | _ | other) | data
  · simpa using told (show malformed.isConfiguration = true from rfl)
  · simpa using told (show malformed.isConfiguration = true from rfl)
  · simp
  · simp only [reduceCtorEq, false_and, iff_false]
    unfold ofData
    split
    · simp
    · split
      · simp
      · exact told (show notMapping.isConfiguration = true from rfl)

/-- Loading the settings file looks it up once. -/
theorem load_eq (place : Place) (directory : String) :
    load place directory =
      match place.tree.status place.directory (file directory).text with
      | .ok (.file _ content _) => ofBytes content
      | .ok _ => .error (isDirectory (file directory))
      | .error .tooLong => .error (FileTree.tooLongFault (file directory).text)
      | .error _ => .ok [] := by
  unfold load FileTree.pathExists
  dsimp only
  rcases place.tree.status place.directory (file directory).text with lost | entry
  · cases lost <;> rfl
  · cases entry <;> rfl

/-- Loading the settings file comes to a fault that is none of the set-up if its path is too long, or if the
values of the document in it cannot be built. -/
theorem load_stray_iff {directory : String} :
    load place directory = .error fault ∧ fault.isConfiguration = false ↔
      place.tree.status place.directory (file directory).text = .error .tooLong ∧
          fault = FileTree.tooLongFault (file directory).text ∨
        ∃ modified content executable,
          place.tree.status place.directory (file directory).text =
            .ok (.file modified content executable) ∧
          Yaml.readData (.ofBytes content) = .error (.unbuildable fault) ∧
          fault.isConfiguration = false := by
  have told : ¬((Except.error (isDirectory (file directory)) : Except Fault Entries) = .error fault ∧
      fault.isConfiguration = false) := by
    rintro ⟨same, strange⟩
    cases same
    cases strange
  rw [load_eq]
  rcases place.tree.status place.directory (file directory).text with lost | entry
  · cases lost with
    | tooLong =>
      simp only [Except.error.injEq, true_and, reduceCtorEq, false_and, exists_false, or_false]
      constructor
      · rintro ⟨rfl, -⟩
        rfl
      · rintro rfl
        exact ⟨rfl, rfl⟩
    | _ => simp
  · cases entry with
    | file modified content executable => simp [ofBytes_stray_iff]
    | directory modified => simpa using told
    | link target => simpa using told

/-- Whether all keys of settings are texts, and none stands for the kind of options. -/
def AreNamed (entries : Entries) : Prop := ∀ entry ∈ entries, ∃ name, nameOf? entry.1 = some name ∧ name ≠ "cls"

end Settings

namespace CommandLine

namespace Arguments

open Options (Strays StopsAt given? andThen checkWatch checkPath checkConfigDir namesNotText reservedName)

variable {place : Place} {arguments : Arguments} {fault : Fault}

/-- Whether a path to watch is given that stops the building of options. -/
def WatchStrays (place : Place) (given : Option Given) (fault : Fault) : Prop :=
  ∃ value path, given = some value ∧ value.asPath = .ok path ∧ Text.allBlank path.text = false ∧
    Strays place (fun _ => true) (PurePath.ofText path.text) fault

/-- Whether a directory to run from is given that stops the building of options. -/
def PathStrays (place : Place) (given : Option Given) (fault : Fault) : Prop :=
  ∃ value path, given = some value ∧ value.asPath = .ok path ∧ Strays place Entry.isDirectory path fault

/-- The path to watch that flags or settings give. -/
def watchGiven (arguments : Arguments) (entries : Settings.Entries) : Option Given :=
  (arguments.watch.map FlagValue.given).or (given? (Settings.values entries) "watch")

/-- The directory to run from that flags or settings give. -/
def pathGiven (arguments : Arguments) (entries : Settings.Entries) : Option Given :=
  (arguments.path.map FlagValue.given).or (given? (Settings.values entries) "path")

/-- The faults that come of settings and are none of the set-up. -/
inductive Escapes (place : Place) (arguments : Arguments) : Fault → Prop where
  /-- The directory of the settings file has no canonical form. -/
  | unlocated {fault : Fault} (failed : arguments.settingsDirectory place = .error fault) :
    Escapes place arguments fault
  /-- The path of the settings file is too long. -/
  | tooLong {directory} (located : arguments.settingsDirectory place = .ok directory)
    (long : place.tree.status place.directory (Settings.file directory.text).text = .error .tooLong) :
    Escapes place arguments (FileTree.tooLongFault (Settings.file directory.text).text)
  /-- The bytes of the settings file spell no text, or the values of its document cannot be built. -/
  | unbuildable {directory modified content executable} {fault : Fault}
    (located : arguments.settingsDirectory place = .ok directory)
    (stands : place.tree.status place.directory (Settings.file directory.text).text =
      .ok (.file modified content executable))
    (spelt : Yaml.readData (.ofBytes content) = .error (.unbuildable fault))
    (strange : fault.isConfiguration = false) : Escapes place arguments fault
  /-- A key of the settings is no text. -/
  | noText {entries entry} (reads : arguments.Reads place entries) (member : entry ∈ entries)
    (noText : Settings.nameOf? entry.1 = .none) : Escapes place arguments namesNotText
  /-- All keys of the settings are texts, and one stands for the kind of options. -/
  | reserved {entries entry} (reads : arguments.Reads place entries)
    (texts : ∀ other ∈ entries, Settings.nameOf? other.1 ≠ .none) (member : entry ∈ entries)
    (reserved : Settings.nameOf? entry.1 = some "cls") : Escapes place arguments reservedName
  /-- The path to watch stops everything. -/
  | watch {entries} {fault : Fault} (reads : arguments.Reads place entries) (named : Settings.AreNamed entries)
    (strays : WatchStrays place (arguments.watchGiven entries) fault) : Escapes place arguments fault
  /-- The directory to run from stops everything. -/
  | path {entries} {fault : Fault} (reads : arguments.Reads place entries) (named : Settings.AreNamed entries)
    (watchable : ∀ other, ¬WatchStrays place (arguments.watchGiven entries) other)
    (strays : PathStrays place (arguments.pathGiven entries) fault) : Escapes place arguments fault
  /-- The canonical form of the directory of the settings file loops through links. -/
  | loops {entries directory canonical} (reads : arguments.Reads place entries)
    (named : Settings.AreNamed entries)
    (watchable : ∀ other, ¬WatchStrays place (arguments.watchGiven entries) other)
    (usable : ∀ other, ¬PathStrays place (arguments.pathGiven entries) other)
    (located : arguments.settingsDirectory place = .ok directory)
    (loops : place.tree.resolve place.directory directory = .error (FileTree.loopFault canonical)) :
    Escapes place arguments (FileTree.loopFault canonical)

/-- A directory of the settings file without a canonical form is no fault of the set-up. -/
theorem settingsDirectory_error (failed : arguments.settingsDirectory place = .error fault) :
    fault.isConfiguration = false := by
  rcases Options.bind_error_iff.1 failed with unknown | ⟨expanded, -, loops⟩
  · rcases Options.expandUser_error unknown with rfl | rfl <;> rfl
  · rcases Options.resolve_error loops with rfl | ⟨canonical, rfl⟩ <;> rfl

/-- The check of the directory of the settings file stops everything if its canonical form loops. -/
theorem checkConfigDir_again {directory : PurePath}
    (located : arguments.settingsDirectory place = .ok directory) :
    checkConfigDir place directory = place.tree.resolve place.directory directory := by
  obtain ⟨expanded, -, resolved⟩ := Options.bind_ok_iff.1 located
  rw [FileTree.resolve_ok resolved, checkConfigDir, PurePath.expandUser_ofLocation]
  simp only [bind, Except.bind]

/-- The path to watch that flags and settings give together stops everything if it strays. -/
theorem stopsAt_watch_iff {entries : Settings.Entries} {directory : PurePath} :
    StopsAt (arguments.merge directory (Settings.values entries)) "watch" (checkWatch place) fault ↔
      WatchStrays place (arguments.watchGiven entries) fault := by
  obtain ⟨-, -, -, watch, -⟩ := arguments.given?_merge_all directory (Settings.values entries)
  simp only [StopsAt, watch, Options.checkWatch_strays_iff, WatchStrays, watchGiven]

/-- The directory to run from that flags and settings give together stops everything if it strays. -/
theorem stopsAt_path_iff {entries : Settings.Entries} {directory : PurePath} :
    StopsAt (arguments.merge directory (Settings.values entries)) "path" (checkPath place) fault ↔
      PathStrays place (arguments.pathGiven entries) fault := by
  obtain ⟨-, -, -, -, path, -⟩ := arguments.given?_merge_all directory (Settings.values entries)
  simp only [StopsAt, path, Options.checkPath_strays_iff, PathStrays, pathGiven]

/-- The directory that was looked into stops everything if its canonical form loops. -/
theorem stopsAt_configDir_iff {entries : Settings.Entries} {directory : PurePath}
    (located : arguments.settingsDirectory place = .ok directory) :
    StopsAt (arguments.merge directory (Settings.values entries)) "config_dir" (checkConfigDir place)
        fault ↔
      ∃ canonical, fault = FileTree.loopFault canonical ∧
        place.tree.resolve place.directory directory = .error fault := by
  obtain ⟨-, -, -, -, -, -, -, configDir⟩ :=
    arguments.given?_merge_all directory (Settings.values entries)
  constructor
  · rintro ⟨value, path, same, read, failed, noProblem⟩
    cases configDir.symm.trans same
    cases read
    rw [checkConfigDir_again located] at failed
    rcases Options.resolve_error failed with rfl | ⟨canonical, rfl⟩
    · exact absurd Options.isProblem_nullFault noProblem
    · exact ⟨canonical, rfl, failed⟩
  · rintro ⟨canonical, rfl, failed⟩
    rw [← checkConfigDir_again located] at failed
    refine ⟨_, directory, configDir, rfl, failed, ?_⟩
    rintro (configuration | ⟨message, same⟩)
    · cases configuration
    · simp [FileTree.loopFault] at same

/-- The values that flags and settings give together are given by texts if all keys of the settings are. -/
theorem any_isNone_merge (directory : PurePath) (entries : Settings.Entries) :
    ((arguments.merge directory (Settings.values entries)).any fun entry => entry.1.isNone) = true ↔
      ∃ entry ∈ entries, Settings.nameOf? entry.1 = .none := by
  rw [Options.any_isNone_strangers, strangers_merge, ← Options.any_isNone_strangers]
  simp [Settings.values]

/-- The kind of options is named by flags and settings together if the settings name it. -/
theorem any_reserved_merge (directory : PurePath) (entries : Settings.Entries) :
    ((arguments.merge directory (Settings.values entries)).any fun entry => entry.1 == some "cls") = true ↔
      ∃ entry ∈ entries, Settings.nameOf? entry.1 = some "cls" := by
  rw [Options.any_reserved_strangers, strangers_merge, ← Options.any_reserved_strangers]
  simp [Settings.values]

/-- Whether keys are named can be told from the values that flags and settings give together. -/
theorem areNamed_iff (directory : PurePath) (entries : Settings.Entries) :
    Settings.AreNamed entries ↔
      ((arguments.merge directory (Settings.values entries)).any fun entry => entry.1.isNone) = false ∧
      ((arguments.merge directory (Settings.values entries)).any fun entry => entry.1 == some "cls") =
        false := by
  rw [Bool.eq_false_iff, Bool.eq_false_iff, Ne, Ne, any_isNone_merge, any_reserved_merge]
  constructor
  · intro named
    constructor
    · rintro ⟨entry, member, noText⟩
      obtain ⟨name, found, -⟩ := named entry member
      rw [found] at noText
      cases noText
    · rintro ⟨entry, member, reserved⟩
      obtain ⟨name, found, allowed⟩ := named entry member
      exact allowed (Option.some.inj (found.symm.trans reserved))
  · rintro ⟨texts, allowed⟩ entry member
    cases found : Settings.nameOf? entry.1 with
    | none => exact absurd ⟨entry, member, found⟩ texts
    | some name =>
      refine ⟨name, rfl, ?_⟩
      rintro rfl
      exact allowed ⟨entry, member, found⟩

/-- Options are built from settings that are read. -/
theorem options_of_loaded {entries : Settings.Entries} {directory : PurePath}
    (located : arguments.settingsDirectory place = .ok directory)
    (loaded : Settings.load place directory.text = .ok entries) :
    arguments.options place =
      Options.build place (arguments.merge directory (Settings.values entries)) := by
  simp only [options, located, loaded, bind, Except.bind]

/-- Settings whose keys are named come to a fault that is none of the set-up if the checks stop everything. -/
theorem options_of_check {entries : Settings.Entries} {directory : PurePath}
    (located : arguments.settingsDirectory place = .ok directory)
    (loaded : Settings.load place directory.text = .ok entries) (named : Settings.AreNamed entries)
    (stopped : Options.check place (arguments.merge directory (Settings.values entries)) = .error fault) :
    arguments.options place = .error fault ∧ fault.isConfiguration = false := by
  obtain ⟨texts, allowed⟩ := (areNamed_iff directory entries).1 named
  rw [options_of_loaded located loaded]
  refine Options.build_stray_iff.2 ?_
  rwa [texts, allowed, if_neg (by decide), if_neg (by decide)]

/-- What escapes comes of a command line, and is no fault of the set-up. -/
theorem Escapes.options (escapes : Escapes place arguments fault) :
    arguments.options place = .error fault ∧ fault.isConfiguration = false := by
  cases escapes with
  | unlocated failed => exact ⟨Options.bind_error_iff.2 (.inl failed), settingsDirectory_error failed⟩
  | tooLong located long =>
    obtain ⟨unread, strange⟩ := Settings.load_stray_iff.2 (.inl ⟨long, rfl⟩)
    exact ⟨Options.bind_error_iff.2 (.inr ⟨_, located, Options.bind_error_iff.2 (.inl unread)⟩), strange⟩
  | unbuildable located stands spelt strange =>
    obtain ⟨unread, strange⟩ := Settings.load_stray_iff.2 (.inr ⟨_, _, _, stands, spelt, strange⟩)
    exact ⟨Options.bind_error_iff.2 (.inr ⟨_, located, Options.bind_error_iff.2 (.inl unread)⟩), strange⟩
  | noText reads member noText =>
    obtain ⟨directory, located, loaded⟩ := reads
    rw [options_of_loaded located loaded]
    refine Options.build_stray_iff.2 ?_
    rw [if_pos ((any_isNone_merge directory _).2 ⟨_, member, noText⟩)]
  | @reserved entries entry reads texts member reserved =>
    obtain ⟨directory, located, loaded⟩ := reads
    have named : ¬((arguments.merge directory (Settings.values entries)).any
        fun entry => entry.1.isNone) = true := fun unnamed => by
      obtain ⟨other, known, noText⟩ := (any_isNone_merge directory entries).1 unnamed
      exact texts other known noText
    rw [options_of_loaded located loaded]
    refine Options.build_stray_iff.2 ?_
    rw [if_neg named, if_pos ((any_reserved_merge directory _).2 ⟨_, member, reserved⟩)]
  | watch reads named strays =>
    obtain ⟨directory, located, loaded⟩ := reads
    exact options_of_check located loaded named
      (Options.check_error_iff.2 (.inl (stopsAt_watch_iff.2 strays)))
  | path reads named watchable strays =>
    obtain ⟨directory, located, loaded⟩ := reads
    refine options_of_check located loaded named (Options.check_error_iff.2 (.inr ⟨fun other stops => ?_,
      .inl (stopsAt_path_iff.2 strays)⟩))
    exact watchable other (stopsAt_watch_iff.1 stops)
  | loops reads named watchable usable located loops =>
    obtain ⟨directory, found, loaded⟩ := reads
    cases found.symm.trans located
    refine options_of_check located loaded named (Options.check_error_iff.2 (.inr ⟨fun other stops => ?_,
      .inr ⟨fun other stops => ?_, (stopsAt_configDir_iff located).2 ⟨_, rfl, loops⟩⟩⟩))
    · exact watchable other (stopsAt_watch_iff.1 stops)
    · exact usable other (stopsAt_path_iff.1 stops)

/-- What comes of a command line and is no fault of the set-up escapes. -/
theorem escapes_of_options (failed : arguments.options place = .error fault)
    (strange : fault.isConfiguration = false) : Escapes place arguments fault := by
  rcases Options.bind_error_iff.1 failed with unlocated | ⟨directory, located, failed⟩
  · exact .unlocated unlocated
  rcases Options.bind_error_iff.1 failed with unread | ⟨entries, loaded, failed⟩
  · rcases Settings.load_stray_iff.1 ⟨unread, strange⟩ with
      ⟨long, rfl⟩ | ⟨modified, content, executable, stands, spelt, -⟩
    · exact .tooLong located long
    · exact .unbuildable located stands spelt strange
  · have reads : arguments.Reads place entries := ⟨directory, located, loaded⟩
    have stopped := Options.build_stray_iff.1 ⟨failed, strange⟩
    split at stopped
    · rename_i unnamed
      obtain ⟨entry, member, noText⟩ := (any_isNone_merge directory entries).1 unnamed
      exact stopped ▸ .noText reads member noText
    · rename_i texts
      split at stopped
      · rename_i found
        obtain ⟨entry, member, reserved⟩ := (any_reserved_merge directory entries).1 found
        refine stopped ▸ .reserved reads (fun other known noText => texts ?_) member reserved
        exact (any_isNone_merge directory entries).2 ⟨other, known, noText⟩
      · rename_i allowed
        have named : Settings.AreNamed entries :=
          (areNamed_iff directory entries).2 ⟨Bool.eq_false_iff.2 texts, Bool.eq_false_iff.2 allowed⟩
        have checked := Options.check_error_iff.1 stopped
        simp only [stopsAt_watch_iff, stopsAt_path_iff, stopsAt_configDir_iff located] at checked
        rcases checked with strays | ⟨watchable, strays | ⟨usable, canonical, rfl, loops⟩⟩
        · exact .watch reads named strays
        · exact .path reads named watchable strays
        · exact .loops reads named watchable usable located loops

/-- What comes of a command line is a fault that is none of the set-up if it escapes. -/
theorem escapes_iff : Escapes place arguments fault ↔
    arguments.options place = .error fault ∧ fault.isConfiguration = false :=
  ⟨Escapes.options, fun ⟨failed, strange⟩ => escapes_of_options failed strange⟩

end Arguments

end CommandLine

end LiveConsole
