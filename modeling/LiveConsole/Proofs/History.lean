import LiveConsole.Proofs.FileTree.Path
import LiveConsole.Session
import Mathlib.Data.Nat.Basic

/-!
# Who shares a history file

The name of a history file is a digest of one text, the directory with the name of the user right behind it. That
text does not tell where the directory ends: it is the same for another directory and another user exactly when
one directory goes on with what the name of the first user begins with. Any other two that share a history file have
different texts with one digest. Users whose names have no slash then work in directories side by side, or one of
them in the root and the other right below it.
-/
namespace LiveConsole

namespace Text

/-! ## Digits and bytes -/

/-- Different values below sixteen have different digits. -/
theorem hexDigit_inj : ∀ first < 16, ∀ second < 16, hexDigit first = hexDigit second → first = second := by
  decide

/-- A number has as many digits as are asked for. -/
theorem length_hexDigits (width value : Nat) : (hexDigits width value).length = width := by
  induction width generalizing value with
  | zero => rfl
  | succ width ih => rw [hexDigits, List.length_append, ih, List.length_singleton]

/-- Numbers that fit in so many digits are the same if their digits are. -/
theorem hexDigits_inj {width first second : Nat} (fits : first < Nat.pow 16 width)
    (alsoFits : second < Nat.pow 16 width) (same : hexDigits width first = hexDigits width second) :
    first = second := by
  induction width generalizing first second with
  | zero => rw [Nat.lt_one_iff.1 fits, Nat.lt_one_iff.1 alsoFits]
  | succ width ih =>
    have step : Nat.pow 16 (width + 1) = Nat.pow 16 width * 16 := rfl
    rw [step] at fits alsoFits
    obtain ⟨front, last⟩ := List.append_inj' same rfl
    have high := ih (by omega) (by omega) front
    have low := hexDigit_inj (first % 16) (by omega) (second % 16) (by omega) (List.singleton_inj.1 last)
    omega

/-- Bytes are the same if their digits are, two for each of them. -/
theorem flatMap_hexDigits_inj {first second : List UInt8}
    (same : first.flatMap (fun byte => hexDigits 2 byte.toNat) =
      second.flatMap fun byte => hexDigits 2 byte.toNat) : first = second := by
  have digits (byte : UInt8) := length_hexDigits 2 byte.toNat
  induction first generalizing second with
  | nil =>
    cases second with
    | nil => rfl
    | cons byte second =>
      have length := congrArg List.length same
      rw [List.flatMap_cons, List.length_append, digits, List.flatMap_nil, List.length_nil] at length
      omega
  | cons byte first ih =>
    cases second with
    | nil =>
      have length := congrArg List.length same
      rw [List.flatMap_cons, List.length_append, digits, List.flatMap_nil, List.length_nil] at length
      omega
    | cons other second =>
      rw [List.flatMap_cons, List.flatMap_cons] at same
      obtain ⟨front, rest⟩ := List.append_inj same ((digits byte).trans (digits other).symm)
      have value := hexDigits_inj byte.toNat_lt other.toNat_lt front
      rw [UInt8.toNat_inj.1 value, ih rest]

/-- The bytes of an array, listed from one of them on. -/
theorem toList_loop (bytes : ByteArray) (index : Nat) (done : List UInt8) :
    ByteArray.toList.loop bytes index done = done.reverse ++ bytes.data.toList.drop index := by
  rw [ByteArray.toList.loop]
  split
  · rename_i inside
    have inside' : index < bytes.data.toList.length := inside
    have found : bytes.get! index = bytes.data.toList[index] := getElem!_pos bytes.data index inside
    rw [toList_loop, List.drop_eq_getElem_cons inside', found]
    simp
  · rename_i outside
    have outside' : bytes.data.toList.length ≤ index := Nat.not_lt.1 outside
    rw [List.drop_of_length_le outside', List.append_nil]
termination_by bytes.size - index

/-- Different texts have different bytes. -/
theorem utf8Bytes_inj {first second : String} : utf8Bytes first = utf8Bytes second ↔ first = second := by
  refine ⟨fun same => ?_, congrArg utf8Bytes⟩
  unfold utf8Bytes ByteArray.toList at same
  rw [toList_loop, toList_loop] at same
  exact String.toByteArray_inj.1 (ByteArray.ext (Array.toList_inj.1 same))

namespace Digest

/-- Whether bytes that differ have one digest. -/
def Collides (first second : List UInt8) : Prop := first ≠ second ∧ ofBytes first = ofBytes second

/-- Texts have one digest if they are the same or their bytes collide. -/
theorem ofText_eq_iff {first second : String} :
    ofText first = ofText second ↔ first = second ∨ Collides (utf8Bytes first) (utf8Bytes second) := by
  have digits : ofText first = ofText second ↔ ofBytes (utf8Bytes first) = ofBytes (utf8Bytes second) := by
    refine ⟨fun same => flatMap_hexDigits_inj (String.ofList_inj.1 same), fun same => ?_⟩
    rw [ofText, ofText, same]
  rw [digits, Collides, Ne, utf8Bytes_inj]
  constructor
  · intro same
    by_cases equal : first = second
    · exact .inl equal
    · exact .inr ⟨equal, same⟩
  · rintro (rfl | ⟨-, same⟩)
    · rfl
    · exact same

end Digest

end Text

namespace History

open Text

/-- Whether a directory goes on into another with what the name of its user begins with, and that of the other
user is what is left of it. -/
def RunsOver (first user second other : String) : Prop :=
  ∃ shared, shared ≠ "" ∧ second = first ++ shared ∧ user = shared ++ other

/-- Directories that run over are different, and so are the users. -/
theorem RunsOver.both_differ {first user second other : String} (goesBeyond : RunsOver first user second other) :
    first ≠ second ∧ user ≠ other := by
  obtain ⟨shared, filled, rfl, rfl⟩ := goesBeyond
  simp [← String.toList_inj, filled]

/-- Where a directory goes on with what a user begins with, there is nothing in between, or the two run over. -/
theorem same_or_runsOver {first user second other : String} {shared : List Char}
    (goesOn : second.toList = first.toList ++ shared) (begins : user.toList = shared ++ other.toList) :
    (first, user) = (second, other) ∨ RunsOver first user second other := by
  by_cases empty : shared = []
  · left
    rw [empty, List.append_nil] at goesOn
    rw [empty, List.nil_append] at begins
    rw [String.toList_inj.1 goesOn, String.toList_inj.1 begins]
  · refine .inr ⟨String.ofList shared, by simpa using empty, ?_, ?_⟩
    · rw [← String.toList_inj, goesOn, String.toList_append, String.toList_ofList]
    · rw [← String.toList_inj, begins, String.toList_append, String.toList_ofList]

/-- The text for a directory and a user is that for others exactly if they are the same or run over. -/
theorem key_eq_iff {first user second other : String} :
    key first user = key second other ↔
      (first, user) = (second, other) ∨ RunsOver first user second other ∨ RunsOver second other first user := by
  constructor
  · intro same
    have chars := congrArg String.toList same
    rw [key, key, String.toList_append, String.toList_append] at chars
    rcases List.append_eq_append_iff.1 chars with ⟨shared, goesOn, begins⟩ | ⟨shared, goesOn, begins⟩
    · rcases same_or_runsOver goesOn begins with equal | goesBeyond
      · exact .inl equal
      · exact .inr (.inl goesBeyond)
    · rcases same_or_runsOver goesOn begins with equal | goesBeyond
      · exact .inl equal.symm
      · exact .inr (.inr goesBeyond)
  · rintro (same | ⟨shared, -, rfl, rfl⟩ | ⟨shared, -, rfl, rfl⟩)
    · obtain ⟨rfl, rfl⟩ := Prod.mk.inj same
      rfl
    · rw [key, key, String.append_assoc]
    · rw [key, key, String.append_assoc]

/-- History files are the same exactly if the digests of their texts are. -/
theorem file_eq_iff {temporary : PurePath} {first user second other : String} :
    file temporary first user = file temporary second other ↔
      Digest.ofText (key first user) = Digest.ofText (key second other) := by
  refine ⟨fun same => ?_, fun same => by rw [file, file, same]⟩
  have names := congrArg PurePath.parts same
  have name := List.singleton_inj.1 (List.append_cancel_left names)
  exact (String.append_right_inj fileStart).1 name

/-! ## Directories side by side -/

/-- The text of a location with a name that goes on is the text of that location with more behind it. -/
theorem text_append (above : Location) (name shared : String) :
    Location.text (above ++ [name ++ shared]) = Location.text (above ++ [name]) ++ shared := by
  unfold Location.text joinWith
  by_cases top : above = []
  · rw [top, List.nil_append, List.nil_append, String.intercalate_singleton, String.intercalate_singleton,
      String.append_assoc]
  · rw [String.intercalate_append_of_ne_nil top (by simp), String.intercalate_append_of_ne_nil top (by simp),
      String.intercalate_singleton, String.intercalate_singleton]
    simp only [String.append_assoc]

/-- Two directories stand side by side, one named like the other with more behind; or one is the root and the other
stands right in it. -/
def Beside (first : Location) (shared : String) (second : Location) : Prop :=
  first = [] ∧ second = [shared] ∨
    ∃ above name, first = above ++ [name] ∧ second = above ++ [name ++ shared]

/-- A location is found from its text among those with a last name, if no name has a slash in it. -/
theorem eq_of_text_eq {location above : Location} {name : String} (filled : name ≠ "")
    (free : ∀ name ∈ location, '/' ∉ name.toList) (alsoFree : ∀ other ∈ above ++ [name], '/' ∉ other.toList)
    (same : location.text = Location.text (above ++ [name])) : location = above ++ [name] := by
  have named : above ++ [name] ≠ [] := by simp
  have names := congrArg FileTree.steps same
  rw [FileTree.steps_text free, FileTree.steps_text alsoFree, if_neg named, List.cons_inj_right] at names
  split at names
  · have last := congrArg List.getLast? names
    rw [List.getLast?_concat, List.getLast?_singleton, Option.some.injEq] at last
    exact absurd last.symm filled
  · exact names

/-- The text of a location goes on into that of another without a slash exactly if they stand so. -/
theorem text_eq_append_iff {first second : Location} (proper : first.IsProper) (alsoProper : second.IsProper)
    {shared : String} (filled : shared ≠ "") (plain : '/' ∉ shared.toList) :
    second.text = first.text ++ shared ↔ Beside first shared second := by
  have free : ∀ name ∈ second, '/' ∉ name.toList := fun name member => (alsoProper name member).noSlash
  have root : Location.text [] ++ shared = Location.text [shared] := rfl
  constructor
  · intro goesOn
    rcases List.eq_nil_or_concat first with rfl | ⟨above, name, rfl⟩
    · have alone : second.text = Location.text ([] ++ [shared]) := goesOn.trans root
      exact .inl ⟨rfl, eq_of_text_eq filled free (by simpa using plain) alone⟩
    · rw [List.concat_eq_append] at goesOn proper ⊢
      rw [← text_append] at goesOn
      refine .inr ⟨above, name, rfl, eq_of_text_eq ?_ free ?_ goesOn⟩
      · intro empty
        exact filled (String.append_eq_empty_iff.1 empty).2
      · intro other member
        rcases List.mem_append.1 member with before | last
        · exact (proper other (List.mem_append_left _ before)).noSlash
        · rw [List.mem_singleton.1 last, String.toList_append]
          have own := (proper name (List.mem_append_right above List.mem_cons_self)).noSlash
          exact fun slash => (List.mem_append.1 slash).elim own plain
  · rintro (⟨rfl, rfl⟩ | ⟨above, name, rfl, rfl⟩)
    · exact root.symm
    · exact text_append above name shared

/-- Whether two directories stand side by side, and the name of the user of the first one is that of the other user
with what the second directory is longer by in front. -/
def RunsBeside (first : Location) (user : String) (second : Location) (other : String) : Prop :=
  ∃ shared, shared ≠ "" ∧ Beside first shared second ∧ user = shared ++ other

/-- The texts of locations run over exactly if they do so side by side, provided that the user has a name without
slashes. -/
theorem runsOver_text_iff {first second : Location} (proper : first.IsProper) (alsoProper : second.IsProper)
    {user other : String} (plain : '/' ∉ user.toList) :
    RunsOver first.text user second.text other ↔ RunsBeside first user second other := by
  have part {shared : String} (begins : user = shared ++ other) : '/' ∉ shared.toList := by
    rw [begins, String.toList_append] at plain
    exact fun slash => plain (List.mem_append_left _ slash)
  constructor
  · rintro ⟨shared, filled, goesOn, begins⟩
    exact ⟨shared, filled, (text_eq_append_iff proper alsoProper filled (part begins)).1 goesOn, begins⟩
  · rintro ⟨shared, filled, beside, begins⟩
    exact ⟨shared, filled, (text_eq_append_iff proper alsoProper filled (part begins)).2 beside, begins⟩

/-! ## Sessions -/

/-- Two different pairs of a directory and a user have one text exactly if they run over; and they share a history
file exactly then, or if the bytes of their texts are different and have one digest. -/
theorem shares_file_iff (temporary : PurePath) {first user second other : String}
    (different : (first, user) ≠ (second, other)) :
    (key first user = key second other ↔
      RunsOver first user second other ∨ RunsOver second other first user) ∧
    (file temporary first user = file temporary second other ↔
      (RunsOver first user second other ∨ RunsOver second other first user) ∨
        Digest.Collides (utf8Bytes (key first user)) (utf8Bytes (key second other))) := by
  have keys : key first user = key second other ↔
      RunsOver first user second other ∨ RunsOver second other first user := by
    rw [key_eq_iff, or_iff_right different]
  exact ⟨keys, by rw [file_eq_iff, Digest.ofText_eq_iff, keys]⟩

/-- Sessions that are given no history file share theirs exactly if they are of one user in one directory, if they run
over in directories side by side, or if the bytes of their texts are different and have one digest. -/
theorem sessions_share_history_iff (temporary : PurePath) {first second : Location} (proper : first.IsProper)
    (alsoProper : second.IsProper) (environment elsewhere : Environment)
    (plain : '/' ∉ (currentUser environment).toList) (alsoPlain : '/' ∉ (currentUser elsewhere).toList)
    (prompt another : String) :
    (Session.create environment temporary first prompt none).history =
        (Session.create elsewhere temporary second another none).history ↔
      (first = second ∧ currentUser environment = currentUser elsewhere) ∨
      RunsBeside first (currentUser environment) second (currentUser elsewhere) ∨
      RunsBeside second (currentUser elsewhere) first (currentUser environment) ∨
      Digest.Collides (utf8Bytes (key first.text (currentUser environment)))
        (utf8Bytes (key second.text (currentUser elsewhere))) := by
  have history (around : Environment) (directory : Location) (prompt : String) :
      (Session.create around temporary directory prompt none).history =
        file temporary directory.text (currentUser around) := rfl
  have places : first.text = second.text ↔ first = second :=
    ⟨PurePath.text_injective proper alsoProper, congrArg Location.text⟩
  rw [history, history, file_eq_iff, Digest.ofText_eq_iff, key_eq_iff, Prod.mk.injEq, places,
    runsOver_text_iff proper alsoProper plain, runsOver_text_iff alsoProper proper alsoPlain, or_assoc, or_assoc]

/-- Directories side by side have one text for two users, one of whom is named like the other with what the directory
of the other is longer by in front; so they share a history file. -/
theorem neighbours_share_file :
    ¬(∀ first user second other, FileTree.IsRooted first → FileTree.IsRooted second →
      (first, user) ≠ (second, other) → key first user ≠ key second other) ∧
    ∀ temporary, file temporary "/srv/app" "bob" = file temporary "/srv/appb" "ob" := by
  have same : key "/srv/app" "bob" = key "/srv/appb" "ob" := by decide
  refine ⟨fun law => law "/srv/app" "bob" "/srv/appb" "ob" rfl rfl (by decide) same, ?_⟩
  intro temporary
  rw [file, file, same]

/-- One user has different texts in two directories, and so have two users in one directory. -/
theorem apart_for_one_user :
    ("/srv/app", "alice") ≠ ("/srv/other", "alice") ∧ key "/srv/app" "alice" ≠ key "/srv/other" "alice" ∧
      ("/srv/app", "alice") ≠ ("/srv/app", "bob") ∧ key "/srv/app" "alice" ≠ key "/srv/app" "bob" := by
  have places : ("/srv/app", "alice") ≠ ("/srv/other", "alice") := by decide
  have users : ("/srv/app", "alice") ≠ ("/srv/app", "bob") := by decide
  refine ⟨places, fun same => ?_, users, fun same => ?_⟩
  · rcases (shares_file_iff (.ofText "/tmp") places).1.1 same with goesBeyond | goesBeyond
    · exact goesBeyond.both_differ.2 rfl
    · exact goesBeyond.both_differ.2 rfl
  · rcases (shares_file_iff (.ofText "/tmp") users).1.1 same with goesBeyond | goesBeyond
    · exact goesBeyond.both_differ.1 rfl
    · exact goesBeyond.both_differ.1 rfl

end History

end LiveConsole
