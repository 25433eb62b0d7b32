import LiveConsole.Proofs.Dump.Data

/-!
# Dumps of plain data can be read again

The lines of plain data are spelled with a line feed behind each. Behind the blanks of the depth the first
character tells the kind of a datum. A line that is known to be one line ends at the first line feed; a text
ends where its length says. So the spelling of one datum is never the start of the spelling of another one,
whatever follows, by induction on the datum. The main statement is that the text of a dump determines the
data.
-/
namespace LiveConsole.Dump

variable {showIdent : Ident → String}

/-- The characters of lines, with a line feed behind each. -/
def spell (showIdent : Ident → String) (lines : List Line) : List Char :=
  lines.flatMap fun line => (line.render showIdent).toList ++ ['\n']

/-- Lines are spelled one after another. -/
theorem spell_append (first second : List Line) :
    spell showIdent (first ++ second) = spell showIdent first ++ spell showIdent second :=
  List.flatMap_append

/-- A line of a text is spelled as its blanks, the text and a line feed. -/
theorem spell_text (indent : Nat) (text : String) (lines : List Line) :
    spell showIdent (⟨indent, .text text⟩ :: lines) =
      List.replicate indent ' ' ++ (text.toList ++ '\n' :: spell showIdent lines) := by
  simp [spell, Line.render]

/-- The text of a dump with lines is their spelling. -/
theorem toList_render {lines : List Line} (some : lines ≠ []) :
    (render showIdent lines).toList = spell showIdent lines := by
  rw [render, Text.joinWith, String.toList_append, String.toList_intercalate]
  induction lines with
  | nil => exact absurd rfl some
  | cons line rest ih =>
    cases rest with
    | nil => simp [spell]
    | cons next rest =>
      have later := ih (List.cons_ne_nil next rest)
      simp only [spell, List.flatMap_cons, List.map_cons, List.intercalate_cons_cons] at later ⊢
      rw [← later]
      simp

/-! ## One-line texts -/

/-- What stands in front of the first occurrence of a character, and behind it, is known. -/
theorem append_cons_inj {c : Char} {first second rest other : List Char} (free : c ∉ first)
    (alsoFree : c ∉ second) (same : first ++ c :: rest = second ++ c :: other) :
    first = second ∧ rest = other := by
  induction first generalizing second with
  | nil =>
    cases second with
    | nil => exact ⟨rfl, List.tail_eq_of_cons_eq same⟩
    | cons d second =>
      rw [List.nil_append, List.cons_append, List.cons.injEq] at same
      exact absurd (same.1 ▸ List.mem_cons_self) alsoFree
  | cons d first ih =>
    cases second with
    | nil =>
      rw [List.nil_append, List.cons_append, List.cons.injEq] at same
      exact absurd (same.1 ▸ List.mem_cons_self) free
    | cons e second =>
      rw [List.cons_append, List.cons_append, List.cons.injEq] at same
      obtain ⟨front, behind⟩ := ih (fun member => free (List.mem_cons_of_mem d member))
        (fun member => alsoFree (List.mem_cons_of_mem e member)) same.2
      exact ⟨by rw [same.1, front], behind⟩

/-- Texts on one line that are spelled at the same depth are told apart from what follows. -/
theorem spell_text_inj {indent : Nat} {first second : String} {lines others : List Line}
    {rest other : List Char} (oneLine : '\n' ∉ first.toList) (alsoOneLine : '\n' ∉ second.toList)
    (same : spell showIdent (⟨indent, .text first⟩ :: lines) ++ rest =
      spell showIdent (⟨indent, .text second⟩ :: others) ++ other) :
    first = second ∧ spell showIdent lines ++ rest = spell showIdent others ++ other := by
  rw [spell_text, spell_text] at same
  simp only [List.append_assoc, List.cons_append] at same
  have behind := List.append_cancel_left same
  obtain ⟨texts, later⟩ := append_cons_inj oneLine alsoOneLine behind
  exact ⟨String.toList_injective texts, later⟩

/-- A number is written with its digits. -/
theorem toList_toString (number : Nat) : (toString number).toList = Nat.toDigits 10 number := by
  rw [Nat.toString_eq_repr, Nat.repr, String.toList_ofList]

/-- Numbers that are written alike are the same. -/
theorem toString_injective {first second : Nat}
    (same : (toString first).toList = (toString second).toList) : first = second := by
  rw [toList_toString, toList_toString] at same
  have read := congrArg (fun digits => Nat.ofDigitChars 10 digits 0) same
  simpa using read

/-- A number is written with digits only. -/
theorem isDigit_of_mem_toString {number : Nat} {c : Char} (member : c ∈ (toString number).toList) :
    c.isDigit = true := by
  rw [toList_toString] at member
  exact Nat.isDigit_of_mem_toDigits (by decide) (by decide) member

/-- An integer below zero is written with a sign in front. -/
theorem toList_toString_negSucc (number : Nat) :
    (toString (Int.negSucc number)).toList = '-' :: (toString number.succ).toList := by
  have written : toString (Int.negSucc number) = "-" ++ toString number.succ := rfl
  rw [written, String.toList_append]
  rfl

/-- An integer is written with digits and perhaps a sign. -/
theorem isDigit_of_mem_toString_int {number : Int} {c : Char} (member : c ∈ (toString number).toList) :
    c.isDigit = true ∨ c = '-' := by
  cases number with
  | ofNat number => exact .inl (isDigit_of_mem_toString member)
  | negSucc number =>
    rw [toList_toString_negSucc] at member
    rcases List.mem_cons.1 member with rfl | member
    · exact .inr rfl
    · exact .inl (isDigit_of_mem_toString member)

/-- Integers that are written alike are the same. -/
theorem toString_int_injective {first second : Int}
    (same : (toString first).toList = (toString second).toList) : first = second := by
  have signless (number : Nat) : '-' ∉ (toString number).toList := fun member =>
    absurd (isDigit_of_mem_toString member) (by decide)
  have ofNat (number : Nat) : toString (Int.ofNat number) = toString number := rfl
  cases first with
  | ofNat first =>
    cases second with
    | ofNat second =>
      rw [ofNat, ofNat] at same
      rw [toString_injective same]
    | negSucc second =>
      rw [ofNat, toList_toString_negSucc] at same
      exact absurd (same ▸ List.mem_cons_self) (signless first)
  | negSucc first =>
    cases second with
    | ofNat second =>
      rw [ofNat, toList_toString_negSucc] at same
      exact absurd (same ▸ List.mem_cons_self) (signless second)
    | negSucc second =>
      rw [toList_toString_negSucc, toList_toString_negSucc] at same
      have digits := toString_injective (List.tail_eq_of_cons_eq same)
      rw [Nat.succ.inj digits]

/-! ## Labelled data -/

/-- Whether the spelling of a datum, with anything behind it, tells the datum and what is behind it. -/
def Datum.StandsAlone (showIdent : Ident → String) (datum : Datum) : Prop :=
  ∀ (other : Datum) (depth : Nat) (rest behind : List Char),
    spell showIdent (datum.lines depth) ++ rest = spell showIdent (other.lines depth) ++ behind →
    datum = other ∧ rest = behind

variable {labelled told : List (String × Datum)} {depth : Nat} {rest behind : List Char}

/-- Labelled data are told by their spelling if there are as many of them, their labels take one line, and
each of them is told by its own. -/
theorem labelled_inj (alone : ∀ entry ∈ labelled, entry.2.StandsAlone showIdent)
    (oneLine : ∀ entry ∈ labelled, '\n' ∉ entry.1.toList)
    (alsoOneLine : ∀ entry ∈ told, '\n' ∉ entry.1.toList) (counted : labelled.length = told.length)
    (same : spell showIdent (linesOfLabelled depth labelled) ++ rest =
      spell showIdent (linesOfLabelled depth told) ++ behind) : labelled = told ∧ rest = behind := by
  induction labelled generalizing told with
  | nil =>
    cases told with
    | nil => exact ⟨rfl, same⟩
    | cons entry told => cases counted
  | cons entry labelled ih =>
    cases told with
    | nil => cases counted
    | cons other told =>
      obtain ⟨label, datum⟩ := entry
      obtain ⟨tag, shown⟩ := other
      have lineOf (label : String) (free : '\n' ∉ label.toList) : '\n' ∉ s!"[{label}]=>".toList := by
        simp [toString, free]
      rw [linesOfLabelled_cons, linesOfLabelled_cons, labelContent, labelContent, List.cons_append,
        List.cons_append] at same
      obtain ⟨labels, inside⟩ := spell_text_inj (lineOf label (oneLine _ List.mem_cons_self))
        (lineOf tag (alsoOneLine _ List.mem_cons_self)) same
      rw [spell_append, spell_append, List.append_assoc, List.append_assoc] at inside
      obtain ⟨rfl, later⟩ := alone _ List.mem_cons_self shown depth _ _ inside
      obtain ⟨rfl, last⟩ := ih (fun entry member => alone entry (List.mem_cons_of_mem _ member))
        (fun entry member => oneLine entry (List.mem_cons_of_mem _ member))
        (fun entry member => alsoOneLine entry (List.mem_cons_of_mem _ member)) (Nat.succ.inj counted) later
      have tags : label = tag := by
        have chars := congrArg String.toList labels
        exact String.toList_injective (by simpa [toString] using chars)
      exact ⟨by rw [tags], last⟩

/-- A container is told by its spelling if its entries are: its header tells how many there are. -/
theorem container_inj {word opening closing : String}
    (wordOnLine : '\n' ∉ word.toList) (openingOnLine : '\n' ∉ opening.toList)
    (apart : ∃ c tail, opening.toList = c :: tail ∧ c.isDigit = false)
    (alone : ∀ entry ∈ labelled, entry.2.StandsAlone showIdent)
    (oneLine : ∀ entry ∈ labelled, '\n' ∉ entry.1.toList)
    (alsoOneLine : ∀ entry ∈ told, '\n' ∉ entry.1.toList)
    (same : spell showIdent (⟨2 * depth, .text (sizedHeader word labelled.length opening)⟩ ::
        linesOfLabelled (depth + 1) labelled ++ [⟨2 * depth, .text closing⟩]) ++ rest =
      spell showIdent (⟨2 * depth, .text (sizedHeader word told.length opening)⟩ ::
        linesOfLabelled (depth + 1) told ++ [⟨2 * depth, .text closing⟩]) ++ behind) :
    labelled = told ∧ rest = behind := by
  have headerOnLine (count : Nat) : '\n' ∉ (sizedHeader word count opening).toList := by
    intro member
    simp only [sizedHeader, String.toList_append, List.mem_append] at member
    rcases member with (member | member) | member
    · exact wordOnLine member
    · exact absurd (isDigit_of_mem_toString member) (by decide)
    · exact openingOnLine member
  rw [List.cons_append, List.cons_append] at same
  obtain ⟨headers, inside⟩ := spell_text_inj (headerOnLine _) (headerOnLine _) same
  have counted : labelled.length = told.length := by
    obtain ⟨c, tail, found, noDigit⟩ := apart
    have chars := congrArg String.toList headers
    simp only [sizedHeader, String.toList_append, List.append_assoc, found] at chars
    have free (count : Nat) : c ∉ (toString count).toList := fun member => by
      rw [isDigit_of_mem_toString member] at noDigit
      cases noDigit
    exact toString_injective (append_cons_inj (free _) (free _) (List.append_cancel_left chars)).1
  rw [spell_append, spell_append, List.append_assoc, List.append_assoc] at inside
  obtain ⟨rfl, last⟩ := labelled_inj alone oneLine alsoOneLine counted inside
  exact ⟨rfl, List.append_cancel_left last⟩

/-! ## Data of one kind -/

/-- The first character behind the blanks of a datum, which tells its kind. -/
def Datum.initial : Datum → Char
  | .nothing => 'N'
  | .bool _ => 'b'
  | .int _ => 'i'
  | .text _ => 's'
  | .list _ => 'l'
  | .tuple _ => 't'
  | .dict _ => 'd'

/-- Behind the blanks of the depth a datum is spelled from its first character on. -/
theorem exists_spell_lines (showIdent : Ident → String) (datum : Datum) (depth : Nat) :
    ∃ tail, spell showIdent (datum.lines depth) =
      List.replicate (2 * depth) ' ' ++ datum.initial :: tail := by
  have word {text tail : List Char} {c : Char} (front : ∃ more, text = c :: more) :
      ∃ whole, List.replicate (2 * depth) ' ' ++ (text ++ tail) =
        List.replicate (2 * depth) ' ' ++ c :: whole := by
    obtain ⟨more, rfl⟩ := front
    exact ⟨more ++ tail, rfl⟩
  cases datum with
  | nothing =>
    rw [Datum.lines, spell_text]
    exact word ⟨_, rfl⟩
  | bool _ | int _ =>
    rw [Datum.lines, spell_text, String.toList_append, String.toList_append]
    exact word ⟨_, rfl⟩
  | text value =>
    rw [Datum.lines, spell_text, String.toList_append, String.toList_append, sizedHeader,
      String.toList_append, String.toList_append]
    exact word ⟨_, rfl⟩
  | list _ | tuple _ | dict _ =>
    rw [Datum.lines, List.cons_append, spell_text, sizedHeader, String.toList_append,
      String.toList_append]
    exact word ⟨_, rfl⟩

/-- Data that are spelled alike, whatever follows, are of one kind. -/
theorem initial_eq {first second : Datum} (same : spell showIdent (first.lines depth) ++ rest =
    spell showIdent (second.lines depth) ++ behind) : first.initial = second.initial := by
  obtain ⟨tail, spelled⟩ := exists_spell_lines showIdent first depth
  obtain ⟨other, alsoSpelled⟩ := exists_spell_lines showIdent second depth
  rw [spelled, alsoSpelled, List.append_assoc, List.append_assoc] at same
  exact List.head_eq_of_cons_eq (List.append_cancel_left same)

/-- Nothing is told by its spelling. -/
theorem nothing_standsAlone : Datum.nothing.StandsAlone showIdent := by
  intro other depth rest behind same
  have kind := initial_eq same
  cases other with
  | nothing => exact ⟨rfl, List.append_cancel_left same⟩
  | _ => simp [Datum.initial] at kind

/-- A truth value is told by its spelling. -/
theorem bool_standsAlone (value : Bool) : (Datum.bool value).StandsAlone showIdent := by
  intro other depth rest behind same
  have kind := initial_eq same
  cases other with
  | bool shown =>
    have onLine (value : Bool) :
        '\n' ∉ ("bool(" ++ (if value then "True" else "False") ++ ")").toList := by
      cases value <;> decide
    obtain ⟨texts, later⟩ := spell_text_inj (onLine value) (onLine shown) same
    have values : value = shown := by
      revert texts
      cases value <;> cases shown <;> decide
    exact ⟨by rw [values], later⟩
  | _ => simp [Datum.initial] at kind

/-- An integer is told by its spelling. -/
theorem int_standsAlone (value : Int) : (Datum.int value).StandsAlone showIdent := by
  intro other depth rest behind same
  have kind := initial_eq same
  cases other with
  | int shown =>
    have onLine (value : Int) : '\n' ∉ ("int(" ++ toString value ++ ")").toList := by
      intro member
      simp only [String.toList_append, List.mem_append] at member
      rcases member with (member | member) | member
      · exact absurd member (by decide)
      · exact absurd (isDigit_of_mem_toString_int member) (by decide)
      · exact absurd member (by decide)
    obtain ⟨texts, later⟩ := spell_text_inj (onLine value) (onLine shown) same
    have chars := congrArg String.toList texts
    simp only [String.toList_append, List.append_assoc] at chars
    have digits := List.append_cancel_right (List.append_cancel_left chars)
    exact ⟨by rw [toString_int_injective digits], later⟩
  | _ => simp [Datum.initial] at kind

/-- A text is told by its spelling, whatever is in it: its length stands in front. -/
theorem text_standsAlone (value : String) : (Datum.text value).StandsAlone showIdent := by
  intro other depth rest behind same
  have kind := initial_eq same
  cases other with
  | text shown =>
    have spelled (value : String) (more : List Char) :
        spell showIdent ((Datum.text value).lines depth) ++ more =
          List.replicate (2 * depth) ' ' ++ ("str(".toList ++ ((toString value.length).toList ++
            ')' :: (" \"".toList ++ (value.toList ++ ("\"\n".toList ++ more))))) := by
      rw [Datum.lines, spell_text]
      simp [sizedHeader, spell]
    rw [spelled, spelled] at same
    have closed (value : String) : ')' ∉ (toString value.length).toList := fun member =>
      absurd (isDigit_of_mem_toString member) (by decide)
    obtain ⟨lengths, inside⟩ := append_cons_inj (closed value) (closed shown)
      (List.append_cancel_left (List.append_cancel_left same))
    have counted : value.toList.length = shown.toList.length := by
      rw [String.length_toList, String.length_toList]
      exact toString_injective lengths
    obtain ⟨chars, later⟩ := List.append_inj (List.append_cancel_left inside) counted
    exact ⟨by rw [String.toList_injective chars], List.append_cancel_left later⟩
  | _ => simp [Datum.initial] at kind

/-! ## Containers -/

/-- As many numbers as data. -/
theorem length_numberedFrom (number : Nat) (data : List Datum) :
    (numberedFrom number data).length = data.length := by
  rw [numberedFrom, List.length_map, List.length_zipIdx]

/-- Data are told by the same data with numbers. -/
theorem numberedFrom_injective {number : Nat} {data others : List Datum}
    (same : numberedFrom number data = numberedFrom number others) : data = others := by
  have values (data : List Datum) : (numberedFrom number data).map Prod.snd = data := by
    simp [numberedFrom, Function.comp_def]
  rw [← values data, same, values]

/-- Numbered data take labels on one line, and are told by their spelling if the data are. -/
theorem numberedFrom_standAlone {number : Nat} {data : List Datum} {entry : String × Datum}
    (member : entry ∈ numberedFrom number data) : '\n' ∉ entry.1.toList ∧ entry.2 ∈ data := by
  obtain ⟨⟨datum, place⟩, known, rfl⟩ := List.mem_map.1 member
  exact ⟨fun member => absurd (isDigit_of_mem_toString member) (by decide),
    List.fst_mem_of_mem_zipIdx known⟩

/-- A key takes one line. -/
theorem Key.label_onLine (key : Key) : '\n' ∉ key.label.toList := by
  cases key with
  | int value => exact fun member => absurd (isDigit_of_mem_toString_int member) (by decide)
  | text value oneLine => simpa [label] using oneLine

/-- A key is told by its label: only that of a text starts with a quote. -/
theorem Key.label_injective {first second : Key} (same : first.label = second.label) :
    first = second := by
  have chars := congrArg String.toList same
  have noQuote (value : Int) : '"' ∉ (toString value).toList := fun member =>
    absurd (isDigit_of_mem_toString_int member) (by decide)
  have quote (value : String) (free : '\n' ∉ value.toList) : '"' ∈ (text value free).label.toList := by
    simp [label]
  cases first with
  | int value =>
    cases second with
    | int other => rw [toString_int_injective chars]
    | text other free => exact absurd (chars ▸ quote other free) (noQuote value)
  | text value free =>
    cases second with
    | int other => exact absurd (chars ▸ quote value free) (noQuote other)
    | text other alsoFree =>
      simp only [label, String.toList_append] at chars
      have values := List.append_cancel_left (List.append_cancel_right chars)
      cases String.toList_injective values
      rfl

/-- Items between brackets are told by their spelling if each of them is. -/
theorem items_inj {word : String} (wordOnLine : '\n' ∉ word.toList) {items others : List Datum}
    (alone : ∀ datum ∈ items, datum.StandsAlone showIdent)
    (same : spell showIdent (⟨2 * depth, .text (sizedHeader word items.length ") [")⟩ ::
        linesOfItems (depth + 1) 0 items ++ [⟨2 * depth, .text "]"⟩]) ++ rest =
      spell showIdent (⟨2 * depth, .text (sizedHeader word others.length ") [")⟩ ::
        linesOfItems (depth + 1) 0 others ++ [⟨2 * depth, .text "]"⟩]) ++ behind) :
    items = others ∧ rest = behind := by
  rw [linesOfItems_eq, linesOfItems_eq, ← length_numberedFrom 0 items,
    ← length_numberedFrom 0 others] at same
  obtain ⟨entries, later⟩ := container_inj wordOnLine (by decide) ⟨')', _, rfl, rfl⟩
    (fun entry member => alone _ (numberedFrom_standAlone member).2)
    (fun entry member => (numberedFrom_standAlone member).1)
    (fun entry member => (numberedFrom_standAlone member).1) same
  exact ⟨numberedFrom_injective entries, later⟩

/-- A list is told by its spelling if its items are. -/
theorem list_standsAlone {items : List Datum} (alone : ∀ datum ∈ items, datum.StandsAlone showIdent) :
    (Datum.list items).StandsAlone showIdent := by
  intro other depth rest behind same
  have kind := initial_eq same
  cases other with
  | list others =>
    rw [Datum.lines, Datum.lines] at same
    obtain ⟨rfl, later⟩ := items_inj (by decide) alone same
    exact ⟨rfl, later⟩
  | _ => simp [Datum.initial] at kind

/-- A tuple is told by its spelling if its items are. -/
theorem tuple_standsAlone {items : List Datum} (alone : ∀ datum ∈ items, datum.StandsAlone showIdent) :
    (Datum.tuple items).StandsAlone showIdent := by
  intro other depth rest behind same
  have kind := initial_eq same
  cases other with
  | tuple others =>
    rw [Datum.lines, Datum.lines] at same
    obtain ⟨rfl, later⟩ := items_inj (by decide) alone same
    exact ⟨rfl, later⟩
  | _ => simp [Datum.initial] at kind

/-- Entries are told by the data with the labels of their keys. -/
theorem keyed_injective : Function.Injective keyed :=
  List.map_injective_iff.2 fun first second same => by
    obtain ⟨labels, data⟩ := Prod.mk.inj same
    exact Prod.ext (Key.label_injective labels) data

/-- A dictionary is told by its spelling if its values are. -/
theorem dict_standsAlone {entries : List (Key × Datum)}
    (alone : ∀ entry ∈ entries, entry.2.StandsAlone showIdent) :
    (Datum.dict entries).StandsAlone showIdent := by
  intro other depth rest behind same
  have kind := initial_eq same
  cases other with
  | dict others =>
    have counted (entries : List (Key × Datum)) : (keyed entries).length = entries.length :=
      List.length_map _
    have onLine {entries : List (Key × Datum)} {entry : String × Datum} (member : entry ∈ keyed entries) :
        '\n' ∉ entry.1.toList := by
      obtain ⟨⟨key, datum⟩, -, rfl⟩ := List.mem_map.1 member
      exact key.label_onLine
    rw [Datum.lines, Datum.lines, linesOfEntries_eq, linesOfEntries_eq, ← counted entries,
      ← counted others] at same
    obtain ⟨same, later⟩ := container_inj (by decide) (by decide) ⟨')', _, rfl, rfl⟩
      (fun entry member => by
        obtain ⟨⟨key, datum⟩, known, rfl⟩ := List.mem_map.1 member
        exact alone _ known)
      (fun entry member => onLine member) (fun entry member => onLine member) same
    exact ⟨by rw [keyed_injective same], later⟩
  | _ => simp [Datum.initial] at kind

mutual

/-- Every datum is told by its spelling. -/
theorem Datum.standsAlone : ∀ datum : Datum, datum.StandsAlone showIdent
  | .nothing => nothing_standsAlone
  | .bool value => bool_standsAlone value
  | .int value => int_standsAlone value
  | .text value => text_standsAlone value
  | .list items => list_standsAlone (standAlone_of_mem items)
  | .tuple items => tuple_standsAlone (standAlone_of_mem items)
  | .dict entries => dict_standsAlone (standAlone_of_mem_entries entries)

/-- Items are told by their spelling. -/
theorem standAlone_of_mem : ∀ items : List Datum, ∀ datum ∈ items, datum.StandsAlone showIdent
  | [] => fun _ none => absurd none List.not_mem_nil
  | first :: rest => fun datum member =>
    (List.mem_cons.1 member).elim (fun same => same ▸ first.standsAlone)
      (standAlone_of_mem rest datum)

/-- Values under keys are told by their spelling. -/
theorem standAlone_of_mem_entries : ∀ entries : List (Key × Datum), ∀ entry ∈ entries,
    entry.2.StandsAlone showIdent
  | [] => fun _ none => absurd none List.not_mem_nil
  | (_, first) :: rest => fun entry member =>
    (List.mem_cons.1 member).elim (fun same => same ▸ first.standsAlone)
      (standAlone_of_mem_entries rest entry)

end

/-! ## Texts of dumps -/

/-- A datum takes a line. -/
theorem Datum.lines_ne_nil (datum : Datum) (depth : Nat) : datum.lines depth ≠ [] := by
  cases datum <;> simp [Datum.lines]

/--
The text of a dump tells plain data: values that hold data, with no container with entries met twice, and
have dumps with the same text hold the same data, in the same kinds of containers and in the same order.
-/
theorem datum_eq_of_text {first second : Graph} {datum other : Datum} {text : String}
    (holds : HoldsOnce first datum) (alsoHolds : HoldsOnce second other)
    (dumped : text? showIdent first = .ok text) (alsoDumped : text? showIdent second = .ok text) :
    datum = other := by
  have written {graph : Graph} (dumped : text? showIdent graph = .ok text) :
      render showIdent (lines graph) = text := by
    rw [text?, lines?] at dumped
    cases found : survey graph.heap (greatestDepth + 1) graph.root [] with
    | error fault =>
      rw [found] at dumped
      cases dumped
    | ok opened =>
      rw [found] at dumped
      exact Except.ok.inj dumped
  have spelled : spell showIdent (datum.lines 0) = spell showIdent (other.lines 0) := by
    rw [← toList_render (datum.lines_ne_nil 0), ← toList_render (other.lines_ne_nil 0),
      ← holds.lines_eq, ← alsoHolds.lines_eq, written dumped, written alsoDumped]
  exact (datum.standsAlone other 0 [] [] (by rw [spelled])).1

/-- A text with a quote, a line feed and a bracket, in front of a dictionary, kept in different places of two
heaps: the dumps are the same, and so are the data. -/
theorem datum_eq_of_text_elsewhere :
    let told : Datum := .list [.text "a\"\n]",
      .dict [(.int 1, .bool true), (.text "k" (by decide), .tuple [])]]
    let graph (outer middle inner : Ident) : Graph :=
      ⟨⟨[(outer, .list [.text "a\"\n]" ⟨"str"⟩ 0, .ref middle] ⟨"list"⟩),
        (middle, .dict [(.int 1 ⟨"int"⟩ 0, .bool true), (.text "k" ⟨"str"⟩ 0, .ref inner)] ⟨"dict"⟩),
        (inner, .tuple [] ⟨"tuple"⟩)], 9⟩, .ref outer⟩
    let text := "list(2) [\n  [0]=>\n  str(4) \"a\"\n]\"\n  [1]=>\n  dict(2) \x7b\n" ++
      "    [1]=>\n    bool(True)\n    [\"k\"]=>\n    tuple(0) [\n    ]\n  \x7d\n]\n"
    HoldsOnce (graph 1 2 3) told ∧ HoldsOnce (graph 8 5 7) told ∧
      text? toString (graph 1 2 3) = .ok text ∧ text? toString (graph 8 5 7) = .ok text ∧ told = told := by
  intro told graph text
  have holds {outer middle inner : Ident} (apart : [outer, middle, inner].Nodup) :
      HoldsOnce (graph outer middle inner) told := by
    obtain ⟨apart, last, -⟩ : (outer ≠ middle ∧ outer ≠ inner) ∧ middle ≠ inner ∧ True := by
      simpa using apart
    have atOuter : (graph outer middle inner).heap.get? outer =
        some (.list [.text "a\"\n]" ⟨"str"⟩ 0, .ref middle] ⟨"list"⟩) := by
      simp [graph, Heap.get?]
    have atMiddle : (graph outer middle inner).heap.get? middle =
        some (.dict [(.int 1 ⟨"int"⟩ 0, .bool true), (.text "k" ⟨"str"⟩ 0, .ref inner)] ⟨"dict"⟩) := by
      simp [graph, Heap.get?, List.lookup_cons, beq_false_of_ne apart.1.symm]
    have atInner : (graph outer middle inner).heap.get? inner = some (.tuple [] ⟨"tuple"⟩) := by
      simp [graph, Heap.get?, List.lookup_cons, beq_false_of_ne apart.2.symm, beq_false_of_ne last.symm]
    have keys : List.Forall₂ Key.IsAt [.int 1, .text "k" (by decide)]
      [.int 1 ⟨"int"⟩ 0, .text "k" ⟨"str"⟩ 0] := .cons ⟨0, rfl⟩ (.cons ⟨0, rfl⟩ .nil)
    have values := Holds.scalar (.bool true) (Holds.tuple atInner .nil .nil)
    refine ⟨_, Holds.list atOuter (.scalar (.text _ _) (Holds.dict atMiddle keys values .nil)) .nil, ?_⟩
    simpa [marked, Cell.size] using apart.1
  have dumped : text? toString (graph 1 2 3) = .ok text := by decide +kernel
  have alsoDumped : text? toString (graph 8 5 7) = .ok text := by decide +kernel
  have first := holds (show [1, 2, 3].Nodup by decide)
  have second := holds (show [8, 5, 7].Nodup by decide)
  exact ⟨first, second, dumped, alsoDumped, datum_eq_of_text first second dumped alsoDumped⟩

end LiveConsole.Dump
