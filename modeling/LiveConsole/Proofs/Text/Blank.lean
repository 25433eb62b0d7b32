import LiveConsole.Text.Blank

/-!
# Texts taken apart

Dropping characters from the end of a text takes away all that are to be dropped, and no more. Splitting a
text at a separator gives texts without it, and joining texts without it gives them back.
-/
namespace LiveConsole.Text

/-- What is dropped from the end of a text is only what is to be dropped. -/
theorem dropEndWhile_append (drop : Char → Bool) (chars : List Char) :
    ∃ dropped, chars = dropEndWhile drop chars ++ dropped ∧ ∀ c ∈ dropped, drop c = true := by
  refine ⟨(chars.reverse.takeWhile drop).reverse, ?_, ?_⟩
  · have parted := List.takeWhile_append_dropWhile (p := drop) (l := chars.reverse)
    have turned := congrArg List.reverse parted
    rw [List.reverse_append, List.reverse_reverse] at turned
    exact turned.symm
  · intro c member
    exact List.all_eq_true.1 List.all_takeWhile c (List.mem_reverse.1 member)

/-- What is kept of a text does not end in a character that is to be dropped. -/
theorem getLast?_dropEndWhile (drop : Char → Bool) (chars : List Char) {last : Char}
    (found : (dropEndWhile drop chars).getLast? = some last) : drop last = false := by
  have kept := List.head?_dropWhile_not drop chars.reverse
  rw [dropEndWhile, List.getLast?_reverse] at found
  rw [found] at kept
  exact kept

/-- What is dropped from the end of two texts in a row is dropped from the second one, where the first one
does not end in what is to be dropped. -/
theorem dropEndWhile_append_of_kept {drop : Char → Bool} {front : List Char} (back : List Char)
    (kept : ∀ last, front.getLast? = some last → drop last = false) :
    dropEndWhile drop (front ++ back) = front ++ dropEndWhile drop back := by
  have whole : front.reverse.dropWhile drop = front.reverse := by
    cases turned : front.reverse with
    | nil => rfl
    | cons last others =>
      have ends : front.getLast? = some last := by
        rw [← List.head?_reverse, turned, List.head?_cons]
      rw [List.dropWhile_cons_of_neg (by simp [kept last ends])]
  unfold dropEndWhile
  rw [List.reverse_append, List.dropWhile_append]
  by_cases empty : (back.reverse.dropWhile drop).isEmpty = true
  · rw [if_pos empty, whole]
    simp [List.isEmpty_iff.1 empty]
  · rw [if_neg empty, List.reverse_append, List.reverse_reverse]

/-- What is dropped from the end of a text leaves a first character that is to be kept. -/
theorem dropEndWhile_cons_of_kept {drop : Char → Bool} {c : Char} (kept : drop c = false)
    (rest : List Char) : dropEndWhile drop (c :: rest) = c :: dropEndWhile drop rest := by
  have single : ∀ last, [c].getLast? = some last → drop last = false := by
    intro last found
    cases found
    exact kept
  exact dropEndWhile_append_of_kept rest single

/-- Dropping line feeds from the end of a text leaves the text before them. -/
theorem dropEndWhile_feeds (chars : List Char) :
    ∃ feeds, chars = dropEndWhile (· == '\n') chars ++ List.replicate feeds '\n' ∧
      (dropEndWhile (· == '\n') chars).getLast? ≠ some '\n' := by
  obtain ⟨dropped, parted, only⟩ := dropEndWhile_append (· == '\n') chars
  have feeds : dropped = List.replicate dropped.length '\n' :=
    List.eq_replicate_of_mem fun c member => by simpa using only c member
  refine ⟨dropped.length, by rw [← feeds]; exact parted, ?_⟩
  intro found
  have kept := getLast?_dropEndWhile (· == '\n') chars found
  cases kept

/-- Where nothing is to be dropped from the front of a text, nothing is from the front of its openings. -/
theorem dropWhile_of_prefix {drop : Char → Bool} {opening chars : List Char}
    (front : opening <+: chars) (kept : chars.dropWhile drop = chars) :
    opening.dropWhile drop = opening := by
  obtain ⟨rest, rfl⟩ := front
  cases opening with
  | nil => rfl
  | cons c opening =>
    by_cases dropped : drop c = true
    · have shorter := (List.dropWhile_suffix (l := opening ++ rest) drop).length_le
      rw [List.cons_append, List.dropWhile_cons_of_pos dropped] at kept
      rw [kept, List.length_cons] at shorter
      omega
    · rw [List.dropWhile_cons_of_neg dropped]

/-- Dropping from the front a second time drops nothing more. -/
theorem dropWhile_dropWhile (drop : Char → Bool) (chars : List Char) :
    (chars.dropWhile drop).dropWhile drop = chars.dropWhile drop := by
  induction chars with
  | nil => rfl
  | cons c chars ih =>
    by_cases dropped : drop c = true
    · rw [List.dropWhile_cons_of_pos dropped, ih]
    · rw [List.dropWhile_cons_of_neg dropped, List.dropWhile_cons_of_neg dropped]

/-- Trimming a text a second time leaves it as it is. -/
theorem trim_trim (chars : List Char) : trim (trim chars) = trim chars := by
  obtain ⟨dropped, parted, _⟩ := dropEndWhile_append isBlank (trimStart chars)
  have front : trim chars <+: trimStart chars := ⟨dropped, parted.symm⟩
  have start : trimStart (trim chars) = trim chars :=
    dropWhile_of_prefix front (dropWhile_dropWhile isBlank chars)
  rw [trim, start, trim, dropEndWhile, dropEndWhile, List.reverse_reverse, dropWhile_dropWhile]

/-- Splitting a text is splitting the list of its characters. -/
theorem splitAt_eq_splitOn (separator : Char) (chars : List Char) :
    splitAt separator chars = chars.splitOn separator := by
  induction chars with
  | nil => rfl
  | cons c rest ih =>
    rw [splitAt, ih, List.splitOn_cons_eq_if_modifyHead]
    by_cases same : c = separator
    · rw [if_pos same, if_pos (by simpa using same)]
    · rw [if_neg same, if_neg (by simpa using same)]
      cases found : rest.splitOn separator with
      | nil => exact absurd found (List.splitOn_ne_nil separator rest)
      | cons piece pieces => rfl

/-- A split text is never empty. -/
theorem splitAt_ne_nil (separator : Char) (chars : List Char) : splitAt separator chars ≠ [] := by
  rw [splitAt_eq_splitOn]
  exact List.splitOn_ne_nil separator chars

/-- Splitting a text at a separator that stands in it splits the texts on both sides. -/
theorem splitAt_append (separator : Char) (before after : List Char) :
    splitAt separator (before ++ separator :: after) =
      splitAt separator before ++ splitAt separator after := by
  induction before with
  | nil => simp [splitAt]
  | cons c before ih =>
    rw [List.cons_append, splitAt, splitAt, ih]
    split
    · rfl
    · cases pieces : splitAt separator before with
      | nil => exact absurd pieces (splitAt_ne_nil separator before)
      | cons piece pieces => rfl

/-- No piece of a split text holds the separator. -/
theorem not_mem_of_mem_splitAt {separator : Char} {chars piece : List Char}
    (member : piece ∈ splitAt separator chars) : separator ∉ piece := by
  induction chars generalizing piece with
  | nil =>
    rw [splitAt, List.mem_singleton] at member
    simp [member]
  | cons c rest ih =>
    rw [splitAt] at member
    by_cases same : c = separator
    · rw [if_pos same] at member
      rcases List.mem_cons.1 member with rfl | later
      · simp
      · exact ih later
    · rw [if_neg same] at member
      cases found : splitAt separator rest with
      | nil =>
        rw [found, List.mem_singleton] at member
        simp [member, Ne.symm same]
      | cons first others =>
        rw [found] at member ih
        rcases List.mem_cons.1 member with rfl | later
        · have none := ih List.mem_cons_self
          simp [none, Ne.symm same]
        · exact ih (List.mem_cons_of_mem first later)

/-- Texts without the separator come back when they are joined with it and split at it again. -/
theorem splitAt_joinWith {separator : Char} {texts : List String} (present : texts ≠ [])
    (free : ∀ text ∈ texts, separator ∉ text.toList) :
    (splitAt separator (joinWith (String.singleton separator) texts).toList).map String.ofList =
      texts := by
  have pieces : ∀ piece ∈ texts.map String.toList, separator ∉ piece := by
    intro piece member
    obtain ⟨text, known, rfl⟩ := List.mem_map.1 member
    exact free text known
  rw [splitAt_eq_splitOn, joinWith, String.toList_intercalate, String.toList_singleton,
    List.splitOn_intercalate separator pieces (by simpa using present), List.map_map]
  simp

end LiveConsole.Text
