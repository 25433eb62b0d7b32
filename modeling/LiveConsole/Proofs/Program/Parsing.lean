import LiveConsole.Program.Parse

/-!
# Parts of the grammar

A part of the grammar reads a token list from the front. Nothing inside of a simple statement reads a
semicolon or a line end: what stands behind the first of those plays no part, and it is left behind with
what the part does not read. And a part that is allowed more steps reads no less. All parts are put together
from a few steps, and each of those keeps these properties.
-/
namespace LiveConsole.Program

variable {First Second Third Meaning : Type}

/-- Whether a part of the grammar reads the front of token lists and stops at semicolons and line ends, and
another one reads all that it reads. -/
structure Reads (part again : List Placed → Option (First × List Placed)) : Prop where
  /-- What stands behind a stop plays no part. -/
  upToStop : ∀ front stop rest, stop.token.isStop = true →
    part (front ++ stop :: rest) = (part front).map fun read => (read.1, read.2 ++ stop :: rest)
  /-- The other part reads as much. -/
  more : ∀ tokens read, part tokens = some read → again tokens = some read
  /-- What is left is the end of the token list. -/
  left : ∀ tokens read, part tokens = some read → read.2 <:+ tokens

/-! ## Expected tokens -/

/-- Expected tokens are found in front of a stop or not at all, if none of them is a stop. -/
theorem skip?_append {expected : List Token} (ordinary : expected.all (!·.isStop) = true)
    (front : List Placed) {stop : Placed} (stops : stop.token.isStop = true) (rest : List Placed) :
    skip? expected (front ++ stop :: rest) = (skip? expected front).map (· ++ stop :: rest) := by
  induction expected generalizing front with
  | nil => simp [skip?]
  | cons token others ih =>
    rw [List.all_cons, Bool.and_eq_true, Bool.not_eq_true'] at ordinary
    cases front with
    | nil =>
      have other : stop.token ≠ token := by
        intro same
        rw [same, ordinary.1] at stops
        cases stops
      simp [skip?, other]
    | cons first front =>
      rw [List.cons_append, skip?, skip?]
      split
      · exact ih ordinary.2 front
      · rfl

/-- What follows expected tokens is the end of the token list. -/
theorem skip?_suffix {expected : List Token} {tokens rest : List Placed}
    (found : skip? expected tokens = some rest) : rest <:+ tokens := by
  induction expected generalizing tokens with
  | nil =>
    cases found
    exact List.suffix_refl _
  | cons token others ih =>
    cases tokens with
    | nil => cases found
    | cons first behind =>
      rw [skip?] at found
      split at found
      · exact (ih found).trans (List.suffix_cons _ _)
      · cases found

/-- A stop is a semicolon or a line end. -/
theorem Token.eq_of_isStop {token : Token} (stops : token.isStop = true) :
    token = .mark ";" ∨ token = .lineEnd := by
  unfold Token.isStop at stops
  split at stops
  · exact .inl rfl
  · exact .inr rfl
  · cases stops

/-- A token that is no stop by its meaning is read, if any is. -/
theorem reads_oneOf? (meaning : Token → Option Meaning)
    (ordinary : meaning (.mark ";") = none ∧ meaning .lineEnd = none) :
    Reads (oneOf? meaning) (oneOf? meaning) where
  upToStop front stop rest stops := by
    cases front with
    | nil =>
      have nothing : meaning stop.token = none := by
        rcases Token.eq_of_isStop stops with same | same
        · rw [same, ordinary.1]
        · rw [same, ordinary.2]
      simp [oneOf?, nothing]
    | cons first front => simp [oneOf?, Function.comp_def]
  more _ _ found := found
  left tokens read found := by
    cases tokens with
    | nil => cases found
    | cons first rest =>
      rw [oneOf?, Option.map_eq_some_iff] at found
      obtain ⟨_, -, rfl⟩ := found
      exact List.suffix_cons _ _

/-! ## Steps that parts are put together from -/

namespace Reads

variable {part again other otherAgain : List Placed → Option (First × List Placed)}

/-- A part that reads nothing. -/
theorem fails (again : List Placed → Option (First × List Placed)) : Reads (fun _ => none) again where
  upToStop _ _ _ _ := rfl
  more _ _ found := by cases found
  left _ _ found := by cases found

/-- A part that is done. -/
theorem done (result : First) :
    Reads (fun tokens => some (result, tokens)) fun tokens => some (result, tokens) where
  upToStop _ _ _ _ := rfl
  more _ _ found := found
  left tokens _ found := by
    cases found
    exact List.suffix_refl tokens

/-- A part by another definition. -/
theorem of_eq (reads : Reads part again) (same : ∀ tokens, other tokens = part tokens)
    (alsoSame : ∀ tokens, otherAgain tokens = again tokens) : Reads other otherAgain := by
  rw [funext same, funext alsoSame]
  exact reads

/-- A part behind another one. -/
theorem bind {next nextAgain : First → List Placed → Option (Second × List Placed)}
    (first : Reads part again) (later : ∀ result, Reads (next result) (nextAgain result)) :
    Reads (fun tokens => do
        let (result, rest) ← part tokens
        next result rest)
      fun tokens => do
        let (result, rest) ← again tokens
        nextAgain result rest where
  upToStop front stop rest stops := by
    rw [first.upToStop front stop rest stops]
    cases part front with
    | none => rfl
    | some read => exact (later read.1).upToStop read.2 stop rest stops
  more tokens read found := by
    simp only [Option.bind_eq_bind, Option.bind_eq_some_iff] at found ⊢
    obtain ⟨middle, before, behind⟩ := found
    exact ⟨middle, first.more tokens middle before, (later middle.1).more middle.2 read behind⟩
  left tokens read found := by
    simp only [Option.bind_eq_bind, Option.bind_eq_some_iff] at found
    obtain ⟨middle, before, behind⟩ := found
    exact ((later middle.1).left middle.2 read behind).trans (first.left tokens middle before)

/-- A part behind expected tokens. -/
theorem expect (expected : List Token) (ordinary : expected.all (!·.isStop) = true) (reads : Reads part again) :
    Reads (fun tokens => do
        let rest ← skip? expected tokens
        part rest)
      fun tokens => do
        let rest ← skip? expected tokens
        again rest where
  upToStop front stop rest stops := by
    rw [skip?_append ordinary front stops]
    cases skip? expected front with
    | none => rfl
    | some behind => exact reads.upToStop behind stop rest stops
  more tokens read found := by
    simp only [Option.bind_eq_bind, Option.bind_eq_some_iff] at found ⊢
    obtain ⟨middle, before, behind⟩ := found
    exact ⟨middle, before, reads.more middle read behind⟩
  left tokens read found := by
    simp only [Option.bind_eq_bind, Option.bind_eq_some_iff] at found
    obtain ⟨middle, before, behind⟩ := found
    exact (reads.left middle read behind).trans (skip?_suffix before)

/-- A part behind expected tokens, or another one where they are missing. -/
theorem ifNext (expected : List Token) (ordinary : expected.all (!·.isStop) = true)
    (reads : Reads part again) (otherwise : Reads other otherAgain) :
    Reads (fun tokens => if let some rest := skip? expected tokens then part rest else other tokens)
      fun tokens => if let some rest := skip? expected tokens then again rest else otherAgain tokens where
  upToStop front stop rest stops := by
    rw [skip?_append ordinary front stops]
    cases skip? expected front with
    | none => exact otherwise.upToStop front stop rest stops
    | some behind => exact reads.upToStop behind stop rest stops
  more tokens read found := by
    cases skipped : skip? expected tokens with
    | none =>
      rw [skipped] at found
      exact otherwise.more tokens read found
    | some behind =>
      rw [skipped] at found
      exact reads.more behind read found
  left tokens read found := by
    cases skipped : skip? expected tokens with
    | none =>
      rw [skipped] at found
      exact otherwise.left tokens read found
    | some behind =>
      rw [skipped] at found
      exact (reads.left behind read found).trans (skip?_suffix skipped)

/-- A part behind one that takes no steps, or another part where that one reads nothing. -/
theorem ifRead {look : List Placed → Option (Second × List Placed)}
    {next nextAgain : Second → List Placed → Option (First × List Placed)} (looks : Reads look look)
    (later : ∀ result, Reads (next result) (nextAgain result)) (otherwise : Reads other otherAgain) :
    Reads (fun tokens => if let some (result, rest) := look tokens then next result rest else other tokens)
      fun tokens =>
        if let some (result, rest) := look tokens then nextAgain result rest else otherAgain tokens where
  upToStop front stop rest stops := by
    rw [looks.upToStop front stop rest stops]
    cases look front with
    | none => exact otherwise.upToStop front stop rest stops
    | some read => exact (later read.1).upToStop read.2 stop rest stops
  more tokens read found := by
    cases looked : look tokens with
    | none =>
      rw [looked] at found
      exact otherwise.more tokens read found
    | some middle =>
      rw [looked] at found
      exact (later middle.1).more middle.2 read found
  left tokens read found := by
    cases looked : look tokens with
    | none =>
      rw [looked] at found
      exact otherwise.left tokens read found
    | some middle =>
      rw [looked] at found
      exact ((later middle.1).left middle.2 read found).trans (looks.left tokens middle looked)

/-- One of two parts, by a condition on what stands in front of the first stop. -/
theorem ifThen {condition : List Placed → Bool}
    (same : ∀ front stop rest, stop.token.isStop = true →
      condition (front ++ stop :: rest) = condition front)
    (reads : Reads part again) (otherwise : Reads other otherAgain) :
    Reads (fun tokens => if condition tokens then part tokens else other tokens)
      fun tokens => if condition tokens then again tokens else otherAgain tokens where
  upToStop front stop rest stops := by
    rw [same front stop rest stops]
    cases condition front with
    | false => exact otherwise.upToStop front stop rest stops
    | true => exact reads.upToStop front stop rest stops
  more tokens read found := by
    cases held : condition tokens with
    | false =>
      rw [held] at found
      exact otherwise.more tokens read found
    | true =>
      rw [held] at found
      exact reads.more tokens read found
  left tokens read found := by
    cases held : condition tokens with
    | false =>
      rw [held] at found
      exact otherwise.left tokens read found
    | true =>
      rw [held] at found
      exact reads.left tokens read found

/-- A part that is told the line that it starts on, and reads nothing where there is nothing. -/
theorem onLine {part again : Nat → List Placed → Option (First × List Placed)}
    (reads : ∀ line, Reads (part line) (again line)) (nothing : ∀ line, part line [] = none) :
    Reads (fun tokens => part (lineOf tokens) tokens) fun tokens => again (lineOf tokens) tokens where
  upToStop front stop rest stops := by
    cases front with
    | nil =>
      rw [(reads _).upToStop [] stop rest stops, nothing, nothing]
    | cons first front => exact (reads first.place.line).upToStop (first :: front) stop rest stops
  more tokens read found := (reads _).more tokens read found
  left tokens read found := (reads _).left tokens read found

/-- A part that goes on with a value, if there is one. -/
theorem given (value : Option Second) {next nextAgain : Second → List Placed → Option (First × List Placed)}
    (reads : ∀ result, Reads (next result) (nextAgain result)) :
    Reads (fun tokens => value >>= fun result => next result tokens)
      fun tokens => value >>= fun result => nextAgain result tokens := by
  cases value with
  | none => exact fails _
  | some result => exact reads result

end Reads

/-! ## Expressions -/

/-- The comparison in front of a token list. -/
theorem reads_comparison? : Reads comparison? comparison? :=
  .of_eq
    (.ifRead (reads_oneOf? Token.comparison? ⟨rfl, rfl⟩) (fun comparison => .done comparison) <|
      .ifNext [.keyword "not", .keyword "in"] rfl (.done .notMember) <|
        .ifNext [.keyword "is", .keyword "not"] rfl (.done .notSame) <|
          .expect [.keyword "is"] rfl (.done .same))
    (fun tokens => by rw [comparison?]; cases oneOf? Token.comparison? tokens <;> rfl)
    fun tokens => by rw [comparison?]; cases oneOf? Token.comparison? tokens <;> rfl

/-- Quoted texts are joined up to a stop at most. -/
theorem joinTexts_append (front : List Placed) {stop : Placed} (stops : stop.token.isStop = true)
    (rest : List Placed) :
    joinTexts (front ++ stop :: rest) = ((joinTexts front).1, (joinTexts front).2 ++ stop :: rest) := by
  induction front with
  | nil =>
    have noText : stop.token.text? = none := by
      rcases Token.eq_of_isStop stops with same | same <;> rw [same] <;> rfl
    simp [joinTexts, noText]
  | cons first front ih =>
    rw [List.cons_append, joinTexts, joinTexts, ih]
    split <;> rfl

/-- What follows joined texts is the end of the token list. -/
theorem joinTexts_suffix (tokens : List Placed) : (joinTexts tokens).2 <:+ tokens := by
  induction tokens with
  | nil => exact List.suffix_refl _
  | cons first rest ih =>
    rw [joinTexts]
    split
    · exact ih.trans (List.suffix_cons _ _)
    · exact List.suffix_refl _

/-- The joined texts in front of a token list. -/
theorem reads_joinTexts : Reads (fun tokens => some (joinTexts tokens)) fun tokens => some (joinTexts tokens) where
  upToStop front stop rest stops := by rw [joinTexts_append front stops, Option.map_some]
  more _ _ found := found
  left tokens _ found := by
    cases found
    exact joinTexts_suffix tokens

/-- The quoted texts in front of a token list. -/
theorem reads_quoted? : Reads quoted? quoted? :=
  .of_eq
    ((reads_oneOf? Token.text? ⟨rfl, rfl⟩).bind fun value => reads_joinTexts.bind fun more => .done (value ++ more))
    (fun _ => rfl) fun _ => rfl

/-- Whether a token stands where no statement and no value may open. -/
def Token.opensNothing : Token → Bool
  | mark ";" => true
  | lineEnd => true
  | keyword "return" => true
  | _ => false

/-- Whether no value can be read from a token list, by what stands in front. -/
def opensNothing (tokens : List Placed) : Bool := tokens.head?.all (·.token.opensNothing)

/-- A token that may stand in front of something is not found where nothing opens. -/
theorem skip?_of_opensNothing {tokens : List Placed} (closed : opensNothing tokens = true) {token : Token}
    (opens : token.opensNothing = false) (others : List Token) : skip? (token :: others) tokens = none := by
  cases tokens with
  | nil => rfl
  | cons first rest =>
    rw [skip?, if_neg]
    rintro rfl
    rw [opensNothing, List.head?_cons, Option.all_some, opens] at closed
    cases closed

/-- A token that means something is not found where nothing opens. -/
theorem oneOf?_of_opensNothing {tokens : List Placed} (closed : opensNothing tokens = true)
    {meaning : Token → Option Meaning} (idle : ∀ token, token.opensNothing = true → meaning token = none) :
    oneOf? meaning tokens = none := by
  cases tokens with
  | nil => rfl
  | cons first rest => rw [oneOf?, idle first.token closed, Option.map_none]

/-- No value without operators is read where none opens. -/
theorem atom_of_opensNothing {tokens : List Placed} (closed : opensNothing tokens = true) (steps : Nat) :
    atom steps tokens = none := by
  have noLiteral : oneOf? Token.expression? tokens = none := oneOf?_of_opensNothing closed fun token idle => by
    unfold Token.opensNothing at idle
    split at idle <;> first | rfl | cases idle
  have noText : oneOf? Token.text? tokens = none := oneOf?_of_opensNothing closed fun token idle => by
    unfold Token.opensNothing at idle
    split at idle <;> first | rfl | cases idle
  cases steps with
  | zero => rfl
  | succ steps =>
    rw [atom, noLiteral, quoted?, noText, Option.bind_eq_bind, Option.bind_none,
      skip?_of_opensNothing closed rfl, skip?_of_opensNothing closed rfl, skip?_of_opensNothing closed rfl,
      skip?_of_opensNothing closed rfl]
    rfl

mutual

/-- No value is read where none opens. -/
theorem disjunction_of_opensNothing {tokens : List Placed} (closed : opensNothing tokens = true) :
    ∀ steps, disjunction steps tokens = none
  | 0 => rfl
  | steps + 1 => by rw [disjunction, conjunction_of_opensNothing closed steps]; rfl

theorem conjunction_of_opensNothing {tokens : List Placed} (closed : opensNothing tokens = true) :
    ∀ steps, conjunction steps tokens = none
  | 0 => rfl
  | steps + 1 => by rw [conjunction, inversion_of_opensNothing closed steps]; rfl

theorem inversion_of_opensNothing {tokens : List Placed} (closed : opensNothing tokens = true) :
    ∀ steps, inversion steps tokens = none
  | 0 => rfl
  | steps + 1 => by
    rw [inversion, skip?_of_opensNothing closed rfl, sum_of_opensNothing closed steps]; rfl

theorem sum_of_opensNothing {tokens : List Placed} (closed : opensNothing tokens = true) :
    ∀ steps, sum steps tokens = none
  | 0 => rfl
  | steps + 1 => by rw [sum, product_of_opensNothing closed steps]; rfl

theorem product_of_opensNothing {tokens : List Placed} (closed : opensNothing tokens = true) :
    ∀ steps, product steps tokens = none
  | 0 => rfl
  | steps + 1 => by rw [product, factor_of_opensNothing closed steps]; rfl

theorem factor_of_opensNothing {tokens : List Placed} (closed : opensNothing tokens = true) :
    ∀ steps, factor steps tokens = none
  | 0 => rfl
  | steps + 1 => by
    rw [factor, skip?_of_opensNothing closed rfl, skip?_of_opensNothing closed rfl,
      atom_of_opensNothing closed steps]; rfl

end

mutual

/-- Alternatives. -/
theorem reads_disjunction : ∀ steps more, steps ≤ more → Reads (disjunction steps) (disjunction more)
  | 0, _, _ => .fails _
  | steps + 1, more + 1, enough =>
    have enough := Nat.le_of_succ_le_succ enough
    .of_eq
      ((reads_conjunction steps more enough).bind fun left =>
        .ifNext [.keyword "or"] rfl
          ((reads_disjunction steps more enough).bind fun right => .done (.or left right)) (.done left))
      (fun _ => rfl) fun _ => rfl

/-- Requirements. -/
theorem reads_conjunction : ∀ steps more, steps ≤ more → Reads (conjunction steps) (conjunction more)
  | 0, _, _ => .fails _
  | steps + 1, more + 1, enough =>
    have enough := Nat.le_of_succ_le_succ enough
    .of_eq
      ((reads_inversion steps more enough).bind fun left =>
        .ifNext [.keyword "and"] rfl
          ((reads_conjunction steps more enough).bind fun right => .done (.and left right)) (.done left))
      (fun _ => rfl) fun _ => rfl

/-- Comparisons and their opposites. -/
theorem reads_inversion : ∀ steps more, steps ≤ more → Reads (inversion steps) (inversion more)
  | 0, _, _ => .fails _
  | steps + 1, more + 1, enough =>
    have enough := Nat.le_of_succ_le_succ enough
    .of_eq
      (.ifNext [.keyword "not"] rfl
        ((reads_inversion steps more enough).bind fun operand => .done (.not operand))
        (.onLine (fun line =>
          (reads_sum steps more enough).bind fun first =>
            (reads_comparisonTail steps more enough).bind fun tail =>
              .done (if tail.1.isEmpty then first else .compare line first tail.1 tail.2))
          fun line => by rw [sum_of_opensNothing rfl steps]; rfl))
      (fun _ => rfl) fun _ => rfl

/-- What is compared. -/
theorem reads_comparisonTail : ∀ steps more, steps ≤ more →
    Reads (comparisonTail steps) (comparisonTail more)
  | 0, _, _ => .fails _
  | steps + 1, more + 1, enough =>
    have enough := Nat.le_of_succ_le_succ enough
    .of_eq
      (.ifRead reads_comparison? (fun comparison =>
        (reads_sum steps more enough).bind fun other =>
          (reads_comparisonTail steps more enough).bind fun tail =>
            .done (comparison :: tail.1, other :: tail.2))
        (.done ([], [])))
      (fun tokens => by rw [comparisonTail]; cases comparison? tokens <;> rfl)
      fun tokens => by rw [comparisonTail]; cases comparison? tokens <;> rfl

/-- Sums. -/
theorem reads_sum : ∀ steps more, steps ≤ more → Reads (sum steps) (sum more)
  | 0, _, _ => .fails _
  | steps + 1, more + 1, enough =>
    have enough := Nat.le_of_succ_le_succ enough
    .of_eq ((reads_product steps more enough).bind fun first => reads_sumTail steps more enough first)
      (fun _ => rfl) fun _ => rfl

/-- What is added. -/
theorem reads_sumTail : ∀ steps more, steps ≤ more → ∀ left, Reads (sumTail steps left) (sumTail more left)
  | 0, _, _, _ => .fails _
  | steps + 1, more + 1, enough, left =>
    have enough := Nat.le_of_succ_le_succ enough
    .of_eq
      (.ifRead (reads_oneOf? Token.additive? ⟨rfl, rfl⟩) (fun operator =>
        (reads_product steps more enough).bind fun right =>
          reads_sumTail steps more enough (.binary operator left right))
        (.done left))
      (fun tokens => by rw [sumTail]; cases oneOf? Token.additive? tokens <;> rfl)
      fun tokens => by rw [sumTail]; cases oneOf? Token.additive? tokens <;> rfl

/-- Products. -/
theorem reads_product : ∀ steps more, steps ≤ more → Reads (product steps) (product more)
  | 0, _, _ => .fails _
  | steps + 1, more + 1, enough =>
    have enough := Nat.le_of_succ_le_succ enough
    .of_eq ((reads_factor steps more enough).bind fun first => reads_productTail steps more enough first)
      (fun _ => rfl) fun _ => rfl

/-- What is multiplied with. -/
theorem reads_productTail : ∀ steps more, steps ≤ more → ∀ left,
    Reads (productTail steps left) (productTail more left)
  | 0, _, _, _ => .fails _
  | steps + 1, more + 1, enough, left =>
    have enough := Nat.le_of_succ_le_succ enough
    .of_eq
      (.ifRead (reads_oneOf? Token.multiplicative? ⟨rfl, rfl⟩) (fun operator =>
        (reads_factor steps more enough).bind fun right =>
          reads_productTail steps more enough (.binary operator left right))
        (.done left))
      (fun tokens => by rw [productTail]; cases oneOf? Token.multiplicative? tokens <;> rfl)
      fun tokens => by rw [productTail]; cases oneOf? Token.multiplicative? tokens <;> rfl

/-- Values with signs. -/
theorem reads_factor : ∀ steps more, steps ≤ more → Reads (factor steps) (factor more)
  | 0, _, _ => .fails _
  | steps + 1, more + 1, enough =>
    have enough := Nat.le_of_succ_le_succ enough
    .of_eq
      (.ifNext [.mark "-"] rfl
        ((reads_factor steps more enough).bind fun operand => .done (.negate operand)) <|
        .ifNext [.mark "+"] rfl
          ((reads_factor steps more enough).bind fun operand => .done (.plus operand)) <|
          .onLine (fun line =>
            (reads_atom steps more enough).bind fun first => reads_callTail steps more enough line first)
            fun line => by rw [atom_of_opensNothing rfl steps]; rfl)
      (fun _ => rfl) fun _ => rfl

/-- Calls. -/
theorem reads_callTail : ∀ steps more, steps ≤ more → ∀ line callee,
    Reads (callTail steps line callee) (callTail more line callee)
  | 0, _, _, _, _ => .fails _
  | steps + 1, more + 1, enough, line, callee =>
    have enough := Nat.le_of_succ_le_succ enough
    .of_eq
      (.ifNext [.mark "("] rfl
        ((reads_commaList steps more enough rfl).bind fun list =>
          reads_callTail steps more enough line (.call line callee list.1)) <|
        .ifNext [.mark ".", .name "append", .mark "("] rfl
          ((reads_commaList steps more enough rfl).bind fun list =>
            reads_callTail steps more enough line (.append callee list.1))
          (.done callee))
      (fun _ => rfl) fun _ => rfl

/-- Values without operators. -/
theorem reads_atom : ∀ steps more, steps ≤ more → Reads (atom steps) (atom more)
  | 0, _, _ => .fails _
  | steps + 1, more + 1, enough =>
    have enough := Nat.le_of_succ_le_succ enough
    .of_eq
      (.ifRead (reads_oneOf? Token.expression? ⟨rfl, rfl⟩) (fun value => .done value) <|
        .ifRead reads_quoted? (fun value => .done (.constant (.text value))) <|
          .ifNext [.mark "("] rfl
            ((reads_commaList steps more enough rfl).bind fun list =>
              .done (valueOfItems list.1 list.2)) <|
            .ifNext [.mark "["] rfl
              ((reads_commaList steps more enough rfl).bind fun list => .done (.list list.1)) <|
              .ifNext [.mark "\x7b", .mark "\x7d"] rfl (.done (.dict [])) <|
                .expect [.mark "\x7b"] rfl <|
                  (reads_disjunction steps more enough).bind fun first =>
                    .ifNext [.mark ":"] rfl
                      ((reads_pairs steps more enough first).bind fun items => .done (.dict items)) <|
                      .ifNext [.mark ","] rfl
                        ((reads_commaList steps more enough rfl).bind fun list =>
                          .done (.set (first :: list.1))) <|
                        .expect [.mark "\x7d"] rfl (.done (.set [first])))
      (fun tokens => by
        rw [atom]
        cases oneOf? Token.expression? tokens <;> cases quoted? tokens <;> rfl)
      fun tokens => by
        rw [atom]
        cases oneOf? Token.expression? tokens <;> cases quoted? tokens <;> rfl

/-- Expressions up to a bracket. -/
theorem reads_commaList : ∀ steps more, steps ≤ more → ∀ {closing},
    ([Token.mark closing].all (!·.isStop)) = true → Reads (commaList steps closing) (commaList more closing)
  | 0, _, _, _, _ => .fails _
  | steps + 1, more + 1, enough, closing, ordinary =>
    have enough := Nat.le_of_succ_le_succ enough
    .of_eq
      (.ifNext [.mark closing] ordinary (.done ([], false)) (reads_commaItems steps more enough ordinary))
      (fun _ => rfl) fun _ => rfl

/-- One or more expressions up to a bracket. -/
theorem reads_commaItems : ∀ steps more, steps ≤ more → ∀ {closing},
    ([Token.mark closing].all (!·.isStop)) = true → Reads (commaItems steps closing) (commaItems more closing)
  | 0, _, _, _, _ => .fails _
  | steps + 1, more + 1, enough, closing, ordinary =>
    have enough := Nat.le_of_succ_le_succ enough
    .of_eq
      ((reads_disjunction steps more enough).bind fun first =>
        .ifNext [.mark ",", .mark closing] ordinary (.done ([first], true)) <|
          .ifNext [.mark ","] rfl
            ((reads_commaItems steps more enough ordinary).bind fun list =>
              .done (first :: list.1, list.2)) <|
            .expect [.mark closing] ordinary (.done ([first], false)))
      (fun _ => rfl) fun _ => rfl

/-- Keys and values. -/
theorem reads_pairs : ∀ steps more, steps ≤ more → ∀ key, Reads (pairs steps key) (pairs more key)
  | 0, _, _, _ => .fails _
  | steps + 1, more + 1, enough, key =>
    have enough := Nat.le_of_succ_le_succ enough
    .of_eq
      ((reads_disjunction steps more enough).bind fun value =>
        .ifNext [.mark "\x7d"] rfl (.done [key, value]) <|
          .ifNext [.mark ",", .mark "\x7d"] rfl (.done [key, value]) <|
            .expect [.mark ","] rfl <|
              (reads_disjunction steps more enough).bind fun next =>
                .expect [.mark ":"] rfl <|
                  (reads_pairs steps more enough next).bind fun items => .done (key :: value :: items))
      (fun _ => rfl) fun _ => rfl

end

/-! ## Statements -/

/-- Whether a simple statement ends is known in front of a stop. -/
theorem endsSimple_append (front : List Placed) (stop : Placed) (rest : List Placed)
    (stops : stop.token.isStop = true) : endsSimple (front ++ stop :: rest) = endsSimple front := by
  cases front with
  | nil => simp [endsSimple, stops]
  | cons first front => rfl

/-- Whether a token that is no stop comes first is known in front of a stop. -/
theorem opensWith_append {token : Token} (ordinary : token.isStop = false) (front : List Placed)
    (stop : Placed) (rest : List Placed) (stops : stop.token.isStop = true) :
    opensWith token (front ++ stop :: rest) = opensWith token front := by
  cases front with
  | nil =>
    have other : stop.token ≠ token := by
      rintro rfl
      rw [ordinary] at stops
      cases stops
    simp [opensWith, other]
  | cons first front => rfl

/-- Whether a comma is the last one is known in front of a stop. -/
theorem endsItems_append (front : List Placed) (stop : Placed) (rest : List Placed)
    (stops : stop.token.isStop = true) : endsItems (front ++ stop :: rest) = endsItems front := by
  rw [endsItems, endsSimple_append front stop rest stops, opensWith_append rfl front stop rest stops, endsItems]

/-- Expressions outside brackets. -/
theorem reads_bareItems {steps more : Nat} (enough : steps ≤ more) : ∀ fuel moreFuel, fuel ≤ moreFuel →
    Reads (bareItems fuel steps) (bareItems moreFuel more)
  | 0, _, _ => .fails _
  | fuel + 1, moreFuel + 1, enoughFuel =>
    have enoughFuel := Nat.le_of_succ_le_succ enoughFuel
    .of_eq
      ((reads_disjunction steps more enough).bind fun first =>
        .ifNext [.mark ","] rfl
          (.ifThen endsItems_append (.done ([first], true)) <|
            (reads_bareItems enough fuel moreFuel enoughFuel).bind fun list =>
              .done (first :: list.1, true))
          (.done ([first], false)))
      (fun _ => rfl) fun _ => rfl

variable {steps more : Nat}

/-- A value outside brackets. -/
theorem reads_bareValue (enough : steps ≤ more) : Reads (bareValue steps) (bareValue more) :=
  .of_eq ((reads_bareItems enough steps more enough).bind fun list => .done (valueOfItems list.1 list.2))
    (fun _ => rfl) fun _ => rfl

/-- Names. -/
theorem reads_nameList : ∀ steps more, steps ≤ more → Reads (nameList steps) (nameList more)
  | 0, _, _ => .fails _
  | steps + 1, more + 1, enough =>
    have enough := Nat.le_of_succ_le_succ enough
    .of_eq
      ((reads_oneOf? Token.name? ⟨rfl, rfl⟩).bind fun first =>
        .ifNext [.mark ","] rfl
          ((reads_nameList steps more enough).bind fun names => .done (first :: names)) (.done [first]))
      (fun _ => rfl) fun _ => rfl

mutual

/-- Names to unbind. -/
theorem reads_unbound : ∀ steps more, steps ≤ more → Reads (unbound steps) (unbound more)
  | 0, _, _ => .fails _
  | steps + 1, more + 1, enough =>
    have enough := Nat.le_of_succ_le_succ enough
    .of_eq
      (.ifRead (reads_oneOf? Token.name? ⟨rfl, rfl⟩) (fun name => .done [name]) <|
        .ifNext [.mark "("] rfl (reads_unboundUpTo steps more enough rfl) <|
          .expect [.mark "["] rfl (reads_unboundUpTo steps more enough rfl))
      (fun tokens => by rw [unbound]; cases oneOf? Token.name? tokens <;> rfl)
      fun tokens => by rw [unbound]; cases oneOf? Token.name? tokens <;> rfl

/-- Names to unbind up to a bracket. -/
theorem reads_unboundUpTo : ∀ steps more, steps ≤ more → ∀ {closing},
    ([Token.mark closing].all (!·.isStop)) = true →
      Reads (unboundUpTo steps closing) (unboundUpTo more closing)
  | 0, _, _, _, _ => .fails _
  | steps + 1, more + 1, enough, closing, ordinary =>
    have enough := Nat.le_of_succ_le_succ enough
    .of_eq
      (.ifNext [.mark closing] ordinary (.done []) <|
        (reads_unbound steps more enough).bind fun first =>
          .ifNext [.mark ","] rfl
            ((reads_unboundUpTo steps more enough ordinary).bind fun others => .done (first ++ others)) <|
            .expect [.mark closing] ordinary (.done first))
      (fun _ => rfl) fun _ => rfl

end

/-- Names to unbind outside brackets. -/
theorem reads_unboundList : ∀ steps more, steps ≤ more → Reads (unboundList steps) (unboundList more)
  | 0, _, _ => .fails _
  | steps + 1, more + 1, enough =>
    have enough := Nat.le_of_succ_le_succ enough
    .of_eq
      ((reads_unbound steps more enough).bind fun first =>
        .ifNext [.mark ","] rfl
          (.ifThen endsSimple_append (.done first) <|
            (reads_unboundList steps more enough).bind fun others => .done (first ++ others))
          (.done first))
      (fun _ => rfl) fun _ => rfl

/-- Names with points. -/
theorem reads_dottedName : ∀ steps more, steps ≤ more → Reads (dottedName steps) (dottedName more)
  | 0, _, _ => .fails _
  | steps + 1, more + 1, enough =>
    have enough := Nat.le_of_succ_le_succ enough
    .of_eq
      ((reads_oneOf? Token.name? ⟨rfl, rfl⟩).bind fun first =>
        .ifNext [.mark "."] rfl
          ((reads_dottedName steps more enough).bind fun name => .done (first ++ "." ++ name))
          (.done first))
      (fun _ => rfl) fun _ => rfl

/-- Names of modules. -/
theorem reads_moduleList : ∀ steps more, steps ≤ more → Reads (moduleList steps) (moduleList more)
  | 0, _, _ => .fails _
  | steps + 1, more + 1, enough =>
    have enough := Nat.le_of_succ_le_succ enough
    .of_eq
      ((reads_dottedName steps more enough).bind fun first =>
        .ifNext [.mark ","] rfl
          ((reads_moduleList steps more enough).bind fun names => .done (first :: names)) (.done [first]))
      (fun _ => rfl) fun _ => rfl

/-- Targets and values of assignments. -/
theorem reads_assignment (enough : steps ≤ more) : ∀ fuel moreFuel, fuel ≤ moreFuel → ∀ target,
    Reads (assignment fuel steps target) (assignment moreFuel more target)
  | 0, _, _, _ => .fails _
  | fuel + 1, moreFuel + 1, enoughFuel, target =>
    have enoughFuel := Nat.le_of_succ_le_succ enoughFuel
    .of_eq
      ((reads_bareValue enough).bind fun value =>
        .ifNext [.mark "="] rfl
          (.given value.name? fun next =>
            (reads_assignment enough fuel moreFuel enoughFuel next).bind fun whole =>
              .done (target :: whole.1, whole.2))
          (.done ([target], value)))
      (fun _ => rfl) fun _ => rfl

/-- What a value in front of a statement makes of it. -/
theorem reads_behindValue (enough : steps ≤ more) (value : Expr) :
    Reads (behindValue steps value) (behindValue more value) := by
  unfold behindValue
  cases value.name? with
  | none => exact .done (Simple.expression value)
  | some target =>
    exact .of_eq
      (.ifNext [.mark "="] rfl
        ((reads_assignment enough steps more enough target).bind fun whole =>
          .done (Simple.assign whole.1 whole.2)) <|
        .ifRead (reads_oneOf? Token.updating? ⟨rfl, rfl⟩) (fun operator =>
          (reads_bareValue enough).bind fun operand => .done (Simple.update target operator operand))
          (.done (Simple.expression value)))
      (fun tokens => by cases oneOf? Token.updating? tokens <;> rfl)
      fun tokens => by cases oneOf? Token.updating? tokens <;> rfl

/-- Statements that open with a value. -/
theorem reads_valueStatement (enough : steps ≤ more) : Reads (valueStatement steps) (valueStatement more) :=
  .of_eq ((reads_bareValue enough).bind fun value => reads_behindValue enough value)
    (fun _ => rfl) fun _ => rfl

/-- Assertions. -/
theorem reads_assertion (enough : steps ≤ more) (line : Nat) :
    Reads (assertion steps line) (assertion more line) :=
  .of_eq
    ((reads_disjunction steps more enough).bind fun condition =>
      .ifNext [.mark ","] rfl
        ((reads_disjunction steps more enough).bind fun message =>
          .done (.assert line condition (some message)))
        (.done (.assert line condition none)))
    (fun _ => rfl) fun _ => rfl

/-- No statement opens with a value where none opens. -/
theorem valueStatement_of_opensNothing {tokens : List Placed} (closed : opensNothing tokens = true)
    (steps : Nat) : valueStatement steps tokens = none := by
  cases steps with
  | zero => rfl
  | succ steps => rw [valueStatement, bareValue, bareItems, disjunction_of_opensNothing closed]; rfl

/-- Simple statements. -/
theorem reads_simpleStatement (enough : steps ≤ more) :
    Reads (simpleStatement steps) (simpleStatement more) :=
  .of_eq
    (.onLine (fun line =>
      .ifNext [.keyword "pass"] rfl (.done .pass) <|
        .ifNext [.keyword "del"] rfl
          ((reads_unboundList steps more enough).bind fun names => .done (.delete names)) <|
          .ifNext [.keyword "global"] rfl
            ((reads_nameList steps more enough).bind fun names => .done (.global names)) <|
            .ifNext [.keyword "import"] rfl
              ((reads_moduleList steps more enough).bind fun names => .done (.bindModules names)) <|
              .ifNext [.keyword "raise"] rfl
                (.ifThen endsSimple_append (.done (.raise none)) <|
                  (reads_disjunction steps more enough).bind fun error => .done (.raise (some error))) <|
                .ifNext [.keyword "assert"] rfl (reads_assertion enough line) (reads_valueStatement enough))
      fun _ => valueStatement_of_opensNothing rfl steps)
    (fun _ => rfl) fun _ => rfl

/-- No statement is read where none opens. -/
theorem simpleStatement_of_opensNothing {tokens : List Placed} (closed : opensNothing tokens = true)
    (steps : Nat) : simpleStatement steps tokens = none := by
  rw [simpleStatement, skip?_of_opensNothing closed rfl, skip?_of_opensNothing closed rfl,
    skip?_of_opensNothing closed rfl, skip?_of_opensNothing closed rfl, skip?_of_opensNothing closed rfl,
    skip?_of_opensNothing closed rfl, valueStatement_of_opensNothing closed]

/-- Names to bind. -/
theorem reads_boundName : ∀ steps more, steps ≤ more → Reads (boundName steps) (boundName more)
  | 0, _, _ => .fails _
  | steps + 1, more + 1, enough =>
    have enough := Nat.le_of_succ_le_succ enough
    .of_eq
      (.ifRead (reads_oneOf? Token.name? ⟨rfl, rfl⟩) (fun name => .done name) <|
        .expect [.mark "("] rfl <|
          (reads_boundName steps more enough).bind fun name => .expect [.mark ")"] rfl (.done name))
      (fun tokens => by rw [boundName]; cases oneOf? Token.name? tokens <;> rfl)
      fun tokens => by rw [boundName]; cases oneOf? Token.name? tokens <;> rfl

/-- What stands in front of simple statements. -/
theorem reads_header (enough : steps ≤ more) : Reads (header steps) (header more) :=
  .of_eq
    (.ifNext [.keyword "for"] rfl
      ((reads_boundName steps more enough).bind fun target =>
        .expect [.keyword "in"] rfl <|
          (reads_bareValue enough).bind fun items =>
            .expect [.mark ":"] rfl (.done fun body => [.forEach target items body])) <|
      .ifNext [.keyword "while"] rfl
        ((reads_disjunction steps more enough).bind fun condition =>
          .expect [.mark ":"] rfl (.done fun body => [.repeatWhile condition body])) <|
        .ifNext [.keyword "if"] rfl
          ((reads_disjunction steps more enough).bind fun condition =>
            .expect [.mark ":"] rfl (.done fun body => [.when condition body]))
          (.done fun statements => statements.map .simple))
    (fun _ => rfl) fun _ => rfl

end LiveConsole.Program
