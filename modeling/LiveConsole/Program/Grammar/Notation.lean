import LiveConsole.Program.Grammar.Basic
import LiveConsole.Text.Blank

/-!
# Grammars written as text

A grammar is written rule by rule. The name of a rule stands in front of a colon on a line of its own,
remarks on the rule in round brackets behind the name. Each further line is an alternative and opens with
`|`. All signs stand between blanks, but for those that belong to one item:

* `'if'` is a keyword or mark, `@case` a certain name; a word in capitals is a kind of token, any other
  word a rule;
* `( a | b )` is the first that fits, `[ a ]` may be missing; `a+` is there at least once, `a*` as often
  as it fits, and `','.a+` at least once with commas between;
* `&a` and `!a` look whether `a` follows, `&&'if'` is a token whose absence is a mistake, and after `~` no
  other alternative is tried;
* behind `=>` stands what the alternative gives.

Rules whose names open with `wrong_` are there to find out what is wrong.
-/
namespace LiveConsole.Program.Grammar

/-- The kinds of tokens that are written in capitals. -/
def kindNames : List (String × Kind) :=
  [("NAME", .anyName), ("NUMBER", .anyNumber), ("TEXT", .anyText), ("SOFT_WORD", .anySoftWord),
    ("LINE_END", .exactly .lineEnd), ("INDENT", .exactly .indent), ("DEDENT", .exactly .dedent),
    ("FINISH", .exactly .finish)]

/-- The words for what an alternative gives. -/
def effectNames : List (String × Effect) :=
  [("same", .same), ("row", .row), ("starred", .starred), ("target", .target), ("compared", .compared),
    ("argument", .argument), ("texts", .texts), ("real", .real), ("imaginary", .imaginary),
    ("wrong", .wrong), ("indented", .indented), ("unassignable", .unusable .assigned),
    ("undeletable", .unusable .deleted), ("unloopable", .unusable .looped),
    ("statement_of_old", .statementOfOld), ("comma_forgotten", .commaForgotten), ("crowded", .crowded)]

/-- The keyword or mark between single quotes. -/
def quotedKind (inside : List Char) : Kind :=
  let text := String.ofList inside
  .exactly (if keywords.contains text then .keyword text else .mark text)

/-- The text between single quotes at the front, and what follows the second one. -/
def takeQuotes : List Char → Option (List Char × List Char)
  | '\'' :: first :: rest => some (first :: rest.takeWhile (· != '\''), (rest.dropWhile (· != '\'')).drop 1)
  | _ => none

/-- The names of the rules of a grammar in order. -/
abbrev Names := List String

/-- The number of a rule; a name that belongs to none gives a number that none has. -/
def numberOf (names : Names) (name : String) : Nat := names.findIdx (· == name)

/-- The item that a word without signs stands for. -/
def wordItem (names : Names) (word : List Char) : Item :=
  let text := String.ofList word
  match word, takeQuotes word with
  | _, some (inside, _) => .token (quotedKind inside)
  | '@' :: name, _ => .token (.softWord (String.ofList name))
  | _, _ =>
    match kindNames.lookup text with
    | some kind => .token kind
    | none => .rule (numberOf names text)

/-- An item with the sign behind it. -/
def withSuffix (item : Item) (suffix : List Char) : Item :=
  if suffix == ['+'] then .many true item else if suffix == ['*'] then .many false item else item

/-- A word without the sign behind it, and that sign; quotes shield what is between them. -/
def cutSuffix (word : List Char) : List Char × List Char :=
  match word.getLast? with
  | some '+' => (word.dropLast, ['+'])
  | some '*' => (word.dropLast, ['*'])
  | _ => (word, [])

/-- An item with the sign in front of it. -/
def withPrefix (item : Item) (sign : List Char) : Item :=
  match sign, item with
  | ['&', '&'], .token kind => .required kind
  | ['&'], item => .ahead true item
  | ['!'], item => .ahead false item
  | _, item => item

/-- The sign in front of a word, and the word. -/
def cutPrefix (word : List Char) : List Char × List Char :=
  let sign := word.takeWhile fun c => c == '&' || c == '!'
  (sign, word.drop sign.length)

/-- The separator in front of a word, and the word. -/
def cutSeparator (word : List Char) : Option (List Char) × List Char :=
  match takeQuotes word with
  | some (inside, '.' :: rest) => (some inside, rest)
  | _ => (none, word)

/-- A group of alternatives; one alternative of one item that gives nothing of its own is that item. -/
def groupItem : List (Alternative Item) → Item
  | [⟨[item], .same, _⟩] => item
  | alternatives => .group alternatives

/-- An alternative with its items, the last one first, and what is said of what it gives. -/
def alternative (names : Names) (items : List Item) (effect : Option Effect) : Alternative Item :=
  let isExplanation :=
    match items with
    | [.rule number] => ((names[number]?).getD "").startsWith "wrong_"
    | _ => false
  ⟨items.reverse, effect.getD (if items.length = 1 then .same else .other), isExplanation⟩

/-- A group with a mark of its own, so that it stays one. -/
def keepGroup (hasEffect : Bool) (alternatives : List (Alternative Item)) : Item :=
  if hasEffect then .group alternatives else groupItem alternatives

/-- What is read of a row of alternatives. -/
structure Reading where
  /-- The alternatives before the current one, the last one first. -/
  before : List (Alternative Item)
  /-- The items of the current alternative, the last one first. -/
  items : List Item
  /-- What is said of what it gives. -/
  effect : Option Effect
  /-- Whether that is said of any of the alternatives. -/
  hasEffect : Bool

namespace Reading

/-- Nothing read yet. -/
def start : Reading := ⟨[], [], none, false⟩

/-- The alternatives read. -/
def finish (names : Names) (reading : Reading) : List (Alternative Item) :=
  (alternative names reading.items reading.effect :: reading.before).reverse

/-- One more item. -/
def add (reading : Reading) (item : Item) : Reading := { reading with items := item :: reading.items }

end Reading

/-- Read words up to the one that closes a bracket: the alternatives, whether something is said of what
one of them gives, the closing word, and the words behind it. The first argument bounds the number of
steps. -/
def readAlternatives (names : Names) :
    Nat → Reading → List (List Char) → (List (Alternative Item) × Bool) × List Char × List (List Char)
  | 0, reading, _ => ((reading.finish names, reading.hasEffect), [], [])
  | _, reading, [] => ((reading.finish names, reading.hasEffect), [], [])
  | steps + 1, reading, word :: words =>
    if word == ['|'] then
      let before := alternative names reading.items reading.effect :: reading.before
      readAlternatives names steps ⟨before, [], none, reading.hasEffect⟩ words
    else if word == ['~'] then readAlternatives names steps (reading.add .commit) words
    else if word == ['=', '>'] then
      let effect := effectNames.lookup (String.ofList (words.headD []))
      readAlternatives names steps { reading with effect, hasEffect := true } (words.drop 1)
    else if word.head? == some ')' || word == [']'] then
      ((reading.finish names, reading.hasEffect), word, words)
    else
      let (sign, bare) := cutPrefix word
      let (separator, bare) := cutSeparator bare
      let (item, suffix, words) :=
        if bare == ['('] || bare == ['['] then
          let ((alternatives, hasEffect), closing, words) := readAlternatives names steps .start words
          let item := keepGroup hasEffect alternatives
          (if bare == ['['] then .optional item else item, closing.drop 1, words)
        else
          let (bare, suffix) := cutSuffix bare
          (wordItem names bare, suffix, words)
      let item :=
        match separator with
        | some inside => .separated (.token (quotedKind inside)) item
        | none => withPrefix (withSuffix item suffix) sign
      readAlternatives names steps (reading.add item) words

/-- The words of a line. -/
def wordsOf (line : String) : List (List Char) :=
  (Text.splitAt ' ' line.toList).filter fun word => !word.isEmpty

/-- Whether a line is the head of a rule. -/
def isHead (words : List (List Char)) : Bool := words.getLast?.any fun word => word.getLast? == some ':'

/-- The name in the head of a rule. -/
def headName (words : List (List Char)) : String :=
  String.ofList ((words.headD []).filter (· != ':'))

/-- Whether the head of a rule holds a remark. -/
def headHolds (words : List (List Char)) (remark : String) : Bool :=
  words.any fun word => word.filter (· != ':') == ("(" ++ remark ++ ")").toList

/-- Read the lines of rules; the last rule first. -/
def readRules (names : Names) : List Rule → List (List (List Char)) → List Rule
  | rules, [] => rules.reverse
  | rules, words :: lines =>
    if isHead words then
      let rule : Rule :=
        ⟨headName words, headHolds words "kept", headHolds words "grows", headHolds words "unexplained", []⟩
      readRules names (rule :: rules) lines
    else
      match rules with
      | [] => readRules names [] lines
      | rule :: others =>
        let ((alternatives, _), _, _) := readAlternatives names (words.length + 1) .start (words.drop 1)
        readRules names ({ rule with alternatives := rule.alternatives ++ alternatives } :: others) lines

/-- The rules that a text holds. -/
def rulesOf (text : String) : List Rule :=
  let lines := ((Text.splitAt '\n' text.toList).map fun line => wordsOf (String.ofList line)).filter
    fun words => !words.isEmpty
  readRules ((lines.filter isHead).map headName) [] lines

end LiveConsole.Program.Grammar
