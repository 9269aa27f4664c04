namespace Calculator

namespace Text

-- The digits of every script (Unicode 14). Each script has its ten digits in a row; these
-- are the zeros.
private def zeros : List Nat := [
  0x30, 0x660, 0x6F0, 0x7C0, 0x966, 0x9E6, 0xA66, 0xAE6, 0xB66, 0xBE6, 0xC66, 0xCE6, 0xD66, 0xDE6,
  0xE50, 0xED0, 0xF20, 0x1040, 0x1090, 0x17E0, 0x1810, 0x1946, 0x19D0, 0x1A80, 0x1A90, 0x1B50,
  0x1BB0, 0x1C40, 0x1C50, 0xA620, 0xA8D0, 0xA900, 0xA9D0, 0xA9F0, 0xAA50, 0xABF0, 0xFF10, 0x104A0,
  0x10D30, 0x11066, 0x110F0, 0x11136, 0x111D0, 0x112F0, 0x11450, 0x114D0, 0x11650, 0x116C0,
  0x11730, 0x118E0, 0x11950, 0x11C50, 0x11D50, 0x11DA0, 0x16A60, 0x16AC0, 0x16B50, 0x1D7CE,
  0x1D7D8, 0x1D7E2, 0x1D7EC, 0x1D7F6, 0x1E140, 0x1E2F0, 0x1E950, 0x1FBF0]

def isDigitOfAnyScript (c : Char) : Bool :=
  zeros.any fun first => first ≤ c.toNat && c.toNat < first + 10

end Text

inductive Request where
  | converse
  | batch (text : Option String) (check : Bool)
  | showTokens (text : Option String)
  | showPostfix (text : Option String)
  deriving DecidableEq, Repr

def Request.text? : Request → Option String
  | .converse => none
  | .batch text _ => text
  | .showTokens text => text
  | .showPostfix text => text

inductive Refusal where
  | help
  | misuse
  deriving DecidableEq, Repr

namespace Arguments

inductive Switch where
  | help
  | text
  | check
  deriving DecidableEq, Repr

-- The spellings a command understands. A spelling of one letter may be joined with what
-- follows it; a long one may be cut short as long as it stays unambiguous.
abbrev Spellings := List (String × Switch)

def helpSpellings : Spellings := [("-h", .help), ("--help", .help)]
def textSpellings : Spellings := helpSpellings ++ [("--text", .text), ("-t", .text)]
def batchSpellings : Spellings := textSpellings ++ [("--check", .check)]

inductive Joined where
  | nothing
  | equals (value : String)
  | direct (value : String)
  deriving DecidableEq, Repr

inductive Word where
  | plain
  | separator
  | given (switch : Switch) (joined : Joined)
  | ambiguous
  | unknown
  deriving DecidableEq, Repr

def looksNegative (word : String) : Bool :=
  match word.toList with
  | '-' :: rest =>
    let body := if rest.getLast? = some '\n' then rest.dropLast else rest
    let whole := body.takeWhile Text.isDigitOfAnyScript
    match body.drop whole.length with
    | [] => whole ≠ []
    | '.' :: fraction => fraction ≠ [] ∧ fraction.all Text.isDigitOfAnyScript
    | _ => false
  | _ => false

def splitEquals (word : String) : String × Joined :=
  let chars := word.toList
  match chars.dropWhile (· ≠ '=') with
  | [] => (word, .nothing)
  | _ :: value => (String.ofList (chars.takeWhile (· ≠ '=')), .equals (String.ofList value))

def unexplained (word : String) : Word :=
  if looksNegative word ∨ ' ' ∈ word.toList then .plain else .unknown

def cutShort (spellings : Spellings) (word : String) : Word :=
  let (stem, joined) := splitEquals word
  match spellings.filter fun entry => stem.toList.isPrefixOf entry.1.toList with
  | [] => unexplained word
  | [(_, switch)] => .given switch joined
  | _ => .ambiguous

def letterJoined (spellings : Spellings) (word : String) : Word :=
  match spellings.lookup (String.ofList (word.toList.take 2)) with
  | some switch => .given switch (.direct (String.ofList (word.toList.drop 2)))
  | none => unexplained word

def Word.ofText (spellings : Spellings) (word : String) : Word :=
  if word = "--" then .separator
  else
    match spellings.lookup word, splitEquals word, word.toList with
    | some switch, _, _ => .given switch .nothing
    | none, (stem, joined), '-' :: second :: _ =>
      match spellings.lookup stem with
      | some switch => .given switch joined
      | none => if second = '-' then cutShort spellings word else letterJoined spellings word
    | _, _, _ => .plain

-- Letters joined behind `-h` are switches of their own. An unknown one is passed over, for
-- the help comes first; a dash, an equals sign behind a second `h` or a missing text are
-- misuse.
def joinedLetters (spellings : Spellings) (textFollows : Bool) : List Char → Refusal
  | [] => .help
  | '-' :: _ => .misuse
  | letter :: rest =>
    match spellings.lookup (String.ofList ['-', letter]) with
    | some .help => if rest.head? = some '=' then .misuse else joinedLetters spellings textFollows rest
    | some _ => if rest = [] ∧ ¬textFollows then .misuse else .help
    | none => .help

def helpRefusal (spellings : Spellings) (textFollows : Bool) : Joined → Refusal
  | .nothing => .help
  | .equals _ => .misuse
  | .direct letters => joinedLetters spellings textFollows letters.toList

-- What the words of one command said so far. A stray word is refused in the end, so that
-- help asked for after it is still given.
structure Said where
  text : Option String := none
  check : Bool := false
  stray : Bool := false
  deriving DecidableEq, Repr

def startsPlain (spellings : Spellings) : List String → Bool
  | [] => false
  | word :: _ => Word.ofText spellings word = .plain

def follow (spellings : Spellings) : List String → Said → Except Refusal Said
  | [], said => .ok said
  | word :: rest, said =>
    match Word.ofText spellings word with
    | .plain | .unknown => follow spellings rest { said with stray := true }
    | .separator => .ok { said with stray := true }
    | .ambiguous => .error .misuse
    | .given .help joined => .error (helpRefusal spellings (startsPlain spellings rest) joined)
    | .given .check .nothing => follow spellings rest { said with check := true }
    | .given .check _ => .error .misuse
    | .given .text (.equals value) => follow spellings rest { said with text := some value }
    | .given .text (.direct value) => follow spellings rest { said with text := some value }
    | .given .text .nothing =>
      match rest with
      | value :: later =>
        if Word.ofText spellings value = .plain then
          follow spellings later { said with text := some value }
        else .error .misuse
      | [] => .error .misuse

def said (spellings : Spellings) (words : List String) : Except Refusal Said :=
  if (words.takeWhile (· ≠ "--")).any fun word => Word.ofText spellings word = .ambiguous then
    .error .misuse
  else do
    let said ← follow spellings words {}
    if said.stray then throw .misuse
    return said

def command (name : String) (words : List String) : Except Refusal Request :=
  if name = "repl" then (fun _ => .converse) <$> said helpSpellings words
  else if name = "eval" then (fun heard => .batch heard.text heard.check) <$> said batchSpellings words
  else if name = "tokens" then (fun heard => .showTokens heard.text) <$> said textSpellings words
  else if name = "postfix" then (fun heard => .showPostfix heard.text) <$> said textSpellings words
  else .error .misuse

def leading (stray : Bool) : List String → Except Refusal Request
  | [] => if stray then .error .misuse else .ok .converse
  | word :: rest =>
    match Word.ofText helpSpellings word with
    | .plain => do
      let request ← command word rest
      if stray then throw .misuse
      return request
    | .unknown => leading true rest
    | .given .help joined => .error (helpRefusal helpSpellings false joined)
    | _ => .error .misuse

end Arguments

def Request.ofArguments (words : List String) : Except Refusal Request :=
  Arguments.leading false words

end Calculator
