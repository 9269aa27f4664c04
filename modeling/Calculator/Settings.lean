import Calculator.Session
import Calculator.Settings.WholeNumber
namespace Calculator

inductive Field where
  | logLevel
  | prompt
  | helpText
  | farewell
  | strictTokens
  | digitLimit
  deriving DecidableEq, Repr

def Field.name : Field → String
  | .logLevel => "log_level"
  | .prompt => "prompt"
  | .helpText => "help_text"
  | .farewell => "farewell"
  | .strictTokens => "strict_tokens"
  | .digitLimit => "int_max_str_digits"

def Field.all : List Field := [.logLevel, .prompt, .helpText, .farewell, .strictTokens, .digitLimit]

def Field.variable (field : Field) : String := "bigcalc_" ++ field.name

-- A value before it is checked. No field takes nothing, a list or a record; they are not told apart.
inductive RawValue where
  | text (text : String)
  | flag (flag : Bool)
  | number (number : Int)
  | other
  deriving DecidableEq, Repr

inductive Problem where
  | unknownLevel
  | notText
  | notTruth
  | unreadableTruth
  | notInteger
  | unreadableInteger
  | integerTooLong
  | outOfRange
  deriving DecidableEq, Repr

def Problem.name : Problem → String
  | .unknownLevel => "literal_error"
  | .notText => "string_type"
  | .notTruth => "bool_type"
  | .unreadableTruth => "bool_parsing"
  | .notInteger => "int_type"
  | .unreadableInteger => "int_parsing"
  | .integerTooLong => "int_parsing_size"
  | .outOfRange => "value_error"

def Problem.ofFlaw : WholeNumber.Flaw → Problem
  | .malformed => .unreadableInteger
  | .tooLong => .integerTooLong

structure Issue where
  field : Field
  problem : Problem
  deriving DecidableEq, Repr

def DigitLimit.Admitted (limit : DigitLimit) : Prop := limit.toNat = 0 ∨ 640 ≤ limit.toNat

instance (limit : DigitLimit) : Decidable limit.Admitted := inferInstanceAs (Decidable (_ ∨ _))

structure Settings where
  logLevel : Level := .warning
  phrases : Phrases := {}
  strictTokens : Bool := false
  digitLimit : DigitLimit := .unlimited
  admitted : digitLimit.Admitted := by decide
  deriving DecidableEq, Repr

namespace RawValue

def truthy : List String := ["true", "1", "yes", "on", "t", "y"]
def falsy : List String := ["false", "0", "no", "off", "f", "n"]

def FitsWord (number : Int) : Prop := -0x8000000000000000 ≤ number ∧ number < 0x8000000000000000

instance (number : Int) : Decidable (FitsWord number) := inferInstanceAs (Decidable (_ ∧ _))

def asTruth : RawValue → Except Problem Bool
  | .flag given => .ok given
  | .number given =>
    if given = 1 then .ok true
    else if given = 0 then .ok false
    else .error (if FitsWord given then .unreadableTruth else .notTruth)
  | .text given =>
    let word := given.map Char.toLower
    if word ∈ truthy then .ok true
    else if word ∈ falsy then .ok false
    else .error .unreadableTruth
  | .other => .error .notTruth

def asInteger : RawValue → Except Problem Int
  | .flag given => .ok (if given then 1 else 0)
  | .number given => .ok given
  | .text given => (WholeNumber.read given.toList).mapError Problem.ofFlaw
  | .other => .error .notInteger

def asDigitLimit (value : RawValue) : Except Problem { limit : DigitLimit // limit.Admitted } := do
  let number ← value.asInteger
  if admitted : number = 0 ∨ 640 ≤ number then
    return ⟨.ofNat number.toNat, by rw [DigitLimit.Admitted, DigitLimit.toNat_ofNat]; omega⟩
  else throw .outOfRange

def capital (c : Char) : Char := if c.toNat = 0x131 then 'I' else c.toUpper

def asLevel : RawValue → Except Problem Level
  | .text given =>
    match Level.all.find? (·.name = given.map capital) with
    | some level => .ok level
    | none => .error .unknownLevel
  | _ => .error .unknownLevel

def asText : RawValue → Except Problem String
  | .text given => .ok given
  | _ => .error .notText

end RawValue

-- Where settings come from: arguments by field name, then environment variables, then the
-- entries of a file, which have the names of the variables. Case never matters.
structure Sources where
  arguments : List (String × RawValue) := []
  environment : List (String × String) := []
  file : List (String × String) := []
  deriving DecidableEq, Repr

namespace Sources

def small (c : Char) : Char := if c.toNat = 0x212A then 'k' else c.toLower  -- the Kelvin sign

def lookup? (entries : List (String × α)) (name : String) : Option α :=
  (entries.reverse.find? fun entry => entry.1.map small = name).map Prod.snd

def find? (sources : Sources) (field : Field) : Option RawValue :=
  lookup? sources.arguments field.name <|>
    (.text <$> (lookup? sources.environment field.variable <|> lookup? sources.file field.variable))

def read (sources : Sources) (field : Field) (check : RawValue → Except Problem α) (default : α) :
    Except Problem α :=
  match sources.find? field with
  | some value => check value
  | none => .ok default

end Sources

namespace Settings

def issue (field : Field) : Except Problem α → List Issue
  | .ok _ => []
  | .error problem => [⟨field, problem⟩]

def ofSources (sources : Sources) : Except (List Issue) Settings :=
  let plain : Settings := {}
  let level := sources.read .logLevel RawValue.asLevel plain.logLevel
  let prompt := sources.read .prompt RawValue.asText plain.phrases.prompt
  let help := sources.read .helpText RawValue.asText plain.phrases.helpText
  let farewell := sources.read .farewell RawValue.asText plain.phrases.farewell
  let strict := sources.read .strictTokens RawValue.asTruth plain.strictTokens
  let limit := sources.read .digitLimit RawValue.asDigitLimit ⟨plain.digitLimit, plain.admitted⟩
  match level, prompt, help, farewell, strict, limit with
  | .ok level, .ok prompt, .ok help, .ok farewell, .ok strict, .ok limit =>
    .ok ⟨level, ⟨prompt, help, farewell⟩, strict, limit.val, limit.property⟩
  | _, _, _, _, _, _ =>
    .error (issue .logLevel level ++ issue .prompt prompt ++ issue .helpText help ++
      issue .farewell farewell ++ issue .strictTokens strict ++ issue .digitLimit limit)

def policy (settings : Settings) : Policy := ⟨settings.strictTokens, settings.digitLimit⟩

def session (settings : Settings) : Session := { policy := settings.policy, phrases := settings.phrases }

end Settings

-- What the conversion between text and number answers when it is told a limit. What is no
-- int of the machine overflows; of the others it takes zero and what is at least 640.
inductive LimitAnswer where
  | taken
  | refused
  | overflow
  deriving DecidableEq, Repr

def LimitAnswer.of (limit : Int) : LimitAnswer :=
  if limit < -0x80000000 ∨ 0x7fffffff < limit then .overflow
  else if limit = 0 ∨ 640 ≤ limit then .taken
  else .refused

def Settings.limitAnswer (settings : Settings) : LimitAnswer := .of settings.digitLimit.toNat

end Calculator
