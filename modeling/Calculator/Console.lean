import Calculator.Line
namespace Calculator

namespace TokenTable

structure Row where
  index : String
  kind : String
  text : String
  precedence : String
  unary : String
  deriving DecidableEq, Repr

def heading : Row := ⟨"#", "Type", "Text", "Prec", "Unary"⟩

def row (limit : DigitLimit) (index : Nat) (token : Token) : Except DigitOverflow Row := do
  let text ← token.print limit
  return match token with
    | .operator op =>
      ⟨Decimal.text index, token.kind, text, Decimal.text op.precedence, if op.unary then "yes" else "no"⟩
    | _ => ⟨Decimal.text index, token.kind, text, "", ""⟩

def rowsFrom (limit : DigitLimit) : Nat → List Token → Except DigitOverflow (List Row)
  | _, [] => .ok []
  | index, token :: later => do
    let first ← row limit index token
    let rest ← rowsFrom limit (index + 1) later
    return first :: rest

end TokenTable

structure TokenTable where
  title : String
  rows : List TokenTable.Row
  deriving DecidableEq, Repr

def TokenTable.ofTokens (limit : DigitLimit) (tokens : List Token) : Except DigitOverflow TokenTable :=
  (⟨"Tokens [" ++ Decimal.text tokens.length ++ "]", ·⟩) <$> rowsFrom limit 0 tokens

-- What a line of text and a table look like where they are shown.
structure Console where
  line : String → String
  table : TokenTable → String

def Console.reply (console : Console) (reply : Reply) : String :=
  match reply.output with
  | some text => console.line text
  | none => ""

namespace TokenTable

structure Widths where
  index : Nat
  kind : Nat
  text : Nat
  precedence : Nat := 4
  unary : Nat := 5
  deriving DecidableEq, Repr

def widest (least : Nat) (texts : List String) : Nat :=
  texts.foldl (fun width text => max width text.length) least

def textRoom (index kind : Nat) : Nat := 55 - index - kind

def Widths.ofRows (rows : List Row) : Widths :=
  let index := widest 1 (rows.map (·.index))
  let kind := widest 4 (rows.map (·.kind))
  ⟨index, kind, min (widest 4 (rows.map (·.text))) (textRoom index kind), 4, 5⟩

def Widths.columns (widths : Widths) : List Nat :=
  [widths.index, widths.kind, widths.text, widths.precedence, widths.unary]

def Widths.total (widths : Widths) : Nat := widths.columns.foldr (· + ·) 16

def spaces (count : Nat) : String := String.ofList (List.replicate count ' ')
def dashes (count : Nat) : String := String.ofList (List.replicate count '-')

def padLeft (width : Nat) (text : String) : String := spaces (width - text.length) ++ text
def padRight (width : Nat) (text : String) : String := text ++ spaces (width - text.length)

def fit (width : Nat) (text : String) : String :=
  if text.length ≤ width then text
  else String.ofList (text.toList.take (width - 1)) ++ "…"

def drawRow (widths : Widths) (row : Row) : String :=
  "| " ++ String.intercalate " | " [padLeft widths.index row.index, padRight widths.kind row.kind,
    padRight widths.text (fit widths.text row.text), padLeft widths.precedence row.precedence,
    padRight widths.unary row.unary] ++ " |"

def border (widths : Widths) : String := "+" ++ dashes (widths.total - 2) ++ "+"

def separator (widths : Widths) : String :=
  "|" ++ String.intercalate "+" (widths.columns.map fun width => dashes (width + 2)) ++ "|"

def caption (widths : Widths) (title : String) : String :=
  padRight widths.total (spaces ((widths.total - title.length) / 2) ++ title)

def draw (table : TokenTable) : String :=
  let widths := Widths.ofRows table.rows
  let lines := [caption widths table.title, border widths, drawRow widths heading, separator widths] ++
    table.rows.map (drawRow widths) ++ [border widths]
  String.join (lines.map (· ++ "\n"))

end TokenTable

-- Shows texts as they are, and draws tables with plain characters, eighty to a line.
def Console.plain : Console := ⟨(· ++ "\n"), TokenTable.draw⟩

end Calculator
