import Calculator.Text.Layout
import Calculator.Token
namespace Calculator

inductive CharClass where
  | bracket (side : Bracket)
  | sign
  | letter
  | digit
  deriving DecidableEq, Repr

def CharClass.of? (c : Char) : Option CharClass :=
  if c = '(' then some (.bracket .opening)
  else if c = ')' then some (.bracket .closing)
  else if c = '+' ∨ c = '-' ∨ c = '*' ∨ c = '/' then some .sign
  else if c.isAlpha then some .letter
  else if c.isDigit then some .digit
  else none

inductive Lexeme where
  | bracket (side : Bracket)
  | signs (run : List Char)
  | letters (run : List Char)
  | digits (run : List Char)
  deriving DecidableEq, Repr

namespace Lexeme

def chars : Lexeme → List Char
  | .bracket side => side.text.toList
  | .signs run => run
  | .letters run => run
  | .digits run => run

def attach (c : Char) : CharClass → List Lexeme → List Lexeme
  | .bracket side, later => .bracket side :: later
  | .sign, .signs run :: later => .signs (c :: run) :: later
  | .sign, later => .signs [c] :: later
  | .letter, .letters run :: later => .letters (c :: run) :: later
  | .letter, later => .letters [c] :: later
  | .digit, .digits run :: later => .digits (c :: run) :: later
  | .digit, later => .digits [c] :: later

def ofChars : List Char → List Lexeme
  | [] => []
  | c :: rest =>
    match CharClass.of? c with
    | none => []
    | some kind => attach c kind (ofChars rest)

def unread (text : List Char) : List Char := text.dropWhile fun c => (CharClass.of? c).isSome

theorem bracket_chars {c : Char} {side : Bracket} (found : CharClass.of? c = some (.bracket side)) :
    side.text.toList = [c] := by
  unfold CharClass.of? at found
  split at found
  · rename_i same; cases found; subst same; rfl
  · split at found
    · rename_i same; cases found; subst same; rfl
    · split at found <;> (try split at found) <;> (try split at found) <;> simp at found

theorem attach_chars {c : Char} {kind : CharClass} (found : CharClass.of? c = some kind)
    (later : List Lexeme) : (attach c kind later).flatMap chars = c :: later.flatMap chars := by
  cases kind with
  | bracket side => simp [attach, chars, bracket_chars found]
  | sign => unfold attach; split <;> simp_all [chars]
  | letter => unfold attach; split <;> simp_all [chars]
  | digit => unfold attach; split <;> simp_all [chars]

theorem ofChars_append_unread (text : List Char) :
    (ofChars text).flatMap chars ++ unread text = text := by
  induction text with
  | nil => rfl
  | cons c rest ih =>
    cases found : CharClass.of? c with
    | none => simp [ofChars, unread, found]
    | some kind =>
      have tail : unread (c :: rest) = unread rest := by simp [unread, found]
      rw [tail, show ofChars (c :: rest) = attach c kind (ofChars rest) by simp [ofChars, found],
        attach_chars found]
      exact congrArg (c :: ·) ih

end Lexeme

def collapse (run : List Char) : List Char :=
  if run = [] then []
  else if run.all (· == '+') then ['+']
  else if run.all (· == '-') then (if run.length % 2 = 0 then ['+'] else ['-'])
  else run

theorem collapse_idem (run : List Char) : collapse (collapse run) = collapse run := by
  unfold collapse
  repeat' split
  all_goals simp_all

end Calculator
