import Walkthrough.Timestamp

/-!
# Walkthrough.CommandLine.Message

What the program says while it runs: messages of three levels, with parts in colour.

* `Message.plain` is the text of a message; `Message.logged` has a date and the colours of a
  terminal.
-/

namespace Walkthrough
namespace CommandLine

inductive Level where
  | info
  | warning
  | error
deriving DecidableEq, Repr

def Level.word : Level → String
  | .info => "INFO"
  | .warning => "WARN"
  | .error => "ERROR"

/-- The longest word of a level. -/
def Level.width : Nat := 5

theorem Level.length_word_le (l : Level) : l.word.length ≤ Level.width := by
  cases l <;> decide

inductive Colour where
  | red
  | green
  | yellow
deriving DecidableEq, Repr

/-- The number of a colour in a terminal. -/
def Colour.code : Colour → String
  | .red => "31"
  | .green => "32"
  | .yellow => "33"

/-- A part of a message. -/
structure Span where
  colour : Option Colour
  text : String
deriving DecidableEq, Repr

/-- A part without a colour. -/
def Span.bare (text : String) : Span := ⟨none, text⟩

def Span.tinted (colour : Colour) (text : String) : Span := ⟨some colour, text⟩

def Span.painted (s : Span) : String :=
  match s.colour with
  | none => s.text
  | some c => "\x1b[" ++ c.code ++ "m" ++ s.text ++ "\x1b[0m"

structure Message where
  level : Level
  spans : List Span
deriving DecidableEq, Repr

namespace Message

/-- A message without colours. -/
def bare (level : Level) (text : String) : Message := ⟨level, [.bare text]⟩

/-- A message in a colour. -/
def tinted (level : Level) (colour : Colour) (text : String) : Message := ⟨level, [.tinted colour text]⟩

/-- The text of a message. -/
def plain (m : Message) : String := m.level.word ++ " " ++ String.join (m.spans.map Span.text)

/-- The text of a message in colours, as it is logged at a moment: levels are flush right. -/
def logged (m : Message) (moment : Timestamp) : String :=
  let gap := String.ofList (List.replicate (Level.width - m.level.word.length) ' ')
  moment.written ++ " " ++ gap ++ m.level.word ++ " " ++ String.join (m.spans.map Span.painted)

end Message
end CommandLine
end Walkthrough
