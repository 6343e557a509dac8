import CommandShell.Program.Basic
import CommandShell.Shell.Basic

/-!
# Banners

A text in large letters, if the program that draws them is there and ends well; otherwise the text in a box.
-/

namespace CommandShell.Builtin

/-- The program that draws large letters. -/
def bannerProgram : String := "figlet"

/-- The text of a banner without arguments. -/
def usualBannerText : String := "My Shell"

/-- A text in a box. -/
def boxed (text : String) : List String :=
  let rule := String.ofList (List.replicate (text.length + 4) '=')
  ["", rule, "| " ++ text ++ " |", rule, ""]

/-- What comes of drawing a text in large letters. -/
inductive Drawing where
  | drawn (art : String)
  /-- The program is not there, or does not end well. -/
  | missing
  | impossible (m : Mishap)
  | interrupted
deriving DecidableEq, Repr

/-- Draws a text in large letters. -/
def draw (programs : Programs) (m : Machine) (text : String) : Machine × Drawing :=
  match Execution.find m ⟨bannerProgram, [text]⟩ with
  | .error (.system _) => (m, .missing)
  | .error .embeddedNull => (m, .impossible .embeddedNull)
  | .ok executable =>
    let (m, interrupted) := m.countStart
    if interrupted then (m, .interrupted)
    else
      let r := programs.run executable.program (Execution.invocation m executable .empty none)
      let m := { m with files := r.files.seenFrom m.files.place }
      match r.ending with
      | .done (.exited 0) => (m, .drawn (Text.decode r.output.head))
      | .done _ => (m, .missing)
      | .waiting .. => (m, .interrupted)

/-- Prints a banner. -/
def printBanner (programs : Programs) (s : Shell) (args : List String) : Outcome :=
  let joined := Text.spaced args
  let text := if joined.isEmpty then usualBannerText else joined
  let s := s.inform (Markup.within "yellow" "Generating banner...")
  let (machine, drawing) := draw programs s.machine text
  let s := { s with machine }
  match drawing with
  | .drawn art => Outcome.well (s.inform (Markup.within "cyan" (Markup.escape art)))
  | .missing =>
    let s := (boxed text).foldl Shell.writeLine s
    Outcome.well (s.inform (Markup.within "red" "For better banners, install figlet"))
  | .impossible m => Outcome.fail s m
  | .interrupted => (s, some .interrupted)

end CommandShell.Builtin
