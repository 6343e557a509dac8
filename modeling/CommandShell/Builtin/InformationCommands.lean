import CommandShell.Number.Binary64
import CommandShell.Shell.Basic
import CommandShell.Text.Digit
import CommandShell.Text.Line
import CommandShell.Text.Percent
import CommandShell.Text.WordCharacter

/-!
# Built-ins that tell something

Help, the history, the date, the facts about the system, passwords, addresses of QR codes, and aliases.
-/

namespace CommandShell.Builtin

/-- A coloured message around a text that is shown as it stands. -/
def coloured (colour before text after : String) : String :=
  Markup.within colour (before ++ Markup.escape text ++ after)

/-- Lists the registered names. -/
def showHelp (s : Shell) : Outcome :=
  let s := s.inform (Markup.within "cyan" "Available custom commands:")
  let s := s.registry.names.foldl (fun (s : Shell) name => s.inform ("  " ++ coloured "green" "" name "")) s
  Outcome.well (s.inform (Markup.within "cyan" "\nStandard shell commands are also supported."))

/-- Shows the last lines that were typed. -/
def showHistory (s : Shell) (args : List String) : Outcome :=
  let limit? : Except Complaint (Option Int) := match args with
    | [] => .ok none
    | first :: _ =>
      match Number.readInteger first with
      | .ok n => .ok (some n)
      | .error _ => .error (.invalidCount first)
  match limit? with
  | .error complaint => Outcome.complain s complaint
  | .ok limit =>
    Outcome.well ((s.history.tail limit).foldl
      (fun (s : Shell) (number, line) => s.writeLine (toString number ++ " " ++ line)) s)

/-- The name and the command line of an alias as it is defined: the name is made of word characters, and the
command line is the rest of the line after the first equals sign. -/
def readAlias? (text : String) : Option (String × String) :=
  let cs := text.toList
  let name := cs.takeWhile Text.isWord
  match cs.drop name.length with
  | '=' :: rest =>
    let line := if rest.getLast? = some '\n' then rest.dropLast else rest
    if name.isEmpty || line.isEmpty || line.contains '\n' then none
    else some (String.ofList name, String.ofList line)
  | _ => none

/-- Defines an alias, or shows those that there are. -/
def defineAlias (s : Shell) (args : List String) : Outcome :=
  if args.isEmpty then
    Outcome.well (s.registry.aliases.foldl
      (fun (s : Shell) (name, line) => s.writeLine (name ++ "='" ++ line ++ "'")) s)
  else
    let defined := do
      let (name, line) ← readAlias? (Text.spaced args)
      return (name, ← s.registry.addAlias? name line)
    match defined with
    | none => Outcome.complain s .aliasFormat
    | some (name, registry) =>
      Outcome.well (({ s with registry } : Shell).inform (coloured "green" "Alias created: " name ""))

/-- The characters of a password. -/
def passwordAlphabet : List Char :=
  "abcdefghijklmnopqrstuvwxyzABCDEFGHIJKLMNOPQRSTUVWXYZ0123456789!@#$%^&*()_+".toList

/-- The length of a password unless another is asked for. -/
def usualPasswordLength : Nat := 12

/-- The length that an argument asks for: its value, if it is made of digits and is positive. -/
def passwordLength (args : List String) : Except Mishap Nat :=
  match args with
  | [] => .ok usualPasswordLength
  | first :: _ =>
    if first.isEmpty || !first.toList.all Text.isDigit then .ok usualPasswordLength
    else
      match Number.readInteger first with
      | .ok n => .ok (if 0 < n then n.toNat else usualPasswordLength)
      | .error fault => .error (Mishap.ofInteger first fault)

/-- The characters that a machine chooses, one after another, from the alphabet. -/
def chooseCharacters (drawn length : Nat) : List Char :=
  (List.range length).map fun k => (passwordAlphabet[(drawn + k) % passwordAlphabet.length]?).getD 'a'

/-- Makes a password. -/
def makePassword (s : Shell) (args : List String) : Outcome :=
  match passwordLength args with
  | .error m => Outcome.fail s m
  | .ok length =>
    let password := String.ofList (chooseCharacters s.machine.drawn length)
    let s := { s with machine := { s.machine with drawn := s.machine.drawn + length } }
    Outcome.well (s.inform (coloured "green" "Generated password: " password ""))

/-- The name of the processor: the system's description names it, or else the system itself may. -/
def processorName (host : Host) : String :=
  let named := (Text.lines (host.processorInfo.getD "")).findSome? fun line =>
    let key := line.toList.takeWhile (· ≠ ':')
    if String.ofList (Text.trimChars key) = "model name" then
      some (String.ofList (Text.trimChars (line.toList.drop (key.length + 1))))
    else none
  named.getD (if host.processor.isEmpty then "unknown" else host.processor)

/-- An amount of memory in units of 2 ^ 30 octets. -/
def gibibytes (octets : Int) : String := Number.twoPlaces (Binary64.round (octets / Nat.pow 2 30))

/-- How long the system has been running, in hours; each step of the sum is rounded. -/
def uptimeHours (now : Instant) (bootTime : Rat) : Rat :=
  let seconds := Binary64.round (now.seconds + Binary64.round (mkRat now.micros 1000000))
  Binary64.round (Binary64.round (seconds - Binary64.round bootTime) / 3600)

/-- The rows of the facts about the system. -/
def systemRows (m : Machine) : List (String × String) :=
  let host := m.host
  let cores := if host.processors ≠ 0 then toString host.processors
    else if host.otherProcessors ≠ 0 then toString host.otherProcessors else "unknown"
  [("OS", host.system ++ " " ++ host.release), ("Architecture", host.machine), ("CPU", processorName host),
    ("Cores", cores), ("Memory", gibibytes host.totalMemory ++ " GB"),
    ("Free Memory", gibibytes host.freeMemory ++ " GB"),
    ("Uptime", Number.twoPlaces (uptimeHours m.now host.bootTime) ++ " hours")]

/-- Shows facts about the system. -/
def systemInformation (s : Shell) : Outcome :=
  let s := s.inform (Markup.within "yellow" "System Information:")
  Outcome.well ((systemRows s.machine).foldl
    (fun (s : Shell) (label, value) =>
      s.inform (Markup.within "cyan" (label ++ ":") ++ " " ++ Markup.escape value)) s)

/-- What the address of a QR code begins with. -/
def qrCodeAddress : String := "https://api.qrserver.com/v1/create-qr-code/?size=150x150&data="

/-- Prints the address of a QR code for a text. -/
def qrCode (s : Shell) (args : List String) : Outcome :=
  let data := Text.spaced args
  if data.isEmpty then Outcome.complain s .nothingToEncode
  else
    let address := qrCodeAddress ++ Text.percentEncode data
    Outcome.well (((s.inform (coloured "yellow" "Creating QR code for: " data "")).inform
      (coloured "green" "QR code URL: " address "")).inform
        (Markup.within "cyan" "Open this URL in your browser to see the QR code"))

/-- Prints the date and the time. -/
def showDate (s : Shell) : Outcome := Outcome.well (s.writeLine (Moment.ofInstant s.machine.now).longText)

/-- Greets the user. -/
def showGreeting (s : Shell) : Outcome :=
  Outcome.well (s.inform (Markup.within "yellow" "Hello, welcome to my custom shell!"))

end CommandShell.Builtin
