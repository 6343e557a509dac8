import CommandShell.Script.State

/-!
# Redirections of scripts

The targets of redirections are opened one after another; the first that cannot be opened is complained about and
keeps the command from being run.
-/

namespace CommandShell.Script

/-- What is said when a file cannot be opened. -/
def openFaultText (writing : Bool) (fault : CallFault) : String :=
  match fault with
  | .system .noEntry => if writing then "Directory nonexistent" else "No such file"
  | .system fault => fault.text
  | .embeddedNull => SystemFault.invalid.text

/-- Where a redirection leads when its word has been expanded. -/
inductive Target where
  | input (path : String)
  | output (append : Bool) (path : String)
  /-- Where another descriptor leads. -/
  | same (descriptor : Nat)
  | closed
deriving DecidableEq, Repr

/-- The target that a redirection with an expanded word has; a word that should name a descriptor may not. -/
def Target.ofText? (operator : RedirectOperator) (text : String) : Option Target :=
  match operator with
  | .input => some (.input text)
  | .output => some (.output false text)
  | .append => some (.output true text)
  | .duplicate =>
    match text.toList with
    | ['-'] => some .closed
    | [c] => (Number.asciiDigit? c).map .same
    | _ => none

namespace State

/-- Opens the target of a redirection for a descriptor. -/
def openTarget (s : State) : Nat × Target → Except State State
  | (descriptor, .input path) =>
    match s.files.read path with
    | .ok bytes => .ok (if descriptor = 0 then { s with input := .ofBytes bytes } else s)
    | .error fault => .error (s.complain ("cannot open " ++ path ++ ": " ++ openFaultText false fault))
  | (descriptor, .output append path) =>
    match s.files.openForWriting append path with
    | .ok (files, handle) => .ok (({ s with files } : State).setOutlet descriptor (.file handle))
    | .error fault => .error (s.complain ("cannot create " ++ path ++ ": " ++ openFaultText true fault))
  | (descriptor, .same source) =>
    match s.outlet source, source with
    | .closed, 0 => .ok s
    | .closed, _ => .error (s.complain (toString source ++ ": Bad file descriptor"))
    | outlet, _ => .ok (s.setOutlet descriptor outlet)
  | (descriptor, .closed) => .ok (s.setOutlet descriptor .closed)

/-- Opens targets in turn. -/
def openTargets (s : State) (targets : List (Nat × Target)) : Except State State :=
  targets.foldlM openTarget s

/-- Whether an input is among some targets. -/
def hasInput (targets : List (Nat × Target)) : Bool :=
  targets.any fun
    | (_, .input _) => true
    | _ => false

/-- The state after a command with redirections: its descriptors are as before, and so is its input if that was
another one. -/
def restore (s before : State) (targets : List (Nat × Target)) : State :=
  { s with
    outlets := before.outlets
    input := if hasInput targets then before.input else s.input }

end State

end CommandShell.Script
