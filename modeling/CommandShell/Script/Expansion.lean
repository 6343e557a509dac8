import CommandShell.Program.Printing
import CommandShell.Script.Arithmetic
import CommandShell.Script.Redirection

/-!
# Expansion in scripts

What words stand for. Parameters, command substitutions and arithmetic give texts, and the parts of a word that
were not quoted are cut into fields. An expansion may change the state, and a fault in one ends the script.
-/

namespace CommandShell.Script

/-- An expansion, which may change the state or fail. -/
abbrev Expanding := ExceptT String (StateM State)

/-- Runs the text of a script. -/
abbrev Runner := State → String → State × Flow

/-- What comes of an expansion in a state is handed on; a fault ends the script. -/
def State.expanding {α : Type} (s : State) (expansion : Expanding α) (next : State → α → State × Flow) :
    State × Flow :=
  match expansion.run.run s with
  | (.ok a, after) => next after a
  | (.error fault, after) => after.abort fault

/-- What is said of a change to a variable that may not change. -/
def fixedText (name : String) : String := name ++ ": is read only"

/-- The text that a use of a parameter brings with it. -/
def Use.text : Use → String
  | .value | .length => ""
  | .orElse _ text | .orAssign _ text | .ifGiven _ text | .orFail _ text | .without _ _ text => text

/-- More than the number of braces that are open at once in a part. -/
def Part.depth : Part → Nat
  | .parameter _ use _ => use.text.length + 1
  | _ => 1

/-- The parts of a text that stands within the braces of a parameter. -/
def innerParts (quoted : Bool) (text : String) : Word :=
  let cs := if quoted then text.toList else text.toList.filter fun c => c ≠ '"' && c ≠ '\''
  match readWord (2 * cs.length + 4) .double [] (cs ++ ['"']) with
  | .ok (parts, _) => parts
  | .error _ => [.literal text quoted]

/-- The parts of a pattern that stands within the braces of a parameter. -/
def patternParts (text : String) : Word :=
  match readWord (2 * text.length + 4) .bare [] text.toList with
  | .ok (parts, []) => parts
  | _ => [.literal text false]

/-- A text without the line feeds at its end. -/
def withoutLineFeeds (cs : List Char) : String := String.ofList (cs.reverse.dropWhile (· = '\n')).reverse

/-- What a script within a script writes. -/
def substitute (runInner : Runner) (script : String) : Expanding String := do
  let s ← get
  let (inner, flow) := runInner s.inside script
  let (after, _) := s.rejoin inner flow
  set { after with output := s.output, tail := s.tail, status := s.status, substituted := after.status }
  return withoutLineFeeds (Text.decode inner.output).toList

/-- The value of an expression. -/
def calculate (expression : String) : Expanding String := do
  let s ← get
  match evaluate? (fun name => ((s.parameter name).bind Program.readWhole?).getD 0) expression with
  | some n => return toString n
  | none => throw ("arithmetic expression: division by zero: \"" ++ expression ++ "\"")

/-- The text of fragments. -/
def joined (fragments : List Fragment) : String := String.join (fragments.map (·.text))

/-- What is made of a parameter. -/
def useParameter (expandWord : Word → Expanding (List Fragment)) (name : String) (use : Use) (quoted : Bool) :
    Expanding String := do
  let s ← get
  let value := s.parameter name
  let given (emptyToo : Bool) : Option String := if emptyToo then value.filter (!·.isEmpty) else value
  let inner (text : String) : Expanding String := return joined (← expandWord (innerParts quoted text))
  match use with
  | .value =>
    if s.needsValues && value.isNone then throw (name ++ ": parameter not set")
    else return value.getD ""
  | .length => return toString (value.getD "").length
  | .orElse emptyToo text =>
    match given emptyToo with
    | some found => return found
    | none => inner text
  | .orAssign emptyToo text =>
    match given emptyToo with
    | some found => return found
    | none => do
      let found ← inner text
      modify (·.assign name found)
      return found
  | .ifGiven emptyToo text =>
    match given emptyToo with
    | some _ => inner text
    | none => return ""
  | .orFail emptyToo text =>
    match given emptyToo with
    | some found => return found
    | none =>
      if text.isEmpty then throw (name ++ ": parameter not set" ++ (if emptyToo then " or null" else ""))
      else throw (name ++ ": " ++ (← inner text))
  | .without front longest text => do
    let fragments ← expandWord (patternParts text)
    return withoutMatch (pattern (marked fragments)) front longest (value.getD "")

/-- The fragments of the arguments between double quotes, each a field of its own. -/
def separateArguments (args : List String) : List Fragment :=
  ((args.map fun a => [(⟨a, true⟩ : Fragment)]).intersperse [⟨" ", false⟩]).flatten

/-- Expands one part of a word. The fuel bounds the number of braces that are open at once. -/
def expandPart (runInner : Runner) : Nat → Part → Expanding (List Fragment)
  | 0, _ => return []
  | fuel + 1, part =>
    match part with
    | .literal text quoted => return [⟨text, quoted⟩]
    | .tilde name => return [⟨(← get).homeFor name, true⟩]
    | .parameter "@" .value true => return separateArguments ((← get).args.drop 1)
    | .parameter name use quoted => do
      let expandWord (w : Word) : Expanding (List Fragment) :=
        return (← w.mapM fun inner => expandPart runInner fuel inner).flatten
      return [⟨← useParameter expandWord name use quoted, quoted⟩]
    | .command script quoted => return [⟨← substitute runInner script, quoted⟩]
    | .arithmetic expression quoted => return [⟨← calculate expression, quoted⟩]

/-- Expands a word to fragments. -/
def expandFragments (runInner : Runner) (w : Word) : Expanding (List Fragment) :=
  return (← w.mapM fun part => expandPart runInner part.depth part).flatten

/-- Expands a word to one text. -/
def expandText (runInner : Runner) (w : Word) : Expanding String :=
  return joined (← expandFragments runInner w)

/-- Expands a word to the words of a command; the arguments between double quotes are none if there are none. -/
def expandWord (runInner : Runner) (w : Word) : Expanding (List String) := do
  let fragments ← expandFragments runInner w
  let s ← get
  if w.contains (.parameter "@" .value true) && s.args.length ≤ 1 && fragments.all (·.text.isEmpty) then
    return []
  else return (splitFields [] false fragments).flatMap (expandField s.files)

/-- Expands words to the words of a command. -/
def expandWords (runInner : Runner) (ws : List Word) : Expanding (List String) :=
  return (← ws.mapM (expandWord runInner)).flatten

/-- Expands the targets of redirections. -/
def expandTargets (runInner : Runner) (redirects : List Redirect) : Expanding (List (Nat × Target)) :=
  redirects.mapM fun r => do
    match Target.ofText? r.operator (← expandText runInner r.target) with
    | some target => return (r.descriptor, target)
    | none => throw "Syntax error: Bad fd number"

/-- Sets variables before a command. -/
def assignAll (runInner : Runner) (assignments : List (String × Word)) : Expanding (List (String × String)) :=
  assignments.mapM fun (name, w) => do
    let value ← expandText runInner w
    if (← get).fixed.contains name then throw (fixedText name)
    modify (·.assign name value)
    return (name, value)

/-- Whether one of some patterns stands for a text. -/
def matchesAny (runInner : Runner) (text : String) (patterns : List Word) : Expanding Bool :=
  patterns.anyM fun w => do
    return matchesPattern (pattern (marked (← expandFragments runInner w))) text.toList

end CommandShell.Script
