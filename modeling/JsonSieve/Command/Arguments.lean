/-
# The command line

What the arguments of the program ask for.  Each command takes its own options and at most one plain
argument; options stand anywhere, short ones together behind one hyphen, and a value follows its
option either at once, behind an equals sign, or as the next argument.  After `--` nothing is an
option.

Arguments that no command takes ask for nothing, and it is not recorded why.
-/
import JsonSieve.Command.Run
import JsonSieve.Command.Manual

namespace JsonSieve.Command

/-! ## 1. What can be given -/

/-- What the program is asked to do: to evaluate something (`RunOptions`), or only to tell about
itself. -/
inductive Invocation where
  | version
  | help
  | manual
  | page (name : String)
  | run (request : Request)
deriving DecidableEq, Repr

/-- Which options and arguments a command takes. -/
structure Form where
  takesInput : Bool
  takesLayout : Bool
  takesArgument : Bool

/-- What has been given so far. -/
structure Given where
  verbose : Bool
  indented : Bool
  input? : Option String
  argument? : Option String

/-- Nothing given yet. -/
def Given.nothing : Given := ⟨false, false, none, none⟩

/-! ## 2. Options -/

/-- An option that stands for itself: given once, and by a command that takes it. -/
def Given.switch (g : Given) (form : Form) : Char → Option Given
  | 'v' => if g.verbose then none else some { g with verbose := true }
  | 'p' => if g.indented || !form.takesLayout then none else some { g with indented := true }
  | _ => none

/-- The option with a value, given once and by a command that takes it. -/
def Given.setInput (g : Given) (form : Form) (value : String) : Option Given :=
  if form.takesInput && g.input?.isNone then some { g with input? := some value } else none

/-- A plain argument, given once and to a command that takes one. -/
def Given.setArgument (g : Given) (form : Form) (value : String) : Option Given :=
  if form.takesArgument && g.argument?.isNone then some { g with argument? := some value } else none

/-- Whether an argument is not an option. -/
def isPlain (token : List Char) : Bool :=
  match token with
  | '-' :: _ :: _ => false
  | _ => true

/-- What short options behind one hyphen give: the options so far and, if the last one is waiting
for its value, that it does. -/
def readShort (form : Form) (g : Given) : List Char → Option (Given × Bool)
  | [] => some (g, false)
  | 'i' :: [] => some (g, true)
  | 'i' :: '=' :: value => (g.setInput form (String.ofList value)).map fun g => (g, false)
  | 'i' :: value => (g.setInput form (String.ofList value)).map fun g => (g, false)
  | c :: cs => (g.switch form c).bind fun g => readShort form g cs

/-- What a long option gives; a value may follow an equals sign. -/
def readLong (form : Form) (g : Given) (text : List Char) : Option (Given × Bool) :=
  let name := String.ofList (text.takeWhile (· != '='))
  let value? := match text.dropWhile (· != '=') with
    | '=' :: value => some (String.ofList value)
    | _ => none
  match name, value? with
  | "verbose", none => (g.switch form 'v').map fun g => (g, false)
  | "pretty", none => (g.switch form 'p').map fun g => (g, false)
  | "input", none => some (g, true)
  | "input", some value => (g.setInput form value).map fun g => (g, false)
  | _, _ => none

/-! ## 3. Commands -/

/-- What an argument gives: the options so far and whether the last one is waiting for its value. -/
def readToken (form : Form) (g : Given) (token : String) : Option (Given × Bool) :=
  match token.toList with
  | '-' :: '-' :: text => readLong form g text
  | '-' :: c :: cs => readShort form g (c :: cs)
  | _ => (g.setArgument form token).map fun g => (g, false)

/-- What the arguments after the name of a command give. -/
def readGiven (form : Form) : Given → List String → Option Given
  | g, [] => some g
  | g, "--" :: rest => rest.foldlM (fun g token => g.setArgument form token) g
  | g, token :: rest =>
    match readToken form g token, rest with
    | none, _ => none
    | some (g, false), rest => readGiven form g rest
    | some (_, true), [] => none
    | some (g, true), value :: rest =>
      if isPlain value.toList then
        (g.setInput form value).bind fun g => readGiven form g rest
      else none

/-- The request that is made of a command that evaluates. -/
def requestOf (action : Action) (g : Given) : Option Invocation :=
  g.argument?.map fun query => .run ⟨action, query, g.input?, g.indented⟩

/-- What a command and the arguments after its name ask for. -/
def readCommand (command : String) (g : Given) (args : List String) :
    Option (Invocation × Bool) := do
  let evaluating (action : Action) (form : Form) : Option (Invocation × Bool) := do
    let g' ← readGiven form .nothing args
    return (← requestOf action g', g.verbose || g'.verbose)
  match command with
  | "check" => evaluating .check ⟨true, false, true⟩
  | "keep" => evaluating .keep ⟨true, true, true⟩
  | "retrieve" => evaluating .retrieve ⟨true, true, true⟩
  | "search" => evaluating .search ⟨true, true, true⟩
  | "compile" => evaluating .compile ⟨false, false, true⟩
  | "docs" =>
    let g' ← readGiven ⟨false, false, false⟩ .nothing args
    return (.manual, g.verbose || g'.verbose)
  | "doc" =>
    let g' ← readGiven ⟨false, false, true⟩ .nothing args
    return (.page (← g'.argument?), g.verbose || g'.verbose)
  | "help" => return (.help, g.verbose)
  | _ => none

/-- What the options before the name of a command give, as far as they go: the version or the help
is asked for at once. -/
def readFront (g : Given) : List Char → Option (Given ⊕ Invocation)
  | [] => some (.inl g)
  | 'V' :: _ => some (.inr .version)
  | 'h' :: _ => some (.inr .help)
  | c :: cs => (g.switch ⟨false, false, false⟩ c).bind fun g => readFront g cs

/-- What the arguments of the program ask for, and whether it is to tell what it does. -/
def readArguments (g : Given) : List String → Option (Invocation × Bool)
  | [] => none
  | "--version" :: _ => some (.version, g.verbose)
  | "--help" :: _ => some (.help, g.verbose)
  | "--verbose" :: rest => (g.switch ⟨false, false, false⟩ 'v').bind fun g => readArguments g rest
  | token :: rest => match token.toList with
    | '-' :: '-' :: _ => none
    | '-' :: c :: cs => match readFront g (c :: cs) with
      | some (.inl g) => readArguments g rest
      | some (.inr invocation) => some (invocation, g.verbose)
      | none => none
    | _ => readCommand token g rest

/-! ## 4. Runs of the program -/

/-- What a run of the program leaves behind: its exit code and what it wrote to either output. -/
structure Report where
  code : Nat
  output : String
  complaint : String
deriving DecidableEq, Repr

/-- A run that went well. -/
def Report.done (output : String) : Report := ⟨0, output, ""⟩

/-- A run that ended with a failure (`exit_with`). -/
def Report.failed (f : Failure) : Report := ⟨1, "", f.message ++ "\n"⟩

/-- How the program is to be called. -/
def usage : String :=
  "Usage: jsonq [-v] <check|keep|retrieve|search|compile|docs|doc> [options] [argument]\n"

/-- What a run leaves behind that has come to an outcome (`run`).  A document that is not admitted,
or that is rejected, is no failure, but the exit code tells. -/
def Outcome.report : Outcome → Report
  | admitted true => .done "true\n"
  | admitted false => ⟨1, "false\n", ""⟩
  | json text => .done (text ++ "\n")
  | rejected => ⟨1, "", ""⟩
  | compiled q => .done ("Syntax is valid\n" ++ q.outline)

/-- Whether a run has to read its document from the standard input. -/
def Invocation.readsInput : Invocation → Bool
  | run r => r.action != .compile && r.input?.isNone
  | _ => false

/-- The request with the document that was read for it, if it has none of its own. -/
def Request.withInput (r : Request) (text : String) : Request :=
  { r with input? := some (r.input?.getD text) }

/-- A run of the program; `input` is the standard input, which is read for a document that no option
gives. -/
def Invocation.report (ρ : Rounding) (input : String) : Invocation → Report
  | version => .done "jsonq 0.2.0\n"
  | help => .done usage
  | manual => .done overviewPage
  | page name => match Topic.ofName? name with
    | some topic => .done topic.page
    | none => .failed (.unknownTopic name)
  | run r => match execute ρ (r.withInput input) with
    | .ok outcome => outcome.report
    | .error f => .failed f

/-- What a run leaves behind whose arguments ask for nothing. -/
def Report.misused : Report := ⟨2, "", usage⟩

end JsonSieve.Command
