import Causeway.CommandLine.Verb

/-!
Reading arguments. The shared options may stand before the command and behind it, where they win. An
option is set when its value is complete and something else follows, so of several faults the first one
to be settled counts; what stands behind the command is settled before what stands in front of it.
-/

namespace Causeway.CommandLine

/-- The options and the commands that can be given at some place. -/
structure Level where
  options : List Opt
  commands : List String

namespace Level

def top : Level := ⟨Opt.shared ++ [.version], Verb.all.map Verb.name ++ ["help"]⟩

/-- Behind a command there are only options. -/
def ofVerb (v : Verb) : Level := ⟨v.options, []⟩

/-- The fault of an argument that is no option and no value of one. -/
def strayError (l : Level) : UsageError :=
  if l.commands.isEmpty then .unknownArgument else .unknownCommand

/-- The fault of an argument behind the end of the options. -/
def trailingError (l : Level) (argument : String) : UsageError :=
  if l.commands.contains argument then .unknownArgument else l.strayError

end Level

/-- The settings made so far, and the option at the end that is not yet set. -/
structure Progress where
  settings : Settings := {}
  pending : Option (Opt × Option String) := none

namespace Progress

/-- Sets the pending option. -/
def settle (p : Progress) : Except UsageError Progress :=
  match p.pending with
  | none => .ok p
  | some (_, none) => .error .invalidValue
  | some (o, some value) => (p.settings.set o value).map fun settings => { settings }

/-- Sets an option that is complete. -/
def take (p : Progress) (o : Opt) (value : String) : Except UsageError Progress := do
  let p ← p.settle
  let settings ← p.settings.set o value
  pure { settings }

/-- Waits for the value of an option. -/
def await (p : Progress) (o : Opt) : Except UsageError Progress :=
  p.settle.map fun p => { p with pending := some (o, none) }

/-- What follows two hyphens: a name, perhaps with a value behind an equals sign. -/
def long (l : Level) (p : Progress) (cs : List Char) : Except UsageError Progress :=
  let name := String.ofList (cs.takeWhile (· ≠ '='))
  match l.options.find? fun o => o.long == name, cs.dropWhile (· ≠ '=') with
  | none, _ => .error .unknownArgument
  | some o, [] => if o.takesValue then p.await o else p.take o ""
  | some o, _ :: value =>
    if o.takesValue then p.take o (String.ofList value) else .error .surplusValue

/-- What follows one hyphen: letters of options, of which the last may have its value behind it. -/
def short (l : Level) (p : Progress) : List Char → Except UsageError Progress
  | [] => .ok p
  | c :: r =>
    match l.options.find? fun o => o.short? == some c with
    | none => .error .unknownArgument
    | some o =>
      if o.takesValue then
        match r with
        | [] => p.await o
        | '=' :: value => p.take o (String.ofList value)
        | value => p.take o (String.ofList value)
      else do
        let p ← p.take o ""
        short l p r

end Progress

/-- Reads arguments up to a command, if there is one, and what stands behind it. -/
def scan (l : Level) (p : Progress) :
    List String → Except UsageError (Progress × Option (String × List String))
  | [] => .ok (p, none)
  | a :: r =>
    match p.pending, l.commands.contains a, a.toList with
    | some (_, some _), true, _ => .ok (p, some (a, r))
    | none, true, _ => .ok (p, some (a, r))
    | _, _, ['-', '-'] =>
      match r with
      | [] => .ok (p, none)
      | b :: _ => .error (l.trailingError b)
    | _, _, '-' :: '-' :: cs => do scan l (← p.long l cs) r
    | _, _, '-' :: c :: cs => do scan l (← p.short l (c :: cs)) r
    | some (o, none), _, _ => scan l { p with pending := some (o, some a) } r
    | _, _, _ => .error l.strayError

/-- What asking for help about some command leads to. -/
def helpError : List String → UsageError
  | [] => .helpRequested
  | [name] => if Level.top.commands.contains name then .helpRequested else .unknownCommand
  | _ => .unknownCommand

namespace Invocation

/-- Reads the arguments that follow the program's name. -/
def parse (arguments : List String) : Except UsageError Invocation := do
  match ← scan .top {} arguments with
  | (front, none) =>
    let front ← front.settle
    .error (if front.settings = {} then .nothingGiven else .commandMissing)
  | (front, some (name, rest)) =>
    match Verb.ofName? name with
    | none => .error (helpError rest)
    | some v =>
      let (back, _) ← scan (.ofVerb v) {} rest
      let back ← back.settle
      let command ← v.command back.settings
      let front ← front.settle
      pure {
        pluginsFolder := back.settings.pluginsFolder <|> front.settings.pluginsFolder
        format := (back.settings.format <|> front.settings.format).getD .json
        verbose := back.settings.verbose || front.settings.verbose
        command }

end Invocation

end Causeway.CommandLine
