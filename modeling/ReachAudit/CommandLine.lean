import ReachAudit.Table

namespace ReachAudit

inductive UsageError where
  | unknownArgument
  | missingValue
  | unexpectedValue
  | badValue
  | conflict
  | missingOption
  deriving DecidableEq, Repr

inductive Effect (α : Type) where
  | switch (set : α → α)
  | value (set : String → α → Option α)
  | values (add : List String → α → α)

def UsageError.message : UsageError → String
  | .unknownArgument => "unknown argument"
  | .missingValue => "an option needs a value"
  | .unexpectedValue => "an option takes no value"
  | .badValue => "invalid value"
  | .conflict => "an argument cannot be used with another, or twice"
  | .missingOption => "a required option is missing"

structure CommandOption (α : Type) where
  name : String
  envVar : Option String := none
  effect : Effect α
  required : Bool := false
  excludes : List String := []

structure Parsed (α : Type) where
  settings : α
  given : List String := []

namespace CommandLine

variable {α : Type}

/-- Applies an option. What it lacks is seen before that it comes again, and that before its value
    is looked at. -/
def applyOption (option : CommandOption α) (value : Option String) (p : Parsed α) :
    Except UsageError (Parsed α) :=
  let given := p.given ++ [option.name]
  match option.effect, value with
  | .switch _, some _ => .error .unexpectedValue
  | .switch set, none =>
    if p.given.contains option.name then .error .conflict
    else .ok { settings := set p.settings, given }
  | .value _, none => .error .missingValue
  | .value set, some v =>
    if p.given.contains option.name then .error .conflict
    else
      match set v p.settings with
      | some settings => .ok { settings, given }
      | none => .error .badValue
  | .values _, none => .error .missingValue
  | .values add, some v => .ok { settings := add (v.splitOn ",") p.settings, given }

structure Pending (α : Type) where
  option : CommandOption α
  value : Option String := none

def applyPending (pending : Option (Pending α)) (p : Parsed α) : Except UsageError (Parsed α) :=
  match pending with
  | some waiting => applyOption waiting.option waiting.value p
  | none => .ok p

def splitArgument (cs : List Char) : String × Option String :=
  match cs.span (· ≠ '=') with
  | (name, []) => (String.ofList name, none)
  | (name, _ :: value) => (String.ofList name, some (String.ofList value))

/-- Reads the arguments. An option whose value is an argument of its own takes effect only when the
    next option is met, so an unknown argument is reported first. -/
def readArguments (options : List (CommandOption α)) :
    List String → Option (Pending α) → Parsed α → Except UsageError (Parsed α)
  | [], pending, p => applyPending pending p
  | argument :: rest, pending, p =>
    match argument.toList with
    | '-' :: '-' :: [] => if rest = [] then applyPending pending p else .error .unknownArgument
    | '-' :: '-' :: cs =>
      let (name, value) := splitArgument cs
      match options.find? (·.name = name) with
      | none => .error .unknownArgument
      | some option =>
        match option.effect, value with
        | .switch _, some _ => .error .unexpectedValue
        | .switch _, none => do
          readArguments options rest none (← applyOption option none (← applyPending pending p))
        | _, some v => do
          readArguments options rest none (← applyOption option (some v) (← applyPending pending p))
        | _, none => do
          readArguments options rest (some { option }) (← applyPending pending p)
    | '-' :: _ :: _ => .error .unknownArgument
    | _ =>
      match pending with
      | some { option, value := none } =>
        readArguments options rest (some { option, value := some argument }) p
      | _ => .error .unknownArgument

def readVariables (options : List (CommandOption α)) (environment : Table String String)
    (p : Parsed α) : Except UsageError (Parsed α) :=
  options.foldlM (fun p option =>
    match option.envVar.bind environment.get? with
    | some v => if p.given.contains option.name then .ok p else applyOption option (some v) p
    | none => .ok p) p

def clash (options : List (CommandOption α)) (p : Parsed α) : Bool :=
  options.any fun option =>
    p.given.contains option.name && option.excludes.any (p.given.contains ·)

def lacks (options : List (CommandOption α)) (p : Parsed α) : Bool :=
  options.any fun option => option.required && !p.given.contains option.name

def read (options : List (CommandOption α)) (defaults : α) (environment : Table String String)
    (arguments : List String) : Except UsageError α := do
  let p ← readArguments options arguments none { settings := defaults }
  let p ← readVariables options environment p
  if clash options p then throw .conflict
  if lacks options p then throw .missingOption
  return p.settings

end CommandLine

end ReachAudit
