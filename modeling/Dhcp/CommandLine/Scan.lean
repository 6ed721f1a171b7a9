/-!
# Reading the options of a command

The arguments of a command are read from left to right. An option is written with its long name or
its one-letter name, and its value stands behind an equals sign, behind the letter, or in the next
argument. A value in the next argument is looked at only when the option is complete, which is when
another known option begins or the arguments end; so an argument that is no option of the command at
all is reported before a bad value in front of it.

A command is described by its `Switch`es, each of which says what its option does to the settings
that are being collected. Scanning is the same for every command.
-/

namespace Dhcp

/-- Why arguments do not lead to a command that can be run. -/
inductive Refusal where
  | displayHelp
  | displayHelpForMissing
  | displayVersion
  | invalidSubcommand
  | unknownArgument
  | invalidValue
  | valueValidation
  | argumentConflict
  | tooManyValues
  | missingRequiredArgument
deriving DecidableEq

namespace CommandLine

/-! ## Arguments -/

/-- What an argument looks like before it is known which command it belongs to. -/
inductive Token where
  /-- Everything behind it is no option, whatever it looks like. -/
  | escape
  | long (name : String) (value : Option String)
  | short (letters : List Char)
  | plain (text : String)
deriving DecidableEq

/-- What an argument looks like. -/
def Token.ofArgument (argument : String) : Token :=
  match argument.toList with
  | ['-', '-'] => .escape
  | '-' :: '-' :: text =>
    match text.span (· ≠ '=') with
    | (name, []) => .long (String.ofList name) none
    | (name, _ :: value) => .long (String.ofList name) (some (String.ofList value))
  | '-' :: letter :: rest => .short (letter :: rest)
  | _ => .plain argument

/-! ## Options of a command -/

/-- What an option does to settings of type `σ`. -/
inductive Effect (σ : Type) where
  /-- It needs a value, which may be refused. -/
  | takes (store : String → Except Refusal (σ → σ))
  /-- It stands alone. -/
  | sets (change : σ → σ)
  /-- It ends reading. -/
  | ends (refusal : Refusal)

/-- An option of a command. -/
structure Switch (σ : Type) where
  long : String
  short : Option Char := none
  /-- Whether the option may be given more than once. -/
  repeats : Bool := false
  effect : Effect σ

/-! ## Scanning -/

/-- What has been read: the settings, the names of the complete options, and the option that is not
complete, with its value if that has been seen. -/
structure Scan (σ : Type) where
  settings : σ
  seen : List String := []
  pending : Option (Switch σ × Option String) := none

namespace Scan

variable {σ : Type}

/-- Notes that an option is complete, unless it was already and may not be again. -/
def note (s : Scan σ) (switch : Switch σ) : Except Refusal (Scan σ) :=
  if switch.long ∈ s.seen ∧ ¬switch.repeats then .error .argumentConflict
  else .ok { s with seen := switch.long :: s.seen }

/-- Completes an option with its value. -/
def store (s : Scan σ) (switch : Switch σ) (value : String) : Except Refusal (Scan σ) := do
  let s ← s.note switch
  match switch.effect with
  | .takes store =>
    let change ← store value
    pure { s with settings := change s.settings }
  | _ => pure s

/-- Completes the option that is not complete; it must have its value. -/
def settle (s : Scan σ) : Except Refusal (Scan σ) :=
  match s.pending with
  | none => .ok s
  | some (_, none) => .error .invalidValue
  | some (switch, some value) => { s with pending := none }.store switch value

/-- Begins an option whose value may be attached to it. -/
def begin (s : Scan σ) (switch : Switch σ) (attached : Option String) :
    Except Refusal (Scan σ) := do
  let s ← s.settle
  match switch.effect, attached with
  | .takes _, some value => s.store switch value
  | .takes _, none => pure { s with pending := some (switch, none) }
  | .sets change, _ =>
    let s ← s.note switch
    pure { s with settings := change s.settings }
  | .ends refusal, _ => throw refusal

/-- Reads an option that is written with its long name. -/
def readLong (s : Scan σ) (switches : List (Switch σ)) (name : String) (value : Option String) :
    Except Refusal (Scan σ) :=
  match switches.find? fun w => w.long = name with
  | none => .error .unknownArgument
  | some switch =>
    match switch.effect, value with
    | .takes _, value => s.begin switch value
    | _, none => s.begin switch none
    | _, some _ => .error .tooManyValues

/-- Reads options that are written with one letter each; what stands behind the letter of an option
that needs a value is that value, with or without an equals sign. -/
def readShort (s : Scan σ) (switches : List (Switch σ)) : List Char → Except Refusal (Scan σ)
  | [] => .ok s
  | letter :: rest =>
    match switches.find? fun w => w.short = some letter with
    | none => .error .unknownArgument
    | some switch =>
      match switch.effect, rest with
      | .takes _, [] => s.begin switch none
      | .takes _, '=' :: value => s.begin switch (some (String.ofList value))
      | .takes _, value => s.begin switch (some (String.ofList value))
      | _, rest => do
        let s ← s.begin switch none
        readShort s switches rest

/-- Reads what is no option: the value of the option in front of it. -/
def readPlain (s : Scan σ) (text : String) : Except Refusal (Scan σ) :=
  match s.pending with
  | some (switch, none) => .ok { s with pending := some (switch, some text) }
  | _ => .error .unknownArgument

/-- Reads all arguments. -/
def readAll (switches : List (Switch σ)) : List String → Scan σ → Except Refusal σ
  | [], s => s.settle.map (·.settings)
  | argument :: arguments, s =>
    match Token.ofArgument argument with
    | .escape =>
      if arguments = [] then s.settle.map (·.settings) else .error .unknownArgument
    | .long name value => do readAll switches arguments (← s.readLong switches name value)
    | .short letters => do readAll switches arguments (← s.readShort switches letters)
    | .plain text => do readAll switches arguments (← s.readPlain text)

end Scan

/-- The settings that arguments make of the settings they start from. -/
def scan {σ : Type} (switches : List (Switch σ)) (arguments : List String) (settings : σ) :
    Except Refusal σ :=
  Scan.readAll switches arguments { settings := settings }

end CommandLine

end Dhcp
