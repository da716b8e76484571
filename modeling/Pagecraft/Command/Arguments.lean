import Pagecraft.Page.Saved
import Pagecraft.Text.Keyed

/-! The command line: options that apply to every command, before or after its name, and one of
five commands with options of its own. Every option takes a value. -/
namespace Pagecraft

inductive Command where
  | scaffold (name : Text)
  | validate (content : Text)
  | assets (content : Text)
  | render (content out : Text)
  | bundle (content : Text) (name out : Option Text)
deriving DecidableEq, Repr

structure Arguments where
  staticRoot : Option Text
  uploads : Option Text
  config : Option Text
  command : Command
deriving DecidableEq, Repr

namespace Arguments

inductive Outcome where
  | run (arguments : Arguments)
  | help
  | usageError
deriving DecidableEq, Repr

structure Flag where
  name : Text
  short : Option Char
  /-- Whether the value is a path, which may not be empty. -/
  isPath : Bool

def staticRootFlag : Flag := ⟨"static-root".toList, some 's', false⟩

def uploadsFlag : Flag := ⟨"uploads".toList, some 'u', false⟩

def configFlag : Flag := ⟨"config".toList, some 'c', true⟩

def nameFlag : Flag := ⟨"name".toList, some 'n', false⟩

def contentFlag : Flag := ⟨"content".toList, none, true⟩

def outFlag : Flag := ⟨"out".toList, some 'o', true⟩

def general : List Flag := [staticRootFlag, uploadsFlag, configFlag]

def commands : List (Text × List Flag) :=
  [("scaffold".toList, [nameFlag]), ("validate".toList, [contentFlag]),
    ("assets".toList, [contentFlag]), ("render".toList, [contentFlag, outFlag]),
    ("bundle".toList, [contentFlag, nameFlag, outFlag])]

def Flag.shown (flag : Flag) : Text :=
  "--".toList ++ flag.name ++ (if flag.isPath then " <path>" else " <value>").toList

def usage : Text :=
  let line (words : List Text) : Text := words.flatMap (' ' :: ' ' :: ·) ++ ['\n']
  "Commands:\n".toList ++
    commands.flatMap (fun (name, flags) => line (name :: flags.map Flag.shown)) ++
      "Flags of every command:\n".toList ++ line (general.map Flag.shown)

def helpName : Text := "help".toList

inductive Form where
  | separator
  | long (name : Text) (value : Option Text)
  | short (letter : Char) (value : Option Text)
  | word (word : Text)

def formOf : Text → Form
  | ['-', '-'] => .separator
  | '-' :: '-' :: t =>
    match Text.cut? ['='] t with
    | some (name, value) => .long name (some value)
    | none => .long t none
  | '-' :: letter :: [] => .short letter none
  | '-' :: letter :: '=' :: value => .short letter (some value)
  | '-' :: letter :: value => .short letter (some value)
  | t => .word t

abbrev Given := List (Text × Text)

inductive Scanned where
  | done (given : Given)
  | word (given : Given) (word : Text) (rest : List Text)
  | help
  | usageError

def give? (flag : Flag) (value : Text) (given : Given) : Option Given :=
  if Keyed.hasKey flag.name given || flag.isPath && value.isEmpty then none
  else some ((flag.name, value) :: given)

inductive Meaning where
  | help
  | flag (flag : Flag) (value : Option Text)
  | unknown

def meaningOf (flags : List Flag) : Form → Meaning
  | .long name value =>
    if name = helpName then if value.isNone then .help else .unknown
    else match flags.find? (·.name = name) with
      | some flag => .flag flag value
      | none => .unknown
  | .short letter value =>
    if letter = 'h' then .help
    else match flags.find? (·.short = some letter) with
      | some flag => .flag flag value
      | none => .unknown
  | .separator | .word _ => .unknown

def isValue (argument : Text) : Bool :=
  match formOf argument with
  | .word _ => true
  | _ => false

/-- Reads flags up to the first word. After a separator nothing may follow. -/
def scan (flags : List Flag) (given : Given) : List Text → Scanned
  | [] => .done given
  | argument :: rest =>
    match formOf argument with
    | .separator => if rest.isEmpty then .done given else .usageError
    | .word word => .word given word rest
    | form =>
      match meaningOf flags form with
      | .help => .help
      | .unknown => .usageError
      | .flag flag (some value) =>
        match give? flag value given with
        | some given => scan flags given rest
        | none => .usageError
      | .flag flag none =>
        match rest with
        | [] => .usageError
        | value :: rest =>
          if isValue value then
            match give? flag value given with
            | some given => scan flags given rest
            | none => .usageError
          else .usageError

def command? (name : Text) (given : Given) : Option Command :=
  let value? (flag : Flag) : Option Text := Keyed.get? flag.name given
  if name = "scaffold".toList then
    some (.scaffold ((value? nameFlag).getD SavedPage.defaultName))
  else if name = "validate".toList then (value? contentFlag).map .validate
  else if name = "assets".toList then (value? contentFlag).map .assets
  else if name = "render".toList then do
    return .render (← value? contentFlag) (← value? outFlag)
  else if name = "bundle".toList then do
    return .bundle (← value? contentFlag) (value? nameFlag) (value? outFlag)
  else none

def helpOn : List Text → Outcome
  | [] => .help
  | [name] =>
    if name = helpName || (commands.lookup name).isSome then .help else .usageError
  | _ => .usageError

/-- Values given after the name of the command count more than those before it. -/
def outcome (before after : Given) (name : Text) : Outcome :=
  let value? (flag : Flag) : Option Text :=
    (Keyed.get? flag.name after).or (Keyed.get? flag.name before)
  match command? name after with
  | some command =>
    .run ⟨value? staticRootFlag, value? uploadsFlag, value? configFlag, command⟩
  | none => .usageError

def read (arguments : List Text) : Outcome :=
  match scan general [] arguments with
  | .help => .help
  | .done _ | .usageError => .usageError
  | .word before name rest =>
    if name = helpName then helpOn rest
    else match commands.lookup name with
      | none => .usageError
      | some flags =>
        match scan (flags ++ general) [] rest with
        | .help => .help
        | .done after => outcome before after name
        | .word _ _ _ | .usageError => .usageError

end Arguments
end Pagecraft
