import ShaderConformance.Model.Basic

/-!
# Options of the command

The command takes the files to run, and options among them in any order.  An option
with a value has it in the next argument or behind an equals sign; options of one letter
may be joined.  Behind `--` all arguments are files.

Main statement:

* `raise_files` an option does not change the files.
-/

namespace ShaderConformance.CommandLine

/-- What the command is asked to do. -/
structure Options where
  files : List String
  /-- Whether shaders are only compiled. -/
  compileOnly : Bool
  /-- The file of the capability profile. -/
  profile? : Option String
  /-- The path of the external compiler, if it is given. -/
  tool? : Option String
  minimumModel? : Option ShaderModel
  maximumModel? : Option ShaderModel
  /-- Whether results are printed as JSON. -/
  json : Bool
  /-- How often more log entries are asked for. -/
  verbosity : Nat
deriving DecidableEq, Repr

namespace Options

def none : Options := ⟨[], false, .none, .none, .none, .none, false, 0⟩

/-- The path of the external compiler. -/
def tool (o : Options) : String := o.tool?.getD "dxc"

end Options

/-- An option without a value. -/
inductive Flag where
  | compileOnly
  | json
  | verbose
  | help
  | version
deriving DecidableEq, Repr

/-- An option with a value. -/
inductive Setting where
  | profile
  | tool
  | minimumModel
  | maximumModel
deriving DecidableEq, Repr

/-- The flags by their names. -/
def flagNames : List (String × Flag) :=
  [("compile-only", .compileOnly), ("json", .json), ("verbose", .verbose), ("help", .help),
   ("version", .version)]

/-- The flags by their letters. -/
def flagLetters : List (Char × Flag) := [('v', .verbose), ('h', .help), ('V', .version)]

/-- The settings by their names. -/
def settingNames : List (String × Setting) :=
  [("caps", .profile), ("dxc", .tool), ("min-model", .minimumModel), ("max-model", .maximumModel)]

/-- Why arguments make no sense. -/
inductive Misuse where
  | unexpected (argument : String)
  | repeated (option : String)
  | valueMissing (option : String)
  | valueUnexpected (option : String)
  | valueInvalid (option value : String)
  | noFiles
deriving DecidableEq, Repr

def Misuse.message : Misuse → String
  | unexpected argument => s!"unexpected argument '{argument}' found"
  | repeated option => s!"the argument '--{option}' cannot be used multiple times"
  | valueMissing option => s!"a value is required for '--{option}' but none was supplied"
  | valueUnexpected option => s!"no value is expected for '--{option}'"
  | valueInvalid option value => s!"invalid value '{value}' for '--{option}'"
  | noFiles => "the following required arguments were not provided: <FILES>..."

/-- What arguments ask for. -/
inductive Invocation where
  | run (o : Options)
  | help
  | version
  | misuse (m : Misuse)
deriving DecidableEq, Repr

/-! ## Reading -/

/-- An argument outside of values. -/
inductive Argument where
  /-- What follows are files. -/
  | separator
  | long (name : String) (value? : Option String)
  | letters (flags : List Char)
  | file (name : String)
deriving DecidableEq, Repr

/-- What an argument is. -/
def Argument.ofString (s : String) : Argument :=
  match s.toList with
  | ['-', '-'] => .separator
  | '-' :: '-' :: rest =>
    match Text.splitFirst? '=' rest with
    | some (name, value) => .long (.ofList name) (some (.ofList value))
    | none => .long (.ofList rest) none
  | '-' :: c :: rest => .letters (c :: rest)
  | _ => .file s

/-- Whether an argument can be a value that stands alone. -/
def isValue (s : String) : Bool :=
  match Argument.ofString s with
  | .file _ => true
  | _ => false

namespace Options

/-- Adds a file. -/
def withFile (o : Options) (name : String) : Except Misuse Options :=
  if name.isEmpty then .error (.valueMissing "files")
  else .ok { o with files := o.files ++ [name] }

/-- Raises a flag.  Only the verbosity can be raised again. -/
def raise (o : Options) : Flag → Except Misuse Options
  | .compileOnly =>
    if o.compileOnly then .error (.repeated "compile-only") else .ok { o with compileOnly := true }
  | .json => if o.json then .error (.repeated "json") else .ok { o with json := true }
  | .verbose => .ok { o with verbosity := o.verbosity + 1 }
  | .help | .version => .ok o

/-- A flag leaves the files as they are. -/
theorem raise_files {o p : Options} {f : Flag} (h : o.raise f = .ok p) :
    p.files = o.files := by
  cases f <;> simp only [raise] at h
  case compileOnly => split at h <;> cases h; rfl
  case json => split at h <;> cases h; rfl
  all_goals cases h; rfl

/-- A path that an option names. -/
def path (name value : String) (old : Option String) : Except Misuse (Option String) :=
  if old.isSome then .error (.repeated name)
  else if value.isEmpty then .error (.valueMissing name)
  else .ok (some value)

/-- A model that an option names. -/
def model (name value : String) (old : Option ShaderModel) : Except Misuse (Option ShaderModel) :=
  if old.isSome then .error (.repeated name)
  else
    match ShaderModel.parse value.toList with
    | .ok m => .ok (some m)
    | .error _ => .error (.valueInvalid name value)

/-- Takes a setting over.  No setting is given twice. -/
def set (o : Options) (name value : String) : Setting → Except Misuse Options
  | .profile => (path name value o.profile?).map ({ o with profile? := · })
  | .tool => (path name value o.tool?).map ({ o with tool? := · })
  | .minimumModel => (model name value o.minimumModel?).map ({ o with minimumModel? := · })
  | .maximumModel => (model name value o.maximumModel?).map ({ o with maximumModel? := · })

end Options

namespace Invocation

/-- Goes on with the options that a step gave. -/
def after (step : Except Misuse Options) (next : Options → Invocation) : Invocation :=
  match step with
  | .ok o => next o
  | .error m => .misuse m

/-- What a flag asks for. -/
def ofFlag (o : Options) (next : Options → Invocation) : Flag → Invocation
  | .help => .help
  | .version => .version
  | f => after (o.raise f) next

/-- What joined letters ask for. -/
def ofLetters (o : Options) (next : Options → Invocation) : List Char → Invocation
  | [] => next o
  | c :: more =>
    match flagLetters.lookup c with
    | some f => ofFlag o (fun o => ofLetters o next more) f
    | none => .misuse (.unexpected s!"-{c}")

/-- What arguments behind `--` ask for. -/
def ofFiles (o : Options) : List String → Invocation
  | [] => if o.files.isEmpty then .misuse .noFiles else .run o
  | name :: more => after (o.withFile name) fun o => ofFiles o more

/-- What arguments ask for, on top of options that were read. -/
def onto (o : Options) (arguments : List String) : Invocation :=
  match arguments with
  | [] => if o.files.isEmpty then .misuse .noFiles else .run o
  | argument :: more =>
    match Argument.ofString argument with
    | .separator => ofFiles o more
    | .file name => after (o.withFile name) fun o => onto o more
    | .letters letters => ofLetters o (fun o => onto o more) letters
    | .long name value? =>
      match flagNames.lookup name, settingNames.lookup name, value? with
      | some _, _, some _ => .misuse (.valueUnexpected name)
      | some f, _, none => ofFlag o (fun o => onto o more) f
      | none, some s, some value => after (o.set name value s) fun o => onto o more
      | none, some s, none =>
        match more with
        | [] => .misuse (.valueMissing name)
        | value :: rest =>
          if isValue value then after (o.set name value s) fun o => onto o rest
          else .misuse (.valueMissing name)
      | none, none, _ => .misuse (.unexpected argument)

/-- What arguments ask for. -/
def ofArguments (arguments : List String) : Invocation := onto .none arguments

end Invocation

end ShaderConformance.CommandLine
