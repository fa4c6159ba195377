import Legible.Config.Layer

/-!
# Reading the command line

Arguments are read from left to right. A word in a command's place names a subcommand, any other
word is a file or a path; options may stand anywhere after the command they belong to, and some
belong to every command. The first word that does not fit ends the reading.
-/

namespace Legible.Command

inductive OutputFormat where
  | text
  | json
deriving DecidableEq

inductive FileFormat where
  | json
  | toml
deriving DecidableEq

inductive Action where
  | render (files : List String) (format : OutputFormat) (overrides : Layer)
  | configInit (format : FileFormat) (force : Bool)
  | configValidate (path : Option String)
  | configShow
  | configSchema
  | version (detailed : Bool)
  | help

structure Invocation where
  action : Action
  /-- The configuration file to use. -/
  config : Option String := none

inductive Reading where
  | invocation (i : Invocation)
  | programVersion
  | help
  | usageError

/-- Where a word stands: after which command. -/
inductive Level where
  | program
  | render
  | config
  | configInit
  | configValidate
  | configShow
  | configSchema
  | version
deriving DecidableEq

inductive Opt where
  | config
  | verbose
  | logFormat
  | noColor
  | threads
  | help
  | programVersion
  | format
  | noTypeNames
  | noTypeArguments
  | hideCaptured
  | indentStyle
  | indentSize
  | lineWidth
  | fileFormat
  | force
  | detailed
deriving DecidableEq

inductive ValueKind where
  | path
  | size
  | choice (words : List String)

def ValueKind.accepts : ValueKind → String → Bool
  | .path, s => s != ""
  | .choice words, s => words.contains s
  | .size, s =>
    let digits :=
      match s.toList with
      | '+' :: r => r
      | r => r
    !digits.isEmpty && digits.all Char.isDigit &&
      decide (digits.foldl (fun n c => 10 * n + (c.toNat - '0'.toNat)) 0 < 0x10000000000000000)

namespace Opt

def long : Opt → String
  | .config => "config"
  | .verbose => "verbose"
  | .logFormat => "log-format"
  | .noColor => "no-color"
  | .threads => "threads"
  | .help => "help"
  | .programVersion => "version"
  | .format => "format"
  | .noTypeNames => "no-explicit-type-names"
  | .noTypeArguments => "no-explicit-generic-parameters"
  | .hideCaptured => "hide-captured-values"
  | .indentStyle => "indent-style"
  | .indentSize => "indent-size"
  | .lineWidth => "line-width"
  | .fileFormat => "format"
  | .force => "force"
  | .detailed => "detailed"

def short : Opt → Option Char
  | .config => some 'c'
  | .verbose => some 'v'
  | .threads => some 'j'
  | .help => some 'h'
  | .programVersion => some 'V'
  | .format => some 'f'
  | _ => none

def value? : Opt → Option ValueKind
  | .config => some .path
  | .logFormat => some (.choice ["text", "json"])
  | .threads => some .size
  | .format => some (.choice ["text", "json"])
  | .indentStyle => some (.choice ["spaces", "tabs"])
  | .indentSize => some .size
  | .lineWidth => some .size
  | .fileFormat => some (.choice ["json", "toml"])
  | _ => none

end Opt

namespace Level

def shared : List Opt := [.config, .verbose, .logFormat, .noColor, .threads, .help]

def options : Level → List Opt
  | .program => .programVersion :: shared
  | .render =>
    [.format, .noTypeNames, .noTypeArguments, .hideCaptured, .indentStyle, .indentSize,
     .lineWidth] ++ shared
  | .configInit => [.fileFormat, .force] ++ shared
  | .version => .detailed :: shared
  | .config | .configValidate | .configShow | .configSchema => shared

def subcommand? : Level → String → Option Level
  | .program, "render" => some .render
  | .program, "config" => some .config
  | .program, "version" => some .version
  | .program, "ver" => some .version
  | .config, "init" => some .configInit
  | .config, "validate" => some .configValidate
  | .config, "show" => some .configShow
  | .config, "schema" => some .configSchema
  | _, _ => none

def isHelp (level : Level) (word : String) : Bool :=
  (level == .program || level == .config) && word == "help"

/-- How many more words a command takes. -/
def takesWord (level : Level) (given : Nat) : Bool :=
  match level with
  | .render => true
  | .configValidate => given == 0
  | _ => false

end Level

/-- What has been read so far: the options of this command, and its words, the latest first. -/
structure State where
  level : Level
  here : List (Opt × String)
  words : List String
  /-- The configuration file named at an earlier command. -/
  config : Option String

namespace State

def has (s : State) (o : Opt) : Bool := (s.here.lookup o).isSome

def config? (s : State) : Option String := (s.here.lookup .config).or s.config

def enter (s : State) (level : Level) : State := ⟨level, [], [], s.config?⟩

/-- Notes an option; only the verbosity may be given twice. -/
def note? (s : State) (o : Opt) (value : String) : Option State :=
  if s.has o && o != .verbose then none else some { s with here := (o, value) :: s.here }

def size? (s : State) (o : Opt) : Option Nat :=
  (s.here.lookup o).map fun v =>
    (v.toList.filter Char.isDigit).foldl (fun n c => 10 * n + (c.toNat - '0'.toNat)) 0

def disabled (s : State) (o : Opt) : Option Bool := if s.has o then some false else none

/-- The layer that the options of a render command make. -/
def overrides (s : State) : Layer where
  explicitTypeNames := s.disabled .noTypeNames
  explicitTypeArguments := s.disabled .noTypeArguments
  showCaptured := s.disabled .hideCaptured
  indentStyle := (s.here.lookup .indentStyle).map fun v => if v = "tabs" then .tabs else .spaces
  indentSize := s.size? .indentSize
  lineWidth := s.size? .lineWidth

def finish (s : State) : Reading :=
  match s.level with
  | .program => .invocation ⟨.help, s.config?⟩
  | .config => .usageError
  | .render =>
    if s.words.isEmpty then .usageError
    else
      let format := if s.here.lookup .format = some "json" then .json else .text
      .invocation ⟨.render s.words.reverse format s.overrides, s.config?⟩
  | .configInit =>
    let format := if s.here.lookup .fileFormat = some "toml" then .toml else .json
    .invocation ⟨.configInit format (s.has .force), s.config?⟩
  | .configValidate => .invocation ⟨.configValidate s.words.head?, s.config?⟩
  | .configShow => .invocation ⟨.configShow, s.config?⟩
  | .configSchema => .invocation ⟨.configSchema, s.config?⟩
  | .version => .invocation ⟨.version (s.has .detailed), s.config?⟩

def word (s : State) (w : String) : Option State :=
  if s.level.takesWord s.words.length && w != "" then some { s with words := w :: s.words }
  else none

end State

/-- What an argument does: leads on, wants the next one as a value, makes a topic of help of the
ones after it, or ends the reading. -/
inductive Effect where
  | next (s : State)
  | wants (s : State) (o : Opt) (kind : ValueKind)
  | asksHelp
  | stop (r : Reading)

def Effect.ofOption : Option State → Effect
  | some s => .next s
  | none => .stop .usageError

def flag (s : State) (o : Opt) : Effect :=
  if o = .help then .stop .help
  else if o = .programVersion then .stop .programVersion
  else .ofOption (s.note? o "")

def valued (s : State) (o : Opt) (kind : ValueKind) (value : String) : Effect :=
  if kind.accepts value then .ofOption (s.note? o value) else .stop .usageError

/-- Letters behind one dash: flags, and at last perhaps an option whose value is the rest. -/
def shorts (s : State) : List Char → Effect
  | [] => .next s
  | c :: rest =>
    match s.level.options.find? fun o => o.short == some c with
    | none => .stop .usageError
    | some o =>
      match o.value? with
      | some kind =>
        match rest with
        | [] => .wants s o kind
        | '=' :: value => valued s o kind (String.ofList value)
        | value => valued s o kind (String.ofList value)
      | none =>
        match flag s o with
        | .next s => shorts s rest
        | effect => effect

/-- A name behind two dashes, perhaps with a value behind an equals sign. -/
def longOption (s : State) (body : List Char) : Effect :=
  let name := String.ofList (body.takeWhile (· != '='))
  match s.level.options.find? fun o => o.long == name with
  | none => .stop .usageError
  | some o =>
    match o.value?, body.dropWhile (· != '=') with
    | some kind, [] => .wants s o kind
    | some kind, _ :: value => valued s o kind (String.ofList value)
    | none, [] => flag s o
    | none, _ :: _ => .stop .usageError

def argument (s : State) (arg : String) : Effect :=
  match arg.toList with
  | '-' :: '-' :: body => longOption s body
  | ['-'] => .ofOption (s.word arg)
  | '-' :: letters => shorts s letters
  | _ =>
    match s.level.subcommand? arg with
    | some level => .next (s.enter level)
    | none => if s.level.isHelp arg then .asksHelp else .ofOption (s.word arg)

def isValue (arg : String) : Bool :=
  match arg.toList with
  | ['-'] => true
  | '-' :: _ => false
  | _ => true

/-- Arguments after `--`, all of which are words. -/
def words (s : State) : List String → Reading
  | [] => s.finish
  | w :: rest =>
    match s.word w with
    | some s => words s rest
    | none => .usageError

/-- The words after `help`, which name a command from the given one on; there is none to name after
`help` itself, where `level` is none. -/
def helpTopic (level : Option Level) : List String → Reading
  | [] => .help
  | w :: rest =>
    match level with
    | none => .usageError
    | some l =>
      match l.subcommand? w with
      | some below => helpTopic (some below) rest
      | none => if l.isHelp w then helpTopic none rest else .usageError

/-- Reads the arguments; `pending` is the option that the first of them is the value of. -/
def read (s : State) (pending : Option (Opt × ValueKind)) : List String → Reading
  | [] => if pending.isSome then .usageError else s.finish
  | arg :: rest =>
    match pending with
    | some (o, kind) =>
      if isValue arg then
        match valued s o kind arg with
        | .next s => read s none rest
        | _ => .usageError
      else .usageError
    | none =>
      if arg = "--" then words s rest
      else
        match argument s arg with
        | .next s => read s none rest
        | .wants s o kind => read s (some (o, kind)) rest
        | .asksHelp => helpTopic (some s.level) rest
        | .stop r => r

def readArguments (arguments : List String) : Reading :=
  read ⟨.program, [], [], none⟩ none arguments

end Legible.Command
