import MemoryBank.CommandLine.Command
import MemoryBank.Settings.Environment
import MemoryBank.Text.Split

set_option autoImplicit false

/-!
Reading the arguments. There are two levels: what stands before the name of the command, and what
stands after it. The value of an option is looked at only when the next option is met or the level
ends, so that an argument nobody knows is reported before a bad value in front of it.
-/

namespace MemoryBank

inductive UsageFault
  | helpAsked
  | versionAsked
  -- Nothing at all was given.
  | nothingGiven
  | missingCommand
  | unknownCommand
  | unknownArgument
  -- A value was attached to a switch.
  | valueForSwitch
  | givenTwice
  | badValue
  | badNumber
  | missingArgument
  deriving DecidableEq, Inhabited

namespace Arguments

inductive CommandName
  | reapExpired
  | ensureIndex
  | info
  | collections
  | reset
  | config
  | completions
  deriving DecidableEq

inductive Level
  | top
  | within (command : CommandName)
  deriving DecidableEq

inductive Switch
  | json
  | quiet
  | force
  deriving DecidableEq

inductive Setting
  | configDir
  | now
  | collection
  | shell
  deriving DecidableEq

inductive Meaning
  | switch (s : Switch)
  | louder
  | setting (s : Setting)
  | help
  | version

inductive Entry
  | help
  | command (name : CommandName)

def entryOf? : String → Option Entry
  | "reap-expired" => some (.command .reapExpired)
  | "ensure-index" => some (.command .ensureIndex)
  | "info" => some (.command .info)
  | "collections" | "ls" => some (.command .collections)
  | "reset" => some (.command .reset)
  | "config" => some (.command .config)
  | "completions" => some (.command .completions)
  | "help" => some .help
  | _ => none

namespace Level

def entryOf? : Level → String → Option Entry
  | top, word => Arguments.entryOf? word
  | within _, _ => none

def long? (level : Level) (name : String) : Option Meaning :=
  -- Options with long names; those of all levels come first.
  match name with
  | "json" => some (.switch .json)
  | "quiet" => some (.switch .quiet)
  | "verbose" => some .louder
  | "config-dir" => some (.setting .configDir)
  | "help" => some .help
  | "version" => some .version
  | "now" => if level = within .reapExpired then some (.setting .now) else none
  | "collection" => if level = within .info then some (.setting .collection) else none
  | "force" => if level = within .reset then some (.switch .force) else none
  | _ => none

end Level

inductive ShortMeaning
  -- No option with a value has a short name.
  | louder
  | help
  | version

def short? : Char → Option ShortMeaning
  | 'v' => some .louder
  | 'h' => some .help
  | 'V' => some .version
  | _ => none

structure Given where
  json : Bool
  quiet : Bool
  force : Bool
  verbosity : Nat
  configDir : Option String
  now : Option Int
  collection : Option String
  shell : Option Shell

/-- What has been given, and a setting that waits for its value or to be looked at. -/
structure Reading where
  given : Given
  waiting : Option (Setting × Option String)

namespace Given

def nothing : Given := ⟨false, false, false, 0, none, none, none, none⟩

def isNothing (g : Given) : Bool :=
  !g.json && !g.quiet && !g.force && g.verbosity == 0 && g.configDir.isNone && g.now.isNone
    && g.collection.isNone && g.shell.isNone

def has (g : Given) : Switch → Bool
  | .json => g.json
  | .quiet => g.quiet
  | .force => g.force

def turnOn (g : Given) (s : Switch) : Except UsageFault Given :=
  if g.has s then .error .givenTwice
  else .ok <| match s with
    | .json => { g with json := true }
    | .quiet => { g with quiet := true }
    | .force => { g with force := true }

def greatestVerbosity : Nat := 255

def louder (g : Given) : Given :=
  { g with verbosity := min (g.verbosity + 1) greatestVerbosity }

def isSet (g : Given) : Setting → Bool
  | .configDir => g.configDir.isSome
  | .now => g.now.isSome
  | .collection => g.collection.isSome
  | .shell => g.shell.isSome

def set (g : Given) (s : Setting) (value : String) : Except UsageFault Given :=
  if g.isSet s then .error .givenTwice
  else match s with
    | .configDir =>
        if value.isEmpty then .error .badValue else .ok { g with configDir := some value }
    | .now =>
        match Decimal.readInteger (-Word.half64) (Word.half64 - 1) value.toList with
        | .ok n => .ok { g with now := some n }
        | .error _ => .error .badNumber
    | .collection => .ok { g with collection := some value }
    | .shell =>
        match Shell.all.find? (·.name == value) with
        | some shell => .ok { g with shell := some shell }
        | none => .error .badValue

def command (g : Given) : CommandName → Except UsageFault Command
  | .reapExpired => .ok (.reapExpired g.now)
  | .ensureIndex => .ok .ensureIndex
  | .info => .ok (.info g.collection)
  | .collections => .ok .collections
  | .reset => .ok (.reset g.force)
  | .config => .ok .config
  | .completions =>
      match g.shell with
      | some shell => .ok (.completions shell)
      | none => .error .missingArgument

def flags (outer inner : Given) : Flags where
  -- The flags of both levels; a count or a directory given with the command replaces the one
  -- given before it.
  json := outer.json || inner.json
  quiet := outer.quiet || inner.quiet
  verbosity := if inner.verbosity = 0 then outer.verbosity else inner.verbosity
  configDir := inner.configDir.or outer.configDir

end Given

namespace Reading

def start : Reading := ⟨.nothing, none⟩

def settle (r : Reading) : Except UsageFault Reading :=
  match r.waiting with
  | none => .ok r
  | some (_, none) => .error .badValue
  | some (s, some value) => do return ⟨← r.given.set s value, none⟩

def wantsValue (r : Reading) : Option Setting :=
  match r.waiting with
  | some (s, none) => some s
  | _ => none

def turnOn (r : Reading) (s : Switch) : Except UsageFault Reading := do
  let r ← r.settle
  return { r with given := ← r.given.turnOn s }

def louder (r : Reading) : Except UsageFault Reading := do
  let r ← r.settle
  return { r with given := r.given.louder }

def help (r : Reading) : Except UsageFault Reading := do
  let _ ← r.settle
  throw .helpAsked

def version (r : Reading) : Except UsageFault Reading := do
  let _ ← r.settle
  throw .versionAsked

def setting (r : Reading) (s : Setting) (attached : Option String) :
    Except UsageFault Reading := do
  -- An attached value is looked at right away.
  let r ← r.settle
  match attached with
  | some value => return { r with given := ← r.given.set s value }
  | none => return { r with waiting := some (s, none) }

def long (level : Level) (r : Reading) (name : String) (attached : Option String) :
    Except UsageFault Reading :=
  match level.long? name, attached with
  | none, _ => .error .unknownArgument
  | some (.setting s), _ => r.setting s attached
  | some _, some _ => .error .valueForSwitch
  | some (.switch s), none => r.turnOn s
  | some .louder, none => r.louder
  | some .help, none => r.help
  | some .version, none => r.version

def shorts (r : Reading) : List Char → Except UsageFault Reading
  | [] => .ok r
  | c :: rest =>
      match short? c with
      | none => .error .unknownArgument
      | some .louder => do shorts (← r.louder) rest
      | some .help => r.help
      | some .version => r.version

def hasPlace (level : Level) (r : Reading) : Bool :=
  level == .within .completions && !r.given.isSet .shell
    && !r.waiting.any fun w => w.1 == .shell

def superfluous (level : Level) (separated : Bool) (argument : String) : UsageFault :=
  -- What a superfluous argument is taken for; the name of a command is not looked for behind the
  -- separator.
  match level with
  | .top => if separated && (entryOf? argument).isSome then .unknownArgument else .unknownCommand
  | .within _ => .unknownArgument

def place (level : Level) (separated : Bool) (r : Reading) (argument : String) :
    Except UsageFault Reading :=
  if r.hasPlace level then do
    let r ← r.settle
    return { r with waiting := some (.shell, some argument) }
  else .error (superfluous level separated argument)

end Reading

inductive Form
  | separator
  | long (name : String) (attached : Option String)
  | shorts (letters : List Char)
  | plain

def Form.of (argument : String) : Form :=
  match argument.toList with
  | ['-', '-'] => separator
  | '-' :: '-' :: cs =>
      match Text.splitFirst ['='] cs with
      | some (name, value) => long (.ofList name) (some (.ofList value))
      | none => long (.ofList cs) none
  | '-' :: c :: cs => shorts (c :: cs)
  | _ => plain

def helpAbout : List String → UsageFault
  -- Help is asked for about a path of commands, and none has commands of its own.
  | [] => .helpAsked
  | [word] => if (entryOf? word).isSome then .helpAsked else .unknownCommand
  | _ => .unknownCommand

/-- Reads one level, up to the end or to the name of a command, which comes back with the
arguments behind it. -/
def readLevel (level : Level) (r : Reading) :
    List String → Except UsageFault (Reading × Option (CommandName × List String))
  | [] => .ok (r, none)
  | argument :: rest =>
      match r.wantsValue, level.entryOf? argument with
      | none, some .help => .error (helpAbout rest)
      | none, some (.command name) => .ok (r, some (name, rest))
      | wanted, _ =>
          match Form.of argument with
          -- behind the separator nothing looks like an option
          | .separator => do
              return (← rest.foldlM (fun r a => r.place level true a) r, none)
          | .long name attached => do readLevel level (← r.long level name attached) rest
          | .shorts letters => do readLevel level (← r.shorts letters) rest
          | .plain =>
              match wanted with
              | some s => readLevel level { r with waiting := some (s, some argument) } rest
              | none => do readLevel level (← r.place level false argument) rest

def parse (arguments : List String) : Except UsageFault Invocation := do
  -- What waits at the top is looked at only after the command has been read.
  match ← readLevel .top .start arguments with
  | (outer, none) => do
      let outer ← outer.settle
      throw (if outer.given.isNothing then .nothingGiven else .missingCommand)
  | (outer, some (name, rest)) => do
      let (inner, _) ← readLevel (.within name) .start rest
      let inner ← inner.settle
      let command ← inner.given.command name
      let outer ← outer.settle
      return ⟨Given.flags outer.given inner.given, command⟩

example : (parse ["-vv", "info", "--collection", "a"]).toOption =
    some ⟨⟨false, false, 2, none⟩, .info (some "a")⟩ := by decide +kernel

end Arguments

end MemoryBank
