set_option autoImplicit false

/-!
The commands of the program and what is given along with them.
-/

namespace MemoryBank

inductive Shell
  | bash
  | elvish
  | fish
  | powershell
  | zsh
  deriving DecidableEq, Inhabited

inductive Command
  -- Sweeps out what has expired, as of a moment or of the present.
  | reapExpired (now : Option Int)
  -- Sees to the index of the configured collection.
  | ensureIndex
  -- Counts and measures a collection, by default the configured one.
  | info (collection : Option String)
  | collections
  -- Drops the configured collection and makes it anew, if forced.
  | reset (force : Bool)
  | config
  | completions (shell : Shell)
  deriving DecidableEq, Inhabited

structure Flags where
  json : Bool
  quiet : Bool
  verbosity : Nat
  configDir : Option String
  deriving DecidableEq, Inhabited

structure Invocation where
  flags : Flags
  command : Command
  deriving DecidableEq, Inhabited

def Shell.name : Shell → String
  | bash => "bash"
  | elvish => "elvish"
  | fish => "fish"
  | powershell => "powershell"
  | zsh => "zsh"

def Shell.all : List Shell := [bash, elvish, fish, powershell, zsh]

end MemoryBank
