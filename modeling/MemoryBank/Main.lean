import MemoryBank.CommandLine.Arguments
import MemoryBank.CommandLine.Run
import MemoryBank.Settings.ConfigFile
import MemoryBank.Settings.Environment
import MemoryBank.Store.Database
import Std.Time.DateTime.Timestamp

set_option autoImplicit false

/-!
The program: it reads the arguments, the configuration and the clock, runs the command over a
database held in memory, and prints.
-/

namespace MemoryBank

def UsageFault.message : UsageFault → String
  | helpAsked | nothingGiven => "usage: memory-bank [options] <command>"
  | versionAsked => "memory-bank"
  | missingCommand => "error: a command is required"
  | unknownCommand => "error: unknown command"
  | unknownArgument => "error: unexpected argument"
  | valueForSwitch => "error: unexpected value for an option that takes none"
  | givenTwice => "error: an option cannot be used multiple times"
  | badValue => "error: a value is missing or not a possible one"
  | badNumber => "error: invalid integer"
  | missingArgument => "error: a required argument was not provided"

def UsageFault.isError : UsageFault → Bool
  | helpAsked | versionAsked => false
  | _ => true

def defaultDirectory : IO String := do
  match ← IO.getEnv "DOCMEM_CONFIG_DIR" with
  | some directory => return directory
  | none => return (← IO.getEnv "HOME").getD "." ++ "/.docmem"

def readConfig (directory : String) : IO Config := do
  try return Config.ofFile (← IO.FS.readBinFile (directory ++ "/" ++ Config.fileName))
  catch _ => return Config.default

def readEnvironment : IO (List (String × String)) :=
  Config.variableNames.filterMapM fun name => do
    return (← IO.getEnv name).map (name, ·)

def complain (causes : List String) : IO UInt32 := do
  match causes with
  | [] => pure ()
  | cause :: inner =>
      IO.eprintln ("Error: " ++ cause)
      inner.forM fun cause => IO.eprintln ("  caused by: " ++ cause)
  return 1

def runInvocation (i : Invocation) : IO UInt32 := do
  let directory ← match i.flags.configDir with
    | some directory => pure directory
    | none => defaultDirectory
  let environment ← readEnvironment
  match (← readConfig directory).override fun name => environment.lookup name with
  | .error fault => complain ["Invalid environment override", fault.message]
  | .ok config =>
      let present := (← Std.Time.Timestamp.now).toSecondsSinceUnixEpoch.val
      let world : World Database := ⟨.empty, .empty⟩
      match (Program.run (i.work config directory present).run world).1 with
      | .ok text =>
          IO.print text
          return 0
      | .error causes => complain causes

end MemoryBank

def main (arguments : List String) : IO UInt32 := do
  match MemoryBank.Arguments.parse arguments with
  | .ok i => MemoryBank.runInvocation i
  | .error fault =>
      if fault.isError then
        IO.eprintln fault.message
        return 2
      else
        IO.println fault.message
        return 0
