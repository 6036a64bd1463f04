import MemoryBank.CommandLine.Command
import MemoryBank.CommandLine.Report
import MemoryBank.VectorStore

set_option autoImplicit false

/-!
Running a command. It prints a text, or it fails, and then tells why from the outside in.
-/

namespace MemoryBank

abbrev Work := ExceptT (List String) Program

namespace Work

def fail {α : Type} (causes : List String) : Work α := throw causes

def attempt {α : Type} (context : String) (t : Task α) : Work α :=
  ExceptT.mk do
    match ← ExceptT.run t with
    | .ok a => return .ok a
    | .error cause => return .error [context, cause.message]

end Work

namespace Command

def tell (flags : Flags) (v : Json) (text : String) : String :=
  if flags.json then Report.value v else if flags.quiet then "" else text

def sweep (v : VectorStore) (flags : Flags) (now : Int) : Work String := do
  let report ← Work.attempt ("Failed to sweep collection '" ++ v.collection ++ "'")
    (Sweep.run v.collection now)
  return tell flags (Report.sweepValue v.collection now report)
    (Report.sweep v.collection now report)

def checkIndex (v : VectorStore) (flags : Flags) : Work String := do
  let status ← Work.attempt ("Failed to ensure the index of '" ++ v.collection ++ "'")
    v.ensureIndex
  return tell flags (Report.indexValue v.collection status) (Report.index v.collection status)

def describe (v : VectorStore) (flags : Flags) (name : String) : Work String := do
  -- What is asked for here is printed even to those who want to hear nothing.
  let info ← Work.attempt ("Failed to read statistics of '" ++ name ++ "'") (v.collectionInfo name)
  return if flags.json then Report.value info.toJson else Report.info info

def listCollections (v : VectorStore) (flags : Flags) (database : String) : Work String := do
  let names ← Work.attempt "Failed to list collections" v.collectionNames
  let names := stableSort (fun a b => decide (a < b)) names
  return if flags.json then Report.value (.ofStrings names)
    else Report.collections database v.collection names

def startAnew (v : VectorStore) (flags : Flags) (force : Bool) : Work String := do
  if !force then
    Work.fail ["Refusing to reset '" ++ v.collection
      ++ "' without --force (all stored memories are deleted)"]
  Work.attempt ("Failed to reset '" ++ v.collection ++ "'") v.reset
  return tell flags (Report.resetValue v.collection) (Report.reset v.collection)

def withStore (c : Config) (work : VectorStore → Work String) : Work String :=
  match VectorStore.ofConfig c with
  | .ok v => work v
  | .error cause => Work.fail [cause.message]

end Command

/-- Runs a command under a configuration that was read from `directory`. Printing the configuration
needs no store, so it need not be a valid one; scripts for shells are not made here. -/
def Invocation.work (i : Invocation) (c : Config) (directory : String) (present : Int) :
    Work String :=
  match i.command with
  | .reapExpired now => Command.withStore c fun v => Command.sweep v i.flags (now.getD present)
  | .ensureIndex => Command.withStore c fun v => Command.checkIndex v i.flags
  | .info name => Command.withStore c fun v =>
      Command.describe v i.flags (name.getD v.collection)
  | .collections => Command.withStore c fun v => Command.listCollections v i.flags c.database
  | .reset force => Command.withStore c fun v => Command.startAnew v i.flags force
  | .config =>
      return if i.flags.json then Report.value c.toJson else Report.config directory c
  | .completions _ => return ""

end MemoryBank
