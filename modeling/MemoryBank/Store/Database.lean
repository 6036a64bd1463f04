import MemoryBank.NameMap
import MemoryBank.Store.Call
import MemoryBank.Store.Identifier
import MemoryBank.Store.Pipeline
import MemoryBank.Store.Update

set_option autoImplicit false

/-!
A document store held in memory. Every call is logged, also when the store is offline. A write that
fails half-way leaves what it did before.
-/

namespace MemoryBank

structure LogEntry where
  verb : String
  collection : String
  deriving DecidableEq, Inhabited

structure Database where
  collections : NameMap Collection
  log : List LogEntry
  offline : Bool
  -- How many ids have been made.
  issued : Nat
  deriving Inhabited

namespace Database

def empty : Database := ⟨.empty, [], false, 0⟩

def find? (db : Database) (name : String) : Option Collection := db.collections.get? name

def opened (db : Database) (name : String) : Collection := (db.find? name).getD .empty

def put (db : Database) (name : String) (c : Collection) : Database :=
  { db with collections := db.collections.insert name c }

def setOffline (db : Database) (offline : Bool) : Database := { db with offline := offline }

def countOf (db : Database) (verb : String) : Nat := db.log.countP (·.verb == verb)

def clearLog (db : Database) : Database := { db with log := [] }

def newId (db : Database) : String × Database :=
  (identifier (db.issued + 1), { db with issued := db.issued + 1 })

def ok : Document := [("ok", .ofInt 1)]

def namedCollection (command : Document) (name : String) : Result String :=
  match command.get? name with
  | some (.string collection) =>
      if collection.isEmpty then .error (.store (.commandWithoutCollection name))
      else .ok collection
  | _ => .error (.store (.commandWithoutCollection name))

def existing (db : Database) (name : String) : Result Collection :=
  match db.find? name with
  | some c => .ok c
  | none => .error (.notFound (.collection name))

def requestedSpecs (command : Document) : Result (String × List Document) := do
  -- The specs a command asks for, all of them checked before any is added.
  let collection ← namedCollection command createIndexesCommand
  match command.get? "indexes" with
  | some (.array (v :: vs)) => return (collection, ← IndexSpec.ofValues (v :: vs))
  | _ => throw (.store .noIndexSpecs)

def createIndexes (command : Document) (db : Database) : Result Document × Database :=
  match requestedSpecs command with
  | .error cause => (.error cause, db)
  | .ok (name, specs) =>
      let c := db.opened name
      let (outcome, indexes) := Catalogue.addAll specs c.indexes
      let reply : Document :=
        [("numIndexesBefore", .ofNat (c.indexes.length + 1)),
          ("numIndexesAfter", .ofNat (indexes.length + 1)), ("ok", .ofInt 1)]
      ((fun _ => reply) <$> outcome, db.put name { c with indexes := indexes })

def idIndexSpec : Document :=
  [("v", .ofInt 2), ("key", .object [("_id", .ofInt 1)]), ("name", .string "_id_")]

def listIndexes (command : Document) (db : Database) : Result Document := do
  let name ← namedCollection command listIndexesCommand
  let c ← db.existing name
  return [("cursor", .object [("id", .ofInt 0), ("ns", .string name),
      ("firstBatch", .array ((idIndexSpec :: c.indexes).map .object))]),
    ("ok", .ofInt 1)]

def statistics (command : Document) (db : Database) : Result Document := do
  let name ← namedCollection command statisticsCommand
  let c ← db.existing name
  return [("ns", .string name), ("count", .ofNat c.documents.length),
    ("size", .ofNat (c.documents.foldl (fun n d => n + d.size) 0)),
    ("nindexes", .ofNat (c.indexes.length + 1)), ("ok", .ofInt 1)]

def create (name : String) (db : Database) : Result Document × Database :=
  if db.collections.contains name then (.error (.store (.collectionExists name)), db)
  else (.ok ok, db.put name .empty)

def runCommand (command : Document) (db : Database) : Result Document × Database :=
  match Call.commandName command with
  | "createIndexes" => createIndexes command db
  | "listIndexes" => (listIndexes command db, db)
  | "collStats" => (statistics command db, db)
  | "create" => create (Call.commandTarget command) db
  | "ping" => (.ok ok, db)
  | name => (.error (.store (.unknownCommand name)), db)

def identify (d : Document) (db : Database) : Document × Database :=
  if d.contains Document.idKey then (d, db)
  else
    let (id, db) := db.newId
    (d.insert Document.idKey (.string id), db)

/-- Inserts documents one by one, up to the first whose id is taken. -/
def insertAll (name : String) : Nat → List Document → Database → Result Nat × Database
  | inserted, [], db => (.ok inserted, db)
  | inserted, d :: rest, db =>
      let (d, db) := identify d db
      let c := db.opened name
      let id := (d.get? Document.idKey).getD .null
      if c.documents.any fun e => e.get? Document.idKey == some id then
        (.error (.store (.duplicateId name id)), db)
      else
        insertAll name (inserted + 1) rest (db.put name { c with documents := c.documents ++ [d] })

def insert (name : String) (documents : List Document) (db : Database) : Result Nat × Database :=
  insertAll name 0 documents (db.put name (db.opened name))

def find (name : String) (filter : Document) (limit : Option Nat) (db : Database) :
    Result (List Document) :=
  -- A limit of 0 is none.
  match db.find? name with
  | none => .ok []
  | some c => Document.selectFirst filter
      (match limit with
        | some (n + 1) => n + 1
        | _ => c.documents.length)
      c.documents

def findOne (name : String) (filter : Document) (db : Database) : Result (Option Document) :=
  match db.find? name with
  | none => .ok none
  | some c => List.head? <$> Document.selectFirst filter 1 c.documents

def aggregate (name : String) (pipeline : List Document) (db : Database) :
    Result (List Document) :=
  Pipeline.run (db.opened name) pipeline

def updateFirst (filter change : Document) :
    List Document → Result UpdateCount × List Document
  | [] => (.ok ⟨0, 0⟩, [])
  | d :: rest =>
      match d.satisfies filter with
      | .error cause => (.error cause, d :: rest)
      | .ok true =>
          let (outcome, changed) := Update.apply change d
          ((fun _ => ⟨1, if changed.same d then 0 else 1⟩) <$> outcome, changed :: rest)
      | .ok false =>
          let (outcome, rest) := updateFirst filter change rest
          (outcome, d :: rest)

def update (name : String) (filter change : Document) (db : Database) :
    Result UpdateCount × Database :=
  match db.find? name with
  | none => (.ok ⟨0, 0⟩, db)
  | some c =>
      let (outcome, documents) := updateFirst filter change c.documents
      (outcome, db.put name { c with documents := documents })

def deleteFirst (filter : Document) : List Document → Result Nat × List Document
  | [] => (.ok 0, [])
  | d :: rest =>
      match d.satisfies filter with
      | .error cause => (.error cause, d :: rest)
      | .ok true => (.ok 1, rest)
      | .ok false =>
          let (outcome, rest) := deleteFirst filter rest
          (outcome, d :: rest)

def deleteOne (name : String) (filter : Document) (db : Database) : Result Nat × Database :=
  match db.find? name with
  | none => (.ok 0, db)
  | some c =>
      let (outcome, documents) := deleteFirst filter c.documents
      (outcome, db.put name { c with documents := documents })

def deleteSelected (filter : Document) : List Document → Result (Nat × List Document)
  | [] => .ok (0, [])
  | d :: rest => do
      let selected ← d.satisfies filter
      let (deleted, kept) ← deleteSelected filter rest
      return if selected then (deleted + 1, kept) else (deleted, d :: kept)

/-- The documents are taken out of the collection to be judged, and come back only if all can be:
a filter that fails on one leaves the collection empty. -/
def deleteMany (name : String) (filter : Document) (db : Database) : Result Nat × Database :=
  match db.find? name with
  | none => (.ok 0, db)
  | some c =>
      match deleteSelected filter c.documents with
      | .ok (deleted, kept) => (.ok deleted, db.put name { c with documents := kept })
      | .error cause => (.error cause, db.put name { c with documents := [] })

def arrive (c : Call) (db : Database) : Database :=
  { db with log := db.log ++ [⟨c.verb, c.target⟩] }

def execute (c : Call) (db : Database) : Result c.Reply × Database :=
  match c with
  | .collectionNames => (.ok db.collections.names, db)
  -- a collection that is there stays as it is
  | .createCollection name => (.ok (), db.put name (db.opened name))
  | .dropCollection name => (.ok (), { db with collections := db.collections.erase name })
  | .command command => runCommand command db
  | .insert name documents => insert name documents db
  | .find name filter limit => (find name filter limit db, db)
  | .findOne name filter => (findOne name filter db, db)
  | .aggregate name pipeline => (aggregate name pipeline db, db)
  | .update name filter change => update name filter change db
  | .deleteOne name filter => deleteOne name filter db
  | .deleteMany name filter => deleteMany name filter db

def answer (c : Call) (db : Database) : Result c.Reply × Database :=
  if db.offline then (.error (.store .unreachable), db) else execute c db

instance : DocumentStore Database := ⟨arrive, answer, newId⟩

end Database

end MemoryBank
