import MemoryBank.Store.Document

set_option autoImplicit false

/-!
Calls to a document store and their replies.
-/

namespace MemoryBank

structure UpdateCount where
  matched : Nat
  modified : Nat
  deriving DecidableEq, Inhabited

inductive Call
  | collectionNames
  | createCollection (name : String)
  | dropCollection (name : String)
  | command (command : Document)
  | insert (collection : String) (documents : List Document)
  | find (collection : String) (filter : Document) (limit : Option Nat)
  | findOne (collection : String) (filter : Document)
  | aggregate (collection : String) (pipeline : List Document)
  | update (collection : String) (filter change : Document)
  | deleteOne (collection : String) (filter : Document)
  | deleteMany (collection : String) (filter : Document)

namespace Call

@[reducible] def Reply : Call → Type
  | collectionNames => List String
  | createCollection _ => Unit
  | dropCollection _ => Unit
  | command _ => Document
  | insert _ _ => Nat
  | find _ _ _ => List Document
  | findOne _ _ => Option Document
  | aggregate _ _ => List Document
  | update _ _ _ => UpdateCount
  | deleteOne _ _ => Nat
  | deleteMany _ _ => Nat

def commandName (c : Document) : String := (c.keys.head?).getD ""

def commandTarget (c : Document) : String :=
  ((c.get? (commandName c)).bind (·.string?)).getD ""

def verb : Call → String
  | collectionNames => "listCollections"
  | createCollection _ => "create"
  | dropCollection _ => "drop"
  | command c => commandName c
  | insert _ _ => "insert"
  | find _ _ _ => "find"
  | findOne _ _ => "findOne"
  | aggregate _ _ => "aggregate"
  | update _ _ _ => "update"
  | deleteOne _ _ => "deleteOne"
  | deleteMany _ _ => "deleteMany"

def target : Call → String
  | collectionNames => ""
  | createCollection name => name
  | dropCollection name => name
  | command c => commandTarget c
  | insert collection _ => collection
  | find collection _ _ => collection
  | findOne collection _ => collection
  | aggregate collection _ => collection
  | update collection _ _ => collection
  | deleteOne collection _ => collection
  | deleteMany collection _ => collection

def argument : Call → Json
  | collectionNames => .null
  | createCollection name => .string name
  | dropCollection name => .string name
  | command c => .object c
  | insert collection documents =>
      .object [("collection", .string collection), ("docs", .array (documents.map .object))]
  | find collection filter limit =>
      .object [("collection", .string collection), ("filter", .object filter),
        ("limit", Json.ofOption .ofNat limit)]
  | findOne collection filter =>
      .object [("collection", .string collection), ("filter", .object filter)]
  | aggregate collection pipeline =>
      .object [("collection", .string collection), ("pipeline", .array (pipeline.map .object))]
  | update collection filter change =>
      .object [("collection", .string collection), ("filter", .object filter),
        ("update", .object change)]
  | deleteOne collection filter =>
      .object [("collection", .string collection), ("filter", .object filter)]
  | deleteMany collection filter =>
      .object [("collection", .string collection), ("filter", .object filter)]

end Call

def listIndexesCommand : String := "listIndexes"

def createIndexesCommand : String := "createIndexes"

def statisticsCommand : String := "collStats"

/-- A document store. It notes a call when the call arrives and answers it afterwards; other calls
may arrive in between. New ids never repeat. -/
class DocumentStore (σ : Type) where
  arrive : Call → σ → σ
  answer : (c : Call) → σ → Result c.Reply × σ
  newId : σ → String × σ

def DocumentStore.perform {σ : Type} [DocumentStore σ] (c : Call) (s : σ) : Result c.Reply × σ :=
  answer c (arrive c s)

end MemoryBank
