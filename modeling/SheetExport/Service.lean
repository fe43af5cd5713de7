import SheetExport.Batch
import SheetExport.Catalog
import SheetExport.Download
import SheetExport.Request

/-! # The export service

What callers can ask for, over one store. A submitted export runs to its end at once; how far it
came is seen from its status.
-/

namespace SheetExport

structure Service where
  schema : Schema
  format : Csv.Format
  /-- The rows between two looks for the result table. -/
  batchSize : Nat
  store : Store
  cache : KeyCache

/-- What a submission draws anew: an id, a suffix for its tables and the time. Its batch then meets
an occasion of the store. -/
structure Ticket where
  id : Uuid
  suffix : String
  time : Instant
  occasion : Store.Occasion
  deriving DecidableEq

namespace Service

def ofStore (schema : Schema) (format : Csv.Format) (batchSize : Nat) (store : Store) : Service :=
  ⟨schema, format, batchSize, store, []⟩

/-! ## Submission -/

def compile (s : Service) (ticket : Ticket) (e : Export) : Except JobFault Plan :=
  Plan.compile s.schema e.typeName e.fields e.filters (.ofSuffix s.schema ticket.suffix)

/-- The record of a plan that has not begun. -/
def jobOf (p : Plan) (ticket : Ticket) (owner : Int) : Job :=
  { id := ticket.id
    tables := p.tables
    status := .started
    owner := owner
    label := p.entityType.label
    startTime := ticket.time
    statements := some (Sql.renderBatch (p.statements ticket.id)) }

def submitExport (s : Service) (ticket : Ticket) (e : Export) (owner : Int) :
    Service × Except JobFault Uuid :=
  match s.compile ticket e with
  | .error fault => (s, .error fault)
  | .ok plan =>
    match Registry.create s.store (jobOf plan ticket owner) with
    | .error fault => (s, .error fault)
    | .ok store =>
      let store := Batch.run store ticket.occasion ticket.id (plan.statements ticket.id)
      ({ s with store := store }, .ok ticket.id)

def submit (s : Service) (ticket : Ticket) (r : Request) (owner : Int) :
    Service × Except JobFault Uuid :=
  match r.validate with
  | .error fault => (s, .error (.request fault))
  | .ok e => s.submitExport ticket e owner

/-! ## Jobs -/

def getJob (s : Service) (id : Uuid) : Except JobFault Job := Registry.get s.store id

def listJobs (s : Service) (owner : Option Int) : Except JobFault (List Job) :=
  Registry.list s.store owner

def deleteJob (s : Service) (id : Uuid) : Service × Except JobFault Unit :=
  match Registry.delete s.store id with
  | .ok store => ({ s with store := store }, .ok ())
  | .error fault => (s, .error fault)

def purge (s : Service) : Service × Except JobFault Nat :=
  let (store, outcome) := Registry.deleteAll s.store
  ({ s with store := store }, outcome)

def download (s : Service) (id : Uuid) (sink : Sink) :
    Service × Sink × Except JobFault Csv.Stats :=
  let (store, sink, outcome) := Download.run s.batchSize s.format s.store id sink
  ({ s with store := store }, sink, outcome)

/-! ## Fields -/

def fieldCatalog (s : Service) (typeName : String) : Service × Except JobFault FieldCatalog :=
  let (cache, outcome) := Catalog.fields s.store s.cache s.schema typeName
  ({ s with cache := cache }, outcome)

def examples (s : Service) (typeName field : String) : Except JobFault (List String) :=
  Catalog.examples s.store s.schema typeName field

end Service

end SheetExport
