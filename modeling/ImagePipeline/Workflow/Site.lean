import ImagePipeline.Asset.LocalStore
import ImagePipeline.Catalogue
import ImagePipeline.Processor
import ImagePipeline.Queue.Consumer
import ImagePipeline.Workflow.FaultPlan
/-!
A place where services work.

A site holds the table, the files, the entries of the queue, the clock and the failures that are
planned. `Site.answer` answers every call, so a service run at a site (`Site.run`) gives its result and
the site it leaves behind. The queue is reached through a publisher, and what is deleted together is
deleted one by one; both happen within one call.
-/

namespace ImagePipeline.Workflow

structure QueuedEntry extends Queue.Entry where
  stream : String

def QueuedEntry.place (entry : QueuedEntry) : String × String := (entry.stream, entry.id)

structure Site where
  catalogue : Catalogue
  scan : Catalogue.Scan
  files : Asset.FileTree
  store : Asset.LocalStore
  publisher : Queue.Publisher
  stages : Stages
  queue : List QueuedEntry
  sent : Nat
  issued : Nat
  clock : Instant
  faults : FaultPlan

namespace Site

def idNumber (n : Nat) : String := "00000000-0000-4000-8000-" ++ Instant.padded 12 n

def consult (target : Target) (site : Site) : Option Failure × Site :=
  let (failure, faults) := FaultPlan.consult target site.faults
  (failure, { site with faults })

def onFiles {α : Type} (operation : Asset.OnFiles α) (site : Site) : Except Failure α × Site :=
  let (result, files) := operation.run site.files
  (result, { site with files })

def onTable {α : Type} (change : Catalogue → Except Failure (α × Catalogue)) (site : Site) :
    Except Failure α × Site :=
  match change site.catalogue with
  | .ok (value, catalogue) => (.ok value, { site with catalogue })
  | .error failure => (.error failure, site)

def deleteAsset (key : Option String) (site : Site) : Except Failure Unit × Site :=
  match site.consult .deleteAsset with
  | (some failure, site) => (.error failure, site)
  | (none, site) => site.onFiles (site.store.delete key)

def enqueue (stream : String) (fields : List (String × Payload)) (site : Site) : String × Site :=
  let id := toString (site.sent + 1) ++ "-0"
  (id, { site with
    sent := site.sent + 1
    queue := site.queue ++ [⟨⟨id, fields⟩, stream⟩] })

def append (stream payload : String) (site : Site) : Except Failure String × Site :=
  match site.consult .append with
  | (some failure, site) => (.error failure, site)
  | (none, site) =>
    let (id, site) := site.enqueue stream [(Queue.payloadField, .text payload)]
    (.ok id, site)

def answerPublisher : (r : Queue.publishing.Request) → Site → Queue.publishing.Reply r × Site
  | .append stream payload, site => site.append stream payload
  | .pause seconds, site => (Retry.rest seconds, site)

def publish (id : String) (kind : ProcessingType) (site : Site) : Except Failure String × Site :=
  (site.publisher.publishOffered (.text id) (.text kind.name)).run.run answerPublisher site

/-- Answers a call as if nothing were planned for it. -/
def perform : (c : Call) → Site → working.Reply c × Site
  | .create draft, site => site.onTable fun table => table.create draft site.clock
  | .find id, site => (site.catalogue.find id, site)
  | .update record, site => site.onTable fun table => table.store record site.clock
  | .delete id, site => site.onTable fun table => return ((), ← table.delete id)
  | .claim id, site => site.onTable fun table => return ((), ← table.claim id site.clock)
  | .list limit offset, site => (site.catalogue.list site.scan limit offset, site)
  | .listOf status limit offset, site => (site.catalogue.listOf site.scan status limit offset, site)
  | .saveUpload name source, site =>
    site.onFiles (site.store.operations.saveUpload name source)
  | .saveProcessed name content, site =>
    site.onFiles (site.store.operations.saveProcessed name (.bytes content))
  | .openUpload key, site => site.onFiles (site.store.operations.getUpload key)
  | .readUpload content, site => (.ok content, site)
  | .openProcessed (some key), site => site.onFiles (site.store.operations.getProcessed key)
  | .openProcessed none, site => (.error .absentText, site)
  | .deleteAsset key, site => site.onFiles (site.store.operations.delete key)
  | .deleteAssets upload processed, site =>
    let delete (key : Option String) : ExceptT Failure (StateM Site) Unit :=
      fun site => site.deleteAsset key
    (Asset.deleteEach delete [upload, processed] none).run site
  | .publish id kind, site => site.publish id kind
  | .decode bytes, site => (site.stages.decode bytes, site)
  | .process kind picture, site => (site.stages.process kind picture, site)
  | .encode picture, site => (site.stages.encode picture, site)
  | .now, site => (site.clock, site)
  | .newId, site => (idNumber (site.issued + 1), { site with issued := site.issued + 1 })

def refuse (failure : Failure) : (c : Call) → Site → working.Reply c × Site
  | .create _, site => (.error failure, site)
  | .find _, site => (.error failure, site)
  | .update _, site => (.error failure, site)
  | .delete _, site => (.error failure, site)
  | .claim _, site => (.error failure, site)
  | .list .., site => (.error failure, site)
  | .listOf .., site => (.error failure, site)
  | .saveUpload .., site => (.error failure, site)
  | .saveProcessed .., site => (.error failure, site)
  | .openUpload _, site => (.error failure, site)
  | .readUpload _, site => (.error failure, site)
  | .openProcessed _, site => (.error failure, site)
  | .deleteAsset _, site => (.error failure, site)
  | .deleteAssets .., site => (.error failure, site)
  | .publish .., site => (.error failure, site)
  | .decode _, site => (.error failure, site)
  | .process .., site => (.error failure, site)
  | .encode _, site => (.error failure, site)
  | .now, site => perform .now site
  | .newId, site => perform .newId site

/-- Answers a call: the failure that is planned for it, or what the site makes of it. -/
def answer (c : Call) (site : Site) : working.Reply c × Site :=
  match c.target? with
  | none => perform c site
  | some target =>
    match site.consult target with
    | (some failure, site) => refuse failure c site
    | (none, site) => perform c site

def run {α : Type} (service : Service α) (site : Site) : Except Failure α × Site :=
  Script.run answer service.run site

def updateDraft (draft : Draft) (site : Site) : Except Failure Record × Site :=
  match site.consult .update with
  | (some failure, site) => (.error failure, site)
  | (none, site) => site.onTable fun table => table.update draft site.clock

def acknowledge (stream id : String) (site : Site) : Site :=
  { site with queue := site.queue.filter fun entry => entry.place != (stream, id) }

end Site

end ImagePipeline.Workflow
