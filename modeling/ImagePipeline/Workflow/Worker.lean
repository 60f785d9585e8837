import ImagePipeline.Queue.Consumer
import ImagePipeline.Workflow.Processing
import ImagePipeline.Workflow.Site

namespace ImagePipeline.Workflow

structure Shift where
  site : Site
  delivered : List (String × String)
  acknowledged : List String
  stopping : Bool

namespace Shift

def start (site : Site) : Shift := ⟨site, [], [], false⟩

def next? (streams : List String) (shift : Shift) : Option QueuedEntry :=
  shift.site.queue.find? fun entry =>
    streams.contains entry.stream && !shift.delivered.contains entry.place

def answer : (r : Queue.consuming.Request) → Shift → Queue.consuming.Reply r × Shift
  | .createGroup .., shift => (.ok (), shift)
  | .claim .., shift => (.ok [], shift)
  | .read _ _ streams _, shift =>
    match shift.next? streams with
    | some entry =>
      (.ok [(entry.stream, [entry.toEntry])],
        { shift with delivered := entry.place :: shift.delivered })
    | none => (.ok [], { shift with stopping := true })
  | .deliveries .., shift => (.ok (some 1), shift)
  | .acknowledge stream _ id, shift =>
    (.ok (), { shift with
      site := shift.site.acknowledge stream id
      acknowledged := shift.acknowledged ++ [id] })
  | .handle task, shift =>
    let (result, site) := shift.site.run (handle task.imageId)
    (result, { shift with site })
  | .pause seconds, shift => (Retry.rest seconds, shift)
  | .wait _, shift => ((), shift)
  | .stopWished, shift => (shift.stopping, shift)

def dispatch (consumer : Queue.Consumer) (message : Queue.Message) (shift : Shift) :
    Except Failure Bool × Shift :=
  (consumer.dispatch message).run.run answer shift

end Shift

namespace Site

def dispatchAll (consumer : Queue.Consumer) :
    List QueuedEntry → Shift → Except Failure (List (String × Bool)) × Shift
  | [], shift => (.ok [], shift)
  | entry :: rest, shift =>
    match shift.dispatch consumer (.ofEntry entry.stream false entry.toEntry) with
    | (.error failure, shift) => (.error failure, shift)
    | (.ok acknowledged, shift) =>
      let (results, shift) := dispatchAll consumer rest shift
      (results.map fun results => (entry.id, acknowledged) :: results, shift)

def drain (consumer : Queue.Consumer) (site : Site) :
    Except Failure (List (String × Bool)) × Site :=
  let (results, shift) := dispatchAll consumer site.queue (.start site)
  (results, shift.site)

/-- Works through the streams of a consumer until nothing is left to read. -/
def work (consumer : Queue.Consumer) (site : Site) : Shift :=
  ((consumer.run (site.queue.length + 1)).run.run Shift.answer (.start site)).2

end Site

end ImagePipeline.Workflow
