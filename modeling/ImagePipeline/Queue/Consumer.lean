import ImagePipeline.Queue.Publisher
/-!
Taking tasks off the queue.

A consumer belongs to a group. It first claims entries that another consumer left unfinished for too
long and reads new ones only if there are none. An entry is acknowledged when its task was handled,
when it holds no task, or when it was delivered too often; after a failed handling it stays with the
group and is delivered again. The wish to stop is looked at only between entries.
-/

namespace ImagePipeline.Queue

structure Entry where
  id : String
  fields : List (String × Payload)

structure Message where
  stream : String
  id : String
  fields : List (String × Payload)
  redelivered : Bool

namespace Message

def payload (message : Message) : Payload :=
  (message.fields.lookup payloadField).getD (.text "")

def ofEntry (stream : String) (redelivered : Bool) (entry : Entry) : Message :=
  ⟨stream, entry.id, entry.fields, redelivered⟩

end Message

inductive ConsumeRequest where
  | createGroup (stream group : String)
  | claim (stream group consumer : String) (idle : Int)
  | read (group consumer : String) (streams : List String) (block : Int)
  | deliveries (stream group id : String)
  | acknowledge (stream group id : String)
  | handle (task : Task)
  | pause (seconds : Float)
  | wait (seconds : Float)
  | stopWished

abbrev consuming : Interface where
  Request := ConsumeRequest
  Reply
    | .createGroup .. => Except Failure Unit
    | .claim .. => Except Failure (List Entry)
    | .read .. => Except Failure (List (String × List Entry))
    | .deliveries .. => Except Failure (Option Int)
    | .acknowledge .. => Except Failure Unit
    | .handle _ => Except Failure Unit
    | .pause _ => Except Failure Unit
    | .wait _ => Unit
    | .stopWished => Bool

structure Consumer where
  streams : List String
  group : String
  name : String
  strategy : RetryStrategy Float
  blockMs : Int
  claimIdleMs : Int
  maxDeliveries : Int
  deriving Inhabited

namespace Consumer

def request (r : ConsumeRequest) : Script consuming (consuming.Reply r) :=
  Script.request (I := consuming) r

def stopWished : Routine consuming Bool := Routine.tell (request .stopWished)

def fetchFailurePause : Float := 1

def groupExists : Failure → Bool
  | .foreign .queueRefused text => (text.splitOn "BUSYGROUP").length > 1
  | _ => false

def ensureGroups (consumer : Consumer) : Routine consuming Unit :=
  consumer.streams.forM fun stream =>
    (Routine.ask (request (.createGroup stream consumer.group))).recover groupExists fun _ => pure ()

def claimStale (consumer : Consumer) : List String → Routine consuming (List Message)
  | [] => pure []
  | stream :: rest => do
    let entries ← Routine.ask
      (request (.claim stream consumer.group consumer.name consumer.claimIdleMs))
    if entries.isEmpty then claimStale consumer rest
    else return entries.map (Message.ofEntry stream true)

def readNew (consumer : Consumer) : Routine consuming (List Message) := do
  let answer ← Routine.ask
    (request (.read consumer.group consumer.name consumer.streams consumer.blockMs))
  return answer.flatMap fun (stream, entries) => entries.map (Message.ofEntry stream false)

def fetch (consumer : Consumer) : Routine consuming (List Message) := do
  let claimed ← claimStale consumer consumer.streams
  if claimed.isEmpty then readNew consumer else return claimed

def exceededDeliveries (consumer : Consumer) (message : Message) : Routine consuming Bool :=
  if consumer.maxDeliveries ≤ 0 then pure false
  else
    let count : Routine consuming Bool := do
      let deliveries ← Routine.ask
        (request (.deliveries message.stream consumer.group message.id))
      return decide (consumer.maxDeliveries < deliveries.getD 0)
    count.recover Failure.isQueue fun _ => pure false

def acknowledge (consumer : Consumer) (message : Message) : Routine consuming Unit :=
  (Routine.ask (request (.acknowledge message.stream consumer.group message.id))).recover
    Failure.isQueue fun _ => pure ()

def handled (task : Task) : Routine consuming Bool :=
  let run : Routine consuming Bool := do
    Routine.ask (request (.handle task))
    return true
  run.recover (fun _ => true) fun _ => pure false

def dispatch (consumer : Consumer) (message : Message) : Routine consuming Bool := do
  let exceeded ← if message.redelivered then consumer.exceededDeliveries message else pure false
  if exceeded then
    consumer.acknowledge message
    return true
  match message.payload.task with
  | .error _ =>
    consumer.acknowledge message
    return true
  | .ok task =>
    if ← handled task then
      consumer.acknowledge message
      return true
    else return false

def dispatchAll (consumer : Consumer) : List Message → Routine consuming Unit
  | [] => pure ()
  | message :: rest => do
    if ← stopWished then return
    let _ ← consumer.dispatch message
    dispatchAll consumer rest

def fetchWithRetry (consumer : Consumer) : Routine consuming (Option (List Message)) :=
  let fetched : Routine consuming (Option (List Message)) := do
    let messages ← Retry.attempts consumer.strategy Failure.isQueue
      (fun seconds => Routine.ask (request (.pause seconds))) consumer.fetch
    return some messages
  fetched.recover Failure.isQueue fun _ => pure none

def turn (consumer : Consumer) : Routine consuming Unit := do
  match ← consumer.fetchWithRetry with
  | some messages => consumer.dispatchAll messages
  | none => Routine.tell (request (.wait fetchFailurePause))

def loop (consumer : Consumer) : Nat → Routine consuming Bool
  | 0 => pure false
  | turns + 1 => do
    if ← stopWished then return true
    consumer.turn
    loop consumer turns

def run (consumer : Consumer) (turns : Nat) : Routine consuming Bool := do
  consumer.ensureGroups
  consumer.loop turns

end Consumer

end ImagePipeline.Queue
