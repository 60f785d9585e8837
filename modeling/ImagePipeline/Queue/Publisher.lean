import ImagePipeline.Queue.Partition
import ImagePipeline.Retry
import ImagePipeline.Task

namespace ImagePipeline.Queue

def payloadField : String := "data"

inductive PublishRequest where
  | append (stream payload : String)
  | pause (seconds : Float)

abbrev publishing : Interface where
  Request := PublishRequest
  Reply
    | .append .. => Except Failure String
    | .pause _ => Except Failure Unit

structure Publisher where
  topic : String
  partitions : Int
  strategy : RetryStrategy Float
  deriving Inhabited

namespace Publisher

def sendingFailed (cause : Failure) : Failure :=
  .app .queueFailed (some ("작업 전송 실패: " ++ cause.text))

def publish (publisher : Publisher) (task : Task) : Routine publishing String :=
  let stream := streamFor publisher.topic publisher.partitions task.imageId
  let append : Routine publishing String :=
    Routine.ask (I := publishing) (Script.request (I := publishing) (.append stream task.wire))
  let sent := Retry.attempts publisher.strategy Failure.isQueue
    (fun seconds => Routine.ask (I := publishing) (Script.request (I := publishing) (.pause seconds)))
    append
  sent.recover Failure.isQueue fun cause => throw (sendingFailed cause)

/-- Appends the task for an identifier and a kind that are offered from outside. -/
def publishOffered (publisher : Publisher) (imageId kind : Json) : Routine publishing String :=
  match Task.ofMembers (some imageId) (some kind) with
  | .ok task => publisher.publish task
  | .error issues => throw (.invalid issues)

end Publisher

end ImagePipeline.Queue
