import ImagePipeline.Asset.Store
import ImagePipeline.Image.Picture
import ImagePipeline.Record
import ImagePipeline.Routine
import ImagePipeline.Task
/-!
The calls that the services make.

A service is a routine over these calls, each of which is atomic: the table, the asset store, the queue
and the picture stages may be shared by any number of services, and what two of them do at the same
time is an interleaving of their calls.
-/

namespace ImagePipeline.Workflow

inductive Call where
  | create (draft : Draft)
  | find (id : String)
  | update (record : Record)
  | delete (id : String)
  | claim (id : String)
  | list (limit offset : Int)
  | listOf (status : String) (limit offset : Int)
  | saveUpload (name : String) (source : Asset.Source)
  | saveProcessed (name : String) (content : ByteArray)
  | openUpload (key : String)
  | readUpload (content : ByteArray)
  | openProcessed (key : Option String)
  | deleteAsset (key : Option String)
  | deleteAssets (upload processed : Option String)
  | publish (id : String) (kind : ProcessingType)
  | decode (bytes : ByteArray)
  | process (kind : String) (picture : Picture)
  | encode (picture : Picture)
  | now
  | newId

abbrev working : Interface where
  Request := Call
  Reply
    | .create _ => Except Failure Record
    | .find _ => Except Failure Record
    | .update _ => Except Failure Record
    | .delete _ => Except Failure Unit
    | .claim _ => Except Failure Unit
    | .list .. => Except Failure (List Record)
    | .listOf .. => Except Failure (List Record)
    | .saveUpload .. => Except Failure String
    | .saveProcessed .. => Except Failure String
    | .openUpload _ => Except Failure ByteArray
    | .readUpload _ => Except Failure ByteArray
    | .openProcessed _ => Except Failure ByteArray
    | .deleteAsset _ => Except Failure Unit
    | .deleteAssets .. => Except Failure Unit
    | .publish .. => Except Failure String
    | .decode _ => Except Failure Picture
    | .process .. => Except Failure Picture
    | .encode _ => Except Failure ByteArray
    | .now => Instant
    | .newId => String

/-- A service: what it does with its surroundings, and how it ends. -/
abbrev Service := Routine working

def call (c : Call) : Script working (working.Reply c) := Script.request (I := working) c

end ImagePipeline.Workflow
