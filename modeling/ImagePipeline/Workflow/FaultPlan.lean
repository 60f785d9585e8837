import ImagePipeline.Workflow.Call

namespace ImagePipeline.Workflow

inductive Target where
  | create
  | find
  | update
  | delete
  | claim
  | list
  | listOf
  | saveUpload
  | saveProcessed
  | openUpload
  | readUpload
  | openProcessed
  | deleteAsset
  | deleteAssets
  | publish
  | append
  | decode
  | process
  | encode
  deriving DecidableEq, Inhabited

def Target.all : List Target :=
  [.create, .find, .update, .delete, .claim, .list, .listOf, .saveUpload, .saveProcessed,
    .openUpload, .readUpload, .openProcessed, .deleteAsset, .deleteAssets, .publish, .append,
    .decode, .process, .encode]

def Call.target? : Call → Option Target
  | create _ => some .create
  | find _ => some .find
  | update _ => some .update
  | delete _ => some .delete
  | claim _ => some .claim
  | list .. => some .list
  | listOf .. => some .listOf
  | saveUpload .. => some .saveUpload
  | saveProcessed .. => some .saveProcessed
  | openUpload _ => some .openUpload
  | readUpload _ => some .readUpload
  | openProcessed _ => some .openProcessed
  | deleteAsset _ => some .deleteAsset
  | deleteAssets .. => some .deleteAssets
  | publish .. => some .publish
  | decode _ => some .decode
  | process .. => some .process
  | encode _ => some .encode
  | now => none
  | newId => none

/-- A planned failure: `skip` calls still pass, and then `times` calls fail. -/
structure PlannedFault where
  target : Target
  failure : Failure
  times : Nat
  skip : Nat
  deriving Inhabited

abbrev FaultPlan := List PlannedFault

namespace FaultPlan

def consult (target : Target) : FaultPlan → Option Failure × FaultPlan
  | [] => (none, [])
  | planned :: rest =>
    if planned.target = target ∧ 0 < planned.skip then
      (none, { planned with skip := planned.skip - 1 } :: rest)
    else if planned.target = target ∧ 0 < planned.times then
      (some planned.failure, { planned with times := planned.times - 1 } :: rest)
    else
      let (failure, rest) := consult target rest
      (failure, planned :: rest)

end FaultPlan

end ImagePipeline.Workflow
