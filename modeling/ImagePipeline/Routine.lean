import ImagePipeline.Failure
import ImagePipeline.Script

namespace ImagePipeline

/-- A script over an interface that ends in a result or a failure. -/
abbrev Routine (I : Interface) := ExceptT Failure (Script I)

namespace Routine

variable {I : Interface} {α : Type}

def ask (script : Script I (Except Failure α)) : Routine I α := ExceptT.mk script

def tell (script : Script I α) : Routine I α := ExceptT.lift script

/-- Runs `body`; a failure that `expected` selects is handed to `handler`. -/
def recover (body : Routine I α) (expected : Failure → Bool)
    (handler : Failure → Routine I α) : Routine I α :=
  tryCatch body fun failure => if expected failure then handler failure else throw failure

end Routine

end ImagePipeline
