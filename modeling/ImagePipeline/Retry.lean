import ImagePipeline.Routine

namespace ImagePipeline

structure RetryStrategy (δ : Type) where
  attempts : Int
  delay : δ
  backoff : δ
  deriving Inhabited

namespace RetryStrategy

def standard : RetryStrategy Float := ⟨3, 2, 2⟩

def retries {δ : Type} (strategy : RetryStrategy δ) : Nat := (strategy.attempts - 1).toNat

end RetryStrategy

namespace Retry

variable {I : Interface} {α δ : Type}

/-- Tries, and up to `retries` times again after a pause that grows by the factor. A pause that fails
ends it. -/
def loop [Mul δ] (worthRetrying : Failure → Bool) (pause : δ → Routine I Unit) (backoff : δ)
    (body : Routine I α) : Nat → δ → Routine I α
  | 0, _ => body
  | retries + 1, delay =>
    body.recover worthRetrying fun _ => do
      pause delay
      loop worthRetrying pause backoff body retries (delay * backoff)

def attempts [Mul δ] (strategy : RetryStrategy δ) (worthRetrying : Failure → Bool)
    (pause : δ → Routine I Unit) (body : Routine I α) : Routine I α :=
  loop worthRetrying pause strategy.backoff body strategy.retries strategy.delay

/-- What letting some seconds pass comes to. The clock counts nanoseconds, in 64 bits. -/
def rest (seconds : Float) : Except Failure Unit :=
  let nanoseconds := seconds * 1000000000
  if seconds.isNaN then .error .undefinedPause
  else if nanoseconds < -9223372036854775808 || 9223372036854775808 ≤ nanoseconds then
    .error .endlessPause
  else if seconds < 0 then .error .negativePause
  else .ok ()

end Retry

end ImagePipeline
