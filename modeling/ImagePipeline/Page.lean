namespace ImagePipeline

structure Page where
  limit : Int
  offset : Int
  deriving DecidableEq, Inhabited

namespace Page

def usualLimit : Int := 10

def maxLimit : Int := 100

def normalize (limit offset : Int) : Page where
  limit := min (if limit ≤ 0 then usualLimit else limit) maxLimit
  offset := max offset 0

theorem normalize_normalize (limit offset : Int) :
    normalize (normalize limit offset).limit (normalize limit offset).offset =
      normalize limit offset := by
  simp only [normalize, usualLimit, maxLimit, mk.injEq]
  omega

end Page

end ImagePipeline
