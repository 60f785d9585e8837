import ImagePipeline.Checksum

namespace ImagePipeline.Queue

def partitionStream (topic : String) (n : Nat) : String := topic ++ ":" ++ toString n

def streamsOf (topic : String) (partitions : Int) : List String :=
  if partitions ≤ 1 then [topic]
  else (List.range partitions.toNat).map (partitionStream topic)

def streamFor (topic : String) (partitions : Int) (imageId : String) : String :=
  if partitions ≤ 1 then topic
  else partitionStream topic ((Checksum.crc32 imageId.toUTF8).toNat % partitions.toNat)

end ImagePipeline.Queue
