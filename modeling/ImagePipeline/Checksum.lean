namespace ImagePipeline.Checksum

def shiftBit (remainder : UInt32) : UInt32 :=
  if remainder &&& 1 == 1 then (remainder >>> 1) ^^^ 0xedb88320 else remainder >>> 1

def byteRemainder (byte : UInt32) : UInt32 :=
  Nat.repeat shiftBit 8 byte

def byteTable : Array UInt32 :=
  Array.ofFn fun i : Fin 256 => byteRemainder i.val.toUInt32

def step (remainder : UInt32) (byte : UInt8) : UInt32 :=
  byteTable.getD ((remainder ^^^ byte.toUInt32) &&& 0xff).toNat 0 ^^^ (remainder >>> 8)

def crc32 (bytes : ByteArray) : UInt32 :=
  bytes.foldl step 0xffffffff ^^^ 0xffffffff

end ImagePipeline.Checksum
