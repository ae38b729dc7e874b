import OtaCompile.Host

/-!
# Space on volumes

The sizes of a volume in bytes, where a product that does not fit into 64 bits counts as the largest
number that does, and the space below which a volume is low: a share of its size up to a cap, or a
fixed number of bytes.
-/

namespace OtaCompile

namespace Host

def largestWord : Nat := UInt64.size - 1

def saturatingMul (a b : UInt64) : UInt64 := .ofNat (min (a.toNat * b.toNat) largestWord)

def VolumeSize.totalBytes (v : VolumeSize) : UInt64 := saturatingMul v.blocks v.fragment

def VolumeSize.availableBytes (v : VolumeSize) : UInt64 := saturatingMul v.available v.fragment

/-- `percent` of a volume of `total` bytes, but no more than `cap`. -/
def lowSpaceBytes (total : UInt64) (percent : UInt8) (cap : UInt64) : UInt64 :=
  .ofNat (min (total.toNat * percent.toNat / 100) cap.toNat)

/-- The number of bytes before the first NUL character, if there is one. -/
def nulPosition? (s : String) : Option Nat :=
  let before := s.toList.takeWhile (· != '\x00')
  if before.length < s.toList.length then some (String.ofList before).utf8ByteSize else none

def volumeFault (volume : Path) (reason : String) : PlatformFault :=
  .fileSystem "statvfs" (volume.text ++ ": " ++ reason)

/-- A path with a NUL character cannot be asked about. -/
def volumeSize (volume : Path) : Job (Except PlatformFault VolumeSize) := do
  match nulPosition? volume.text with
  | some n =>
    return .error (volumeFault volume ("nul byte found in provided data at position: " ++ n.repr))
  | none =>
    match ← Dialogue.question (Request.volumeSize volume) with
    | .ok size => return .ok size
    | .error f => return .error (volumeFault volume f.message)

/-- The space below which a volume is low. -/
structure SpaceLimit where
  percent : UInt8
  maxBytes : UInt64
  /-- A limit of its own, whatever the size of the volume. -/
  fixedBytes : Option UInt64 := none
deriving DecidableEq, Repr, Inhabited

/-- A fixed limit is known without asking for the size. -/
def SpaceLimit.threshold (l : SpaceLimit) (volume : Path) : Job (Except PlatformFault UInt64) := do
  match l.fixedBytes with
  | some bytes => return .ok bytes
  | none =>
    match ← volumeSize volume with
    | .ok size => return .ok (lowSpaceBytes size.totalBytes l.percent l.maxBytes)
    | .error f => return .error f

def usableSpace (volume : Path) : Job (Except PlatformFault UInt64) := do
  match ← volumeSize volume with
  | .ok size => return .ok size.availableBytes
  | .error f => return .error f

end Host

end OtaCompile
