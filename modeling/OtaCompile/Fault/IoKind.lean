import OtaCompile.Naming

/-!
# Kinds of input and output failures

The names are the ones a fault is written with; only a few of them are understood again when a fault
is read back (`IoKind.ofKnownName`).
-/

namespace OtaCompile

inductive IoKind
  | notFound
  | permissionDenied
  | connectionRefused
  | connectionReset
  | hostUnreachable
  | networkUnreachable
  | connectionAborted
  | notConnected
  | addrInUse
  | addrNotAvailable
  | networkDown
  | brokenPipe
  | alreadyExists
  | wouldBlock
  | notADirectory
  | isADirectory
  | directoryNotEmpty
  | readOnlyFilesystem
  | filesystemLoop
  | staleNetworkFileHandle
  | invalidInput
  | invalidData
  | timedOut
  | writeZero
  | storageFull
  | notSeekable
  | quotaExceeded
  | fileTooLarge
  | resourceBusy
  | executableFileBusy
  | deadlock
  | crossesDevices
  | tooManyLinks
  | invalidFilename
  | argumentListTooLong
  | interrupted
  | unsupported
  | unexpectedEof
  | outOfMemory
  | inProgress
  | other
  | uncategorized
deriving DecidableEq, Repr, Inhabited

namespace IoKind

instance : Named IoKind where
  all := [notFound, permissionDenied, connectionRefused, connectionReset, hostUnreachable,
    networkUnreachable, connectionAborted, notConnected, addrInUse, addrNotAvailable, networkDown,
    brokenPipe, alreadyExists, wouldBlock, notADirectory, isADirectory, directoryNotEmpty,
    readOnlyFilesystem, filesystemLoop, staleNetworkFileHandle, invalidInput, invalidData, timedOut,
    writeZero, storageFull, notSeekable, quotaExceeded, fileTooLarge, resourceBusy,
    executableFileBusy, deadlock, crossesDevices, tooManyLinks, invalidFilename,
    argumentListTooLong, interrupted, unsupported, unexpectedEof, outOfMemory, inProgress, other,
    uncategorized]
  name
    | notFound => "NotFound"
    | permissionDenied => "PermissionDenied"
    | connectionRefused => "ConnectionRefused"
    | connectionReset => "ConnectionReset"
    | hostUnreachable => "HostUnreachable"
    | networkUnreachable => "NetworkUnreachable"
    | connectionAborted => "ConnectionAborted"
    | notConnected => "NotConnected"
    | addrInUse => "AddrInUse"
    | addrNotAvailable => "AddrNotAvailable"
    | networkDown => "NetworkDown"
    | brokenPipe => "BrokenPipe"
    | alreadyExists => "AlreadyExists"
    | wouldBlock => "WouldBlock"
    | notADirectory => "NotADirectory"
    | isADirectory => "IsADirectory"
    | directoryNotEmpty => "DirectoryNotEmpty"
    | readOnlyFilesystem => "ReadOnlyFilesystem"
    | filesystemLoop => "FilesystemLoop"
    | staleNetworkFileHandle => "StaleNetworkFileHandle"
    | invalidInput => "InvalidInput"
    | invalidData => "InvalidData"
    | timedOut => "TimedOut"
    | writeZero => "WriteZero"
    | storageFull => "StorageFull"
    | notSeekable => "NotSeekable"
    | quotaExceeded => "QuotaExceeded"
    | fileTooLarge => "FileTooLarge"
    | resourceBusy => "ResourceBusy"
    | executableFileBusy => "ExecutableFileBusy"
    | deadlock => "Deadlock"
    | crossesDevices => "CrossesDevices"
    | tooManyLinks => "TooManyLinks"
    | invalidFilename => "InvalidFilename"
    | argumentListTooLong => "ArgumentListTooLong"
    | interrupted => "Interrupted"
    | unsupported => "Unsupported"
    | unexpectedEof => "UnexpectedEof"
    | outOfMemory => "OutOfMemory"
    | inProgress => "InProgress"
    | other => "Other"
    | uncategorized => "Uncategorized"
  find_name a := by cases a <;> rfl

/-- The kinds that keep their name when a fault is read back. -/
def known : List IoKind :=
  [notFound, permissionDenied, alreadyExists, invalidInput, invalidData, interrupted, unsupported,
    unexpectedEof]

/-- A name that is not known reads as `other`. -/
def ofKnownName (s : String) : IoKind :=
  (known.find? fun k => Named.name k == s).getD other

end IoKind

end OtaCompile
