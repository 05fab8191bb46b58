import Blockwise.Fault

/-!
# Channel — failures of byte channels

A stream may be driven over a channel: a sink that takes bytes or a source that supplies them.
A channel can fail on its own account, with a kind and a message; and a fault of the stream
travels through the channel's operations as a failure of the matching kind.

Only one kind changes what the library does: an interrupted operation is tried again.
-/

namespace Blockwise

/-- The kinds of failure of a channel. -/
inductive FailureKind where
  | notFound
  | permissionDenied
  | connectionRefused
  | connectionReset
  | hostUnreachable
  | networkUnreachable
  | connectionAborted
  | notConnected
  | addrInUse
  | addrNotAvailable
  | networkDown
  | brokenPipe
  | alreadyExists
  | wouldBlock
  | notADirectory
  | isADirectory
  | directoryNotEmpty
  | readOnlyFilesystem
  | staleNetworkFileHandle
  | invalidInput
  | invalidData
  | timedOut
  | writeZero
  | storageFull
  | notSeekable
  | quotaExceeded
  | fileTooLarge
  | resourceBusy
  | executableFileBusy
  | deadlock
  | crossesDevices
  | tooManyLinks
  | invalidFilename
  | argumentListTooLong
  | interrupted
  | unsupported
  | unexpectedEof
  | outOfMemory
  | other
deriving DecidableEq

namespace FailureKind

/-- The name of the kind. -/
def name : FailureKind → String
  | notFound => "NotFound"
  | permissionDenied => "PermissionDenied"
  | connectionRefused => "ConnectionRefused"
  | connectionReset => "ConnectionReset"
  | hostUnreachable => "HostUnreachable"
  | networkUnreachable => "NetworkUnreachable"
  | connectionAborted => "ConnectionAborted"
  | notConnected => "NotConnected"
  | addrInUse => "AddrInUse"
  | addrNotAvailable => "AddrNotAvailable"
  | networkDown => "NetworkDown"
  | brokenPipe => "BrokenPipe"
  | alreadyExists => "AlreadyExists"
  | wouldBlock => "WouldBlock"
  | notADirectory => "NotADirectory"
  | isADirectory => "IsADirectory"
  | directoryNotEmpty => "DirectoryNotEmpty"
  | readOnlyFilesystem => "ReadOnlyFilesystem"
  | staleNetworkFileHandle => "StaleNetworkFileHandle"
  | invalidInput => "InvalidInput"
  | invalidData => "InvalidData"
  | timedOut => "TimedOut"
  | writeZero => "WriteZero"
  | storageFull => "StorageFull"
  | notSeekable => "NotSeekable"
  | quotaExceeded => "QuotaExceeded"
  | fileTooLarge => "FileTooLarge"
  | resourceBusy => "ResourceBusy"
  | executableFileBusy => "ExecutableFileBusy"
  | deadlock => "Deadlock"
  | crossesDevices => "CrossesDevices"
  | tooManyLinks => "TooManyLinks"
  | invalidFilename => "InvalidFilename"
  | argumentListTooLong => "ArgumentListTooLong"
  | interrupted => "Interrupted"
  | unsupported => "Unsupported"
  | unexpectedEof => "UnexpectedEof"
  | outOfMemory => "OutOfMemory"
  | other => "Other"

/-- All kinds, in the order of their declaration. -/
def all : List FailureKind :=
  [notFound, permissionDenied, connectionRefused, connectionReset, hostUnreachable,
    networkUnreachable, connectionAborted, notConnected, addrInUse, addrNotAvailable, networkDown,
    brokenPipe, alreadyExists, wouldBlock, notADirectory, isADirectory, directoryNotEmpty,
    readOnlyFilesystem, staleNetworkFileHandle, invalidInput, invalidData, timedOut, writeZero,
    storageFull, notSeekable, quotaExceeded, fileTooLarge, resourceBusy, executableFileBusy,
    deadlock, crossesDevices, tooManyLinks, invalidFilename, argumentListTooLong, interrupted,
    unsupported, unexpectedEof, outOfMemory, other]

/-- The kind with the given name, if there is one. -/
def ofName? (text : String) : Option FailureKind :=
  all.find? fun kind => kind.name = text

end FailureKind

/-- A failure of a channel on its own account. -/
structure Failure where
  kind : FailureKind
  message : String
deriving DecidableEq

/-- The kind as which a fault of a stream travels through a channel. -/
def Fault.kind : Fault → FailureKind
  | .outOfRange .. | .badSetting _ => .invalidInput
  | .blockFailed .. | .poisoned => .invalidData
  | .unsupported _ | .unavailable _ => .unsupported
  | .untimely _ => .other

/-- Why an operation over a channel failed: the channel did, or the stream driven over it. -/
inductive ChannelError where
  | channel (failure : Failure)
  | stream (fault : Fault)
deriving DecidableEq

namespace ChannelError

def kind : ChannelError → FailureKind
  | channel failure => failure.kind
  | stream fault => fault.kind

/-- A fault of the stream keeps its own words. -/
def message : ChannelError → String
  | channel failure => failure.message
  | stream fault => fault.message

/-- The fault of the stream behind the error, if it was one. -/
def fault? : ChannelError → Option Fault
  | channel _ => none
  | stream fault => some fault

end ChannelError

/-! ## Buffers -/

/-- The size of the buffer between a stream and a channel: at least one byte, so that every
transfer can make progress. -/
def transferSize (requested : Nat) : Nat := max requested 1

theorem transferSize_pos (requested : Nat) : 0 < transferSize requested :=
  Nat.le_max_right ..

end Blockwise
