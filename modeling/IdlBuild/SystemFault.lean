/-!
# Faults of the operating system

Why a request to the operating system failed: one of its numbered errors, or a text from the layer
above it. A numbered error is shown as its description followed by its number.
-/

namespace IdlBuild

/-- A failed request to the operating system. -/
inductive IoFault where
  | system (number : Int)
  | other (text : String)
deriving DecidableEq, Repr

namespace IoFault

/-! ### The errors that file-system requests meet -/

/-- Nothing has that name. -/
def noSuchEntry : IoFault := system 2

/-- A signal came in between. -/
def interrupted : IoFault := system 4

/-- The mode does not allow it. -/
def permissionDenied : IoFault := system 13

/-- The entry is in use. -/
def deviceBusy : IoFault := system 16

/-- Something has that name already. -/
def fileExists : IoFault := system 17

/-- A directory was needed. -/
def notDirectory : IoFault := system 20

/-- Something other than a directory was needed. -/
def isDirectory : IoFault := system 21

/-- The request makes no sense. -/
def invalidArgument : IoFault := system 22

/-- A name or a path is longer than it may be. -/
def nameTooLong : IoFault := system 36

/-- The directory holds entries. -/
def notEmpty : IoFault := system 39

/-- Links lead on to links without an end. -/
def tooManyLinks : IoFault := system 40

/-- A NUL character cannot be part of a path. -/
def nulInPath : IoFault := other "file name contained an unexpected NUL byte"

/-! ### Descriptions -/

/-- The descriptions of the numbered errors, from 0 on. -/
def descriptions : Array String :=
  #["Success", "Operation not permitted", "No such file or directory", "No such process",
    "Interrupted system call", "Input/output error", "No such device or address",
    "Argument list too long", "Exec format error", "Bad file descriptor", "No child processes",
    "Resource temporarily unavailable", "Cannot allocate memory", "Permission denied",
    "Bad address", "Block device required", "Device or resource busy", "File exists",
    "Invalid cross-device link", "No such device", "Not a directory", "Is a directory",
    "Invalid argument", "Too many open files in system", "Too many open files",
    "Inappropriate ioctl for device", "Text file busy", "File too large",
    "No space left on device", "Illegal seek", "Read-only file system", "Too many links",
    "Broken pipe", "Numerical argument out of domain", "Numerical result out of range",
    "Resource deadlock avoided", "File name too long", "No locks available",
    "Function not implemented", "Directory not empty", "Too many levels of symbolic links",
    "Unknown error 41", "No message of desired type", "Identifier removed",
    "Channel number out of range", "Level 2 not synchronized", "Level 3 halted", "Level 3 reset",
    "Link number out of range", "Protocol driver not attached", "No CSI structure available",
    "Level 2 halted", "Invalid exchange", "Invalid request descriptor", "Exchange full",
    "No anode", "Invalid request code", "Invalid slot", "Unknown error 58",
    "Bad font file format", "Device not a stream", "No data available", "Timer expired",
    "Out of streams resources", "Machine is not on the network", "Package not installed",
    "Object is remote", "Link has been severed", "Advertise error", "Srmount error",
    "Communication error on send", "Protocol error", "Multihop attempted", "RFS specific error",
    "Bad message", "Value too large for defined data type", "Name not unique on network",
    "File descriptor in bad state", "Remote address changed",
    "Can not access a needed shared library", "Accessing a corrupted shared library",
    ".lib section in a.out corrupted", "Attempting to link in too many shared libraries",
    "Cannot exec a shared library directly", "Invalid or incomplete multibyte or wide character",
    "Interrupted system call should be restarted", "Streams pipe error", "Too many users",
    "Socket operation on non-socket", "Destination address required", "Message too long",
    "Protocol wrong type for socket", "Protocol not available", "Protocol not supported",
    "Socket type not supported", "Operation not supported", "Protocol family not supported",
    "Address family not supported by protocol", "Address already in use",
    "Cannot assign requested address", "Network is down", "Network is unreachable",
    "Network dropped connection on reset", "Software caused connection abort",
    "Connection reset by peer", "No buffer space available",
    "Transport endpoint is already connected", "Transport endpoint is not connected",
    "Cannot send after transport endpoint shutdown", "Too many references: cannot splice",
    "Connection timed out", "Connection refused", "Host is down", "No route to host",
    "Operation already in progress", "Operation now in progress", "Stale file handle",
    "Structure needs cleaning", "Not a XENIX named type file", "No XENIX semaphores available",
    "Is a named type file", "Remote I/O error", "Disk quota exceeded", "No medium found",
    "Wrong medium type", "Operation canceled", "Required key not available", "Key has expired",
    "Key has been revoked", "Key was rejected by service", "Owner died", "State not recoverable",
    "Operation not possible due to RF-kill", "Memory page has hardware error"]

/-- The description of a numbered error. -/
def description (number : Int) : String :=
  match number with
  | .ofNat n => descriptions[n]?.getD s!"Unknown error {n}"
  | .negSucc n => s!"Unknown error -{n + 1}"

/-- The description of a fault without its number. -/
def reason : IoFault → String
  | system number => description number
  | other text => text

/-- How a fault is shown. -/
def message : IoFault → String
  | system number => s!"{description number} (os error {number})"
  | other text => text

/-- Whether the fault says that the entry asked for is not there. -/
def isMissing (fault : IoFault) : Bool := fault == noSuchEntry

/-- Whether the request was only interrupted and can be made again. -/
def isInterruption (fault : IoFault) : Bool := fault == interrupted

end IoFault

end IdlBuild
