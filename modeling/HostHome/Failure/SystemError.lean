/-!
# Errors of the system

A request to the system fails with a number, and each number has a fixed text.
Some requests fail before they reach the system: no name of a file and no
argument of a program can hold a zero byte.
-/

namespace HostHome

/-- Why a request to the system failed. -/
inductive SystemError where
  /-- The system gave a number. -/
  | code (number : Int)
  /-- A path holds a zero byte. -/
  | zeroInPath
  /-- An argument of a program holds a zero byte. -/
  | zeroInArgument
  /-- A failure without a number, in words. -/
  | described (text : String)
  deriving DecidableEq, Repr

namespace SystemError

/-- The text of a number, in the order of the numbers from zero. Numbers without a text of their own
have an empty one. -/
def texts : List String :=
  [
    "Success",
    "Operation not permitted",
    "No such file or directory",
    "No such process",
    "Interrupted system call",
    "Input/output error",
    "No such device or address",
    "Argument list too long",
    "Exec format error",
    "Bad file descriptor",
    "No child processes",
    "Resource temporarily unavailable",
    "Cannot allocate memory",
    "Permission denied",
    "Bad address",
    "Block device required",
    "Device or resource busy",
    "File exists",
    "Invalid cross-device link",
    "No such device",
    "Not a directory",
    "Is a directory",
    "Invalid argument",
    "Too many open files in system",
    "Too many open files",
    "Inappropriate ioctl for device",
    "Text file busy",
    "File too large",
    "No space left on device",
    "Illegal seek",
    "Read-only file system",
    "Too many links",
    "Broken pipe",
    "Numerical argument out of domain",
    "Numerical result out of range",
    "Resource deadlock avoided",
    "File name too long",
    "No locks available",
    "Function not implemented",
    "Directory not empty",
    "Too many levels of symbolic links",
    "",
    "No message of desired type",
    "Identifier removed",
    "Channel number out of range",
    "Level 2 not synchronized",
    "Level 3 halted",
    "Level 3 reset",
    "Link number out of range",
    "Protocol driver not attached",
    "No CSI structure available",
    "Level 2 halted",
    "Invalid exchange",
    "Invalid request descriptor",
    "Exchange full",
    "No anode",
    "Invalid request code",
    "Invalid slot",
    "",
    "Bad font file format",
    "Device not a stream",
    "No data available",
    "Timer expired",
    "Out of streams resources",
    "Machine is not on the network",
    "Package not installed",
    "Object is remote",
    "Link has been severed",
    "Advertise error",
    "Srmount error",
    "Communication error on send",
    "Protocol error",
    "Multihop attempted",
    "RFS specific error",
    "Bad message",
    "Value too large for defined data type",
    "Name not unique on network",
    "File descriptor in bad state",
    "Remote address changed",
    "Can not access a needed shared library",
    "Accessing a corrupted shared library",
    ".lib section in a.out corrupted",
    "Attempting to link in too many shared libraries",
    "Cannot exec a shared library directly",
    "Invalid or incomplete multibyte or wide character",
    "Interrupted system call should be restarted",
    "Streams pipe error",
    "Too many users",
    "Socket operation on non-socket",
    "Destination address required",
    "Message too long",
    "Protocol wrong type for socket",
    "Protocol not available",
    "Protocol not supported",
    "Socket type not supported",
    "Operation not supported",
    "Protocol family not supported",
    "Address family not supported by protocol",
    "Address already in use",
    "Cannot assign requested address",
    "Network is down",
    "Network is unreachable",
    "Network dropped connection on reset",
    "Software caused connection abort",
    "Connection reset by peer",
    "No buffer space available",
    "Transport endpoint is already connected",
    "Transport endpoint is not connected",
    "Cannot send after transport endpoint shutdown",
    "Too many references: cannot splice",
    "Connection timed out",
    "Connection refused",
    "Host is down",
    "No route to host",
    "Operation already in progress",
    "Operation now in progress",
    "Stale file handle",
    "Structure needs cleaning",
    "Not a XENIX named type file",
    "No XENIX semaphores available",
    "Is a named type file",
    "Remote I/O error",
    "Disk quota exceeded",
    "No medium found",
    "Wrong medium type",
    "Operation canceled",
    "Required key not available",
    "Key has expired",
    "Key has been revoked",
    "Key was rejected by service",
    "Owner died",
    "State not recoverable",
    "Operation not possible due to RF-kill",
    "Memory page has hardware error"]

def numberText (number : Int) : String :=
  let text := if 0 ≤ number then texts.getD number.toNat "" else ""
  if text = "" then "Unknown error " ++ toString number else text

def message : SystemError → String
  | .code number => numberText number ++ " (os error " ++ toString number ++ ")"
  | zeroInPath => "file name contained an unexpected NUL byte"
  | zeroInArgument => "nul byte found in provided data"
  | described text => text

def number? : SystemError → Option Int
  | .code number => some number
  | _ => none

/-- There is no such file or directory. -/
abbrev absent : SystemError := .code 2

/-- There are too many arguments, or they are too long. -/
abbrev argumentsTooLong : SystemError := .code 7

/-- The file is no program. -/
abbrev notExecutable : SystemError := .code 8

/-- Permission denied. -/
abbrev denied : SystemError := .code 13

/-- There is already such a file or directory. -/
abbrev occupied : SystemError := .code 17

/-- A directory was needed. -/
abbrev notDirectory : SystemError := .code 20

/-- A directory was not wanted. -/
abbrev isDirectory : SystemError := .code 21

/-- The request has no meaning. -/
abbrev invalid : SystemError := .code 22

/-- The request is not permitted. -/
abbrev notPermitted : SystemError := .code 1

/-- A directory is in use. -/
abbrev busy : SystemError := .code 16

/-- A name or a path is too long. -/
abbrev nameTooLong : SystemError := .code 36

/-- There are too many symbolic links on the way. -/
abbrev tooManyLinks : SystemError := .code 40

end SystemError

end HostHome
