import AtomicKv.Fault

/-!
# Error numbers of the operating system

A failed system call leaves a number. The faults of Linux are listed by number, each with
its kind and its description.
-/
namespace AtomicKv.Fault

/-- The error numbers in use, each with the kind it is of (`other` when it is of none) and its
description. -/
def systemErrors : List (Int × FaultKind × String) := [
  (0, .other, "Success"),
  (1, .permissionDenied, "Operation not permitted"),
  (2, .notFound, "No such file or directory"),
  (3, .other, "No such process"),
  (4, .interrupted, "Interrupted system call"),
  (5, .other, "Input/output error"),
  (6, .other, "No such device or address"),
  (7, .argumentListTooLong, "Argument list too long"),
  (8, .other, "Exec format error"),
  (9, .other, "Bad file descriptor"),
  (10, .other, "No child processes"),
  (11, .wouldBlock, "Resource temporarily unavailable"),
  (12, .outOfMemory, "Cannot allocate memory"),
  (13, .permissionDenied, "Permission denied"),
  (14, .other, "Bad address"),
  (15, .other, "Block device required"),
  (16, .resourceBusy, "Device or resource busy"),
  (17, .alreadyExists, "File exists"),
  (18, .crossesDevices, "Invalid cross-device link"),
  (19, .other, "No such device"),
  (20, .notADirectory, "Not a directory"),
  (21, .isADirectory, "Is a directory"),
  (22, .invalidInput, "Invalid argument"),
  (23, .other, "Too many open files in system"),
  (24, .other, "Too many open files"),
  (25, .other, "Inappropriate ioctl for device"),
  (26, .executableFileBusy, "Text file busy"),
  (27, .fileTooLarge, "File too large"),
  (28, .storageFull, "No space left on device"),
  (29, .notSeekable, "Illegal seek"),
  (30, .readOnlyFilesystem, "Read-only file system"),
  (31, .tooManyLinks, "Too many links"),
  (32, .brokenPipe, "Broken pipe"),
  (33, .other, "Numerical argument out of domain"),
  (34, .other, "Numerical result out of range"),
  (35, .deadlock, "Resource deadlock avoided"),
  (36, .invalidFilename, "File name too long"),
  (37, .other, "No locks available"),
  (38, .unsupported, "Function not implemented"),
  (39, .directoryNotEmpty, "Directory not empty"),
  (40, .filesystemLoop, "Too many levels of symbolic links"),
  (42, .other, "No message of desired type"),
  (43, .other, "Identifier removed"),
  (44, .other, "Channel number out of range"),
  (45, .other, "Level 2 not synchronized"),
  (46, .other, "Level 3 halted"),
  (47, .other, "Level 3 reset"),
  (48, .other, "Link number out of range"),
  (49, .other, "Protocol driver not attached"),
  (50, .other, "No CSI structure available"),
  (51, .other, "Level 2 halted"),
  (52, .other, "Invalid exchange"),
  (53, .other, "Invalid request descriptor"),
  (54, .other, "Exchange full"),
  (55, .other, "No anode"),
  (56, .other, "Invalid request code"),
  (57, .other, "Invalid slot"),
  (59, .other, "Bad font file format"),
  (60, .other, "Device not a stream"),
  (61, .other, "No data available"),
  (62, .other, "Timer expired"),
  (63, .other, "Out of streams resources"),
  (64, .other, "Machine is not on the network"),
  (65, .other, "Package not installed"),
  (66, .other, "Object is remote"),
  (67, .other, "Link has been severed"),
  (68, .other, "Advertise error"),
  (69, .other, "Srmount error"),
  (70, .other, "Communication error on send"),
  (71, .other, "Protocol error"),
  (72, .other, "Multihop attempted"),
  (73, .other, "RFS specific error"),
  (74, .other, "Bad message"),
  (75, .other, "Value too large for defined data type"),
  (76, .other, "Name not unique on network"),
  (77, .other, "File descriptor in bad state"),
  (78, .other, "Remote address changed"),
  (79, .other, "Can not access a needed shared library"),
  (80, .other, "Accessing a corrupted shared library"),
  (81, .other, ".lib section in a.out corrupted"),
  (82, .other, "Attempting to link in too many shared libraries"),
  (83, .other, "Cannot exec a shared library directly"),
  (84, .other, "Invalid or incomplete multibyte or wide character"),
  (85, .other, "Interrupted system call should be restarted"),
  (86, .other, "Streams pipe error"),
  (87, .other, "Too many users"),
  (88, .other, "Socket operation on non-socket"),
  (89, .other, "Destination address required"),
  (90, .other, "Message too long"),
  (91, .other, "Protocol wrong type for socket"),
  (92, .other, "Protocol not available"),
  (93, .other, "Protocol not supported"),
  (94, .other, "Socket type not supported"),
  (95, .unsupported, "Operation not supported"),
  (96, .other, "Protocol family not supported"),
  (97, .other, "Address family not supported by protocol"),
  (98, .addrInUse, "Address already in use"),
  (99, .addrNotAvailable, "Cannot assign requested address"),
  (100, .networkDown, "Network is down"),
  (101, .networkUnreachable, "Network is unreachable"),
  (102, .other, "Network dropped connection on reset"),
  (103, .connectionAborted, "Software caused connection abort"),
  (104, .connectionReset, "Connection reset by peer"),
  (105, .other, "No buffer space available"),
  (106, .other, "Transport endpoint is already connected"),
  (107, .notConnected, "Transport endpoint is not connected"),
  (108, .other, "Cannot send after transport endpoint shutdown"),
  (109, .other, "Too many references: cannot splice"),
  (110, .timedOut, "Connection timed out"),
  (111, .connectionRefused, "Connection refused"),
  (112, .other, "Host is down"),
  (113, .hostUnreachable, "No route to host"),
  (114, .other, "Operation already in progress"),
  (115, .inProgress, "Operation now in progress"),
  (116, .staleNetworkFileHandle, "Stale file handle"),
  (117, .other, "Structure needs cleaning"),
  (118, .other, "Not a XENIX named type file"),
  (119, .other, "No XENIX semaphores available"),
  (120, .other, "Is a named type file"),
  (121, .other, "Remote I/O error"),
  (122, .quotaExceeded, "Disk quota exceeded"),
  (123, .other, "No medium found"),
  (124, .other, "Wrong medium type"),
  (125, .other, "Operation canceled"),
  (126, .other, "Required key not available"),
  (127, .other, "Key has expired"),
  (128, .other, "Key has been revoked"),
  (129, .other, "Key was rejected by service"),
  (130, .other, "Owner died"),
  (131, .other, "State not recoverable"),
  (132, .other, "Operation not possible due to RF-kill"),
  (133, .other, "Memory page has hardware error")]

/-- Kind and description of an error number; any integer may be asked about. -/
def system (number : Int) : FaultKind × String :=
  (systemErrors.lookup number).getD (.other, "Unknown error " ++ toString number)

def ofSystem (number : Int) : Fault :=
  let (kind, description) := system number
  ⟨kind, description ++ " (os error " ++ toString number ++ ")"⟩

/-- A wait that ran past its bound. -/
def silence : Fault :=
  ofSystem 11

/-- The end of a bounded wait is a kind of its own and not an end of the stream. -/
theorem kind_silence : silence.kind = .wouldBlock := rfl

end AtomicKv.Fault
