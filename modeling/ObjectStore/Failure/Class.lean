/-!
# Classes of failures

Failures of the system have classes of their own, some of which an error number selects. Besides
them only the classes that mean an interruption, and the one that ends an iteration, are told apart;
of every other class the name is enough.
-/

namespace ObjectStore

set_option autoImplicit false

inductive SystemClass where
  | general
  | blocking
  | childProcess
  | connection
  | brokenPipe
  | connectionAborted
  | connectionRefused
  | connectionReset
  | fileExists
  | fileNotFound
  | interrupted
  | isDirectory
  | notDirectory
  | permission
  | processLookup
  | timeout
  deriving DecidableEq, Repr, Inhabited

namespace SystemClass

def all : List SystemClass :=
  [general, blocking, childProcess, connection, brokenPipe, connectionAborted, connectionRefused,
    connectionReset, fileExists, fileNotFound, interrupted, isDirectory, notDirectory, permission,
    processLookup, timeout]

def name : SystemClass → String
  | general => "OSError"
  | blocking => "BlockingIOError"
  | childProcess => "ChildProcessError"
  | connection => "ConnectionError"
  | brokenPipe => "BrokenPipeError"
  | connectionAborted => "ConnectionAbortedError"
  | connectionRefused => "ConnectionRefusedError"
  | connectionReset => "ConnectionResetError"
  | fileExists => "FileExistsError"
  | fileNotFound => "FileNotFoundError"
  | interrupted => "InterruptedError"
  | isDirectory => "IsADirectoryError"
  | notDirectory => "NotADirectoryError"
  | permission => "PermissionError"
  | processLookup => "ProcessLookupError"
  | timeout => "TimeoutError"

def ofName? (word : String) : Option SystemClass :=
  all.find? fun family => family.name = word

def ofErrorNumber (number : Int) : SystemClass :=
  if number = 1 ∨ number = 13 then permission
  else if number = 2 then fileNotFound
  else if number = 3 then processLookup
  else if number = 4 then interrupted
  else if number = 10 then childProcess
  else if number = 11 ∨ number = 114 ∨ number = 115 then blocking
  else if number = 17 then fileExists
  else if number = 20 then notDirectory
  else if number = 21 then isDirectory
  else if number = 32 ∨ number = 108 then brokenPipe
  else if number = 103 then connectionAborted
  else if number = 104 then connectionReset
  else if number = 110 then timeout
  else if number = 111 then connectionRefused
  else general

/-- Timed-out system calls count as interrupted ones. -/
def isInterrupt : SystemClass → Bool
  | interrupted => true
  | timeout => true
  | _ => false

end SystemClass

inductive OrdinaryClass where
  | keyboardInterrupt
  | taskCancelled
  | futureCancelled
  | iterationEnd
  deriving DecidableEq, Repr, Inhabited

namespace OrdinaryClass

def isInterrupt : OrdinaryClass → Bool
  | keyboardInterrupt => true
  | taskCancelled => true
  | futureCancelled => true
  | _ => false

end OrdinaryClass

end ObjectStore
