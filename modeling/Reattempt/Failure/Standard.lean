import Reattempt.Failure.Kind

/-!
# The standard kinds

Every kind of failure that is there without being defined by a caller: the base of all failures,
the ordinary ones that a run may take up, the stops that no run takes up, the kinds of system
failures told apart by an error number, the failures of web requests, and the failure that ends a
run.
-/

namespace Reattempt.Kind

def builtIn (name : String) (parents : List Kind) : Kind := ⟨name, "", parents⟩

/-! ### Roots -/

def baseException : Kind := builtIn "BaseException" []

/-- The ordinary failures: only these may be retried. -/
def exception : Kind := builtIn "Exception" [baseException]

def baseExceptionGroup : Kind := builtIn "BaseExceptionGroup" [baseException]

def exceptionGroup : Kind := builtIn "ExceptionGroup" [baseExceptionGroup, exception]

def keyboardInterrupt : Kind := builtIn "KeyboardInterrupt" [baseException]
def systemExit : Kind := builtIn "SystemExit" [baseException]
def generatorExit : Kind := builtIn "GeneratorExit" [baseException]
def cancelledError : Kind := ⟨"CancelledError", "asyncio.exceptions", [baseException]⟩

/-! ### Ordinary failures -/

def arithmeticError : Kind := builtIn "ArithmeticError" [exception]
def floatingPointError : Kind := builtIn "FloatingPointError" [arithmeticError]
def overflowError : Kind := builtIn "OverflowError" [arithmeticError]
def zeroDivisionError : Kind := builtIn "ZeroDivisionError" [arithmeticError]
def assertionError : Kind := builtIn "AssertionError" [exception]
def attributeError : Kind := builtIn "AttributeError" [exception]
def bufferError : Kind := builtIn "BufferError" [exception]
def eofError : Kind := builtIn "EOFError" [exception]
def importError : Kind := builtIn "ImportError" [exception]
def moduleNotFoundError : Kind := builtIn "ModuleNotFoundError" [importError]
def lookupError : Kind := builtIn "LookupError" [exception]
def indexError : Kind := builtIn "IndexError" [lookupError]
def keyError : Kind := builtIn "KeyError" [lookupError]
def memoryError : Kind := builtIn "MemoryError" [exception]
def nameError : Kind := builtIn "NameError" [exception]
def unboundLocalError : Kind := builtIn "UnboundLocalError" [nameError]
def referenceError : Kind := builtIn "ReferenceError" [exception]
def runtimeError : Kind := builtIn "RuntimeError" [exception]
def notImplementedError : Kind := builtIn "NotImplementedError" [runtimeError]
def recursionError : Kind := builtIn "RecursionError" [runtimeError]
def stopIteration : Kind := builtIn "StopIteration" [exception]
def stopAsyncIteration : Kind := builtIn "StopAsyncIteration" [exception]
def syntaxError : Kind := builtIn "SyntaxError" [exception]
def indentationError : Kind := builtIn "IndentationError" [syntaxError]
def tabError : Kind := builtIn "TabError" [indentationError]
def systemError : Kind := builtIn "SystemError" [exception]
def typeError : Kind := builtIn "TypeError" [exception]
def valueError : Kind := builtIn "ValueError" [exception]
def unicodeError : Kind := builtIn "UnicodeError" [valueError]
def unicodeDecodeError : Kind := builtIn "UnicodeDecodeError" [unicodeError]
def unicodeEncodeError : Kind := builtIn "UnicodeEncodeError" [unicodeError]
def unicodeTranslateError : Kind := builtIn "UnicodeTranslateError" [unicodeError]

def frozenInstanceError : Kind := ⟨"FrozenInstanceError", "dataclasses", [attributeError]⟩

/-! ### Failures of the system -/

def osError : Kind := builtIn "OSError" [exception]

def blockingIOError : Kind := builtIn "BlockingIOError" [osError]
def childProcessError : Kind := builtIn "ChildProcessError" [osError]
def connectionError : Kind := builtIn "ConnectionError" [osError]
def brokenPipeError : Kind := builtIn "BrokenPipeError" [connectionError]
def connectionAbortedError : Kind := builtIn "ConnectionAbortedError" [connectionError]
def connectionRefusedError : Kind := builtIn "ConnectionRefusedError" [connectionError]
def connectionResetError : Kind := builtIn "ConnectionResetError" [connectionError]
def fileExistsError : Kind := builtIn "FileExistsError" [osError]
def fileNotFoundError : Kind := builtIn "FileNotFoundError" [osError]
def interruptedError : Kind := builtIn "InterruptedError" [osError]
def isADirectoryError : Kind := builtIn "IsADirectoryError" [osError]
def notADirectoryError : Kind := builtIn "NotADirectoryError" [osError]
def permissionError : Kind := builtIn "PermissionError" [osError]
def processLookupError : Kind := builtIn "ProcessLookupError" [osError]
def timeoutError : Kind := builtIn "TimeoutError" [osError]

def ofErrorNumber? : Int → Option Kind
  | 1 | 13 => some permissionError
  | 2 => some fileNotFoundError
  | 3 => some processLookupError
  | 4 => some interruptedError
  | 10 => some childProcessError
  | 11 | 114 | 115 => some blockingIOError
  | 17 => some fileExistsError
  | 20 => some notADirectoryError
  | 21 => some isADirectoryError
  | 32 | 108 => some brokenPipeError
  | 103 => some connectionAbortedError
  | 104 => some connectionResetError
  | 110 => some timeoutError
  | 111 => some connectionRefusedError
  | _ => none

/-! ### Warnings -/

def warning : Kind := builtIn "Warning" [exception]

def warningNamed (name : String) : Kind := builtIn name [warning]

/-! ### Failures of web requests -/

def web (name : String) (parents : List Kind) : Kind := ⟨name, "httpx", parents⟩

def httpError : Kind := web "HTTPError" [exception]

def httpStatusError : Kind := web "HTTPStatusError" [httpError]

def requestError : Kind := web "RequestError" [httpError]

def transportError : Kind := web "TransportError" [requestError]

def timeoutException : Kind := web "TimeoutException" [transportError]
def networkError : Kind := web "NetworkError" [transportError]
def protocolError : Kind := web "ProtocolError" [transportError]

def invalidUrl : Kind := web "InvalidURL" [exception]

/-! ### The failure that ends a run -/

def exhausted : Kind := ⟨"RetryError", "aretry.exceptions", [exception]⟩

/-! ### All of them -/

def standard : List Kind :=
  [baseException, exception, baseExceptionGroup, exceptionGroup, keyboardInterrupt, systemExit,
    generatorExit, cancelledError,
    arithmeticError, floatingPointError, overflowError, zeroDivisionError, assertionError,
    attributeError, bufferError, eofError, importError, moduleNotFoundError, lookupError,
    indexError, keyError, memoryError, nameError, unboundLocalError, referenceError, runtimeError,
    notImplementedError, recursionError, stopIteration, stopAsyncIteration, syntaxError,
    indentationError, tabError, systemError, typeError, valueError, unicodeError,
    unicodeDecodeError, unicodeEncodeError, unicodeTranslateError, frozenInstanceError, osError,
    blockingIOError, childProcessError, connectionError, brokenPipeError, connectionAbortedError,
    connectionRefusedError, connectionResetError, fileExistsError, fileNotFoundError,
    interruptedError, isADirectoryError, notADirectoryError, permissionError, processLookupError,
    timeoutError, warning]
  ++ ["BytesWarning", "DeprecationWarning", "EncodingWarning", "FutureWarning", "ImportWarning",
    "PendingDeprecationWarning", "ResourceWarning", "RuntimeWarning", "SyntaxWarning",
    "UnicodeWarning", "UserWarning"].map warningNamed
  ++ [httpError, httpStatusError, requestError, transportError, timeoutException, networkError,
    protocolError, web "DecodingError" [requestError], web "TooManyRedirects" [requestError],
    web "ProxyError" [transportError], web "UnsupportedProtocol" [transportError],
    invalidUrl, web "CookieConflict" [exception]]
  ++ ["ConnectTimeout", "ReadTimeout", "WriteTimeout", "PoolTimeout"].map
    (web · [timeoutException])
  ++ ["ConnectError", "ReadError", "WriteError", "CloseError"].map (web · [networkError])
  ++ ["LocalProtocolError", "RemoteProtocolError"].map (web · [protocolError])
  ++ [exhausted]

/-- The standard kind of a name; two old names of system failures still work. -/
def named? (name : String) : Option Kind :=
  if name = "IOError" || name = "EnvironmentError" then some osError
  else standard.find? fun k => k.name = name

end Reattempt.Kind
