import TemplateEngine.Text.Basic

set_option autoImplicit false

/-!
# Classes of exceptions

The classes that exceptions of the script language belong to. Each but one is derived from another
one; a handler for a class handles the exceptions of all classes derived from it.
-/
namespace TemplateEngine.Script

inductive ExceptionClass where
  | baseException
  | exception
  | systemExit
  | keyboardInterrupt
  | generatorExit
  | stopIteration
  | stopAsyncIteration
  | arithmeticError
  | floatingPointError
  | overflowError
  | zeroDivisionError
  | assertionError
  | attributeError
  | bufferError
  | endOfFileError
  | importError
  | moduleNotFoundError
  | lookupError
  | indexError
  | keyError
  | memoryError
  | nameError
  | unboundLocalError
  | osError
  | fileExistsError
  | fileNotFoundError
  | isADirectoryError
  | notADirectoryError
  | permissionError
  | timeoutError
  | blockingIOError
  | childProcessError
  | processLookupError
  | interruptedError
  | connectionError
  | brokenPipeError
  | connectionAbortedError
  | connectionRefusedError
  | connectionResetError
  | referenceError
  | runtimeError
  | notImplementedError
  | recursionError
  | syntaxError
  | indentationError
  | tabError
  | systemError
  | typeError
  | valueError
  | unicodeError
  | unicodeDecodeError
  | unicodeEncodeError
  | unicodeTranslateError
  | warning
  | userWarning
  | deprecationWarning
  | pendingDeprecationWarning
  | syntaxWarning
  | runtimeWarning
  | futureWarning
  | importWarning
  | unicodeWarning
  | bytesWarning
  | resourceWarning
  | encodingWarning
  deriving DecidableEq, Repr

namespace ExceptionClass

def table : List (String × ExceptionClass) :=
  [("BaseException", baseException), ("Exception", exception), ("SystemExit", systemExit),
    ("KeyboardInterrupt", keyboardInterrupt), ("GeneratorExit", generatorExit),
    ("StopIteration", stopIteration), ("StopAsyncIteration", stopAsyncIteration),
    ("ArithmeticError", arithmeticError),
    ("FloatingPointError", floatingPointError), ("OverflowError", overflowError),
    ("ZeroDivisionError", zeroDivisionError), ("AssertionError", assertionError),
    ("AttributeError", attributeError), ("BufferError", bufferError), ("EOFError", endOfFileError),
    ("ImportError", importError), ("ModuleNotFoundError", moduleNotFoundError),
    ("LookupError", lookupError), ("IndexError", indexError), ("KeyError", keyError),
    ("MemoryError", memoryError), ("NameError", nameError),
    ("UnboundLocalError", unboundLocalError), ("OSError", osError),
    ("FileExistsError", fileExistsError), ("FileNotFoundError", fileNotFoundError),
    ("IsADirectoryError", isADirectoryError), ("NotADirectoryError", notADirectoryError),
    ("PermissionError", permissionError), ("TimeoutError", timeoutError),
    ("BlockingIOError", blockingIOError), ("ChildProcessError", childProcessError),
    ("ProcessLookupError", processLookupError), ("InterruptedError", interruptedError),
    ("ConnectionError", connectionError), ("BrokenPipeError", brokenPipeError),
    ("ConnectionAbortedError", connectionAbortedError),
    ("ConnectionRefusedError", connectionRefusedError),
    ("ConnectionResetError", connectionResetError),
    ("ReferenceError", referenceError), ("RuntimeError", runtimeError),
    ("NotImplementedError", notImplementedError), ("RecursionError", recursionError),
    ("SyntaxError", syntaxError), ("IndentationError", indentationError), ("TabError", tabError),
    ("SystemError", systemError), ("TypeError", typeError), ("ValueError", valueError),
    ("UnicodeError", unicodeError), ("UnicodeDecodeError", unicodeDecodeError),
    ("UnicodeEncodeError", unicodeEncodeError), ("UnicodeTranslateError", unicodeTranslateError),
    ("Warning", warning), ("UserWarning", userWarning), ("DeprecationWarning", deprecationWarning),
    ("PendingDeprecationWarning", pendingDeprecationWarning), ("SyntaxWarning", syntaxWarning),
    ("RuntimeWarning", runtimeWarning), ("FutureWarning", futureWarning),
    ("ImportWarning", importWarning), ("UnicodeWarning", unicodeWarning),
    ("BytesWarning", bytesWarning), ("ResourceWarning", resourceWarning),
    ("EncodingWarning", encodingWarning)]

def otherNames : List (String × ExceptionClass) :=
  [("IOError", osError), ("EnvironmentError", osError)]

def name (c : ExceptionClass) : Text :=
  match table.find? fun e => e.2 = c with
  | some e => e.1.toList
  | none => []

def ofName? (n : Text) : Option ExceptionClass :=
  ((table ++ otherNames).find? fun e => e.1.toList = n).map Prod.snd

def parent? : ExceptionClass → Option ExceptionClass
  | baseException => none
  | exception | systemExit | keyboardInterrupt | generatorExit => some baseException
  | floatingPointError | overflowError | zeroDivisionError => some arithmeticError
  | moduleNotFoundError => some importError
  | indexError | keyError => some lookupError
  | unboundLocalError => some nameError
  | fileExistsError | fileNotFoundError | isADirectoryError | notADirectoryError
  | permissionError | timeoutError | blockingIOError | childProcessError | processLookupError
  | interruptedError | connectionError => some osError
  | brokenPipeError | connectionAbortedError | connectionRefusedError | connectionResetError =>
    some connectionError
  | notImplementedError | recursionError => some runtimeError
  | indentationError => some syntaxError
  | tabError => some indentationError
  | unicodeError => some valueError
  | unicodeDecodeError | unicodeEncodeError | unicodeTranslateError => some unicodeError
  | userWarning | deprecationWarning | pendingDeprecationWarning | syntaxWarning | runtimeWarning
  | futureWarning | importWarning | unicodeWarning | bytesWarning | resourceWarning
  | encodingWarning => some warning
  | _ => some exception

/-- A class and those above it. No class has more than four above it. -/
def ancestors (c : ExceptionClass) : List ExceptionClass :=
  go 4 c
where
  go : Nat → ExceptionClass → List ExceptionClass
    | 0, c => [c]
    | n + 1, c => c :: (c.parent?.map (go n)).getD []

def isA (c d : ExceptionClass) : Bool := c.ancestors.contains d

/-- The names under which exceptions of a class take what they are about. -/
def parameterNames (c : ExceptionClass) : List String :=
  if c.isA nameError then ["name"]
  else if c.isA attributeError then ["name", "obj"]
  else if c.isA importError then ["name", "path"]
  else []

def needsArguments (c : ExceptionClass) : Bool :=
  c = unicodeDecodeError || c = unicodeEncodeError || c = unicodeTranslateError

def ofErrorNumber? (n : Int) : Option ExceptionClass :=
  [(1, permissionError), (2, fileNotFoundError), (3, processLookupError), (4, interruptedError),
    (10, childProcessError), (11, blockingIOError), (13, permissionError), (17, fileExistsError),
    (20, notADirectoryError), (21, isADirectoryError), (32, brokenPipeError),
    (103, connectionAbortedError), (104, connectionResetError), (108, brokenPipeError),
    (110, timeoutError), (111, connectionRefusedError), (114, blockingIOError),
    (115, blockingIOError)].lookup n

end ExceptionClass
end TemplateEngine.Script
