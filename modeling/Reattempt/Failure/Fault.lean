import Reattempt.Value.Render

/-!
# Faults

What the library itself finds wrong, each fault a cause with the data that its message shows.
`Fault.toFailure` turns a fault into the failure that is raised; its kind and its wording are
given here and nowhere else.
-/

namespace Reattempt

inductive Fault where
  | unordered (symbol left right : String)
  | unsupported (symbol left right : String)
  | cannotAppend (sequence other : String)
  | cannotFollowBytes (other : String)
  /-- A sequence is repeated a whole number of times. -/
  | cannotRepeat (other : String)
  | integerTooLarge
  | resultTooLarge
  | zeroInverse
  | notWhole (typeName : String)
  | wordTooSmall (word : String)
  /-- A whole number is too large for an index; as a number that was counted it is a bad value. -/
  | indexTooLarge (isCounted : Bool)
  | noMemory
  | tooLong (sequence : String)
  | daysOutOfBounds (days : Int)
  | noRatio (isNumber : Bool)
  | unhashable (typeName : String)
  | notIterable (typeName : String)
  | notSpreadable (typeName : String)
  | notNumeric (typeName : String)
  | unreadable (quoted : String)
  | unreadableWhole (quoted : String)
  | tooManyDigits (count : Nat)
  | neitherTextNorNumber (typeName : String)
  /-- A value has no places to round to. -/
  | unformattable (typeName : String)
  | unknownFormat (typeName : String)
  | missingAttribute (owner name : String)
  | frozenField (field : String)
  | noSetter (name owner : String)
  | unexpectedArgument (function argument : String)
  | repeatedArgument (function argument : String)
  | missingArguments (function : String) (count : Nat) (names : String)
  | extraArguments (function : String) (taken given : Nat)
  /-- More arguments than a function takes, some of which may be left out. -/
  | optionalArguments (function : String) (least most given : Nat)
  | wrongCount (function limit : String) (count given : Nat)
  | argumentNotText (function : String) (index : Nat) (typeName : String)
  | notBytes (typeName : String)
  | endColumnRequired
  | membersNotSequence
  | membersEmpty
  | memberNotFailure (index : Nat)
  | memberNotOrdinary
  | notCallable (written : String)
  | cannotCall (typeName : String)
  | notRecord
  | notFailure
  | abstractStrategy
  | notKinds
  | causeNotFailure
  | unwritableKey (typeName : String)
  | responseRequired
  | levelNotWhole
  | overwrittenField (field : String)
  | missingKey (key : Value)
  /-- A value that breaks a bound on a parameter: the rule, in words, and the value. -/
  | outOfBounds (parameter rule written : String)
  | attemptsNotWhole (written : String)
  | limitRequired
  | shapedBackoff (settings : List String)
  | tooFewArguments
  | tooManyArguments
  | incompleteFormat
  | incompleteKey
  | formatTooBig (part : String)
  | unsupportedFormat (character : Char) (index : Nat)
  | mappingRequired
  | formatNeedsNumber (conversion : Char) (typeName : String)
  | formatNeedsInteger (conversion : Char) (typeName : String)
  | formatNeedsReal (typeName : String)
  | characterRequired
  | characterOutOfRange
  | starNotWhole
  | infinityNotWhole
  | notNumberNotWhole
  | precisionTooLarge
  | indexOutOfRange (sequence : String)
  | indexNotWhole (sequence typeName : String)
  | sliceNotWhole
  | notSubscriptable (written : String)
  | timeNotNumber
  | timeOutOfRange
  | timeTooLarge
  | yearTooLarge

namespace Fault

def kind : Fault → Kind
  | integerTooLarge | resultTooLarge | wordTooSmall _ | indexTooLarge false | tooLong _
  | daysOutOfBounds _ | noRatio true | characterOutOfRange | infinityNotWhole
  | precisionTooLarge | timeOutOfRange | yearTooLarge => Kind.overflowError
  | noMemory => Kind.memoryError
  | timeTooLarge => Kind.osError
  | zeroInverse => Kind.zeroDivisionError
  | indexTooLarge true | noRatio false | unreadable _ | unreadableWhole _
  | tooManyDigits _ | membersEmpty | memberNotFailure _ | unknownFormat _ | outOfBounds ..
  | limitRequired | shapedBackoff _
  | incompleteFormat | incompleteKey | formatTooBig _ | unsupportedFormat ..
  | notNumberNotWhole | timeNotNumber => Kind.valueError
  | missingAttribute .. | noSetter .. => Kind.attributeError
  | frozenField _ => Kind.frozenInstanceError
  | overwrittenField _ | missingKey _ => Kind.keyError
  | indexOutOfRange _ => Kind.indexError
  | _ => Kind.typeError

def wording : Fault → String
  | unordered symbol left right =>
    "'" ++ symbol ++ "' not supported between instances of '" ++ left ++ "' and '" ++ right ++ "'"
  | unsupported symbol left right =>
    "unsupported operand type(s) for " ++ symbol ++ ": '" ++ left ++ "' and '" ++ right ++ "'"
  | cannotAppend sequence other =>
    "can only concatenate " ++ sequence ++ " (not \"" ++ other ++ "\") to " ++ sequence
  | cannotFollowBytes other => "can't concat " ++ other ++ " to bytes"
  | cannotRepeat other => "can't multiply sequence by non-int of type '" ++ other ++ "'"
  | integerTooLarge => "int too large to convert to float"
  | resultTooLarge => "Numerical result out of range"
  | zeroInverse => "0.0 cannot be raised to a negative power"
  | notWhole typeName => "'" ++ typeName ++ "' object cannot be interpreted as an integer"
  | wordTooSmall word => "Python int too large to convert to C " ++ word
  | indexTooLarge _ => "cannot fit 'int' into an index-sized integer"
  | noMemory => ""
  | tooLong sequence => "repeated " ++ sequence ++ " too long"
  | daysOutOfBounds days =>
    "days=" ++ toString days ++ "; must have magnitude <= 999999999"
  | noRatio isNumber =>
    "cannot convert " ++ (if isNumber then "Infinity" else "NaN") ++ " to integer ratio"
  | unhashable typeName => "unhashable type: '" ++ typeName ++ "'"
  | notIterable typeName => "'" ++ typeName ++ "' object is not iterable"
  | notSpreadable typeName => "Value after * must be an iterable, not " ++ typeName
  | notNumeric typeName =>
    "float() argument must be a string or a real number, not '" ++ typeName ++ "'"
  | unreadable quoted => "could not convert string to float: " ++ quoted
  | unreadableWhole quoted =>
    "invalid literal for int() with base 10: " ++ String.ofList (quoted.toList.take 200)
  | tooManyDigits count =>
    "Exceeds the limit (4300 digits) for integer string conversion: value has " ++ toString count
      ++ " digits; use sys.set_int_max_str_digits() to increase the limit"
  | neitherTextNorNumber typeName =>
    "int() argument must be a string, a bytes-like object or a real number, not '" ++ typeName
      ++ "'"
  | unformattable typeName =>
    "unsupported format string passed to " ++ typeName ++ ".__format__"
  | unknownFormat typeName =>
    "Unknown format code 'f' for object of type '" ++ typeName ++ "'"
  | missingAttribute owner name =>
    owner ++ " has no attribute '" ++ name ++ "'"
  | frozenField field => "cannot assign to field " ++ Text.quoted field
  | noSetter name owner =>
    "property '" ++ name ++ "' of '" ++ owner ++ "' object has no setter"
  | unexpectedArgument function argument =>
    function ++ "() got an unexpected keyword argument '" ++ argument ++ "'"
  | repeatedArgument function argument =>
    function ++ "() got multiple values for argument '" ++ argument ++ "'"
  | missingArguments function count names =>
    function ++ "() missing " ++ toString count ++ " required positional argument"
      ++ (if count = 1 then "" else "s") ++ ": " ++ names
  | extraArguments function taken given =>
    function ++ "() takes " ++ toString taken ++ " positional argument"
      ++ (if taken = 1 then "" else "s") ++ " but " ++ toString given ++ " were given"
  | wrongCount function limit count given =>
    function ++ " takes " ++ limit ++ " " ++ toString count ++ " arguments ("
      ++ toString given ++ " given)"
  | argumentNotText function index typeName =>
    function ++ "argument " ++ toString index ++ " must be str, not " ++ typeName
  | notBytes typeName => "a bytes-like object is required, not '" ++ typeName ++ "'"
  | endColumnRequired => "end_offset must be provided when end_lineno is provided"
  | membersNotSequence => "second argument (exceptions) must be a sequence"
  | membersEmpty => "second argument (exceptions) must be a non-empty sequence"
  | memberNotFailure index =>
    "Item " ++ toString index ++ " of second argument (exceptions) is not an exception"
  | memberNotOrdinary => "Cannot nest BaseExceptions in an ExceptionGroup"
  | optionalArguments function least most given =>
    function ++ "() takes from " ++ toString least ++ " to " ++ toString most
      ++ " positional arguments but " ++ toString given ++ " were given"
  | cannotCall typeName => "'" ++ typeName ++ "' object is not callable"
  | notRecord => "replace() should be called on dataclass instances"
  | notFailure => "exceptions must derive from BaseException"
  | notCallable written => "func must be callable, got " ++ written
  | abstractStrategy =>
    "Can't instantiate abstract class BaseBackoffStrategy with abstract method calculate"
  | notKinds => "isinstance() arg 2 must be a type, a tuple of types, or a union"
  | causeNotFailure => "exception cause must be None or derive from BaseException"
  | unwritableKey typeName =>
    "keys must be str, int, float, bool or None, not " ++ typeName
  | responseRequired => "HTTPStatusError.__init__() missing 2 required keyword-only arguments: "
      ++ "'request' and 'response'"
  | levelNotWhole => "level must be an integer"
  | overwrittenField field => "Attempt to overwrite " ++ Text.quoted field ++ " in LogRecord"
  | missingKey key => key.quote
  | outOfBounds parameter rule written =>
    parameter ++ " must be " ++ rule ++ ", got " ++ written
  | attemptsNotWhole written => "max_attempts must be an integer, got " ++ written
  | limitRequired => "max_attempts is required for FixedBackoff"
  | shapedBackoff settings =>
    ", ".intercalate settings ++ " cannot be combined with an explicit backoff"
  | tooFewArguments => "not enough arguments for format string"
  | tooManyArguments => "not all arguments converted during string formatting"
  | incompleteFormat => "incomplete format"
  | incompleteKey => "incomplete format key"
  | formatTooBig part => part ++ " too big"
  | unsupportedFormat character index =>
    "unsupported format character '" ++ (if 31 ≤ character.toNat && character.toNat ≤ 126 then
      character.toString else "?") ++ "' (0x" ++ Text.hex 1 (Text.code character) ++ ") at index "
      ++ toString index
  | mappingRequired => "format requires a mapping"
  | formatNeedsNumber conversion typeName =>
    "%" ++ conversion.toString ++ " format: a real number is required, not " ++ typeName
  | formatNeedsInteger conversion typeName =>
    "%" ++ conversion.toString ++ " format: an integer is required, not " ++ typeName
  | formatNeedsReal typeName => "must be real number, not " ++ typeName
  | characterRequired => "%c requires int or char"
  | characterOutOfRange => "%c arg not in range(0x110000)"
  | starNotWhole => "* wants int"
  | infinityNotWhole => "cannot convert float infinity to integer"
  | notNumberNotWhole => "cannot convert float NaN to integer"
  | precisionTooLarge => "precision too large"
  | indexOutOfRange sequence => sequence ++ "index out of range"
  | indexNotWhole sequence typeName =>
    sequence ++ " indices must be integers or slices, not " ++ typeName
  | sliceNotWhole =>
    "slice indices must be integers or None or have an __index__ method"
  | notSubscriptable written => written ++ " is not subscriptable"
  | timeNotNumber => "Invalid value NaN (not a number)"
  | timeOutOfRange => "timestamp out of range for platform time_t"
  | timeTooLarge => "Value too large for defined data type"
  | yearTooLarge => "signed integer is greater than maximum"

/-- What the failure is made with. A missing key stands alone, want of memory says nothing, and
what the system refuses carries its error number. -/
def args : Fault → List Value
  | missingKey key => [key]
  | noMemory => []
  | resultTooLarge => [.int 34, .text resultTooLarge.wording]
  | timeTooLarge => [.int 75, .text timeTooLarge.wording]
  | fault => [.text fault.wording]

def toFailure (fault : Fault) : Failure := .plain 0 fault.kind fault.args

end Fault

end Reattempt
