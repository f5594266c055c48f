import Kata.Prelude

/-! Every way an operation can fail, with its message and its kind. -/

namespace Kata

/-- The families of faults. -/
inductive Fault.Kind where
  | type
  | value
  | key
  | index
  | overflow
  | attribute
  | memory
  | system
deriving DecidableEq, Repr

/-- A failed operation and why it failed. Type names are those of `Value.typeName`. -/
inductive Fault where
  | unsupportedOperands (op left right : String)
  | notOrderable (op left right : String)
  | repeatByNonInt (count : String)
  | indexTooWide (type : String)
  | textTooLong
  | outOfMemory
  | intTooLargeForFloat
  | noAttribute (type name : String)
  | notSubscriptable (type : String)
  | missingKey (key : String)
  | indexOutOfRange (sequence : String)
  | notIterable (type : String)
  | unhashable (type : String)
  | concatMismatch (expected given : String)
  | popWithoutKey
  | duplicateArgument (function argument : String)
  | spreadNotMapping (function type : String)
  | spreadNotIterable (function type : String)
  | keywordsNotText
  | formatArgumentsLeft
  | formatArgumentsMissing
  | formatBadConversion (c : Char) (index : Nat)
  | formatIncomplete
  | formatWidthTooBig
  | formatPrecisionTooBig
  | formatPrecisionTooLarge
  | formatNeedsMapping
  | formatCharRange
  | notInteger (type : String)
  | timestampRange
  | mktimeRange
  | yearOutOfRange (year : Int)
  | yearBeyondPlatform
  | emptyChoice
  | weightsMismatch
  | weightsNotPositive
  | weightsNotFinite
  | sampleTooLarge
  | notNumberText (literal : String)
  | timestampNaN
  | floatArgument (type : String)
  | unpackTooMany
  | unpackTooFew (got : Nat)
  | unpackNotIterable (type : String)
  | adjustArity (given : Nat)
  | dateNotText
  | dateUnreadable
  | mixedOffsets
deriving DecidableEq, Repr

namespace Fault

def kind : Fault → Kind
  | .unsupportedOperands .. | .notOrderable .. | .repeatByNonInt _ | .notSubscriptable _
  | .notIterable _ | .unhashable _ | .concatMismatch .. | .popWithoutKey | .duplicateArgument ..
  | .formatArgumentsLeft | .formatArgumentsMissing | .formatNeedsMapping
  | .spreadNotMapping .. | .spreadNotIterable .. | .keywordsNotText
  | .notInteger _ | .adjustArity _ | .dateNotText | .mixedOffsets | .floatArgument _
  | .unpackNotIterable _ => .type
  | .formatBadConversion .. | .formatIncomplete | .formatWidthTooBig | .formatPrecisionTooBig
  | .yearOutOfRange _ | .notNumberText _ | .timestampNaN | .dateUnreadable | .weightsMismatch
  | .weightsNotPositive | .weightsNotFinite | .sampleTooLarge | .unpackTooMany
  | .unpackTooFew _ => .value
  | .indexTooWide _ | .textTooLong | .intTooLargeForFloat | .timestampRange | .mktimeRange
  | .formatCharRange | .formatPrecisionTooLarge => .overflow
  | .outOfMemory => .memory
  | .yearBeyondPlatform => .system
  | .noAttribute .. => .attribute
  | .missingKey _ => .key
  | .indexOutOfRange _ | .emptyChoice => .index

def hex (n : Nat) : String := String.ofList (Nat.toDigits 16 n)

def message : Fault → String
  | .unsupportedOperands op l r => s!"unsupported operand type(s) for {op}: '{l}' and '{r}'"
  | .notOrderable op l r => s!"'{op}' not supported between instances of '{l}' and '{r}'"
  | .repeatByNonInt t => s!"can't multiply sequence by non-int of type '{t}'"
  | .indexTooWide t => s!"cannot fit '{t}' into an index-sized integer"
  | .textTooLong => "repeated string is too long"
  | .outOfMemory => ""
  | .intTooLargeForFloat => "int too large to convert to float"
  | .noAttribute t name => s!"'{t}' object has no attribute '{name}'"
  | .notSubscriptable t => s!"'{t}' object is not subscriptable"
  | .missingKey key => key
  | .indexOutOfRange seq => s!"{seq} index out of range"
  | .notIterable t => s!"'{t}' object is not iterable"
  | .unhashable t => s!"unhashable type: '{t}'"
  | .concatMismatch e g => s!"can only concatenate {e} (not \"{g}\") to {e}"
  | .popWithoutKey => "pop expected at least 1 argument, got 0"
  | .duplicateArgument f a => s!"{f}() got multiple values for argument '{a}'"
  | .spreadNotMapping f t => s!"{f}() argument after ** must be a mapping, not {t}"
  | .spreadNotIterable f t => s!"{f}() argument after * must be an iterable, not {t}"
  | .keywordsNotText => "keywords must be strings"
  | .formatArgumentsLeft => "not all arguments converted during string formatting"
  | .formatArgumentsMissing => "not enough arguments for format string"
  | .formatBadConversion c i =>
    let shown := if 31 ≤ c.toNat ∧ c.toNat ≤ 126 then c else '?'
    let code := hex c.toNat
    s!"unsupported format character '{shown}' (0x{code}) at index {i}"
  | .formatIncomplete => "incomplete format"
  | .formatWidthTooBig => "width too big"
  | .formatPrecisionTooBig => "precision too big"
  | .formatPrecisionTooLarge => "precision too large"
  | .formatNeedsMapping => "format requires a mapping"
  | .formatCharRange => "%c arg not in range(0x110000)"
  | .notInteger t => s!"'{t}' object cannot be interpreted as an integer"
  | .timestampRange => "timestamp out of range for platform time_t"
  | .mktimeRange => "mktime argument out of range"
  | .yearOutOfRange y => s!"year {y} is out of range"
  | .yearBeyondPlatform => "[Errno 75] Value too large for defined data type"
  | .emptyChoice => "Cannot choose from an empty sequence"
  | .weightsMismatch => "The number of weights does not match the population"
  | .weightsNotPositive => "Total of weights must be greater than zero"
  | .weightsNotFinite => "Total of weights must be finite"
  | .sampleTooLarge => "Sample larger than population or is negative"
  | .notNumberText literal => s!"could not convert string to float: {literal}"
  | .timestampNaN => "Invalid value NaN (not a number)"
  | .floatArgument t => s!"float() argument must be a string or a real number, not '{t}'"
  | .unpackTooMany => "too many values to unpack (expected 2)"
  | .unpackTooFew got => s!"not enough values to unpack (expected 2, got {got})"
  | .unpackNotIterable t => s!"cannot unpack non-iterable {t} object"
  | .adjustArity n => s!"MayaDT.adjust() takes from 1 to 2 positional arguments but {n} were given"
  | .dateNotText => "Input type must be str"
  | .dateUnreadable => "invalid datetime input specified."
  | .mixedOffsets => "can't subtract offset-naive and offset-aware datetimes"

end Fault

end Kata
