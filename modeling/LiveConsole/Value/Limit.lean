import LiveConsole.Value.Basic

/-!
# Limits on values

Values of any size can be made, but not every value can be compared, written or counted: containers
may be open inside one another only so deep, an integer is written only up to so many digits, and a
sequence has only so many items. Each limit comes with the fault of what goes beyond it.
-/
namespace LiveConsole.Limit

/-- The number of containers that may be open inside one another. -/
def depth : Nat := 985

/-- The fault of containers nested deeper than that. -/
def tooDeep : Fault := .raised "RecursionError" "maximum recursion depth exceeded"

/-- The number of decimal digits that an integer may have to be written. -/
def digits : Nat := 4300

/-- The least natural number that has too many digits to be written. -/
def pastDigits : Nat := Nat.pow 10 digits

/-- The fault of an integer with more digits than that. -/
def tooManyDigits : Fault :=
  .raised "ValueError" (s!"Exceeds the limit ({digits} digits) for integer string conversion; " ++
    "use sys.set_int_max_str_digits() to increase the limit")

/-- The greatest number of items that a sequence can be asked for. -/
def count : Nat := 0x7FFFFFFFFFFFFFFF

/-- Whether an integer can be a number of items, or its negative. -/
def isCount (value : Int) : Bool := -(count : Int) - 1 ≤ value && value ≤ count

/-- The fault of a number of items beyond what can be asked for. -/
def notCount : Fault := .raised "OverflowError" "cannot fit 'int' into an index-sized integer"

/-- The fault of a sequence with more items than can be counted. -/
def uncountable : Fault := .raised "OverflowError" "Python int too large to convert to C ssize_t"

/-- The number of items that memory has room for. -/
def room : Nat := 0x100000000

/-- The fault of a sequence that memory has no room for. -/
def noRoom : Fault := .raised "MemoryError" ""

end LiveConsole.Limit
