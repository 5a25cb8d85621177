import Commissioning.Text.Split

/-!
# Kinds of values in templates

From a text in a template there is a way to its kind, from a kind to the kinds above it and
to what each of them keeps (`Commissioning.Template.Kind`). What a kind keeps is a list of
attributes by name, each in one of a few manners (`Commissioning.Template.Manner`); a kind
also has what the kind above it keeps. Every kind but the topmost one, that of all things,
has just that one above it.
-/

namespace Commissioning

namespace Template

/-- A kind of value. -/
inductive Kind where
  /-- Texts. -/
  | text
  /-- All things. -/
  | thing
  /-- Kinds. -/
  | kind
  /-- Whole numbers. -/
  | whole
  /-- Rows of values. -/
  | row
  /-- The absent value. -/
  | nothing
  /-- What a kind keeps. -/
  | table
  /-- Operations together with a value. -/
  | bound
  /-- Operators together with a value. -/
  | boundOperator
  /-- Operations of a kind. -/
  | operation
  /-- Operators of a kind. -/
  | operator
  /-- Operations on a kind. -/
  | onKind
  /-- Attributes of a kind that are made when asked for. -/
  | made
  /-- Attributes of a kind that are kept with each value. -/
  | kept
deriving DecidableEq, Repr

/-- How an attribute is kept by a kind. -/
inductive Manner where
  /-- As an operator. -/
  | operator
  /-- As an operation. -/
  | operation
  /-- As an operation on the kind. -/
  | onKind
  /-- As an operation that makes values of the kind. -/
  | maker
  /-- As an operation on nothing. -/
  | free
  /-- As something that is made when asked for. -/
  | made
  /-- As something that is kept with each value. -/
  | kept
  /-- As the description of the kind. -/
  | description
  /-- As an operator of the kind above that it does not have. -/
  | lacking
deriving DecidableEq, Repr

namespace Kind

/-- The name of a kind. -/
def name : Kind → String
  | text => "str"
  | thing => "object"
  | kind => "type"
  | whole => "int"
  | row => "tuple"
  | nothing => "NoneType"
  | table => "mappingproxy"
  | bound => "builtin_function_or_method"
  | boundOperator => "method-wrapper"
  | operation => "method_descriptor"
  | operator => "wrapper_descriptor"
  | onKind => "classmethod_descriptor"
  | made => "getset_descriptor"
  | kept => "member_descriptor"

/-- The module of all kinds. -/
def moduleName : String := "builtins"

/-- A kind and the kinds above it, from below. -/
def ascending : Kind → List Kind
  | thing => [thing]
  | k => [k, thing]

/-- The kinds right above a kind. -/
def bases : Kind → List Kind
  | thing => []
  | _ => [thing]

/-! ### Measures -/

/-- The size of a value without its items. -/
def size : Kind → Nat
  | text => 80
  | thing | nothing => 16
  | kind => 904
  | whole | row | table => 24
  | boundOperator => 32
  | made | kept => 48
  | bound | operation | operator | onKind => 56

/-- The size of an item. -/
def itemSize : Kind → Nat
  | kind => 40
  | whole => 4
  | row => 8
  | _ => 0

/-- The flags of a kind as a number. -/
def flags : Kind → Nat
  | text => 273159424
  | thing => 529664
  | kind => 2148031744
  | whole => 21501184
  | row => 71849248
  | nothing => 528640
  | table => 545088
  | bound => 547200
  | boundOperator | onKind => 20864
  | operation => 153984
  | operator => 151936
  | made | kept => 545152

/-- Where a value keeps its own attributes; zero if it has none. -/
def tableOffset : Kind → Nat
  | kind => 264
  | _ => 0

/-- Where a value keeps who refers to it; zero if it does not. -/
def referrersOffset : Kind → Nat
  | kind => 368
  | bound => 40
  | _ => 0

/-- How values of a kind are made, in short. -/
def signature? : Kind → Option String
  | thing => some "()"
  | row => some "(iterable=(), /)"
  | _ => none

/-- The description of a kind, if it keeps one. -/
def description? : Kind → Option String
  | text => some <| "\n".intercalate
      ["str(object='') -> str", "str(bytes_or_buffer[, encoding[, errors]]) -> str", "",
       "Create a new string object from the given object. If encoding or",
       "errors is specified, then the object must expose a data buffer",
       "that will be decoded using the given encoding and error handler.",
       "Otherwise, returns the result of object.__str__() (if defined)", "or repr(object).",
       "encoding defaults to sys.getdefaultencoding().", "errors defaults to 'strict'."]
  | thing => some <| "\n".intercalate
      ["The base class of the class hierarchy.", "",
       "When called, it accepts no arguments and returns a new featureless",
       "instance that has no instance attributes and cannot be given any.", ""]
  | kind => some <| "\n".intercalate
      ["type(object) -> the object's type",
       "type(name, bases, dict, **kwds) -> a new type"]
  | whole => some <| "\n".intercalate
      ["int([x]) -> integer", "int(x, base=10) -> integer", "",
       "Convert a number or string to an integer, or return 0 if no arguments",
       "are given.  If x is a number, return x.__int__().  For floating point",
       "numbers, this truncates towards zero.", "",
       "If x is not a number or if base is given, then x must be a string,",
       "bytes, or bytearray instance representing an integer literal in the",
       "given base.  The literal can be preceded by '+' or '-' and be surrounded",
       "by whitespace.  The base defaults to 10.  Valid bases are 0 and 2-36.",
       "Base 0 means to interpret the base from the string as an integer literal.",
       ">>> int('0b100', base=0)", "4"]
  | row => some <| "\n".intercalate
      ["Built-in immutable sequence.", "",
       "If no argument is given, the constructor returns an empty tuple.",
       "If iterable is specified the tuple is initialized from iterable's items.", "",
       "If the argument is a tuple, the return value is the same object."]
  | _ => none

/-! ### Attributes -/

/-- The names in a text with blanks between them. -/
def names (s : String) : List (List Char) := (Text.splitOn ' ' s.toList).filter (!·.isEmpty)

/-- The operators that values with an order keep. -/
def comparisons : String := "__lt__ __le__ __eq__ __ne__ __gt__ __ge__ "

/-- The operators that sequences keep. -/
def sequenceOperators : String :=
  "__iter__ __len__ __getitem__ __add__ __mul__ __rmul__ __contains__ "

/-- The operators that a kind keeps. -/
def operators : Kind → String
  | text =>
    comparisons ++ sequenceOperators ++
      "__repr__ __hash__ __str__ __getattribute__ __mod__ __rmod__"
  | thing =>
    comparisons ++ "__repr__ __hash__ __str__ __getattribute__ __setattr__ __delattr__ __init__"
  | kind => "__repr__ __call__ __getattribute__ __setattr__ __delattr__ __init__ __or__ __ror__"
  | whole =>
    comparisons ++ "__repr__ __hash__ __getattribute__ __add__ __radd__ __sub__ __rsub__ " ++
      "__mul__ __rmul__ __mod__ __rmod__ __divmod__ __rdivmod__ __pow__ __rpow__ __neg__ " ++
      "__pos__ __abs__ __bool__ __invert__ __lshift__ __rlshift__ __rshift__ __rrshift__ " ++
      "__and__ __rand__ __xor__ __rxor__ __or__ __ror__ __int__ __float__ __floordiv__ " ++
      "__rfloordiv__ __truediv__ __rtruediv__ __index__"
  | row => comparisons ++ sequenceOperators ++ "__repr__ __hash__ __getattribute__"
  | nothing => "__repr__ __bool__"
  | table =>
    comparisons ++ "__repr__ __str__ __getattribute__ __iter__ __or__ __ror__ __ior__ " ++
      "__len__ __getitem__ __contains__"
  | bound | boundOperator => comparisons ++ "__repr__ __hash__ __call__ __getattribute__"
  | operation | operator | onKind => "__repr__ __call__ __getattribute__ __get__"
  | made | kept => "__repr__ __getattribute__ __get__ __set__ __delete__"

/-- The operations that a kind keeps. -/
def operations : Kind → String
  | text =>
    "encode replace split rsplit join capitalize casefold title center count expandtabs find " ++
      "partition index ljust lower lstrip rfind rindex rjust rstrip rpartition splitlines " ++
      "strip swapcase translate upper startswith endswith removeprefix removesuffix isascii " ++
      "islower isupper istitle isspace isdecimal isdigit isnumeric isalpha isalnum " ++
      "isidentifier isprintable zfill format format_map __format__ __sizeof__ __getnewargs__"
  | thing => "__reduce_ex__ __reduce__ __getstate__ __format__ __sizeof__ __dir__"
  | kind => "mro __subclasses__ __instancecheck__ __subclasscheck__ __dir__ __sizeof__"
  | whole =>
    "conjugate bit_length bit_count to_bytes as_integer_ratio __trunc__ __floor__ __ceil__ " ++
      "__round__ __getnewargs__ __format__ __sizeof__"
  | row => "__getnewargs__ index count"
  | table => "get keys values items copy __reversed__"
  | bound | boundOperator | operation | operator | kept => "__reduce__"
  | nothing | onKind | made => ""

/-- The operations on a kind that it keeps. -/
def kindOperations : Kind → String
  | thing => "__subclasshook__ __init_subclass__"
  | kind => "__prepare__"
  | whole => "from_bytes"
  | row | table => "__class_getitem__"
  | _ => ""

/-- What a kind makes for a value when asked for. -/
def madeNames : Kind → String
  | thing => "__class__"
  | kind =>
    "__name__ __qualname__ __bases__ __module__ __abstractmethods__ __dict__ __doc__ " ++
      "__text_signature__ __annotations__"
  | whole => "real imag numerator denominator"
  | bound => "__doc__ __name__ __qualname__ __self__ __text_signature__"
  | boundOperator => "__objclass__ __name__ __qualname__ __doc__ __text_signature__"
  | operation | operator | onKind => "__doc__ __qualname__ __text_signature__"
  | made | kept => "__doc__ __qualname__"
  | text | row | nothing | table => ""

/-- What a kind keeps with each value. -/
def keptNames : Kind → String
  | kind =>
    "__basicsize__ __itemsize__ __flags__ __weakrefoffset__ __base__ __dictoffset__ __mro__"
  | bound => "__module__"
  | boundOperator => "__self__"
  | operation | operator | onKind | made | kept => "__objclass__ __name__"
  | text | thing | whole | row | nothing | table => ""

/-- Whether values of a kind can be made by name. -/
def hasMaker : Kind → Bool
  | text | thing | kind | whole | row | nothing | table => true
  | _ => false

/-- Whether a kind keeps its description as a value, even if there is none. -/
def hasDescription : Kind → Bool
  | text | thing | whole | row | nothing | table => true
  | _ => false

/-- How a kind itself keeps the attribute of a name, if it does. -/
def manner? (k : Kind) (name : List Char) : Option Manner :=
  if (names k.operators).contains name then some .operator
  else if (names k.operations).contains name then some .operation
  else if (names k.kindOperations).contains name then some .onKind
  else if (names k.madeNames).contains name then some .made
  else if (names k.keptNames).contains name then some .kept
  else if k.hasMaker && name == "__new__".toList then some .maker
  else if k == text && name == "maketrans".toList then some .free
  else if k.hasDescription && name == "__doc__".toList then some .description
  else if k == table && name == "__hash__".toList then some .lacking
  else none

/-- **The attribute that values of a kind have under a name**: the first kind from below
that keeps it, and how. -/
def find? (k : Kind) (name : List Char) : Option (Kind × Manner) :=
  k.ascending.findSome? fun home => (home.manner? name).map fun m => (home, m)

end Kind

end Template

end Commissioning
