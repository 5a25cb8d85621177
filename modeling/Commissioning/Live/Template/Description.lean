import Commissioning.Assoc
import Commissioning.Live.Template.Kind

/-!
# Descriptions of operations

What a kind keeps, it describes: in words (`Commissioning.Template.Kind.describe?`) and, for
most operations, by the form in which they are called
(`Commissioning.Template.Kind.callForm?`). Operations of one name are described alike,
whichever kind keeps them, except for those of `Commissioning.Template.Kind.ownDescriptions`
and `Commissioning.Template.Kind.ownCallForms`.
-/

namespace Commissioning

namespace Template

/-- A text of several lines. -/
def lines (ls : List String) : String := "\n".intercalate ls

/-! ### In words -/

/-- The descriptions of operators and of what all things keep, by name. -/
def operatorDescriptions : List (String × String) :=
  [("__new__", "Create and return a new object.  See help(type) for accurate signature."),
   ("__repr__", "Return repr(self)."), ("__hash__", "Return hash(self)."),
   ("__str__", "Return str(self)."), ("__getattribute__", "Return getattr(self, name)."),
   ("__lt__", "Return self<value."), ("__le__", "Return self<=value."),
   ("__eq__", "Return self==value."), ("__ne__", "Return self!=value."),
   ("__gt__", "Return self>value."), ("__ge__", "Return self>=value."),
   ("__iter__", "Implement iter(self)."), ("__mod__", "Return self%value."),
   ("__rmod__", "Return value%self."), ("__len__", "Return len(self)."),
   ("__getitem__", "Return self[key]."), ("__add__", "Return self+value."),
   ("__mul__", "Return self*value."), ("__rmul__", "Return value*self."),
   ("__contains__", "Return key in self."),
   ("__setattr__", "Implement setattr(self, name, value)."),
   ("__delattr__", "Implement delattr(self, name)."),
   ("__init__", "Initialize self.  See help(type(self)) for accurate signature."),
   ("__reduce_ex__", "Helper for pickle."), ("__getstate__", "Helper for pickle."),
   ("__subclasshook__", lines
    ["Abstract classes can override this to customize issubclass().", "",
     "This is invoked early on by abc.ABCMeta.__subclasscheck__().",
     "It should return True, False or NotImplemented.  If it returns",
     "NotImplemented, the normal algorithm is used.  Otherwise, it",
     "overrides the normal algorithm (and the outcome is cached).", ""]),
   ("__init_subclass__", lines
    ["This method is called when a class is subclassed.", "",
     "The default implementation does nothing. It may be", "overridden to extend subclasses.", ""]),
   ("__class__", "the object's class"), ("__call__", "Call self as a function."),
   ("__or__", "Return self|value."), ("__ror__", "Return value|self."),
   ("__subclasses__", "Return a list of immediate subclasses."),
   ("__prepare__", lines
    ["__prepare__() -> dict", "used to create the namespace for the class statement"]),
   ("__instancecheck__", "Check if an object is an instance."),
   ("__subclasscheck__", "Check if a class is a subclass."), ("__radd__", "Return value+self."),
   ("__sub__", "Return self-value."), ("__rsub__", "Return value-self."),
   ("__divmod__", "Return divmod(self, value)."), ("__rdivmod__", "Return divmod(value, self)."),
   ("__pow__", "Return pow(self, value, mod)."), ("__rpow__", "Return pow(value, self, mod)."),
   ("__neg__", "-self"), ("__pos__", "+self"), ("__abs__", "abs(self)"),
   ("__bool__", "True if self else False"), ("__invert__", "~self"),
   ("__lshift__", "Return self<<value."), ("__rlshift__", "Return value<<self."),
   ("__rshift__", "Return self>>value."), ("__rrshift__", "Return value>>self."),
   ("__and__", "Return self&value."), ("__rand__", "Return value&self."),
   ("__xor__", "Return self^value."), ("__rxor__", "Return value^self."),
   ("__int__", "int(self)"), ("__float__", "float(self)"),
   ("__floordiv__", "Return self//value."), ("__rfloordiv__", "Return value//self."),
   ("__truediv__", "Return self/value."), ("__rtruediv__", "Return value/self."),
   ("__index__",
    "Return self converted to an integer, if self is suitable for use as an index into a list."),
   ("__trunc__", "Truncating an Integral returns itself."),
   ("__floor__", "Flooring an Integral returns itself."),
   ("__ceil__", "Ceiling of an Integral returns itself."),
   ("__round__", lines
    ["Rounding an Integral returns itself.", "",
     "Rounding with an ndigits argument also returns an integer."]),
   ("__class_getitem__", "See PEP 585"), ("__ior__", "Return self|=value."),
   ("__reversed__", "D.__reversed__() -> reverse iterator"),
   ("__get__", "Return an attribute of instance, which is of type owner."),
   ("__set__", "Set an attribute of instance to value."),
   ("__delete__", "Delete an attribute of instance.")]

/-- The descriptions of the operations of texts, by name. -/
def textDescriptions : List (String × String) :=
  [("encode", lines
    ["Encode the string using the codec registered for encoding.", "", "  encoding",
     "    The encoding in which to encode the string.", "  errors",
     "    The error handling scheme to use for encoding errors.",
     "    The default is 'strict' meaning that encoding errors raise a",
     "    UnicodeEncodeError.  Other possible values are 'ignore', 'replace' and",
     "    'xmlcharrefreplace' as well as any other name registered with",
     "    codecs.register_error that can handle UnicodeEncodeErrors."]),
   ("replace", lines
    ["Return a copy with all occurrences of substring old replaced by new.", "", "  count",
     "    Maximum number of occurrences to replace.",
     "    -1 (the default value) means replace all occurrences.", "",
     "If the optional argument count is given, only the first count occurrences are", "replaced."]),
   ("split", lines
    ["Return a list of the substrings in the string, using sep as the separator string.", "",
     "  sep", "    The separator used to split the string.", "",
     "    When set to None (the default value), will split on any whitespace",
     "    character (including \\n \\r \\t \\f and spaces) and will discard",
     "    empty strings from the result.", "  maxsplit", "    Maximum number of splits.",
     "    -1 (the default value) means no limit.", "",
     "Splitting starts at the front of the string and works to the end.", "",
     "Note, str.split() is mainly useful for data that has been intentionally",
     "delimited.  With natural text that includes punctuation, consider using",
     "the regular expression module."]),
   ("rsplit", lines
    ["Return a list of the substrings in the string, using sep as the separator string.", "",
     "  sep", "    The separator used to split the string.", "",
     "    When set to None (the default value), will split on any whitespace",
     "    character (including \\n \\r \\t \\f and spaces) and will discard",
     "    empty strings from the result.", "  maxsplit", "    Maximum number of splits.",
     "    -1 (the default value) means no limit.", "",
     "Splitting starts at the end of the string and works to the front."]),
   ("join", lines
    ["Concatenate any number of strings.", "",
     "The string whose method is called is inserted in between each given string.",
     "The result is returned as a new string.", "",
     "Example: '.'.join(['ab', 'pq', 'rs']) -> 'ab.pq.rs'"]),
   ("capitalize", lines
    ["Return a capitalized version of the string.", "",
     "More specifically, make the first character have upper case and the rest lower", "case."]),
   ("casefold", "Return a version of the string suitable for caseless comparisons."),
   ("title", lines
    ["Return a version of the string where each word is titlecased.", "",
     "More specifically, words start with uppercased characters and all remaining",
     "cased characters have lower case."]),
   ("center", lines
    ["Return a centered string of length width.", "",
     "Padding is done using the specified fill character (default is a space)."]),
   ("expandtabs", lines
    ["Return a copy where all tab characters are expanded using spaces.", "",
     "If tabsize is not given, a tab size of 8 characters is assumed."]),
   ("find", lines
    ["S.find(sub[, start[, end]]) -> int", "",
     "Return the lowest index in S where substring sub is found,",
     "such that sub is contained within S[start:end].  Optional",
     "arguments start and end are interpreted as in slice notation.", "", "Return -1 on failure."]),
   ("partition", lines
    ["Partition the string into three parts using the given separator.", "",
     "This will search for the separator in the string.  If the separator is found,",
     "returns a 3-tuple containing the part before the separator, the separator",
     "itself, and the part after it.", "",
     "If the separator is not found, returns a 3-tuple containing the original string",
     "and two empty strings."]),
   ("ljust", lines
    ["Return a left-justified string of length width.", "",
     "Padding is done using the specified fill character (default is a space)."]),
   ("lower", "Return a copy of the string converted to lowercase."),
   ("lstrip", lines
    ["Return a copy of the string with leading whitespace removed.", "",
     "If chars is given and not None, remove characters in chars instead."]),
   ("rfind", lines
    ["S.rfind(sub[, start[, end]]) -> int", "",
     "Return the highest index in S where substring sub is found,",
     "such that sub is contained within S[start:end].  Optional",
     "arguments start and end are interpreted as in slice notation.", "", "Return -1 on failure."]),
   ("rindex", lines
    ["S.rindex(sub[, start[, end]]) -> int", "",
     "Return the highest index in S where substring sub is found,",
     "such that sub is contained within S[start:end].  Optional",
     "arguments start and end are interpreted as in slice notation.", "",
     "Raises ValueError when the substring is not found."]),
   ("rjust", lines
    ["Return a right-justified string of length width.", "",
     "Padding is done using the specified fill character (default is a space)."]),
   ("rstrip", lines
    ["Return a copy of the string with trailing whitespace removed.", "",
     "If chars is given and not None, remove characters in chars instead."]),
   ("rpartition", lines
    ["Partition the string into three parts using the given separator.", "",
     "This will search for the separator in the string, starting at the end. If",
     "the separator is found, returns a 3-tuple containing the part before the",
     "separator, the separator itself, and the part after it.", "",
     "If the separator is not found, returns a 3-tuple containing two empty strings",
     "and the original string."]),
   ("splitlines", lines
    ["Return a list of the lines in the string, breaking at line boundaries.", "",
     "Line breaks are not included in the resulting list unless keepends is given and", "true."]),
   ("strip", lines
    ["Return a copy of the string with leading and trailing whitespace removed.", "",
     "If chars is given and not None, remove characters in chars instead."]),
   ("swapcase", "Convert uppercase characters to lowercase and lowercase characters to uppercase."),
   ("translate", lines
    ["Replace each character in the string using the given translation table.", "", "  table",
     "    Translation table, which must be a mapping of Unicode ordinals to",
     "    Unicode ordinals, strings, or None.", "",
     "The table must implement lookup/indexing via __getitem__, for instance a",
     "dictionary or list.  If this operation raises LookupError, the character is",
     "left untouched.  Characters mapped to None are deleted."]),
   ("upper", "Return a copy of the string converted to uppercase."),
   ("startswith", lines
    ["S.startswith(prefix[, start[, end]]) -> bool", "",
     "Return True if S starts with the specified prefix, False otherwise.",
     "With optional start, test S beginning at that position.",
     "With optional end, stop comparing S at that position.",
     "prefix can also be a tuple of strings to try."]),
   ("endswith", lines
    ["S.endswith(suffix[, start[, end]]) -> bool", "",
     "Return True if S ends with the specified suffix, False otherwise.",
     "With optional start, test S beginning at that position.",
     "With optional end, stop comparing S at that position.",
     "suffix can also be a tuple of strings to try."]),
   ("removeprefix", lines
    ["Return a str with the given prefix string removed if present.", "",
     "If the string starts with the prefix string, return string[len(prefix):].",
     "Otherwise, return a copy of the original string."]),
   ("removesuffix", lines
    ["Return a str with the given suffix string removed if present.", "",
     "If the string ends with the suffix string and that suffix is not empty,",
     "return string[:-len(suffix)]. Otherwise, return a copy of the original", "string."]),
   ("isascii", lines
    ["Return True if all characters in the string are ASCII, False otherwise.", "",
     "ASCII characters have code points in the range U+0000-U+007F.",
     "Empty string is ASCII too."]),
   ("islower", lines
    ["Return True if the string is a lowercase string, False otherwise.", "",
     "A string is lowercase if all cased characters in the string are lowercase and",
     "there is at least one cased character in the string."]),
   ("isupper", lines
    ["Return True if the string is an uppercase string, False otherwise.", "",
     "A string is uppercase if all cased characters in the string are uppercase and",
     "there is at least one cased character in the string."]),
   ("istitle", lines
    ["Return True if the string is a title-cased string, False otherwise.", "",
     "In a title-cased string, upper- and title-case characters may only",
     "follow uncased characters and lowercase characters only cased ones."]),
   ("isspace", lines
    ["Return True if the string is a whitespace string, False otherwise.", "",
     "A string is whitespace if all characters in the string are whitespace and there",
     "is at least one character in the string."]),
   ("isdecimal", lines
    ["Return True if the string is a decimal string, False otherwise.", "",
     "A string is a decimal string if all characters in the string are decimal and",
     "there is at least one character in the string."]),
   ("isdigit", lines
    ["Return True if the string is a digit string, False otherwise.", "",
     "A string is a digit string if all characters in the string are digits and there",
     "is at least one character in the string."]),
   ("isnumeric", lines
    ["Return True if the string is a numeric string, False otherwise.", "",
     "A string is numeric if all characters in the string are numeric and there is at",
     "least one character in the string."]),
   ("isalpha", lines
    ["Return True if the string is an alphabetic string, False otherwise.", "",
     "A string is alphabetic if all characters in the string are alphabetic and there",
     "is at least one character in the string."]),
   ("isalnum", lines
    ["Return True if the string is an alpha-numeric string, False otherwise.", "",
     "A string is alpha-numeric if all characters in the string are alpha-numeric and",
     "there is at least one character in the string."]),
   ("isidentifier", lines
    ["Return True if the string is a valid Python identifier, False otherwise.", "",
     "Call keyword.iskeyword(s) to test whether string s is a reserved identifier,",
     "such as \"def\" or \"class\"."]),
   ("isprintable", lines
    ["Return True if the string is printable, False otherwise.", "",
     "A string is printable if all of its characters are considered printable in",
     "repr() or if it is empty."]),
   ("zfill", lines
    ["Pad a numeric string with zeros on the left, to fill a field of the given width.", "",
     "The string is never truncated."]),
   ("format", lines
    ["S.format(*args, **kwargs) -> str", "",
     "Return a formatted version of S, using substitutions from args and kwargs.",
     "The substitutions are identified by braces ('\x7b' and '\x7d')."]),
   ("format_map", lines
    ["S.format_map(mapping) -> str", "",
     "Return a formatted version of S, using substitutions from mapping.",
     "The substitutions are identified by braces ('\x7b' and '\x7d')."]),
   ("maketrans", lines
    ["Return a translation table usable for str.translate().", "",
     "If there is only one argument, it must be a dictionary mapping Unicode",
     "ordinals (integers) or characters to Unicode ordinals, strings or None.",
     "Character keys will be then converted to ordinals.",
     "If there are two arguments, they must be strings of equal length, and",
     "in the resulting dictionary, each character in x will be mapped to the",
     "character at the same position in y. If there is a third argument, it",
     "must be a string, whose characters will be mapped to None in the result."])]

/-- The descriptions of the operations of other kinds, by name. -/
def otherDescriptions : List (String × String) :=
  [("mro", "Return a type's method resolution order."),
   ("conjugate", "Returns self, the complex conjugate of any int."),
   ("bit_length", lines
    ["Number of bits necessary to represent self in binary.", "", ">>> bin(37)", "'0b100101'",
     ">>> (37).bit_length()", "6"]),
   ("bit_count", lines
    ["Number of ones in the binary representation of the absolute value of self.", "",
     "Also known as the population count.", "", ">>> bin(13)", "'0b1101'", ">>> (13).bit_count()",
     "3"]),
   ("to_bytes", lines
    ["Return an array of bytes representing an integer.", "", "  length",
     "    Length of bytes object to use.  An OverflowError is raised if the",
     "    integer is not representable with the given number of bytes.  Default",
     "    is length 1.", "  byteorder",
     "    The byte order used to represent the integer.  If byteorder is 'big',",
     "    the most significant byte is at the beginning of the byte array.  If",
     "    byteorder is 'little', the most significant byte is at the end of the",
     "    byte array.  To request the native byte order of the host system, use",
     "    `sys.byteorder' as the byte order value.  Default is to use 'big'.", "  signed",
     "    Determines whether two's complement is used to represent the integer.",
     "    If signed is False and a negative integer is given, an OverflowError", "    is raised."]),
   ("from_bytes", lines
    ["Return the integer represented by the given array of bytes.", "", "  bytes",
     "    Holds the array of bytes to convert.  The argument must either",
     "    support the buffer protocol or be an iterable object producing bytes.",
     "    Bytes and bytearray are examples of built-in objects that support the",
     "    buffer protocol.", "  byteorder",
     "    The byte order used to represent the integer.  If byteorder is 'big',",
     "    the most significant byte is at the beginning of the byte array.  If",
     "    byteorder is 'little', the most significant byte is at the end of the",
     "    byte array.  To request the native byte order of the host system, use",
     "    `sys.byteorder' as the byte order value.  Default is to use 'big'.", "  signed",
     "    Indicates whether two's complement is used to represent the integer."]),
   ("as_integer_ratio", lines
    ["Return integer ratio.", "",
     "Return a pair of integers, whose ratio is exactly equal to the original int",
     "and with a positive denominator.", "", ">>> (10).as_integer_ratio()", "(10, 1)",
     ">>> (-10).as_integer_ratio()", "(-10, 1)", ">>> (0).as_integer_ratio()", "(0, 1)"]),
   ("real", "the real part of a complex number"),
   ("imag", "the imaginary part of a complex number"),
   ("numerator", "the numerator of a rational number in lowest terms"),
   ("denominator", "the denominator of a rational number in lowest terms"),
   ("get", "D.get(k[,d]) -> D[k] if k in D, else d.  d defaults to None."),
   ("keys", "D.keys() -> a set-like object providing a view on D's keys"),
   ("values", "D.values() -> an object providing a view on D's values"),
   ("items", "D.items() -> a set-like object providing a view on D's items"),
   ("copy", "D.copy() -> a shallow copy of D")]

/-- The descriptions that a kind does not share with others, by name. -/
def Kind.ownDescriptions : Kind → List (String × String)
  | text =>
    [("count", lines
      ["S.count(sub[, start[, end]]) -> int", "",
       "Return the number of non-overlapping occurrences of substring sub in",
       "string S[start:end].  Optional arguments start and end are",
       "interpreted as in slice notation."]),
     ("index", lines
      ["S.index(sub[, start[, end]]) -> int", "",
       "Return the lowest index in S where substring sub is found,",
       "such that sub is contained within S[start:end].  Optional",
       "arguments start and end are interpreted as in slice notation.", "",
       "Raises ValueError when the substring is not found."]),
     ("__format__", "Return a formatted version of the string as described by format_spec."),
     ("__sizeof__", "Return the size of the string in memory, in bytes.")]
  | thing =>
    [("__format__", "Default object formatter."),
     ("__sizeof__", "Size of object in memory, in bytes."), ("__reduce__", "Helper for pickle."),
     ("__dir__", "Default dir() implementation.")]
  | kind =>
    [("__sizeof__", "Return memory consumption of the type object."),
     ("__dir__", "Specialized __dir__ implementation for types.")]
  | whole =>
    [("__sizeof__", "Returns size in memory, in bytes.")]
  | row =>
    [("count", "Return number of occurrences of value."),
     ("index", lines
      ["Return first index of value.", "", "Raises ValueError if the value is not present."])]
  | _ => []

/-- **The description of what a kind keeps under a name**, if there is one. -/
def Kind.describe? (home : Kind) (name : List Char) : Option String :=
  let name := String.ofList name
  (Assoc.get? home.ownDescriptions name).or
    ((Assoc.get? operatorDescriptions name).or
      ((Assoc.get? textDescriptions name).or (Assoc.get? otherDescriptions name)))

/-! ### By form -/

/-- The forms of calls, each with the names of the operations that are called so. -/
def callForms : List (String × String) :=
  [("($type, *args, **kwargs)", "__new__"),
   ("($self, /)",
    "__repr__ __hash__ __str__ __iter__ __len__ capitalize casefold title lower swapcase " ++
      "upper isascii islower isupper istitle isspace isdecimal isdigit isnumeric isalpha " ++
      "isalnum isidentifier isprintable __sizeof__ __getstate__ __dir__ mro __subclasses__ " ++
      "__neg__ __pos__ __abs__ __bool__ __invert__ __int__ __float__ __index__ bit_length " ++
      "bit_count as_integer_ratio"),
   ("($self, name, /)", "__getattribute__ __delattr__"),
   ("($self, value, /)",
    "__lt__ __le__ __eq__ __ne__ __gt__ __ge__ __mod__ __rmod__ __add__ __mul__ __rmul__ " ++
      "__or__ __ror__ __radd__ __sub__ __rsub__ __divmod__ __rdivmod__ __lshift__ " ++
      "__rlshift__ __rshift__ __rrshift__ __and__ __rand__ __xor__ __rxor__ __floordiv__ " ++
      "__rfloordiv__ __truediv__ __rtruediv__ __ior__"),
   ("($self, key, /)", "__getitem__ __contains__"),
   ("($self, /, encoding='utf-8', errors='strict')", "encode"),
   ("($self, old, new, count=-1, /)", "replace"),
   ("($self, /, sep=None, maxsplit=-1)", "split rsplit"),
   ("($self, iterable, /)", "join"),
   ("($self, width, fillchar=' ', /)", "center ljust rjust"),
   ("($self, /, tabsize=8)", "expandtabs"),
   ("($self, sep, /)", "partition rpartition"),
   ("($self, chars=None, /)", "lstrip rstrip strip"),
   ("($self, /, keepends=False)", "splitlines"),
   ("($self, table, /)", "translate"),
   ("($self, prefix, /)", "removeprefix"),
   ("($self, suffix, /)", "removesuffix"),
   ("($self, width, /)", "zfill"),
   ("($self, format_spec, /)", "__format__"),
   ("(x, y=<unrepresentable>, z=<unrepresentable>, /)", "maketrans"),
   ("($self, name, value, /)", "__setattr__"),
   ("($self, /, *args, **kwargs)", "__init__ __call__"),
   ("($self, protocol, /)", "__reduce_ex__"),
   ("($self, instance, /)", "__instancecheck__ __delete__"),
   ("($self, subclass, /)", "__subclasscheck__"),
   ("($self, value, mod=None, /)", "__pow__ __rpow__"),
   ("($self, /, length=1, byteorder='big', *, signed=False)", "to_bytes"),
   ("($type, /, bytes, byteorder='big', *, signed=False)", "from_bytes"),
   ("($self, ndigits=<unrepresentable>, /)", "__round__"),
   ("($self, instance, owner=None, /)", "__get__"),
   ("($self, instance, value, /)", "__set__")]

/-- The forms of calls that a kind does not share with others, by name. -/
def Kind.ownCallForms : Kind → List (String × String)
  | thing => [("__reduce__", "($self, /)")]
  | whole => [("__getnewargs__", "($self, /)")]
  | row =>
    [("count", "($self, value, /)"), ("index", "($self, value, start=0, stop=sys.maxsize, /)"),
     ("__getnewargs__", "($self, /)")]
  | _ => []

/-- **The form in which an operation is called** that a kind keeps under a name, if it is
described. -/
def Kind.callForm? (home : Kind) (name : List Char) : Option String :=
  (Assoc.get? home.ownCallForms (String.ofList name)).or
    ((callForms.find? fun form => (Kind.names form.2).contains name).map (·.1))

end Template

end Commissioning
