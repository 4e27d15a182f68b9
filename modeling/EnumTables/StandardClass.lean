import EnumTables.TypeForm

/-!
Standard classes: the order in which a standard class and its bases are searched, and which
attributes each of them has itself. Attributes of standard classes differ in what reading them
gives: a routine is bound to what it is read from, and a getter computes something.
-/

namespace EnumTables

inductive NativeKind where
  | method
  /-- Bound as well; what an operator or a display of the language calls. -/
  | operator
  | getter
  | classMethod
  | function
  | routine
  | classRoutine
  | data
  deriving DecidableEq, Repr

namespace NativeKind

def typeOnClass : NativeKind → String
  | .method => "method_descriptor"
  | .operator => "wrapper_descriptor"
  | .getter => "getset_descriptor"
  | .classMethod | .function => "builtin_function_or_method"
  | .routine => "function"
  | .classRoutine => "method"
  | .data => "object"

def typeOnObject : NativeKind → String
  | .operator => "method-wrapper"
  | .method | .classMethod | .function => "builtin_function_or_method"
  | .routine | .classRoutine => "method"
  | .getter | .data => "object"

end NativeKind

namespace StandardClass

def enumName (path : String) : ClassName := .standard "enum" path

def tilePosition : ClassName := .standard "enumtab.model.entities" "TilePosition"

def object : ClassName := .builtin "object"

def order? : String → Option (List ClassName)
  | "Enum" => some [enumName "Enum", object]
  | "ReprEnum" => some [enumName "ReprEnum", enumName "Enum", object]
  | "IntEnum" =>
    some [enumName "IntEnum", .builtin "int", enumName "ReprEnum", enumName "Enum", object]
  | "StrEnum" =>
    some [enumName "StrEnum", .builtin "str", enumName "ReprEnum", enumName "Enum", object]
  | "Flag" => some [enumName "Flag", enumName "Enum", object]
  | "IntFlag" => some [enumName "IntFlag", .builtin "int", enumName "ReprEnum", enumName "Flag",
      enumName "Enum", object]
  | "TilePosition" => some [tilePosition, .builtin "tuple", object]
  | "EnumType" => some [enumName "EnumType", .builtin "type", object]
  | "bool" => some [.builtin "bool", .builtin "int", object]
  | "object" => some [object]
  | _ => none

/-- The order for the name of a class, which is a standard one without further bases unless it is
known. -/
def orderOf (name : String) : List ClassName :=
  (order? name).getD [.builtin name, object]

def isEnumeration (cls : ClassName) : Bool :=
  cls.module = "enum" && cls.path ≠ "EnumType"

def metaclassOf (cls : ClassName) : String :=
  if isEnumeration cls then "EnumType" else "type"

def isMachinery (cls : ClassName) : Bool :=
  cls.module = "builtins" || cls.module = "enum"

def layoutOf (cls : ClassName) : ClassName :=
  if cls = tilePosition then .builtin "tuple"
  else if [enumName "IntEnum", enumName "IntFlag"].contains cls then cls
  else (orderOf cls.path).find? (fun base =>
    ["int", "str", "float", "list", "tuple", "dict", "set", "bytes"].any fun name =>
      base = .builtin name) |>.getD object

/-- Objects of the class have no fixed size, and no room for attributes: a class that extends it
lays its objects out anew. -/
def isRigid (cls : ClassName) : Bool :=
  ["int", "tuple", "bytes"].any fun name => cls = .builtin name

/-! ## Attributes -/

def attributeTable : List (String × List (NativeKind × String)) :=
  [("object", [
      (.method, "__reduce_ex__ __reduce__ __getstate__ __format__ __sizeof__ __dir__"),
      (.operator, "__repr__ __hash__ __str__ __getattribute__ __setattr__ __delattr__ __lt__ " ++
        "__le__ __eq__ __ne__ __gt__ __ge__ __init__"),
      (.getter, "__class__"),
      (.classMethod, "__subclasshook__ __init_subclass__"),
      (.function, "__new__"),
      (.data, "__doc__")]),
    ("type", [
      (.method, "mro __subclasses__ __instancecheck__ __subclasscheck__ __dir__ __sizeof__"),
      (.operator, "__repr__ __call__ __getattribute__ __setattr__ __delattr__ __init__ __or__ " ++
        "__ror__"),
      (.getter, "__basicsize__ __itemsize__ __flags__ __weakrefoffset__ __base__ __dictoffset__ " ++
        "__mro__ __name__ __qualname__ __bases__ __module__ __abstractmethods__ " ++
        "__dict__ __doc__ __text_signature__ __annotations__"),
      (.classMethod, "__prepare__"),
      (.function, "__new__")]),
    ("int", [
      (.method, "conjugate bit_length bit_count to_bytes as_integer_ratio __trunc__ __floor__ " ++
        "__ceil__ __round__ __getnewargs__ __format__ __sizeof__"),
      (.operator, "__repr__ __hash__ __getattribute__ __lt__ __le__ __eq__ __ne__ __gt__ __ge__ " ++
        "__add__ __radd__ __sub__ __rsub__ __mul__ __rmul__ __mod__ __rmod__ __divmod__ " ++
        "__rdivmod__ __pow__ __rpow__ __neg__ __pos__ __abs__ __bool__ __invert__ " ++
        "__lshift__ __rlshift__ __rshift__ __rrshift__ __and__ __rand__ __xor__ " ++
        "__rxor__ __or__ __ror__ __int__ __float__ __floordiv__ __rfloordiv__ " ++
        "__truediv__ __rtruediv__ __index__"),
      (.getter, "real imag numerator denominator"),
      (.classMethod, "from_bytes"),
      (.function, "__new__"),
      (.data, "__doc__")]),
    ("bool", [
      (.operator, "__repr__ __and__ __rand__ __xor__ __rxor__ __or__ __ror__"),
      (.function, "__new__"),
      (.data, "__doc__")]),
    ("float", [
      (.method, "conjugate __trunc__ __floor__ __ceil__ __round__ as_integer_ratio hex " ++
        "is_integer __getnewargs__ __format__"),
      (.operator, "__repr__ __hash__ __getattribute__ __lt__ __le__ __eq__ __ne__ __gt__ __ge__ " ++
        "__add__ __radd__ __sub__ __rsub__ __mul__ __rmul__ __mod__ __rmod__ __divmod__ " ++
        "__rdivmod__ __pow__ __rpow__ __neg__ __pos__ __abs__ __bool__ __int__ " ++
        "__float__ __floordiv__ __rfloordiv__ __truediv__ __rtruediv__"),
      (.getter, "real imag"),
      (.classMethod, "fromhex __getformat__"),
      (.function, "__new__"),
      (.data, "__doc__")]),
    ("str", [
      (.method, "encode replace split rsplit join capitalize casefold title center count " ++
        "expandtabs find partition index ljust lower lstrip rfind rindex rjust rstrip " ++
        "rpartition splitlines strip swapcase translate upper startswith endswith " ++
        "removeprefix removesuffix isascii islower isupper istitle isspace isdecimal " ++
        "isdigit isnumeric isalpha isalnum isidentifier isprintable zfill format " ++
        "format_map __format__ __sizeof__ __getnewargs__"),
      (.operator, "__repr__ __hash__ __str__ __getattribute__ __lt__ __le__ __eq__ __ne__ " ++
        "__gt__ " ++
        "__ge__ __iter__ __mod__ __rmod__ __len__ __getitem__ __add__ __mul__ __rmul__ " ++
        "__contains__"),
      (.function, "__new__ maketrans"),
      (.data, "__doc__")]),
    ("bytes", [
      (.method, "__getnewargs__ __bytes__ capitalize center count decode endswith expandtabs " ++
        "find hex index isalnum isalpha isascii isdigit islower isspace istitle isupper " ++
        "join ljust lower lstrip partition replace removeprefix removesuffix rfind " ++
        "rindex rjust rpartition rsplit rstrip split splitlines startswith strip " ++
        "swapcase title translate upper zfill"),
      (.operator, "__repr__ __hash__ __str__ __getattribute__ __lt__ __le__ __eq__ __ne__ " ++
        "__gt__ " ++
        "__ge__ __iter__ __mod__ __rmod__ __len__ __getitem__ __add__ __mul__ __rmul__ " ++
        "__contains__"),
      (.classMethod, "fromhex"),
      (.function, "__new__ maketrans"),
      (.data, "__doc__")]),
    ("bytearray", [
      (.method, "__alloc__ __reduce__ __reduce_ex__ __sizeof__ append capitalize center clear " ++
        "copy count decode endswith expandtabs extend find hex index insert isalnum " ++
        "isalpha isascii isdigit islower isspace istitle isupper join ljust lower " ++
        "lstrip partition pop remove replace removeprefix removesuffix reverse rfind " ++
        "rindex rjust rpartition rsplit rstrip split splitlines startswith strip " ++
        "swapcase title translate upper zfill"),
      (.operator, "__repr__ __str__ __getattribute__ __lt__ __le__ __eq__ __ne__ __gt__ __ge__ " ++
        "__iter__ __init__ __mod__ __rmod__ __len__ __getitem__ __setitem__ __delitem__ " ++
        "__add__ __mul__ __rmul__ __contains__ __iadd__ __imul__"),
      (.classMethod, "fromhex"),
      (.function, "__new__ maketrans"),
      (.data, "__doc__ __hash__")]),
    ("list", [
      (.method, "__getitem__ __reversed__ __sizeof__ clear copy append insert extend pop remove " ++
        "index count reverse sort"),
      (.operator, "__repr__ __getattribute__ __lt__ __le__ __eq__ __ne__ __gt__ __ge__ __iter__ " ++
        "__init__ __len__ __setitem__ __delitem__ __add__ __mul__ __rmul__ __contains__ " ++
        "__iadd__ __imul__"),
      (.classMethod, "__class_getitem__"),
      (.function, "__new__"),
      (.data, "__hash__ __doc__")]),
    ("tuple", [
      (.method, "__getnewargs__ index count"),
      (.operator, "__repr__ __hash__ __getattribute__ __lt__ __le__ __eq__ __ne__ __gt__ __ge__ " ++
        "__iter__ __len__ __getitem__ __add__ __mul__ __rmul__ __contains__"),
      (.classMethod, "__class_getitem__"),
      (.function, "__new__"),
      (.data, "__doc__")]),
    ("dict", [
      (.method, "__getitem__ __contains__ __sizeof__ get setdefault pop popitem keys items " ++
        "values update clear copy __reversed__"),
      (.operator, "__repr__ __getattribute__ __lt__ __le__ __eq__ __ne__ __gt__ __ge__ __iter__ " ++
        "__init__ __or__ __ror__ __ior__ __len__ __setitem__ __delitem__"),
      (.classMethod, "fromkeys __class_getitem__"),
      (.function, "__new__"),
      (.data, "__hash__ __doc__")]),
    ("set", [
      (.method, "__contains__ add clear copy discard difference difference_update intersection " ++
        "intersection_update isdisjoint issubset issuperset pop __reduce__ remove " ++
        "__sizeof__ symmetric_difference symmetric_difference_update union update"),
      (.operator, "__repr__ __getattribute__ __lt__ __le__ __eq__ __ne__ __gt__ __ge__ __iter__ " ++
        "__init__ __sub__ __rsub__ __and__ __rand__ __xor__ __rxor__ __or__ __ror__ " ++
        "__isub__ __iand__ __ixor__ __ior__ __len__"),
      (.classMethod, "__class_getitem__"),
      (.function, "__new__"),
      (.data, "__hash__ __doc__")]),
    ("frozenset", [
      (.method, "__contains__ copy difference intersection isdisjoint issubset issuperset " ++
        "__reduce__ __sizeof__ symmetric_difference union"),
      (.operator, "__repr__ __hash__ __getattribute__ __lt__ __le__ __eq__ __ne__ __gt__ __ge__ " ++
        "__iter__ __sub__ __rsub__ __and__ __rand__ __xor__ __rxor__ __or__ __ror__ " ++
        "__len__"),
      (.classMethod, "__class_getitem__"),
      (.function, "__new__"),
      (.data, "__doc__")]),
    ("range", [
      (.method, "__reversed__ __reduce__ count index"),
      (.operator, "__repr__ __hash__ __getattribute__ __lt__ __le__ __eq__ __ne__ __gt__ __ge__ " ++
        "__iter__ __bool__ __len__ __getitem__ __contains__"),
      (.getter, "start stop step"),
      (.function, "__new__"),
      (.data, "__doc__")]),
    ("mappingproxy", [
      (.method, "get keys values items copy __reversed__"),
      (.operator, "__repr__ __str__ __getattribute__ __lt__ __le__ __eq__ __ne__ __gt__ __ge__ " ++
        "__iter__ __or__ __ror__ __ior__ __len__ __getitem__ __contains__"),
      (.classMethod, "__class_getitem__"),
      (.function, "__new__"),
      (.data, "__doc__ __hash__")]),
    ("NoneType", [
      (.operator, "__repr__ __bool__"),
      (.function, "__new__"),
      (.data, "__doc__")]),
    ("types.SimpleNamespace", [
      (.method, "__reduce__"),
      (.operator, "__repr__ __getattribute__ __setattr__ __delattr__ __lt__ __le__ __eq__ " ++
        "__ne__ " ++
        "__gt__ __ge__ __init__"),
      (.getter, "__dict__"),
      (.function, "__new__"),
      (.data, "__doc__ __hash__")]),
    ("list_iterator", [
      (.method, "__length_hint__ __reduce__ __setstate__"),
      (.operator, "__getattribute__ __iter__ __next__"),
      (.data, "__doc__")]),
    ("function", [
      (.operator, "__repr__ __call__ __get__"),
      (.getter, "__closure__ __doc__ __globals__ __module__ __builtins__ __code__ __defaults__ " ++
        "__kwdefaults__ __annotations__ __dict__ __name__ __qualname__"),
      (.function, "__new__")]),
    ("method", [
      (.method, "__reduce__"),
      (.operator, "__repr__ __hash__ __call__ __getattribute__ __setattr__ __delattr__ __lt__ " ++
        "__le__ __eq__ __ne__ __gt__ __ge__"),
      (.getter, "__func__ __self__ __doc__ __closure__ __globals__ __module__ __builtins__ " ++
        "__code__ __defaults__ __kwdefaults__ __annotations__ __dict__ __name__ __qualname__"),
      (.function, "__new__")]),
    ("method-wrapper", [
      (.method, "__reduce__"),
      (.operator, "__repr__ __hash__ __call__ __getattribute__ __lt__ __le__ __eq__ __ne__ " ++
        "__gt__ __ge__"),
      (.getter, "__self__ __objclass__ __name__ __qualname__ __doc__ __text_signature__")]),
    ("wrapper_descriptor", [
      (.method, "__reduce__"),
      (.operator, "__repr__ __call__ __getattribute__ __get__"),
      (.getter, "__objclass__ __name__ __qualname__ __doc__ __text_signature__")]),
    ("method_descriptor", [
      (.method, "__reduce__"),
      (.operator, "__repr__ __call__ __getattribute__ __get__"),
      (.getter, "__objclass__ __name__ __qualname__ __doc__ __text_signature__")]),
    ("getset_descriptor", [
      (.operator, "__repr__ __getattribute__ __get__ __set__ __delete__"),
      (.getter, "__objclass__ __name__ __qualname__ __doc__")]),
    ("property", [
      (.method, "getter setter deleter __set_name__"),
      (.operator, "__getattribute__ __get__ __set__ __delete__ __init__"),
      (.getter, "fget fset fdel __doc__ __isabstractmethod__"),
      (.function, "__new__")]),
    ("module", [
      (.method, "__dir__"),
      (.operator, "__repr__ __getattribute__ __setattr__ __delattr__ __init__"),
      (.getter, "__dict__ __annotations__"),
      (.function, "__new__"),
      (.data, "__doc__ __name__ __loader__ __package__ __spec__")]),
    ("builtin_function_or_method", [
      (.method, "__reduce__"),
      (.operator, "__repr__ __hash__ __call__ __getattribute__ __lt__ __le__ __eq__ __ne__ " ++
        "__gt__ " ++
        "__ge__"),
      (.getter, "__module__ __doc__ __name__ __qualname__ __self__ __text_signature__")]),
    ("EnumType", [
      (.function, "__new__"),
      (.routine, "__bool__ __call__ __contains__ __delattr__ __dir__ __getattr__ __getitem__ " ++
        "__iter__ __len__ __repr__ __reversed__ __setattr__ _create_ _convert_"),
      (.classRoutine, "__prepare__ _check_for_existing_members_ _get_mixins_ _find_data_repr_ " ++
        "_find_data_type_ _find_new_"),
      (.data, "__module__ __doc__ __members__")]),
    ("Enum", [
      (.getter, "__dict__ __weakref__"),
      (.function, "__new__"),
      (.routine, "__init__ _generate_next_value_ __repr__ __str__ __dir__ __format__ __hash__ " ++
        "__reduce_ex__ __deepcopy__ __copy__ _new_member_"),
      (.classRoutine, "_missing_"),
      (.data, "__module__ __doc__ _use_args_ _member_names_ _member_map_ _value2member_map_ " ++
        "_unhashable_values_ _member_type_ _value_repr_")]),
    ("ReprEnum", [
      (.function, "_new_member_"),
      (.routine, "_generate_next_value_ __new__"),
      (.data, "__module__ __doc__ _use_args_ _member_names_ _member_map_ _value2member_map_ " ++
        "_unhashable_values_ _member_type_ _value_repr_")]),
    ("IntEnum", [
      (.method, "__format__"),
      (.operator, "_value_repr_ __str__"),
      (.getter, "__dict__"),
      (.function, "_new_member_"),
      (.routine, "_generate_next_value_ __repr__ __new__"),
      (.data, "__module__ __doc__ _use_args_ _member_names_ _member_map_ _value2member_map_ " ++
        "_unhashable_values_ _member_type_")]),
    ("StrEnum", [
      (.method, "__format__"),
      (.operator, "_value_repr_ __str__"),
      (.getter, "__dict__ __weakref__"),
      (.routine, "_generate_next_value_ __new__ _new_member_ __repr__ __new_member__"),
      (.data, "__module__ __doc__ _use_args_ _member_names_ _member_map_ _value2member_map_ " ++
        "_unhashable_values_ _member_type_")]),
    ("Flag", [
      (.function, "_numeric_repr_ _new_member_"),
      (.routine, "_generate_next_value_ __contains__ __iter__ __len__ __repr__ __str__ __bool__ " ++
        "_get_value __or__ __and__ __xor__ __invert__ __rand__ __ror__ __rxor__ __new__"),
      (.classRoutine, "_iter_member_by_value_ _iter_member_ _iter_member_by_def_ _missing_"),
      (.data, "__module__ __doc__ _use_args_ _member_names_ _member_map_ _value2member_map_ " ++
        "_unhashable_values_ _member_type_ _value_repr_ _boundary_ _flag_mask_ " ++
        "_singles_mask_ _all_bits_ _inverted_")]),
    ("IntFlag", [
      (.method, "__format__"),
      (.operator, "_value_repr_ __str__"),
      (.getter, "__dict__"),
      (.function, "_new_member_"),
      (.routine, "_generate_next_value_ __repr__ __or__ __and__ __xor__ __ror__ __rand__ " ++
        "__rxor__ __invert__ __new__"),
      (.data, "__module__ __doc__ _use_args_ _member_names_ _member_map_ _value2member_map_ " ++
        "_unhashable_values_ _member_type_ _boundary_ _flag_mask_ _singles_mask_ " ++
        "_all_bits_ _inverted_")]),
    ("TilePosition", [
      (.getter, "x y"),
      (.function, "__new__"),
      (.routine, "_replace __repr__ _asdict __getnewargs__"),
      (.classRoutine, "_make"),
      (.data, "__doc__ __slots__ _fields _field_defaults __match_args__ __module__ " ++
        "__annotations__ __orig_bases__")])]

def attributeKind? (cls : ClassName) (name : String) : Option NativeKind :=
  let rows := (attributeTable.lookup cls.path).getD []
  if cls.module = "builtins" || cls.module = "enum" || cls = tilePosition then
    (rows.find? fun row => (Text.split ' ' row.2).contains name).map Prod.fst
  else none

end StandardClass

end EnumTables
