import EnumTables.ClassObject.Entity
import EnumTables.TypeForm.Application

/-!
Names that types are spelled with in every described module: the standard enumerations, the names of
typing, what is known everywhere, and the modules of standard collections.
-/

namespace EnumTables.TypeForm

def words (text : String) : List String :=
  Text.split ' ' text

/-! ## Everywhere -/

def genericBuiltins : List String :=
  ["list", "dict", "tuple", "set", "frozenset", "type", "enumerate", "BaseExceptionGroup",
    "ExceptionGroup"]

def simpleBuiltins : List String := words <|
  "bool bytearray bytes classmethod complex filter float int map memoryview object property " ++
  "range reversed slice staticmethod str super zip ArithmeticError AssertionError " ++
  "AttributeError BaseException BlockingIOError BrokenPipeError BufferError BytesWarning " ++
  "ChildProcessError ConnectionAbortedError ConnectionError ConnectionRefusedError " ++
  "ConnectionResetError DeprecationWarning EOFError EncodingWarning Exception " ++
  "FileExistsError FileNotFoundError FloatingPointError FutureWarning GeneratorExit " ++
  "ImportError ImportWarning IndentationError IndexError InterruptedError IsADirectoryError " ++
  "KeyError KeyboardInterrupt LookupError MemoryError ModuleNotFoundError NameError " ++
  "NotADirectoryError NotImplementedError OSError OverflowError PendingDeprecationWarning " ++
  "PermissionError ProcessLookupError RecursionError ReferenceError ResourceWarning " ++
  "RuntimeError RuntimeWarning StopAsyncIteration StopIteration SyntaxError SyntaxWarning " ++
  "SystemError SystemExit TabError TimeoutError TypeError UnboundLocalError " ++
  "UnicodeDecodeError UnicodeEncodeError UnicodeError UnicodeTranslateError UnicodeWarning " ++
  "UserWarning ValueError Warning ZeroDivisionError"

def builtinFunctions : List String := words <|
  "__build_class__ __import__ abs aiter all anext any ascii bin breakpoint callable chr compile " ++
  "delattr dir divmod eval exec format getattr globals hasattr hash hex id input isinstance " ++
  "issubclass iter len locals max min next oct open ord pow print repr round setattr sorted sum " ++
  "vars"

def genericClass (name : ClassName) : ClassForm := ⟨name, .ordinary, false, true⟩

def universalName? (name : String) : Option TypeForm :=
  if genericBuiltins.contains name then some (.cls (genericClass (.builtin name)))
  else if simpleBuiltins.contains name then some (builtin name)
  else if builtinFunctions.contains name then
    some (.named name (.ok ("<built-in function " ++ name ++ ">")) "builtin_function_or_method")
  else match name with
    | "IOError" | "EnvironmentError" => some (builtin "OSError")
    | "Ellipsis" => some .ellipsis
    | "NotImplemented" => some (.named name (.ok name) "NotImplementedType")
    | "__debug__" => some (.object (.bool true))
    | _ => Option.none

/-! ## Typing -/

def aliases : List (String × ClassName × Option Nat) :=
  [("List", .builtin "list", some 1), ("Dict", .builtin "dict", some 2),
    ("Tuple", .builtin "tuple", Option.none), ("Set", .builtin "set", some 1),
    ("FrozenSet", .builtin "frozenset", some 1), ("Type", .builtin "type", some 1),
    ("Sequence", .collection "Sequence", some 1), ("Mapping", .collection "Mapping", some 2),
    ("MutableSequence", .collection "MutableSequence", some 1),
    ("MutableMapping", .collection "MutableMapping", some 2),
    ("Iterable", .collection "Iterable", some 1), ("Callable", .collection "Callable", Option.none)]

def standardNames : List (String × ClassName) :=
  (["Enum", "IntEnum", "StrEnum", "Flag", "IntFlag"].map fun name =>
    (name, StandardClass.enumName name)) ++ [("TilePosition", StandardClass.tilePosition)]

/-! ## Collections -/

def ofModule (name : String) : TypeForm :=
  .named name (.ok ("<module " ++ Text.quote name ++ ">")) "module"

def collectionClasses : List (String × List String × List String) :=
  [("collections",
      words "ChainMap Counter OrderedDict UserDict UserList UserString defaultdict deque", []),
    ("collections.abc", words <|
      "AsyncGenerator AsyncIterable AsyncIterator Awaitable ByteString Callable Collection " ++
      "Container Coroutine Generator ItemsView Iterable Iterator KeysView Mapping MappingView " ++
      "MutableMapping MutableSequence MutableSet Reversible Sequence Set ValuesView",
      ["Hashable", "Sized"])]

def moduleAttribute (module name : String) : Except Raised TypeForm :=
  let (generic, simple) := (collectionClasses.lookup module).getD ([], [])
  if generic.contains name then .ok (.cls (genericClass (.standard module name)))
  else if simple.contains name then .ok (.cls ⟨.standard module name, .ordinary, false, false⟩)
  else if module = "collections" && name = "abc" then .ok (ofModule "collections.abc")
  else if module = "collections" && name = "namedtuple" then
    .ok (.named name (.ok "<function namedtuple>") "function")
  else if name = "__name__" then .ok (.quoted module)
  else .error (.attributeError
    ("module " ++ Text.quote module ++ " has no attribute " ++ Text.quote name))

/-! ## Modules -/

def moduleName? (scope : Scope) (name : String) : Option TypeForm :=
  match aliases.lookup name, standardNames.lookup name with
  | some (origin, arity), _ => some (.alias name (genericClass origin) arity)
  | Option.none, some found => some (.cls (scope.form found))
  | Option.none, Option.none => match name with
    | "Optional" | "Union" | "Literal" => some (.special name)
    | "Annotated" | "Any" => some (.cls ⟨.standard "typing" name, .ordinary, false, false⟩)
    | "T" => some (.named "T" (.ok "~T") "TypeVar")
    | "UserId" => some (.named "UserId" (.ok (scope.module ++ ".UserId")) "NewType")
    | "collections" => some (ofModule "collections")
    | "__name__" => some (.quoted scope.module)
    | _ => Option.none

def moduleForm (scope : Scope) (name : String) : Except Raised TypeForm :=
  match scope.names.lookup name with
  | some found => .ok (.cls (scope.form found))
  | Option.none => match (moduleName? scope name).or (universalName? name) with
    | some form => .ok form
    | Option.none => .error ⟨"NameError", "name '" ++ name ++ "' is not defined"⟩

end EnumTables.TypeForm
