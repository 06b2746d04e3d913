import HttpContract.Text.Split

/-!
# Standard attributes

Beside the attributes that are written down, every thing has those of its kind. All that matters of them
is the kind of thing that they lead to. `ofKind` lists them for the kinds that interfaces, their members
and values belong to; `common` lists those that everything has.
-/

namespace HttpContract

/-- Names of attributes, separated by blanks, by the kind of thing they lead to. -/
abbrev Attributes := List (String × String)

namespace Attributes

/-- The kind of thing that an attribute leads to. -/
def leadsTo? (as : Attributes) (name : String) : Option String :=
  (List.find? (fun group => (Text.pieces ' ' group.2).contains name) as).map Prod.fst

/-! ## Tables -/

def common : Attributes := [
  ("method-wrapper", "__delattr__ __eq__ __ge__ __getattribute__ __gt__ __hash__ __init__ __le__ "
    ++ "__lt__ __ne__ __repr__ __setattr__ __str__"),
  ("builtin_function_or_method", "__dir__ __format__ __getstate__ __init_subclass__ __new__ "
    ++ "__reduce__ __reduce_ex__ __sizeof__ __subclasshook__")]

def ofWholeNumber : Attributes := [
  ("method-wrapper", "__abs__ __add__ __and__ __bool__ __divmod__ __float__ __floordiv__ __index__ "
    ++ "__int__ __invert__ __lshift__ __mod__ __mul__ __neg__ __or__ __pos__ __pow__ __radd__ "
    ++ "__rand__ __rdivmod__ __rfloordiv__ __rlshift__ __rmod__ __rmul__ __ror__ __rpow__ "
    ++ "__rrshift__ __rshift__ __rsub__ __rtruediv__ __rxor__ __sub__ __truediv__ __xor__"),
  ("builtin_function_or_method", "__ceil__ __floor__ __getnewargs__ __round__ __trunc__ "
    ++ "as_integer_ratio bit_count bit_length conjugate from_bytes to_bytes"),
  ("str", "__doc__"),
  ("int", "denominator imag numerator real")]

def ofNumber : Attributes := [
  ("method-wrapper", "__abs__ __add__ __bool__ __divmod__ __float__ __floordiv__ __int__ __mod__ "
    ++ "__mul__ __neg__ __pos__ __pow__ __radd__ __rdivmod__ __rfloordiv__ __rmod__ __rmul__ "
    ++ "__rpow__ __rsub__ __rtruediv__ __sub__ __truediv__"),
  ("builtin_function_or_method", "__ceil__ __floor__ __getformat__ __getnewargs__ __round__ "
    ++ "__trunc__ as_integer_ratio conjugate fromhex hex is_integer"),
  ("str", "__doc__"),
  ("float", "imag real")]

def ofText : Attributes := [
  ("method-wrapper", "__add__ __contains__ __getitem__ __iter__ __len__ __mod__ __mul__ __rmod__ "
    ++ "__rmul__"),
  ("str", "__doc__"),
  ("builtin_function_or_method", "__getnewargs__ capitalize casefold center count encode endswith "
    ++ "expandtabs find format format_map index isalnum isalpha isascii isdecimal isdigit "
    ++ "isidentifier islower isnumeric isprintable isspace istitle isupper join ljust lower lstrip "
    ++ "maketrans partition removeprefix removesuffix replace rfind rindex rjust rpartition rsplit "
    ++ "rstrip split splitlines startswith strip swapcase title translate upper zfill")]

def ofBytes : Attributes := [
  ("method-wrapper", "__add__ __contains__ __getitem__ __iter__ __len__ __mod__ __mul__ __rmod__ "
    ++ "__rmul__"),
  ("builtin_function_or_method", "__bytes__ __getnewargs__ capitalize center count decode endswith "
    ++ "expandtabs find fromhex hex index isalnum isalpha isascii isdigit islower isspace istitle "
    ++ "isupper join ljust lower lstrip maketrans partition removeprefix removesuffix replace rfind "
    ++ "rindex rjust rpartition rsplit rstrip split splitlines startswith strip swapcase title "
    ++ "translate upper zfill"),
  ("str", "__doc__")]

def ofList : Attributes := [
  ("method-wrapper", "__add__ __contains__ __delitem__ __iadd__ __imul__ __iter__ __len__ __mul__ "
    ++ "__rmul__ __setitem__"),
  ("builtin_function_or_method", "__class_getitem__ __getitem__ __reversed__ append clear copy count "
    ++ "extend index insert pop remove reverse sort"),
  ("str", "__doc__"),
  ("NoneType", "__hash__")]

def ofTuple : Attributes := [
  ("method-wrapper", "__add__ __contains__ __getitem__ __iter__ __len__ __mul__ __rmul__"),
  ("builtin_function_or_method", "__class_getitem__ __getnewargs__ count index"),
  ("str", "__doc__")]

def ofDictionary : Attributes := [
  ("builtin_function_or_method", "__class_getitem__ __contains__ __getitem__ __reversed__ clear copy "
    ++ "fromkeys get items keys pop popitem setdefault update values"),
  ("method-wrapper", "__delitem__ __ior__ __iter__ __len__ __or__ __ror__ __setitem__"),
  ("str", "__doc__"),
  ("NoneType", "__hash__")]

def ofDictionaryView : Attributes := [
  ("builtin_function_or_method", "__class_getitem__ __reversed__ copy get items keys values"),
  ("method-wrapper", "__contains__ __getitem__ __ior__ __iter__ __len__ __or__ __ror__"),
  ("NoneType", "__doc__ __hash__")]

def ofFixedSet : Attributes := [
  ("method-wrapper", "__and__ __iter__ __len__ __or__ __rand__ __ror__ __rsub__ __rxor__ __sub__ "
    ++ "__xor__"),
  ("builtin_function_or_method", "__class_getitem__ __contains__ copy difference intersection "
    ++ "isdisjoint issubset issuperset symmetric_difference union"),
  ("str", "__doc__")]

def ofNothing : Attributes := [("method-wrapper", "__bool__"), ("NoneType", "__doc__")]

def ofFunction : Attributes := [
  ("dict", "__annotations__ __builtins__ __dict__ __globals__"),
  ("method-wrapper", "__call__ __get__"),
  ("NoneType", "__closure__ __defaults__ __doc__ __kwdefaults__"),
  ("code", "__code__"),
  ("str", "__module__ __name__ __qualname__")]

/-- A function that is bound to what it is found in. -/
def ofBoundFunction : Attributes := [
  ("method-wrapper", "__call__"),
  ("function", "__func__"),
  ("object", "__self__")]

def ofCode : Attributes := [
  ("str", "__doc__ co_filename co_name co_qualname"),
  ("bytes", "_co_code_adaptive co_code co_exceptiontable co_linetable co_lnotab"),
  ("builtin_function_or_method", "_varname_from_oparg co_lines co_positions replace"),
  ("int", "co_argcount co_firstlineno co_flags co_kwonlyargcount co_nlocals co_posonlyargcount "
    ++ "co_stacksize"),
  ("tuple", "co_cellvars co_consts co_freevars co_names co_varnames")]

/-- A function without a name of its own. -/
def ofNameless : Attributes := [
  ("method-wrapper", "__call__"),
  ("builtin_function_or_method", "__class_getitem__ __setstate__"),
  ("dict", "__dict__ keywords"),
  ("str", "__doc__ __module__"),
  ("int", "__vectorcalloffset__"),
  ("tuple", "args"),
  ("function", "func")]

/-- A function that every thing of a kind has. -/
def ofBuiltin : Attributes := [
  ("method-wrapper", "__call__"),
  ("str", "__doc__ __name__ __qualname__ __text_signature__"),
  ("NoneType", "__module__"),
  ("object", "__self__")]

/-- An operator that a kind of things has. -/
def ofOperator : Attributes := [
  ("method-wrapper", "__call__"),
  ("str", "__doc__ __name__ __qualname__ __text_signature__"),
  ("object", "__objclass__ __self__")]

/-- What a class says about the functions and operators of its things. -/
def ofDescriptor : Attributes := [
  ("method-wrapper", "__call__ __get__"),
  ("str", "__doc__ __name__ __qualname__ __text_signature__"),
  ("object", "__objclass__")]

def ofDeclaration : Attributes := [
  ("str", "url method content_type __doc__ __module__"),
  ("tuple", "accept __match_args__"),
  ("dict", "__annotations__ __dataclass_fields__ __dict__"),
  ("object", "__dataclass_params__"),
  ("method", "__delattr__ __eq__ __hash__ __init__ __repr__ __setattr__"),
  ("NoneType", "__weakref__")]

def ofModule : Attributes := [
  ("str", "__name__"),
  ("NoneType", "__doc__ __loader__ __package__ __spec__"),
  ("dict", "__annotations__ __dict__")]

/-- A class of any kind. -/
def ofClass : Attributes := [
  ("str", "__name__ __qualname__ __module__ __doc__"),
  ("tuple", "__bases__ __mro__"),
  ("int", "__basicsize__ __dictoffset__ __flags__ __itemsize__ __weakrefoffset__"),
  ("mappingproxy", "__dict__"),
  ("method-wrapper", "__call__ __or__ __ror__"),
  ("builtin_function_or_method", "__instancecheck__ __prepare__ __subclasscheck__ __subclasses__ mro"),
  ("NoneType", "__text_signature__")]

def ofInterface : Attributes := [
  ("NoneType", "__doc__ __text_signature__"),
  ("str", "__module__"),
  ("tuple", "__bases__ __mro__ __parameters__ __slots__"),
  ("dict", "__annotations__"),
  ("mappingproxy", "__dict__"),
  ("frozenset", "__abstractmethods__"),
  ("function", "__init__ __subclasshook__"),
  ("int", "__basicsize__ __dictoffset__ __flags__ __itemsize__ __weakrefoffset__"),
  ("method-wrapper", "__call__ __or__ __ror__"),
  ("method", "__class_getitem__ __init_subclass__ __instancecheck__ __subclasscheck__ "
    ++ "_abc_caches_clear _abc_registry_clear _dump_registry register"),
  ("wrapper_descriptor", "__delattr__ __eq__ __ge__ __getattribute__ __gt__ __hash__ __le__ __lt__ "
    ++ "__ne__ __repr__ __setattr__ __str__"),
  ("method_descriptor", "__dir__ __format__ __getstate__ __reduce__ __reduce_ex__ __sizeof__"),
  ("builtin_function_or_method", "__new__ __prepare__ __subclasses__ mro"),
  ("getset_descriptor", "__weakref__"),
  ("_abc._abc_data", "_abc_impl"),
  ("bool", "_is_protocol _is_runtime_protocol")]

/-- The attributes of a kind, apart from those that everything has. -/
def ofKind (kind : String) : Attributes :=
  match kind with
  | "int" | "bool" => ofWholeNumber
  | "float" => ofNumber
  | "str" => ofText
  | "bytes" => ofBytes
  | "list" => ofList
  | "tuple" => ofTuple
  | "dict" => ofDictionary
  | "mappingproxy" => ofDictionaryView
  | "frozenset" => ofFixedSet
  | "NoneType" => ofNothing
  | "function" => ofFunction
  | "method" => ofBoundFunction ++ ofFunction
  | "code" => ofCode
  | "functools.partial" => ofNameless
  | "builtin_function_or_method" => ofBuiltin
  | "method-wrapper" => ofOperator
  | "wrapper_descriptor" | "method_descriptor" | "getset_descriptor" => ofDescriptor
  | "HttpExchange" => ofDeclaration
  | "module" => ofModule
  | _ => []

/-- The kind of thing that an attribute of a thing of a kind leads to. -/
def lookUp? (kind name : String) : Option String := ((ofKind kind).leadsTo? name).or (common.leadsTo? name)

end Attributes

end HttpContract
