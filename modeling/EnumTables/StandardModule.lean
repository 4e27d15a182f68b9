import EnumTables.ClassObject.Creation

/-!
Standard modules: the names at their top with the types of what they stand for. One of them is a
package with parts. The module of enumerations has two enumerations with members of its own.
-/

namespace EnumTables.StandardModule

def contents : List (String × List (String × String)) :=
  [("enum", [
      ("EnumType", "Enum Flag ReprEnum IntEnum StrEnum IntFlag FlagBoundary EnumCheck"),
      ("type", "MappingProxyType DynamicClassAttribute nonmember member auto property verify " ++
        "EnumType EnumMeta _proto_member _EnumDict"),
      ("FlagBoundary", "STRICT CONFORM EJECT KEEP"),
      ("EnumCheck", "CONTINUOUS NAMED_FLAGS UNIQUE"),
      ("function", "unique pickle_by_global_name pickle_by_enum_name global_enum_repr " ++
        "global_flag_repr global_str global_enum show_flag_values bin _is_descriptor _is_dunder " ++
        "_is_sunder _is_internal_class _is_private _is_single_bit _make_class_unpicklable " ++
        "_iter_bits_lsb _dedent _reduce_ex_by_global_name _high_bit _power_of_two " ++
        "_simple_enum _test_simple_enum _old_convert_"),
      ("builtin_function_or_method", "reduce _or_"),
      ("module", "sys bltns operator"),
      ("list", "__all__"),
      ("tuple", "_stdlib_enums"),
      ("object", "_auto_null")]),
    ("json", [
      ("type", "JSONDecoder JSONDecodeError JSONEncoder"),
      ("function", "dump dumps load loads detect_encoding"),
      ("module", "codecs"),
      ("list", "__all__"),
      ("str", "__version__ __author__"),
      ("object", "_default_encoder _default_decoder")]),
    ("json.decoder", [
      ("type", "JSONDecodeError JSONDecoder"),
      ("function", "py_scanstring JSONObject JSONArray _decode_uXXXX"),
      ("builtin_function_or_method", "c_scanstring scanstring"),
      ("module", "re scanner"),
      ("list", "__all__"),
      ("float", "NaN PosInf NegInf"),
      ("dict", "BACKSLASH _CONSTANTS"),
      ("str", "WHITESPACE_STR"),
      ("object", "FLAGS STRINGCHUNK WHITESPACE")]),
    ("json.encoder", [
      ("type", "c_make_encoder JSONEncoder"),
      ("function", "py_encode_basestring py_encode_basestring_ascii _make_iterencode"),
      ("builtin_function_or_method", "c_encode_basestring_ascii c_encode_basestring " ++
        "encode_basestring encode_basestring_ascii"),
      ("module", "re"),
      ("dict", "ESCAPE_DCT"),
      ("float", "INFINITY"),
      ("object", "ESCAPE ESCAPE_ASCII HAS_UTF8")]),
    ("json.scanner", [
      ("type", "c_make_scanner make_scanner"),
      ("function", "py_make_scanner"),
      ("module", "re"),
      ("list", "__all__"),
      ("object", "NUMBER_RE")]),
    ("json.tool", [
      ("type", "Path"),
      ("function", "main"),
      ("module", "argparse json sys")])]

def isKnown (module : String) : Bool :=
  (contents.lookup module).isSome

def hasParts (module : String) : Bool :=
  module = "json"

def later : List String := ["json.tool"]

def early : List String :=
  (contents.map Prod.fst).filter fun module => !later.contains module

def typeOf? (module name : String) : Option String :=
  ((contents.lookup module).getD []).findSome? fun (type, names) =>
    if (Text.split ' ' names).contains name then some type else none

def linked? (module name : String) : Option String :=
  [(("json.decoder", "scanner"), "json.scanner"), (("json.tool", "json"), "json")].lookup
    (module, name)

def textEnumeration (name : String) (members : List (String × String)) : ClassModel :=
  .mk name ["StrEnum"] (members.map fun (name, text) => (name, .text text)) [] [] none

def enumerations : List ClassModel :=
  [textEnumeration "FlagBoundary"
      [("STRICT", "strict"), ("CONFORM", "conform"), ("EJECT", "eject"), ("KEEP", "keep")],
    textEnumeration "EnumCheck"
      [("CONTINUOUS", "no skipped integer values"),
        ("NAMED_FLAGS", "multi-flag aliases may not contain unnamed flags"),
        ("UNIQUE", "one name per value")]]

def scope (module : String) : Scope :=
  let empty : Scope := ⟨.named, module, [], []⟩
  if module = "enum" then (ClassObject.createTop false empty enumerations).toOption.getD empty
  else empty

def entity? (module name : String) : Option Entity :=
  (typeOf? module name).map fun type =>
    let found := scope module
    match found.names.lookup name, found.names.lookup type with
    | some cls, _ => .cls cls
    | none, some cls => match (found.class? cls).bind fun cls => cls.member? name with
      | some member => .value member
      | none => .unnamed type name
    | none, none =>
      if type = "EnumType" then .cls (StandardClass.enumName name)
      else if name = "EnumType" || name = "EnumMeta" then
        .cls (StandardClass.enumName "EnumType")
      else .unnamed type name

end EnumTables.StandardModule
