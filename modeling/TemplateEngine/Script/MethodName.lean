import TemplateEngine.Script.Value

set_option autoImplicit false

namespace TemplateEngine.Script.Method

def ofList : List (String × Method) :=
  [("append", append), ("extend", extend), ("insert", insert), ("pop", pop), ("remove", remove),
    ("reverse", reverse), ("sort", sort), ("clear", clear), ("copy", copy), ("index", index),
    ("count", count)]

def ofDict : List (String × Method) :=
  [("get", get), ("keys", keys), ("values", values), ("items", items), ("setdefault", setDefault),
    ("update", update), ("pop", pop), ("clear", clear), ("copy", copy)]

def ofText : List (String × Method) :=
  [("upper", upper), ("lower", lower), ("strip", strip), ("lstrip", stripStart),
    ("rstrip", stripEnd), ("split", split), ("rsplit", splitEnd), ("splitlines", splitLines),
    ("partition", partition), ("rpartition", partitionEnd), ("replace", replace), ("join", join),
    ("startswith", startsWith), ("endswith", endsWith), ("removeprefix", removeStart),
    ("removesuffix", removeEnd), ("find", find), ("rfind", findLast), ("index", index),
    ("rindex", indexLast), ("count", count), ("ljust", padEnd), ("rjust", padStart),
    ("center", padBoth), ("zfill", padZeros), ("isdigit", isDigit), ("isspace", isSpace),
    ("isalnum", isAlphanumeric), ("isidentifier", isIdentifier),
    ("translate", replaceCharacters)]

def ofSequence : List (String × Method) := [("index", index), ("count", count)]

def ofType : TypeName → List (String × Method)
  | .list => ofList
  | .dict => ofDict
  | .str => ofText
  | .tuple | .range => ofSequence
  | .frozenset => [("intersection", intersection), ("copy", copy)]
  | .int | .bool => [("bit_length", bitLength)]
  | .float => [("is_integer", isWhole)]
  | .date | .moment => [("isoformat", standardText)]
  | _ => []

def find? (t : TypeName) (n : Text) : Option Method :=
  ((ofType t).find? fun e => e.1.toList = n).map Prod.snd

def nameIn (m : Method) (t : TypeName) : Text :=
  match (ofType t).find? fun e => e.2 = m with
  | some e => e.1.toList
  | none => []

end TemplateEngine.Script.Method
