import TemplateEngine.Data.Literal
import TemplateEngine.Script.MethodName
import TemplateEngine.Script.Run

set_option autoImplicit false

/-!
# The text of values

Every value has a text, and a text that shows it as an expression would; the two differ for texts and
exceptions. What contains itself is shown by three dots where it comes again.
-/
namespace TemplateEngine.Script

def intText (i : Int) : Result Text :=
  if i.natAbs.log2 < 14000 then .ok (Text.ofInt i)
  else if i.natAbs < Data.numberBound then .ok (Text.ofInt i)
  else Result.raise .valueError

def bracketed (left : String) (items : List Text) (right : String) : Text :=
  left.toList ++ Text.join ", ".toList items ++ right.toList

/-- The items of a tuple between brackets; a single one has a comma behind it. -/
def tupleText : List Text → Text
  | [t] => bracketed "(" [t] ",)"
  | ts => bracketed "(" ts ")"

def classText (name : Text) : Text := "<class '".toList ++ name ++ "'>".toList

def methodText (t : TypeName) (m : Method) : Text :=
  "<method '".toList ++ m.nameIn t ++ "' of '".toList ++ t.name ++ "' objects>".toList

def partText (f : Binary64) : Text :=
  let t := Shortest.text Data.floatLayout f
  if ".0".toList.isSuffixOf t then t.take (t.length - 2) else t

/-- The text of a complex number; a real part that is zero is left out. -/
def complexText (c : Complex128) : Text :=
  let im := partText c.im ++ ['j']
  if c.re.isZero && !c.re.isNegative then im
  else
    let sign : Text := if c.im.isNegative then [] else ['+']
    '(' :: partText c.re ++ sign ++ im ++ [')']

/-- What is shown of a value in the place of the value itself where it contains itself, if it is watched
for that. -/
def Value.dots? : Value → Option Text
  | .list _ => some "[...]".toList
  | .dict _ => some "\x7b...\x7d".toList
  | .tuple _ _ | .frozenset _ _ => some "(...)".toList
  | .view _ _ _ => some "...".toList
  | _ => Option.none

/-- The text that shows a value. `seen` are the values that it stands in as far as they are watched, and
the number bounds how deep values may be nested. -/
def Value.show (h : Heap) : Nat → (seen : List Value) → Value → Result Text
  | 0, _, _ => Result.raise .recursionError
  | n + 1, seen, v => do
    let around := if v.dots?.isSome then v :: seen else seen
    /- The texts of items that are so many levels more below the value. -/
    let inner (below : Nat) (vs : List Value) : Result (List Text) :=
      match n, below with
      | n, 0 | n + 1, 1 | n + 2, _ => vs.mapM (Value.show h n around)
      | _, _ => if vs.isEmpty then return [] else Result.raise .recursionError
    match v, v.dots?.filter fun _ => seen.any v.same with
    | _, some t => return t
    | .none, _ => return "None".toList
    | .ellipsis, _ => return "Ellipsis".toList
    | .bool b, _ => return (if b then "True" else "False").toList
    | .int i _, _ => intText i
    | .float f _, _ => return Shortest.text Data.floatLayout f
    | .complex c _, _ => return complexText c
    | .text t _, _ => return t.quoted
    | .date d _, _ => return d.literal
    | .moment m _, _ => return m.literal
    | .tuple items _, _ => return tupleText (← inner 0 items)
    | .frozenset [] _, _ => return "frozenset()".toList
    | .frozenset items _, _ => return bracketed "frozenset(\x7b" (← inner 1 items) "\x7d)"
    | .range a b c _, _ =>
      let ends := if c = 1 then [a, b] else [a, b, c]
      return bracketed "range(" (← ends.mapM intText) ")"
    | .slice a b c _, _ => return bracketed "slice(" (← inner 0 [a, b, c]) ")"
    | .list a, _ => return bracketed "[" (← inner 0 (h.items a)) "]"
    | .dict a, _ =>
      let ts ← (h.entries a).mapM fun e => do
        let k ← Value.show h n around e.1
        return k ++ ": ".toList ++ (← Value.show h n around e.2)
      return bracketed "\x7b" ts "\x7d"
    | .view .keys a _, _ =>
      return bracketed "dict_keys([" (← inner 1 (h.dictionary a).keys) "])"
    | .view .values a _, _ =>
      return bracketed "dict_values([" (← inner 1 ((h.entries a).map Prod.snd)) "])"
    | .view .items a _, _ =>
      return bracketed "dict_items([" (← inner 1 ((h.entries a).map ViewKind.items.ofEntry)) "])"
    | .iterator k _, _ => return "<".toList ++ k.name ++ " object>".toList
    | .function a, _ =>
      return "<function ".toList ++ ((h.closure? a).map Closure.name).getD [] ++ ['>']
    | .builtin b, _ => return "<built-in function ".toList ++ b.name ++ ['>']
    | .method v _ _, _ => return "<built-in method of ".toList ++ v.typeName ++ " object>".toList
    | .unbound t m, _ => return methodText t m
    | .type t, _ => return classText t.fullName
    | .exceptionClass c, _ => return classText c.name
    | .exception c [w] _, _ => return c.name ++ bracketed "(" (← inner 0 [w]) ")"
    | .exception c items _, _ =>
      return c.name ++ bracketed "(" (← inner 1 (Value.shownArguments c items)) ")"

def Value.shown (h : Heap) (v : Value) : Result Text := Value.show h h.room [] v

/-- What is said of a string with a stretch that cannot be taken over, of one code point or of several. -/
def stretchText (what s : Str) (start stop : Int) (reason : Str) : Result Str :=
  if stop = start + 1 && start < s.length then
    match if 0 ≤ start then s[start.toNat]? else none with
    | some c =>
      return what ++ " character '".toList ++ Text.escapeOf c.toNat ++ "' in position ".toList
        ++ Text.ofInt start ++ ": ".toList ++ reason
    | none => Result.raise .systemError
  else
    return what ++ " characters in position ".toList ++ Text.ofInt start ++ ['-']
      ++ Text.ofInt (stop - 1) ++ ": ".toList ++ reason

/-- The text of a value. That of an exception is what its one argument or all of them say. A syntax error
says only what its first argument says, an error of the operating system says its number and which files
it is about, and one about a string says which code points of it are meant. -/
def Value.toText (h : Heap) : Value → Result Str
  | .text t _ => .ok t
  | .date d _ => .ok d.text
  | .moment m _ => .ok m.text
  | .exception .unicodeEncodeError [.text e _, .text s _, i, j, .text r _] _ =>
    stretchText (.char '\'' :: e ++ "' codec can't encode".toList) s (i.integer?.getD 0)
      (j.integer?.getD 0) r
  | .exception .unicodeTranslateError [.text s _, i, j, .text r _] _ =>
    stretchText "can't translate".toList s (i.integer?.getD 0) (j.integer?.getD 0) r
  | .exception c [] _ => .ok (if c.isA .syntaxError then "None".toList else [])
  | .exception c [v] _ => if c = .keyError then do return (← v.shown h) else v.toText h
  | .exception c (v :: w :: vs) id =>
    match Value.fileNames c (v :: w :: vs) with
    | some files => do
      let names ← files.mapM fun f => f.shown h
      let behind := if names = [] then [] else ": ".toList ++ Text.join " -> ".toList names
      return "[Errno ".toList ++ (← v.toText h) ++ "] ".toList ++ (← w.toText h) ++ behind
    | Option.none =>
      if c.isA .syntaxError then v.toText h
      else do return (← (Value.tuple (v :: w :: vs) id).shown h)
  | v => do return (← v.shown h)

def Raised.text (h : Heap) (e : Raised) : Result Str :=
  (Value.exception e.cls e.arguments e.id).toText h

end TemplateEngine.Script
