import JsonSchema.Text.Parts
import JsonSchema.Value.Basic

namespace JsonSchema.Pointer

def escapeChars : List Char → List Char
  | [] => []
  | '~' :: rest => '~' :: '0' :: escapeChars rest
  | '/' :: rest => '~' :: '1' :: escapeChars rest
  | c :: rest => c :: escapeChars rest

/-- What an escaped segment stands for. A tilde before anything but `0` and `1` is itself. -/
def unescapeChars : List Char → List Char
  | '~' :: '1' :: rest => '/' :: unescapeChars rest
  | '~' :: '0' :: rest => '~' :: unescapeChars rest
  | c :: rest => c :: unescapeChars rest
  | [] => []

def escape (segment : String) : String := String.ofList (escapeChars segment.toList)

def text (segments : List String) : String :=
  String.join (segments.map fun segment => "/" ++ escape segment)

def parse? (text : String) : Option (List String) :=
  match text.toList with
  | [] => some []
  | '/' :: rest => some ((Text.parts '/' rest).map fun part => String.ofList (unescapeChars part))
  | _ => none

/-- The position that a segment names: decimal digits without a sign or a needless zero, and not
beyond the machine's words. -/
def index? (segment : String) : Option Nat :=
  match segment.toList with
  | [] => none
  | '0' :: _ :: _ => none
  | cs =>
    if cs.all Char.isDigit then
      let n := cs.foldl (fun n c => 10 * n + (c.toNat - '0'.toNat)) 0
      if n < UInt64.size then some n else none
    else none

def step? (v : Value) (segment : String) : Option Value :=
  match v with
  | .object _ => v.get? segment
  | .array elements => (index? segment).bind (elements[·]?)
  | _ => none

def find? (v : Value) : List String → Option Value
  | [] => some v
  | segment :: rest => (step? v segment).bind (find? · rest)

end JsonSchema.Pointer
