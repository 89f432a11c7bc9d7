import JsonSchema.Unicode.CharSet

namespace JsonSchema.Unicode

def utf8Bytes (n : Nat) : List Nat :=
  if n < 0x80 then [n]
  else if n < 0x800 then [0xc0 + n / 0x40, 0x80 + n % 0x40]
  else if n < 0x10000 then [0xe0 + n / 0x1000, 0x80 + n / 0x40 % 0x40, 0x80 + n % 0x40]
  else [0xf0 + n / 0x40000, 0x80 + n / 0x1000 % 0x40, 0x80 + n / 0x40 % 0x40, 0x80 + n % 0x40]

/-- Where a range is cut so that the encodings of a part are equally long: the end of the first
part. -/
def lengthCut? (low high : Nat) : Option Nat :=
  [0x7f, 0x7ff, 0xffff].find? fun last => low ≤ last && last < high

/-- Where a range is cut so that blocks of `size` code points are whole. -/
def blockCut? (low high size : Nat) : Option Nat :=
  if low / size = high / size then none
  else if low % size ≠ 0 then some ((low / size + 1) * size - 1)
  else if high % size ≠ size - 1 then some (high / size * size - 1)
  else none

def cut? (low high : Nat) : Option Nat :=
  (lengthCut? low high).orElse fun _ =>
    if high < 0x80 then none
    else [0x40, 0x1000, 0x40000].findSome? (blockCut? low high)

def encodedParts (low high : Nat) : List (Nat × Nat) :=
  match cut? low high with
  | none => [(low, high)]
  | some last =>
    if _h : low ≤ last ∧ last < high then encodedParts low last ++ encodedParts (last + 1) high
    else [(low, high)]
termination_by high - low
decreasing_by all_goals omega

/-- The encodings of a set, each a range of bytes for every place. -/
def utf8Sequences (s : CharSet) : List (List (Nat × Nat)) :=
  s.ranges.flatMap fun (low, high) =>
    (encodedParts low high).map fun (first, last) => (utf8Bytes first).zip (utf8Bytes last)

end JsonSchema.Unicode
