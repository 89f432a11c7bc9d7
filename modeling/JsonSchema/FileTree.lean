import JsonSchema.Text.Parts

namespace JsonSchema

/-- A place, as the names that lead to it from the root. -/
abbrev Place := List String

inductive Content
  | text (s : String)
  /-- Bytes that are the UTF-8 form of no text. -/
  | noText
  deriving DecidableEq

def Content.text? : Content → Option String
  | .text s => some s
  | .noText => none

/-- Files and directories, and the working directory. What is around the working directory, around a
file or around a directory that was made is a directory too and needs no mention. Whoever runs a
program may read and write everything. -/
structure FileTree where
  home : Place
  files : List (Place × Content)
  made : List Place

namespace FileTree

def names (path : String) : List String :=
  (Text.parts '/' path.toList).map String.ofList

/-- The names in a path text without those that lead nowhere new. -/
def steps (path : String) : List String :=
  (names path).filter fun name => name ≠ "" && name ≠ "."

def workplace : Place := ["work"]

def ofFiles (files : List (String × String)) : FileTree where
  home := workplace
  files := files.map fun (path, text) => (workplace ++ steps path, .text text)
  made := []

def mentioned (t : FileTree) : List Place :=
  t.home :: t.files.map Prod.fst ++ t.made

def isFile (t : FileTree) (p : Place) : Bool :=
  (t.files.lookup p).isSome

def isDirectory (t : FileTree) (p : Place) : Bool :=
  p = t.home || t.made.contains p ||
    t.mentioned.any fun q => p.length < q.length && p.isPrefixOf q

def longestPath : Nat := 4095

/-- Follows names from a place on. The place that the last name leads to may be empty. -/
def follow (t : FileTree) (p : Place) : List String → Option Place
  | [] => some p
  | name :: rest =>
    if !t.isDirectory p then none
    else if name = "" || name = "." then t.follow p rest
    else if name = ".." then t.follow p.dropLast rest
    else t.follow (p ++ [name]) rest

def start (t : FileTree) (path : String) : Place :=
  if path.startsWith "/" then [] else t.home

def resolve (t : FileTree) (path : String) : Option Place :=
  if path.isEmpty || path.utf8ByteSize > longestPath then none
  else t.follow (t.start path) (names path)

def read? (t : FileTree) (path : String) : Option String :=
  ((t.resolve path).bind fun p => t.files.lookup p).bind Content.text?

def directoryAt (t : FileTree) (path : String) : Bool :=
  (t.resolve path).any t.isDirectory

def existsAt (t : FileTree) (path : String) : Bool :=
  (t.resolve path).any fun p => t.isFile p || t.isDirectory p

def dropRepeats [DecidableEq α] : List α → List α
  | a :: b :: rest => if a = b then dropRepeats (b :: rest) else a :: dropRepeats (b :: rest)
  | short => short

/-- Whether a place comes before another or is the same. Names are compared one after the other, and
a directory comes before what it holds. -/
def inOrder : Place → Place → Bool
  | [], _ => true
  | _ :: _, [] => false
  | a :: p, b :: q => if a = b then inOrder p q else decide (a.toList < b.toList)

def below (t : FileTree) (p : Place) : List Place :=
  let relative := (t.mentioned.filter p.isPrefixOf).map (·.drop p.length)
  let all := relative.flatMap fun q => (List.range q.length).map fun n => q.take (n + 1)
  dropRepeats (all.mergeSort inOrder)

def children (t : FileTree) (p : Place) : List String :=
  (t.below p).filterMap fun
    | [name] => some name
    | _ => none

/-- Whether a file or directory can be made under the last name of a place: one of at most 255 bytes
without a zero character. -/
def canMake (p : Place) : Bool :=
  p.getLast?.any fun name => name.utf8ByteSize ≤ 255 && !name.toList.contains '\x00'

/-- Makes the directories on the way along some names, as far as they are missing, and tells whether
all of them are there in the end. Those in front of an obstacle stay. -/
def makeFrom (t : FileTree) (p : Place) : List String → FileTree × Bool
  | [] => (t, true)
  | name :: rest =>
    if name = ".." then t.makeFrom p.dropLast rest
    else
      let next := p ++ [name]
      if t.isDirectory next then t.makeFrom next rest
      else if t.isFile next || !canMake next then (t, false)
      else { t with made := t.made ++ [next] }.makeFrom next rest

def withoutIdleEnd (names : List String) : List String :=
  (names.reverse.dropWhile fun name => name = "" || name = ".").reverse

def aroundPath (path : String) : String :=
  "/".intercalate (withoutIdleEnd (withoutIdleEnd (names path)).dropLast)

def makeAround (t : FileTree) (path : String) : FileTree × Bool :=
  match (steps path).dropLast with
  | [] => (t, true)
  | around =>
    if (aroundPath path).utf8ByteSize > longestPath || path.toList.contains '\x00' then (t, false)
    else t.makeFrom (t.start path) around

def put (p : Place) (content : Content) : List (Place × Content) → List (Place × Content)
  | [] => [(p, content)]
  | (q, old) :: rest => if q = p then (p, content) :: rest else (q, old) :: put p content rest

def write? (t : FileTree) (path text : String) : Option FileTree :=
  match (names path).getLast? with
  | none | some "" | some "." | some ".." => none
  | some _ => do
    let p ← t.resolve path
    if t.isDirectory p || !canMake p then none
    else some { t with files := put p (.text text) t.files }

def pathText (p : Place) : String := "/".intercalate p

def pathTo (t : FileTree) (p : Place) : String :=
  if t.home.isPrefixOf p then pathText (p.drop t.home.length) else "/" ++ pathText p

def changes (before after : FileTree) : List (String × String) :=
  after.files.filterMap fun (p, content) =>
    if before.files.lookup p = some content then none
    else content.text?.map fun text => (after.pathTo p, text)

end FileTree
end JsonSchema
