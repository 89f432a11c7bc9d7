import JsonSchema.FileTree

namespace JsonSchema

inductive Glob.Token
  | char (c : Char)
  | anyChar
  | anyText
  /-- One of the characters in some closed ranges, or one that is in none of them. -/
  | oneOf (negated : Bool) (ranges : List (Char × Char))
  deriving DecidableEq

inductive Glob.Part
  /-- A name without special characters. -/
  | literal (name : String)
  | wild (tokens : List Glob.Token)
  /-- Any number of directories. -/
  | anyDepth
  deriving DecidableEq

/-- A pattern. One with a slash in front starts at the root, and one that ends in a slash stands for
directories only. -/
structure Glob where
  rooted : Bool
  parts : List Glob.Part
  directoriesOnly : Bool

namespace Glob

/-- How far a class in brackets has been read. Its first character is never its end. -/
inductive Bracket
  | outside
  | opened
  | inside (negated : Bool) (reversed : List Char)

def rangesOf : List Char → List (Char × Char)
  | a :: '-' :: b :: rest => (a, b) :: rangesOf rest
  | a :: rest => (a, a) :: rangesOf rest
  | [] => []

/-- The tokens of a name. Every class has to be closed, and two stars may not stand side by side. -/
def tokensFrom? : Bracket → List Char → Option (List Token)
  | .outside, [] => some []
  | _, [] => none
  | .outside, '?' :: rest => (tokensFrom? .outside rest).map (.anyChar :: ·)
  | .outside, '*' :: rest =>
    if rest.head? = some '*' then none else (tokensFrom? .outside rest).map (.anyText :: ·)
  | .outside, '[' :: rest => tokensFrom? .opened rest
  | .outside, c :: rest => (tokensFrom? .outside rest).map (.char c :: ·)
  | .opened, c :: rest =>
    if c = '!' then tokensFrom? (.inside true []) rest else tokensFrom? (.inside false [c]) rest
  | .inside negated reversed, c :: rest =>
    if c = ']' && !reversed.isEmpty then
      (tokensFrom? .outside rest).map (.oneOf negated (rangesOf reversed.reverse) :: ·)
    else tokensFrom? (.inside negated (c :: reversed)) rest

def plain? (tokens : List Token) : Option (List Char) :=
  tokens.mapM fun
    | .char c => some c
    | _ => none

def Part.parse? (name : List Char) : Option Part :=
  if name = ['*', '*'] then some .anyDepth
  else (tokensFrom? .outside name).map fun tokens =>
    match plain? tokens with
    | some cs => .literal (String.ofList cs)
    | none => .wild tokens

def joinDepths : List Part → List Part
  | .anyDepth :: .anyDepth :: rest => joinDepths (.anyDepth :: rest)
  | part :: rest => part :: joinDepths rest
  | [] => []

/-- The names in a pattern. The slash in front and the one at the end have no name beside them, but
the pattern has one name at least. -/
def patternNames (pattern : String) : List (List Char) :=
  let names := Text.parts '/' pattern.toList
  let names := if pattern.startsWith "/" then names.tail else names
  if pattern.endsWith "/" && 1 < names.length then names.dropLast else names

def parse? (pattern : String) : Option Glob := do
  let parts ← (patternNames pattern).mapM Part.parse?
  pure ⟨pattern.startsWith "/", joinDepths parts, pattern.endsWith "/"⟩

def Token.allows (token : Token) (c : Char) : Bool :=
  match token with
  | .char d => c = d
  | .anyChar => true
  | .anyText => false
  | .oneOf negated ranges => negated != ranges.any fun (low, high) => low ≤ c && c ≤ high

def tails : List Char → List (List Char)
  | [] => [[]]
  | c :: rest => (c :: rest) :: tails rest

def Token.leave (token : Token) (ends : List (List Char)) : List (List Char) :=
  match token, ends with
  | .anyText, [] => []
  | .anyText, longest :: _ => tails longest
  | _, _ => ends.filterMap fun
    | [] => none
    | c :: rest => if token.allows c then some rest else none

def tokensMatch (tokens : List Token) (name : String) : Bool :=
  (tokens.foldl (fun ends token => token.leave ends) [name.toList]).contains []

def Part.matches (part : Part) (name : String) : Bool :=
  match part with
  | .literal s => s = name
  | .wild tokens => tokensMatch tokens name
  | .anyDepth => true

def join (path name : String) : String :=
  if path.isEmpty || path.endsWith "/" then path ++ name else path ++ "/" ++ name

def isHere (path : String) : Bool :=
  match FileTree.names path with
  | "." :: rest => rest.all fun name => name = "." || name = ""
  | _ => false

def enter (path name : String) : String :=
  if isHere path then name else join path name

/-- The names `..` and `.`, as far as a part stands for them. It can do so only with a literal point
in front. -/
def pointNames (tokens : List Token) : List String :=
  if tokens.head? = some (.char '.') then ["..", "."].filter (tokensMatch tokens) else []

def expand (t : FileTree) : List Part → String → List String
  | [], path => [path]
  | .literal name :: rest, path =>
    let next := enter path name
    let found := if name = "." || name = ".." then t.directoryAt path else t.existsAt next
    if found then expand t rest next else []
  | .wild tokens :: rest, path =>
    match t.resolve path with
    | none => []
    | some p =>
      if t.isDirectory p then
        (pointNames tokens).flatMap (fun name => expand t rest (join path name)) ++
          ((t.children p).filter (tokensMatch tokens)).flatMap fun name =>
            expand t rest (enter path name)
      else []
  | [.anyDepth], path =>
    match t.resolve path with
    | none => []
    | some p => ((t.below p).filter fun q => t.isDirectory (p ++ q)).map fun q =>
      enter path (FileTree.pathText q)
  | .anyDepth :: part :: rest, path =>
    match t.resolve path with
    | none => []
    | some p => ((t.below p).filter fun q => q.getLast?.any part.matches).flatMap fun q =>
      expand t rest (enter path (FileTree.pathText q))

def paths (g : Glob) (t : FileTree) : List String :=
  let start := if g.rooted then "/" else "."
  (expand t g.parts start).filter fun path => !g.directoriesOnly || t.directoryAt path

end Glob
end JsonSchema
