import JsonSchema.Pointer

namespace JsonSchema

abbrev InstancePath := List String

structure Failure where
  keyword : String
  path : InstancePath
  message : String
  deriving DecidableEq

def Failure.text (f : Failure) : String :=
  let place := Pointer.text f.path
  (if place = "" then "/" else place) ++ ": " ++ f.message ++ " (" ++ f.keyword ++ ")"

structure Report where
  valid : Bool
  failures : List Failure
  deriving DecidableEq

namespace Report

def empty : Report := ⟨true, []⟩

def fail (r : Report) (f : Failure) : Report :=
  ⟨false, r.failures ++ [f]⟩

def first? (r : Report) : Option Failure := r.failures.head?

end Report

/-- A walk through an instance: where it stands and what it has found. -/
structure Walk where
  path : InstancePath
  report : Report

namespace Walk

def start : Walk := ⟨[], .empty⟩

def push (w : Walk) (segment : String) : Walk :=
  { w with path := w.path ++ [segment] }

def pop (w : Walk) : Walk :=
  { w with path := w.path.dropLast }

def fail (w : Walk) (keyword message : String) : Walk :=
  { w with report := w.report.fail ⟨keyword, w.path, message⟩ }

def isRoot (w : Walk) : Bool := w.path.isEmpty

end Walk
end JsonSchema
