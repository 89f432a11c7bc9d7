import JsonSchema.Proofs.Json.Space
import JsonSchema.Proofs.Value.Readback
import JsonSchema.Value.Pretty

namespace JsonSchema
namespace Json

open Value (newLine prettyChars prettyElements prettyMembers elementTokens memberTokens)

/-- What stands at the start of a line is not seen between tokens. -/
theorem tokensFrom_newLine (depth : Nat) (rest : List Char) :
    tokensFrom .between (newLine depth ++ rest) = tokensFrom .between rest := by
  have hspace (n : Nat) : tokensFrom .between (List.replicate n ' ' ++ rest) =
      tokensFrom .between rest := by
    induction n with
    | zero => rfl
    | succ n ih => exact ih
  exact hspace (2 * depth)

theorem delimited_newLine (depth : Nat) (rest : List Char) :
    Delimited (newLine depth ++ rest) := by
  rintro _ ⟨⟩
  decide

/-- Inside however many containers a value is written, its text is cut into its tokens. -/
def PrettyTokenized (v : Value) : Prop :=
  ∀ depth rest, Delimited rest →
    tokensFrom .between (v.prettyChars depth ++ rest) = v.tokens ++ tokensFrom .between rest

/-- Behind an element there is a comma, or the line with the end of the array. -/
theorem delimited_prettyElements (elements : List Value) (depth outer : Nat) (rest : List Char) :
    Delimited (prettyElements depth elements ++ (newLine outer ++ rest)) := by
  cases elements with
  | nil => exact delimited_newLine outer rest
  | cons v more => exact delimited_cons (by decide) _

theorem delimited_prettyMembers (members : Members) (depth outer : Nat) (rest : List Char) :
    Delimited (prettyMembers depth members ++ (newLine outer ++ rest)) := by
  cases members with
  | nil => exact delimited_newLine outer rest
  | cons m more => exact delimited_cons (by decide) _

theorem tokensFrom_prettyElements {elements : List Value}
    (h : ∀ v ∈ elements, PrettyTokenized v) (depth outer : Nat) (rest : List Char) :
    tokensFrom .between (prettyElements depth elements ++ (newLine outer ++ ']' :: rest)) =
      elementTokens false elements ++ .closeArray :: tokensFrom .between rest := by
  induction elements with
  | nil => exact tokensFrom_newLine outer _
  | cons v more ih =>
    have hv := h v List.mem_cons_self depth _
      (delimited_prettyElements more depth outer (']' :: rest))
    have hmore := ih fun w hw => h w (List.mem_cons_of_mem _ hw)
    simp only [prettyElements, elementTokens, List.append_assoc, List.cons_append,
      tokensFrom_comma, tokensFrom_newLine, hv, hmore]
    rfl

/-- The name of a member, its colon, and the space that stands behind this. -/
theorem tokensFrom_name (name : String) (rest : List Char) :
    tokensFrom .between (Value.quoted name ++ ':' :: ' ' :: rest) =
      .string (some name) :: .colon :: tokensFrom .between rest := by
  rw [tokensFrom_quoted]
  rfl

theorem tokensFrom_prettyMembers {members : Members}
    (h : ∀ m ∈ members, PrettyTokenized m.2) (depth outer : Nat) (rest : List Char) :
    tokensFrom .between (prettyMembers depth members ++ (newLine outer ++ '\x7d' :: rest)) =
      memberTokens false members ++ .closeObject :: tokensFrom .between rest := by
  induction members with
  | nil => exact tokensFrom_newLine outer _
  | cons m more ih =>
    obtain ⟨name, v⟩ := m
    have hv := h (name, v) List.mem_cons_self depth _
      (delimited_prettyMembers more depth outer ('\x7d' :: rest))
    have hmore := ih fun w hw => h w (List.mem_cons_of_mem _ hw)
    simp only [prettyMembers, memberTokens, List.append_assoc, List.cons_append,
      tokensFrom_comma, tokensFrom_newLine, tokensFrom_name, hv, hmore]
    rfl

theorem prettyTokenized {v : Value} (h : v.Integers) : PrettyTokenized v := by
  induction v using Value.nested_induction with
  | null | bool _ | number _ | string _ => exact fun _ rest hrest => tokenized h rest hrest
  | array elements ih =>
    intro depth rest hrest
    cases elements with
    | nil => exact tokenized h rest hrest
    | cons v more =>
      have hall : ∀ w ∈ v :: more, PrettyTokenized w := fun w hw => ih w hw (h.element hw)
      have hv := hall v List.mem_cons_self (depth + 1) _
        (delimited_prettyElements more (depth + 1) depth (']' :: rest))
      have hmore := tokensFrom_prettyElements (fun w hw => hall w (List.mem_cons_of_mem _ hw))
        (depth + 1) depth rest
      have hopen (rest : List Char) :
          tokensFrom .between ('[' :: rest) = .openArray :: tokensFrom .between rest := rfl
      simp [prettyChars, Value.tokens, elementTokens, hopen, tokensFrom_newLine, hv, hmore]
  | object members ih =>
    intro depth rest hrest
    cases members with
    | nil => exact tokenized h rest hrest
    | cons m more =>
      obtain ⟨name, v⟩ := m
      have hall : ∀ w ∈ (name, v) :: more, PrettyTokenized w.2 :=
        fun w hw => ih w hw (h.member hw)
      have hv := hall (name, v) List.mem_cons_self (depth + 1) _
        (delimited_prettyMembers more (depth + 1) depth ('\x7d' :: rest))
      have hmore := tokensFrom_prettyMembers (fun w hw => hall w (List.mem_cons_of_mem _ hw))
        (depth + 1) depth rest
      have hopen (rest : List Char) :
          tokensFrom .between ('\x7b' :: rest) = .openObject :: tokensFrom .between rest := rfl
      simp [prettyChars, Value.tokens, memberTokens, hopen, tokensFrom_newLine, tokensFrom_name,
        hv, hmore]

end Json

namespace Value

/-- What a text has to be written from so that it reads back, with at most `n` containers inside
each other. -/
structure Rereads (n : Nat) (v : Value) : Prop where
  names : v.UniqueNames
  numbers : v.Integers
  depth : v.depth ≤ n

namespace Rereads
variable {n : Nat}

theorem bool (b : Bool) : (Value.bool b).Rereads n where
  names := trivial
  numbers := (throughout_atom rfl).mpr (by simp)
  depth := Nat.zero_le n

theorem string (s : String) : (Value.string s).Rereads n where
  names := trivial
  numbers := (throughout_atom rfl).mpr (by simp)
  depth := Nat.zero_le n

theorem unsigned (u : UInt64) : (Value.number (.unsigned u)).Rereads n where
  names := trivial
  numbers := by
    refine (throughout_atom rfl).mpr ?_
    rintro _ ⟨⟩
    exact ⟨trivial, rfl⟩
  depth := Nat.zero_le n

theorem array {elements : List Value} (h : ∀ v ∈ elements, v.Rereads n) :
    (Value.array elements).Rereads (n + 1) where
  names := uniqueNames_array.mpr fun v hv => (h v hv).names
  numbers := throughout_array.mpr ⟨by simp, fun v hv => (h v hv).numbers⟩
  depth := Nat.succ_le_succ (depthAll_le.mpr fun v hv => (h v hv).depth)

theorem object {members : Members} (hnames : (members.map Prod.fst).Nodup)
    (h : ∀ m ∈ members, m.2.Rereads n) : (Value.object members).Rereads (n + 1) where
  names := uniqueNames_object.mpr ⟨hnames, fun m hm => (h m hm).names⟩
  numbers := throughout_object.mpr ⟨by simp, fun m hm => (h m hm).numbers⟩
  depth := Nat.succ_le_succ (depthIn_le.mpr fun m hm => (h m hm).depth)

/-- The text over several lines reads back as the value, just as the text on one line does. -/
theorem prettyText {v : Value} (h : v.Rereads 127) : parse? v.prettyText = some v := by
  refine parse?_of_tokens h.names h.depth ?_
  have hall := Json.prettyTokenized h.numbers 0 [] Json.Delimited.nil
  rw [List.append_nil] at hall
  rw [Json.tokens, Value.prettyText, String.toList_ofList, hall]
  exact List.append_nil _

end Rereads
end Value
end JsonSchema
