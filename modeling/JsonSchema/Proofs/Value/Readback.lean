import JsonSchema.Json.Reader
import JsonSchema.Proofs.Json.Numeral
import JsonSchema.Proofs.Json.Quoted

namespace JsonSchema

theorem Members.insert_new {members : Members} {name : String}
    (h : name ∉ members.map Prod.fst) (v : Value) :
    members.insert name v = members ++ [(name, v)] := by
  induction members with
  | nil => rfl
  | cons m rest ih =>
    rw [List.map_cons, List.mem_cons, not_or] at h
    rw [Members.insert, if_neg (Ne.symm h.1), ih h.2, List.cons_append]

namespace Value

mutual

def depth : Value → Nat
  | .array elements => depthAll elements + 1
  | .object members => depthIn members + 1
  | _ => 0
termination_by structural v => v

def depthAll : List Value → Nat
  | [] => 0
  | v :: rest => max (depth v) (depthAll rest)
termination_by structural elements => elements

def depthIn : Members → Nat
  | [] => 0
  | (_, v) :: rest => max (depth v) (depthIn rest)
termination_by structural members => members

end

theorem depthAll_le {elements : List Value} {n : Nat} :
    depthAll elements ≤ n ↔ ∀ v ∈ elements, v.depth ≤ n := by
  induction elements with
  | nil => simp [depthAll]
  | cons v rest ih => simp [depthAll, ih]

theorem depthIn_le {members : Members} {n : Nat} :
    depthIn members ≤ n ↔ ∀ m ∈ members, m.2.depth ≤ n := by
  induction members with
  | nil => simp [depthIn]
  | cons m rest ih => simp [depthIn, ih]

/-- All numbers inside are integers of the machine ranges, the signed ones below zero. -/
def Integers (v : Value) : Prop :=
  v.Throughout fun x => ∀ n, x = .number n → n.Canonical ∧ n.toInt?.isSome = true

mutual

def tokens : Value → List Json.Token
  | .null => [.null]
  | .bool b => [.bool b]
  | .number n => [.number (some n)]
  | .string s => [.string (some s)]
  | .array elements => .openArray :: elementTokens true elements ++ [.closeArray]
  | .object members => .openObject :: memberTokens true members ++ [.closeObject]
termination_by structural v => v

def elementTokens (first : Bool) : List Value → List Json.Token
  | [] => []
  | v :: rest => (if first then [] else [.comma]) ++ tokens v ++ elementTokens false rest
termination_by structural elements => elements

def memberTokens (first : Bool) : Members → List Json.Token
  | [] => []
  | (name, v) :: rest =>
    (if first then [] else [.comma]) ++ .string (some name) :: .colon :: tokens v
      ++ memberTokens false rest
termination_by structural members => members

end
end Value

namespace Json
open Value (chars elementChars memberChars elementTokens memberTokens)

/-- The text of a number leads to the number. -/
theorem tokensFrom_number {n : Number} (hc : n.Canonical) (hn : n.toInt?.isSome = true)
    {rest : List Char} (hrest : Delimited rest) :
    tokensFrom .between (n.jsonText.toList ++ rest) =
      .number (some n) :: tokensFrom .between rest := by
  cases n with
  | unsigned u =>
    have h := (Numeral.ofNat false u.toNat).tokensFrom_chars hrest
    rwa [Numeral.numberOfLiteral?_unsigned, Numeral.chars_ofNat] at h
  | signed i =>
    have h := (Numeral.ofNat true i.toInt.natAbs).tokensFrom_chars hrest
    rwa [Numeral.numberOfLiteral?_signed hc, Numeral.chars_ofNat_negative hc] at h
  | float x => cases hn

def isSeparator (c : Char) : Bool := c = ',' || c = ']' || c = '\x7d'

theorem delimited_cons {c : Char} (h : isSeparator c = true) (rest : List Char) :
    Delimited (c :: rest) := by
  simp only [isSeparator, Bool.or_eq_true, decide_eq_true_eq] at h
  intro d hd
  cases hd
  rcases h with (rfl | rfl) | rfl <;> decide

/-- What follows an element starts with a comma or with the end of the array. -/
theorem delimited_elements (elements : List Value) (rest : List Char) :
    Delimited (elementChars false elements ++ ']' :: rest) := by
  cases elements with
  | nil => exact delimited_cons (by decide) _
  | cons v more => exact delimited_cons (by decide) _

theorem delimited_members (members : Members) (rest : List Char) :
    Delimited (memberChars false members ++ '\x7d' :: rest) := by
  cases members with
  | nil => exact delimited_cons (by decide) _
  | cons m more => exact delimited_cons (by decide) _

theorem tokensFrom_comma (rest : List Char) :
    tokensFrom .between (',' :: rest) = .comma :: tokensFrom .between rest := rfl

def Tokenized (v : Value) : Prop :=
  ∀ rest, Delimited rest →
    tokensFrom .between (v.chars ++ rest) = v.tokens ++ tokensFrom .between rest

theorem tokensFrom_elements {elements : List Value} (h : ∀ v ∈ elements, Tokenized v)
    (first : Bool) (rest : List Char) :
    tokensFrom .between (elementChars first elements ++ ']' :: rest) =
      elementTokens first elements ++ .closeArray :: tokensFrom .between rest := by
  induction elements generalizing first with
  | nil => rfl
  | cons v more ih =>
    have hv := h v List.mem_cons_self _ (delimited_elements more rest)
    have hmore := ih (fun w hw => h w (List.mem_cons_of_mem _ hw)) false
    cases first with
    | true => simp [elementChars, elementTokens, hv, hmore]
    | false => simp [elementChars, elementTokens, tokensFrom_comma, hv, hmore]

theorem tokensFrom_members {members : Members} (h : ∀ m ∈ members, Tokenized m.2)
    (first : Bool) (rest : List Char) :
    tokensFrom .between (memberChars first members ++ '\x7d' :: rest) =
      memberTokens first members ++ .closeObject :: tokensFrom .between rest := by
  induction members generalizing first with
  | nil => rfl
  | cons m more ih =>
    obtain ⟨name, v⟩ := m
    have hv := h (name, v) List.mem_cons_self _ (delimited_members more rest)
    have hmore := ih (fun w hw => h w (List.mem_cons_of_mem _ hw)) false
    have hcolon (rest : List Char) :
        tokensFrom .between (':' :: rest) = .colon :: tokensFrom .between rest := rfl
    cases first with
    | true => simp [memberChars, memberTokens, tokensFrom_quoted, hcolon, hv, hmore]
    | false =>
      simp [memberChars, memberTokens, tokensFrom_comma, tokensFrom_quoted, hcolon, hv, hmore]

theorem tokenized {v : Value} (h : v.Integers) : Tokenized v := by
  induction v using Value.nested_induction with
  | null => exact fun _ _ => rfl
  | bool b => cases b <;> exact fun _ _ => rfl
  | number n =>
    obtain ⟨hc, hn⟩ := h.self n rfl
    exact fun _ hrest => tokensFrom_number hc hn hrest
  | string s => exact fun rest _ => tokensFrom_quoted s rest
  | array elements ih =>
    intro rest _
    have hall : ∀ v ∈ elements, Tokenized v := fun v hv => ih v hv (h.element hv)
    have htail := tokensFrom_elements hall true rest
    simpa [chars, Value.tokens, tokensFrom, beginWith, start] using htail
  | object members ih =>
    intro rest _
    have hall : ∀ m ∈ members, Tokenized m.2 := fun m hm => ih m hm (h.member hm)
    have htail := tokensFrom_members hall true rest
    simpa [chars, Value.tokens, tokensFrom, beginWith, start] using htail

def resume (limit : Nat) (progress : Progress) (rest : List Token) :
    Except Trail (Value × List Token) :=
  match progress with
  | .complete v => .ok (v, rest)
  | .more expect frames => read limit expect frames rest

section Read
variable {limit : Nat} {expect : Expect} {frames : List Frame}

theorem read_token {token : Token} {progress : Progress}
    (h : step? limit expect frames token = some progress) (rest : List Token) :
    read limit expect frames (token :: rest) = resume limit progress rest := by
  rw [read, h]
  cases progress <;> rfl

def Expect.startsValue : Expect → Bool
  | .value | .firstElement | .element => true
  | _ => false

theorem step?_begin (hexpect : expect.startsValue = true) {token : Token}
    (ht : token ≠ .closeArray) : step? limit expect frames token = begin? limit frames token := by
  cases expect with
  | value | element => rfl
  | firstElement => cases token <;> first | rfl | exact absurd rfl ht
  | _ => cases hexpect

/-- The tokens of a value are put together to the value, wherever the limit of depth allows it. -/
def Readable (limit : Nat) (v : Value) : Prop :=
  ∀ (expect : Expect) (frames : List Frame) (rest : List Token), expect.startsValue = true →
    frames.length + v.depth ≤ limit →
    read limit expect frames (v.tokens ++ rest) = resume limit (settle v frames) rest

theorem read_elements {elements : List Value} (h : ∀ v ∈ elements, Readable limit v)
    (hdepth : ∀ v ∈ elements, frames.length + 1 + v.depth ≤ limit) (reversed : List Value)
    (rest : List Token) :
    read limit .separator (.array reversed :: frames)
        (elementTokens false elements ++ .closeArray :: rest) =
      resume limit (settle (.array (reversed.reverse ++ elements)) frames) rest := by
  induction elements generalizing reversed with
  | nil =>
    rw [List.append_nil]
    exact read_token rfl rest
  | cons v more ih =>
    have hv := h v List.mem_cons_self .element (.array reversed :: frames)
      (elementTokens false more ++ .closeArray :: rest) rfl (hdepth v List.mem_cons_self)
    have hmore := ih (fun w hw => h w (List.mem_cons_of_mem _ hw))
      (fun w hw => hdepth w (List.mem_cons_of_mem _ hw)) (v :: reversed)
    have htokens : elementTokens false (v :: more) ++ .closeArray :: rest =
        .comma :: (v.tokens ++ (elementTokens false more ++ .closeArray :: rest)) := by
      simp [elementTokens]
    have hcomma : step? limit .separator (.array reversed :: frames) .comma =
        some (.more .element (.array reversed :: frames)) := rfl
    rw [htokens, read_token hcomma, resume, hv]
    simpa [resume, settle, Frame.add] using hmore

theorem read_array {elements : List Value} (h : ∀ v ∈ elements, Readable limit v)
    (hdepth : ∀ v ∈ elements, frames.length + 1 + v.depth ≤ limit) (rest : List Token) :
    read limit .firstElement (.array [] :: frames)
        (elementTokens true elements ++ .closeArray :: rest) =
      resume limit (settle (.array elements) frames) rest := by
  cases elements with
  | nil => exact read_token rfl rest
  | cons v more =>
    have hv := h v List.mem_cons_self .firstElement (.array [] :: frames)
      (elementTokens false more ++ .closeArray :: rest) rfl (hdepth v List.mem_cons_self)
    have hmore := read_elements (fun w hw => h w (List.mem_cons_of_mem _ hw))
      (fun w hw => hdepth w (List.mem_cons_of_mem _ hw)) [v] rest
    have htokens : elementTokens true (v :: more) ++ .closeArray :: rest =
        v.tokens ++ (elementTokens false more ++ .closeArray :: rest) := by
      simp [elementTokens]
    rw [htokens, hv]
    simpa [resume, settle, Frame.add] using hmore

/-- The content of a member whose name is new goes behind the members before it. -/
theorem read_content {before : Members} {name old : String} {v : Value} (hv : Readable limit v)
    (hdepth : frames.length + 1 + v.depth ≤ limit) (hnew : name ∉ before.map Prod.fst)
    (hexpect : expect = .firstName ∨ expect = .name) (rest : List Token) :
    read limit expect (.object before old :: frames)
        (.string (some name) :: .colon :: (v.tokens ++ rest)) =
      read limit .separator (.object (before ++ [(name, v)]) name :: frames) rest := by
  have hname : step? limit expect (.object before old :: frames) (.string (some name)) =
      some (.more .colon (.object before name :: frames)) := by
    rcases hexpect with rfl | rfl <;> rfl
  have hcolon : step? limit .colon (.object before name :: frames) .colon =
      some (.more .value (.object before name :: frames)) := rfl
  have hvalue := hv .value (.object before name :: frames) rest rfl hdepth
  rw [read_token hname, resume, read_token hcolon, resume, hvalue, settle, Frame.add,
    Members.insert_new hnew, resume]

theorem read_members {members : Members} (h : ∀ m ∈ members, Readable limit m.2)
    (hdepth : ∀ m ∈ members, frames.length + 1 + m.2.depth ≤ limit) (before : Members)
    (hnames : ((before ++ members).map Prod.fst).Nodup) (name : String) (rest : List Token) :
    read limit .separator (.object before name :: frames)
        (memberTokens false members ++ .closeObject :: rest) =
      resume limit (settle (.object (before ++ members)) frames) rest := by
  induction members generalizing before name with
  | nil =>
    rw [List.append_nil]
    exact read_token rfl rest
  | cons m more ih =>
    obtain ⟨next, v⟩ := m
    have hnew : next ∉ before.map Prod.fst := by
      rw [List.map_append, List.nodup_append] at hnames
      exact fun hin => hnames.2.2 next hin next (by simp) rfl
    have hnames : ((before ++ [(next, v)] ++ more).map Prod.fst).Nodup := by
      rwa [List.append_assoc]
    have hmore := ih (fun w hw => h w (List.mem_cons_of_mem _ hw))
      (fun w hw => hdepth w (List.mem_cons_of_mem _ hw)) _ hnames next
    have htokens : memberTokens false ((next, v) :: more) ++ .closeObject :: rest =
        .comma :: .string (some next) :: .colon ::
          (v.tokens ++ (memberTokens false more ++ .closeObject :: rest)) := by
      simp [memberTokens]
    have hcomma : step? limit .separator (.object before name :: frames) .comma =
        some (.more .name (.object before name :: frames)) := rfl
    rw [htokens, read_token hcomma, resume,
      read_content (h _ List.mem_cons_self) (hdepth _ List.mem_cons_self) hnew (.inr rfl), hmore,
      List.append_assoc]
    rfl

theorem read_object {members : Members} (h : ∀ m ∈ members, Readable limit m.2)
    (hdepth : ∀ m ∈ members, frames.length + 1 + m.2.depth ≤ limit)
    (hnames : (members.map Prod.fst).Nodup) (rest : List Token) :
    read limit .firstName (.object [] "" :: frames)
        (memberTokens true members ++ .closeObject :: rest) =
      resume limit (settle (.object members) frames) rest := by
  cases members with
  | nil => exact read_token rfl rest
  | cons m more =>
    obtain ⟨name, v⟩ := m
    have hmore := read_members (fun w hw => h w (List.mem_cons_of_mem _ hw))
      (fun w hw => hdepth w (List.mem_cons_of_mem _ hw)) [(name, v)] hnames name rest
    have htokens : memberTokens true ((name, v) :: more) ++ .closeObject :: rest =
        .string (some name) :: .colon ::
          (v.tokens ++ (memberTokens false more ++ .closeObject :: rest)) := by
      simp [memberTokens]
    rw [htokens, read_content (h _ List.mem_cons_self) (hdepth _ List.mem_cons_self) (by simp)
      (.inl rfl)]
    exact hmore

end Read

theorem readable {v : Value} (hnames : v.UniqueNames) (limit : Nat) : Readable limit v := by
  induction v using Value.nested_induction with
  | null | bool _ | number _ | string _ =>
    intro expect frames rest hexpect _
    exact read_token (step?_begin hexpect (by simp)) rest
  | array elements ih =>
    intro expect frames rest hexpect hdepth
    rw [Value.depth] at hdepth
    have hin := Value.depthAll_le.mp (Nat.le_refl (Value.depthAll elements))
    have hopen : step? limit expect frames .openArray =
        some (.more .firstElement (.array [] :: frames)) := by
      rw [step?_begin hexpect (by simp)]
      exact if_pos (by omega)
    have hfits (v : Value) (hv : v ∈ elements) : frames.length + 1 + v.depth ≤ limit := by
      have := hin v hv
      omega
    have hall :=
      read_array (fun v hv => ih v hv (Value.uniqueNames_array.mp hnames v hv)) hfits rest
    have htokens : (Value.array elements).tokens ++ rest =
        .openArray :: (elementTokens true elements ++ .closeArray :: rest) := by
      simp [Value.tokens]
    rw [htokens, read_token hopen]
    exact hall
  | object members ih =>
    intro expect frames rest hexpect hdepth
    rw [Value.depth] at hdepth
    have hin := Value.depthIn_le.mp (Nat.le_refl (Value.depthIn members))
    obtain ⟨hdistinct, hmembers⟩ := Value.uniqueNames_object.mp hnames
    have hopen : step? limit expect frames .openObject =
        some (.more .firstName (.object [] "" :: frames)) := by
      rw [step?_begin hexpect (by simp)]
      exact if_pos (by omega)
    have hfits (m : String × Value) (hm : m ∈ members) :
        frames.length + 1 + m.2.depth ≤ limit := by
      have := hin m hm
      omega
    have hall := read_object (fun m hm => ih m hm (hmembers m hm)) hfits hdistinct rest
    have htokens : (Value.object members).tokens ++ rest =
        .openObject :: (memberTokens true members ++ .closeObject :: rest) := by
      simp [Value.tokens]
    rw [htokens, read_token hopen]
    exact hall

end Json

namespace Value

/-- A text that is cut into the tokens of a value reads back as this value. -/
theorem parse?_of_tokens {v : Value} (hnames : v.UniqueNames) (hdepth : v.depth ≤ 127)
    {text : String} (h : Json.tokens text = v.tokens) : parse? text = some v := by
  have hread : Json.readValue Json.depthLimit v.tokens = .ok (v, []) := by
    have hall := Json.readable hnames Json.depthLimit .value [] [] rfl
      (by rwa [List.length_nil, Nat.zero_add])
    rwa [List.append_nil] at hall
  rw [parse?, h, hread]

/-- The text of a value reads back as this value: the same kinds of number, the same strings, and
the members in the same order. -/
theorem text_reads_back {v : Value} (hnames : v.UniqueNames) (hnumbers : v.Integers)
    (hdepth : v.depth ≤ 127) : parse? v.text = some v := by
  refine parse?_of_tokens hnames hdepth ?_
  have hall := Json.tokenized hnumbers [] Json.Delimited.nil
  rw [List.append_nil] at hall
  rw [Json.tokens, text, String.toList_ofList, hall]
  exact List.append_nil _

/-- The largest and the least integer, an empty name, and a name of characters that are escaped in
three ways. -/
theorem text_reads_back_escaped :
    let v : Value := .object [("\x01\n\"é😀", .array [.number (.unsigned 0xffffffffffffffff),
      .number (.signed (-0x8000000000000000)), .object []]), ("", .bool false)]
    v.text = "\x7b\"\\u0001\\n\\\"é😀\":[18446744073709551615,-9223372036854775808,\x7b\x7d]," ++
        "\"\":false\x7d" ∧
      v.UniqueNames ∧ v.Integers ∧ v.depth = 3 ∧ parse? v.text = some v := by
  intro v
  have hnames : v.UniqueNames := by simp [v, UniqueNames, UniqueNamesAll, UniqueNamesIn]
  have hnumbers : v.Integers := by
    have hb (b : Bool) : (Value.bool b).readings = [.bool b] := rfl
    have hn (n : Number) : (Value.number n).readings = [.number n] := rfl
    simp [v, Integers, throughout_object, throughout_array, throughout_atom (hb _),
      throughout_atom (hn _), Number.Canonical, Number.toInt?]
  have hdepth : v.depth = 3 := by rfl
  exact ⟨by rfl, hnames, hnumbers, hdepth, text_reads_back hnames hnumbers (by rw [hdepth]; decide)⟩

end Value
end JsonSchema
