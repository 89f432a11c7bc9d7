import JsonSchema.Proofs.Pointer.Lookup
import JsonSchema.Proofs.Schema.WellFormed

namespace JsonSchema

namespace Draft4
open Pointer (Step follow?)

/-- Something that a walk comes to the end of: the schema that it is in, the keyword that it is
blamed under, and whether it is as it has to be. -/
structure Stop where
  place : List String
  keyword : String
  fine : Prop

def siblingStops (place : List String) (siblings : Members) (name : String) : List Stop :=
  match siblings.lookup name with
  | some v => [⟨place, name, ∃ flag, v = .bool flag⟩]
  | none => []

mutual

/-- The stops of a walk through a schema document at some place: those at its keywords in
declaration order, and then the one at its end. -/
def walk (place : List String) (document : Value) : List Stop :=
  match document with
  | .object members =>
    (members.flatMap fun m =>
      match Builtin.named? m.1 with
      | some b => walkInside place members b m.2 ++ [⟨place, m.1, Fits b members m.2⟩]
      | none => []) ++ [⟨place, "schema", WellFormed (.object members)⟩]
  | other => [⟨place, "schema", WellFormed other⟩]
termination_by (sizeOf document, 0)
decreasing_by exact Prod.Lex.left _ _ (Value.smaller_in_object ‹_›)

def walkInside (place : List String) (siblings : Members) (b : Builtin) (value : Value) :
    List Stop :=
  match b, value with
  | .properties, .object documents =>
    documents.flatMap fun m => walk (place ++ ["properties", m.1]) m.2
  | .items, .array documents =>
    documents.zipIdx.attach.flatMap fun p => walk (place ++ ["items", toString p.val.2]) p.val.1
  | .items, document => walk (place ++ ["items"]) document
  | .minimum, .number _ => siblingStops place siblings "exclusiveMinimum"
  | .maximum, .number _ => siblingStops place siblings "exclusiveMaximum"
  | _, _ => []
termination_by (sizeOf value, 1)
decreasing_by
  · exact Prod.Lex.left _ _ (Value.smaller_in_object ‹_›)
  · exact Prod.Lex.left _ _ (Value.smaller_in_array (List.fst_mem_of_mem_zipIdx p.property))
  · exact Prod.Lex.right _ (by decide)

end

theorem walkInside_elements (place : List String) (siblings : Members) (documents : List Value) :
    walkInside place siblings .items (.array documents) =
      documents.zipIdx.flatMap fun p => walk (place ++ ["items", toString p.2]) p.1 := by
  rw [walkInside, List.flatMap_subtype
    (g := fun p => walk (place ++ ["items", toString p.2]) p.1) (fun _ _ => rfl),
    List.unattach_attach]

def memberStops (place : List String) (siblings : Members) (m : String × Value) : List Stop :=
  match Builtin.named? m.1 with
  | some b => walkInside place siblings b m.2 ++ [⟨place, m.1, Fits b siblings m.2⟩]
  | none => []

theorem walk_object (place : List String) (members : Members) :
    walk place (.object members) = members.flatMap (memberStops place members) ++
      [⟨place, "schema", WellFormed (.object members)⟩] := by
  rw [walk]
  rfl

theorem memberStops_uses (place : List String) (siblings members : Members) :
    members.flatMap (memberStops place siblings) =
      (Registry.draft4.uses members).flatMap fun use => memberStops place siblings use.2 := by
  induction members with
  | nil => rfl
  | cons m rest ih =>
    have hk := Registry.get?_named m.1
    rw [List.flatMap_cons, ih]
    cases hb : Builtin.named? m.1 with
    | none =>
      rw [hb] at hk
      simp [memberStops, hb, Registry.uses, hk]
    | some b =>
      rw [hb] at hk
      simp [Registry.uses, hk]

theorem memberStops_named (place : List String) (siblings : Members) (b : Builtin)
    (value : Value) : memberStops place siblings (b.name, value) =
      walkInside place siblings b value ++ [⟨place, b.name, Fits b siblings value⟩] := by
  have hb : Builtin.named? b.name = some b := Builtin.named?_eq_some.mpr rfl
  simp only [memberStops, hb]

theorem mem_uses_draft4 {members : Members} {use : Keyword × String × Value}
    (h : use ∈ Registry.draft4.uses members) :
    ∃ (b : Builtin) (value : Value), (b.name, value) ∈ members ∧
      use = (b.keyword, b.name, value) := by
  obtain ⟨hm, hk⟩ := Registry.mem_uses.mp h
  obtain ⟨b, hname, hkeyword⟩ := Registry.get?_draft4.mp hk
  obtain ⟨k, name, value⟩ := use
  obtain rfl : b.name = name := hname
  obtain rfl : b.keyword = k := hkeyword
  exact ⟨b, value, hm, rfl⟩

theorem siblingStops_fine {siblings : Members} {name : String} (h : IsFlag siblings name)
    (place : List String) : ∀ u ∈ siblingStops place siblings name, u.fine := by
  intro u hu
  unfold siblingStops at hu
  split at hu
  · rename_i v hv
    rw [List.mem_singleton.mp hu]
    exact h v hv
  · cases hu

theorem walkInside_fine {siblings : Members} {b : Builtin} {value : Value}
    (hin : ∀ d ∈ value.readings, WellFormed d → ∀ place, ∀ u ∈ walk place d, u.fine)
    (h : Fits b siblings value) (place : List String) :
    ∀ u ∈ walkInside place siblings b value, u.fine := by
  intro u hu
  fun_cases walkInside place siblings b value with
  | case1 documents =>
    rw [walkInside, List.mem_flatMap] at hu
    obtain ⟨m, hm, hu⟩ := hu
    rw [Fits] at h
    exact hin m.2 (Value.member_mem_readings hm) (h m hm) _ u hu
  | case2 documents =>
    rw [walkInside_elements, List.mem_flatMap] at hu
    obtain ⟨p, hp, hu⟩ := hu
    rw [Fits] at h
    have hd := List.fst_mem_of_mem_zipIdx hp
    exact hin p.1 (Value.element_mem_readings hd) (h p.1 hd) _ u hu
  | case3 =>
    rename_i hno
    rw [walkInside] at hu
    · rw [Fits] at h
      · exact hin value value.self_mem_readings h _ u hu
      · exact hno
    · exact hno
  | case4 =>
    rw [walkInside] at hu
    rw [Fits] at h
    exact siblingStops_fine h place u hu
  | case5 =>
    rw [walkInside] at hu
    rw [Fits] at h
    exact siblingStops_fine h place u hu
  | case6 =>
    rw [walkInside] at hu
    · cases hu
    all_goals assumption

/-- A schema that is well formed is so all the way. -/
theorem walk_fine (document : Value) (h : WellFormed document) :
    ∀ place, ∀ u ∈ walk place document, u.fine := by
  induction document using Value.document_induction with
  | other v hv =>
    intro place u hu
    rw [walk] at hu
    · rw [List.mem_singleton.mp hu]
      exact h
    · exact hv
  | object members ih =>
    intro place u hu
    rw [walk_object, List.mem_append] at hu
    rcases hu with hu | hu
    · obtain ⟨m, hm, hu⟩ := List.mem_flatMap.mp hu
      unfold memberStops at hu
      split at hu
      · rename_i b hb
        rw [WellFormed] at h
        have hfits := h m hm b (Builtin.named?_eq_some.mp hb)
        rcases List.mem_append.mp hu with hu | hu
        · exact walkInside_fine (ih m hm) hfits place u hu
        · rw [List.mem_singleton.mp hu]
          exact hfits
      · cases hu
    · rw [List.mem_singleton.mp hu]
      exact h

/-- An error blames one of some stops, and nothing is wrong with the stops before it. -/
def Blames (canonical : Prop) (stops : List Stop) (e : SchemaError) : Prop :=
  ∃ before stop after, stops = before ++ stop :: after ∧
    (∃ problem, e = .invalid ⟨"#", stop.place⟩ stop.keyword problem) ∧
    (canonical → ¬ stop.fine) ∧ ∀ u ∈ before, u.fine

namespace Blames
variable {canonical : Prop} {stops : List Stop} {e : SchemaError}

theorem single {stop : Stop} (he : ∃ problem, e = .invalid ⟨"#", stop.place⟩ stop.keyword problem)
    (h : canonical → ¬ stop.fine) : Blames canonical [stop] e :=
  ⟨[], stop, [], rfl, he, h, by simp⟩

theorem append_left {front : List Stop} (hfront : ∀ u ∈ front, u.fine)
    (h : Blames canonical stops e) : Blames canonical (front ++ stops) e := by
  obtain ⟨before, stop, after, rfl, he, hnot, hfine⟩ := h
  refine ⟨front ++ before, stop, after, by simp, he, hnot, ?_⟩
  intro u hu
  rcases List.mem_append.mp hu with hu | hu
  · exact hfront u hu
  · exact hfine u hu

theorem append_right (h : Blames canonical stops e) (rest : List Stop) :
    Blames canonical (stops ++ rest) e := by
  obtain ⟨before, stop, after, rfl, he, hnot, hfine⟩ := h
  exact ⟨before, stop, after ++ rest, by simp, he, hnot, hfine⟩

theorem imp {other : Prop} (h : Blames canonical stops e) (hc : other → canonical) :
    Blames other stops e := by
  obtain ⟨before, stop, after, hstops, he, hnot, hfine⟩ := h
  exact ⟨before, stop, after, hstops, he, fun ho => hnot (hc ho), hfine⟩

/-- Steps that are taken one after the other, each with stops of its own, blame the first stop at
fault when the steps before it succeed without one. -/
theorem mapM {α β : Type} {f : α → Except SchemaError β} {stopsOf : α → List Stop} {as : List α}
    (hok : ∀ a ∈ as, ∀ b, f a = .ok b → ∀ u ∈ stopsOf a, u.fine)
    (herror : ∀ a ∈ as, FailsAs (Blames canonical (stopsOf a)) (f a)) :
    FailsAs (Blames canonical (as.flatMap stopsOf)) (as.mapM f) := by
  intro e he
  obtain ⟨before, a, after, rfl, ha, hbefore⟩ := mapM_error he
  have hblames := herror a (by simp) e ha
  rw [List.flatMap_append, List.flatMap_cons]
  refine (hblames.append_right _).append_left fun u hu => ?_
  obtain ⟨c, hc, hu⟩ := List.mem_flatMap.mp hu
  obtain ⟨b, hb⟩ := hbefore c hc
  exact hok c (by simp [hc]) b hb u hu

end Blames

theorem walkInside_alone {b : Builtin} {value : Value} (h : b.StandsAlone value)
    (place : List String) (siblings : Members) : walkInside place siblings b value = [] := by
  rw [walkInside]
  all_goals intros; simp_all [Builtin.StandsAlone]

theorem walkInside_modifier {b : Builtin} {name : String} (hb : b.modifier? = some name)
    (place : List String) (siblings : Members) (n : Number) :
    walkInside place siblings b (.number n) = siblingStops place siblings name := by
  cases b <;> simp only [Builtin.modifier?, Option.some.injEq, reduceCtorEq] at hb
  all_goals
    subst hb
    rw [walkInside]

theorem below_below (place : List String) (first second : String) :
    (Location.below ⟨"#", place⟩ [first]).below [second] = ⟨"#", place ++ [first, second]⟩ := by
  simp [Location.below]

/-- A keyword is refused at one of its stops. -/
theorem keyword_blames {b : Builtin} {siblings : Members} {value : Value} {place : List String}
    (hin : ∀ d ∈ value.readings, ∀ place,
      FailsAs (Blames (CanonicalNumbers d) (walk place d))
        (Registry.draft4.compile ⟨"#", place⟩ d)) :
    FailsAs (Blames (CanonicalNumbers value)
        (walkInside place siblings b value ++ [⟨place, b.name, Fits b siblings value⟩]))
      (Registry.draft4.apply b.keyword ⟨siblings, ⟨"#", place⟩⟩ value) := by
  intro e he
  have hnot : CanonicalNumbers value → ¬ Fits b siblings value := by
    intro hc hfits
    have hsite : Fits b (Site.mk siblings ⟨"#", place⟩).members value := hfits
    obtain ⟨rule, hrule⟩ :=
      (keyword_fits b hc.self fun d hd => compile_ok_iff (hc.reading hd)).mpr hsite
    rw [hrule] at he
    cases he
  cases b.refusal _ _ _ e he with
  | own h problem =>
    rw [walkInside_alone h]
    exact .single ⟨problem, rfl⟩ hnot
  | @modifier _ name n v hb hn hv hno problem =>
    subst hn
    have hv : siblings.lookup name = some v := hv
    rw [walkInside_modifier hb, siblingStops, hv]
    refine Blames.append_right (.single ⟨problem, rfl⟩ fun _ => ?_) _
    simpa using hno
  | @members documents _ hv h =>
    subst hv
    rw [walkInside]
    refine Blames.append_right ?_ _
    change Registry.draft4.compileMembers _ documents = .error e at h
    rw [Registry.compileMembers_eq] at h
    refine Blames.mapM ?_ ?_ e h
    · intro m hm p hp
      obtain ⟨rule, hrule, -⟩ := map_eq_ok.mp hp
      exact walk_fine m.2 (wellFormed_of_compile m.2 _ rule hrule) _
    · intro m hm
      rw [below_below]
      refine FailsAs.map _ fun e he => ?_
      exact (hin m.2 (Value.member_mem_readings hm) _ e he).imp fun hc => hc.member hm
  | @elements documents _ hv h =>
    subst hv
    rw [walkInside_elements]
    refine Blames.append_right ?_ _
    change Registry.draft4.compileElements _ 0 documents = .error e at h
    rw [Registry.compileElements_eq] at h
    refine Blames.mapM ?_ ?_ e h
    · intro p hp rule hrule
      exact walk_fine p.1 (wellFormed_of_compile p.1 _ rule hrule) _
    · intro p hp e he
      rw [below_below] at he
      have hd := List.fst_mem_of_mem_zipIdx hp
      exact (hin p.1 (Value.element_mem_readings hd) _ e he).imp fun hc => hc.element hd
  | self hv h =>
    rw [walkInside]
    · exact (hin value value.self_mem_readings _ e h).append_right _
    · exact hv

/-- Compiling a document is refused at one of the stops of the walk through it. -/
theorem compile_blames (document : Value) : ∀ place,
    FailsAs (Blames (CanonicalNumbers document) (walk place document))
      (Registry.draft4.compile ⟨"#", place⟩ document) := by
  induction document using Value.document_induction with
  | other v hv =>
    intro place e he
    cases v with
    | bool accept => cases he
    | object members => exact absurd rfl (hv members)
    | _ =>
      cases he
      rw [walk]
      · exact .single ⟨_, rfl⟩ (by simp [WellFormed])
      · exact hv
  | object members ih =>
    intro place
    rw [Registry.compile_object, walk_object, memberStops_uses]
    refine FailsAs.map _ fun e he => Blames.append_right ?_ _
    refine Blames.mapM ?_ ?_ e he
    · intro use huse rule hrule u hu
      obtain ⟨b, value, hm, rfl⟩ := mem_uses_draft4 huse
      have hfits := fits_of_apply b (fun d _ => wellFormed_of_compile d) ⟨rule, hrule⟩
      rw [memberStops_named] at hu
      rcases List.mem_append.mp hu with hu | hu
      · exact walkInside_fine (fun d _ => walk_fine d) hfits place u hu
      · rw [List.mem_singleton.mp hu]
        exact hfits
    · intro use huse e he
      obtain ⟨b, value, hm, rfl⟩ := mem_uses_draft4 huse
      rw [memberStops_named]
      exact (keyword_blames (ih _ hm) e he).imp fun hc => hc.member hm

/-- What an error can blame about a value: that it is no schema at all, or a member that is a
keyword or the sibling of one. -/
def Blamable (node : Value) (keyword : String) : Prop :=
  (keyword = "schema" ∧ node.kind ≠ .object ∧ node.kind ≠ .boolean) ∨
    ∃ members, node = .object members ∧ keyword ∈ members.map Prod.fst ∧
      (Registry.draft4.contains keyword = true ∨
        ∃ b : Builtin, b.modifier? = some keyword ∧ b.name ∈ members.map Prod.fst)

/-- Steps into a document found at some place lead to what an error blames. -/
def Located (place : List String) (document : Value) (e : SchemaError) : Prop :=
  ∃ steps node keyword problem,
    e = .invalid ⟨"#", place ++ steps.map Step.segment⟩ keyword problem ∧
      follow? document steps = some node ∧ Blamable node keyword

theorem Located.here {place : List String} {document : Value} {keyword : String}
    (h : Blamable document keyword) (problem : Problem) :
    Located place document (.invalid ⟨"#", place⟩ keyword problem) :=
  ⟨[], document, keyword, problem, by simp, rfl, h⟩

theorem Located.outer {place : List String} {front : List Step} {document inner : Value}
    {e : SchemaError} (hinner : follow? document front = some inner)
    (h : Located (place ++ front.map Step.segment) inner e) : Located place document e := by
  obtain ⟨steps, node, keyword, problem, rfl, hnode, hblamable⟩ := h
  refine ⟨front ++ steps, node, keyword, problem, by simp, ?_, hblamable⟩
  rw [Pointer.follow?_append, hinner, Option.bind_some, hnode]

theorem keyword_located {b : Builtin} {members : Members} {value : Value} {place : List String}
    (hu : (Value.object members).UniqueNames) (hm : (b.name, value) ∈ members)
    (hin : ∀ d ∈ value.readings, d.UniqueNames → ∀ place,
      FailsAs (Located place d) (Registry.draft4.compile ⟨"#", place⟩ d)) :
    FailsAs (Located place (.object members))
      (Registry.draft4.apply b.keyword ⟨members, ⟨"#", place⟩⟩ value) := by
  obtain ⟨hnodup, hvalues⟩ := Value.uniqueNames_object.mp hu
  have hlookup := Members.lookup_of_mem hnodup hm
  have hvalue : value.UniqueNames := hvalues _ hm
  have hname : b.name ∈ members.map Prod.fst := List.mem_map_of_mem hm
  intro e he
  cases b.refusal _ _ _ e he with
  | own _ problem =>
    have hk : Registry.draft4.get? b.name = some b.keyword := Registry.get?_draft4.mpr ⟨b, rfl, rfl⟩
    have hcontains : Registry.draft4.contains b.name = true := by rw [Registry.contains, hk]; rfl
    exact .here (.inr ⟨members, rfl, hname, .inl hcontains⟩) problem
  | @modifier _ name _ v hb _ hv _ problem =>
    have hmodifier : name ∈ members.map Prod.fst :=
      List.mem_map_of_mem (Members.mem_of_lookup hv)
    exact .here (.inr ⟨members, rfl, hmodifier, .inr ⟨b, hb, hname⟩⟩) problem
  | @members documents _ hv h =>
    subst hv
    obtain ⟨m, hm, he⟩ := Registry.compileMembers_error h
    obtain ⟨hnodup, hdocuments⟩ := Value.uniqueNames_object.mp hvalue
    have hdocument := Members.lookup_of_mem hnodup hm
    have hlead : follow? (.object members) [.member "properties", .member m.1] = some m.2 := by
      simp only [Builtin.name] at hlookup
      simp [follow?, Step.enter?, Value.get?, hlookup, hdocument]
    rw [below_below] at he
    have hnested := hin m.2 (Value.member_mem_readings hm) (hdocuments m hm)
    exact Located.outer hlead (hnested _ e he)
  | @elements documents _ hv h =>
    subst hv
    obtain ⟨p, hp, he⟩ := Registry.compileElements_error h
    have hd := List.fst_mem_of_mem_zipIdx hp
    have hposition : documents[p.2]? = some p.1 := List.mk_mem_zipIdx_iff_getElem?.mp hp
    have hlead : follow? (.object members) [.member "items", .element p.2] = some p.1 := by
      simp only [Builtin.name] at hlookup
      simp [follow?, Step.enter?, Value.get?, hlookup, hposition]
    rw [below_below] at he
    have hnested :=
      hin p.1 (Value.element_mem_readings hd) (Value.uniqueNames_array.mp hvalue p.1 hd)
    exact Located.outer hlead (hnested _ e he)
  | self _ h =>
    have hlead : follow? (.object members) [.member "items"] = some value := by
      simp only [Builtin.name] at hlookup
      simp [follow?, Step.enter?, Value.get?, hlookup]
    have hnested := hin value value.self_mem_readings hvalue
    exact Located.outer hlead (hnested _ e h)

/-- Compiling a document is refused at a place inside it. -/
theorem compile_located (document : Value) (hu : document.UniqueNames) :
    ∀ place, FailsAs (Located place document)
      (Registry.draft4.compile ⟨"#", place⟩ document) := by
  induction document using Value.document_induction with
  | other v hv =>
    intro place e he
    cases v with
    | bool accept => cases he
    | object members => exact absurd rfl (hv members)
    | _ =>
      cases he
      exact .here (.inl ⟨rfl, by simp [Value.kind], by simp [Value.kind]⟩) _
  | object members ih =>
    intro place
    rw [Registry.compile_object]
    refine FailsAs.map _ (FailsAs.mapM fun use huse => ?_)
    obtain ⟨b, value, hm, rfl⟩ := mem_uses_draft4 huse
    exact keyword_located hu hm fun d hd => ih _ hm d hd

/-- A document is refused as malformed, and the error names a keyword at a place that the document
has: the first that a walk through the document finds malformed. Whatever the walk has come to the
end of before is as it has to be. -/
theorem wrap_blames_first {document : Value} (hu : document.UniqueNames)
    (hx : document.Indexable) {e : SchemaError}
    (h : SchemaNode.wrap .draft4 document = .error e) :
    ∃ location keyword problem, e = .invalid location keyword problem ∧
      (∃ pointer node, location.text = "#" ++ pointer ∧
        (Pointer.parse? pointer).bind (Pointer.find? document) = some node ∧
          Blamable node keyword) ∧
      ∃ before stop after, walk [] document = before ++ stop :: after ∧
        location = ⟨"#", stop.place⟩ ∧ keyword = stop.keyword ∧
          (CanonicalNumbers document → ¬ stop.fine) ∧ ∀ u ∈ before, u.fine := by
  have he : Registry.draft4.compile ⟨"#", []⟩ document = .error e := map_eq_error.mp h
  obtain ⟨steps, node, keyword, problem, rfl, hnode, hblamable⟩ :=
    compile_located document hu [] e he
  obtain ⟨before, stop, after, hwalk, ⟨_, hstop⟩, hnot, hfine⟩ := compile_blames document [] _ he
  obtain ⟨hplace, hkeyword, -⟩ := SchemaError.invalid.inj hstop
  refine ⟨_, keyword, problem, rfl, ⟨_, node, rfl, ?_, hblamable⟩, before, stop, after, hwalk,
    hplace, hkeyword, hnot, hfine⟩
  exact Pointer.find?_text hx hnode

/-- The sibling of a limit, in a schema for the second element of a member whose name has a slash.
The type behind it is malformed as well, but the walk does not come to it. -/
theorem wrap_blames_first_sibling :
    let document : Value := .object
      [("properties", .object [("a/b", .object [("items", .array [.bool true, .object
          [("minimum", .number (.unsigned 1)), ("exclusiveMinimum", .null)]])])]),
        ("type", .string "text")]
    let place := ["properties", "a/b", "items", "1"]
    SchemaNode.wrap .draft4 document =
        .error (.invalid ⟨"#", place⟩ "exclusiveMinimum" (.wrongKind [.boolean] .null)) ∧
      ∃ before stop after, walk [] document = before ++ stop :: after ∧ stop.place = place ∧
        stop.keyword = "exclusiveMinimum" ∧ ¬ stop.fine ∧ ∀ u ∈ before, u.fine := by
  intro document place
  have hb : (Value.bool true).readings = [.bool true] := rfl
  have hn : (Value.number (.unsigned 1)).readings = [.number (.unsigned 1)] := rfl
  have hz : Value.null.readings = [.null] := rfl
  have hs : (Value.string "text").readings = [.string "text"] := rfl
  have hu : document.UniqueNames := by
    simp [document, Value.UniqueNames, Value.UniqueNamesIn, Value.UniqueNamesAll]
  have hx : document.Indexable := by
    simp [document, Value.Indexable, Value.throughout_object, Value.throughout_array,
      Value.throughout_atom hb, Value.throughout_atom hn, Value.throughout_atom hz,
      Value.throughout_atom hs, UInt64.size]
  have hc : CanonicalNumbers document := by
    simp [document, CanonicalNumbers, Value.throughout_object, Value.throughout_array,
      Value.throughout_atom hb, Value.throughout_atom hn, Value.throughout_atom hz,
      Value.throughout_atom hs, Number.Canonical]
  have he : SchemaNode.wrap .draft4 document =
      .error (.invalid ⟨"#", place⟩ "exclusiveMinimum" (.wrongKind [.boolean] .null)) := rfl
  obtain ⟨location, keyword, problem, hinvalid, -, before, stop, after, hwalk, hplace, hkeyword,
    hnot, hfine⟩ := wrap_blames_first hu hx he
  obtain ⟨rfl, rfl, -⟩ := SchemaError.invalid.inj hinvalid
  exact ⟨he, before, stop, after, hwalk, (congrArg Location.segments hplace).symm, hkeyword.symm,
    hnot hc, hfine⟩

end Draft4
end JsonSchema
