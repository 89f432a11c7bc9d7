import JsonSchema.CommandLine.World

namespace JsonSchema.CommandLine

namespace Action
variable {w : World} {a : Action α} {f : α → Action β} {b : β}

@[simp]
theorem on_pure (b : β) (w : World) : (pure b : Action β).on w = (.ok b, w) := rfl

@[simp]
theorem on_throw (e : RunError) (w : World) : (throw e : Action β).on w = (.error e, w) := rfl

@[simp]
theorem on_lift (step : Except RunError β) (w : World) :
    (liftM step : Action β).on w = (step, w) := by
  cases step <;> rfl

/-- What comes after a failure is not done. -/
theorem on_bind (a : Action α) (f : α → Action β) (w : World) :
    (a >>= f).on w = match a.on w with
      | (.ok x, after) => (f x).on after
      | (.error e, after) => (.error e, after) := by
  change (ExceptT.bindCont f (a.on w).1).run (a.on w).2 = _
  rcases a.on w with ⟨_ | _, after⟩ <;> rfl

theorem on_bind_ok : ((a >>= f).on w).1 = .ok b ↔
    ∃ x, (a.on w).1 = .ok x ∧ ((f x).on (a.on w).2).1 = .ok b := by
  rw [on_bind]
  rcases a.on w with ⟨_ | x, after⟩ <;> simp

/-- A step that only returns something changes nothing more. -/
theorem on_bind_pure_after (a : Action α) (g : α → β) (w : World) :
    ((a >>= fun x => pure (g x)).on w).2 = (a.on w).2 := by
  rw [on_bind]
  rcases a.on w with ⟨_ | _, after⟩ <;> rfl

theorem on_get_bind (f : World → Action β) (w : World) :
    ((get : Action World) >>= f).on w = (f w).on w := by
  rw [on_bind]
  rfl

@[simp]
theorem on_print (text : String) (w : World) :
    (print text).on w = (.ok (), { w with stdout := w.stdout ++ text }) := rfl

theorem on_read (source : Source) (failure : RunError) (w : World) :
    (read source failure).on w = match w.text? source with
      | some text => (.ok text, w.afterRead source)
      | none => (.error failure, w.afterRead source) := by
  change (match w.text? source with
    | some text => (pure text : Action String)
    | none => throw failure).on (w.afterRead source) = _
  cases w.text? source <;> rfl

theorem on_read_ok {source : Source} {failure : RunError} {text : String} :
    ((read source failure).on w).1 = .ok text ↔ w.text? source = some text := by
  rw [on_read]
  cases w.text? source <;> simp

@[simp]
theorem on_read_after (source : Source) (failure : RunError) (w : World) :
    ((read source failure).on w).2 = w.afterRead source := by
  rw [on_read]
  cases w.text? source <;> rfl

theorem on_makeAround (path : String) (w : World) :
    (makeAround path).on w =
      (if (w.files.makeAround path).2 then .ok () else .error .directoryNotMade,
        { w with files := (w.files.makeAround path).1 }) := by
  change (do unless (w.files.makeAround path).2 do throw .directoryNotMade : Action Unit).on
    { w with files := (w.files.makeAround path).1 } = _
  cases (w.files.makeAround path).2 <;> rfl

theorem on_write (path text : String) (w : World) :
    (write path text).on w = match w.files.write? path text with
      | some files => (.ok (), { w with files := files })
      | none => (.error (.notWritten path), w) := by
  change (match w.files.write? path text with
    | some files => (set { w with files := files } : Action PUnit)
    | none => throw (RunError.notWritten path)).on w = _
  cases w.files.write? path text <;> rfl

/-- A later world in which no file has changed and nothing more has been printed. -/
structure Undisturbed (w after : World) : Prop where
  files : after.files = w.files
  stdout : after.stdout = w.stdout
  now : after.now = w.now

theorem Undisturbed.trans {after last : World} (h : Undisturbed w after)
    (hlast : Undisturbed after last) : Undisturbed w last :=
  ⟨hlast.files.trans h.files, hlast.stdout.trans h.stdout, hlast.now.trans h.now⟩

/-- However it ends, a step prints nothing and leaves the files as they are. -/
def Quiet (a : Action α) : Prop := ∀ w, Undisturbed w (a.on w).2

namespace Quiet

theorem pure (b : β) : Quiet (pure b : Action β) := fun _ => ⟨rfl, rfl, rfl⟩

theorem throw (e : RunError) : Quiet (throw e : Action β) := fun _ => ⟨rfl, rfl, rfl⟩

theorem lift (step : Except RunError β) : Quiet (liftM step : Action β) :=
  fun _ => ⟨rfl, rfl, rfl⟩

theorem get : Quiet (get : Action World) := fun _ => ⟨rfl, rfl, rfl⟩

theorem read (source : Source) (failure : RunError) : Quiet (read source failure) := by
  intro w
  rw [on_read_after]
  exact ⟨rfl, rfl, rfl⟩

theorem bind (ha : Quiet a) (hf : ∀ x, Quiet (f x)) : Quiet (a >>= f) := by
  intro w
  have hfirst := ha w
  rw [on_bind]
  rcases h : a.on w with ⟨e | x, after⟩
  · rwa [h] at hfirst
  · rw [h] at hfirst
    exact hfirst.trans (hf x after)

end Quiet
end Action
end JsonSchema.CommandLine
