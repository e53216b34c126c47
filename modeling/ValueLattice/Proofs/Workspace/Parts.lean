/-
What kept objects are made of: function handles, variables and expression references. An object
owns one handle for each of them that has a function, and showing it reads the names of its
variables and changes nothing else about it.
-/
import ValueLattice.Proofs.Keyed
import ValueLattice.Proofs.Variable.Reading
import ValueLattice.Workspace.Operation

namespace ValueLattice

/-- Whether there is a function and it has the given number. -/
def leadsTo (n : Nat) (function : Option FunctionHandle) : Bool :=
  function.any fun f => f.number == n

theorem count_flatMap_function {α : Type} (function : α → Option FunctionHandle) (n : Nat)
    (xs : List α) : ((xs.flatMap fun x => (function x).toList).map FunctionHandle.number).count n =
      xs.countP fun x => leadsTo n (function x) := by
  induction xs with
  | nil => rfl
  | cons x xs ih =>
    rw [List.flatMap_cons, List.map_append, List.count_append, ih, List.countP_cons, Nat.add_comm]
    rcases function x with _ | f
    · rfl
    · by_cases same : f.number = n <;> simp [leadsTo, same]

theorem forall₂_of_mapM {α β : Type} {f : α → Option β} {xs : List α} {ys : List β}
    (h : xs.mapM f = some ys) : List.Forall₂ (fun x y => f x = some y) xs ys := by
  induction xs generalizing ys with
  | nil =>
    obtain rfl : [] = ys := by simpa using h
    exact .nil
  | cons x xs ih =>
    rw [List.mapM_cons] at h
    obtain ⟨y, hy, h⟩ := Option.bind_eq_some_iff.1 h
    obtain ⟨ys', hys, h⟩ := Option.bind_eq_some_iff.1 h
    obtain rfl : y :: ys' = ys := by simpa using h
    exact .cons hy (ih hys)

namespace Kept

/-! ## Parts -/

/-- The function that an object is a handle to. -/
def handle? : Kept → Option FunctionHandle
  | function f => some f
  | _ => none

/-- The variables in an object. -/
def vars : Kept → List Variable
  | var v => [v]
  | variableUse u => [u.var]
  | stackUse u => [u.var]
  | parameters p => p.vars
  | userValue u => [u.var]
  | _ => []

/-- The expression references in an object. -/
def sources : Kept → List IlReference
  | il r => [r]
  | variableUse u => [u.source]
  | _ => []

/-- How often an object mentions a function: as the handle that it is, and in its variables and
expression references. -/
def mentions (n : Nat) (object : Kept) : Nat :=
  (if leadsTo n object.handle? then 1 else 0) +
    (object.vars.countP fun v => leadsTo n v.function) +
    (object.sources.countP fun r => leadsTo n r.function)

theorem handles_eq (object : Kept) : object.handles =
    object.handle?.toList ++ object.vars.flatMap Variable.handles ++
      object.sources.flatMap IlReference.handles := by
  cases object <;> simp [handles, handle?, vars, sources, VariableUse.handles,
    StackUse.handles, ParameterList.handles, UserValue.handles]

/-- An object owns a handle for each mention of a function. -/
theorem count_handles (n : Nat) (object : Kept) :
    (object.handles.map FunctionHandle.number).count n = object.mentions n := by
  have hhandle := count_flatMap_function id n [object.handle?]
  have hvars := count_flatMap_function Variable.function n object.vars
  have hsources := count_flatMap_function IlReference.function n object.sources
  rw [List.flatMap_singleton, id, List.countP_singleton, id] at hhandle
  rw [handles_eq, List.map_append, List.map_append, List.count_append, List.count_append, hhandle]
  exact congrArg₂ (· + ·) (congrArg _ hvars) hsources

/-- Objects with the same functions in their parts own the same handles. -/
theorem handles_eq_of_parts {a b : Kept} (hhandle : a.handle? = b.handle?)
    (hvars : a.vars.map Variable.function = b.vars.map Variable.function)
    (hsources : a.sources = b.sources) : a.handles = b.handles := by
  have hflat (vs : List Variable) : vs.flatMap Variable.handles =
      (vs.map Variable.function).flatMap Option.toList := by
    rw [List.flatMap_map]
    rfl
  rw [handles_eq, handles_eq, hhandle, hflat, hflat, hvars, hsources]

/-- Objects that own the same handles mention the same functions. -/
theorem mentions_eq_of_handles_eq {a b : Kept} (h : a.handles = b.handles) (n : Nat) :
    a.mentions n = b.mentions n := by
  rw [← count_handles, ← count_handles, h]

/-! ## Showing -/

/-- Showing an object reads the names of its variables. -/
theorem readTexts_eq (object : Kept) (e : Engine) :
    (object.readTexts e).1 = object.vars.map (fun v => v.shown (v.nameIn e)) ∧
    (object.readTexts e).2.1.vars = object.vars.map (fun v => v.nameFilled e) ∧
    (object.readTexts e).2.1.handle? = object.handle? ∧
    (object.readTexts e).2.1.sources = object.sources ∧
    (object.readTexts e).2.2 = e.countLookups (object.vars.flatMap Variable.nameAsks) := by
  have hread (v : Variable) : v.readText e =
      (v.shown (v.nameIn e), v.nameFilled e, e.countLookups v.nameAsks) := by
    unfold Variable.readText
    rw [Variable.readName_eq]
    rfl
  cases object <;> simp [readTexts, vars, handle?, sources, hread, Variable.readTexts_eq]

end Kept

namespace Workspace

variable {w : Workspace} {id : String}

/-! ## Finding -/

theorem functionAt?_eq_some_iff {f : FunctionHandle} :
    w.functionAt? id = some f ↔ w.kept.get? id = some (.function f) := by
  unfold functionAt?
  split
  · next g hget => simp [hget]
  · next hother => exact iff_of_false (by rintro ⟨⟩) (hother f)

theorem variableAt?_eq_some_iff {v : Variable} :
    w.variableAt? id = some v ↔ w.kept.get? id = some (.var v) := by
  unfold variableAt?
  split
  · next u hget => simp [hget]
  · next hother => exact iff_of_false (by rintro ⟨⟩) (hother v)

theorem ilAt?_eq_some_iff {r : IlReference} :
    w.ilAt? id = some r ↔ w.kept.get? id = some (.il r) := by
  unfold ilAt?
  split
  · next s hget => simp [hget]
  · next hother => exact iff_of_false (by rintro ⟨⟩) (hother r)

theorem parametersAt?_eq_some_iff {p : ParameterList} :
    w.parametersAt? id = some p ↔ w.kept.get? id = some (.parameters p) := by
  unfold parametersAt?
  split
  · next q hget => simp [hget]
  · next hother => exact iff_of_false (by rintro ⟨⟩) (hother p)

theorem variableUseAt?_eq_some_iff {u : VariableUse} :
    w.variableUseAt? id = some u ↔ w.kept.get? id = some (.variableUse u) := by
  unfold variableUseAt?
  split
  · next v hget => simp [hget]
  · next hother => exact iff_of_false (by rintro ⟨⟩) (hother u)

/-! ## Reading -/

theorem readName_of_variable {v : Variable} (hv : w.variableAt? id = some v) :
    w.readName id = (v.nameIn w.engine, {
      engine := w.engine.countLookups v.nameAsks
      kept := w.kept.modify id fun _ => .var (v.nameFilled w.engine) }) := by
  unfold readName
  simp only [hv, Variable.readName_eq]

theorem readType_of_variable {v : Variable} (hv : w.variableAt? id = some v) :
    w.readType id = (v.typeIn w.engine, {
      engine := w.engine.countLookups v.typeAsks
      kept := w.kept.modify id fun _ => .var (v.typeFilled w.engine) }) := by
  unfold readType
  simp only [hv, Variable.readType_eq]

theorem readTexts_of_get? {object : Kept} (hget : w.kept.get? id = some object) :
    w.readTexts id = (object.vars.map fun v => v.shown (v.nameIn w.engine), {
      engine := w.engine.countLookups (object.vars.flatMap Variable.nameAsks)
      kept := w.kept.modify id fun _ => (object.readTexts w.engine).2.1 }) := by
  obtain ⟨htexts, -, -, -, hengine⟩ := object.readTexts_eq w.engine
  unfold readTexts
  simp only [hget, htexts, hengine]

theorem readTexts_of_none (hget : w.kept.get? id = none) : w.readTexts id = ([], w) := by
  unfold readTexts
  rw [hget]

theorem readName_of_none (hv : w.variableAt? id = none) : w.readName id = (none, w) := by
  unfold readName
  rw [hv]

theorem readType_of_none (hv : w.variableAt? id = none) : w.readType id = (none, w) := by
  unfold readType
  rw [hv]

/-! ## Filled cells -/

theorem changeVariable_of_variable {v : Variable} (hv : w.variableAt? id = some v)
    (f : Variable → Variable) :
    w.changeVariable id f = { w with kept := w.kept.put id (.var (f v)) } := by
  unfold changeVariable
  rw [Keyed.modify_of_get? (variableAt?_eq_some_iff.1 hv)]

theorem changeVariable_of_none (hv : w.variableAt? id = none) (f : Variable → Variable) :
    w.changeVariable id f = w := by
  unfold changeVariable
  rw [Keyed.modify_eq_self]
  intro object hget
  cases object with
  | var v =>
    rw [variableAt?_eq_some_iff.2 hget] at hv
    cases hv
  | _ => rfl

theorem put_variable {v : Variable} (hv : w.variableAt? id = some v) :
    { w with kept := w.kept.put id (.var v) } = w := by
  rw [Keyed.put_of_get? (variableAt?_eq_some_iff.1 hv)]

theorem presetName_of_filled {v : Variable} (hv : w.variableAt? id = some v)
    {known : Option String} (hcell : v.nameCell = some known) (name : String) :
    (w.step (.presetName id name)).2 = w := by
  refine (changeVariable_of_variable hv _).trans ?_
  rw [(Variable.filled_name hcell).2.2, put_variable hv]

theorem presetType_of_filled {v : Variable} (hv : w.variableAt? id = some v)
    {known : Option Ty} (hcell : v.typeCell = some known) (type : Ty) :
    (w.step (.presetType id type)).2 = w := by
  refine (changeVariable_of_variable hv _).trans ?_
  rw [(Variable.filled_type hcell).2.2, put_variable hv]

theorem readName_of_filled {v : Variable} (hv : w.variableAt? id = some v)
    {known : Option String} (hcell : v.nameCell = some known) : w.readName id = (known, w) := by
  obtain ⟨hread, hasks, -⟩ := Variable.filled_name hcell
  rw [readName_of_variable hv, (hread _).1, (hread _).2, hasks, Engine.countLookups_nil,
    Keyed.modify_of_get? (variableAt?_eq_some_iff.1 hv), put_variable hv]

theorem readType_of_filled {v : Variable} (hv : w.variableAt? id = some v)
    {known : Option Ty} (hcell : v.typeCell = some known) : w.readType id = (known, w) := by
  obtain ⟨hread, hasks, -⟩ := Variable.filled_type hcell
  rw [readType_of_variable hv, (hread _).1, (hread _).2, hasks, Engine.countLookups_nil,
    Keyed.modify_of_get? (variableAt?_eq_some_iff.1 hv), put_variable hv]

end Workspace

end ValueLattice
