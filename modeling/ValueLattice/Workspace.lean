/-
A workspace: functions of the engine, variables and references, kept under names. Each kept object
owns one handle for every mention of a function in it. Keeping an object takes its handles and
gives back those of the object that it replaces; dropping gives them back. The reads that may ask
the engine are actions too, because they fill memo cells and count look-ups.
-/
import ValueLattice.Reference.Use

namespace ValueLattice

/-- An object that a workspace keeps. -/
inductive Kept
  | function (f : FunctionHandle)
  | var (v : Variable)
  | il (r : IlReference)
  | variableUse (u : VariableUse)
  | stackUse (u : StackUse)
  | parameters (p : ParameterList)
  | userValue (u : UserValue)

namespace Kept

/-- The handles that an object owns, one for each mention of a function. -/
def handles : Kept → List FunctionHandle
  | function f => [f]
  | var v => v.handles
  | il r => r.handles
  | variableUse u => u.handles
  | stackUse u => u.handles
  | parameters p => p.handles
  | userValue u => u.handles

/-- Reads the text of every variable in an object, in order. -/
def readTexts : Kept → Engine → List String × Kept × Engine
  | var v, e =>
    let (text, v, e) := v.readText e
    ([text], .var v, e)
  | variableUse u, e =>
    let (text, v, e) := u.var.readText e
    ([text], .variableUse { u with var := v }, e)
  | stackUse u, e =>
    let (text, v, e) := u.var.readText e
    ([text], .stackUse { u with var := v }, e)
  | parameters p, e =>
    let (texts, vars, e) := Variable.readTexts p.vars e
    (texts, .parameters { p with vars }, e)
  | userValue u, e =>
    let (text, v, e) := u.var.readText e
    ([text], .userValue { u with var := v }, e)
  | other, e => ([], other, e)

end Kept

structure Workspace where
  engine : Engine := Heap.empty
  kept : Keyed String Kept := Keyed.empty

/-- Where a new variable comes from. -/
inductive Origin
  | location (l : Location)
  | identifier (n : UInt64)

/-- What can be done in a workspace; objects and functions are given by the names they are kept
under. -/
inductive Action
  | newFunction (id : String) (start : UInt64) (arch : Option Architecture)
  | shareFunction (id of : String)
  | newVariable (id : String) (function : Option String) (origin : Origin)
  | presetName (id name : String)
  | presetType (id : String) (type : Ty)
  | cloneVariable (id of : String)
  | newIl (id : String) (function : Option String) (arch : Option Architecture)
      (address : UInt64) (form : IlForm) (expr : UInt64)
  | cloneIl (id of : String)
  | newVariableUse (id var source : String)
  | newStackUse (id : String) (operand : UInt32) (type : Ty) (name var : String)
      (offset : Int64) (size : UInt64)
  | newParameters (id : String) (vars : List String)
  | withConfidence (id of : String) (confidence : UInt8)
  | newUserValue (id var : String) (site : Site) (value : ValueSet)
  | drop (id : String)
  | setName (id name : String)
  | setType (id : String) (type : Ty)
  | setIdentifier (id : String) (identifier : UInt64)
  | createVariable (function : String) (l : Location) (name : String) (type : Option Ty)
  | renameVariable (function : String) (l : Location) (name : String)
  | retypeVariable (function : String) (l : Location) (type : Ty)
  | lookUpName (function : String) (l : Location)
  | lookUpType (function : String) (l : Location)
  | readName (id : String)
  | readType (id : String)
  | readTexts (id : String)

/-- What an action answers. -/
inductive Report
  | nothing
  | flag (b : Bool)
  | name (name : Option String)
  | type (type : Option Ty)
  | texts (texts : List String)

namespace Workspace

/-! ## Finding -/

def functionAt? (w : Workspace) (id : String) : Option FunctionHandle :=
  match w.kept.get? id with
  | some (.function f) => some f
  | _ => none

def variableAt? (w : Workspace) (id : String) : Option Variable :=
  match w.kept.get? id with
  | some (.var v) => some v
  | _ => none

def ilAt? (w : Workspace) (id : String) : Option IlReference :=
  match w.kept.get? id with
  | some (.il r) => some r
  | _ => none

def variableUseAt? (w : Workspace) (id : String) : Option VariableUse :=
  match w.kept.get? id with
  | some (.variableUse u) => some u
  | _ => none

def stackUseAt? (w : Workspace) (id : String) : Option StackUse :=
  match w.kept.get? id with
  | some (.stackUse u) => some u
  | _ => none

def parametersAt? (w : Workspace) (id : String) : Option ParameterList :=
  match w.kept.get? id with
  | some (.parameters p) => some p
  | _ => none

def userValueAt? (w : Workspace) (id : String) : Option UserValue :=
  match w.kept.get? id with
  | some (.userValue u) => some u
  | _ => none

/-- The kept functions with their handle counts and look-up counts. -/
def functions (w : Workspace) : List (String × Nat × Nat) :=
  w.kept.rows.filterMap fun row =>
    match row.2 with
    | .function f => some (row.1, w.engine.references f.number, w.engine.lookups f)
    | _ => none

/-! ## Keeping and dropping -/

/-- Keeps an object under a name, and drops the one that was kept there. -/
def keep (w : Workspace) (id : String) (object : Kept) : Workspace :=
  let e := w.engine.takeHandles object.handles
  let e := match w.kept.get? id with
    | some old => e.giveHandles old.handles
    | none => e
  { engine := e, kept := w.kept.put id object }

/-- Keeps a new function, whose first handle comes with it, and drops what was kept there. -/
def keepNew (w : Workspace) (id : String) (start : UInt64) (arch : Option Architecture) :
    Workspace :=
  let (f, e) := w.engine.newFunction start arch
  let e := match w.kept.get? id with
    | some old => e.giveHandles old.handles
    | none => e
  { engine := e, kept := w.kept.put id (.function f) }

/-- Keeps an object if there is one. -/
def keepIf (w : Workspace) (id : String) (object : Option Kept) : Workspace :=
  match object with
  | some o => w.keep id o
  | none => w

/-- Drops a kept object; tells whether there was one. -/
def drop (w : Workspace) (id : String) : Bool × Workspace :=
  match w.kept.get? id with
  | some old => (true, { engine := w.engine.giveHandles old.handles, kept := w.kept.erase id })
  | none => (false, w)

/-- Changes a kept variable without a new handle. -/
def changeVariable (w : Workspace) (id : String) (f : Variable → Variable) : Workspace :=
  { w with kept := w.kept.modify id fun object =>
      match object with
      | .var v => .var (f v)
      | other => other }

/-- Changes the engine at a kept function. -/
def changeFunction (w : Workspace) (id : String) (f : FunctionHandle → Engine → Engine) :
    Workspace :=
  match w.functionAt? id with
  | some h => { w with engine := f h w.engine }
  | none => w

/-! ## Reading -/

/-- Reads the texts of the variables of a kept object. -/
def readTexts (w : Workspace) (id : String) : List String × Workspace :=
  match w.kept.get? id with
  | some object =>
    let (texts, object, e) := object.readTexts w.engine
    (texts, { engine := e, kept := w.kept.modify id fun _ => object })
  | none => ([], w)

def readName (w : Workspace) (id : String) : Option String × Workspace :=
  match w.variableAt? id with
  | some v =>
    let (name, v, e) := v.readName w.engine
    (name, { engine := e, kept := w.kept.modify id fun _ => .var v })
  | none => (none, w)

def readType (w : Workspace) (id : String) : Option Ty × Workspace :=
  match w.variableAt? id with
  | some v =>
    let (type, v, e) := v.readType w.engine
    (type, { engine := e, kept := w.kept.modify id fun _ => .var v })
  | none => (none, w)

def lookUpName (w : Workspace) (function : String) (l : Location) : Option String × Workspace :=
  match w.functionAt? function with
  | some f =>
    let (name, e) := w.engine.variableName f l
    (name, { w with engine := e })
  | none => (none, w)

def lookUpType (w : Workspace) (function : String) (l : Location) : Option Ty × Workspace :=
  match w.functionAt? function with
  | some f =>
    let (type, e) := w.engine.variableType f l
    (type, { w with engine := e })
  | none => (none, w)

/-! ## Acting -/

/-- A variable of a kept function, or of none. -/
def variableFrom (w : Workspace) (function : Option String) : Origin → Variable
  | .location l => .ofLocation (function.bind w.functionAt?) l
  | .identifier n => .ofIdentifier (function.bind w.functionAt?) n

/-- The workspace after an action, and what the action answers. -/
def step (w : Workspace) : Action → Report × Workspace
  | .newFunction id start arch => (.nothing, w.keepNew id start arch)
  | .shareFunction id of => (.nothing, w.keepIf id ((w.functionAt? of).map .function))
  | .newVariable id function origin =>
    (.nothing, w.keep id (.var (w.variableFrom function origin)))
  | .presetName id name => (.nothing, w.changeVariable id fun v => v.withName name)
  | .presetType id type => (.nothing, w.changeVariable id fun v => v.withType type)
  | .cloneVariable id of => (.nothing, w.keepIf id ((w.variableAt? of).map .var))
  | .newIl id function arch address form expr =>
    (.nothing, w.keep id (.il ⟨function.bind w.functionAt?, arch, address, form, expr⟩))
  | .cloneIl id of => (.nothing, w.keepIf id ((w.ilAt? of).map .il))
  | .newVariableUse id var source =>
    (.nothing, w.keepIf id do
      let v ← w.variableAt? var
      let r ← w.ilAt? source
      return .variableUse ⟨v, r⟩)
  | .newStackUse id operand type name var offset size =>
    (.nothing, w.keepIf id ((w.variableAt? var).map fun v =>
      .stackUse (.build operand type name v offset size)))
  | .newParameters id vars =>
    (.nothing, w.keepIf id ((vars.mapM w.variableAt?).map fun vs => .parameters { vars := vs }))
  | .withConfidence id of confidence =>
    (.nothing, w.keepIf id ((w.parametersAt? of).map fun p =>
      .parameters (p.withConfidence confidence)))
  | .newUserValue id var site value =>
    (.nothing, w.keepIf id ((w.variableAt? var).map fun v => .userValue ⟨v, site, value⟩))
  | .drop id =>
    let (found, w) := w.drop id
    (.flag found, w)
  | .setName id name => (.nothing, w.changeVariable id fun v => v.setName name)
  | .setType id type => (.nothing, w.changeVariable id fun v => v.setType type)
  | .setIdentifier id n => (.nothing, w.changeVariable id fun v => v.setIdentifier n)
  | .createVariable function l name type =>
    (.nothing, w.changeFunction function fun f e => e.createVariable f l name type)
  | .renameVariable function l name =>
    (.nothing, w.changeFunction function fun f e => e.setVariableName f l name)
  | .retypeVariable function l type =>
    (.nothing, w.changeFunction function fun f e => e.setVariableType f l type)
  | .lookUpName function l =>
    let (name, w) := w.lookUpName function l
    (.name name, w)
  | .lookUpType function l =>
    let (type, w) := w.lookUpType function l
    (.type type, w)
  | .readName id =>
    let (name, w) := w.readName id
    (.name name, w)
  | .readType id =>
    let (type, w) := w.readType id
    (.type type, w)
  | .readTexts id =>
    let (texts, w) := w.readTexts id
    (.texts texts, w)

/-- The workspace after several actions, and the answer of the last. -/
def run (w : Workspace) (actions : List Action) : Report × Workspace :=
  actions.foldl (fun state a => state.2.step a) (.nothing, w)

/-! ## Sorting -/

/-- The names of kept references in ascending order of the references. -/
def sortIl (w : Workspace) (ids : List String) : List String :=
  let rows := ids.filterMap fun id => (w.ilAt? id).map fun r => (id, r)
  (sortBy (fun a b => a.2.order b.2) rows).map Prod.fst

/-- The names of kept uses in ascending order of the uses. -/
def sortUses (w : Workspace) (ids : List String) : List String :=
  let rows := ids.filterMap fun id => (w.variableUseAt? id).map fun u => (id, u)
  (sortBy (fun a b => a.2.order b.2) rows).map Prod.fst

end Workspace

end ValueLattice
