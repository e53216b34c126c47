/-
The story of a workspace, told without memo cells: what was written about the variables of each
function, what happened to the name and the type of each kept variable, and which functions were
looked up. A clone takes over the story of its original. What a read has to answer follows from
the story: the latest value that was set, or else what the first event filled in.
-/
import Mathlib.Logic.Function.Basic
import ValueLattice.Workspace.Operation

namespace ValueLattice

/-! ## Cells -/

/-- What can happen to the name or the type of a variable. A read comes with what the engine
knows at that time, which is nothing without a function. -/
inductive CellEvent (α : Type)
  | preset (a : α)
  | read (known : Option α)
  | overwritten (a : α)

namespace CellEvent

variable {α : Type}

/-- What an event leaves in an empty cell. -/
def filling : CellEvent α → Option α
  | preset a => some a
  | read known => known
  | overwritten a => some a

/-- The value that an event puts into any cell. -/
def setting? : CellEvent α → Option α
  | overwritten a => some a
  | _ => none

/-- What a cell holds after some events: the latest value that was set, or else what the first
event filled in. -/
def content (events : List (CellEvent α)) : Option (Option α) :=
  match (events.filterMap setting?).getLast? with
  | some a => some (some a)
  | none => events.head?.map filling

theorem content_eq_none_iff {events : List (CellEvent α)} :
    content events = none ↔ events = [] := by
  unfold content
  split
  · next a ha =>
    refine iff_of_false (by rintro ⟨⟩) ?_
    rintro rfl
    cases ha
  · rw [Option.map_eq_none_iff, List.head?_eq_none_iff]

theorem content_of_ne_nil {events : List (CellEvent α)} (hne : events ≠ []) (known : Option α) :
    content events = some ((content events).getD known) := by
  obtain ⟨a, ha⟩ := Option.ne_none_iff_exists'.1 (mt content_eq_none_iff.1 hne)
  rw [ha, Option.getD_some]

theorem isNone_content (events : List (CellEvent α)) :
    (content events).isNone = events.isEmpty := by
  rw [Bool.eq_iff_iff, Option.isNone_iff_eq_none, content_eq_none_iff, List.isEmpty_iff]

theorem content_overwritten (events : List (CellEvent α)) (a : α) :
    content (events ++ [.overwritten a]) = some (some a) := by
  simp [content, setting?]

/-- Other events fill an empty cell and leave any other as it is. -/
theorem content_concat {e : CellEvent α} (he : e.setting? = none) (events : List (CellEvent α)) :
    content (events ++ [e]) = (content events).or (some e.filling) := by
  unfold content
  rw [List.filterMap_append, List.filterMap_cons_none he, List.filterMap_nil, List.append_nil]
  split
  · rfl
  · cases events <;> rfl

theorem content_preset (events : List (CellEvent α)) (a : α) :
    content (events ++ [.preset a]) = (content events).or (some (some a)) :=
  content_concat rfl events

theorem content_read (events : List (CellEvent α)) (known : Option α) :
    content (events ++ [.read known]) = some ((content events).getD known) := by
  rw [content_concat rfl]
  cases content events <;> rfl

end CellEvent

/-! ## Variables -/

/-- What was written about the variables of each function. -/
abbrev Knowledge := Nat → Location → VariableInfo

/-- What became of a variable. -/
structure History where
  function : Option FunctionHandle
  location : Location
  identifier : UInt64
  names : List (CellEvent String) := []
  types : List (CellEvent Ty) := []

namespace History

/-- A variable to which nothing has happened yet. -/
def begin (function : Option FunctionHandle) : Origin → History
  | .location l => { function, location := l, identifier := l.identifier }
  | .identifier n => { function, location := .ofIdentifier n, identifier := n }

/-- What the function of a variable knows at its location. -/
def known? (h : History) (known : Knowledge) : Option VariableInfo :=
  h.function.map fun f => known f.number h.location

def knownName (h : History) (known : Knowledge) : Option String :=
  (h.known? known).bind VariableInfo.name

def knownType (h : History) (known : Knowledge) : Option Ty :=
  (h.known? known).bind VariableInfo.type

/-- The name that a read has to answer. -/
def name (h : History) (known : Knowledge) : Option String :=
  (CellEvent.content h.names).getD (h.knownName known)

/-- The type that a read has to answer. -/
def type (h : History) (known : Knowledge) : Option Ty :=
  (CellEvent.content h.types).getD (h.knownType known)

/-- The text that shows the variable. -/
def text (h : History) (known : Knowledge) : String :=
  (h.name known).getD ("var_" ++ Numeral.hexDigits h.identifier.toNat)

def nameEvent (h : History) (e : CellEvent String) : History :=
  { h with names := h.names ++ [e] }

def typeEvent (h : History) (e : CellEvent Ty) : History :=
  { h with types := h.types ++ [e] }

/-- The function that a read of a cell looks up, which happens only if nothing came before. -/
def asks {α : Type} (h : History) (events : List (CellEvent α)) : List FunctionHandle :=
  if events.isEmpty then h.function.toList else []

end History

/-! ## The chronicle -/

/-- The story of a workspace; the variables of an object are listed in order. -/
structure Chronicle where
  known : Knowledge := fun _ _ => {}
  histories : String → List History := fun _ => []
  /-- The numbers of the functions that were looked up, once for each look-up. -/
  asked : List Nat := []

namespace Chronicle

def keep (c : Chronicle) (id : String) (hs : List History) : Chronicle :=
  { c with histories := Function.update c.histories id hs }

@[simp] theorem histories_keep_self (c : Chronicle) (id : String) (hs : List History) :
    (c.keep id hs).histories id = hs :=
  Function.update_self ..

theorem histories_keep_of_ne (c : Chronicle) {id id' : String} (hne : id ≠ id')
    (hs : List History) : (c.keep id hs).histories id' = c.histories id' :=
  Function.update_of_ne hne.symm ..

def keepIf (c : Chronicle) (id : String) : Option (List History) → Chronicle
  | some hs => c.keep id hs
  | none => c

/-- Something happens to the variables kept under a name. -/
def change (c : Chronicle) (id : String) (f : History → History) : Chronicle :=
  c.keep id ((c.histories id).map f)

/-- Something is written about the variable of a function at a location. -/
def write (c : Chronicle) (function : Option FunctionHandle) (l : Location)
    (change : VariableInfo → VariableInfo) : Chronicle :=
  match function with
  | some f => { c with
      known := fun n m => if f.number = n ∧ l = m then change (c.known n m) else c.known n m }
  | none => c

/-- Functions are looked up. -/
def ask (c : Chronicle) (fs : List FunctionHandle) : Chronicle :=
  { c with asked := c.asked ++ fs.map FunctionHandle.number }

theorem ask_nil (c : Chronicle) : c.ask [] = c := by
  rw [ask, List.map_nil, List.append_nil]

def readNames (c : Chronicle) (id : String) : Chronicle :=
  (c.ask ((c.histories id).flatMap fun h => h.asks h.names)).change id fun h =>
    h.nameEvent (.read (h.knownName c.known))

def readTypes (c : Chronicle) (id : String) : Chronicle :=
  (c.ask ((c.histories id).flatMap fun h => h.asks h.types)).change id fun h =>
    h.typeEvent (.read (h.knownType c.known))

/-- The story goes on only if a variable is kept on its own under a name. -/
def ofVariable (c : Chronicle) (w : Workspace) (id : String) (f : Chronicle → Chronicle) :
    Chronicle :=
  if (w.variableAt? id).isSome then f c else c

/-- The story goes on with an action; the workspace before it tells what the names stand for. -/
def act (c : Chronicle) (w : Workspace) : Action → Chronicle
  | .newFunction id _ _ => c.keep id []
  | .shareFunction id of => c.keepIf id ((w.functionAt? of).map fun _ => [])
  | .newVariable id function origin => c.keep id [.begin (function.bind w.functionAt?) origin]
  | .presetName id name => c.ofVariable w id fun c => c.change id (·.nameEvent (.preset name))
  | .presetType id type => c.ofVariable w id fun c => c.change id (·.typeEvent (.preset type))
  | .cloneVariable id of => c.keepIf id ((w.variableAt? of).map fun _ => c.histories of)
  | .newIl id .. => c.keep id []
  | .cloneIl id of => c.keepIf id ((w.ilAt? of).map fun _ => [])
  | .newVariableUse id var source => c.keepIf id do
      let _ ← w.variableAt? var
      let _ ← w.ilAt? source
      return c.histories var
  | .newStackUse id _ _ _ var _ _ => c.keepIf id ((w.variableAt? var).map fun _ => c.histories var)
  | .newParameters id vars =>
    c.keepIf id ((vars.mapM w.variableAt?).map fun _ => vars.flatMap c.histories)
  | .withConfidence id of _ => c.keepIf id ((w.parametersAt? of).map fun _ => c.histories of)
  | .newUserValue id var _ _ => c.keepIf id ((w.variableAt? var).map fun _ => c.histories var)
  | .drop id => c.keep id []
  | .setName id name => c.ofVariable w id fun c => c.change id (·.nameEvent (.overwritten name))
  | .setType id type => c.ofVariable w id fun c => c.change id (·.typeEvent (.overwritten type))
  | .setIdentifier id n => c.ofVariable w id fun c => c.change id ({ · with identifier := n })
  | .createVariable function l name type =>
    c.write (w.functionAt? function) l fun _ => ⟨some name, type⟩
  | .renameVariable function l name =>
    c.write (w.functionAt? function) l ({ · with name := some name })
  | .retypeVariable function l type =>
    c.write (w.functionAt? function) l ({ · with type := some type })
  | .lookUpName function _ => c.ask (w.functionAt? function).toList
  | .lookUpType function _ => c.ask (w.functionAt? function).toList
  | .readName id => c.ofVariable w id fun c => c.readNames id
  | .readType id => c.ofVariable w id fun c => c.readTypes id
  | .readTexts id => c.readNames id

/-- The story goes on with an operation. -/
def next (c : Chronicle) (w : Workspace) : Operation → Chronicle
  | .act a => c.act w a
  | .clone id of => c.keepIf id ((w.kept.get? of).map fun _ => c.histories of)
  | .ask _ => c

/-- The story of several operations, from a workspace on. -/
def follow (c : Chronicle) (w : Workspace) : List Operation → Chronicle
  | [] => c
  | op :: ops => (c.next w op).follow (w.perform op).2 ops

end Chronicle

end ValueLattice
