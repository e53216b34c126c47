/-
Everything that can be done with the objects of a workspace: the actions, a clone of any kept
object, and questions, which compare, hash or sort kept objects and leave the workspace alone.
-/
import ValueLattice.Workspace

namespace ValueLattice

namespace Kept

/-- Whether two objects of one sort are equal. -/
def equal? : Kept → Kept → Option Bool
  | function f, function g => some (f == g)
  | var a, var b => some (a == b)
  | il a, il b => some (a == b)
  | variableUse a, variableUse b => some (a == b)
  | stackUse a, stackUse b => some (a == b)
  | parameters a, parameters b => some (a == b)
  | userValue a, userValue b => some (a == b)
  | _, _ => none

/-- How two objects of one sort are ordered, if the sort has an order. -/
def order? : Kept → Kept → Option Ordering
  | il a, il b => some (a.order b)
  | variableUse a, variableUse b => some (a.order b)
  | _, _ => none

/-- What an object feeds a hasher; user values cannot be hashed. -/
def words? : Kept → Option (List HashWord)
  | function f => some (feed f)
  | var v => some (feed v)
  | il r => some (feed r)
  | variableUse u => some (feed u)
  | stackUse u => some (feed u)
  | parameters p => some (feed p)
  | userValue _ => none

end Kept

/-- What can be asked about kept objects without asking the engine. -/
inductive Question
  | equal (a b : String)
  | order (a b : String)
  | hash (id : String)
  | identifier (id : String)
  | sortIl (ids : List String)
  | sortUses (ids : List String)

/-- What can be done with the objects of a workspace. -/
inductive Operation
  | act (a : Action)
  | clone (id of : String)
  | ask (q : Question)

/-- What an operation answers. -/
inductive Reply
  | report (r : Report)
  | flag (b : Option Bool)
  | order (o : Option Ordering)
  | words (ws : Option (List HashWord))
  | identifier (n : Option UInt64)
  | names (ids : List String)

namespace Workspace

/-- The answer to a question. -/
def reply (w : Workspace) : Question → Reply
  | .equal a b => .flag do (← w.kept.get? a).equal? (← w.kept.get? b)
  | .order a b => .order do (← w.kept.get? a).order? (← w.kept.get? b)
  | .hash id => .words ((w.kept.get? id).bind Kept.words?)
  | .identifier id => .identifier ((w.variableAt? id).map Variable.identifier)
  | .sortIl ids => .names (w.sortIl ids)
  | .sortUses ids => .names (w.sortUses ids)

/-- The workspace after an operation, and what the operation answers. -/
def perform (w : Workspace) : Operation → Reply × Workspace
  | .act a =>
    let (report, w) := w.step a
    (.report report, w)
  | .clone id of => (.report .nothing, w.keepIf id (w.kept.get? of))
  | .ask q => (w.reply q, w)

/-- The workspace after several operations. -/
def performAll (w : Workspace) (ops : List Operation) : Workspace :=
  ops.foldl (fun w op => (w.perform op).2) w

end Workspace

end ValueLattice
