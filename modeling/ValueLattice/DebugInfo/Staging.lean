/-
What parsers contribute to a view, without regard to handles and arrays. A script is run on a store
alone; a parser contributes that store if it applies and succeeds, and nothing otherwise; `gather`
merges the contributions of several parsers. A script leaves the same store when it runs on a host.
-/
import ValueLattice.DebugInfo.Registry

namespace ValueLattice

/-! ## Scripts on a store -/

/-- How a script ends, and the store it leaves, on a view with the functions `fs`. -/
def Script.fill (contributor : String) (fs : List FunctionHandle) :
    Script → Store → Outcome Unit × Store
  | .finish outcome, s => (outcome, s)
  | .add item next, s =>
    let (answer, s) := s.add contributor item
    fill contributor fs (next answer) s
  | .rentFunctions next, s => fill contributor fs (next fs) s
  | .giveBack next, s => fill contributor fs next s

/-! ## Parsers -/

namespace Parser

/-- Whether a parser applies to a view; a callback that fails says no. -/
def appliesTo (p : Parser) (v : ViewInfo) : Bool :=
  match (p.isValid v).result with
  | .ok answer => answer
  | .error _ => false

/-- The store that a parser fills, or the message with which it fails. -/
def filled (p : Parser) (v : View) : Except String Store :=
  let (outcome, s) := (p.script v.info).fill p.name v.functions {}
  outcome.result.map fun _ => s

/-- What a parser contributes to a view: nothing if it does not apply or fails. -/
def contribution (p : Parser) (v : View) : Option Store :=
  if p.appliesTo v.info then (p.filled v).toOption else none

end Parser

/-- A store with the contributions of parsers merged into it, in their order. -/
def Store.gather (s : Store) (v : View) (ps : List Parser) : Store :=
  (ps.filterMap fun p => p.contribution v).foldl Store.merge s

/-! ## Scripts on a host -/

namespace Host

theorem runScript_eq_fill (contributor : String) (v : View) (k : Script) (frame : Frame) :
    ((runScript contributor v k frame).1, (runScript contributor v k frame).2.staged) =
      k.fill contributor v.functions frame.staged := by
  induction k generalizing frame with
  | finish outcome => rfl
  | add item next ih => exact ih _ _
  | rentFunctions next ih => exact ih _ _
  | giveBack next ih =>
    unfold runScript
    split
    · exact ih _
    · exact ih _

theorem isolate_fst {α : Type} (p : Parser) (stage : Stage) (callback : Outcome α) :
    (isolate p stage callback).1 = callback.result := by
  unfold isolate
  split <;> simp_all

/-- A parser that is run on a host fills the store that it fills alone. -/
theorem stage_fst (h : Host) (p : Parser) (v : View) : (h.stage p v).1 = p.filled v := by
  have same := runScript_eq_fill p.name v (p.script v.info) ⟨h, {}, []⟩
  show (isolate p .parseInfo _).1.map _ = _
  unfold Parser.filled
  rw [isolate_fst, ← same]

/-- What happens while a parser is run on a host is what its script alone makes happen. -/
theorem stage_events (h : Host) (p : Parser) (v : View) : (h.stage p v).2.1 =
    (isolate p .parseInfo ((p.script v.info).fill p.name v.functions {}).1).2 := by
  have same := runScript_eq_fill p.name v (p.script v.info) ⟨h, {}, []⟩
  show (isolate p .parseInfo _).2 = _
  rw [← same]

theorem appliesTo_fst (p : Parser) (v : ViewInfo) : (appliesTo p v).1 = p.appliesTo v := by
  unfold appliesTo Parser.appliesTo isolate
  rcases (p.isValid v).result with message | answer
  · rfl
  · rfl

end Host

end ValueLattice
