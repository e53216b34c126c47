/-
What a read of a variable answers, fills and asks, as three separate functions: the answer is what
the cell holds, or else what the engine knows at the location; the cell then holds the answer; and
the function is asked once if the cell was not filled. Asking changes nothing about a function but
its count of look-ups, so the texts of several variables are those of the single ones.
-/
import ValueLattice.Proofs.Variable.Identity

namespace ValueLattice

namespace Engine

variable {f : FunctionHandle}

/-! ## Look-ups -/

/-- The engine with one look-up more counted for each of the functions. -/
def countLookups (e : Engine) (fs : List FunctionHandle) : Engine :=
  fs.foldl countLookup e

@[simp] theorem countLookups_nil (e : Engine) : e.countLookups [] = e := rfl

theorem countLookups_append (e : Engine) (fs gs : List FunctionHandle) :
    e.countLookups (fs ++ gs) = (e.countLookups fs).countLookups gs :=
  List.foldl_append

@[simp] theorem info_countLookups (e : Engine) (fs : List FunctionHandle) (l : Location) :
    (e.countLookups fs).info f l = e.info f l := by
  induction fs generalizing e with
  | nil => rfl
  | cons g fs ih => exact (ih (e.countLookup g)).trans (e.info_countLookup f g l)

@[simp] theorem references_countLookups (e : Engine) (fs : List FunctionHandle) (n : Nat) :
    (e.countLookups fs).references n = e.references n := by
  induction fs generalizing e with
  | nil => rfl
  | cons g fs ih => exact (ih (e.countLookup g)).trans (Heap.references_modify ..)

@[simp] theorem next_countLookups (e : Engine) (fs : List FunctionHandle) :
    (e.countLookups fs).next = e.next := by
  induction fs generalizing e with
  | nil => rfl
  | cons g fs ih => exact ih (e.countLookup g)

theorem lookups_countLookup {e : Engine} (alive : 0 < e.references f.number) (g : FunctionHandle) :
    (e.countLookup g).lookups f = e.lookups f + if g.number = f.number then 1 else 0 := by
  unfold lookups countLookup
  rw [Heap.get?_modify]
  rcases hs : e.get? f.number with _ | s
  · exact absurd ((Heap.get?_eq_none_iff e f.number).1 hs) (Nat.pos_iff_ne_zero.1 alive)
  · by_cases same : g.number = f.number <;> simp [same]

theorem lookups_countLookups {e : Engine} (alive : 0 < e.references f.number)
    (gs : List FunctionHandle) :
    (e.countLookups gs).lookups f =
      e.lookups f + (gs.map FunctionHandle.number).count f.number := by
  induction gs generalizing e with
  | nil => rfl
  | cons g gs ih =>
    have alive' : 0 < (e.countLookup g).references f.number :=
      Nat.lt_of_lt_of_eq alive (Heap.references_modify ..).symm
    have hcons : e.countLookups (g :: gs) = (e.countLookup g).countLookups gs := rfl
    rw [hcons, ih alive', lookups_countLookup alive, List.map_cons, List.count_cons]
    simp only [beq_iff_eq]
    omega

end Engine

namespace Variable

/-! ## Answers -/

/-- The name that a read answers. -/
def nameIn (v : Variable) (e : Engine) : Option String :=
  v.nameCell.getD (v.function.bind fun f => (e.info f v.location).name)

/-- The type that a read answers. -/
def typeIn (v : Variable) (e : Engine) : Option Ty :=
  v.typeCell.getD (v.function.bind fun f => (e.info f v.location).type)

/-- The function that a read of a cell asks, if it asks one. -/
def asks {α : Type} (v : Variable) (cell : Option α) : List FunctionHandle :=
  if cell.isNone then v.handles else []

def nameAsks (v : Variable) : List FunctionHandle :=
  v.asks v.nameCell

def typeAsks (v : Variable) : List FunctionHandle :=
  v.asks v.typeCell

/-- The variable after a read of the name. -/
def nameFilled (v : Variable) (e : Engine) : Variable :=
  { v with nameCell := some (v.nameIn e) }

/-- The variable after a read of the type. -/
def typeFilled (v : Variable) (e : Engine) : Variable :=
  { v with typeCell := some (v.typeIn e) }

theorem mem_handles_of_asks {α : Type} {v : Variable} {cell : Option α} {f : FunctionHandle}
    (hf : f ∈ v.asks cell) : f ∈ v.handles := by
  unfold asks at hf
  split at hf
  · exact hf
  · cases hf

theorem readName_eq (v : Variable) (e : Engine) :
    v.readName e = (v.nameIn e, v.nameFilled e, e.countLookups v.nameAsks) := by
  unfold readName nameFilled nameIn nameAsks asks handles
  rcases v with ⟨_ | f, location, given, _ | name, type⟩ <;> rfl

theorem readType_eq (v : Variable) (e : Engine) :
    v.readType e = (v.typeIn e, v.typeFilled e, e.countLookups v.typeAsks) := by
  unfold readType typeFilled typeIn typeAsks asks handles
  rcases v with ⟨_ | f, location, given, name, _ | type⟩ <;> rfl

/-- A cell that is filled stays as it is. -/
theorem filled_name {v : Variable} {name : Option String} (hcell : v.nameCell = some name) :
    (∀ e, v.nameIn e = name ∧ v.nameFilled e = v) ∧ v.nameAsks = [] ∧ ∀ a, v.withName a = v := by
  obtain ⟨function, location, given, nameCell, typeCell⟩ := v
  obtain rfl : nameCell = some name := hcell
  exact ⟨fun _ => ⟨rfl, rfl⟩, rfl, fun _ => rfl⟩

theorem filled_type {v : Variable} {type : Option Ty} (hcell : v.typeCell = some type) :
    (∀ e, v.typeIn e = type ∧ v.typeFilled e = v) ∧ v.typeAsks = [] ∧ ∀ a, v.withType a = v := by
  obtain ⟨function, location, given, nameCell, typeCell⟩ := v
  obtain rfl : typeCell = some type := hcell
  exact ⟨fun _ => ⟨rfl, rfl⟩, rfl, fun _ => rfl⟩

@[simp] theorem nameIn_countLookups (v : Variable) (e : Engine) (fs : List FunctionHandle) :
    v.nameIn (e.countLookups fs) = v.nameIn e := by
  simp [nameIn]

theorem readTexts_eq (vs : List Variable) (e : Engine) :
    readTexts vs e = (vs.map fun v => v.shown (v.nameIn e), vs.map fun v => v.nameFilled e,
      e.countLookups (vs.flatMap nameAsks)) := by
  induction vs generalizing e with
  | nil => rfl
  | cons v vs ih =>
    -- the first read leaves the answers of the others as they were
    simp only [readTexts, readText, readName_eq, ih, nameFilled, nameIn_countLookups,
      List.map_cons, List.flatMap_cons, Engine.countLookups_append]
    rfl

end Variable

end ValueLattice
