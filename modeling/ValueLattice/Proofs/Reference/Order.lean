/-
The order of references is a total order that fits their equality and their hash. References are
compared by a key, function first, and uses of variables by the identifier and the function of the
variable before that. The number of a function decides between functions with one start only.
-/
import ValueLattice.Proofs.Order
import ValueLattice.Reference.Use

namespace ValueLattice

/-! ## Functions -/

namespace FunctionHandle

/-- The start of a function, then its number. -/
def key (f : FunctionHandle) : ℕ ×ₗ ℕ :=
  toLex (f.start.toNat, f.number)

theorem orderedBy : OrderedBy order key :=
  (OrderedBy.word.on start).andThen (OrderedBy.nat.on number)

theorem key_eq_iff {f g : FunctionHandle} :
    f.key = g.key ↔ f.start = g.start ∧ f.number = g.number := by
  unfold key
  rw [toLex_inj, Prod.mk.injEq, UInt64.toNat_inj]

/-- Handles to one function start at one address. -/
theorem map_key_eq_iff {start : Nat → UInt64} {o p : Option FunctionHandle}
    (ho : ∀ f ∈ o, f.start = start f.number) (hp : ∀ f ∈ p, f.start = start f.number) :
    o.map key = p.map key ↔ (o == p) = true := by
  cases o with
  | none => cases p <;> simp
  | some f => cases p with
    | none => simp
    | some g =>
      have hbeq : (some f == some g) = (f.number == g.number) := rfl
      rw [hbeq, beq_iff_eq, Option.map_some, Option.map_some, Option.some.injEq, key_eq_iff,
        ho f rfl, hp g rfl]
      exact ⟨And.right, fun h => ⟨congrArg start h, h⟩⟩

end FunctionHandle

/-! ## References -/

theorem IlForm.rank_injective {a b : IlForm} (h : a.rank = b.rank) : a = b := by
  cases a <;> cases b <;> first | rfl | cases h

namespace IlReference

variable {a b : IlReference}

/-- What orders the references of one function: the architecture name, a missing one first, the
address, the language and the expression number. -/
def keyInFunction (r : IlReference) : WithBot String ×ₗ ℕ ×ₗ ℕ ×ₗ ℕ :=
  toLex (keyOrLeast id r.archName, toLex (r.address.toNat, toLex (r.form.rank, r.expr.toNat)))

/-- The function, a missing one first, and what orders the references of one function. -/
def key (r : IlReference) : WithBot (ℕ ×ₗ ℕ) ×ₗ WithBot String ×ₗ ℕ ×ₗ ℕ ×ₗ ℕ :=
  toLex (keyOrLeast FunctionHandle.key r.function, r.keyInFunction)

/-- The key with the start of the function only. -/
def place (r : IlReference) : WithBot ℕ ×ₗ WithBot String ×ₗ ℕ ×ₗ ℕ ×ₗ ℕ :=
  toLex (keyOrLeast (fun f => f.start.toNat) r.function, r.keyInFunction)

/-- Compares references of one function. -/
def orderInFunction (a b : IlReference) : Ordering :=
  (orderOption compare a.archName b.archName).then <|
    (compare a.address b.address).then <|
      (compare a.form.rank b.form.rank).then (compare a.expr b.expr)

theorem orderedBy_keyInFunction : OrderedBy orderInFunction keyInFunction :=
  (OrderedBy.string.option.on archName).andThen <|
    (OrderedBy.word.on address).andThen <|
      (OrderedBy.nat.on fun r : IlReference => r.form.rank).andThen (OrderedBy.word.on expr)

theorem orderedBy : OrderedBy order key :=
  (FunctionHandle.orderedBy.option.on function).andThen orderedBy_keyInFunction

/-- Between functions that do not start at one address the start decides. -/
theorem orderOption_of_not_twins {o p : Option FunctionHandle} (h : twinFunctions o p = false) :
    orderOption FunctionHandle.order o p =
      orderOption (fun f g => compare f.start g.start) o p := by
  cases o with
  | none => cases p <;> rfl
  | some f => cases p with
    | none => rfl
    | some g =>
      have hboth : orderOption FunctionHandle.order (some f) (some g) =
          (compare f.start g.start).then (compare f.number g.number) := rfl
      have htwins : twinFunctions (some f) (some g) =
          (!(f.number == g.number) && f.start == g.start) := rfl
      rw [hboth]
      cases hcompare : compare f.start g.start with
      | lt => exact hcompare.symm
      | gt => exact hcompare.symm
      | eq =>
        have hstart : f.start = g.start := Std.LawfulEqOrd.eq_of_compare hcompare
        have hnumber : f.number = g.number := by
          simpa [htwins, hstart] using h
        rw [hnumber, Std.ReflOrd.compare_self]
        exact hcompare.symm

theorem order_eq_compare_place (h : twinFunctions a.function b.function = false) :
    a.order b = compare a.place b.place := by
  have hstart := ((OrderedBy.word.on FunctionHandle.start).option.on function).andThen
    orderedBy_keyInFunction
  have horder : a.order b =
      (orderOption FunctionHandle.order a.function b.function).then (a.orderInFunction b) := rfl
  rw [horder, orderOption_of_not_twins h]
  exact hstart a b

theorem beq_iff : (a == b) = true ↔
    a.function.map (fun f => (f.start, f.number)) = b.function.map (fun f => (f.start, f.number)) ∧
      a.archName = b.archName ∧ a.address = b.address ∧ a.form = b.form ∧ a.expr = b.expr := by
  have hbeq : (a == b) = (a.function.map (fun f => (f.start, f.number)) ==
    b.function.map (fun f => (f.start, f.number)) && a.archName == b.archName &&
    a.address == b.address && a.form == b.form && a.expr == b.expr) := rfl
  rw [hbeq]
  simp only [Bool.and_eq_true, beq_iff_eq, and_assoc]

theorem key_eq_iff : a.key = b.key ↔ (a == b) = true := by
  have hfunctions : a.function.map FunctionHandle.key = b.function.map FunctionHandle.key ↔
      a.function.map (fun f => (f.start, f.number)) =
        b.function.map (fun f => (f.start, f.number)) := by
    cases a.function <;> cases b.function <;> simp [FunctionHandle.key_eq_iff]
  have hforms : a.form.rank = b.form.rank ↔ a.form = b.form :=
    ⟨IlForm.rank_injective, congrArg IlForm.rank⟩
  rw [beq_iff]
  unfold key keyInFunction
  simp only [toLex_inj, Prod.mk.injEq, keyOrLeast_eq_iff, UInt64.toNat_inj, hforms, hfunctions,
    Option.map_id, id]

theorem feed_eq_of_beq (h : (a == b) = true) : feed a = feed b := by
  have hfunction (o : Option FunctionHandle) :
      feedOption (fun f : FunctionHandle => [.word64 f.start, .handle f.number]) o =
        feedOption (fun p : UInt64 × Nat => [.word64 p.1, .handle p.2])
          (o.map fun f => (f.start, f.number)) := by
    cases o <;> rfl
  have hfeed (r : IlReference) : feed r =
      feedOption (fun f : FunctionHandle => [.word64 f.start, .handle f.number]) r.function ++
        feedOption (fun s => [.text s]) r.archName ++
        [.word64 r.address, .variant r.form.rank, .word64 r.expr] := rfl
  obtain ⟨hfunctions, harch, haddress, hform, hexpr⟩ := beq_iff.1 h
  rw [hfeed, hfeed, hfunction, hfunction, hfunctions, harch, haddress, hform, hexpr]

/-- The order of references fits their equality and their hash. -/
theorem orderFits : OrderFits order fun _ => True :=
  orderedBy.fits (fun _ _ _ _ => key_eq_iff) fun _ _ => feed_eq_of_beq

end IlReference

/-! ## Uses of variables -/

namespace VariableUse

variable {a b : VariableUse}

/-- The identifier of the variable, its function, a missing one first, and the expression. -/
def key (u : VariableUse) :
    ℕ ×ₗ WithBot (ℕ ×ₗ ℕ) ×ₗ WithBot (ℕ ×ₗ ℕ) ×ₗ WithBot String ×ₗ ℕ ×ₗ ℕ ×ₗ ℕ :=
  toLex (u.var.identifier.toNat,
    toLex (keyOrLeast FunctionHandle.key u.var.function, u.source.key))

/-- Whether the functions in a use start where they are known to start. -/
def StartsAt (start : Nat → UInt64) (u : VariableUse) : Prop :=
  ∀ f ∈ u.handles, f.start = start f.number

instance (start : Nat → UInt64) (u : VariableUse) : Decidable (u.StartsAt start) :=
  inferInstanceAs (Decidable (∀ f ∈ u.handles, f.start = start f.number))

theorem orderedBy : OrderedBy order key :=
  (OrderedBy.word.on fun u : VariableUse => u.var.identifier).andThen <|
    (FunctionHandle.orderedBy.option.on fun u : VariableUse => u.var.function).andThen
      (IlReference.orderedBy.on source)

theorem beq_iff : (a == b) = true ↔ a.var.identifier = b.var.identifier ∧
    (a.var.function == b.var.function) = true ∧ (a.source == b.source) = true := by
  have hbeq : (a == b) = (a.var.identifier == b.var.identifier &&
    a.var.function == b.var.function && a.source == b.source) := rfl
  rw [hbeq]
  simp only [Bool.and_eq_true, beq_iff_eq, and_assoc]

theorem key_eq_iff {start : Nat → UInt64} (ha : a.StartsAt start) (hb : b.StartsAt start) :
    a.key = b.key ↔ (a == b) = true := by
  have hstart {u : VariableUse} (hu : u.StartsAt start) :
      ∀ f ∈ u.var.function, f.start = start f.number := fun f hf =>
    hu f (List.mem_append_left _ (Option.mem_toList.2 hf))
  have hfunctions := FunctionHandle.map_key_eq_iff (hstart ha) (hstart hb)
  rw [beq_iff]
  unfold key
  simp only [toLex_inj, Prod.mk.injEq, keyOrLeast_eq_iff, UInt64.toNat_inj, hfunctions,
    IlReference.key_eq_iff]

theorem feed_eq_of_beq (h : (a == b) = true) : feed a = feed b := by
  obtain ⟨hidentifier, hfunction, hsource⟩ := beq_iff.1 h
  have hfunctions {o p : Option FunctionHandle} (hop : (o == p) = true) :
      feedOption feed o = feedOption feed p := by
    cases o with
    | none => cases p with
      | none => rfl
      | some g => cases hop
    | some f => cases p with
      | none => cases hop
      | some g =>
        have hnumber : f.number = g.number := beq_iff_eq.1 hop
        exact congrArg (fun n => [HashWord.variant 1, HashWord.handle n]) hnumber
  have hfeed (u : VariableUse) : feed u =
      .word64 u.var.identifier :: feedOption feed u.var.function ++ feed u.source := rfl
  rw [hfeed, hfeed, hidentifier, hfunctions hfunction, IlReference.feed_eq_of_beq hsource]

/-- The order of uses fits their equality and their hash, if a function starts at one address. -/
theorem orderFits (start : Nat → UInt64) : OrderFits order (StartsAt start) :=
  orderedBy.fits (fun _ _ => key_eq_iff) fun _ _ => feed_eq_of_beq

end VariableUse

end ValueLattice
