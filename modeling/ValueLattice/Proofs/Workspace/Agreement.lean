/-
When an engine and a variable are what their story made of them. An engine has to know what was
written about the variables of the functions that are there, and to have counted their look-ups; a
variable has to hold what its history says. Every write, read and change of handles keeps this.
-/
import Mathlib.Data.List.Forall2
import ValueLattice.Proofs.Workspace.Chronicle
import ValueLattice.Proofs.Workspace.References

namespace ValueLattice

section Related

variable {α β γ δ : Type} {R : α → β → Prop} {xs : List α} {ys : List β}

theorem forall₂_map {S : γ → δ → Prop} {f : α → γ} {g : β → δ} (h : List.Forall₂ R xs ys)
    (hfg : ∀ x y, R x y → S (f x) (g y)) : List.Forall₂ S (xs.map f) (ys.map g) :=
  List.forall₂_map_left_iff.2 (List.forall₂_map_right_iff.2 (h.imp hfg))

theorem map_eq_map_of_forall₂ {f : α → γ} {g : β → γ} (h : List.Forall₂ R xs ys)
    (hfg : ∀ x y, R x y → f x = g y) : xs.map f = ys.map g := by
  rw [← List.forall₂_eq_eq_eq]
  exact forall₂_map h hfg

end Related

/-! ## The engine -/

namespace Engine

/-- The functions that are there know what was written about their variables and were asked as
often as the look-ups tell; nothing is told about functions to come. -/
structure Follows (e : Engine) (known : Knowledge) (asked : List Nat) : Prop where
  info : ∀ (f : FunctionHandle) l, 0 < e.references f.number → e.info f l = known f.number l
  lookups : ∀ f : FunctionHandle, 0 < e.references f.number →
    e.lookups f = asked.count f.number
  fresh : ∀ n, e.next ≤ n → (∀ l, known n l = {}) ∧ n ∉ asked

variable {e e' : Engine} {known : Knowledge} {asked : List Nat} {f : FunctionHandle}

theorem follows_empty : Follows Heap.empty (fun _ _ => {}) [] :=
  ⟨fun _ _ _ => rfl, fun _ _ => rfl, fun _ _ => ⟨fun _ => rfl, List.not_mem_nil⟩⟩

theorem Follows.of_get? (h : e.Follows known asked) (hnext : e'.next = e.next)
    (hget : ∀ n, 0 < e'.references n → 0 < e.references n ∧ e'.get? n = e.get? n) :
    e'.Follows known asked where
  info f l alive := by
    obtain ⟨alive, hget⟩ := hget _ alive
    rw [← h.info f l alive, Engine.info, hget, Engine.info]
  lookups f alive := by
    obtain ⟨alive, hget⟩ := hget _ alive
    rw [← h.lookups f alive, Engine.lookups, hget, Engine.lookups]
  fresh n hn := h.fresh n (hnext ▸ hn)

theorem Follows.takeHandles (h : e.Follows known asked) (fs : List FunctionHandle) :
    (e.takeHandles fs).Follows known asked := by
  refine h.of_get? (Heap.next_retainAll ..) fun n alive => ⟨?_, Heap.get?_retainAll ..⟩
  rw [Engine.takeHandles, Heap.references_retainAll] at alive
  split at alive
  · assumption
  · exact alive

theorem Follows.giveHandles (h : e.Follows known asked) (fs : List FunctionHandle) :
    (e.giveHandles fs).Follows known asked := by
  -- a function that is left had handles before, and giving some back did not touch it
  refine h.of_get? (Heap.next_releaseAll ..) fun n alive => ⟨?_, Heap.get?_releaseAll alive⟩
  rw [Engine.giveHandles, Heap.references_releaseAll] at alive
  omega

theorem Follows.newFunction (h : e.Follows known asked) (start : UInt64)
    (arch : Option Architecture) : (e.newFunction start arch).2.Follows known asked := by
  have hget (n : Nat) : (e.newFunction start arch).2.get? n =
      if e.next = n then some {} else e.get? n := Heap.get?_alloc ..
  refine ⟨fun f l alive => ?_, fun f alive => ?_, fun n hn => h.fresh n (Nat.le_of_succ_le hn)⟩
  -- nothing is told about the new number yet, and the new function knows nothing
  · by_cases same : e.next = f.number
    · rw [Engine.info, hget, if_pos same, (h.fresh _ (Nat.le_of_eq same)).1]
      rfl
    · rw [references_newFunction, if_neg same] at alive
      rw [← h.info f l alive, Engine.info, hget, if_neg same, Engine.info]
  · by_cases same : e.next = f.number
    · rw [Engine.lookups, hget, if_pos same, List.count_eq_zero.2 (h.fresh _ (Nat.le_of_eq same)).2]
    · rw [references_newFunction, if_neg same] at alive
      rw [← h.lookups f alive, Engine.lookups, hget, if_neg same, Engine.lookups]

theorem Follows.countLookups (h : e.Follows known asked) {fs : List FunctionHandle}
    (hfs : ∀ f ∈ fs, f.number < e.next) :
    (e.countLookups fs).Follows known (asked ++ fs.map FunctionHandle.number) where
  info f l alive := by
    rw [references_countLookups] at alive
    rw [info_countLookups, h.info f l alive]
  lookups f alive := by
    rw [references_countLookups] at alive
    rw [lookups_countLookups alive, h.lookups f alive, List.count_append]
  fresh n hn := by
    rw [next_countLookups] at hn
    refine ⟨(h.fresh n hn).1, fun hmem => ?_⟩
    rcases List.mem_append.1 hmem with hmem | hmem
    · exact (h.fresh n hn).2 hmem
    · obtain ⟨f, hf, rfl⟩ := List.mem_map.1 hmem
      exact Nat.not_lt.2 hn (hfs f hf)

theorem info_writeInfo {g : FunctionHandle} (alive : 0 < e.references g.number)
    (f : FunctionHandle) (l m : Location) (change : VariableInfo → VariableInfo) :
    (e.writeInfo f l change).info g m =
      if f.number = g.number ∧ l = m then change (e.info g m) else e.info g m := by
  unfold info writeInfo
  rw [Heap.get?_modify]
  rcases hs : e.get? g.number with _ | s
  · exact absurd ((Heap.get?_eq_none_iff e g.number).1 hs) (Nat.pos_iff_ne_zero.1 alive)
  · by_cases same : f.number = g.number
    · by_cases here : l = m <;> simp [same, here, Keyed.get?_put]
    · simp [same]

theorem lookups_writeInfo (e : Engine) (f g : FunctionHandle) (l : Location)
    (change : VariableInfo → VariableInfo) : (e.writeInfo f l change).lookups g = e.lookups g := by
  unfold lookups writeInfo
  rw [Heap.get?_modify]
  by_cases same : f.number = g.number
  · rcases e.get? g.number with _ | s <;> simp [same]
  · simp [same]

theorem Follows.writeInfo (h : e.Follows known asked) (hf : f.number < e.next) (l : Location)
    (change : VariableInfo → VariableInfo) :
    (e.writeInfo f l change).Follows
      (fun n m => if f.number = n ∧ l = m then change (known n m) else known n m) asked where
  info g m alive := by
    rw [Engine.writeInfo, Heap.references_modify] at alive
    rw [info_writeInfo alive, h.info g m alive]
  lookups g alive := by
    rw [Engine.writeInfo, Heap.references_modify] at alive
    rw [lookups_writeInfo, h.lookups g alive]
  fresh n hn := by
    have hother : ¬ f.number = n := Nat.ne_of_lt (Nat.lt_of_lt_of_le hf hn)
    refine ⟨fun m => ?_, (h.fresh n hn).2⟩
    rw [if_neg fun both => hother both.1]
    exact (h.fresh n hn).1 m

end Engine

/-! ## Variables -/

namespace Variable

/-- A variable is what its history made of it. -/
structure Follows (v : Variable) (h : History) : Prop where
  function : v.function = h.function
  location : v.location = h.location
  identifier : v.identifier = h.identifier
  nameCell : v.nameCell = CellEvent.content h.names
  typeCell : v.typeCell = CellEvent.content h.types

variable {v : Variable} {h : History} {e : Engine} {known : Knowledge}

theorem Follows.withName (hv : v.Follows h) (name : String) :
    (v.withName name).Follows (h.nameEvent (.preset name)) where
  __ := hv
  nameCell := (congrArg (Option.or · _) hv.nameCell).trans
    (CellEvent.content_preset h.names name).symm

theorem Follows.withType (hv : v.Follows h) (type : Ty) :
    (v.withType type).Follows (h.typeEvent (.preset type)) where
  __ := hv
  typeCell := (congrArg (Option.or · _) hv.typeCell).trans
    (CellEvent.content_preset h.types type).symm

theorem Follows.setName (hv : v.Follows h) (name : String) :
    (v.setName name).Follows (h.nameEvent (.overwritten name)) where
  __ := hv
  nameCell := (CellEvent.content_overwritten h.names name).symm

theorem Follows.setType (hv : v.Follows h) (type : Ty) :
    (v.setType type).Follows (h.typeEvent (.overwritten type)) where
  __ := hv
  typeCell := (CellEvent.content_overwritten h.types type).symm

theorem Follows.setIdentifier (hv : v.Follows h) (n : UInt64) :
    (v.setIdentifier n).Follows { h with identifier := n } where
  __ := hv
  identifier := rfl

/-- The engine knows about a variable what was written about it. -/
def InformedBy (v : Variable) (e : Engine) (known : Knowledge) : Prop :=
  ∀ f, v.function = some f → e.info f v.location = known f.number v.location

theorem Follows.nameIn (hv : v.Follows h) (hi : v.InformedBy e known) :
    v.nameIn e = h.name known := by
  unfold Variable.nameIn History.name History.knownName History.known?
  rw [← hv.nameCell, ← hv.function, ← hv.location]
  rcases hf : v.function with _ | f
  · rfl
  · rw [Option.bind_some, hi f hf]
    rfl

theorem Follows.typeIn (hv : v.Follows h) (hi : v.InformedBy e known) :
    v.typeIn e = h.type known := by
  unfold Variable.typeIn History.type History.knownType History.known?
  rw [← hv.typeCell, ← hv.function, ← hv.location]
  rcases hf : v.function with _ | f
  · rfl
  · rw [Option.bind_some, hi f hf]
    rfl

theorem Follows.filled_name (hv : v.Follows h) (hne : h.names ≠ []) (known : Knowledge) :
    v.nameCell = some (h.name known) :=
  hv.nameCell.trans (CellEvent.content_of_ne_nil hne _)

theorem Follows.filled_type (hv : v.Follows h) (hne : h.types ≠ []) (known : Knowledge) :
    v.typeCell = some (h.type known) :=
  hv.typeCell.trans (CellEvent.content_of_ne_nil hne _)

theorem Follows.asks {α : Type} (hv : v.Follows h) {cell : Option (Option α)}
    {events : List (CellEvent α)} (hcell : cell = CellEvent.content events) :
    v.asks cell = h.asks events := by
  rw [Variable.asks, History.asks, handles, hcell, hv.function, CellEvent.isNone_content]

theorem Follows.nameFilled (hv : v.Follows h) (hi : v.InformedBy e known) :
    (v.nameFilled e).Follows (h.nameEvent (.read (h.knownName known))) where
  __ := hv
  nameCell := (congrArg some (hv.nameIn hi)).trans (CellEvent.content_read h.names _).symm

theorem Follows.typeFilled (hv : v.Follows h) (hi : v.InformedBy e known) :
    (v.typeFilled e).Follows (h.typeEvent (.read (h.knownType known))) where
  __ := hv
  typeCell := (congrArg some (hv.typeIn hi)).trans (CellEvent.content_read h.types _).symm

theorem Follows.text (hv : v.Follows h) (hi : v.InformedBy e known) :
    v.shown (v.nameIn e) = h.text known := by
  rw [shown, History.text, hv.nameIn hi, hv.identifier]

end Variable

end ValueLattice
