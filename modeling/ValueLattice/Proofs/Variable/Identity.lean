/-
The identity of variables. A variable comes from a location or from an identifier, and presets,
reads and overwritten names and types leave its identity alone. Two variables of a function at one
location are equal whichever way they came about, unless exactly one of them comes from an
identifier with both source bits set, which is no location's own. Two variables from locations are
equal exactly if the locations agree in the bits that an identifier holds; if the locations fit
these bits they are the same, and a first read of either variable gets the same answer.
-/
import ValueLattice.Proofs.Heap
import ValueLattice.Proofs.Location
import ValueLattice.Workspace

namespace ValueLattice

/-- Whether an origin is an identifier with both source bits set. -/
def Origin.Stray : Origin → Prop
  | location _ => False
  | identifier n => Location.Stray n

instance (o : Origin) : Decidable o.Stray :=
  match o with
  | .location _ => inferInstanceAs (Decidable False)
  | .identifier n => inferInstanceAs (Decidable (Location.Stray n))

namespace Engine

theorem info_countLookup (e : Engine) (f g : FunctionHandle) (l : Location) :
    (e.countLookup g).info f l = e.info f l := by
  unfold info countLookup
  rw [Heap.get?_modify]
  split
  · next same => cases e.get? f.number <;> rfl
  · rfl

end Engine

namespace Variable

/-- A new variable of a function. -/
def ofOrigin (function : Option FunctionHandle) : Origin → Variable
  | .location l => .ofLocation function l
  | .identifier n => .ofIdentifier function n

/-- The variables of a function from an origin, whatever was preset, read or overwritten since,
except for the identifier. -/
inductive Built (function : Option FunctionHandle) (o : Origin) : Variable → Prop
  | new : Built function o (ofOrigin function o)
  | withName {v : Variable} (name : String) : Built function o v → Built function o (v.withName name)
  | withType {v : Variable} (type : Ty) : Built function o v → Built function o (v.withType type)
  | setName {v : Variable} (name : String) : Built function o v → Built function o (v.setName name)
  | setType {v : Variable} (type : Ty) : Built function o v → Built function o (v.setType type)
  | readName {v : Variable} (e : Engine) : Built function o v → Built function o (v.readName e).2.1
  | readType {v : Variable} (e : Engine) : Built function o v → Built function o (v.readType e).2.1

variable {function : Option FunctionHandle} {f : FunctionHandle} {o p : Origin} {a b v : Variable}

/-! ## Reading -/

theorem readName_variable (v : Variable) (e : Engine) :
    (v.readName e).2.1 = { v with nameCell := some (v.readName e).1 } := by
  unfold readName
  split
  · next name hcell => cases v; cases hcell; rfl
  · split <;> rfl

theorem readType_variable (v : Variable) (e : Engine) :
    (v.readType e).2.1 = { v with typeCell := some (v.readType e).1 } := by
  unfold readType
  split
  · next type hcell => cases v; cases hcell; rfl
  · split <;> rfl

theorem readName_of_none (hcell : v.nameCell = none) (hf : v.function = some f) (e : Engine) :
    (v.readName e).1 = (e.info f v.location).name := by
  unfold readName
  rw [hcell, hf]
  rfl

theorem readType_of_none (hcell : v.typeCell = none) (hf : v.function = some f) (e : Engine) :
    (v.readType e).1 = (e.info f v.location).type := by
  unfold readType
  rw [hcell, hf]
  rfl

/-- Reading writes nothing into the engine. -/
theorem info_readName (v : Variable) (e : Engine) (f : FunctionHandle) (l : Location) :
    (v.readName e).2.2.info f l = e.info f l := by
  unfold readName
  split
  · rfl
  · split
    · rfl
    · exact e.info_countLookup _ _ _

theorem info_readType (v : Variable) (e : Engine) (f : FunctionHandle) (l : Location) :
    (v.readType e).2.2.info f l = e.info f l := by
  unfold readType
  split
  · rfl
  · split
    · rfl
    · exact e.info_countLookup _ _ _

/-! ## What a variable keeps -/

/-- Only the memo cells of a variable change. -/
theorem Built.keeps (h : Built function o v) :
    v.function = function ∧ v.location = (ofOrigin function o).location ∧
      v.givenIdentifier = (ofOrigin function o).givenIdentifier := by
  induction h with
  | new => cases o <;> exact ⟨rfl, rfl, rfl⟩
  | withName _ _ ih => exact ih
  | withType _ _ ih => exact ih
  | setName _ _ ih => exact ih
  | setType _ _ ih => exact ih
  | readName e _ ih => rw [readName_variable]; exact ih
  | readType e _ ih => rw [readType_variable]; exact ih

theorem Built.location_eq {l : Location} (h : Built function (.location l) v) : v.location = l :=
  h.keeps.2.1

/-- The identifier is that of the location, with a further bit set if it came from outside so. -/
theorem Built.toNat_identifier (h : Built function o v) :
    v.identifier.toNat = v.location.identifier.toNat + if o.Stray then 2 ^ 62 else 0 := by
  obtain ⟨-, hlocation, hgiven⟩ := h.keeps
  unfold identifier
  rw [hlocation, hgiven]
  cases o with
  | location l => rfl
  | identifier n => exact Location.toNat_eq_identifier_ofIdentifier n

/-! ## Equality -/

theorem beq_self_function (function : Option FunctionHandle) : (function == function) = true := by
  cases function with
  | none => rfl
  | some f => exact beq_self_eq_true f.number

theorem beq_iff_of_function (h : a.function = b.function) :
    (a == b) = true ↔ a.identifier = b.identifier := by
  have hbeq : (a == b) = (a.identifier == b.identifier && a.function == b.function) := rfl
  rw [hbeq, h, beq_self_function, Bool.and_true, beq_iff_eq]

theorem feed_eq_iff_of_function (h : a.function = b.function) :
    feed a = feed b ↔ a.identifier = b.identifier := by
  have hfeed (v : Variable) : feed v = .word64 v.identifier :: feedOption feed v.function := rfl
  rw [hfeed, hfeed, h, List.cons.injEq, HashWord.word64.injEq]
  exact and_iff_left rfl

/-- Variables of a function at one location have one identity, unless exactly one of them comes from
an identifier with both source bits set. -/
theorem identity_of_location_eq (ha : Built function o a) (hb : Built function p b)
    (hlocation : a.location = b.location) :
    (a.identifier = b.identifier ↔ (o.Stray ↔ p.Stray)) ∧
    ((a == b) = true ↔ (o.Stray ↔ p.Stray)) ∧
    (feed a = feed b ↔ (o.Stray ↔ p.Stray)) := by
  have hfunction : a.function = b.function := ha.keeps.1.trans hb.keeps.1.symm
  have hidentifier : a.identifier = b.identifier ↔ (o.Stray ↔ p.Stray) := by
    rw [← UInt64.toNat_inj, ha.toNat_identifier, hb.toNat_identifier, hlocation]
    by_cases ho : o.Stray <;> by_cases hp : p.Stray <;> simp [ho, hp]
  refine ⟨hidentifier, ?_, ?_⟩
  · rw [beq_iff_of_function hfunction, hidentifier]
  · rw [feed_eq_iff_of_function hfunction, hidentifier]

/-- A preset name and a name that was looked up do not count. -/
theorem identity_of_location_eq_preset :
    Built none (.identifier 0x4000000200000005) (ofOrigin none (.identifier 0x4000000200000005)) ∧
    Built none (.location ⟨.register, 2, 5⟩)
      ((ofOrigin none (.location ⟨.register, 2, 5⟩)).withName "r5") ∧
    (ofOrigin none (.identifier 0x4000000200000005) ==
      (ofOrigin none (.location ⟨.register, 2, 5⟩)).withName "r5") = true := by
  have ha : Built none (.identifier 0x4000000200000005) _ := .new
  have hb : Built none (.location ⟨.register, 2, 5⟩) _ := .withName "r5" .new
  exact ⟨ha, hb, (identity_of_location_eq ha hb (by decide)).2.1.2 (by decide)⟩

/-- An identifier with both source bits set reads as the location of a flag, and the variable that
comes from it is another one than the variable of that location. -/
theorem identity_ne_of_stray :
    let f : FunctionHandle := ⟨0, 0x1000, none⟩
    ∃ a b, Built (some f) (.identifier 0xc000000000000000) a ∧
      Built (some f) (.location ⟨.flag, 0, 0⟩) b ∧
      a.location = b.location ∧ a.location.Fits ∧
      a.identifier ≠ b.identifier ∧ (a == b) = false ∧ feed a ≠ feed b :=
  ⟨_, _, .new, .new, by decide, ⟨by decide, by decide⟩, by decide, by decide, by decide⟩

/-! ## Equal variables of locations -/

/-- Equal variables of a function are at locations that agree in the bits of their identifiers. If
the locations fit these bits they are the same, and first reads of the two variables get what the
engine knows about it, if nothing is written about it between the reads. -/
theorem location_of_beq {l m : Location} (ha : Built (some f) (.location l) a)
    (hb : Built (some f) (.location m) b) (heq : (a == b) = true) :
    (l.source = m.source ∧ l.index.toNat % 2 ^ 30 = m.index.toNat % 2 ^ 30 ∧
      l.storage.toInt % 2 ^ 32 = m.storage.toInt % 2 ^ 32) ∧
    (l.Fits → m.Fits → l = m ∧
      (a.nameCell = none → b.nameCell = none →
        ∀ e e' : Engine, e'.info f l = (a.readName e).2.2.info f l →
          (a.readName e).1 = (e.info f l).name ∧ (b.readName e').1 = (a.readName e).1) ∧
      (a.typeCell = none → b.typeCell = none →
        ∀ e e' : Engine, e'.info f l = (a.readType e).2.2.info f l →
          (a.readType e).1 = (e.info f l).type ∧ (b.readType e').1 = (a.readType e).1)) := by
  have hfunction : a.function = b.function := ha.keeps.1.trans hb.keeps.1.symm
  have hidentifier : l.identifier = m.identifier := by
    have h := UInt64.toNat_inj.2 ((beq_iff_of_function hfunction).1 heq)
    rw [ha.toNat_identifier, hb.toNat_identifier, ha.location_eq, hb.location_eq] at h
    exact UInt64.toNat_inj.1 h
  refine ⟨Location.identifier_eq_iff.1 hidentifier, fun hl hm => ?_⟩
  obtain rfl : l = m := Location.eq_of_fits hl hm hidentifier
  refine ⟨rfl, fun hcell hcell' e e' hinfo => ?_, fun hcell hcell' e e' hinfo => ?_⟩
  · rw [readName_of_none hcell ha.keeps.1, readName_of_none hcell' hb.keeps.1, ha.location_eq,
      hb.location_eq, hinfo, info_readName]
    exact ⟨rfl, rfl⟩
  · rw [readType_of_none hcell ha.keeps.1, readType_of_none hcell' hb.keeps.1, ha.location_eq,
      hb.location_eq, hinfo, info_readType]
    exact ⟨rfl, rfl⟩

/-- A variable with a preset type still asks for its name. -/
theorem location_of_beq_named :
    let f : FunctionHandle := ⟨0, 0x1000, none⟩
    let l : Location := ⟨.stack, 1, -0x10⟩
    let e := Engine.createVariable (Engine.newFunction Heap.empty 0x1000 none).2 f l "counter" none
    let a := ofOrigin (some f) (.location l)
    let b := a.withType (.int 4 true)
    Built (some f) (.location l) a ∧ Built (some f) (.location l) b ∧ (a == b) = true ∧ l.Fits ∧
      a.nameCell = none ∧ b.nameCell = none ∧
      (a.readName e).1 = some "counter" ∧
      (b.readName (a.readName e).2.2).1 = some "counter" := by
  intro f l e a b
  have ha : Built (some f) (.location l) a := .new
  have hb : Built (some f) (.location l) b := .withType _ .new
  have hl : l.Fits := ⟨by decide, by decide⟩
  have heq : (a == b) = true := by decide
  have hread := ((location_of_beq ha hb heq).2 hl hl).2.1 rfl rfl e _ rfl
  have hname : (e.info f l).name = some "counter" := by decide
  exact ⟨ha, hb, heq, hl, rfl, rfl, hread.1.trans hname, hread.2.trans (hread.1.trans hname)⟩

/-- An index beyond thirty bits makes a variable equal to another one, with another name. -/
theorem location_ne_of_beq :
    let f : FunctionHandle := ⟨0, 0x1000, none⟩
    let l : Location := ⟨.stack, 0, 0⟩
    let m : Location := ⟨.stack, 0x40000000, 0⟩
    let e := Engine.createVariable (Engine.newFunction Heap.empty 0x1000 none).2 f l "x" none
    let a := ofOrigin (some f) (.location l)
    let b := ofOrigin (some f) (.location m)
    (a == b) = true ∧ l ≠ m ∧
      (a.readName e).1 = some "x" ∧ (b.readName (a.readName e).2.2).1 = none := by
  decide

end Variable

end ValueLattice
