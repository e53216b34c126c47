/-
The names of a function, after any calls that describe it. A raw name brings a full name with it and
a full name a short name, each only where it is missing; so a full name that is given counts more
than a raw name, whichever comes first, but the short name stays that of the full name that was
there first. Calls that give the same names therefore lead to the same names in every order, except
where nobody gives a short name and the given full name ends differently from the raw one. This
holds however raw names are demangled, as long as one name always gives one path.
-/
import ValueLattice.DebugInfo.Item
import ValueLattice.Proofs.Text.Cutting
import Mathlib.Data.List.Induction

namespace ValueLattice

namespace FunctionInfo

/-- One call in the description of a function. -/
inductive Call
  | shortName (name : String)
  | fullName (name : String)
  | rawName (name : String)
  | returnType (type : Ty)
  | parameter (name : String) (type : Ty)
  deriving DecidableEq

namespace Call

/-- The short name that a call gives. -/
def short? : Call → Option String
  | shortName name => some name
  | _ => none

/-- The full name that a call gives. -/
def full? : Call → Option String
  | fullName name => some name
  | _ => none

/-- The raw name that a call gives. -/
def raw? : Call → Option String
  | rawName name => some name
  | _ => none

/-- The full name that a call gives or spells out. -/
def path? (demangle? : String → Option String) : Call → Option String
  | fullName name => some name
  | rawName name => some (pathOf demangle? name)
  | _ => none

end Call

def perform (demangle? : String → Option String) (f : FunctionInfo) : Call → FunctionInfo
  | .shortName name => f.withShortName name
  | .fullName name => f.withFullName name
  | .rawName name => f.withRawName demangle? name
  | .returnType type => f.withReturnType type
  | .parameter name type => f.withParameter name type

/-- A function at an address, after some calls. -/
def described (demangle? : String → Option String) (address : UInt64) (calls : List Call) :
    FunctionInfo :=
  calls.foldl (perform demangle?) { address }

/-- Whether a raw name is given before a full name. -/
def RawFirst (calls : List Call) : Prop :=
  ∃ raw full, [Call.rawName raw, Call.fullName full].Sublist calls

/-! ## Any calls -/

variable {demangle? : String → Option String} {calls others : List Call} {f g : FunctionInfo}

section Concat

variable (part : Call → Option String) (calls : List Call) (c : Call)

theorem findSome?_concat : (calls ++ [c]).findSome? part = (calls.findSome? part).or (part c) := by
  rw [List.findSome?_append, List.findSome?_singleton]

theorem findSome?_reverse_concat :
    (calls ++ [c]).reverse.findSome? part = (part c).or (calls.reverse.findSome? part) := by
  rw [List.reverse_concat, ← List.singleton_append, List.findSome?_append,
    List.findSome?_singleton]

end Concat

/-- What the names are after some calls: the last ones that were given, and where none was given the
path of the first raw name and the last part of the first path. -/
structure Named (demangle? : String → Option String) (calls : List Call) (f : FunctionInfo) :
    Prop where
  raw : f.rawName = calls.reverse.findSome? Call.raw?
  full : f.fullName =
    (calls.reverse.findSome? Call.full?).or
      ((calls.findSome? Call.raw?).map (pathOf demangle?))
  short : f.shortName =
    (calls.reverse.findSome? Call.short?).or
      ((calls.findSome? (Call.path? demangle?)).map Text.lastSegment)

theorem fullName_withRawName (demangle? : String → Option String) (f : FunctionInfo)
    (name : String) : (f.withRawName demangle? name).fullName =
      f.fullName.or (some (pathOf demangle? name)) := by
  unfold withRawName
  cases h : f.fullName with
  | none => rfl
  | some full => exact h

theorem shortName_withRawName_of_none (demangle? : String → Option String)
    (h : f.fullName = none) (name : String) : (f.withRawName demangle? name).shortName =
      f.shortName.or (some (Text.lastSegment (pathOf demangle? name))) := by
  unfold withRawName
  rw [h]
  rfl

theorem shortName_withRawName_of_some (demangle? : String → Option String) {full : String}
    (h : f.fullName = some full) (name : String) :
    (f.withRawName demangle? name).shortName = f.shortName := by
  unfold withRawName
  rw [h]

theorem path_eq_none_iff : calls.findSome? (Call.path? demangle?) = none ↔
    calls.findSome? Call.full? = none ∧ calls.findSome? Call.raw? = none := by
  simp only [List.findSome?_eq_none_iff, ← forall_and]
  refine forall₂_congr fun c _ => ?_
  cases c <;> simp [Call.path?, Call.full?, Call.raw?]

theorem Named.fullName_eq_none_iff (h : Named demangle? calls f) :
    f.fullName = none ↔ calls.findSome? (Call.path? demangle?) = none := by
  rw [h.full, path_eq_none_iff, Option.or_eq_none_iff, Option.map_eq_none_iff]
  simp

theorem Named.perform (h : Named demangle? calls f) (c : Call) :
    Named demangle? (calls ++ [c]) (perform demangle? f c) := by
  constructor
  · rw [findSome?_reverse_concat, ← h.raw]
    cases c <;> rfl
  · rw [findSome?_reverse_concat, findSome?_concat, Option.map_or, ← Option.or_assoc]
    cases c with
    | fullName name => rfl
    | rawName name =>
      have hgiven := fullName_withRawName demangle? f name
      rwa [h.full] at hgiven
    | _ => exact h.full.trans (by simp [Call.full?, Call.raw?])
  · rw [findSome?_reverse_concat, findSome?_concat, Option.map_or, ← Option.or_assoc]
    cases c with
    | shortName name => rfl
    | fullName name =>
      have hgiven : (f.withFullName name).shortName =
          f.shortName.or (some (Text.lastSegment name)) := rfl
      rwa [h.short] at hgiven
    | rawName name =>
      cases hfull : f.fullName with
      | none =>
        have hgiven := shortName_withRawName_of_none demangle? hfull name
        rwa [h.short] at hgiven
      | some full =>
        -- a full name is there, and so is the path that it came from
        have hpath : calls.findSome? (Call.path? demangle?) ≠ none :=
          fun hnone => nomatch hfull.symm.trans (h.fullName_eq_none_iff.2 hnone)
        obtain ⟨path, hpath⟩ := Option.ne_none_iff_exists'.1 hpath
        have hgiven := shortName_withRawName_of_some demangle? hfull name
        rw [h.short, hpath] at hgiven
        rw [hpath]
        exact hgiven.trans (by simp [Call.short?])
    | _ => exact h.short.trans (by simp [Call.short?, Call.path?])

theorem named_described (demangle? : String → Option String) (address : UInt64)
    (calls : List Call) : Named demangle? calls (described demangle? address calls) := by
  induction calls using List.reverseRecOn with
  | nil => exact ⟨rfl, rfl, rfl⟩
  | append_singleton calls c ih =>
    rw [described, List.foldl_append]
    exact ih.perform c

/-! ## Each name once -/

/-- Whether calls give each of the names once at most, and which ones. -/
structure GivesOnce (calls : List Call) (short full raw : Option String) : Prop where
  short : calls.filterMap Call.short? = short.toList
  full : calls.filterMap Call.full? = full.toList
  raw : calls.filterMap Call.raw? = raw.toList

variable {short full raw : Option String}

theorem rawFirst_cons_iff {c : Call} : RawFirst (c :: calls) ↔
    ((∃ raw, c = .rawName raw) ∧ ∃ full, Call.fullName full ∈ calls) ∨ RawFirst calls := by
  unfold RawFirst
  simp only [List.sublist_cons_iff, List.cons.injEq]
  constructor
  · rintro ⟨raw, full, h | ⟨_, ⟨rfl, rfl⟩, h⟩⟩
    · exact .inr ⟨raw, full, h⟩
    · exact .inl ⟨⟨raw, rfl⟩, full, List.singleton_sublist.1 h⟩
  · rintro (⟨⟨raw, rfl⟩, full, h⟩ | ⟨raw, full, h⟩)
    · exact ⟨raw, full, .inr ⟨_, ⟨rfl, rfl⟩, List.singleton_sublist.2 h⟩⟩
    · exact ⟨raw, full, .inl h⟩

theorem RawFirst.full_mem (h : RawFirst calls) : ∃ full, Call.fullName full ∈ calls := by
  obtain ⟨raw, full, h⟩ := h
  exact ⟨full, h.subset (by simp)⟩

theorem filterMap_full_eq_nil_iff :
    calls.filterMap Call.full? = [] ↔ ¬ ∃ full, Call.fullName full ∈ calls := by
  rw [List.filterMap_eq_nil_iff]
  constructor
  · rintro h ⟨full, hmem⟩
    cases h _ hmem
  · intro h c hc
    cases c with
    | fullName full => exact absurd ⟨full, hc⟩ h
    | _ => rfl

/-- The one member of a list that an option has room for. -/
theorem eq_of_cons_eq_toList {α : Type} {a : α} {as : List α} {o : Option α}
    (h : a :: as = o.toList) : o = some a ∧ as = [] := by
  cases o with
  | none => cases h
  | some b => cases h; exact ⟨rfl, rfl⟩

theorem path_of_givesOnce (hfull : calls.filterMap Call.full? = full.toList)
    (hraw : calls.filterMap Call.raw? = raw.toList) :
    (RawFirst calls → calls.findSome? (Call.path? demangle?) = raw.map (pathOf demangle?)) ∧
    (¬ RawFirst calls →
      calls.findSome? (Call.path? demangle?) = full.or (raw.map (pathOf demangle?))) := by
  induction calls with
  | nil =>
    obtain rfl : full = none := Option.toList_eq_nil_iff.1 hfull.symm
    obtain rfl : raw = none := Option.toList_eq_nil_iff.1 hraw.symm
    exact ⟨fun _ => rfl, fun _ => rfl⟩
  | cons c calls ih =>
    cases c with
    | fullName name =>
      obtain ⟨rfl, hrest⟩ := eq_of_cons_eq_toList hfull
      refine ⟨fun h => ?_, fun _ => rfl⟩
      rcases rawFirst_cons_iff.1 h with ⟨⟨_, h⟩, -⟩ | h
      · cases h
      · exact absurd h.full_mem (filterMap_full_eq_nil_iff.1 hrest)
    | rawName name =>
      obtain ⟨rfl, -⟩ := eq_of_cons_eq_toList hraw
      refine ⟨fun _ => rfl, fun h => ?_⟩
      rw [rawFirst_cons_iff, not_or, not_and] at h
      have hnone : calls.filterMap Call.full? = [] :=
        filterMap_full_eq_nil_iff.2 (h.1 ⟨name, rfl⟩)
      obtain rfl : full = none := Option.toList_eq_nil_iff.1 (hfull.symm.trans hnone)
      rfl
    | _ => simpa [rawFirst_cons_iff, List.findSome?_cons, Call.path?] using ih hfull hraw

theorem GivesOnce.full_ne_none (h : GivesOnce calls short full raw) (hfirst : RawFirst calls) :
    full ≠ none := by
  rintro rfl
  exact filterMap_full_eq_nil_iff.1 h.full hfirst.full_mem

/-- The names after calls that give each name once at most. -/
theorem GivesOnce.names (h : GivesOnce calls short full raw) (hf : Named demangle? calls f) :
    f.rawName = raw ∧ f.fullName = full.or (raw.map (pathOf demangle?)) ∧
    (RawFirst calls → f.shortName = short.or ((raw.map (pathOf demangle?)).map Text.lastSegment)) ∧
    (¬ RawFirst calls → f.shortName = short.or (f.fullName.map Text.lastSegment)) := by
  have hlast {part : Call → Option String} {name : Option String}
      (hpart : calls.filterMap part = name.toList) : calls.reverse.findSome? part = name := by
    rw [← List.head?_filterMap, List.filterMap_reverse, hpart]
    cases name <;> rfl
  have hfirst : calls.findSome? Call.raw? = raw := by
    rw [← List.head?_filterMap, h.raw]
    cases raw <;> rfl
  have hfull : f.fullName = full.or (raw.map (pathOf demangle?)) := by
    rw [hf.full, hlast h.full, hfirst]
  obtain ⟨hraw, hnot⟩ := path_of_givesOnce h.full h.raw
  refine ⟨hf.raw.trans (hlast h.raw), hfull, fun hr => ?_, fun hr => ?_⟩
  · rw [hf.short, hlast h.short, hraw hr]
  · rw [hf.short, hlast h.short, hnot hr, hfull]

/-- A raw name that comes first shows in the short name, unless one is given or the ends agree. -/
theorem GivesOnce.shortName_eq_iff_of_rawFirst (h : GivesOnce calls short full raw)
    (hothers : GivesOnce others short full raw) (hf : Named demangle? calls f)
    (hg : Named demangle? others g) (hfirst : RawFirst calls) (hnot : ¬ RawFirst others) :
    f.shortName = g.shortName ↔ short ≠ none ∨
      full.map Text.lastSegment = (raw.map (pathOf demangle?)).map Text.lastSegment := by
  obtain ⟨-, -, hshort, -⟩ := h.names hf
  obtain ⟨-, hfull, -, hshort'⟩ := hothers.names hg
  obtain ⟨name, rfl⟩ := Option.ne_none_iff_exists'.1 (h.full_ne_none hfirst)
  rw [hshort hfirst, hshort' hnot, hfull]
  cases short with
  | none => simp [eq_comm]
  | some given => simp

/-- In two orders the short names agree unless a raw name comes first in one of them and shows. -/
theorem GivesOnce.shortName_eq_iff (h : GivesOnce calls short full raw)
    (hothers : GivesOnce others short full raw) (hf : Named demangle? calls f)
    (hg : Named demangle? others g) :
    f.shortName = g.shortName ↔ (RawFirst calls ↔ RawFirst others) ∨ short ≠ none ∨
      full.map Text.lastSegment = (raw.map (pathOf demangle?)).map Text.lastSegment := by
  obtain ⟨-, hfull, hfirst, hnot⟩ := h.names hf
  obtain ⟨-, hfull', hfirst', hnot'⟩ := hothers.names hg
  by_cases hc : RawFirst calls
  · by_cases ho : RawFirst others
    · rw [hfirst hc, hfirst' ho]
      exact ⟨fun _ => .inl (iff_of_true hc ho), fun _ => rfl⟩
    · have hdiffer : ¬ (RawFirst calls ↔ RawFirst others) := fun hsame => ho (hsame.1 hc)
      rw [h.shortName_eq_iff_of_rawFirst hothers hf hg hc ho, or_iff_right hdiffer]
  · by_cases ho : RawFirst others
    · have hdiffer : ¬ (RawFirst calls ↔ RawFirst others) := fun hsame => hc (hsame.2 ho)
      rw [eq_comm, hothers.shortName_eq_iff_of_rawFirst h hg hf ho hc, or_iff_right hdiffer]
    · rw [hnot hc, hnot' ho, hfull, hfull']
      exact ⟨fun _ => .inl (iff_of_false hc ho), fun _ => rfl⟩

/-- However raw names are demangled, calls that give each name once at most leave the raw name that
was given, the full name that was given or else the path of the raw name, and the short name that
was given or else the last part of the full name; but where a raw name comes before a full name, a
short name that is not given is the last part of the path of the raw name. So the order of the calls
counts for the short name alone, and only if none is given and the full name ends otherwise than
that path. -/
theorem names_described (demangle? : String → Option String) (address : UInt64)
    (h : GivesOnce calls short full raw) :
    let path := raw.map fun name => (demangle? name).getD name
    let f := described demangle? address calls
    f.rawName = raw ∧ f.fullName = full.or path ∧
    (RawFirst calls → f.shortName = short.or (path.map Text.lastSegment)) ∧
    (¬ RawFirst calls → f.shortName = short.or (f.fullName.map Text.lastSegment)) ∧
    (∀ path name, Text.lastSegment path = name ↔
      Text.BehindColons path.toList name.toList ∨ ¬ Text.HasColons path.toList ∧ name = path) ∧
    ∀ others, GivesOnce others short full raw →
      let g := described demangle? address others
      f.rawName = g.rawName ∧ f.fullName = g.fullName ∧
      (f.shortName = g.shortName ↔ (RawFirst calls ↔ RawFirst others) ∨ short ≠ none ∨
        full.map Text.lastSegment = path.map Text.lastSegment) := by
  intro path f
  have hf := named_described demangle? address calls
  obtain ⟨hraw, hfull, hfirst, hnot⟩ := h.names hf
  refine ⟨hraw, hfull, hfirst, hnot, fun _ _ => Text.lastSegment_eq_iff, fun others hothers => ?_⟩
  have hg := named_described demangle? address others
  obtain ⟨hraw', hfull', -, -⟩ := hothers.names hg
  exact ⟨hraw.trans hraw'.symm, hfull.trans hfull'.symm, h.shortName_eq_iff hothers hf hg⟩

/-- A demangler that knows one name of the older and one of the newer scheme. -/
def sampleDemangle? : String → Option String
  | "_ZN4demo4main17h0123456789abcdefE" => some "demo::main"
  | "_RNvC7mycrate3foo" => some "mycrate::foo"
  | _ => none

/-- Where the path of the raw name ends like the full name, either may come first. A raw name alone
gives all three names. -/
theorem names_described_mangled :
    let calls := [Call.rawName "_ZN4demo4main17h0123456789abcdefE", .fullName "lib::main"]
    let others := [Call.fullName "lib::main", .parameter "argc" (.int 4 true),
      .rawName "_ZN4demo4main17h0123456789abcdefE"]
    let alone := described sampleDemangle? 0x2000 [.rawName "_RNvC7mycrate3foo"]
    GivesOnce calls none (some "lib::main") (some "_ZN4demo4main17h0123456789abcdefE") ∧
    GivesOnce others none (some "lib::main") (some "_ZN4demo4main17h0123456789abcdefE") ∧
    (described sampleDemangle? 0x1000 calls).shortName =
      (described sampleDemangle? 0x1000 others).shortName ∧
    GivesOnce [Call.rawName "_RNvC7mycrate3foo"] none none (some "_RNvC7mycrate3foo") ∧
    alone.fullName = some "mycrate::foo" ∧ alone.shortName = some "foo" := by
  intro calls others alone
  have h : GivesOnce calls none (some "lib::main") (some "_ZN4demo4main17h0123456789abcdefE") :=
    ⟨by decide, by decide, by decide⟩
  have ho : GivesOnce others none (some "lib::main") (some "_ZN4demo4main17h0123456789abcdefE") :=
    ⟨by decide, by decide, by decide⟩
  have hone : GivesOnce [Call.rawName "_RNvC7mycrate3foo"] none none (some "_RNvC7mycrate3foo") :=
    ⟨by decide, by decide, by decide⟩
  obtain ⟨-, -, -, -, -, horder⟩ := names_described sampleDemangle? 0x1000 h
  obtain ⟨-, hfull, -, hshort, -, -⟩ := names_described sampleDemangle? 0x2000 hone
  have hnot : ¬ RawFirst [Call.rawName "_RNvC7mycrate3foo"] := by
    rintro ⟨raw, full, hsub⟩
    exact absurd hsub.length_le (Nat.not_succ_le_self 1)
  refine ⟨h, ho, (horder others ho).2.2.2 (.inr (.inr (by decide +kernel))), hone,
    hfull.trans (by decide +kernel), (hshort hnot).trans ?_⟩
  rw [hfull]
  decide +kernel

/-- The same names, given in the other order, lead to another short name. -/
theorem names_described_order :
    let calls := [Call.rawName "main", .fullName "lib::entry"]
    GivesOnce calls none (some "lib::entry") (some "main") ∧
    (described sampleDemangle? 0x1000 calls).shortName = some "main" ∧
    (described sampleDemangle? 0x1000 calls.reverse).shortName = some "entry" :=
  ⟨⟨by decide, by decide, by decide⟩, by decide, by decide⟩

end FunctionInfo

end ValueLattice
