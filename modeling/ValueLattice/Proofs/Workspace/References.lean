/-
The handles of a workspace are accounted for: whatever has been done since it was empty, the number
of handles to a function is the number of its mentions in kept objects. A function is there as long
as it is mentioned and does not come back, and reads, questions and writes into the engine change
no count.
-/
import ValueLattice.Proofs.Workspace.Parts

namespace ValueLattice

namespace Engine

theorem references_newFunction (e : Engine) (start : UInt64) (arch : Option Architecture)
    (n : Nat) :
    (e.newFunction start arch).2.references n = if e.next = n then 1 else e.references n :=
  Heap.references_alloc ..

theorem references_takeHandles (e : Engine) (object : Kept) (n : Nat) :
    (e.takeHandles object.handles).references n =
      e.references n + if 0 < e.references n then object.mentions n else 0 := by
  rw [takeHandles, Heap.references_retainAll, object.count_handles]

theorem references_giveHandles (e : Engine) (object : Kept) (n : Nat) :
    (e.giveHandles object.handles).references n = e.references n - object.mentions n := by
  rw [giveHandles, Heap.references_releaseAll, object.count_handles]

end Engine

namespace Workspace

/-- How often a function is mentioned in the kept objects. -/
def mentions (n : Nat) (w : Workspace) : Nat :=
  w.kept.total (Kept.mentions n)

/-- Each handle is a mention in a kept object, and numbers not given out yet have no handle. -/
structure Counted (w : Workspace) : Prop where
  references : ∀ n, w.engine.references n = w.mentions n
  fresh : ∀ n, w.engine.next ≤ n → w.engine.references n = 0

/-- Whether a kept object owns a handle. -/
def Holds (w : Workspace) (f : FunctionHandle) : Prop :=
  ∃ id object, w.kept.get? id = some object ∧ f ∈ object.handles

/-- The counts, the mentions and the numbers given out are the same, and no handle is new. -/
structure Steady (w w' : Workspace) : Prop where
  references : ∀ n, w'.engine.references n = w.engine.references n
  mentions : ∀ n, w'.mentions n = w.mentions n
  next : w'.engine.next = w.engine.next
  held : ∀ f, w'.Holds f → w.Holds f

variable {w w' : Workspace} {id : String} {object : Kept}

theorem Steady.refl (w : Workspace) : Steady w w :=
  ⟨fun _ => rfl, fun _ => rfl, rfl, fun _ h => h⟩

theorem Counted.of_steady (h : Counted w) (hs : Steady w w') : Counted w' where
  references n := by rw [hs.references, hs.mentions, h.references]
  fresh n hn := by rw [hs.references, h.fresh n (hs.next ▸ hn)]

theorem counted_empty : Counted {} :=
  ⟨fun _ => rfl, fun _ _ => rfl⟩

/-- A function that a kept object mentions is there. -/
theorem Counted.alive (h : Counted w) (hget : w.kept.get? id = some object) {f : FunctionHandle}
    (hf : f ∈ object.handles) : 0 < w.engine.references f.number := by
  have hmentions : 0 < object.mentions f.number := by
    rw [← object.count_handles, List.count_pos_iff]
    exact List.mem_map_of_mem hf
  rw [h.references]
  exact Nat.lt_of_lt_of_le hmentions (Keyed.weight_le_total _ hget)

theorem Counted.lt_next (h : Counted w) {n : Nat} (alive : 0 < w.engine.references n) :
    n < w.engine.next := by
  refine Nat.lt_of_not_le fun hn => ?_
  rw [h.fresh n hn] at alive
  exact Nat.lt_irrefl 0 alive

/-! ## Keeping and dropping -/

theorem references_keep (w : Workspace) (id : String) (object : Kept) (n : Nat) :
    (w.keep id object).engine.references n =
      (w.engine.takeHandles object.handles).references n -
        (w.kept.get? id).elim 0 (Kept.mentions n) := by
  unfold keep
  rcases w.kept.get? id with _ | old
  · rfl
  · exact Engine.references_giveHandles _ old n

theorem references_keepNew (w : Workspace) (id : String) (start : UInt64)
    (arch : Option Architecture) (n : Nat) :
    (w.keepNew id start arch).engine.references n =
      (w.engine.newFunction start arch).2.references n -
        (w.kept.get? id).elim 0 (Kept.mentions n) := by
  unfold keepNew
  rcases w.kept.get? id with _ | old
  · rfl
  · exact Engine.references_giveHandles _ old n

theorem next_keep (w : Workspace) (id : String) (object : Kept) :
    (w.keep id object).engine.next = w.engine.next := by
  unfold keep
  rcases w.kept.get? id with _ | old
  · exact Heap.next_retainAll ..
  · exact (Heap.next_releaseAll ..).trans (Heap.next_retainAll ..)

theorem next_keepNew (w : Workspace) (id : String) (start : UInt64) (arch : Option Architecture) :
    (w.keepNew id start arch).engine.next = w.engine.next + 1 := by
  unfold keepNew
  rcases w.kept.get? id with _ | old
  · rfl
  · exact Heap.next_releaseAll ..

theorem Counted.keep (h : Counted w) (id : String)
    (alive : ∀ f ∈ object.handles, 0 < w.engine.references f.number) :
    Counted (w.keep id object) where
  references n := by
    have hput := Keyed.total_put w.kept id object (Kept.mentions n)
    have htake : (w.engine.takeHandles object.handles).references n =
        w.mentions n + object.mentions n := by
      rw [Engine.references_takeHandles, ← h.references]
      split
      · rfl
      · next gone =>
        -- a function that is gone cannot be mentioned, as all that are mentioned are alive
        have hnone : object.mentions n = 0 := by
          rw [← object.count_handles, List.count_eq_zero]
          intro hmem
          obtain ⟨f, hf, rfl⟩ := List.mem_map.1 hmem
          exact gone (alive f hf)
        rw [hnone]
    rw [references_keep, htake]
    exact Nat.sub_eq_of_eq_add hput.symm
  fresh n hn := by
    rw [next_keep] at hn
    rw [references_keep, Engine.references_takeHandles, h.fresh n hn]
    exact Nat.zero_sub _

theorem Counted.keepNew (h : Counted w) (id : String) (start : UInt64)
    (arch : Option Architecture) : Counted (w.keepNew id start arch) where
  references n := by
    have hput := Keyed.total_put w.kept id (.function ⟨w.engine.next, start, arch⟩)
      (Kept.mentions n)
    have halloc : (w.engine.newFunction start arch).2.references n =
        w.mentions n + (Kept.function ⟨w.engine.next, start, arch⟩).mentions n := by
      have hfresh := h.fresh w.engine.next (Nat.le_refl _)
      rw [← Kept.count_handles, ← h.references]
      rw [Engine.references_newFunction]
      by_cases same : w.engine.next = n
      · -- the number was not in use, so the first handle is the only one
        subst same
        simp [Kept.handles, hfresh]
      · simp [Kept.handles, same]
    rw [references_keepNew, halloc]
    exact Nat.sub_eq_of_eq_add hput.symm
  fresh n hn := by
    rw [next_keepNew] at hn
    rw [references_keepNew, Engine.references_newFunction, if_neg (by omega), h.fresh n (by omega)]
    exact Nat.zero_sub _

theorem Counted.drop (h : Counted w) (id : String) : Counted (w.drop id).2 := by
  unfold Workspace.drop
  rcases hold : w.kept.get? id with _ | old
  · exact h
  · refine ⟨fun n => ?_, fun n hn => ?_⟩
    · have herase := Keyed.total_erase w.kept id (Kept.mentions n)
      rw [hold, Option.elim_some] at herase
      rw [Engine.references_giveHandles, h.references]
      exact Nat.sub_eq_of_eq_add herase.symm
    · replace hn : w.engine.next ≤ n :=
        Nat.le_trans (Nat.le_of_eq (Heap.next_releaseAll ..).symm) hn
      rw [Engine.references_giveHandles, h.fresh n hn]
      exact Nat.zero_sub _

/-! ## What changes no count -/

/-- A kept object that is changed and owns the same handles changes no count. -/
theorem steady_modify {f : Kept → Kept}
    (hf : ∀ object, w.kept.get? id = some object → (f object).handles = object.handles)
    {e : Engine} (hreferences : ∀ n, e.references n = w.engine.references n)
    (hnext : e.next = w.engine.next) :
    Steady w { engine := e, kept := w.kept.modify id f } where
  references := hreferences
  mentions n := Keyed.total_modify fun object hget =>
    Kept.mentions_eq_of_handles_eq (hf object hget) n
  next := hnext
  held g := by
    rintro ⟨id', object, hget, hg⟩
    rw [Keyed.get?_modify] at hget
    split at hget
    · next same =>
      obtain ⟨old, hold, rfl⟩ := Option.map_eq_some_iff.1 hget
      subst same
      exact ⟨id, old, hold, hf old hold ▸ hg⟩
    · exact ⟨id', object, hget, hg⟩

theorem steady_changeVariable (w : Workspace) (id : String) {f : Variable → Variable}
    (hf : ∀ v, (f v).function = v.function) : Steady w (w.changeVariable id f) := by
  refine steady_modify (fun object _ => ?_) (fun _ => rfl) rfl
  cases object with
  | var v => exact congrArg Option.toList (hf v)
  | _ => rfl

theorem steady_writeInfo (w : Workspace) (id : String) (l : Location)
    (change : VariableInfo → VariableInfo) :
    Steady w (w.changeFunction id fun f e => e.writeInfo f l change) := by
  unfold changeFunction
  split
  · exact ⟨fun _ => Heap.references_modify .., fun _ => rfl, rfl, fun _ h => h⟩
  · exact .refl w

/-- Reads count look-ups and fill cells. -/
theorem steady_read (hget : w.kept.get? id = some object) {filled : Kept}
    (hfilled : filled.handles = object.handles) (asked : List FunctionHandle) :
    Steady w {
      engine := w.engine.countLookups asked
      kept := w.kept.modify id fun _ => filled } := by
  refine steady_modify (fun o ho => ?_) (fun n => Engine.references_countLookups ..)
    (Engine.next_countLookups ..)
  obtain rfl : object = o := Option.some.inj (hget.symm.trans ho)
  exact hfilled

theorem steady_readName (w : Workspace) (id : String) : Steady w (w.readName id).2 := by
  rcases hv : w.variableAt? id with _ | v
  · rw [readName_of_none hv]
    exact .refl w
  · have hfilled : (Kept.var (v.nameFilled w.engine)).handles = (Kept.var v).handles := rfl
    rw [readName_of_variable hv]
    exact steady_read (variableAt?_eq_some_iff.1 hv) hfilled v.nameAsks

theorem steady_readType (w : Workspace) (id : String) : Steady w (w.readType id).2 := by
  rcases hv : w.variableAt? id with _ | v
  · rw [readType_of_none hv]
    exact .refl w
  · have hfilled : (Kept.var (v.typeFilled w.engine)).handles = (Kept.var v).handles := rfl
    rw [readType_of_variable hv]
    exact steady_read (variableAt?_eq_some_iff.1 hv) hfilled v.typeAsks

theorem steady_readTexts (w : Workspace) (id : String) : Steady w (w.readTexts id).2 := by
  rcases hget : w.kept.get? id with _ | object
  · rw [readTexts_of_none hget]
    exact .refl w
  · obtain ⟨-, hvars, hhandle, hsources, -⟩ := object.readTexts_eq w.engine
    have hfunctions : (object.readTexts w.engine).2.1.vars.map Variable.function =
        object.vars.map Variable.function := by
      rw [hvars, List.map_map]
      rfl
    rw [readTexts_of_get? hget]
    exact steady_read hget (Kept.handles_eq_of_parts hhandle hfunctions hsources) _

theorem steady_lookUpName (w : Workspace) (function : String) (l : Location) :
    Steady w (w.lookUpName function l).2 := by
  unfold lookUpName
  split
  · next f _ =>
    exact ⟨fun _ => Engine.references_countLookups _ [f] _, fun _ => rfl, rfl, fun _ h => h⟩
  · exact .refl w

theorem steady_lookUpType (w : Workspace) (function : String) (l : Location) :
    Steady w (w.lookUpType function l).2 := by
  unfold lookUpType
  split
  · next f _ =>
    exact ⟨fun _ => Engine.references_countLookups _ [f] _, fun _ => rfl, rfl, fun _ h => h⟩
  · exact .refl w

/-! ## Operations -/

/-- What an operation can do with handles. -/
inductive Handling (w : Workspace) : Workspace → Prop
  | steady {w' : Workspace} : Steady w w' → Handling w w'
  | keep (id : String) (object : Kept) :
    (∀ f ∈ object.handles, w.Holds f) → Handling w (w.keep id object)
  | keepNew (id : String) (start : UInt64) (arch : Option Architecture) :
    Handling w (w.keepNew id start arch)
  | drop (id : String) : Handling w (w.drop id).2

theorem Handling.keepIf (id : String) (object : Option Kept)
    (held : ∀ o, object = some o → ∀ f ∈ o.handles, w.Holds f) :
    Handling w (w.keepIf id object) := by
  rcases object with _ | o
  · exact .steady (.refl w)
  · exact .keep id o (held o rfl)

theorem Handling.counted (hh : Handling w w') (h : Counted w) : Counted w' := by
  cases hh with
  | steady hs => exact h.of_steady hs
  | keep id object held =>
    refine h.keep id fun f hf => ?_
    obtain ⟨_, _, hget, hmem⟩ := held f hf
    exact h.alive hget hmem
  | keepNew id start arch => exact h.keepNew id start arch
  | drop id => exact h.drop id

/-- A function that is gone does not come back. -/
theorem Handling.gone (hh : Handling w w') {n : Nat} (hn : n < w.engine.next)
    (hgone : w.engine.references n = 0) : n < w'.engine.next ∧ w'.engine.references n = 0 := by
  cases hh with
  | steady hs => exact ⟨hs.next ▸ hn, (hs.references n).trans hgone⟩
  | keep id object held =>
    rw [next_keep, references_keep, Engine.references_takeHandles, hgone]
    exact ⟨hn, Nat.zero_sub _⟩
  | keepNew id start arch =>
    rw [next_keepNew, references_keepNew, Engine.references_newFunction,
      if_neg (Nat.ne_of_gt hn), hgone]
    exact ⟨Nat.lt_succ_of_lt hn, Nat.zero_sub _⟩
  | drop id =>
    unfold Workspace.drop
    split
    · next old _ =>
      rw [Engine.references_giveHandles, hgone]
      exact ⟨Nat.lt_of_lt_of_eq hn (Heap.next_releaseAll ..).symm, Nat.zero_sub _⟩
    · exact ⟨hn, hgone⟩

theorem holds_function (function : Option String) {f : FunctionHandle}
    (hf : function.bind w.functionAt? = some f) : w.Holds f := by
  obtain ⟨id, -, hid⟩ := Option.bind_eq_some_iff.1 hf
  exact ⟨id, _, functionAt?_eq_some_iff.1 hid, List.mem_cons_self⟩

theorem holds_variable {v : Variable} (hv : w.variableAt? id = some v) :
    ∀ f ∈ v.handles, w.Holds f :=
  fun _ hf => ⟨id, _, variableAt?_eq_some_iff.1 hv, hf⟩

/-- The handles of an object around a kept variable are those of the variable. -/
theorem holds_around (var : String) {f : Variable → Kept} (hf : ∀ v, (f v).handles = v.handles) :
    ∀ o, (w.variableAt? var).map f = some o → ∀ g ∈ o.handles, w.Holds g := by
  intro o ho g hg
  obtain ⟨v, hv, rfl⟩ := Option.map_eq_some_iff.1 ho
  exact holds_variable hv g (hf v ▸ hg)

theorem holds_variables {ids : List String} {vs : List Variable}
    (hvs : ids.mapM w.variableAt? = some vs) : ∀ f ∈ vs.flatMap Variable.handles, w.Holds f := by
  replace hvs := forall₂_of_mapM hvs
  induction hvs with
  | nil => rintro f ⟨⟩
  | cons hv _ ih =>
    intro f hf
    rcases List.mem_append.1 hf with hf | hf
    · exact holds_variable hv f hf
    · exact ih f hf

theorem handling_step (w : Workspace) (a : Action) : Handling w (w.step a).2 := by
  -- objects are made of kept ones and own the same handles; everything else is steady
  cases a with
  | newFunction id start arch => exact .keepNew id start arch
  | shareFunction id of =>
    refine .keepIf id _ fun o ho => ?_
    obtain ⟨f, hf, rfl⟩ := Option.map_eq_some_iff.1 ho
    exact fun g hg => ⟨of, _, functionAt?_eq_some_iff.1 hf, hg⟩
  | newVariable id function origin =>
    refine .keep id _ fun f hf => holds_function function ?_
    cases origin <;> exact Option.mem_toList.1 hf
  | presetName id name => exact .steady (steady_changeVariable w id fun _ => rfl)
  | presetType id type => exact .steady (steady_changeVariable w id fun _ => rfl)
  | cloneVariable id of =>
    exact .keepIf id _ (holds_around of fun _ => rfl)
  | newIl id function arch address form expr =>
    exact .keep id _ fun f hf => holds_function function (Option.mem_toList.1 hf)
  | cloneIl id of =>
    refine .keepIf id _ fun o ho => ?_
    obtain ⟨r, hr, rfl⟩ := Option.map_eq_some_iff.1 ho
    exact fun f hf => ⟨of, _, ilAt?_eq_some_iff.1 hr, hf⟩
  | newVariableUse id var source =>
    refine .keepIf id _ fun o ho => ?_
    obtain ⟨v, hv, ho⟩ := Option.bind_eq_some_iff.1 ho
    obtain ⟨r, hr, ho⟩ := Option.bind_eq_some_iff.1 ho
    obtain rfl := Option.some.inj ho
    intro f hf
    rcases List.mem_append.1 hf with hf | hf
    · exact holds_variable hv f hf
    · exact ⟨source, _, ilAt?_eq_some_iff.1 hr, hf⟩
  | newStackUse id operand type name var offset size =>
    exact .keepIf id _ (holds_around var fun _ => rfl)
  | newParameters id vars =>
    refine .keepIf id _ fun o ho => ?_
    obtain ⟨vs, hvs, rfl⟩ := Option.map_eq_some_iff.1 ho
    exact holds_variables hvs
  | withConfidence id of confidence =>
    refine .keepIf id _ fun o ho => ?_
    obtain ⟨p, hp, rfl⟩ := Option.map_eq_some_iff.1 ho
    exact fun f hf => ⟨of, _, parametersAt?_eq_some_iff.1 hp, hf⟩
  | newUserValue id var site value =>
    exact .keepIf id _ (holds_around var fun _ => rfl)
  | drop id => exact .drop id
  | setName id name => exact .steady (steady_changeVariable w id fun _ => rfl)
  | setType id type => exact .steady (steady_changeVariable w id fun _ => rfl)
  | setIdentifier id n => exact .steady (steady_changeVariable w id fun _ => rfl)
  | createVariable function l name type => exact .steady (steady_writeInfo w function l _)
  | renameVariable function l name => exact .steady (steady_writeInfo w function l _)
  | retypeVariable function l type => exact .steady (steady_writeInfo w function l _)
  | lookUpName function l => exact .steady (steady_lookUpName w function l)
  | lookUpType function l => exact .steady (steady_lookUpType w function l)
  | readName id => exact .steady (steady_readName w id)
  | readType id => exact .steady (steady_readType w id)
  | readTexts id => exact .steady (steady_readTexts w id)

theorem handling_perform (w : Workspace) (op : Operation) : Handling w (w.perform op).2 := by
  cases op with
  | act a => exact handling_step w a
  | clone id of => exact .keepIf id _ fun o ho f hf => ⟨of, o, ho, hf⟩
  | ask q => exact .steady (.refl w)

end Workspace

/-- Whether an operation only reads: a question, a look-up, or a read of names and types. -/
def Operation.Reads : Operation → Prop
  | .ask _ => True
  | .act (.lookUpName ..) | .act (.lookUpType ..) => True
  | .act (.readName _) | .act (.readType _) | .act (.readTexts _) => True
  | _ => False

namespace Workspace

variable {w : Workspace}

theorem steady_of_reads {op : Operation} (hop : op.Reads) (w : Workspace) :
    Steady w (w.perform op).2 := by
  cases op with
  | act a =>
    cases a with
    | lookUpName function l => exact steady_lookUpName w function l
    | lookUpType function l => exact steady_lookUpType w function l
    | readName id => exact steady_readName w id
    | readType id => exact steady_readType w id
    | readTexts id => exact steady_readTexts w id
    | _ => exact hop.elim
  | clone id of => exact hop.elim
  | ask q => exact .refl w

/-! ## Runs -/

theorem counted_performAll (h : Counted w) (ops : List Operation) : Counted (w.performAll ops) := by
  induction ops generalizing w with
  | nil => exact h
  | cons op ops ih => exact ih ((handling_perform w op).counted h)

theorem gone_performAll (h : Counted w) {n : Nat} (hn : n < w.engine.next)
    (hgone : w.engine.references n = 0) (ops : List Operation) :
    (w.performAll ops).engine.references n = 0 := by
  induction ops generalizing w with
  | nil => exact hgone
  | cons op ops ih =>
    have hop := handling_perform w op
    obtain ⟨hn, hgone⟩ := hop.gone hn hgone
    exact ih (hop.counted h) hn hgone

/-- Whatever has been done, each handle to a function is a mention of it in a kept object, and the
function is there exactly as long as there is one. Reads change no count. -/
theorem references_performAll (ops : List Operation) (n : Nat) :
    let w := ({} : Workspace).performAll ops
    w.engine.references n = w.mentions n ∧
    (w.engine.get? n = none ↔ w.mentions n = 0) ∧
    (n < w.engine.next → w.mentions n = 0 →
      ∀ more, (w.performAll more).engine.get? n = none) ∧
    ∀ op : Operation, op.Reads → (w.perform op).2.engine.references n = w.engine.references n := by
  intro w
  have hw : Counted w := counted_performAll counted_empty ops
  refine ⟨hw.references n, ?_, fun hn hgone more => ?_, fun op hop => ?_⟩
  · rw [Heap.get?_eq_none_iff, hw.references n]
  · rw [← hw.references n] at hgone
    exact (Heap.get?_eq_none_iff ..).2 (gone_performAll hw hn hgone more)
  · exact (steady_of_reads hop w).references n

/-- The handle to the first function and its variable are dropped, but the variable is in a use, and
twice in each of two lists; the second function is also that of the expression in the use. -/
theorem references_performAll_dropped :
    let ops : List Operation := [.act (.newFunction "f" 0x1000 none),
      .act (.newFunction "g" 0x2000 none),
      .act (.newVariable "v" (some "f") (.location ⟨.stack, 0, -8⟩)),
      .act (.newIl "r" (some "g") none 0x2004 .highLevel 3),
      .act (.newVariableUse "u" "v" "r"), .act (.newParameters "p" ["v", "v"]),
      .act (.withConfidence "q" "p" 10), .act (.drop "f"), .act (.drop "v")]
    let drops : List Operation := [.act (.drop "u"), .act (.drop "p"), .clone "p" "q",
      .act (.drop "q"), .act (.drop "p")]
    let w := ({} : Workspace).performAll ops
    w.engine.references 0 = 5 ∧ w.engine.references 1 = 3 ∧
    (w.perform (.act (.readTexts "p"))).2.engine.references 0 = 5 ∧
    ∀ more,
      ((({} : Workspace).performAll (ops ++ drops)).performAll more).engine.get? 0 = none := by
  intro ops drops w
  have hmentions : w.mentions 0 = 5 ∧ w.mentions 1 = 3 := by decide
  obtain ⟨hfirst, -, -, hreads⟩ := references_performAll ops 0
  have htexts := hreads (.act (.readTexts "p")) trivial
  have hsecond := (references_performAll ops 1).1
  have hgone := (references_performAll (ops ++ drops) 0).2.2.1 (by decide) (by decide)
  exact ⟨hfirst.trans hmentions.1, hsecond.trans hmentions.2,
    htexts.trans (hfirst.trans hmentions.1), hgone⟩

end Workspace

end ValueLattice
