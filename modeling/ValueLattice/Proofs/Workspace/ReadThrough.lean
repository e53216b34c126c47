/-
The memo cells are a read-through cache: whatever has been done with a workspace, each read of a
kept variable answers what its story says, and the look-ups counted for a function are the direct
ones and those of the first reads. A cell that is filled answers without the engine, and a preset
does not change it.
-/
import ValueLattice.Proofs.Workspace.Agreement

namespace ValueLattice

namespace Workspace

/-- A workspace is what its story made of it. -/
structure Follows (w : Workspace) (c : Chronicle) : Prop where
  engine : w.engine.Follows c.known c.asked
  kept : ∀ id, List.Forall₂ Variable.Follows ((w.kept.get? id).elim [] Kept.vars)
    (c.histories id)

variable {w : Workspace} {c : Chronicle} {id : String} {object : Kept} {hs : List History}

/-! ## Keeping and dropping -/

theorem follows_empty : Workspace.Follows {} {} :=
  ⟨Engine.follows_empty, fun _ => .nil⟩

theorem Follows.vars (h : w.Follows c) (hget : w.kept.get? id = some object) :
    List.Forall₂ Variable.Follows object.vars (c.histories id) := by
  have hkept := h.kept id
  rw [hget] at hkept
  exact hkept

theorem Follows.varsAt (h : w.Follows c) {v : Variable} (hv : w.variableAt? id = some v) :
    List.Forall₂ Variable.Follows [v] (c.histories id) :=
  h.vars (variableAt?_eq_some_iff.1 hv)

/-- What is kept under one name changes, and a new story begins there. -/
theorem Follows.change (h : w.Follows c) {e : Engine} (he : e.Follows c.known c.asked)
    {kept : Keyed String Kept} (hother : ∀ id', id ≠ id' → kept.get? id' = w.kept.get? id')
    (hid : List.Forall₂ Variable.Follows ((kept.get? id).elim [] Kept.vars) hs) :
    Workspace.Follows { engine := e, kept := kept } (c.keep id hs) where
  engine := he
  kept id' := by
    by_cases same : id = id'
    · subst same
      rw [Chronicle.histories_keep_self]
      exact hid
    · rw [Chronicle.histories_keep_of_ne c same]
      exact hother id' same ▸ h.kept id'

theorem Follows.put (h : w.Follows c) {e : Engine} (he : e.Follows c.known c.asked)
    (hobject : List.Forall₂ Variable.Follows object.vars hs) (id : String) :
    Workspace.Follows { engine := e, kept := w.kept.put id object } (c.keep id hs) := by
  refine h.change he (fun id' hne => ?_) ?_
  · rw [Keyed.get?_put, if_neg hne]
  · rw [Keyed.get?_put, if_pos rfl]
    exact hobject

theorem Follows.keep (h : w.Follows c) (hobject : List.Forall₂ Variable.Follows object.vars hs)
    (id : String) : (w.keep id object).Follows (c.keep id hs) := by
  unfold Workspace.keep
  rcases w.kept.get? id with _ | old
  · exact h.put (h.engine.takeHandles _) hobject id
  · exact h.put ((h.engine.takeHandles _).giveHandles _) hobject id

theorem Follows.keepIf (h : w.Follows c) {object : Option Kept} {hs : Option (List History)}
    (hobject : Option.Rel (fun o hs => List.Forall₂ Variable.Follows o.vars hs) object hs)
    (id : String) : (w.keepIf id object).Follows (c.keepIf id hs) := by
  cases hobject with
  | some hobject => exact h.keep hobject id
  | none => exact h

theorem Follows.keepNew (h : w.Follows c) (id : String) (start : UInt64)
    (arch : Option Architecture) : (w.keepNew id start arch).Follows (c.keep id []) := by
  unfold Workspace.keepNew
  rcases w.kept.get? id with _ | old
  · exact h.put (h.engine.newFunction start arch) .nil id
  · exact h.put ((h.engine.newFunction start arch).giveHandles _) .nil id

theorem Follows.keepNothing (h : w.Follows c) (hget : w.kept.get? id = none) :
    w.Follows (c.keep id []) := by
  refine h.change h.engine (fun _ _ => rfl) ?_
  rw [hget]
  exact .nil

theorem Follows.drop (h : w.Follows c) (id : String) : (w.drop id).2.Follows (c.keep id []) := by
  unfold Workspace.drop
  rcases hget : w.kept.get? id with _ | old
  · exact h.keepNothing hget
  · refine h.change (h.engine.giveHandles _) (fun id' hne => ?_) ?_
    · rw [Keyed.get?_erase, if_neg hne]
    · rw [Keyed.get?_erase, if_pos rfl]
      exact .nil

/-! ## Changes and writes -/

theorem Follows.changeVariable (h : w.Follows c) (id : String) {f : Variable → Variable}
    {g : History → History} (hfg : ∀ v hist, v.Follows hist → (f v).Follows (g hist)) :
    (w.changeVariable id f).Follows (c.ofVariable w id fun c => c.change id g) := by
  rcases hv : w.variableAt? id with _ | v
  · rw [changeVariable_of_none hv, Chronicle.ofVariable, hv]
    exact h
  · rw [changeVariable_of_variable hv, Chronicle.ofVariable, hv]
    have hvars : List.Forall₂ Variable.Follows (Kept.var (f v)).vars ((c.histories id).map g) :=
      forall₂_map (h.varsAt hv) hfg
    exact h.put h.engine hvars id

theorem Follows.writeInfo (h : w.Follows c) (hc : Counted w) (function : String) (l : Location)
    (change : VariableInfo → VariableInfo) :
    (w.changeFunction function fun f e => e.writeInfo f l change).Follows
      (c.write (w.functionAt? function) l change) := by
  unfold changeFunction
  rcases hf : w.functionAt? function with _ | f
  · exact h
  · have alive := hc.alive (functionAt?_eq_some_iff.1 hf) List.mem_cons_self
    exact ⟨h.engine.writeInfo (hc.lt_next alive) l change, h.kept⟩

/-! ## Reads -/

theorem Counted.alive_of_vars (hc : Counted w) (hget : w.kept.get? id = some object) {v : Variable}
    (hv : v ∈ object.vars) {f : FunctionHandle} (hf : f ∈ v.handles) :
    0 < w.engine.references f.number := by
  refine hc.alive hget ?_
  rw [object.handles_eq]
  exact List.mem_append_left _ (List.mem_append_right _ (List.mem_flatMap_of_mem hv hf))

/-- The variables of a kept object with their histories, and what the engine knows about them. -/
theorem Follows.informed (h : w.Follows c) (hc : Counted w)
    (hget : w.kept.get? id = some object) :
    List.Forall₂ (fun v hist => v.InformedBy w.engine c.known ∧ v.Follows hist) object.vars
      (c.histories id) := by
  refine (List.forall₂_and_left ..).2 ⟨fun v hv f hf => ?_, h.vars hget⟩
  exact h.engine.info f _ (hc.alive_of_vars hget hv (Option.mem_toList.2 hf))

theorem Follows.ask (h : w.Follows c) (hc : Counted w) (fs : List FunctionHandle)
    (alive : ∀ f ∈ fs, 0 < w.engine.references f.number) :
    Workspace.Follows { w with engine := w.engine.countLookups fs } (c.ask fs) :=
  ⟨h.engine.countLookups fun f hf => hc.lt_next (alive f hf), h.kept⟩

/-- A read of the variables of a kept object asks what their histories say. -/
theorem Follows.read (h : w.Follows c) (hc : Counted w) (hget : w.kept.get? id = some object)
    {asks : Variable → List FunctionHandle} {told : History → List FunctionHandle}
    (hasks : ∀ v hist, v.Follows hist → asks v = told hist)
    (hhandles : ∀ v, ∀ f ∈ asks v, f ∈ v.handles) {filled : Kept} {g : History → History}
    (hfilled : List.Forall₂ Variable.Follows filled.vars ((c.histories id).map g)) :
    Workspace.Follows
      { engine := w.engine.countLookups (object.vars.flatMap asks)
        kept := w.kept.modify id fun _ => filled }
      ((c.ask ((c.histories id).flatMap told)).change id g) := by
  -- the asked functions are those that the histories tell, and all of them are alive
  have htold : object.vars.flatMap asks = (c.histories id).flatMap told := by
    rw [List.flatMap_def, List.flatMap_def, map_eq_map_of_forall₂ (h.vars hget) hasks]
  have hask := h.ask hc (object.vars.flatMap asks) fun f hf => by
    obtain ⟨v, hv, hf⟩ := List.mem_flatMap.1 hf
    exact hc.alive_of_vars hget hv (hhandles v f hf)
  rw [Keyed.modify_of_get? hget, ← htold]
  exact hask.put hask.engine hfilled id

theorem Follows.readNames (h : w.Follows c) (hc : Counted w) (hget : w.kept.get? id = some object)
    (filled : Kept) (hfilled : filled.vars = object.vars.map fun v => v.nameFilled w.engine) :
    Workspace.Follows
      { engine := w.engine.countLookups (object.vars.flatMap Variable.nameAsks)
        kept := w.kept.modify id fun _ => filled }
      (c.readNames id) := by
  refine h.read hc hget (fun _ _ hv => hv.asks hv.nameCell)
    (fun _ _ => Variable.mem_handles_of_asks) ?_
  rw [hfilled]
  exact forall₂_map (h.informed hc hget) fun _ _ hv => hv.2.nameFilled hv.1

theorem Follows.readTypes (h : w.Follows c) (hc : Counted w) (hget : w.kept.get? id = some object)
    (filled : Kept) (hfilled : filled.vars = object.vars.map fun v => v.typeFilled w.engine) :
    Workspace.Follows
      { engine := w.engine.countLookups (object.vars.flatMap Variable.typeAsks)
        kept := w.kept.modify id fun _ => filled }
      (c.readTypes id) := by
  refine h.read hc hget (fun _ _ hv => hv.asks hv.typeCell)
    (fun _ _ => Variable.mem_handles_of_asks) ?_
  rw [hfilled]
  exact forall₂_map (h.informed hc hget) fun _ _ hv => hv.2.typeFilled hv.1

/-! ## Operations -/

theorem Follows.askAt (h : w.Follows c) (hc : Counted w) {function : String} {f : FunctionHandle}
    (hf : w.functionAt? function = some f) :
    Workspace.Follows { w with engine := w.engine.countLookup f } (c.ask [f]) :=
  h.ask hc [f] fun g hg => by
    obtain rfl := List.mem_singleton.1 hg
    exact hc.alive (functionAt?_eq_some_iff.1 hf) List.mem_cons_self

theorem Follows.lookUpName (h : w.Follows c) (hc : Counted w) (function : String) (l : Location) :
    (w.lookUpName function l).2.Follows (c.ask (w.functionAt? function).toList) := by
  unfold Workspace.lookUpName
  rcases hf : w.functionAt? function with _ | f
  · rw [Option.toList_none, Chronicle.ask_nil]
    exact h
  · exact h.askAt hc hf

theorem Follows.lookUpType (h : w.Follows c) (hc : Counted w) (function : String) (l : Location) :
    (w.lookUpType function l).2.Follows (c.ask (w.functionAt? function).toList) := by
  unfold Workspace.lookUpType
  rcases hf : w.functionAt? function with _ | f
  · rw [Option.toList_none, Chronicle.ask_nil]
    exact h
  · exact h.askAt hc hf

theorem Follows.readTexts (h : w.Follows c) (hc : Counted w) (id : String) :
    (w.readTexts id).2.Follows (c.readNames id) := by
  rcases hget : w.kept.get? id with _ | object
  · have hnone := h.kept id
    rw [hget] at hnone
    have hnil : c.histories id = [] := List.forall₂_nil_left_iff.1 hnone
    rw [readTexts_of_none hget, Chronicle.readNames, hnil, List.flatMap_nil, Chronicle.ask_nil,
      Chronicle.change, hnil]
    exact h.keepNothing hget
  · rw [readTexts_of_get? hget]
    exact h.readNames hc hget _ (object.readTexts_eq w.engine).2.1

theorem Follows.readName (h : w.Follows c) (hc : Counted w) (id : String) :
    (w.readName id).2.Follows (c.ofVariable w id fun c => c.readNames id) := by
  rcases hv : w.variableAt? id with _ | v
  · rw [readName_of_none hv, Chronicle.ofVariable, hv]
    exact h
  · have hread := h.readNames hc (variableAt?_eq_some_iff.1 hv) (.var (v.nameFilled w.engine)) rfl
    rw [Kept.vars, List.flatMap_singleton] at hread
    rw [readName_of_variable hv, Chronicle.ofVariable, hv]
    exact hread

theorem Follows.readType (h : w.Follows c) (hc : Counted w) (id : String) :
    (w.readType id).2.Follows (c.ofVariable w id fun c => c.readTypes id) := by
  rcases hv : w.variableAt? id with _ | v
  · rw [readType_of_none hv, Chronicle.ofVariable, hv]
    exact h
  · have hread := h.readTypes hc (variableAt?_eq_some_iff.1 hv) (.var (v.typeFilled w.engine)) rfl
    rw [Kept.vars, List.flatMap_singleton] at hread
    rw [readType_of_variable hv, Chronicle.ofVariable, hv]
    exact hread

theorem follows_variableFrom (w : Workspace) (function : Option String) (origin : Origin) :
    (w.variableFrom function origin).Follows (.begin (function.bind w.functionAt?) origin) := by
  cases origin <;> exact ⟨rfl, rfl, rfl, rfl, rfl⟩

theorem Follows.varsOfAll (h : w.Follows c) {ids : List String} {vs : List Variable}
    (hvs : ids.mapM w.variableAt? = some vs) :
    List.Forall₂ Variable.Follows vs (ids.flatMap c.histories) := by
  replace hvs := forall₂_of_mapM hvs
  induction hvs with
  | nil => exact .nil
  | cons hv _ ih => exact List.rel_append (h.varsAt hv) ih

/-- An object around a variable takes over the story of the variable. -/
theorem Follows.around (h : w.Follows c) (var : String) {f : Variable → Kept}
    (hf : ∀ v, (f v).vars = [v]) :
    Option.Rel (fun o hs => List.Forall₂ Variable.Follows o.vars hs)
      ((w.variableAt? var).map f) ((w.variableAt? var).map fun _ => c.histories var) := by
  rcases hv : w.variableAt? var with _ | v
  · exact .none
  · exact .some (hf v ▸ h.varsAt hv)

theorem Follows.step (h : w.Follows c) (hc : Counted w) (a : Action) :
    (w.step a).2.Follows (c.act w a) := by
  -- an object is kept only if its parts are, and it takes over the stories of its variables
  cases a with
  | newFunction id start arch => exact h.keepNew id start arch
  | shareFunction id of =>
    refine h.keepIf ?_ id
    rcases w.functionAt? of with _ | f
    · exact .none
    · exact .some .nil
  | newVariable id function origin =>
    have hvars : List.Forall₂ Variable.Follows (Kept.var (w.variableFrom function origin)).vars
        [.begin (function.bind w.functionAt?) origin] :=
      .cons (follows_variableFrom w function origin) .nil
    exact h.keep hvars id
  | presetName id name => exact h.changeVariable id fun _ _ hv => hv.withName name
  | presetType id type => exact h.changeVariable id fun _ _ hv => hv.withType type
  | cloneVariable id of => exact h.keepIf (h.around of fun _ => rfl) id
  | newIl id function arch address form expr => exact h.keep .nil id
  | cloneIl id of =>
    refine h.keepIf ?_ id
    rcases w.ilAt? of with _ | r
    · exact .none
    · exact .some .nil
  | newVariableUse id var source =>
    refine h.keepIf ?_ id
    rcases hv : w.variableAt? var with _ | v
    · exact .none
    · rcases w.ilAt? source with _ | r
      · exact .none
      · exact .some (h.varsAt hv)
  | newStackUse id operand type name var offset size =>
    exact h.keepIf (h.around var fun _ => rfl) id
  | newParameters id vars =>
    refine h.keepIf ?_ id
    rcases hvs : vars.mapM w.variableAt? with _ | vs
    · exact .none
    · exact .some (h.varsOfAll hvs)
  | withConfidence id of confidence =>
    refine h.keepIf ?_ id
    rcases hp : w.parametersAt? of with _ | p
    · exact .none
    · have hvars : List.Forall₂ Variable.Follows p.vars (c.histories of) :=
        h.vars (parametersAt?_eq_some_iff.1 hp)
      exact .some hvars
  | newUserValue id var site value => exact h.keepIf (h.around var fun _ => rfl) id
  | drop id => exact h.drop id
  | setName id name => exact h.changeVariable id fun _ _ hv => hv.setName name
  | setType id type => exact h.changeVariable id fun _ _ hv => hv.setType type
  | setIdentifier id n => exact h.changeVariable id fun _ _ hv => hv.setIdentifier n
  | createVariable function l name type => exact h.writeInfo hc function l _
  | renameVariable function l name => exact h.writeInfo hc function l _
  | retypeVariable function l type => exact h.writeInfo hc function l _
  | lookUpName function l => exact h.lookUpName hc function l
  | lookUpType function l => exact h.lookUpType hc function l
  | readName id => exact h.readName hc id
  | readType id => exact h.readType hc id
  | readTexts id => exact h.readTexts hc id

theorem Follows.perform (h : w.Follows c) (hc : Counted w) (op : Operation) :
    (w.perform op).2.Follows (c.next w op) := by
  cases op with
  | act a => exact h.step hc a
  | clone id of =>
    refine h.keepIf ?_ id
    rcases hget : w.kept.get? of with _ | object
    · exact .none
    · exact .some (h.vars hget)
  | ask q => exact h

/-! ## Runs -/

theorem Follows.performAll (h : w.Follows c) (hc : Counted w) (ops : List Operation) :
    (w.performAll ops).Follows (c.follow w ops) := by
  induction ops generalizing w c with
  | nil => exact h
  | cons op ops ih => exact ih (h.perform hc op) ((handling_perform w op).counted hc)

/-- A variable that is kept under a name answers as its history says. Once a cell is filled, it
does not take a preset, and a read asks nothing, whatever the engine has become. -/
structure Answers (w : Workspace) (id : String) (h : History) (known : Knowledge) : Prop where
  name : (w.readName id).1 = h.name known
  type : (w.readType id).1 = h.type known
  performName : (w.perform (.act (.readName id))).1 = .report (.name (h.name known))
  performType : (w.perform (.act (.readType id))).1 = .report (.type (h.type known))
  presetName : h.names ≠ [] → ∀ name, (w.perform (.act (.presetName id name))).2 = w
  presetType : h.types ≠ [] → ∀ type, (w.perform (.act (.presetType id type))).2 = w
  filledName : h.names ≠ [] → ∀ e,
    { w with engine := e }.readName id = (h.name known, { w with engine := e })
  filledType : h.types ≠ [] → ∀ e,
    { w with engine := e }.readType id = (h.type known, { w with engine := e })

theorem Follows.answers (h : w.Follows c) (hc : Counted w) {v : Variable}
    (hv : w.variableAt? id = some v) :
    ∃ hist, c.histories id = [hist] ∧ v.Follows hist ∧ w.Answers id hist c.known := by
  obtain ⟨hist, rest, hfollows, hrest, heq⟩ := List.forall₂_cons_left_iff.1 (h.varsAt hv)
  obtain rfl : rest = [] := List.forall₂_nil_left_iff.1 hrest
  have hinformed : v.InformedBy w.engine c.known := fun f hf =>
    h.engine.info f _ (hc.alive (variableAt?_eq_some_iff.1 hv) (Option.mem_toList.2 hf))
  have hname : (w.readName id).1 = hist.name c.known := by
    rw [readName_of_variable hv, hfollows.nameIn hinformed]
  have htype : (w.readType id).1 = hist.type c.known := by
    rw [readType_of_variable hv, hfollows.typeIn hinformed]
  refine ⟨hist, heq, hfollows, hname, htype, ?_, ?_, fun hne => ?_, fun hne => ?_,
    fun hne e => ?_, fun hne e => ?_⟩
  · exact congrArg (fun name => Reply.report (.name name)) hname
  · exact congrArg (fun type => Reply.report (.type type)) htype
  · exact presetName_of_filled hv (hfollows.filled_name hne c.known)
  · exact presetType_of_filled hv (hfollows.filled_type hne c.known)
  · exact readName_of_filled (w := { w with engine := e }) hv (hfollows.filled_name hne c.known)
  · exact readType_of_filled (w := { w with engine := e }) hv (hfollows.filled_type hne c.known)

theorem Follows.texts (h : w.Follows c) (hc : Counted w) (id : String) :
    (w.readTexts id).1 = (c.histories id).map fun hist => hist.text c.known := by
  rcases hget : w.kept.get? id with _ | object
  · have hnone := h.kept id
    rw [hget] at hnone
    rw [readTexts_of_none hget, List.forall₂_nil_left_iff.1 hnone, List.map_nil]
  · rw [readTexts_of_get? hget]
    exact map_eq_map_of_forall₂ (h.informed hc hget) fun _ _ hv => hv.2.text hv.1

/-- Whatever has been done with a workspace and whatever the engine was told, each kept variable
answers what its story says, direct look-ups answer what was written last, and each function has
counted one look-up for each direct one and for each first read of a cell that was empty. The
operations that read answer the same. -/
theorem reads_performAll (ops : List Operation) :
    let w := ({} : Workspace).performAll ops
    let c := ({} : Chronicle).follow {} ops
    (∀ id v, w.variableAt? id = some v →
      ∃ h, c.histories id = [h] ∧ v.Follows h ∧ w.Answers id h c.known) ∧
    (∀ id, (w.readTexts id).1 = (c.histories id).map (fun h => h.text c.known) ∧
      (w.perform (.act (.readTexts id))).1 =
        .report (.texts ((c.histories id).map fun h => h.text c.known))) ∧
    (∀ id f l, w.functionAt? id = some f →
      (w.lookUpName id l).1 = (c.known f.number l).name ∧
      (w.lookUpType id l).1 = (c.known f.number l).type ∧
      (w.perform (.act (.lookUpName id l))).1 = .report (.name (c.known f.number l).name) ∧
      (w.perform (.act (.lookUpType id l))).1 = .report (.type (c.known f.number l).type)) ∧
    ∀ f : FunctionHandle, 0 < w.engine.references f.number →
      w.engine.lookups f = c.asked.count f.number := by
  intro w c
  have hc : Counted w := counted_performAll counted_empty ops
  have h : w.Follows c := follows_empty.performAll counted_empty ops
  refine ⟨fun id v hv => h.answers hc hv, fun id => ⟨h.texts hc id, ?_⟩, fun id f l hf => ?_,
    h.engine.lookups⟩
  · exact congrArg (fun texts => Reply.report (.texts texts)) (h.texts hc id)
  · have alive := hc.alive (functionAt?_eq_some_iff.1 hf) List.mem_cons_self
    have hinfo := h.engine.info f l alive
    have hname : (w.lookUpName id l).1 = (c.known f.number l).name := by
      rw [← hinfo]
      unfold lookUpName
      rw [hf]
      rfl
    have htype : (w.lookUpType id l).1 = (c.known f.number l).type := by
      rw [← hinfo]
      unfold lookUpType
      rw [hf]
      rfl
    exact ⟨hname, htype, congrArg (fun name => Reply.report (.name name)) hname,
      congrArg (fun type => Reply.report (.type type)) htype⟩

/-- The first clone is taken before the variable is read and asks for itself, the second one after
it and keeps the old name. The third read has nothing to ask, since a name was set. -/
theorem reads_performAll_clones :
    let l : Location := ⟨.stack, 1, -0x10⟩
    let ops : List Operation := [.act (.newFunction "f" 0x1000 none),
      .act (.createVariable "f" l "counter" none), .act (.newVariable "v" (some "f") (.location l)),
      .act (.cloneVariable "early" "v"), .act (.cloneVariable "set" "v"), .act (.readName "v"),
      .act (.renameVariable "f" l "renamed"), .clone "late" "v", .act (.presetName "late" "p"),
      .act (.setName "set" "i"), .act (.readTexts "early"), .act (.readName "set"),
      .act (.lookUpName "f" l), .act (.drop "v")]
    let w := ({} : Workspace).performAll ops
    (w.readName "early").1 = some "renamed" ∧ (w.readName "late").1 = some "counter" ∧
    (w.readName "set").1 = some "i" ∧ (w.readTexts "late").1 = ["counter"] ∧
    w.engine.lookups ⟨0, 0x1000, none⟩ = 3 := by
  intro l ops w
  obtain ⟨hreads, htexts, -, hlookups⟩ := reads_performAll ops
  have hname (id : String) (hv : (w.variableAt? id).isSome) (name : Option String)
      (htold : ((({} : Chronicle).follow {} ops).histories id).map
        (fun h => h.name (({} : Chronicle).follow {} ops).known) = [name]) :
      (w.readName id).1 = name := by
    obtain ⟨v, hv⟩ := Option.isSome_iff_exists.1 hv
    obtain ⟨h, hh, -, hanswers⟩ := hreads id v hv
    rw [hh] at htold
    exact hanswers.name.trans (List.cons.inj htold).1
  refine ⟨hname _ (by decide) _ (by decide), hname _ (by decide) _ (by decide),
    hname _ (by decide) _ (by decide), (htexts _).1.trans (by decide),
    (hlookups _ (by decide)).trans (by decide)⟩

end Workspace

end ValueLattice
