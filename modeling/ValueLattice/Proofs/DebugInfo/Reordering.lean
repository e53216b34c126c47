/-
The order of registration. What a parser has in a session depends on its own contribution and on
the rows under its name that were there before, and parsers have different names. So two parses of
one view by the same parsers in different orders give each parser the same rows, and the lists of
the two sessions differ in the order of their rows only. A second parse of the view finds every
key taken and changes nothing.
-/
import ValueLattice.Proofs.DebugInfo.Isolation

namespace ValueLattice

namespace Store

/-! ## Stores that differ in order -/

/-- Whether each parser has the same rows in both stores, in the same order. -/
def Alike (s t : Store) : Prop :=
  ∀ name, s.only name = t.only name

theorem Alike.refl (s : Store) : s.Alike s :=
  fun _ => rfl

theorem Alike.trans {s t u : Store} (hst : s.Alike t) (htu : t.Alike u) : s.Alike u :=
  fun name => (hst name).trans (htu name)

variable {s t : Store}

theorem Alike.types_perm (h : s.Alike t) : s.types.Perm t.types :=
  Contribution.perm_of_forall_filter fun name => congrArg Store.types (h name)

theorem Alike.functions_perm (h : s.Alike t) : s.functions.Perm t.functions :=
  Contribution.perm_of_forall_filter fun name => congrArg Store.functions (h name)

theorem Alike.data_perm (h : s.Alike t) : s.data.Perm t.data :=
  Contribution.perm_of_forall_filter fun name => congrArg Store.data (h name)

theorem itemsOf_none {α : Type} (rows : List (Contribution α)) :
    Contribution.itemsOf rows none = rows.map Contribution.item :=
  congrArg (List.map Contribution.item) (List.filter_eq_self.2 fun _ _ => rfl)

theorem Alike.typesOf_eq (h : s.Alike t) (name : String) :
    s.typesOf (some name) = t.typesOf (some name) :=
  congrArg (fun u : Store => u.types.map Contribution.item) (h name)

theorem Alike.functionsOf_eq (h : s.Alike t) (name : String) :
    s.functionsOf (some name) = t.functionsOf (some name) :=
  congrArg (fun u : Store => u.functions.map Contribution.item) (h name)

theorem Alike.dataOf_eq (h : s.Alike t) (name : String) :
    s.dataOf (some name) = t.dataOf (some name) :=
  congrArg (fun u : Store => u.data.map Contribution.item) (h name)

/-! ## Merging -/

theorem only_merge_only (s t : Store) (name : String) :
    (s.merge t).only name = (s.only name).merge (t.only name) := by
  unfold only merge
  rw [Contribution.filter_appendAll, Contribution.filter_appendAll, Contribution.filter_appendAll]

theorem Alike.merge (h : s.Alike t) (u : Store) : (s.merge u).Alike (t.merge u) := by
  intro name
  rw [only_merge_only, h name, ← only_merge_only]

/-- Contributions of different parsers may be merged in either order. -/
theorem alike_merge_merge {u w : Store} {p q : String} (hu : u.OnlyFrom p) (hw : w.OnlyFrom q)
    (hne : p ≠ q) (s : Store) : ((s.merge u).merge w).Alike ((s.merge w).merge u) := by
  intro name
  by_cases hp : p = name
  · -- the rows of `p` come from `u` alone
    have hq : q ≠ name := fun hq => hne (hp.trans hq.symm)
    rw [only_merge hw hq, only_merge_only (s.merge w), only_merge hw hq, ← only_merge_only]
  · rw [only_merge hu hp, only_merge_only (s.merge u), only_merge hu hp, ← only_merge_only]

/-! ## Gathering in another order -/

variable {v : View} {ps qs : List Parser}

theorem Alike.gather (h : s.Alike t) (v : View) (ps : List Parser) :
    (s.gather v ps).Alike (t.gather v ps) := by
  induction ps generalizing s t with
  | nil => exact h
  | cons p ps ih =>
    rcases hp : p.contribution v with _ | u
    · rw [gather_cons_none hp, gather_cons_none hp]
      exact ih h
    · rw [gather_cons_some hp, gather_cons_some hp]
      exact ih (h.merge u)

theorem alike_gather_swap {p q : Parser} (hne : p.name ≠ q.name) (s : Store) (v : View)
    (ps : List Parser) : (s.gather v (p :: q :: ps)).Alike (s.gather v (q :: p :: ps)) := by
  rcases hp : p.contribution v with _ | u
  · rcases hq : q.contribution v with _ | w
    · rw [gather_cons_none hp, gather_cons_none hq, gather_cons_none hq, gather_cons_none hp]
      exact .refl _
    · rw [gather_cons_none hp, gather_cons_some hq, gather_cons_some hq, gather_cons_none hp]
      exact .refl _
  · rcases hq : q.contribution v with _ | w
    · rw [gather_cons_some hp, gather_cons_none hq, gather_cons_none hq, gather_cons_some hp]
      exact .refl _
    · rw [gather_cons_some hp, gather_cons_some hq, gather_cons_some hq, gather_cons_some hp]
      have hu := Parser.onlyFrom_contribution hp
      have hw := Parser.onlyFrom_contribution hq
      exact (alike_merge_merge hu hw hne s).gather v ps

/-- Parsers with different names may contribute in any order. -/
theorem alike_gather_of_perm (hperm : ps.Perm qs) (hnames : (ps.map Parser.name).Nodup)
    (s : Store) (v : View) : (s.gather v ps).Alike (s.gather v qs) := by
  induction hperm generalizing s with
  | nil => exact .refl s
  | cons p _ ih =>
    have hrest := (List.nodup_cons.1 hnames).2
    rcases hp : p.contribution v with _ | u
    · rw [gather_cons_none hp, gather_cons_none hp]
      exact ih hrest s
    · rw [gather_cons_some hp, gather_cons_some hp]
      exact ih hrest (s.merge u)
  | swap p q ps =>
    have hne : q.name ≠ p.name := fun heq => (List.nodup_cons.1 hnames).1 (by simp [heq])
    exact alike_gather_swap hne s v ps
  | trans hfirst _ ih ih' =>
    exact (ih hnames s).trans (ih' ((hfirst.map Parser.name).nodup_iff.1 hnames) s)

/-! ## Gathering again -/

/-- Whether the key of every row of `t` is taken in `s`. -/
structure Covers (s t : Store) : Prop where
  types : ∀ c ∈ t.types, Contribution.rowKey NamedType.name c ∈
    s.types.map (Contribution.rowKey NamedType.name)
  functions : ∀ c ∈ t.functions, Contribution.rowKey FunctionInfo.address c ∈
    s.functions.map (Contribution.rowKey FunctionInfo.address)
  data : ∀ c ∈ t.data, Contribution.rowKey DataVariable.address c ∈
    s.data.map (Contribution.rowKey DataVariable.address)

theorem covers_merge (s t : Store) : (s.merge t).Covers t :=
  ⟨fun _ => Contribution.mem_keys_appendAll _, fun _ => Contribution.mem_keys_appendAll _,
    fun _ => Contribution.mem_keys_appendAll _⟩

theorem Covers.of_extends {u : Store} (h : s.Covers t) (hs : s.Extends u) : u.Covers t :=
  ⟨fun c hc => (hs.types.map _).subset (h.types c hc),
    fun c hc => (hs.functions.map _).subset (h.functions c hc),
    fun c hc => (hs.data.map _).subset (h.data c hc)⟩

theorem Covers.merge_eq (h : s.Covers t) : s.merge t = s := by
  unfold merge
  rw [Contribution.appendAll_of_forall_mem _ h.types,
    Contribution.appendAll_of_forall_mem _ h.functions,
    Contribution.appendAll_of_forall_mem _ h.data]

theorem Extends.trans {u : Store} (hst : s.Extends t) (htu : t.Extends u) : s.Extends u :=
  ⟨hst.types.trans htu.types, hst.functions.trans htu.functions, hst.data.trans htu.data⟩

theorem extends_gather (s : Store) (v : View) (ps : List Parser) : s.Extends (s.gather v ps) := by
  induction ps generalizing s with
  | nil => exact .refl s
  | cons p ps ih =>
    rcases hp : p.contribution v with _ | t
    · rw [gather_cons_none hp]
      exact ih s
    · rw [gather_cons_some hp]
      exact (s.extends_merge t).trans (ih _)

theorem covers_gather {p : Parser} (hmem : p ∈ ps) (hp : p.contribution v = some t) (s : Store) :
    (s.gather v ps).Covers t := by
  induction ps generalizing s with
  | nil => cases hmem
  | cons q ps ih =>
    rcases List.mem_cons.1 hmem with rfl | hmem
    · rw [gather_cons_some hp]
      exact (s.covers_merge t).of_extends (extends_gather _ v ps)
    · rcases hq : q.contribution v with _ | u
      · rw [gather_cons_none hq]
        exact ih hmem s
      · rw [gather_cons_some hq]
        exact ih hmem (s.merge u)

/-- Parsers whose contributions are all there change nothing. -/
theorem gather_of_covers (h : ∀ p ∈ ps, ∀ t, p.contribution v = some t → s.Covers t) :
    s.gather v ps = s := by
  induction ps with
  | nil => rfl
  | cons p ps ih =>
    have hrest := ih fun q hq => h q (List.mem_cons_of_mem _ hq)
    rcases hp : p.contribution v with _ | t
    · rw [gather_cons_none hp, hrest]
    · rw [gather_cons_some hp, (h p (List.mem_cons_self ..) t hp).merge_eq, hrest]

theorem gather_gather (s : Store) (v : View) (ps : List Parser) :
    (s.gather v ps).gather v ps = s.gather v ps :=
  gather_of_covers fun _ hmem _ hp => covers_gather hmem hp s

end Store

/-! ## Parsing -/

namespace Host

theorem parsers_parseAll (h : Host) (v : View) (existing : Option Nat) :
    (h.parseAll v existing).2.2.parsers = h.parsers :=
  congrArg (fun r : Registry => r.parsers.map ParserHandle.parser) (h.registry_parseAll v existing)

/-- A session that parsers have been run into stays as it is when they are run into it again. -/
theorem get?_sessions_parseAll_again (h : Host) (v : View) (existing : Option Nat) (m : Nat) :
    ((h.parseAll v existing).2.2.parseAll v (some (h.parseAll v existing).1)).2.2.sessions.get? m =
      (h.parseAll v existing).2.2.sessions.get? m := by
  rw [get?_sessions_parseAll _ v (some _), parsers_parseAll]
  show (if (h.parseAll v existing).1 = m then
    ((h.parseAll v existing).2.2.sessions.get? (h.parseAll v existing).1).map _ else _) = _
  split
  · next same =>
    subst same
    rw [get?_sessions_parseAll, if_pos rfl, Option.map_map]
    congr 1
    funext s
    show { s with store := (s.store.gather v h.parsers).gather v h.parsers } = _
    rw [Store.gather_gather]
  · rfl

/-- Two registries that hold the same parsers, under different names, in different orders. From
sessions of the same contents, parses of one view come to sessions in which each parser has the
same types, functions and data variables in the same order, and whose whole lists differ in their
order only. A second parse of the view into the session of the first changes no session. -/
theorem parseAll_reordered (h : Host) (v : View) (existing : Option Nat) :
    (∀ (g : Host) (existing' : Option Nat) (s t : DebugSession),
      h.parsers.Perm g.parsers → (h.parsers.map Parser.name).Nodup →
      h.startingSession userContributor existing = some s →
      g.startingSession userContributor existing' = some t → s.store = t.store →
      ∃ a b, (h.parseAll v existing).2.2.sessions.get? (h.parseAll v existing).1 = some a ∧
        (g.parseAll v existing').2.2.sessions.get? (g.parseAll v existing').1 = some b ∧
        (∀ name, a.store.typesOf (some name) = b.store.typesOf (some name) ∧
          a.store.functionsOf (some name) = b.store.functionsOf (some name) ∧
          a.store.dataOf (some name) = b.store.dataOf (some name)) ∧
        (a.store.types.Perm b.store.types ∧ a.store.functions.Perm b.store.functions ∧
          a.store.data.Perm b.store.data) ∧
        (a.store.typesOf none).Perm (b.store.typesOf none) ∧
        (a.store.functionsOf none).Perm (b.store.functionsOf none) ∧
        (a.store.dataOf none).Perm (b.store.dataOf none)) ∧
    ∀ m, ((h.parseAll v existing).2.2.parseAll v
        (some (h.parseAll v existing).1)).2.2.sessions.get? m =
      (h.parseAll v existing).2.2.sessions.get? m := by
  refine ⟨fun g existing' s t hperm hnames hs ht hstore => ?_,
    get?_sessions_parseAll_again h v existing⟩
  have halike : (s.store.gather v h.parsers).Alike (t.store.gather v g.parsers) :=
    hstore ▸ Store.alike_gather_of_perm hperm hnames s.store v
  refine ⟨{ s with store := s.store.gather v h.parsers },
    { t with store := t.store.gather v g.parsers }, ?_, ?_,
    fun name => ⟨halike.typesOf_eq name, halike.functionsOf_eq name, halike.dataOf_eq name⟩,
    ⟨halike.types_perm, halike.functions_perm, halike.data_perm⟩, ?_⟩
  · rw [get?_sessions_parseAll, if_pos rfl, hs]; rfl
  · rw [get?_sessions_parseAll, if_pos rfl, ht]; rfl
  · unfold Store.typesOf Store.functionsOf Store.dataOf
    simp only [Store.itemsOf_none]
    exact ⟨halike.types_perm.map _, halike.functions_perm.map _, halike.data_perm.map _⟩

/-- A parser that adds a type of its own, under a name that the caller has taken as well. -/
def typeParser (name : String) (type : Ty) : Parser where
  name
  isValid _ := .done true
  script _ := .require (.type "size_t" type) .done

/-- A host with a session that holds a type of the caller's, and some parsers. -/
def hostWith (ps : List Parser) : Host :=
  ps.foldl (fun h p => (h.register p).2.2)
    ((empty.newSession userContributor).2.addItem 0 (.type "size_t" (.int 2 false))).2

def elfFirst : Host :=
  hostWith [typeParser "elf" (.int 8 false), typeParser "pdb" (.int 4 false)]

def pdbFirst : Host :=
  hostWith [typeParser "pdb" (.int 4 false), typeParser "elf" (.int 8 false)]

/-- Two parsers, registered in either order, add their types after the one that is there. -/
theorem parseAll_reordered_two :
    ∃ a b, (elfFirst.parseAll sampleView (some 0)).2.2.sessions.get? 0 = some a ∧
      (pdbFirst.parseAll sampleView (some 0)).2.2.sessions.get? 0 = some b ∧
      a.store.types.map Contribution.parser = ["user", "elf", "pdb"] ∧
      b.store.types.map Contribution.parser = ["user", "pdb", "elf"] ∧
      a.store.types.Perm b.store.types ∧
      a.store.typesOf (some "elf") = b.store.typesOf (some "elf") := by
  have hperm : elfFirst.parsers.Perm pdbFirst.parsers := List.Perm.swap _ _ _
  have hnames : (elfFirst.parsers.map Parser.name).Nodup := by decide
  have hs : elfFirst.startingSession userContributor (some 0) = some
    ⟨"user", { types := [⟨"user", "size_t", .int 2 false⟩] }, 1⟩ := rfl
  have ht : pdbFirst.startingSession userContributor (some 0) = some
    ⟨"user", { types := [⟨"user", "size_t", .int 2 false⟩] }, 1⟩ := rfl
  obtain ⟨a, b, ha, hb, hrows, hlists, -⟩ := (parseAll_reordered elfFirst sampleView (some 0)).1
    pdbFirst (some 0) _ _ hperm hnames hs ht rfl
  have hleft : (some a).map (fun s => s.store.types.map Contribution.parser) =
      some ["user", "elf", "pdb"] := by rw [← ha]; rfl
  have hright : (some b).map (fun s => s.store.types.map Contribution.parser) =
      some ["user", "pdb", "elf"] := by rw [← hb]; rfl
  exact ⟨a, b, ha, hb, Option.some.inj hleft, Option.some.inj hright, hlists.1, (hrows "elf").1⟩

end Host

end ValueLattice
