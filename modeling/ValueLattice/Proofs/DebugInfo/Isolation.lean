/-
Running all parsers on a view. A parser that runs changes no session; it is only when it has
succeeded that its store is merged into the one session. So the session of a whole parse ends with
the contributions of the parsers that applied and succeeded, in their order, and with nothing else,
wherever between them another parser says no, fails or panics.
-/
import ValueLattice.Proofs.DebugInfo.Staging
import ValueLattice.Proofs.Heap

namespace ValueLattice.Host

/-- The registered parsers. -/
def parsers (h : Host) : List Parser :=
  h.registry.parsers.map ParserHandle.parser

/-- The host with some of its parsers registered and the others not. -/
def keepParsers (h : Host) (keep : Parser → Bool) : Host :=
  { h with
    registry := { h.registry with parsers := h.registry.parsers.filter fun p => keep p.parser } }

/-- An existing session with one handle more, or a new session. -/
def opened (h : Host) (contributor : String) : Option Nat → Nat × Host
  | some n => (n, h.retainSession n)
  | none => h.newSession contributor

/-- The session that is opened, as it is then. -/
def startingSession (h : Host) (contributor : String) : Option Nat → Option DebugSession
  | some n => h.sessions.get? n
  | none => some ⟨contributor, {}, h.trackers.next⟩

theorem parsers_keepParsers (h : Host) (keep : Parser → Bool) :
    (h.keepParsers keep).parsers = h.parsers.filter keep := by
  unfold parsers keepParsers
  rw [List.filter_map]
  rfl

/-! ## What changes no session -/

theorem sessions_takeBackAll (arrays : List Rented) (h : Host) :
    (h.takeBackAll arrays).sessions = h.sessions := by
  induction arrays generalizing h with
  | nil => rfl
  | cons array arrays ih => exact ih (h.takeBack array)

theorem sessions_runScript (contributor : String) (v : View) (k : Script) (frame : Frame) :
    (runScript contributor v k frame).2.host.sessions = frame.host.sessions := by
  induction k generalizing frame with
  | finish outcome => rfl
  | add item next ih => exact ih _ _
  | rentFunctions next ih => exact ih _ _
  | giveBack next ih =>
    unfold runScript
    split
    · exact ih _
    · exact ih _

/-- A parser that is run changes no session, however it ends. -/
theorem sessions_stage (h : Host) (p : Parser) (v : View) :
    (h.stage p v).2.2.sessions = h.sessions := by
  show (takeBackAll _ _).sessions = _
  rw [sessions_takeBackAll, sessions_runScript]

/-! ## What changes no registration -/

theorem registry_takeBackAll (arrays : List Rented) (h : Host) :
    (h.takeBackAll arrays).registry = h.registry := by
  induction arrays generalizing h with
  | nil => rfl
  | cons array arrays ih => exact ih (h.takeBack array)

theorem registry_runScript (contributor : String) (v : View) (k : Script) (frame : Frame) :
    (runScript contributor v k frame).2.host.registry = frame.host.registry := by
  induction k generalizing frame with
  | finish outcome => rfl
  | add item next ih => exact ih _ _
  | rentFunctions next ih => exact ih _ _
  | giveBack next ih =>
    unfold runScript
    split
    · exact ih _
    · exact ih _

/-- A script registers no parser. -/
theorem registry_stage (h : Host) (p : Parser) (v : View) :
    (h.stage p v).2.2.registry = h.registry := by
  show (takeBackAll _ _).registry = _
  rw [registry_takeBackAll, registry_runScript]

theorem registry_opened (h : Host) (contributor : String) (existing : Option Nat) :
    (h.opened contributor existing).2.registry = h.registry := by
  rcases existing with _ | n
  · rfl
  · rfl

/-! ## The parsers that apply -/

theorem applicable_fst (v : ViewInfo) (ps : List ParserHandle) :
    (applicable v ps).1 = ps.filter fun p => p.parser.appliesTo v := by
  induction ps with
  | nil => rfl
  | cons p ps ih =>
    show (if (appliesTo p.parser v).1 then p :: (applicable v ps).1 else (applicable v ps).1) = _
    rw [appliesTo_fst, ih, List.filter_cons]

theorem contents_parsersForView (h : Host) (v : View) :
    (h.parsersForView v).1.contents.parserHandles =
      h.registry.parsers.filter fun p => p.parser.appliesTo v.info :=
  applicable_fst v.info h.registry.parsers

theorem sessions_parsersForView (h : Host) (v : View) :
    (h.parsersForView v).2.2.sessions = h.sessions := rfl

/-! ## Opening a session -/

theorem opened_fst (h : Host) (contributor : String) (existing : Option Nat) :
    (h.opened contributor existing).1 = existing.getD h.sessions.next := by
  rcases existing with _ | n
  · rfl
  · rfl

theorem get?_sessions_opened (h : Host) (contributor : String) (existing : Option Nat) (m : Nat) :
    (h.opened contributor existing).2.sessions.get? m =
      if (h.opened contributor existing).1 = m then h.startingSession contributor existing
      else h.sessions.get? m := by
  rcases existing with _ | n
  · exact Heap.get?_alloc _ _ m
  · show (h.sessions.retain n).get? m = if n = m then h.sessions.get? n else h.sessions.get? m
    rw [Heap.get?_retain]
    split
    · next same => rw [same]
    · rfl

/-! ## One parser after the other -/

theorem parseWith_of_error {p : Parser} {v : View} {message : String}
    (hfilled : p.filled v = .error message) (h : Host) (existing : Option Nat) :
    h.parseWith p v existing = (none, (h.stage p v).2) := by
  have hstage := h.stage_fst p v
  unfold parseWith
  generalize h.stage p v = r at hstage ⊢
  obtain ⟨staged, events, g⟩ := r
  rw [hfilled] at hstage
  cases hstage
  rfl

theorem parseWith_of_ok {p : Parser} {v : View} {store : Store} (hfilled : p.filled v = .ok store)
    (h : Host) (existing : Option Nat) :
    h.parseWith p v existing =
      (some ((h.stage p v).2.2.opened p.name existing).1, (h.stage p v).2.1,
        ((h.stage p v).2.2.opened p.name existing).2.mergeInto
          ((h.stage p v).2.2.opened p.name existing).1 store) := by
  have hstage := h.stage_fst p v
  unfold parseWith
  generalize h.stage p v = r at hstage ⊢
  obtain ⟨staged, events, g⟩ := r
  rw [hfilled] at hstage
  cases hstage
  rcases existing with _ | n
  · rfl
  · rfl

theorem registry_parseWith (h : Host) (p : Parser) (v : View) (existing : Option Nat) :
    (h.parseWith p v existing).2.2.registry = h.registry := by
  rcases hfilled : p.filled v with message | store
  · rw [parseWith_of_error hfilled]
    exact h.registry_stage p v
  · rw [parseWith_of_ok hfilled]
    exact (registry_opened _ _ existing).trans (h.registry_stage p v)

theorem registry_parseEach (v : View) (n : Nat) (ps : List ParserHandle) (h : Host) :
    (parseEach v n ps h).2.registry = h.registry := by
  induction ps generalizing h with
  | nil => rfl
  | cons p ps ih =>
    have hone := h.registry_parseWith p.parser v (some n)
    unfold parseEach
    rcases hparsed : h.parseWith p.parser v (some n) with ⟨_ | m, events, g⟩ <;>
      rw [hparsed] at hone
    · exact (ih g).trans hone
    · exact (ih (g.releaseSession m)).trans hone

/-- The session `n` with its store changed, and every other session as it was. -/
def withStore (n : Nat) (f : Store → Store) (m : Nat) (s : DebugSession) : DebugSession :=
  if n = m then { s with store := f s.store } else s

theorem get?_sessions_parseEach {v : View} {n : Nat} {ps : List ParserHandle}
    (happly : ∀ p ∈ ps, p.parser.appliesTo v.info = true) (h : Host) (m : Nat) :
    (parseEach v n ps h).2.sessions.get? m =
      (h.sessions.get? m).map
        (withStore n (fun s => s.gather v (ps.map ParserHandle.parser)) m) := by
  induction ps generalizing h with
  | nil =>
    show h.sessions.get? m = _
    rcases h.sessions.get? m with _ | s
    · rfl
    · show _ = some (withStore n (fun s => s) m s)
      unfold withStore
      rw [ite_self]
  | cons p ps ih =>
    have hps := ih fun q hq => happly q (List.mem_cons_of_mem _ hq)
    rcases hfilled : p.parser.filled v with message | store
    · -- the parser fails: the others begin with the sessions as they are
      have hnone := Parser.contribution_of_error hfilled
      unfold parseEach
      rw [parseWith_of_error hfilled]
      show (parseEach v n ps _).2.sessions.get? m = _
      rw [hps, sessions_stage, List.map_cons]
      simp only [Store.gather_cons_none hnone]
    · -- the parser succeeds: the others begin with its store merged into the session
      have hsome := Parser.contribution_of_ok (happly p (List.mem_cons_self ..)) hfilled
      unfold parseEach
      rw [parseWith_of_ok hfilled]
      show (parseEach v n ps _).2.sessions.get? m = _
      rw [hps, List.map_cons]
      simp only [Store.gather_cons_some hsome]
      show (Heap.get? (((Heap.retain (h.stage p.parser v).2.2.sessions n).modify n _).release n) m).map
        _ = _
      rw [Heap.get?_release_retain, sessions_stage, Heap.get?_modify]
      unfold withStore
      by_cases same : n = m
      · subst same
        rcases h.sessions.get? n with _ | s
        · simp
        · simp
      · simp [same]

/-! ## All parsers -/

/-- The parsers that apply run one after the other as if all were asked to contribute. -/
theorem get?_sessions_parseApplicable (h : Host) (v : View) (n m : Nat) :
    (parseEach v n (h.parsersForView v).1.contents.parserHandles
        (h.parsersForView v).2.2).2.sessions.get? m =
      (h.sessions.get? m).map (withStore n (fun s => s.gather v h.parsers) m) := by
  have happly : ∀ p ∈ h.registry.parsers.filter fun p => p.parser.appliesTo v.info,
      p.parser.appliesTo v.info = true := fun p hp => (List.mem_filter.1 hp).2
  have hparsers : (h.registry.parsers.filter fun p => p.parser.appliesTo v.info).map
      ParserHandle.parser = h.parsers.filter fun p => p.appliesTo v.info := by
    unfold parsers
    rw [List.filter_map]
    rfl
  -- parsers that do not apply contribute nothing, so they may be asked along with the others
  have hgather : ∀ s : Store,
      s.gather v (h.parsers.filter fun p => p.appliesTo v.info) = s.gather v h.parsers :=
    Store.gather_filter fun p _ hp => Parser.contribution_of_not_applies hp
  rw [contents_parsersForView, get?_sessions_parseEach happly, sessions_parsersForView, hparsers]
  simp only [hgather]

/-- A whole parse opens the session, asks the parsers, runs those that apply, and takes the list of
them back. -/
theorem parseAll_eq (h : Host) (v : View) (existing : Option Nat) :
    h.parseAll v existing =
      let o := h.opened userContributor existing
      let asked := o.2.parsersForView v
      let ran := parseEach v o.1 asked.1.contents.parserHandles asked.2.2
      (o.1, asked.2.1 ++ ran.1, ran.2.takeBack asked.1) := by
  rcases existing with _ | n
  · rfl
  · rfl

theorem parseAll_fst (h : Host) (v : View) (existing : Option Nat) :
    (h.parseAll v existing).1 = (h.opened userContributor existing).1 := by
  rw [parseAll_eq]

theorem sessions_parseAll (h : Host) (v : View) (existing : Option Nat) :
    (h.parseAll v existing).2.2.sessions =
      (parseEach v (h.opened userContributor existing).1
        ((h.opened userContributor existing).2.parsersForView v).1.contents.parserHandles
        ((h.opened userContributor existing).2.parsersForView v).2.2).2.sessions := by
  rw [parseAll_eq]
  rfl

theorem registry_parseAll (h : Host) (v : View) (existing : Option Nat) :
    (h.parseAll v existing).2.2.registry = h.registry := by
  rw [parseAll_eq]
  exact (registry_parseEach v _ _ _).trans (h.registry_opened _ existing)

theorem get?_sessions_parseAll (h : Host) (v : View) (existing : Option Nat) (m : Nat) :
    (h.parseAll v existing).2.2.sessions.get? m =
      if (h.parseAll v existing).1 = m then
        (h.startingSession userContributor existing).map fun s =>
          { s with store := s.store.gather v h.parsers }
      else h.sessions.get? m := by
  have hparsers : (h.opened userContributor existing).2.parsers = h.parsers :=
    congrArg (fun r : Registry => r.parsers.map ParserHandle.parser) (h.registry_opened _ existing)
  rw [parseAll_fst, sessions_parseAll, get?_sessions_parseApplicable, get?_sessions_opened,
    hparsers]
  unfold withStore
  by_cases same : (h.opened userContributor existing).1 = m
  · simp [same]
  · simp [same]

/-- Parsers that contribute nothing need not be registered. -/
theorem parseAll_keepParsers {h : Host} {v : View} {keep : Parser → Bool}
    (hkeep : ∀ p ∈ h.parsers, keep p = false → p.contribution v = none) (existing : Option Nat) :
    ((h.keepParsers keep).parseAll v existing).1 = (h.parseAll v existing).1 ∧
    ∀ m, ((h.keepParsers keep).parseAll v existing).2.2.sessions.get? m =
      (h.parseAll v existing).2.2.sessions.get? m := by
  have hfst : ((h.keepParsers keep).parseAll v existing).1 = (h.parseAll v existing).1 := by
    rw [parseAll_fst, parseAll_fst, opened_fst, opened_fst]
    rfl
  have hstart : (h.keepParsers keep).startingSession userContributor existing =
      h.startingSession userContributor existing := by
    rcases existing with _ | n
    · rfl
    · rfl
  refine ⟨hfst, fun m => ?_⟩
  rw [get?_sessions_parseAll, get?_sessions_parseAll, hfst, hstart, parsers_keepParsers]
  simp only [Store.gather_filter hkeep]
  rfl

/-- The session of a whole parse is the existing one, if one is given. It ends with the stores of
the parsers that said yes and succeeded merged into what it began with, in the order of their
registration, and no other session changes. The result is the same with only the parsers that
contribute registered, the rows under a name without a contribution are as before, and no session
changes while a script runs, or through a parser that fails. -/
theorem parseAll_isolates (h : Host) (v : View) (existing : Option Nat) :
    (∀ n, existing = some n → (h.parseAll v existing).1 = n) ∧
    (h.parseAll v existing).2.2.sessions.get? (h.parseAll v existing).1 =
      (h.startingSession userContributor existing).map (fun s => { s with
        store := (h.parsers.filterMap fun p => p.contribution v).foldl Store.merge s.store }) ∧
    (∀ m, m ≠ (h.parseAll v existing).1 →
      (h.parseAll v existing).2.2.sessions.get? m = h.sessions.get? m) ∧
    (∀ (p : Parser) s, p.contribution v = some s ↔ p.isValid v.info = .done true ∧
      (p.script v.info).fill p.name v.functions {} = (.done (), s)) ∧
    (((h.keepParsers fun p => (p.contribution v).isSome).parseAll v existing).1 =
        (h.parseAll v existing).1 ∧
      ∀ m, ((h.keepParsers fun p => (p.contribution v).isSome).parseAll
          v existing).2.2.sessions.get? m = (h.parseAll v existing).2.2.sessions.get? m) ∧
    (∀ name, (∀ p ∈ h.parsers, p.name = name → p.contribution v = none) →
      ((h.parseAll v existing).2.2.sessions.get? (h.parseAll v existing).1).map
          (fun s => s.store.only name) =
        (h.startingSession userContributor existing).map fun s => s.store.only name) ∧
    (∀ contributor k frame,
      (runScript contributor v k frame).2.host.sessions = frame.host.sessions) ∧
    ∀ (g : Host) (p : Parser) message, p.filled v = .error message →
      (g.parseWith p v existing).2.2.sessions = g.sessions := by
  have hresult : (h.parseAll v existing).2.2.sessions.get? (h.parseAll v existing).1 =
      (h.startingSession userContributor existing).map fun s =>
        { s with store := s.store.gather v h.parsers } := by
    rw [get?_sessions_parseAll, if_pos rfl]
  refine ⟨fun n hn => ?_, hresult, fun m hm => ?_, fun p s => Parser.contribution_eq_some_iff,
    parseAll_keepParsers (fun p _ hp => ?_) existing, fun name hname => ?_,
    fun contributor k frame => sessions_runScript contributor v k frame,
    fun g p message hfilled => ?_⟩
  · rw [parseAll_fst, opened_fst, hn]; rfl
  · rw [get?_sessions_parseAll, if_neg hm.symm]
  · exact Option.isNone_iff_eq_none.1 (Option.isSome_eq_false_iff.1 hp)
  · rw [hresult, Option.map_map]
    congr 1
    funext s
    exact s.store.only_gather hname
  · rw [parseWith_of_error hfilled]
    exact sessions_stage g p v

/-- A parser that panics when it is asked, one that fails after it has added a type, and one that
succeeds. -/
def sampleParsers : List Parser :=
  [{ name := "panicking"
     isValid := fun _ => .panicked none
     script := fun _ => .require (.type "never" (.int 4 true)) .done },
   { name := "truncated"
     isValid := fun _ => .done true
     script := fun _ => .require (.type "partial" (.int 4 true))
       (.finish (.failed ["truncated section"])) },
   { name := "elf-types"
     isValid := fun v => .done (v.kind == "ELF")
     script := fun _ => .require (.type "size_t" (.int 8 false)) .done }]

def sampleHost : Host :=
  sampleParsers.foldl (fun h p => (h.register p).2.2) empty

def sampleView : View :=
  ⟨⟨"a.out", "ELF", none⟩, [], 1⟩

/-- The type that was added before the failure is not in the session. -/
theorem parseAll_isolates_partial :
    ∃ s, (sampleHost.parseAll sampleView none).2.2.sessions.get? 0 = some s ∧
      s.contributor = userContributor ∧
      s.store.types = [⟨"elf-types", "size_t", .int 8 false⟩] ∧
      s.store.only "truncated" = {} := by
  obtain ⟨-, hresult, -, -, -, honly, -, -⟩ := parseAll_isolates sampleHost sampleView none
  have hname : ∀ p ∈ sampleHost.parsers, p.name = "truncated" →
      p.contribution sampleView = none := by
    intro p hp htruncated
    have hcases : p ∈ sampleParsers := hp
    simp only [sampleParsers, List.mem_cons, List.not_mem_nil, or_false] at hcases
    rcases hcases with rfl | rfl | rfl
    · rfl
    · rfl
    · exact absurd htruncated (by decide)
  have hrows := honly "truncated" hname
  rw [hresult] at hrows
  exact ⟨_, hresult, rfl, rfl, Option.some.inj hrows⟩

end ValueLattice.Host
