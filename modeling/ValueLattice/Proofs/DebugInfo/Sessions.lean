/-
The sessions of a running bench. Sessions change in three ways only: a new one is empty, an item is
added for the contributor of the session, and the store of a parser that succeeded is merged in. So
whatever acts are done, in whatever order, each session holds a store that its contributor can have
come to. Such stores are well-formed, nothing that is in them changes or leaves, and the answer of
an add tells what it did.
-/
import ValueLattice.DebugInfo.Bench
import ValueLattice.Proofs.DebugInfo.Isolation

namespace ValueLattice

/-! ## Parsers -/

theorem Script.reachable_fill {contributor : String} (fs : List FunctionHandle) (k : Script)
    {s : Store} (hs : Store.Reachable contributor s) :
    Store.Reachable contributor (k.fill contributor fs s).2 := by
  induction k generalizing s with
  | finish outcome => exact hs
  | add item next ih => exact ih _ (hs.add item)
  | rentFunctions next ih => exact ih _ hs
  | giveBack next ih => exact ih hs

theorem Parser.reachable_filled {p : Parser} {v : View} {s : Store} (h : p.filled v = .ok s) :
    Store.Reachable p.name s := by
  have hfill := Script.reachable_fill v.functions (p.script v.info) (Store.Reachable.new p.name)
  rw [filled_eq_ok_iff.1 h] at hfill
  exact hfill

/-! ## Hosts -/

namespace Host

/-- Every session holds what its contributor can have come to. -/
def Sound (h : Host) : Prop :=
  ∀ n s, h.sessions.get? n = some s → Store.Reachable s.contributor s.store

theorem sound_of_sessions_eq {g h : Host} (hsessions : g.sessions = h.sessions) (hh : h.Sound) :
    g.Sound := by
  unfold Sound
  rw [hsessions]
  exact hh

theorem sound_releaseSession {h : Host} (hh : h.Sound) (n : Nat) : (h.releaseSession n).Sound := by
  intro m s hs
  have hget : (if n = m ∧ h.sessions.references m ≤ 1 then none else h.sessions.get? m) = some s :=
    (h.sessions.get?_release n m).symm.trans hs
  split at hget
  · cases hget
  · exact hh m s hget

theorem sound_opened {h : Host} (hh : h.Sound) (contributor : String) (existing : Option Nat) :
    (h.opened contributor existing).2.Sound := by
  intro m s hs
  rw [get?_sessions_opened] at hs
  split at hs
  · rcases existing with _ | n
    · cases hs; exact .new contributor
    · exact hh n s hs
  · exact hh m s hs

/-- A session may be changed if its new store can be come to from the old one. -/
theorem sound_modify {h : Host} (hh : h.Sound) {n : Nat} {f : DebugSession → DebugSession}
    (hf : ∀ s, h.sessions.get? n = some s → Store.Reachable (f s).contributor (f s).store) :
    { h with sessions := h.sessions.modify n f }.Sound := by
  intro m s hs
  have hget : (if n = m then (h.sessions.get? m).map f else h.sessions.get? m) = some s :=
    (h.sessions.get?_modify n m f).symm.trans hs
  split at hget
  · next same =>
    obtain ⟨t, ht, rfl⟩ := Option.map_eq_some_iff.1 hget
    exact hf t (same ▸ ht)
  · exact hh m s hget

theorem addItem_eq {h : Host} {n : Nat} {s : DebugSession} (hs : h.sessions.get? n = some s)
    (item : NewItem) :
    h.addItem n item = (some (s.store.add s.contributor item).1, { h with
      sessions := h.sessions.modify n fun t =>
        { t with store := (s.store.add s.contributor item).2 } }) := by
  unfold addItem
  rw [hs]

theorem sound_mergeInto {h : Host} (hh : h.Sound) (n : Nat) {other : String} {incoming : Store}
    (hin : Store.Reachable other incoming) : (h.mergeInto n incoming).Sound :=
  sound_modify hh fun s hs => (hh n s hs).merge hin

theorem sound_addItem {h : Host} (hh : h.Sound) (n : Nat) (item : NewItem) :
    (h.addItem n item).2.Sound := by
  rcases hn : h.sessions.get? n with _ | s
  · unfold addItem
    rw [hn]
    exact hh
  · rw [addItem_eq hn]
    refine sound_modify hh fun t ht => ?_
    rw [hn] at ht
    cases ht
    exact (hh n s hn).add item

theorem sound_parseWith {h : Host} (hh : h.Sound) (p : Parser) (v : View)
    (existing : Option Nat) : (h.parseWith p v existing).2.2.Sound := by
  have hstage : (h.stage p v).2.2.Sound := sound_of_sessions_eq (h.sessions_stage p v) hh
  rcases hfilled : p.filled v with message | store
  · rw [parseWith_of_error hfilled]
    exact hstage
  · rw [parseWith_of_ok hfilled]
    exact sound_mergeInto (sound_opened hstage _ _) _ (Parser.reachable_filled hfilled)

theorem sound_parseEach {v : View} {n : Nat} (ps : List ParserHandle) {h : Host} (hh : h.Sound) :
    (parseEach v n ps h).2.Sound := by
  induction ps generalizing h with
  | nil => exact hh
  | cons p ps ih =>
    have hone := sound_parseWith hh p.parser v (some n)
    unfold parseEach
    rcases hparsed : h.parseWith p.parser v (some n) with ⟨_ | m, events, g⟩ <;>
      rw [hparsed] at hone
    · exact ih hone
    · exact ih (sound_releaseSession hone m)

theorem sound_parseAll {h : Host} (hh : h.Sound) (v : View) (existing : Option Nat) :
    (h.parseAll v existing).2.2.Sound := by
  refine sound_of_sessions_eq (h.sessions_parseAll v existing) (sound_parseEach _ ?_)
  exact sound_of_sessions_eq (sessions_parsersForView _ v) (sound_opened hh _ _)

end Host

/-! ## Benches -/

namespace Bench

open Host

theorem sessions_holdFunction (b : Bench) (id : Option String) (f : FunctionHandle) :
    (b.holdFunction id f).host.sessions = b.host.sessions := by
  rcases id with _ | id
  · rfl
  · rfl

theorem sessions_holdParser (b : Bench) (id : Option String) (p : ParserHandle) :
    (b.holdParser id p).host.sessions = b.host.sessions := by
  rcases id with _ | id
  · rfl
  · rfl

theorem sessions_holdArray (b : Bench) (id : String) (array : Rented) :
    (b.holdArray id array).host.sessions = b.host.sessions :=
  sessions_takeBackAll _ _

theorem sessions_holdView (b : Bench) (id : String) (v : View) :
    (b.holdView id v).host.sessions = b.host.sessions := by
  unfold holdView
  rcases b.views.get? id with _ | old
  · rfl
  · rfl

theorem sound_holdSession {b : Bench} (hb : b.host.Sound) (id : Option String) (n : Nat) :
    (b.holdSession id n).host.Sound := by
  rcases id with _ | id
  · exact sound_releaseSession hb n
  · unfold holdSession
    dsimp only
    rcases b.sessions.get? id with _ | old
    · exact hb
    · exact sound_releaseSession hb old

theorem sessions_dropParser (b : Bench) (id : String) :
    (b.dropParser id).2.host.sessions = b.host.sessions := by
  unfold dropParser
  rcases b.parsers.get? id with _ | p
  · rfl
  · rfl

theorem sessions_dropFunction (b : Bench) (id : String) :
    (b.dropFunction id).2.host.sessions = b.host.sessions := by
  unfold dropFunction
  rcases b.functions.get? id with _ | f
  · rfl
  · rfl

theorem sessions_dropArray (b : Bench) (id : String) :
    (b.dropArray id).2.host.sessions = b.host.sessions := by
  unfold dropArray
  rcases b.arrays.get? id with _ | array
  · rfl
  · rfl

theorem sessions_dropView (b : Bench) (id : String) :
    (b.dropView id).2.host.sessions = b.host.sessions := by
  unfold dropView
  rcases b.views.get? id with _ | v
  · rfl
  · rfl

theorem sound_dropSession {b : Bench} (hb : b.host.Sound) (id : String) :
    (b.dropSession id).2.host.Sound := by
  unfold dropSession
  rcases b.sessions.get? id with _ | n
  · exact hb
  · exact sound_releaseSession hb n

theorem sound_drop {b : Bench} (hb : b.host.Sound) (id : String) : (b.drop id).2.host.Sound := by
  have hparser := sound_of_sessions_eq (b.sessions_dropParser id) hb
  have hsession := sound_dropSession hparser id
  refine sound_of_sessions_eq ?_ hsession
  show (dropView (dropArray (dropFunction ((b.dropParser id).2.dropSession id).2 id).2 id).2
    id).2.host.sessions = _
  rw [sessions_dropView, sessions_dropArray, sessions_dropFunction]

/-! ## Acts -/

theorem sessions_rentNumbers (b : Bench) (id tracker : String) (items : List Int64) :
    (b.rentNumbers id tracker items).host.sessions = b.host.sessions := by
  unfold rentNumbers
  rcases b.trackers.get? tracker with _ | n
  · rfl
  · exact sessions_holdArray _ _ _

theorem sessions_consume (b : Bench) (tracker : String) (items : List Int64) (panics : Bool) :
    (b.consume tracker items panics).2.host.sessions = b.host.sessions := by
  unfold consume
  rcases b.trackers.get? tracker with _ | n
  · rfl
  · rfl

theorem sessions_addNewFunction (b : Bench) (view : String) (start : UInt64)
    (id : Option String) : (b.addNewFunction view start id).host.sessions = b.host.sessions := by
  unfold addNewFunction
  rcases b.views.get? view with _ | v
  · rfl
  · exact sessions_holdFunction _ _ _

theorem sessions_addHeldFunction (b : Bench) (view function : String) (id : Option String) :
    (b.addHeldFunction view function id).host.sessions = b.host.sessions := by
  unfold addHeldFunction
  rcases b.views.get? view with _ | v
  · rfl
  rcases b.functions.get? function with _ | f
  · rfl
  · exact sessions_holdFunction _ _ _

theorem sessions_showView (b : Bench) (view : String) :
    (b.showView view).2.host.sessions = b.host.sessions := by
  unfold showView
  rcases b.views.get? view with _ | v
  · rfl
  · rfl

theorem sessions_rentViewFunctions (b : Bench) (id view : String) :
    (b.rentViewFunctions id view).2.host.sessions = b.host.sessions := by
  unfold rentViewFunctions
  rcases b.views.get? view with _ | v
  · rfl
  · exact sessions_holdArray _ _ _

theorem sessions_register (b : Bench) (parser : Parser) (id : Option String) :
    (b.register parser id).2.2.host.sessions = b.host.sessions := by
  unfold register Host.register
  by_cases htaken : (b.host.registry.parsers.any fun q => q.parser.name == parser.name) = true
  · rw [if_pos htaken]
  · rw [if_neg htaken]
    exact sessions_holdParser _ _ _

theorem sessions_getParser (b : Bench) (name : String) (id : Option String) :
    (b.getParser name id).2.host.sessions = b.host.sessions := by
  unfold getParser Host.getParser
  generalize b.host.registry.parsers.find? (fun p => p.parser.name == name) = found
  rcases found with _ | p
  · rfl
  · exact sessions_holdParser _ _ _

theorem sessions_listForView (b : Bench) (view : String) :
    (b.listForView view).2.2.host.sessions = b.host.sessions := by
  unfold listForView
  rcases b.views.get? view with _ | v
  · rfl
  · rfl

theorem sessions_rentParsersForView (b : Bench) (id view : String) :
    (b.rentParsersForView id view).2.2.host.sessions = b.host.sessions := by
  unfold rentParsersForView
  rcases b.views.get? view with _ | v
  · rfl
  · exact sessions_holdArray _ _ _

theorem sessions_itemsOf (b : Bench) (session : String) (what : ItemList)
    (parser id : Option String) :
    (b.itemsOf session what parser id).2.host.sessions = b.host.sessions := by
  unfold itemsOf rentItems
  rcases b.sessions.get? session with _ | n
  · rfl
  dsimp only
  rcases b.host.sessions.get? n with _ | s
  · rfl
  rcases id with _ | id
  · rfl
  · exact sessions_holdArray _ _ _

theorem sound_parse {b : Bench} (hb : b.host.Sound) (parser view : String)
    (existing id : Option String) : (b.parse parser view existing id).2.2.host.Sound := by
  unfold parse
  rcases b.parsers.get? parser with _ | p
  · exact hb
  rcases b.views.get? view with _ | v
  · exact hb
  dsimp only
  have hparse := sound_parseWith hb p.parser v (existing.bind b.sessions.get?)
  rcases hparsed : b.host.parseWith p.parser v (existing.bind b.sessions.get?) with
    ⟨_ | n, events, host⟩
  · rw [hparsed] at hparse
    exact hparse
  · rw [hparsed] at hparse
    exact sound_holdSession hparse id n

theorem sound_parseAll {b : Bench} (hb : b.host.Sound) (view : String)
    (existing id : Option String) : (b.parseAll view existing id).2.2.host.Sound := by
  unfold parseAll
  rcases b.views.get? view with _ | v
  · exact hb
  · exact sound_holdSession (Host.sound_parseAll hb v (existing.bind b.sessions.get?)) id _

theorem sound_newSession {b : Bench} (hb : b.host.Sound) (id contributor : String) :
    (b.newSession id contributor).host.Sound :=
  sound_holdSession (sound_opened hb contributor none) (some id) _

theorem sound_shareSession {b : Bench} (hb : b.host.Sound) (id other : String) :
    (b.shareSession id other).host.Sound := by
  unfold shareSession
  rcases b.sessions.get? other with _ | n
  · exact hb
  · exact sound_holdSession (sound_opened hb "" (some n)) (some id) n

theorem sound_addItem {b : Bench} (hb : b.host.Sound) (session : String) (item : NewItem) :
    (b.addItem session item).2.host.Sound := by
  unfold addItem
  rcases b.sessions.get? session with _ | n
  · exact hb
  dsimp only
  have hadd := Host.sound_addItem hb n item
  rcases hadded : b.host.addItem n item with ⟨_ | _ | added, host⟩
  · exact hb
  · rw [hadded] at hadd
    exact hadd
  · rw [hadded] at hadd
    exact hadd

/-- An add to a held session answers what the add to its store does. -/
theorem step_addItem {b : Bench} {id : String} {n : Nat} {s : DebugSession}
    (hn : b.sessions.get? id = some n) (hs : b.host.sessions.get? n = some s) (item : NewItem) :
    (∀ added, (b.step (.addItem id item)).1 = .flag added ↔
      (s.store.add s.contributor item).1 = .ok added) ∧
    (∀ e, (b.step (.addItem id item)).1 = .refused e ↔
      (s.store.add s.contributor item).1 = .error e) ∧
    (b.step (.addItem id item)).2 = ([], { b with host := (b.host.addItem n item).2 }) := by
  simp only [step, quietly, addItem, hn, addItem_eq hs]
  rcases s.store.add s.contributor item with ⟨e | added, store⟩
  · simp
  · simp

/-- One act keeps every session sound. -/
theorem sound_step {b : Bench} (hb : b.host.Sound) (act : Act) : (b.step act).2.2.host.Sound := by
  cases act with
  | newTracker id => exact hb
  | shareTracker id other => simp only [step]; split <;> exact hb
  | rentNumbers id tracker items => exact sound_of_sessions_eq (b.sessions_rentNumbers ..) hb
  | numberAt id index => simp only [step]; split <;> exact hb
  | demandNumber id index => simp only [step]; split <;> exact hb
  | consume tracker items panics => exact sound_of_sessions_eq (b.sessions_consume ..) hb
  | newView id info => exact sound_of_sessions_eq (sessions_holdView ..) hb
  | addNewFunction view start id => exact sound_of_sessions_eq (b.sessions_addNewFunction ..) hb
  | addHeldFunction view function id =>
    exact sound_of_sessions_eq (b.sessions_addHeldFunction ..) hb
  | showView view => exact sound_of_sessions_eq (b.sessions_showView ..) hb
  | rentViewFunctions id view => exact sound_of_sessions_eq (b.sessions_rentViewFunctions ..) hb
  | register parser id => exact sound_of_sessions_eq (b.sessions_register ..) hb
  | getParser name id => exact sound_of_sessions_eq (b.sessions_getParser ..) hb
  | list => exact hb
  | listForView view => exact sound_of_sessions_eq (b.sessions_listForView ..) hb
  | rentParsers id => exact sound_of_sessions_eq (sessions_holdArray ..) hb
  | rentParsersForView id view => exact sound_of_sessions_eq (b.sessions_rentParsersForView ..) hb
  | askValid parser view => exact hb
  | parse parser view existing id => exact sound_parse hb parser view existing id
  | parseAll view existing id => exact sound_parseAll hb view existing id
  | newSession id contributor => exact sound_newSession hb id contributor
  | shareSession id other => exact sound_shareSession hb id other
  | addItem session item => exact sound_addItem hb session item
  | items session what parser => exact sound_of_sessions_eq (b.sessions_itemsOf ..) hb
  | rentItems id session what parser => exact sound_of_sessions_eq (b.sessions_itemsOf ..) hb
  | showSession session => simp only [step]; split <;> exact hb
  | drop id => exact sound_drop hb id
  | dropArray id => exact sound_of_sessions_eq (b.sessions_dropArray id) hb

/-- The bench after some acts. -/
def after (acts : List Act) : Bench :=
  acts.foldl (fun b act => (b.step act).2.2) {}

theorem sound_after (acts : List Act) : (after acts).host.Sound := by
  unfold after
  have hempty : ({} : Bench).host.Sound := by
    intro n s hs
    cases hs
  -- a run goes on from the bench that its first act leaves, so it may begin at any sound one
  generalize ({} : Bench) = b at hempty
  induction acts generalizing b with
  | nil => exact hempty
  | cons act acts ih => exact ih _ (sound_step hempty act)

end Bench

/-! ## What reachable stores keep -/

namespace Store

/-- Whatever is done at a bench, each session holds a reachable store. A session is added to in its
store and for its contributor, and gets the store that results; what is merged into it goes to its
store; no other session changes. An act that adds to a session answers what the add to its store
answers. Every reachable store is well-formed, and every operation on it only appends. An add
answers yes exactly if it appended the row of its item; if it answers no or is refused the store is
as it was. It is refused exactly for want of storage, whether or not the key is taken. -/
theorem reachable_appendOnly :
    (∀ acts n (session : DebugSession), (Bench.after acts).host.sessions.get? n = some session →
      Reachable session.contributor session.store) ∧
    (∀ (h : Host) n (session : DebugSession), h.sessions.get? n = some session →
      (∀ item, (h.addItem n item).1 = some (session.store.add session.contributor item).1 ∧
        ∀ m, (h.addItem n item).2.sessions.get? m = if n = m then
            some { session with store := (session.store.add session.contributor item).2 }
          else h.sessions.get? m) ∧
      ∀ incoming m, (h.mergeInto n incoming).sessions.get? m = if n = m then
          some { session with store := session.store.merge incoming }
        else h.sessions.get? m) ∧
    (∀ (b : Bench) id n (session : DebugSession), b.sessions.get? id = some n →
      b.host.sessions.get? n = some session → ∀ item,
      (∀ added, (b.step (.addItem id item)).1 = .flag added ↔
        (session.store.add session.contributor item).1 = .ok added) ∧
      (∀ e, (b.step (.addItem id item)).1 = .refused e ↔
        (session.store.add session.contributor item).1 = .error e) ∧
      (b.step (.addItem id item)).2 = ([], { b with host := (b.host.addItem n item).2 })) ∧
    ∀ contributor s, Reachable contributor s →
      s.WellFormed ∧
      (∀ other t, Reachable other t → s.Extends (s.merge t)) ∧
      ∀ item, s.Extends (s.add contributor item).2 ∧
        ((s.add contributor item).1 = .ok true ↔
          (s.add contributor item).2 = s.appended contributor item) ∧
        ((s.add contributor item).1 = .ok true ↔ item.Storable ∧ ¬ s.Holds contributor item) ∧
        ((s.add contributor item).1 = .ok false ∨
          (∃ reason, (s.add contributor item).1 = .error (.notSupported reason)) →
            (s.add contributor item).2 = s) ∧
        ((∃ reason, (s.add contributor item).1 = .error (.notSupported reason)) ↔
          ¬ item.Storable) ∧
        ((s.add contributor item).1 = .ok false ↔ item.Storable ∧ s.Holds contributor item) := by
  refine ⟨Bench.sound_after, fun h n session hs => ⟨fun item => ?_, fun incoming m =>
      Heap.get?_modify_of_get? hs _ m⟩,
    fun b id n session hn hs item => Bench.step_addItem hn hs item,
    fun contributor s h => ⟨reachable_wellFormed h,
      fun _ t _ => s.extends_merge t, fun item => ⟨s.extends_add contributor item, ?_⟩⟩⟩
  · rw [Host.addItem_eq hs]
    exact ⟨rfl, Heap.get?_modify_of_get? hs _⟩
  · -- a store with a row more is not the store, so the answers tell the three outcomes apart
    have hne := s.appended_ne contributor item
    rcases s.add_cases contributor item with
      ⟨hno, reason, hadd⟩ | ⟨hyes, hheld, hadd⟩ | ⟨hyes, hfree, hadd⟩
    · rw [hadd]; simp [hno, hne.symm]
    · rw [hadd]; simp [hyes, hheld, hne.symm]
    · rw [hadd]; simp [hyes, hfree]

/-- Two parsers can hold one address; a third variable there is left out, and one without storage
is refused. At a bench the first variable is stored, and the third one is answered with a no. -/
theorem reachable_appendOnly_taken :
    (∃ s, Reachable "user" s ∧ s.data.map Contribution.parser = ["user", "dwarf"] ∧
      (s.add "user" (.data 16 (.int 8 false) none)).1 = .ok false ∧
      (s.add "user" (.data 16 (.int 8 false) none)).2 = s ∧
      ∃ reason, (s.add "user" (.data 16 .void none)).1 = .error (.notSupported reason)) ∧
    let b := Bench.after [.newSession "session" "user"]
    let r := b.step (.addItem "session" (.data 16 (.int 4 true) none))
    let again := r.2.2.step (.addItem "session" (.data 16 (.int 8 false) none))
    r.1 = .flag true ∧ again.1 = .flag false ∧
    (again.2.2.host.sessions.get? 0).map (fun s => s.store.data.map fun c =>
      (c.parser, c.item.address, c.item.type)) = some [("user", 16, .int 4 true)] := by
  constructor
  · have huser := (Reachable.new "user").add (.data 16 (.int 4 true) none)
    have hdwarf := (Reachable.new "dwarf").add (.data 16 (.int 4 true) none)
    have h := huser.merge hdwarf
    obtain ⟨-, -, hadd⟩ := reachable_appendOnly.2.2.2 _ _ h
    obtain ⟨-, -, -, hsame, -, htaken⟩ := hadd (.data 16 (.int 8 false) none)
    obtain ⟨-, -, -, -, hrefused, -⟩ := hadd (.data 16 .void none)
    have hno := htaken.2 ⟨rfl, _, List.mem_cons_self .., rfl, rfl⟩
    have hvoid : ¬ (NewItem.data 16 .void none).Storable := by
      simp [NewItem.Storable, Ty.hasStorage, Ty.void]
    exact ⟨_, h, rfl, hno, hsame (.inl hno), hrefused.2 hvoid⟩
  · intro b r again
    obtain ⟨-, -, hact, -⟩ := reachable_appendOnly
    obtain ⟨hfirst, -, -⟩ := hact b "session" 0 ⟨"user", {}, 1⟩ rfl rfl
      (.data 16 (.int 4 true) none)
    have hheld : r.2.2.host.sessions.get? 0 =
        some ⟨"user", (({} : Store).add "user" (.data 16 (.int 4 true) none)).2, 1⟩ := rfl
    obtain ⟨hsecond, -, -⟩ := hact r.2.2 "session" 0 _ rfl hheld (.data 16 (.int 8 false) none)
    exact ⟨(hfirst true).2 rfl, (hsecond false).2 rfl, rfl⟩

end Store

end ValueLattice
