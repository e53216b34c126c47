/-
The accounts of a bench. What the caller holds under names makes a ledger, and the host balances
with it after every act: an array, a parser or a session that an act hands out is entered until it
is held, and what was held under the same name is struck off. The registry grows by the parser of a
registration that succeeds and in no other way.
-/
import ValueLattice.Proofs.DebugInfo.Ledger
import ValueLattice.Proofs.DebugInfo.Sessions
import ValueLattice.Proofs.Keyed

namespace ValueLattice.Bench

open Host

/-- The ledger of what the caller holds, for a registry. -/
def ledger (b : Bench) (r : Registry) : Ledger where
  registry := r
  arrays := b.arrays.values
  parsers := b.parsers.values
  sessions := b.sessions.values
  trackers := b.trackers.values ++ b.views.values.map View.tracker

/-- The host balances with what the caller holds. -/
def Accounted (b : Bench) (r : Registry) : Prop :=
  b.host.Balanced (b.ledger r)

theorem accounted_empty : ({} : Bench).Accounted ⟨[], 0⟩ :=
  balanced_empty

variable {b : Bench} {r : Registry}

/-! ## Trackers that are known -/

theorem mem_trackers_of_get? {view : String} {v : View} (hv : b.views.get? view = some v) :
    v.tracker ∈ (b.ledger r).trackers :=
  List.mem_append_right _ (List.mem_map_of_mem (Keyed.mem_values_of_get? hv))

theorem mem_trackers_put {id : String} {n m : Nat}
    (hm : m ∈ (b.trackers.put id n).values ++ b.views.values.map View.tracker) :
    m ∈ n :: (b.ledger r).trackers := by
  rcases List.mem_append.1 hm with hm | hm
  · rcases Keyed.eq_or_mem_of_mem_values_put hm with rfl | hm
    · exact List.mem_cons_self
    · exact List.mem_cons_of_mem _ (List.mem_append_left _ hm)
  · exact List.mem_cons_of_mem _ (List.mem_append_right _ hm)

theorem mem_trackers_putView {id : String} {v : View} {m : Nat}
    (hm : m ∈ b.trackers.values ++ (b.views.put id v).values.map View.tracker) :
    m ∈ v.tracker :: (b.ledger r).trackers := by
  rcases List.mem_append.1 hm with hm | hm
  · exact List.mem_cons_of_mem _ (List.mem_append_left _ hm)
  · obtain ⟨w, hw, rfl⟩ := List.mem_map.1 hm
    rcases Keyed.eq_or_mem_of_mem_values_put hw with rfl | hw
    · exact List.mem_cons_self
    · exact List.mem_cons_of_mem _ (List.mem_append_right _ (List.mem_map_of_mem hw))

/-! ## Holding -/

theorem accounted_holdArray {array : Rented}
    (hb : b.host.Balanced ((b.ledger r).withArrays [array])) (id : String) :
    (b.holdArray id array).Accounted r :=
  (hb.arrays_perm (b.arrays.values_put_perm id array).symm).takeBackAll

theorem accounted_holdParser {p : ParserHandle}
    (hb : b.host.Balanced ((b.ledger r).withParsers [p])) (id : Option String) :
    (b.holdParser id p).Accounted r := by
  rcases id with _ | id
  · exact hb.releaseParsers
  · exact (hb.parsers_perm (b.parsers.values_put_perm id p).symm).releaseParsers

theorem accounted_holdSession {n : Nat}
    (hb : b.host.Balanced ((b.ledger r).withSessions [n])) (id : Option String) :
    (b.holdSession id n).Accounted r := by
  rcases id with _ | id
  · exact hb.releaseSession
  · have hput := hb.sessions_perm (b.sessions.values_put_perm id n).symm
    unfold holdSession
    dsimp only
    rcases hold : b.sessions.get? id with _ | old <;> rw [hold] at hput
    · exact hput
    · exact hput.releaseSession

theorem accounted_holdView {v : View} (hb : b.host.Balanced ((b.ledger r).withTracker v.tracker))
    (id : String) : (b.holdView id v).Accounted r := by
  have hput : b.host.Balanced (({ b with views := b.views.put id v } : Bench).ledger r) :=
    hb.trackers_mono fun m hm => mem_trackers_putView hm
  unfold holdView
  rcases b.views.get? id with _ | old
  · exact hput
  · exact hput.withEngine _

theorem accounted_holdFunction (hb : b.Accounted r) (id : Option String) (f : FunctionHandle) :
    (b.holdFunction id f).Accounted r := by
  rcases id with _ | id
  · exact hb.withEngine _
  · exact hb.withEngine _

/-! ## Dropping -/

theorem accounted_dropArray (hb : b.Accounted r) (id : String) :
    (b.dropArray id).2.Accounted r := by
  have herase := hb.arrays_perm (b.arrays.values_erase_perm id).symm
  unfold dropArray
  rcases hget : b.arrays.get? id with _ | array
  · exact hb
  · rw [hget] at herase
    exact herase.takeBack

theorem accounted_dropParser (hb : b.Accounted r) (id : String) :
    (b.dropParser id).2.Accounted r := by
  have herase := hb.parsers_perm (b.parsers.values_erase_perm id).symm
  unfold dropParser
  rcases hget : b.parsers.get? id with _ | p
  · exact hb
  · rw [hget] at herase
    exact herase.releaseParsers

theorem accounted_dropSession (hb : b.Accounted r) (id : String) :
    (b.dropSession id).2.Accounted r := by
  have herase := hb.sessions_perm (b.sessions.values_erase_perm id).symm
  unfold dropSession
  rcases hget : b.sessions.get? id with _ | n
  · exact hb
  · rw [hget] at herase
    exact herase.releaseSession

theorem accounted_dropFunction (hb : b.Accounted r) (id : String) :
    (b.dropFunction id).2.Accounted r := by
  unfold dropFunction
  rcases b.functions.get? id with _ | f
  · exact hb
  · exact hb.withEngine _

theorem accounted_dropView (hb : b.Accounted r) (id : String) : (b.dropView id).2.Accounted r := by
  unfold dropView
  rcases b.views.get? id with _ | v
  · exact hb
  · refine Balanced.trackers_mono (hb.withEngine _) fun m hm => ?_
    rcases List.mem_append.1 hm with hm | hm
    · exact List.mem_append_left _ hm
    · obtain ⟨w, hw, rfl⟩ := List.mem_map.1 hm
      exact List.mem_append_right _ (List.mem_map_of_mem (Keyed.mem_of_mem_values_erase hw))

theorem accounted_drop (hb : b.Accounted r) (id : String) : (b.drop id).2.Accounted r :=
  accounted_dropView (accounted_dropArray (accounted_dropFunction
    (accounted_dropSession (accounted_dropParser hb id) id) id) id) id

/-! ## Trackers and numbers -/

theorem accounted_newTracker (hb : b.Accounted r) (id : String) :
    (b.step (.newTracker id)).2.2.Accounted r :=
  hb.newTracker.trackers_mono fun _ hm => mem_trackers_put hm

theorem accounted_shareTracker (hb : b.Accounted r) (id other : String) :
    (b.step (.shareTracker id other)).2.2.Accounted r := by
  simp only [step]
  rcases hother : b.trackers.get? other with _ | n
  · exact hb
  · refine Balanced.trackers_mono hb fun m hm => ?_
    rcases List.mem_cons.1 (mem_trackers_put hm) with rfl | hm
    · exact List.mem_append_left _ (Keyed.mem_values_of_get? hother)
    · exact hm

theorem balanced_rentNumbers (hb : b.Accounted r) {tracker : String} {n : Nat}
    (htracker : b.trackers.get? tracker = some n) (items : List Int64) :
    (b.host.rent n (.numbers items)).2.Balanced
      ((b.ledger r).withArrays [⟨n, .numbers items⟩]) :=
  hb.rent (hb.otherTrackers n (List.mem_append_left _ (Keyed.mem_values_of_get? htracker)))
    (by simp [Contents.parserHandles])

theorem accounted_rentNumbers (hb : b.Accounted r) (id tracker : String) (items : List Int64) :
    (b.rentNumbers id tracker items).Accounted r := by
  unfold rentNumbers
  rcases htracker : b.trackers.get? tracker with _ | n
  · exact hb
  · exact accounted_holdArray (b := { b with host := _ })
      (balanced_rentNumbers hb htracker items) id

theorem accounted_consume (hb : b.Accounted r) (tracker : String) (items : List Int64)
    (panics : Bool) : (b.consume tracker items panics).2.Accounted r := by
  unfold consume
  rcases htracker : b.trackers.get? tracker with _ | n
  · exact hb
  · exact (balanced_rentNumbers hb htracker items).takeBack

/-! ## Views -/

theorem accounted_newView (hb : b.Accounted r) (id : String) (info : ViewInfo) :
    (b.newView id info).Accounted r :=
  accounted_holdView (b := { b with host := b.host.newTracker.2 })
    (v := ⟨info, [], b.host.newTracker.1⟩) hb.newTracker id

theorem accounted_addToView (hb : b.Accounted r) (view : String) (f : FunctionHandle) :
    (b.addToView view f).Accounted r := by
  refine Balanced.trackers_mono hb fun m hm => ?_
  unfold addToView at hm
  rcases hview : b.views.get? view with _ | v
  · rwa [Keyed.modify_eq_self (by simp [hview])] at hm
  · rw [Keyed.modify_of_get? hview] at hm
    rcases List.mem_cons.1 (mem_trackers_putView (b := b) hm) with rfl | hm
    · exact mem_trackers_of_get? (v := v) hview
    · exact hm

theorem accounted_addNewFunction (hb : b.Accounted r) (view : String) (start : UInt64)
    (id : Option String) : (b.addNewFunction view start id).Accounted r := by
  unfold addNewFunction
  rcases b.views.get? view with _ | v
  · exact hb
  · refine accounted_holdFunction (accounted_addToView ?_ view _) id _
    exact (hb.withEngine _).withEngine _

theorem accounted_addHeldFunction (hb : b.Accounted r) (view function : String)
    (id : Option String) : (b.addHeldFunction view function id).Accounted r := by
  unfold addHeldFunction
  rcases b.views.get? view with _ | v
  · exact hb
  rcases b.functions.get? function with _ | f
  · exact hb
  · have hadded := accounted_addToView (b := b.takeFunction f) (hb.withEngine _) view f
    exact accounted_holdFunction (b := takeFunction _ f) (hadded.withEngine _) id f

theorem accounted_showView (hb : b.Accounted r) (view : String) :
    (b.showView view).2.Accounted r := by
  unfold showView
  rcases hview : b.views.get? view with _ | v
  · exact hb
  · exact (hb.rentFunctions (mem_trackers_of_get? hview)).takeBack

theorem accounted_rentViewFunctions (hb : b.Accounted r) (id view : String) :
    (b.rentViewFunctions id view).2.Accounted r := by
  unfold rentViewFunctions
  rcases hview : b.views.get? view with _ | v
  · exact hb
  · exact accounted_holdArray (b := { b with host := _ })
      (hb.rentFunctions (mem_trackers_of_get? hview)) id

/-! ## Parsers -/

/-- The parser that a registration answers. -/
def registered : Act → Answer → List ParserHandle
  | .register _ _, .parser p => [p]
  | _, _ => []

theorem register_of_mem (hb : b.Accounted r) {p : Parser}
    (hmem : p.name ∈ r.parsers.map fun q => q.parser.name) (id : Option String) :
    b.register p id =
      (.refused (.notSupported (.alreadyRegistered p.name)), [.refused p.name], b) := by
  unfold register
  rw [Balanced.register_of_mem hb hmem]

theorem register_of_not_mem (hb : b.Accounted r) {p : Parser}
    (hnew : p.name ∉ r.parsers.map fun q => q.parser.name) (id : Option String) :
    b.register p id = (.parser ⟨b.host.parserCounts.next, p⟩, [],
      { b with host := (b.host.register p).2.2 }.holdParser id ⟨b.host.parserCounts.next, p⟩) := by
  unfold register
  rw [Balanced.register_of_not_mem hb hnew]

theorem accounted_register (hb : b.Accounted r) (p : Parser) (id : Option String) :
    (b.register p id).2.2.Accounted
      (r.extended (registered (.register p id) (b.register p id).1)) := by
  by_cases hmem : p.name ∈ r.parsers.map fun q => q.parser.name
  · rw [register_of_mem hb hmem]
    unfold registered Registry.extended
    rw [List.append_nil]
    exact hb
  · rw [register_of_not_mem hb hmem]
    exact accounted_holdParser (b := { b with host := _ }) (Balanced.register hb hmem) id

theorem getParser_of_mem (hb : b.Accounted r) {p : ParserHandle} (hp : p ∈ r.parsers)
    (id : Option String) : b.getParser p.parser.name id =
      (.parser p, { b with host := b.host.retainParsers [p] }.holdParser id p) := by
  unfold getParser
  rw [Balanced.getParser_of_mem hb hp]

theorem getParser_of_not_mem (hb : b.Accounted r) {name : String}
    (hnew : name ∉ r.parsers.map fun q => q.parser.name) (id : Option String) :
    b.getParser name id = (.refused (.parserNotFound name), b) := by
  unfold getParser
  rw [Balanced.getParser_of_not_mem hb hnew]

theorem accounted_getParser (hb : b.Accounted r) (name : String) (id : Option String) :
    (b.getParser name id).2.Accounted r := by
  by_cases hmem : name ∈ r.parsers.map fun q => q.parser.name
  · obtain ⟨p, hp, rfl⟩ := List.mem_map.1 hmem
    rw [getParser_of_mem hb hp]
    exact accounted_holdParser (b := { b with host := _ }) (hb.retainParser hp) id
  · rw [getParser_of_not_mem hb hmem]
    exact hb

theorem accounted_list (hb : b.Accounted r) : b.list.2.Accounted r :=
  hb.listParsers.takeBack

theorem accounted_rentParsers (hb : b.Accounted r) (id : String) :
    (b.rentParsers id).2.Accounted r :=
  accounted_holdArray (b := { b with host := _ }) hb.listParsers id

theorem accounted_listForView (hb : b.Accounted r) (view : String) :
    (b.listForView view).2.2.Accounted r := by
  unfold listForView
  rcases b.views.get? view with _ | v
  · exact hb
  · exact (hb.parsersForView v).takeBack

theorem accounted_rentParsersForView (hb : b.Accounted r) (id view : String) :
    (b.rentParsersForView id view).2.2.Accounted r := by
  unfold rentParsersForView
  rcases b.views.get? view with _ | v
  · exact hb
  · exact accounted_holdArray (b := { b with host := _ }) (hb.parsersForView v) id

/-! ## Parsing -/

theorem mem_sessions_of_bind {existing : Option String} {n : Nat}
    (hn : existing.bind b.sessions.get? = some n) : n ∈ (b.ledger r).sessions := by
  obtain ⟨id, -, hget⟩ := Option.bind_eq_some_iff.1 hn
  exact Keyed.mem_values_of_get? hget

theorem balanced_parseWith (hb : b.Accounted r) {view : String} {v : View}
    (hview : b.views.get? view = some v) (p : Parser) (existing : Option String) :
    (b.host.parseWith p v (existing.bind b.sessions.get?)).2.2.Balanced
      ((b.ledger r).withSessions
        (b.host.parseWith p v (existing.bind b.sessions.get?)).1.toList) :=
  hb.parseWith (mem_trackers_of_get? hview) p fun _ hn => mem_sessions_of_bind hn

theorem accounted_parse (hb : b.Accounted r) (parser view : String)
    (existing id : Option String) : (b.parse parser view existing id).2.2.Accounted r := by
  unfold parse
  rcases b.parsers.get? parser with _ | p
  · exact hb
  rcases hview : b.views.get? view with _ | v
  · exact hb
  dsimp only
  have hparse := balanced_parseWith hb hview p.parser existing
  rcases hparsed : b.host.parseWith p.parser v (existing.bind b.sessions.get?) with
    ⟨_ | n, events, host⟩ <;> rw [hparsed] at hparse
  · exact hparse
  · exact accounted_holdSession (b := { b with host }) hparse id

theorem balanced_parseAll (hb : b.Accounted r) {view : String} {v : View}
    (hview : b.views.get? view = some v) (existing : Option String) :
    (b.host.parseAll v (existing.bind b.sessions.get?)).2.2.Balanced
      ((b.ledger r).withSessions [(b.host.parseAll v (existing.bind b.sessions.get?)).1]) :=
  hb.parseAll (mem_trackers_of_get? hview) fun _ hn => mem_sessions_of_bind hn

theorem accounted_parseAll (hb : b.Accounted r) (view : String)
    (existing id : Option String) : (b.parseAll view existing id).2.2.Accounted r := by
  unfold parseAll
  rcases hview : b.views.get? view with _ | v
  · exact hb
  · exact accounted_holdSession (b := { b with host := _ }) (balanced_parseAll hb hview existing) id

/-! ## Sessions -/

theorem accounted_newSession (hb : b.Accounted r) (id contributor : String) :
    (b.newSession id contributor).Accounted r := by
  have hopened : (b.host.opened contributor none).2.Balanced ((b.ledger r).withSessions [_]) :=
    hb.opened contributor (by rintro n ⟨⟩)
  exact accounted_holdSession (b := { b with host := _ }) hopened (some id)

theorem accounted_shareSession (hb : b.Accounted r) (id other : String) :
    (b.shareSession id other).Accounted r := by
  unfold shareSession
  rcases hother : b.sessions.get? other with _ | n
  · exact hb
  · refine accounted_holdSession (b := { b with host := _ }) ?_ (some id)
    exact hb.opened "" fun m hm => Option.some.inj hm ▸ Keyed.mem_values_of_get? hother

theorem accounted_addItem (hb : b.Accounted r) (session : String) (item : NewItem) :
    (b.addItem session item).2.Accounted r := by
  unfold addItem
  rcases b.sessions.get? session with _ | n
  · exact hb
  unfold Host.addItem
  dsimp only
  rcases b.host.sessions.get? n with _ | s
  · exact hb
  · dsimp only
    rcases (s.store.add s.contributor item).1 with e | added
    · exact hb.modifySession n fun _ => rfl
    · exact hb.modifySession n fun _ => rfl

theorem accounted_itemsOf (hb : b.Accounted r) (session : String) (what : ItemList)
    (parser id : Option String) : (b.itemsOf session what parser id).2.Accounted r := by
  unfold itemsOf
  rcases b.sessions.get? session with _ | n
  · exact hb
  dsimp only
  rcases hs : b.host.sessions.get? n with _ | s
  · unfold rentItems
    rw [hs]
    exact hb
  have hrent := hb.rentItems hs what parser
  rw [rentItems_of_get? hs] at hrent ⊢
  rcases id with _ | id
  · exact hrent.takeBack
  · exact accounted_holdArray (b := { b with host := _ }) hrent id

/-! ## Acts -/

/-- One act keeps the accounts. -/
theorem accounted_step (hb : b.Accounted r) (act : Act) :
    (b.step act).2.2.Accounted (r.extended (registered act (b.step act).1)) := by
  -- all acts but a registration leave the registry alone
  have hsame {g : Bench} (hg : g.Accounted r) : g.Accounted (r.extended []) := by
    unfold Registry.extended
    rw [List.append_nil]
    exact hg
  cases act with
  | register p id => exact accounted_register hb p id
  | newTracker id => exact hsame (accounted_newTracker hb id)
  | shareTracker id other => exact hsame (accounted_shareTracker hb id other)
  | rentNumbers id tracker items => exact hsame (accounted_rentNumbers hb id tracker items)
  | numberAt id index => simp only [step]; split <;> exact hsame hb
  | demandNumber id index => simp only [step]; split <;> exact hsame hb
  | consume tracker items panics => exact hsame (accounted_consume hb tracker items panics)
  | newView id info => exact hsame (accounted_newView hb id info)
  | addNewFunction view start id => exact hsame (accounted_addNewFunction hb view start id)
  | addHeldFunction view function id =>
    exact hsame (accounted_addHeldFunction hb view function id)
  | showView view => exact hsame (accounted_showView hb view)
  | rentViewFunctions id view => exact hsame (accounted_rentViewFunctions hb id view)
  | getParser name id => exact hsame (accounted_getParser hb name id)
  | list => exact hsame (accounted_list hb)
  | listForView view => exact hsame (accounted_listForView hb view)
  | rentParsers id => exact hsame (accounted_rentParsers hb id)
  | rentParsersForView id view => exact hsame (accounted_rentParsersForView hb id view)
  | askValid parser view => exact hsame hb
  | parse parser view existing id => exact hsame (accounted_parse hb parser view existing id)
  | parseAll view existing id => exact hsame (accounted_parseAll hb view existing id)
  | newSession id contributor => exact hsame (accounted_newSession hb id contributor)
  | shareSession id other => exact hsame (accounted_shareSession hb id other)
  | addItem session item => exact hsame (accounted_addItem hb session item)
  | items session what parser => exact hsame (accounted_itemsOf hb session what parser none)
  | rentItems id session what parser =>
    exact hsame (accounted_itemsOf hb session what parser (some id))
  | showSession session => simp only [step]; split <;> exact hsame hb
  | drop id => exact hsame (accounted_drop hb id)
  | dropArray id => exact hsame (accounted_dropArray hb id)

/-- The parsers that are registered in the course of some acts. -/
def registrations (b : Bench) : List Act → List ParserHandle
  | [] => []
  | act :: acts => registered act (b.step act).1 ++ (b.step act).2.2.registrations acts

theorem accounted_run (hb : b.Accounted r) (acts : List Act) :
    (acts.foldl (fun b act => (b.step act).2.2) b).Accounted
      (r.extended (b.registrations acts)) := by
  induction acts generalizing b r with
  | nil =>
    unfold registrations Registry.extended
    rw [List.append_nil]
    exact hb
  | cons act acts ih =>
    have hrest := ih (accounted_step hb act)
    unfold Registry.extended at hrest
    rw [List.append_assoc] at hrest
    exact hrest

/-- After any acts the registry holds what was registered, and the host balances with it and with
what the caller holds. -/
theorem accounted_after (acts : List Act) :
    (after acts).Accounted ⟨registrations {} acts, 0⟩ :=
  accounted_run accounted_empty acts

end ValueLattice.Bench
