/-
The arrays that are out. An act lends at most one array to the caller, through the tracker of whom
it was asked of, and takes back what was held under the same name; whatever else an act rents goes
back before it ends. So each tracker has out what the caller holds through it, also while a parser
runs and after anything that fails or panics.
-/
import ValueLattice.Proofs.DebugInfo.Accounts

namespace ValueLattice

/-- How many of some arrays were rented through a tracker. -/
def rentedThrough (n : Nat) (arrays : List Rented) : Nat :=
  arrays.countP fun a => a.tracker == n

/-- Whether an answer tells of a failure: adding up stopped, there was a panic or a refusal. -/
def Answer.Failed : Answer → Prop
  | .stopped _ | .panicked | .refused _ => True
  | _ => False

namespace Bench

open Host

/-! ## What the caller holds -/

/-- The array that an act lends to the caller, and the name under which it is held then. -/
def lent (b : Bench) : Act → Option (String × Rented)
  | .rentNumbers id tracker items =>
    (b.trackers.get? tracker).map fun n => (id, ⟨n, .numbers items⟩)
  | .rentViewFunctions id view =>
    (b.views.get? view).map fun v => (id, ⟨v.tracker, .functions v.functions⟩)
  | .rentParsers id => some (id, ⟨b.host.registry.tracker, .parsers b.host.registry.parsers⟩)
  | .rentParsersForView id view =>
    (b.views.get? view).map fun v => (id, ⟨b.host.registry.tracker,
      .parsers (b.host.registry.parsers.filter fun p => p.parser.appliesTo v.info)⟩)
  | .rentItems id session what parser =>
    (b.session? session).map fun s => (id, ⟨s.tracker, s.listed what parser⟩)
  | _ => none

/-- The name under which an act gives up an array. -/
def givenUp : Act → Option String
  | .drop id => some id
  | .dropArray id => some id
  | _ => none

/-- The arrays that the caller holds after an act. -/
def heldAfter (b : Bench) (act : Act) : Keyed String Rented :=
  match b.lent act with
  | some (id, array) => b.arrays.put id array
  | none => (givenUp act).elim b.arrays b.arrays.erase

theorem arrays_holdFunction (b : Bench) (id : Option String) (f : FunctionHandle) :
    (b.holdFunction id f).arrays = b.arrays := by
  rcases id with _ | id
  · rfl
  · rfl

theorem arrays_holdParser (b : Bench) (id : Option String) (p : ParserHandle) :
    (b.holdParser id p).arrays = b.arrays := by
  rcases id with _ | id
  · rfl
  · rfl

theorem arrays_holdSession (b : Bench) (id : Option String) (n : Nat) :
    (b.holdSession id n).arrays = b.arrays := by
  rcases id with _ | id
  · rfl
  · rfl

theorem arrays_dropParser (b : Bench) (id : String) : (b.dropParser id).2.arrays = b.arrays := by
  unfold dropParser
  split <;> rfl

theorem arrays_dropSession (b : Bench) (id : String) : (b.dropSession id).2.arrays = b.arrays := by
  unfold dropSession
  split <;> rfl

theorem arrays_dropFunction (b : Bench) (id : String) :
    (b.dropFunction id).2.arrays = b.arrays := by
  unfold dropFunction
  split <;> rfl

theorem arrays_dropView (b : Bench) (id : String) : (b.dropView id).2.arrays = b.arrays := by
  unfold dropView
  split <;> rfl

theorem arrays_dropArray (b : Bench) (id : String) :
    (b.dropArray id).2.arrays = b.arrays.erase id := by
  unfold dropArray
  rcases hget : b.arrays.get? id with _ | array
  · exact (Keyed.erase_eq_self hget).symm
  · rfl

theorem arrays_drop (b : Bench) (id : String) : (b.drop id).2.arrays = b.arrays.erase id := by
  show (dropView (dropArray (dropFunction ((b.dropParser id).2.dropSession id).2 id).2 id).2
    id).2.arrays = _
  rw [arrays_dropView, arrays_dropArray, arrays_dropFunction, arrays_dropSession,
    arrays_dropParser]

/-- What an act lends and what it takes back are all that changes of the arrays in hand. -/
theorem arrays_step (b : Bench) (act : Act) : (b.step act).2.2.arrays = b.heldAfter act := by
  cases act with
  | newTracker id => rfl
  | shareTracker id other => simp only [step]; split <;> rfl
  | rentNumbers id tracker items =>
    simp only [step, rentNumbers, heldAfter, lent]
    rcases b.trackers.get? tracker with _ | n <;> rfl
  | numberAt id index => simp only [step]; split <;> rfl
  | demandNumber id index => simp only [step]; split <;> rfl
  | consume tracker items panics => simp only [step, consume]; split <;> rfl
  | newView id info => rfl
  | addNewFunction view start id =>
    simp only [step, addNewFunction]
    split
    · rfl
    · exact arrays_holdFunction _ _ _
  | addHeldFunction view function id =>
    simp only [step, addHeldFunction]
    split
    · exact arrays_holdFunction _ _ _
    · rfl
  | showView view => simp only [step, showView]; split <;> rfl
  | rentViewFunctions id view =>
    simp only [step, rentViewFunctions, heldAfter, lent]
    rcases b.views.get? view with _ | v <;> rfl
  | register p id =>
    simp only [step, register]
    split
    · exact arrays_holdParser _ _ _
    · rfl
  | getParser name id =>
    simp only [step, getParser, quietly]
    split
    · exact arrays_holdParser _ _ _
    · rfl
  | list => rfl
  | listForView view => simp only [step, listForView]; split <;> rfl
  | rentParsers id => rfl
  | rentParsersForView id view =>
    simp only [step, rentParsersForView, heldAfter, lent]
    rcases b.views.get? view with _ | v
    · rfl
    · simp only [← applicable_fst]
      rfl
  | askValid parser view => rfl
  | parse parser view existing id =>
    simp only [step, parse]
    split
    · split
      · exact arrays_holdSession _ _ _
      · rfl
    · rfl
  | parseAll view existing id =>
    simp only [step, parseAll]
    split
    · rfl
    · exact arrays_holdSession _ _ _
  | newSession id contributor => rfl
  | shareSession id other => simp only [step, shareSession]; split <;> rfl
  | addItem session item =>
    simp only [step, addItem, quietly]
    rcases b.sessions.get? session with _ | n
    · rfl
    dsimp only
    rcases (b.host.addItem n item).1 with _ | _ | added <;> rfl
  | items session what parser =>
    simp only [step, itemsOf, quietly]
    rcases b.sessions.get? session with _ | n
    · rfl
    dsimp only
    rcases b.host.rentItems n what parser with ⟨_ | array, host⟩ <;> rfl
  | rentItems id session what parser =>
    simp only [step, itemsOf, quietly, heldAfter, lent, session?]
    rcases b.sessions.get? session with _ | n
    · rfl
    simp only [Option.bind_some]
    rcases hs : b.host.sessions.get? n with _ | s
    · unfold rentItems
      rw [hs]
      rfl
    · rw [rentItems_of_get? hs]
      rfl
  | showSession session => simp only [step]; split <;> rfl
  | drop id => exact arrays_drop b id
  | dropArray id => exact arrays_dropArray b id

theorem not_failed_itemsOf (b : Bench) (session : String) (what : ItemList)
    (parser id : Option String) : ¬ (b.itemsOf session what parser id).1.Failed := by
  unfold itemsOf
  rcases b.sessions.get? session with _ | n
  · exact not_false
  dsimp only
  rcases b.host.rentItems n what parser with ⟨_ | array, host⟩
  · exact not_false
  · rcases id with _ | id <;> exact not_false

/-- A step that fails lends nothing and takes nothing back. -/
theorem heldAfter_of_failed {b : Bench} {act : Act} (hfailed : (b.step act).1.Failed) :
    b.heldAfter act = b.arrays := by
  cases act with
  | rentNumbers id tracker items => exact hfailed.elim
  | rentViewFunctions id view =>
    simp only [step, quietly, rentViewFunctions] at hfailed
    split at hfailed <;> exact hfailed.elim
  | rentParsers id => exact hfailed.elim
  | rentParsersForView id view =>
    simp only [step, rentParsersForView] at hfailed
    split at hfailed <;> exact hfailed.elim
  | rentItems id session what parser =>
    exact absurd hfailed (not_failed_itemsOf b session what parser (some id))
  | drop id => exact hfailed.elim
  | dropArray id => exact hfailed.elim
  | _ => rfl

/-! ## What is out -/

/-- How many arrays the caller holds that were rented through a tracker. -/
def heldThrough (b : Bench) (n : Nat) : Nat :=
  rentedThrough n b.arrays.values

/-- A tracker is in use by the registry, under a name of the caller, by a view, by a session, or by
an array that is held. -/
def Uses (b : Bench) (n : Nat) : Prop :=
  b.host.registry.tracker = n ∨ n ∈ b.trackers.values ∨ (∃ v ∈ b.views.values, v.tracker = n) ∨
    (∃ m s, b.host.sessions.get? m = some s ∧ s.tracker = n) ∨ ∃ a ∈ b.arrays.values, a.tracker = n

variable {b : Bench} {r : Registry}

theorem lt_next_of_uses (hb : b.Accounted r) {n : Nat} (hn : b.Uses n) :
    n < b.host.trackers.next := by
  rcases hn with rfl | hn | ⟨v, hv, rfl⟩ | ⟨m, s, hs, rfl⟩ | ⟨a, ha, rfl⟩
  · have hregistry : b.host.registry = r := hb.registry
    exact hregistry ▸ hb.registryTracker
  · exact hb.otherTrackers n (List.mem_append_left _ hn)
  · exact hb.otherTrackers _ (List.mem_append_right _ (List.mem_map_of_mem hv))
  · exact hb.sessionTrackers m s hs
  · exact hb.arrayTrackers a ha

theorem outstanding_step (hb : b.Accounted r) {act : Act} (hsame : b.heldAfter act = b.arrays)
    (n : Nat) : (b.step act).2.2.host.trackers.outstanding n = b.host.trackers.outstanding n := by
  have hafter : (b.step act).2.2.host.trackers.outstanding n =
      rentedThrough n (b.step act).2.2.arrays.values := (accounted_step hb act).outstanding n
  rw [hafter, arrays_step, hsame]
  exact (hb.outstanding n).symm

theorem outstanding_pos (hb : b.Accounted r) {a : Rented} (ha : a ∈ b.arrays.values) :
    0 < b.host.trackers.outstanding a.tracker := by
  have hout : b.host.trackers.outstanding a.tracker = rentedThrough a.tracker b.arrays.values :=
    hb.outstanding a.tracker
  rw [hout]
  exact Int.natCast_pos.2 (List.countP_pos_iff.2 ⟨a, ha, beq_self_eq_true a.tracker⟩)

/-- While a callback runs, what it has rented is out besides what was out before. -/
theorem outstanding_runScript {h : Host} {l : Ledger} (hh : h.Balanced l) {v : View}
    (hv : v.tracker ∈ l.trackers) (contributor : String) (k : Script) (n : Nat) :
    (runScript contributor v k ⟨h, {}, []⟩).2.host.trackers.outstanding n =
      rentedThrough n (runScript contributor v k ⟨h, {}, []⟩).2.rented +
        rentedThrough n l.arrays := by
  have hstart : (Frame.mk h {} []).host.Balanced (l.withArrays []) := hh
  rw [(Balanced.runScript hv contributor k hstart).outstanding n]
  exact congrArg _ (List.countP_append ..)

/-- In a whole parse the callbacks run while the list of the parsers that apply is out. -/
theorem outstanding_runScript_parseAll (hb : b.Accounted r) {view : String} {v : View}
    (hview : b.views.get? view = some v) (existing : Option String) (ps : List ParserHandle)
    (contributor : String) (k : Script) (n : Nat) :
    let opened := b.host.opened userContributor (existing.bind b.sessions.get?)
    let asked := opened.2.parsersForView v
    let frame := (runScript contributor v k ⟨(parseEach v opened.1 ps asked.2.2).2, {}, []⟩).2
    frame.host.trackers.outstanding n =
      rentedThrough n frame.rented + rentedThrough n (asked.1 :: b.arrays.values) := by
  intro opened asked
  have hasked : asked.2.2.Balanced (((b.ledger r).withSessions [opened.1]).withArrays [asked.1]) :=
    (hb.opened userContributor fun _ hn => mem_sessions_of_bind hn).parsersForView v
  have hknown : v.tracker ∈
      (((b.ledger r).withSessions [opened.1]).withArrays [asked.1]).trackers :=
    mem_trackers_of_get? (r := r) hview
  have hran := Balanced.parseEach hknown List.mem_cons_self ps hasked
  exact outstanding_runScript hran hknown contributor k n

theorem get?_trackers_newTracker (b : Bench) (id : String) :
    (b.step (.newTracker id)).2.2.trackers.get? id = some b.host.newTracker.1 := by
  show (b.trackers.put id b.host.newTracker.1).get? id = _
  rw [Keyed.get?_put, if_pos rfl]

theorem get?_trackers_shareTracker {source : String} {n : Nat}
    (hn : b.trackers.get? source = some n) (id : String) :
    (b.step (.shareTracker id source)).2.2.trackers.get? id = some n ∧
      (b.step (.shareTracker id source)).2.2.host = b.host := by
  simp only [step, hn]
  exact ⟨by rw [Keyed.get?_put, if_pos rfl], trivial⟩

/-- After any acts each tracker has out what the caller holds through it. One act changes what is
held by the array that it lends and the one of the same name that it takes back. So a tracker whose
array is held has something out, a step that fails or panics changes no count, and neither does a
parse, whatever the callbacks do. While a callback runs on a view, what it has rented is out
besides, and in a whole parse also the list of the parsers that apply. A new tracker is none that is
in use, and a shared one is the one that it is shared from. -/
theorem outstanding_after (acts : List Act) :
    let b := after acts
    (∀ n, b.host.trackers.outstanding n = b.heldThrough n) ∧
    (∀ act, (b.step act).2.2.arrays = b.heldAfter act) ∧
    (∀ a ∈ b.arrays.values, 0 < b.host.trackers.outstanding a.tracker) ∧
    (∀ act n, (b.step act).1.Failed →
      (b.step act).2.2.host.trackers.outstanding n = b.host.trackers.outstanding n) ∧
    (∀ parser view existing id n,
      (b.step (.parse parser view existing id)).2.2.host.trackers.outstanding n =
        b.host.trackers.outstanding n) ∧
    (∀ view existing id n,
      (b.step (.parseAll view existing id)).2.2.host.trackers.outstanding n =
        b.host.trackers.outstanding n) ∧
    (∀ view v, b.views.get? view = some v → ∀ contributor k n,
      let frame := (runScript contributor v k ⟨b.host, {}, []⟩).2
      frame.host.trackers.outstanding n = rentedThrough n frame.rented + b.heldThrough n) ∧
    (∀ view v, b.views.get? view = some v → ∀ (existing : Option String) ps contributor k n,
      let opened := b.host.opened userContributor (existing.bind b.sessions.get?)
      let asked := opened.2.parsersForView v
      let frame := (runScript contributor v k ⟨(parseEach v opened.1 ps asked.2.2).2, {}, []⟩).2
      frame.host.trackers.outstanding n =
        rentedThrough n frame.rented + rentedThrough n (asked.1 :: b.arrays.values)) ∧
    (∀ n, b.Uses n → n ≠ b.host.newTracker.1) ∧
    (∀ id, (b.step (.newTracker id)).2.2.trackers.get? id = some b.host.newTracker.1) ∧
    ∀ id source n, b.trackers.get? source = some n →
      (b.step (.shareTracker id source)).2.2.trackers.get? id = some n ∧
      (b.step (.shareTracker id source)).2.2.host = b.host := by
  intro b
  have hb : b.Accounted _ := accounted_after acts
  exact ⟨hb.outstanding, arrays_step b, fun a ha => outstanding_pos hb ha,
    fun act n hfailed => outstanding_step hb (heldAfter_of_failed hfailed) n,
    fun parser view existing id n => outstanding_step hb rfl n,
    fun view existing id n => outstanding_step hb rfl n,
    fun view v hview contributor k n =>
      outstanding_runScript hb (mem_trackers_of_get? hview) contributor k n,
    fun view v hview existing ps contributor k n =>
      outstanding_runScript_parseAll hb hview existing ps contributor k n,
    fun n hn => Nat.ne_of_lt (lt_next_of_uses hb hn), b.get?_trackers_newTracker,
    fun id source n hn => get?_trackers_shareTracker hn id⟩

/-- A parser that panics with the functions of the view in hand. -/
def panickingParser : Parser where
  name := "panicking"
  isValid _ := .done true
  script _ := .rentFunctions fun _ => .finish (.panicked none)

/-- The caller has shared a tracker and holds an array through it, and the list of the parsers. -/
def sampleActs : List Act :=
  [.newTracker "mine", .shareTracker "shared" "mine", .rentNumbers "numbers" "shared" [1, 0],
    .newView "view" ⟨"a.out", "ELF", none⟩, .addNewFunction "view" 4096 none,
    .register panickingParser none, .rentParsers "parsers"]

/-- What was rented through the shared tracker is out of the tracker itself; reading past the end
panics, adding up stops at the zero, the parser panics, and the counts stay as they were. -/
theorem outstanding_after_panics :
    let b := after sampleActs
    b.outstanding "mine" = 1 ∧ b.registryOutstanding = 1 ∧
      (b.step (.demandNumber "numbers" 2)).1 = .panicked ∧
      (b.step (.demandNumber "numbers" 2)).2.2.host.trackers.outstanding 1 = 1 ∧
      (b.step (.consume "shared" [1, 0] false)).1 = .stopped 1 ∧
      (b.step (.consume "shared" [1, 0] false)).2.2.host.trackers.outstanding 1 = 1 ∧
      (b.step (.parseAll "view" none none)).2.1 = [.called .isValid "panicking",
        .called .parseInfo "panicking",
        .failed .parseInfo "panicking" "panic with a non-string payload",
        .skipped "panicking" "a.out"] ∧
      (b.step (.parseAll "view" none none)).2.2.host.trackers.outstanding 2 = 0 := by
  intro b
  obtain ⟨hout, -, -, hfailed, -, hparse, -⟩ := outstanding_after sampleActs
  have hmine : b.host.trackers.outstanding 1 = 1 := hout 1
  have hregistry : b.host.trackers.outstanding 0 = 1 := hout 0
  have hview : b.host.trackers.outstanding 2 = 0 := hout 2
  exact ⟨hmine, hregistry, rfl, (hfailed (.demandNumber "numbers" 2) 1 trivial).trans hmine, rfl,
    (hfailed (.consume "shared" [1, 0] false) 1 trivial).trans hmine, rfl,
    (hparse "view" none none 2).trans hview⟩

end Bench

end ValueLattice
