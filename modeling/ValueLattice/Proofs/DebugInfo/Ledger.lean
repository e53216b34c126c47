/-
A ledger of what a host has given out: the arrays that are out, the handles to parsers and
sessions, and the trackers that others can rent through. A host balances with a ledger if each of
its counts is the number of entries of the ledger. Renting adds an entry and taking back strikes
it; a script gives back what it has rented, so running parsers leaves the ledger as it was, but for
the handle to the session that a parse gives out.
-/
import ValueLattice.Proofs.DebugInfo.Isolation

namespace ValueLattice

/-- What has been given out, one entry for each array and each handle. -/
structure Ledger where
  registry : Registry
  arrays : List Rented
  parsers : List ParserHandle
  sessions : List Nat
  /-- The trackers that others can rent through. -/
  trackers : List Nat

namespace Ledger

/-- The numbers of the parsers that there are handles to: one handle in the registry, and those in
hands and in arrays. -/
def parserNumbers (l : Ledger) : List Nat :=
  (l.registry.parsers ++ l.parsers ++ l.arrays.flatMap fun a => a.contents.parserHandles).map
    ParserHandle.number

def withArrays (l : Ledger) (arrays : List Rented) : Ledger :=
  { l with arrays := arrays ++ l.arrays }

def withParsers (l : Ledger) (parsers : List ParserHandle) : Ledger :=
  { l with parsers := parsers ++ l.parsers }

def withSessions (l : Ledger) (sessions : List Nat) : Ledger :=
  { l with sessions := sessions ++ l.sessions }

def withTracker (l : Ledger) (n : Nat) : Ledger :=
  { l with trackers := n :: l.trackers }

end Ledger

/-- The registry with parsers registered after those that it holds. -/
def Registry.extended (r : Registry) (parsers : List ParserHandle) : Registry :=
  { r with parsers := r.parsers ++ parsers }

/-- No two registered parsers have the same name, and no two the same number. -/
structure Registry.Distinct (r : Registry) : Prop where
  names : (r.parsers.map fun p => p.parser.name).Nodup
  numbers : (r.parsers.map ParserHandle.number).Nodup

/-- A list of a session, of one contributor or of all. -/
def DebugSession.listed (s : DebugSession) (what : ItemList) (parser : Option String) : Contents :=
  match what with
  | .types => .types (s.store.typesOf parser)
  | .functions => .functionInfos (s.store.functionsOf parser)
  | .data => .data (s.store.dataOf parser)

namespace Host

theorem rentItems_of_get? {h : Host} {n : Nat} {s : DebugSession}
    (hs : h.sessions.get? n = some s) (what : ItemList) (parser : Option String) :
    h.rentItems n what parser = (some ⟨s.tracker, s.listed what parser⟩,
      (h.rent s.tracker (s.listed what parser)).2) := by
  unfold Host.rentItems
  rw [hs]
  rfl

/-- Each count of a host is the number of entries of a ledger, and no tracker that is in use has a
number that is still to be given out. -/
structure Balanced (h : Host) (l : Ledger) : Prop where
  registry : h.registry = l.registry
  distinct : l.registry.Distinct
  outstanding : ∀ n, h.trackers.outstanding n = l.arrays.countP fun a => a.tracker == n
  parsers : h.parserCounts.HeldBy l.parserNumbers
  sessions : h.sessions.HeldBy l.sessions
  registryTracker : l.registry.tracker < h.trackers.next
  arrayTrackers : ∀ a ∈ l.arrays, a.tracker < h.trackers.next
  sessionTrackers : ∀ n s, h.sessions.get? n = some s → s.tracker < h.trackers.next
  otherTrackers : ∀ n ∈ l.trackers, n < h.trackers.next

theorem balanced_empty : empty.Balanced ⟨⟨[], 0⟩, [], [], [], []⟩ where
  registry := rfl
  distinct := ⟨List.nodup_nil, List.nodup_nil⟩
  outstanding _ := rfl
  parsers := Heap.heldBy_empty
  sessions := Heap.heldBy_empty
  registryTracker := Nat.one_pos
  arrayTrackers := by simp
  sessionTrackers := by rintro n s ⟨⟩
  otherTrackers := by simp

namespace Balanced

variable {h : Host} {l : Ledger}

/-! ## Entries in another order -/

theorem arrays_perm (hh : h.Balanced l) {arrays : List Rented} (hperm : l.arrays.Perm arrays) :
    h.Balanced { l with arrays } :=
  { hh with
    outstanding := fun n => by rw [hh.outstanding n, hperm.countP_eq]
    parsers := hh.parsers.perm (((hperm.flatMap_right _).append_left _).map _)
    arrayTrackers := fun a ha => hh.arrayTrackers a (hperm.mem_iff.2 ha) }

theorem parsers_perm (hh : h.Balanced l) {parsers : List ParserHandle}
    (hperm : l.parsers.Perm parsers) : h.Balanced { l with parsers } :=
  { hh with parsers := hh.parsers.perm (((hperm.append_left _).append_right _).map _) }

theorem sessions_perm (hh : h.Balanced l) {sessions : List Nat} (hperm : l.sessions.Perm sessions) :
    h.Balanced { l with sessions } :=
  { hh with sessions := hh.sessions.perm hperm }

/-- Trackers need not be known, and known ones may be listed again. -/
theorem trackers_mono (hh : h.Balanced l) {trackers : List Nat}
    (hsub : ∀ n ∈ trackers, n ∈ l.trackers) : h.Balanced { l with trackers } :=
  { hh with otherTrackers := fun n hn => hh.otherTrackers n (hsub n hn) }

/-! ## Handles to functions -/

/-- The ledger has no entries for functions. -/
theorem withEngine (hh : h.Balanced l) (engine : Engine) : { h with engine }.Balanced l :=
  { hh with }

/-! ## Arrays -/

theorem perm_of_parserHandles (l : Ledger) (a : Rented) :
    (a.contents.parserHandles.map ParserHandle.number ++ l.parserNumbers).Perm
      (l.withArrays [a]).parserNumbers := by
  unfold Ledger.parserNumbers
  rw [← List.map_append]
  exact List.perm_append_comm_assoc .. |>.map _

theorem rent (hh : h.Balanced l) {tracker : Nat} (htracker : tracker < h.trackers.next)
    {contents : Contents} (hparsers : ∀ p ∈ contents.parserHandles, p ∈ l.registry.parsers) :
    (h.rent tracker contents).2.Balanced (l.withArrays [⟨tracker, contents⟩]) where
  registry := hh.registry
  distinct := hh.distinct
  outstanding n := by
    show (h.trackers.rentOut tracker).outstanding n = _
    rw [Trackers.outstanding_rentOut, hh.outstanding]
    by_cases same : tracker = n <;> simp [Ledger.withArrays, same]
  parsers := by
    refine Heap.HeldBy.perm (hh.parsers.retainAll fun m hm => ?_)
      (perm_of_parserHandles l ⟨tracker, contents⟩)
    obtain ⟨p, hp, rfl⟩ := List.mem_map.1 hm
    exact List.mem_map_of_mem (List.mem_append_left _ (List.mem_append_left _ (hparsers p hp)))
  sessions := hh.sessions
  registryTracker := hh.registryTracker
  arrayTrackers := by
    intro a ha
    rcases List.mem_cons.1 ha with rfl | ha
    · exact htracker
    · exact hh.arrayTrackers a ha
  sessionTrackers := hh.sessionTrackers
  otherTrackers := hh.otherTrackers

theorem takeBack {a : Rented} (hh : h.Balanced (l.withArrays [a])) : (h.takeBack a).Balanced l where
  registry := hh.registry
  distinct := hh.distinct
  outstanding n := by
    show (h.trackers.takeBack a.tracker).outstanding n = _
    rw [Trackers.outstanding_takeBack, hh.outstanding]
    by_cases same : a.tracker = n <;> simp [Ledger.withArrays, same]
  parsers := (hh.parsers.perm (perm_of_parserHandles l a).symm).releaseAll
  sessions := hh.sessions
  registryTracker := hh.registryTracker
  arrayTrackers b hb := hh.arrayTrackers b (List.mem_cons_of_mem _ hb)
  sessionTrackers := hh.sessionTrackers
  otherTrackers := hh.otherTrackers

theorem takeBackAll {arrays : List Rented} (hh : h.Balanced (l.withArrays arrays)) :
    (h.takeBackAll arrays).Balanced l := by
  induction arrays generalizing h with
  | nil => exact hh
  | cons a arrays ih => exact ih (takeBack (l := l.withArrays arrays) hh)

/-! ## Handles to parsers -/

theorem retainParser (hh : h.Balanced l) {p : ParserHandle} (hp : p ∈ l.registry.parsers) :
    (h.retainParsers [p]).Balanced (l.withParsers [p]) :=
  { hh with
    parsers := by
      have hmem : p.number ∈ l.parserNumbers :=
        List.mem_map_of_mem (List.mem_append_left _ (List.mem_append_left _ hp))
      refine (hh.parsers.retain hmem).perm ?_
      unfold Ledger.parserNumbers Ledger.withParsers
      simp only [List.map_append, List.append_assoc]
      exact List.perm_middle.symm }

theorem releaseParsers {parsers : List ParserHandle} (hh : h.Balanced (l.withParsers parsers)) :
    (h.releaseParsers parsers).Balanced l :=
  { hh with
    parsers := by
      refine Heap.HeldBy.releaseAll (hh.parsers.perm ?_)
      unfold Ledger.parserNumbers Ledger.withParsers
      simp only [List.map_append, List.append_assoc]
      exact List.perm_append_comm_assoc .. }

theorem distinct_extended {r : Registry} (hr : r.Distinct) {p : ParserHandle}
    (hname : p.parser.name ∉ r.parsers.map fun q => q.parser.name)
    (hnumber : p.number ∉ r.parsers.map ParserHandle.number) : (r.extended [p]).Distinct where
  names := by
    rw [Registry.extended, List.map_append, List.map_singleton, ← List.concat_eq_append]
    exact List.Nodup.concat hname hr.names
  numbers := by
    rw [Registry.extended, List.map_append, List.map_singleton, ← List.concat_eq_append]
    exact List.Nodup.concat hnumber hr.numbers

theorem register_of_mem (hh : h.Balanced l) {p : Parser}
    (hmem : p.name ∈ l.registry.parsers.map fun q => q.parser.name) :
    h.register p = (.error (.notSupported (.alreadyRegistered p.name)), [.refused p.name], h) := by
  have htaken : (l.registry.parsers.any fun q => q.parser.name == p.name) = true := by
    obtain ⟨q, hq, hname⟩ := List.mem_map.1 hmem
    exact List.any_eq_true.2 ⟨q, hq, beq_iff_eq.2 hname⟩
  unfold Host.register
  rw [hh.registry, if_pos htaken]

theorem register_of_not_mem (hh : h.Balanced l) {p : Parser}
    (hnew : p.name ∉ l.registry.parsers.map fun q => q.parser.name) :
    h.register p = (.ok ⟨h.parserCounts.next, p⟩, [], { h with
      parserCounts := (h.parserCounts.alloc ()).2.retain h.parserCounts.next
      registry := l.registry.extended [⟨h.parserCounts.next, p⟩] }) := by
  have hfree : ¬ (l.registry.parsers.any fun q => q.parser.name == p.name) = true := by
    rw [List.any_eq_true]
    rintro ⟨q, hq, hname⟩
    exact hnew (List.mem_map.2 ⟨q, hq, beq_iff_eq.1 hname⟩)
  unfold Host.register
  rw [hh.registry, if_neg hfree]
  rfl

theorem getParser_of_mem (hh : h.Balanced l) {p : ParserHandle} (hp : p ∈ l.registry.parsers) :
    h.getParser p.parser.name = (.ok p, h.retainParsers [p]) := by
  have hfind : h.registry.parsers.find? (fun q => q.parser.name == p.parser.name) = some p := by
    rw [hh.registry]
    obtain ⟨q, hq⟩ := Option.isSome_iff_exists.1 (List.find?_isSome.2 ⟨p, hp, beq_self_eq_true _⟩ :
      (l.registry.parsers.find? fun q => q.parser.name == p.parser.name).isSome)
    have hname := List.find?_some hq
    -- names are distinct, so the first parser of the name is the only one
    rw [hq, List.inj_on_of_nodup_map hh.distinct.names (List.mem_of_find?_eq_some hq) hp
      (beq_iff_eq.1 hname)]
  unfold Host.getParser
  rw [hfind]

theorem getParser_of_not_mem (hh : h.Balanced l) {name : String}
    (hnew : name ∉ l.registry.parsers.map fun q => q.parser.name) :
    h.getParser name = (.error (.parserNotFound name), h) := by
  unfold Host.getParser
  rw [hh.registry, List.find?_eq_none.2]
  intro q hq hname
  exact hnew (List.mem_map.2 ⟨q, hq, beq_iff_eq.1 hname⟩)

/-- A parser with a new name gets a new number, a handle in the registry and one in hand. -/
theorem register (hh : h.Balanced l) {p : Parser}
    (hnew : p.name ∉ l.registry.parsers.map fun q => q.parser.name) :
    (h.register p).2.2.Balanced ({ l with
        registry := l.registry.extended [⟨h.parserCounts.next, p⟩] }.withParsers
      [⟨h.parserCounts.next, p⟩]) := by
  have hnumber : h.parserCounts.next ∉ l.registry.parsers.map ParserHandle.number := by
    intro hmem
    obtain ⟨q, hq, hnext⟩ := List.mem_map.1 hmem
    have hlt : q.number < h.parserCounts.next := hh.parsers.lt_next
      (List.mem_map_of_mem (List.mem_append_left _ (List.mem_append_left _ hq)))
    exact Nat.ne_of_lt hlt hnext
  rw [hh.register_of_not_mem hnew]
  refine { hh with
    registry := rfl
    distinct := distinct_extended hh.distinct hnew hnumber
    parsers := ?_ }
  refine ((hh.parsers.alloc ()).retain List.mem_cons_self).perm (List.perm_iff_count.2 fun n => ?_)
  simp only [Ledger.parserNumbers, Ledger.withParsers, Registry.extended, List.map_append,
    List.map_cons, List.map_nil, List.count_append, List.count_cons, List.count_nil]
  omega

/-! ## Sessions -/

theorem newTracker (hh : h.Balanced l) : h.newTracker.2.Balanced (l.withTracker h.newTracker.1) :=
  { hh with
    registryTracker := Nat.lt_succ_of_lt hh.registryTracker
    arrayTrackers := fun a ha => Nat.lt_succ_of_lt (hh.arrayTrackers a ha)
    sessionTrackers := fun n s hs => Nat.lt_succ_of_lt (hh.sessionTrackers n s hs)
    otherTrackers := by
      intro n hn
      rcases List.mem_cons.1 hn with rfl | hn
      · exact Nat.lt_succ_self _
      · exact Nat.lt_succ_of_lt (hh.otherTrackers n hn) }

theorem opened (hh : h.Balanced l) (contributor : String) {existing : Option Nat}
    (hexisting : ∀ n, existing = some n → n ∈ l.sessions) :
    (h.opened contributor existing).2.Balanced
      (l.withSessions [(h.opened contributor existing).1]) := by
  rcases existing with _ | n
  · have hnext := hh.newTracker
    refine { hnext with
      sessions := hh.sessions.alloc _
      sessionTrackers := fun m s hs => ?_
      otherTrackers := fun m hm => hnext.otherTrackers m (List.mem_cons_of_mem _ hm) }
    have hget : (if h.sessions.next = m then some _ else h.sessions.get? m) = some s :=
      (h.sessions.get?_alloc _ m).symm.trans hs
    split at hget
    · cases hget
      exact Nat.lt_succ_self _
    · exact hnext.sessionTrackers m s hget
  · refine { hh with
      sessions := hh.sessions.retain (hexisting n rfl)
      sessionTrackers := fun m s hs => hh.sessionTrackers m s ?_ }
    rw [← hs]
    exact (h.sessions.get?_retain n m).symm

theorem releaseSession {n : Nat} (hh : h.Balanced (l.withSessions [n])) :
    (h.releaseSession n).Balanced l :=
  { hh with
    sessions := hh.sessions.release
    sessionTrackers := by
      intro m s hs
      have hget : (if n = m ∧ h.sessions.references m ≤ 1 then none else h.sessions.get? m) =
        some s := (h.sessions.get?_release n m).symm.trans hs
      split at hget
      · cases hget
      · exact hh.sessionTrackers m s hget }

/-- A session may be changed if it keeps its tracker. -/
theorem modifySession (hh : h.Balanced l) (n : Nat) {f : DebugSession → DebugSession}
    (hf : ∀ s, (f s).tracker = s.tracker) :
    { h with sessions := h.sessions.modify n f }.Balanced l :=
  { hh with
    sessions := hh.sessions.modify n f
    sessionTrackers := by
      intro m s hs
      have hget : (if n = m then (h.sessions.get? m).map f else h.sessions.get? m) = some s :=
        (h.sessions.get?_modify n m f).symm.trans hs
      split at hget
      · obtain ⟨t, ht, rfl⟩ := Option.map_eq_some_iff.1 hget
        rw [hf]
        exact hh.sessionTrackers m t ht
      · exact hh.sessionTrackers m s hget }

theorem rentItems (hh : h.Balanced l) {n : Nat} {s : DebugSession}
    (hs : h.sessions.get? n = some s) (what : ItemList) (parser : Option String) :
    (h.rentItems n what parser).2.Balanced
      (l.withArrays [⟨s.tracker, s.listed what parser⟩]) := by
  rw [rentItems_of_get? hs]
  refine hh.rent (hh.sessionTrackers n s hs) ?_
  cases what <;> simp [DebugSession.listed, Contents.parserHandles]

/-! ## Parsing -/

theorem rentFunctions (hh : h.Balanced l) {v : View} (hv : v.tracker ∈ l.trackers) :
    (h.rentFunctions v).2.Balanced (l.withArrays [⟨v.tracker, .functions v.functions⟩]) :=
  hh.rent (hh.otherTrackers v.tracker hv) (by simp [Contents.parserHandles])

/-- Wherever a script is stopped, what has been rented besides the ledger's arrays is what the
script has out. -/
theorem runScript {v : View} (hv : v.tracker ∈ l.trackers) (contributor : String) (k : Script)
    {frame : Frame} (hh : frame.host.Balanced (l.withArrays frame.rented)) :
    (runScript contributor v k frame).2.host.Balanced
      (l.withArrays (runScript contributor v k frame).2.rented) := by
  induction k generalizing frame with
  | finish outcome => exact hh
  | add item next ih => exact ih _ hh
  | rentFunctions next ih => exact ih _ (hh.rentFunctions hv)
  | giveBack next ih =>
    unfold Host.runScript
    split
    · exact ih hh
    · next array rest hrented =>
      rw [hrented] at hh
      exact ih (takeBack (l := l.withArrays rest) hh)

theorem stage {v : View} (hv : v.tracker ∈ l.trackers) (p : Parser) (hh : h.Balanced l) :
    (h.stage p v).2.2.Balanced l := by
  have hstart : (Frame.mk h {} []).host.Balanced (l.withArrays []) := hh
  exact takeBackAll (runScript hv p.name (p.script v.info) hstart)

theorem listParsers (hh : h.Balanced l) :
    h.listParsers.2.Balanced (l.withArrays [h.listParsers.1]) := by
  have hown : h.registry.tracker < h.trackers.next := hh.registry ▸ hh.registryTracker
  exact hh.rent hown fun p hp => hh.registry ▸ hp

theorem parsersForView (hh : h.Balanced l) (v : View) :
    (h.parsersForView v).2.2.Balanced (l.withArrays [(h.parsersForView v).1]) := by
  have hown : h.registry.tracker < h.trackers.next := hh.registry ▸ hh.registryTracker
  have hchosen : ∀ p ∈ (applicable v.info h.registry.parsers).1, p ∈ l.registry.parsers := by
    intro p hp
    rw [applicable_fst, hh.registry] at hp
    exact (List.mem_filter.1 hp).1
  -- the list of candidates goes back after the chosen ones have been rented
  have hboth : (h.listParsers.2.rent h.registry.tracker
      (.parsers (applicable v.info h.registry.parsers).1)).2.Balanced _ :=
    hh.listParsers.rent hown hchosen
  exact takeBack (l := l.withArrays [_]) (hboth.arrays_perm (.swap ..))

theorem parseWith {v : View} (hv : v.tracker ∈ l.trackers) (p : Parser) {existing : Option Nat}
    (hexisting : ∀ n, existing = some n → n ∈ l.sessions) (hh : h.Balanced l) :
    (h.parseWith p v existing).2.2.Balanced
      (l.withSessions (h.parseWith p v existing).1.toList) := by
  have hstage := hh.stage hv p
  rcases hfilled : p.filled v with message | store
  · rw [parseWith_of_error hfilled]
    exact hstage
  · rw [parseWith_of_ok hfilled]
    exact (hstage.opened p.name hexisting).modifySession _ fun _ => rfl

theorem parseEach {v : View} (hv : v.tracker ∈ l.trackers) {n : Nat} (hn : n ∈ l.sessions)
    (ps : List ParserHandle) (hh : h.Balanced l) : (parseEach v n ps h).2.Balanced l := by
  induction ps generalizing h with
  | nil => exact hh
  | cons p ps ih =>
    have hone : (h.parseWith p.parser v (some n)).2.2.Balanced _ :=
      hh.parseWith hv p.parser fun m hm => Option.some.inj hm ▸ hn
    unfold Host.parseEach
    rcases hparsed : h.parseWith p.parser v (some n) with ⟨_ | m, events, g⟩ <;>
      rw [hparsed] at hone
    · exact ih hone
    · exact ih hone.releaseSession

/-- A whole parse gives out one handle to its session and nothing else. -/
theorem parseAll {v : View} (hv : v.tracker ∈ l.trackers) {existing : Option Nat}
    (hexisting : ∀ n, existing = some n → n ∈ l.sessions) (hh : h.Balanced l) :
    (h.parseAll v existing).2.2.Balanced (l.withSessions [(h.parseAll v existing).1]) := by
  have hasked := (hh.opened userContributor hexisting).parsersForView v
  have hran := parseEach (l := (l.withSessions [_]).withArrays [_]) hv List.mem_cons_self
    ((h.opened userContributor existing).2.parsersForView v).1.contents.parserHandles hasked
  rw [parseAll_eq]
  exact takeBack hran

end Balanced

end Host

end ValueLattice
