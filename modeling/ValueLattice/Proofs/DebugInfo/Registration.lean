/-
The registry of a running bench. A registration succeeds exactly if its name is new, so the registry
lists the names that were asked for, each where it came first, and a name leads to the parser that
came with it first. Handles are given back wherever an act takes them for itself: a parser has one
in the registry and those that the caller holds, in hand or in arrays, and a session has those that
the caller holds, of which a parse gives out one if it succeeds.
-/
import ValueLattice.Proofs.DebugInfo.Accounts
import Mathlib.Data.List.Induction

namespace ValueLattice

theorem eraseDups_append_toList (l : List String) (a : Option String) :
    (l ++ a.toList).eraseDups = l.eraseDups ++ a.toList.filter fun a => a ∉ l.eraseDups := by
  rw [List.eraseDups_append]
  rcases a with _ | a
  · rfl
  by_cases hmem : a ∈ l
  · simp [List.removeAll, List.mem_eraseDups, hmem]
  · have hone : [a].eraseDups = [a] := rfl
    simp [List.removeAll, List.mem_eraseDups, hmem, hone]

/-- The name under which an act wants to register a parser. -/
def Act.registeredName? : Act → Option String
  | .register p _ => some p.name
  | _ => none

namespace Bench

open Host

variable {b : Bench} {r : Registry}

/-! ## The names -/

/-- An act registers the name that it asks for if that is new. -/
theorem names_registered (hb : b.Accounted r) (act : Act) :
    (registered act (b.step act).1).map (fun p => p.parser.name) =
      act.registeredName?.toList.filter fun name =>
        name ∉ r.parsers.map fun q => q.parser.name := by
  cases act with
  | register p id =>
    show (registered _ (b.register p id).1).map _ = [p.name].filter _
    by_cases hmem : p.name ∈ r.parsers.map fun q => q.parser.name
    · rw [register_of_mem hb hmem, List.filter_cons_of_neg (by simpa using hmem)]
      rfl
    · rw [register_of_not_mem hb hmem, List.filter_cons_of_pos (by simpa using hmem)]
      rfl
  | _ => rfl

theorem registrations_append (b : Bench) (acts later : List Act) :
    b.registrations (acts ++ later) =
      b.registrations acts ++
        (acts.foldl (fun b act => (b.step act).2.2) b).registrations later := by
  induction acts generalizing b with
  | nil => rfl
  | cons act acts ih =>
    show registered act (b.step act).1 ++ (b.step act).2.2.registrations (acts ++ later) = _
    rw [ih, ← List.append_assoc]
    rfl

/-- The registered names are those that were asked for, each where it came first. -/
theorem names_registrations (acts : List Act) :
    (registrations {} acts).map (fun p => p.parser.name) =
      (acts.filterMap Act.registeredName?).eraseDups := by
  induction acts using List.reverseRecOn with
  | nil => rfl
  | append_singleton acts act ih =>
    have hlast := names_registered (accounted_after acts) act
    have hone : registrations {} (acts ++ [act]) =
        registrations {} acts ++ registered act ((after acts).step act).1 := by
      rw [registrations_append]
      exact congrArg _ (List.append_nil _)
    rw [ih] at hlast
    rw [hone, List.map_append, ih, hlast, List.filterMap_append]
    exact (eraseDups_append_toList _ _).symm

/-- What an act registers is registered ever after. -/
theorem mem_registrations {acts later : List Act} {act : Act} {p : ParserHandle}
    (hp : p ∈ registered act ((after acts).step act).1) :
    p ∈ registrations {} (acts ++ act :: later) := by
  rw [registrations_append]
  exact List.mem_append_right _ (List.mem_append_left _ hp)

/-! ## The counts -/

/-- The handles to a parser that the caller holds in hand. -/
def parserHandles (b : Bench) (n : Nat) : Nat :=
  (b.parsers.values.map ParserHandle.number).count n

/-- The handles to a parser in the arrays that the caller holds. -/
def parserOccurrences (b : Bench) (n : Nat) : Nat :=
  ((b.arrays.values.flatMap fun a => a.contents.parserHandles).map ParserHandle.number).count n

theorem references_parserCounts (hb : b.Accounted r) {p : ParserHandle} (hp : p ∈ r.parsers) :
    b.host.parserCounts.references p.number =
      1 + b.parserHandles p.number + b.parserOccurrences p.number := by
  have hheld : b.host.parserCounts.references p.number =
      ((r.parsers ++ b.parsers.values ++
        b.arrays.values.flatMap fun a => a.contents.parserHandles).map ParserHandle.number).count
          p.number := hb.parsers.references p.number
  have hone : (r.parsers.map ParserHandle.number).count p.number = 1 :=
    List.count_eq_one_of_mem hb.distinct.numbers (List.mem_map_of_mem hp)
  rw [hheld, List.map_append, List.map_append, List.count_append, List.count_append, hone]
  rfl

/-- Hosts that balance with the same ledger, but for some handles to sessions, count the same but
for these. -/
theorem references_withSessions {g h : Host} {l : Ledger} {ns : List Nat}
    (hg : g.Balanced (l.withSessions ns)) (hh : h.Balanced l) (k : Nat) :
    g.sessions.references k = h.sessions.references k + ns.count k ∧
      g.parserCounts.references k = h.parserCounts.references k := by
  constructor
  · rw [hg.sessions.references, hh.sessions.references, Nat.add_comm]
    exact List.count_append
  · exact (hg.parsers.references k).trans (hh.parsers.references k).symm

/-- A parser that runs into an existing session gives it out exactly if it succeeds. -/
theorem parseWith_fst (h : Host) (p : Parser) (v : View) (n : Nat) :
    (h.parseWith p v (some n)).1 = (p.filled v).toOption.map fun _ => n := by
  rcases hfilled : p.filled v with message | store
  · rw [parseWith_of_error hfilled]
    rfl
  · rw [parseWith_of_ok hfilled]
    rfl

theorem references_parseWith (hb : b.Accounted r) {view : String} {v : View}
    (hview : b.views.get? view = some v) (existing : Option String) (p : Parser) (k : Nat) :
    let parsed := b.host.parseWith p v (existing.bind b.sessions.get?)
    parsed.2.2.sessions.references k =
        b.host.sessions.references k + (if parsed.1 = some k then 1 else 0) ∧
      parsed.2.2.parserCounts.references k = b.host.parserCounts.references k := by
  intro parsed
  have hcounts := references_withSessions (balanced_parseWith hb hview p existing) hb k
  have hcount : parsed.1.toList.count k = if parsed.1 = some k then 1 else 0 := by
    rcases parsed.1 with _ | m <;> simp [List.count_cons]
  rwa [← hcount]

theorem references_parseAll (hb : b.Accounted r) {view : String} {v : View}
    (hview : b.views.get? view = some v) (existing : Option String) (k : Nat) :
    let parsed := b.host.parseAll v (existing.bind b.sessions.get?)
    parsed.2.2.sessions.references k =
        b.host.sessions.references k + (if parsed.1 = k then 1 else 0) ∧
      parsed.2.2.parserCounts.references k = b.host.parserCounts.references k := by
  intro parsed
  have hcounts := references_withSessions (balanced_parseAll hb hview existing) hb k
  have hcount : [parsed.1].count k = if parsed.1 = k then 1 else 0 := by
    simp [List.count_cons]
  rwa [← hcount]

/-! ## Registering and getting -/

theorem register_iff (hb : b.Accounted r) (p : Parser) (id : Option String) :
    (∃ handle, (b.register p id).1 = .parser handle) ↔
      p.name ∉ r.parsers.map fun q => q.parser.name := by
  constructor
  · rintro ⟨handle, hanswer⟩ hold
    rw [register_of_mem hb hold] at hanswer
    cases hanswer
  · intro hnew
    rw [register_of_not_mem hb hnew]
    exact ⟨_, rfl⟩

theorem getParser_iff (hb : b.Accounted r) (name : String) (id : Option String) :
    (b.getParser name id).1 = .refused (.parserNotFound name) ↔
      name ∉ r.parsers.map fun q => q.parser.name := by
  constructor
  · intro hnone hold
    obtain ⟨p, hp, rfl⟩ := List.mem_map.1 hold
    rw [getParser_of_mem hb hp] at hnone
    cases hnone
  · intro hnew
    rw [getParser_of_not_mem hb hnew]

/-- The handle that a registration answers leads to the parser that was given. -/
theorem parser_of_register (hb : b.Accounted r) {p : Parser} {id : Option String}
    {handle : ParserHandle} (hanswer : (b.register p id).1 = .parser handle) :
    handle.parser = p := by
  rw [register_of_not_mem hb ((register_iff hb p id).1 ⟨handle, hanswer⟩)] at hanswer
  cases hanswer
  rfl

/-- A parser is got by the name that it was registered under. -/
theorem getParser_registered {before later : List Act} {p : Parser} {id : Option String}
    {handle : ParserHandle} (hanswer : ((after before).register p id).1 = .parser handle)
    (other : Option String) :
    ((after (before ++ .register p id :: later)).getParser p.name other).1 = .parser handle := by
  have hmem : handle ∈ registrations {} (before ++ .register p id :: later) := by
    refine mem_registrations ?_
    show handle ∈ registered _ ((after before).register p id).1
    rw [hanswer]
    exact List.mem_cons_self
  have hget := getParser_of_mem (accounted_after _) hmem other
  rw [parser_of_register (accounted_after before) hanswer] at hget
  rw [hget]

/-! ## After any acts -/

/-- After any acts the registry lists the parsers that came first under each name, in the order of
their names, one object for each. A registration succeeds exactly if nothing was asked for under its
name before, and otherwise changes nothing at all; the object that it answers is got by the name
ever after, and a name under which nothing was asked for is not found. A parser has a handle in the
registry, and those that the caller holds in hand and in arrays; a session has those that the caller
holds. A parser that runs into a session gives out one handle to it if it succeeds and none if it
fails, a whole parse gives out one, and nothing else is counted differently then. -/
theorem registry_after (acts : List Act) :
    let b := after acts
    let asked := acts.filterMap Act.registeredName?
    (∃ ps, (b.step .list).1 = .contents (.parsers ps) ∧
      ps.map (fun p => p.parser.name) = asked.eraseDups ∧
      (ps.map fun p => p.parser.name).Nodup ∧ (ps.map ParserHandle.number).Nodup ∧
      ∀ p ∈ ps, b.host.parserCounts.references p.number =
        1 + b.parserHandles p.number + b.parserOccurrences p.number) ∧
    (∀ p id, (∃ handle, (b.step (.register p id)).1 = .parser handle) ↔ p.name ∉ asked) ∧
    (∀ p id, p.name ∈ asked → b.step (.register p id) =
      (.refused (.notSupported (.alreadyRegistered p.name)), [.refused p.name], b)) ∧
    (∀ before p id later handle, acts = before ++ .register p id :: later →
      ((after before).step (.register p id)).1 = .parser handle →
      handle.parser = p ∧ ∀ other, (b.step (.getParser p.name other)).1 = .parser handle) ∧
    (∀ name id, (b.step (.getParser name id)).1 = .refused (.parserNotFound name) ↔
      name ∉ asked) ∧
    (∀ n, b.host.sessions.references n = b.sessions.values.count n) ∧
    (∀ view v, b.views.get? view = some v → ∀ (existing : Option String) p,
      let start := existing.bind b.sessions.get?
      let parsed := b.host.parseWith p v start
      (∀ n, start = some n → parsed.1 = (p.filled v).toOption.map fun _ => n) ∧
      ∀ k, parsed.2.2.sessions.references k =
          b.host.sessions.references k + (if parsed.1 = some k then 1 else 0) ∧
        parsed.2.2.parserCounts.references k = b.host.parserCounts.references k) ∧
    ∀ view v, b.views.get? view = some v → ∀ existing : Option String,
      let start := existing.bind b.sessions.get?
      let parsed := b.host.parseAll v start
      (∀ n, start = some n → parsed.1 = n) ∧
      ∀ k, parsed.2.2.sessions.references k =
          b.host.sessions.references k + (if parsed.1 = k then 1 else 0) ∧
        parsed.2.2.parserCounts.references k = b.host.parserCounts.references k := by
  intro b asked
  have hb : b.Accounted ⟨registrations {} acts, 0⟩ := accounted_after acts
  have hnames := names_registrations acts
  have hasked (name : String) :
      name ∈ (registrations {} acts).map (fun p => p.parser.name) ↔ name ∈ asked := by
    rw [hnames, List.mem_eraseDups]
  refine ⟨⟨registrations {} acts, ?_, hnames, hb.distinct.names, hb.distinct.numbers,
    fun p hp => references_parserCounts hb hp⟩, fun p id => ?_, fun p id hold => ?_, ?_,
    fun name id => ?_, hb.sessions.references, fun view v hview existing p => ⟨?_, fun k => ?_⟩,
    fun view v hview existing => ⟨?_, fun k => ?_⟩⟩
  · show Answer.contents (.parsers b.host.registry.parsers) = _
    rw [hb.registry]
    rfl
  · rw [← hasked]
    exact register_iff hb p id
  · exact register_of_mem hb ((hasked _).2 hold) id
  · rintro before p id later handle rfl hanswer
    exact ⟨parser_of_register (accounted_after before) hanswer, getParser_registered hanswer⟩
  · rw [← hasked]
    exact getParser_iff hb name id
  · intro n hn
    rw [hn]
    exact parseWith_fst b.host p v n
  · exact references_parseWith hb hview existing p k
  · intro n hn
    rw [parseAll_fst, opened_fst, hn]
    rfl
  · exact references_parseAll hb hview existing k

/-- The second registration of a name is refused, and the caller holds a parser in hand and in a
list. -/
def registeringActs : List Act :=
  Host.sampleParsers.map (fun p => .register p none) ++
    [.register ⟨"truncated", fun _ => .done true, fun _ => .done⟩ none,
      .getParser "truncated" (some "mine"), .rentParsers "all",
      .newView "view" ⟨"a.out", "ELF", none⟩, .newSession "session" userContributor]

/-- The parser that came first is listed once and got by its name, and there are three handles to
it. It fails, and the session has the caller's handle then; a whole parse gives out another. -/
theorem registry_after_refused :
    let b := after registeringActs
    (∃ ps, (b.step .list).1 = .contents (.parsers ps) ∧
      ps.map (fun p => p.parser.name) = ["panicking", "truncated", "elf-types"] ∧
      ∀ p ∈ ps, p.parser.name = "truncated" → b.host.parserCounts.references p.number = 3) ∧
    (∃ p : ParserHandle, (b.step (.getParser "truncated" none)).1 = .parser p ∧
      p.parser = Host.sampleParsers[1] ∧
      (b.host.parseWith p.parser Host.sampleView (some 0)).2.2.sessions.references 0 = 1) ∧
    (b.host.parseAll Host.sampleView (some 0)).2.2.sessions.references 0 = 2 := by
  intro b
  obtain ⟨⟨ps, hlist, hnames, -, -, hcounts⟩, -, -, hget, -, hsessions, hparse, hparseAll⟩ :=
    registry_after registeringActs
  have hone : b.host.sessions.references 0 = 1 := hsessions 0
  obtain ⟨hparser, hgot⟩ := hget [.register Host.sampleParsers[0] none] Host.sampleParsers[1] none
    _ ⟨1, Host.sampleParsers[1]⟩ rfl rfl
  refine ⟨⟨ps, hlist, hnames.trans (by decide), fun p hp hname => ?_⟩,
    ⟨_, hgot none, hparser, ?_⟩, ?_⟩
  · rw [hcounts p hp]
    have hall : ps = b.host.registry.parsers := by
      cases hlist
      rfl
    rw [hall] at hp
    have hcases : p ∈ [⟨0, Host.sampleParsers[0]⟩, ⟨1, Host.sampleParsers[1]⟩,
      (⟨2, Host.sampleParsers[2]⟩ : ParserHandle)] := hp
    simp only [List.mem_cons, List.not_mem_nil, or_false] at hcases
    rcases hcases with rfl | rfl | rfl
    · exact absurd hname (by decide)
    · rfl
    · exact absurd hname (by decide)
  · have hview := hparse "view" Host.sampleView rfl (some "session") Host.sampleParsers[1]
    have hfails := (hview.2 0).1
    exact hfails.trans (congrArg (· + _) hone)
  · have hgives := ((hparseAll "view" Host.sampleView rfl (some "session")).2 0).1
    exact hgives.trans (congrArg (· + _) hone)

end Bench

end ValueLattice
