/-
The journal of a whole parse. All registered parsers are asked first, in their order, and then the
ones that said yes run, in the same order. So the log holds a record for each parser that failed
when it was asked, and after those two records for each parser that ran and failed; it holds
nothing of parsers that said no or succeeded.
-/
import ValueLattice.Proofs.DebugInfo.Isolation

namespace ValueLattice

/-- The message of an outcome that is no success. -/
def Outcome.failure? {α : Type} : Outcome α → Option String
  | done _ => none
  | failed chain => some (Text.joined ": " chain)
  | panicked text => some (text.getD "panic with a non-string payload")

theorem Outcome.failure?_eq_some_iff {α : Type} {o : Outcome α} {message : String} :
    o.failure? = some message ↔ o.result = .error message := by
  rcases o with a | chain | _ | text <;> simp [failure?, result]

/-- The callback that an event says was called, and its parser. -/
def Event.call? : Event → Option (Stage × String)
  | called stage parser => some (stage, parser)
  | _ => none

/-! ## The records of failures -/

namespace LogRecord

/-- The record of a callback that failed. -/
def ofFailure (stage : Stage) (parser message : String) : LogRecord where
  level := .error
  message := "debug-info parser '" ++ parser ++ "' failed in " ++ stage.text ++ ": " ++ message
  fields := [("parser", parser), ("stage", stage.text)]

/-- The record of a parser that failed on the view of a file and was left out. -/
def ofSkip (parser file : String) : LogRecord where
  level := .warn
  message := "skipping failed debug-info parser"
  fields := [("parser", parser), ("view", file)]

end LogRecord

namespace Parser

/-- The call of a callback of a parser. -/
def call (stage : Stage) (p : Parser) : Stage × String :=
  (stage, p.name)

/-- How the second callback ends on a view. -/
def outcome (p : Parser) (v : View) : Outcome Unit :=
  ((p.script v.info).fill p.name v.functions {}).1

/-- What asking a parser leaves in the log. -/
def askRecords (p : Parser) (v : ViewInfo) : List LogRecord :=
  match (p.isValid v).failure? with
  | some message => [.ofFailure .isValid p.name message]
  | none => []

/-- What running a parser leaves in the log. -/
def runRecords (p : Parser) (v : View) : List LogRecord :=
  match (p.outcome v).failure? with
  | some message => [.ofFailure .parseInfo p.name message, .ofSkip p.name v.info.file]
  | none => []

/-- What happens while a callback of a parser runs. -/
def callJournal {α : Type} (p : Parser) (stage : Stage) (callback : Outcome α) : List Event :=
  .called stage p.name ::
    (callback.failure?.map fun message => Event.failed stage p.name message).toList

/-- What happens when a parser is asked. -/
def askJournal (p : Parser) (v : ViewInfo) : List Event :=
  p.callJournal .isValid (p.isValid v)

/-- What happens when a parser runs. -/
def runJournal (p : Parser) (v : View) : List Event :=
  p.callJournal .parseInfo (p.outcome v) ++
    ((p.outcome v).failure?.map fun _ => Event.skipped p.name v.info.file).toList

variable {p : Parser} {v : View}

theorem logOf_askJournal (p : Parser) (v : ViewInfo) : logOf (p.askJournal v) = p.askRecords v := by
  unfold askJournal askRecords callJournal
  rcases (p.isValid v).failure? with _ | message
  · rfl
  · rfl

theorem logOf_runJournal (p : Parser) (v : View) : logOf (p.runJournal v) = p.runRecords v := by
  unfold runJournal runRecords callJournal
  rcases (p.outcome v).failure? with _ | message
  · rfl
  · rfl

theorem calls_askJournal (p : Parser) (v : ViewInfo) :
    (p.askJournal v).filterMap Event.call? = [p.call .isValid] := by
  unfold askJournal callJournal
  rcases (p.isValid v).failure? with _ | message
  · rfl
  · rfl

theorem calls_runJournal (p : Parser) (v : View) :
    (p.runJournal v).filterMap Event.call? = [p.call .parseInfo] := by
  unfold runJournal callJournal
  rcases (p.outcome v).failure? with _ | message
  · rfl
  · rfl

theorem filled_eq_error_iff {message : String} :
    p.filled v = .error message ↔ (p.outcome v).failure? = some message := by
  rw [Outcome.failure?_eq_some_iff]
  unfold filled outcome
  rcases (p.script v.info).fill p.name v.functions {} with ⟨outcome, s⟩
  show outcome.result.map _ = _ ↔ outcome.result = _
  rcases outcome.result with e | ⟨⟩
  · simp [Except.map]
  · simp [Except.map]

theorem failure?_of_filled_eq_ok {s : Store} (h : p.filled v = .ok s) :
    (p.outcome v).failure? = none := by
  have hdone : p.outcome v = .done () := congrArg Prod.fst (filled_eq_ok_iff.1 h)
  rw [hdone]
  rfl

end Parser

/-! ## The journal of a parse -/

namespace Host

theorem isolate_snd {α : Type} (p : Parser) (stage : Stage) (callback : Outcome α) :
    (isolate p stage callback).2 = p.callJournal stage callback := by
  rcases callback with a | chain | _ | text
  · rfl
  · rfl
  · rfl
  · rfl

theorem appliesTo_snd (p : Parser) (v : ViewInfo) : (appliesTo p v).2 = p.askJournal v := by
  unfold Parser.askJournal appliesTo
  rw [← isolate_snd]
  rcases isolate p .isValid (p.isValid v) with ⟨message | answer, events⟩
  · rfl
  · rfl

theorem stage_snd_fst (h : Host) (p : Parser) (v : View) :
    (h.stage p v).2.1 = p.callJournal .parseInfo (p.outcome v) := by
  rw [stage_events, isolate_snd]
  rfl

theorem applicable_snd (v : ViewInfo) (ps : List ParserHandle) :
    (applicable v ps).2 = (ps.map ParserHandle.parser).flatMap fun p => p.askJournal v := by
  induction ps with
  | nil => rfl
  | cons p ps ih =>
    show (appliesTo p.parser v).2 ++ (applicable v ps).2 = _
    rw [appliesTo_snd, ih, List.map_cons, List.flatMap_cons]

theorem parseEach_fst (v : View) (n : Nat) (ps : List ParserHandle) (h : Host) :
    (parseEach v n ps h).1 = (ps.map ParserHandle.parser).flatMap fun p => p.runJournal v := by
  induction ps generalizing h with
  | nil => rfl
  | cons p ps ih =>
    unfold parseEach
    rw [List.map_cons, List.flatMap_cons]
    rcases hfilled : p.parser.filled v with message | store
    · rw [parseWith_of_error hfilled, Parser.runJournal, Parser.filled_eq_error_iff.1 hfilled,
        ← stage_snd_fst h, ← ih]
      rfl
    · rw [parseWith_of_ok hfilled, Parser.runJournal, Parser.failure?_of_filled_eq_ok hfilled,
        ← stage_snd_fst h, ← ih]
      rfl

/-- All parsers are asked before the first of those that said yes runs. -/
theorem journal_parseAll (h : Host) (v : View) (existing : Option Nat) :
    (h.parseAll v existing).2.1 =
      (h.parsers.flatMap fun p => p.askJournal v.info) ++
        (h.parsers.filter fun p => p.appliesTo v.info).flatMap fun p => p.runJournal v := by
  have hasked : ∀ g : Host, (g.parsersForView v).2.1 =
      g.parsers.flatMap fun p => p.askJournal v.info :=
    fun g => applicable_snd v.info g.registry.parsers
  rw [parseAll_eq]
  show (parsersForView _ v).2.1 ++ (parseEach v _ _ _).1 = _
  rw [hasked, parseEach_fst, contents_parsersForView]
  unfold parsers
  rw [registry_opened, List.filter_map]
  rfl

theorem logOf_journal (v : View) (ps qs : List Parser) :
    logOf ((ps.flatMap fun p => p.askJournal v.info) ++ qs.flatMap fun p => p.runJournal v) =
      (ps.flatMap fun p => p.askRecords v.info) ++ qs.flatMap fun p => p.runRecords v := by
  unfold logOf
  rw [List.filterMap_append, List.filterMap_flatMap, List.filterMap_flatMap]
  exact congrArg₂ _ (congrArg (ps.flatMap ·) (funext fun p => p.logOf_askJournal v.info))
    (congrArg (qs.flatMap ·) (funext fun p => p.logOf_runJournal v))

theorem calls_journal (v : View) (ps qs : List Parser) :
    ((ps.flatMap fun p => p.askJournal v.info) ++ qs.flatMap fun p => p.runJournal v).filterMap
        Event.call? = ps.map (Parser.call .isValid) ++ qs.map (Parser.call .parseInfo) := by
  rw [List.filterMap_append, List.filterMap_flatMap, List.filterMap_flatMap]
  simp only [Parser.calls_askJournal, Parser.calls_runJournal, List.map_eq_flatMap]

/-- Among parsers with different names, the second callback of a parser is called once if the
parser says yes and never otherwise. -/
theorem count_calls {ps : List Parser} (hnames : (ps.map Parser.name).Nodup) (v : ViewInfo)
    {p : Parser} (hp : p ∈ ps) :
    (ps.map (Parser.call .isValid) ++
        (ps.filter fun q => q.appliesTo v).map (Parser.call .parseInfo)).count
      (p.call .parseInfo) = if p.appliesTo v then 1 else 0 := by
  have hasked : (ps.map (Parser.call .isValid)).count (p.call .parseInfo) = 0 :=
    List.count_eq_zero.2 (by simp [Parser.call])
  have hran : ((ps.filter fun q => q.appliesTo v).map (Parser.call .parseInfo)).Nodup := by
    refine List.Nodup.of_map Prod.snd ?_
    rw [List.map_map]
    exact hnames.sublist (List.filter_sublist.map _)
  rw [List.count_append, hasked, Nat.zero_add]
  by_cases happly : p.appliesTo v = true
  · rw [if_pos happly]
    exact List.count_eq_one_of_mem hran
      (List.mem_map.2 ⟨p, List.mem_filter.2 ⟨hp, happly⟩, rfl⟩)
  · rw [if_neg happly]
    refine List.count_eq_zero.2 fun hmem => ?_
    obtain ⟨q, hq, hname⟩ := List.mem_map.1 hmem
    obtain ⟨hq, hyes⟩ := List.mem_filter.1 hq
    -- a parser that ran under the name of `p` is `p`, which did not say yes
    have hsame := List.inj_on_of_nodup_map hnames hq hp (congrArg Prod.snd hname)
    exact happly (hsame ▸ hyes)

/-- The log of a whole parse. In the order of registration, each parser that failed when it was
asked leaves one error; after those, each parser that said yes and failed when it ran leaves an
error and the warning that it was left out. Nothing else is logged. All parsers are asked, once
each, before any runs; those that said yes run, and under different names each of them once and no
other ever. -/
theorem log_parseAll (h : Host) (v : View) (existing : Option Nat) :
    logOf (h.parseAll v existing).2.1 =
      (h.parsers.flatMap fun p =>
        match (p.isValid v.info).failure? with
        | some message => [.ofFailure .isValid p.name message]
        | none => []) ++
      ((h.parsers.filter fun p => p.appliesTo v.info).flatMap fun p =>
        match (p.outcome v).failure? with
        | some message => [.ofFailure .parseInfo p.name message, .ofSkip p.name v.info.file]
        | none => []) ∧
    (h.parseAll v existing).2.1.filterMap Event.call? =
      h.parsers.map (Parser.call .isValid) ++
        (h.parsers.filter fun p => p.appliesTo v.info).map (Parser.call .parseInfo) ∧
    (∀ p : Parser, p.appliesTo v.info = true ↔ p.isValid v.info = .done true) ∧
    ((h.parsers.map Parser.name).Nodup → ∀ p ∈ h.parsers,
      ((h.parseAll v existing).2.1.filterMap Event.call?).count (p.call .parseInfo) =
        if p.appliesTo v.info then 1 else 0) := by
  have hlog := logOf_journal v h.parsers (h.parsers.filter fun p => p.appliesTo v.info)
  have hcalls := calls_journal v h.parsers (h.parsers.filter fun p => p.appliesTo v.info)
  rw [← journal_parseAll h v existing] at hlog hcalls
  refine ⟨hlog, hcalls, fun p => Parser.appliesTo_iff, fun hnames p hp => ?_⟩
  rw [hcalls]
  exact count_calls hnames v.info hp

/-- One parser panics when it is asked and is not run, one fails when it runs, and one succeeds. -/
theorem log_parseAll_sample :
    logOf (sampleHost.parseAll sampleView none).2.1 =
      [.ofFailure .isValid "panicking" "panic with a non-string payload",
        .ofFailure .parseInfo "truncated" "truncated section", .ofSkip "truncated" "a.out"] ∧
    (sampleHost.parsers.map Parser.name).Nodup ∧
    ∀ p ∈ sampleHost.parsers,
      ((sampleHost.parseAll sampleView none).2.1.filterMap Event.call?).count (p.call .parseInfo) =
        if p.appliesTo sampleView.info then 1 else 0 := by
  obtain ⟨hlog, -, -, hcount⟩ := log_parseAll sampleHost sampleView none
  have hnames : (sampleHost.parsers.map Parser.name).Nodup := by decide
  exact ⟨hlog.trans (by decide), hnames, hcount hnames⟩

end Host

end ValueLattice
