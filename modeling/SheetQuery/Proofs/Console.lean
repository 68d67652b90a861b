import SheetQuery.Console
import SheetQuery.Proofs.Sql.InMemory
import SheetQuery.Proofs.Text.Utf8

/-!
# Conversations one after the other

A conversation about some lines leaves exactly what the next line starts from, so one about two inputs is one about the
first followed by one about the second.  Only an exit directive ends it before the end of the input, and a command that
fails leaves the mappings and the last result alone.

* `lines_append`, `lines_encode`: the lines of an input in two parts, and of a text.
* `execute_failed`: what a command that fails leaves alone.
* `Exits`: a line that ends the conversation; `converse_append` and `converse_exit` are about the lines behind others
  that do not, and behind one that does.
* `GoesOn`: how a conversation goes on behind an input; `run_composes`: it does unless a line exits.
-/

namespace SheetQuery

namespace Console

/-! ### Lines -/

private abbrev feed : UInt8 := 0x0A

private theorem lines_feed (rest : Bytes) : lines (feed :: rest) = [] :: lines rest := rfl

private theorem lines_cons {b : UInt8} (hb : b ≠ feed) (rest : Bytes) :
    lines (b :: rest) = (b :: (lines rest).headD []) :: (lines rest).tail := by
  rw [lines, if_neg hb]
  cases lines rest <;> rfl

private theorem lines_ne_nil {a : Bytes} (h : a ≠ []) : lines a ≠ [] := by
  cases a with
  | nil => exact absurd rfl h
  | cons b a =>
    by_cases hb : b = feed
    · rw [hb, lines_feed]
      exact List.cons_ne_nil _ _
    · rw [lines_cons hb]
      exact List.cons_ne_nil _ _

/-- Bytes without a line feed stand in front of the first line. -/
theorem lines_append_of_not_mem {u : Bytes} (hne : u ≠ []) (hu : 0x0A ∉ u) (v : Bytes) :
    lines (u ++ v) = (u ++ (lines v).headD []) :: (lines v).tail := by
  induction u with
  | nil => exact absurd rfl hne
  | cons b u ih =>
    rw [List.mem_cons, not_or] at hu
    rw [List.cons_append, lines_cons (Ne.symm hu.1)]
    by_cases hu' : u = []
    · rw [hu']
      rfl
    · rw [ih hu' hu.2]
      rfl

theorem lines_line {l : Bytes} (hl : 0x0A ∉ l) (rest : Bytes) : lines (l ++ 0x0A :: rest) = l :: lines rest := by
  by_cases hne : l = []
  · rw [hne]
    rfl
  · rw [lines_append_of_not_mem hne hl, lines_feed]
    simp

theorem lines_single {l : Bytes} (hl : 0x0A ∉ l) (hne : l ≠ []) : lines l = [l] := by
  rw [← List.append_nil l, lines_append_of_not_mem hne hl]
  rfl

/-- The lines of an input whose first part ends with a line. -/
theorem lines_append {a : Bytes} (ha : a = [] ∨ a.getLast? = some 0x0A) (b : Bytes) :
    lines (a ++ b) = lines a ++ lines b := by
  induction a with
  | nil => rfl
  | cons c a ih =>
    have hlast : (c :: a).getLast? = some feed := ha.resolve_left (List.cons_ne_nil _ _)
    by_cases hne : a = []
    · obtain rfl : c = feed := by simpa [hne] using hlast
      rw [hne]
      rfl
    · rw [List.getLast?_cons_of_ne_nil hne] at hlast
      have hrest := ih (.inr hlast)
      obtain ⟨first, others, hlines⟩ := List.exists_cons_of_ne_nil (lines_ne_nil hne)
      by_cases hc : c = feed
      · rw [hc, List.cons_append, lines_feed, lines_feed, hrest]
        rfl
      · rw [List.cons_append, lines_cons hc, lines_cons hc, hrest, hlines]
        rfl

/-- The lines of a text are texts. -/
theorem lines_encode (s : Text) : ∃ texts : List Text, lines (Utf8.encode s) = texts.map Utf8.encode := by
  induction s with
  | nil => exact ⟨[], rfl⟩
  | cons c s ih =>
    obtain ⟨texts, htexts⟩ := ih
    by_cases hc : c = '\n'
    · refine ⟨[] :: texts, ?_⟩
      rw [hc]
      exact congrArg ([] :: ·) htexts
    · have hfeed : feed ∉ Utf8.encodeChar c := by
        intro hmem
        rcases Utf8.mem_encodeChar hmem with ⟨hnat, -⟩ | hhigh
        · exact hc (Char.toNat_inj.1 hnat)
        · exact absurd hhigh (by decide)
      refine ⟨(c :: texts.headD []) :: texts.tail, ?_⟩
      rw [Utf8.encode_cons, lines_append_of_not_mem (Utf8.encodeChar_ne_nil c) hfeed, htexts]
      cases texts <;> simp

/-- The lines of bytes that are a text are texts. -/
theorem isSome_decode_of_mem_lines {a l : Bytes} (ha : (Utf8.decode a).isSome) (hl : l ∈ lines a) :
    (Utf8.decode l).isSome := by
  obtain ⟨s, hs⟩ := Option.isSome_iff_exists.1 ha
  obtain ⟨texts, htexts⟩ := lines_encode s
  rw [Utf8.encode_of_decode hs, htexts] at hl
  obtain ⟨text, -, rfl⟩ := List.mem_map.1 hl
  rw [Utf8.decode_encode]
  rfl

end Console

namespace Workspace

variable {C : Type} [Engine C]

/-! ### Commands -/

/-- A command that fails leaves the mappings and the last result as they were. -/
theorem execute_failed {w : Workspace C} {command : Command} {failure : Failure}
    (h : (w.execute command).answer = .error failure) :
    (w.execute command).state.session.mappings = w.session.mappings ∧
      (w.execute command).state.session.lastResult = w.session.lastResult := by
  cases command with
  | sql statement =>
    have hquery : (w.execute (.sql statement)).state.session = (w.session.query statement).state := rfl
    rw [hquery, Session.query_state]
    refine ⟨rfl, ?_⟩
    -- a result that is shown is the answer, and there is none
    cases hshown : w.session.shown? statement with
    | none => rfl
    | some listing =>
      have hanswer : (w.execute (.sql statement)).answer =
          ((w.session.query statement).answer).map Reply.ofOutcome := rfl
      rw [hanswer, Session.query_answer_eq_rows.2 hshown] at h
      cases h
  | exportTo path =>
    change (w.exportTo path).state.session.mappings = _ ∧ (w.exportTo path).state.session.lastResult = _
    rcases exportTo_state w path with hstate | ⟨content, -, hstate⟩
    · rw [hstate]
      exact ⟨rfl, rfl⟩
    · rw [hstate]
      exact ⟨rfl, rfl⟩
  | exit | help | empty | tables | schema table | mappings => exact ⟨rfl, rfl⟩

/-- Only the exit directive is answered with an exit. -/
theorem execute_answer_eq_exit {w : Workspace C} {command : Command} :
    (w.execute command).answer = .ok .exit ↔ command = .exit := by
  refine ⟨fun h => ?_, fun h => by rw [h]; rfl⟩
  cases command with
  | exit => rfl
  | sql statement =>
    change (w.session.query statement).answer.map Reply.ofOutcome = _ at h
    obtain ⟨outcome, -, houtcome⟩ := map_eq_ok h
    cases outcome <;> cases houtcome
  | exportTo path =>
    change (w.exportTo path).answer = _ at h
    unfold exportTo at h
    split at h
    · cases h
    · split at h <;> cases h
  | schema table =>
    obtain ⟨listing, -, hlisting⟩ := map_eq_ok (h : (w.session.schema table).map Reply.schema = _)
    cases hlisting
  | tables =>
    obtain ⟨names, -, hnames⟩ := map_eq_ok (h : w.session.store.tables.map Reply.tables = _)
    cases hnames
  | help | empty | mappings => cases h

end Workspace

namespace Console

/-! ### Lines that are answered -/

/-- The line asks for the end of the conversation. -/
def Exits (l : Bytes) : Prop := (Utf8.decode l).map Command.parse = some (.ok .exit)

instance (l : Bytes) : Decidable (Exits l) := inferInstanceAs (Decidable (_ = _))

theorem ne_nil_of_exits {l : Bytes} (hl : Exits l) : l ≠ [] := by
  rintro rfl
  exact absurd hl (by decide)

variable {C : Type} [Engine C]

/-- A line that exits is answered with an exit, and no other one. -/
theorem answer_eq_exit {l : Bytes} {text : Text} (hl : Utf8.decode l = some text) {w : Workspace C} :
    (answer w text).answer = .ok .exit ↔ Exits l := by
  rw [Exits, hl, Option.map_some, Option.some.injEq, answer]
  cases Command.parse text with
  | error fault => simp [Step.pure]
  | ok command => simpa using Workspace.execute_answer_eq_exit

/-- A line that fails leaves the mappings and the last result as they were. -/
theorem answer_failed {w : Workspace C} {text : Text} {failure : Failure} (h : (answer w text).answer = .error failure) :
    (answer w text).state.session.mappings = w.session.mappings ∧
      (answer w text).state.session.lastResult = w.session.lastResult := by
  unfold answer at h ⊢
  split at h
  · exact ⟨rfl, rfl⟩
  · exact Workspace.execute_failed h

/-- What is written about the answer to a line. -/
def shown : Except Failure Reply → Text
  | .ok reply => render reply
  | .error failure => renderFailure failure

private theorem bind_congr {σ τ α β : Type} {s : Step σ α} {f g : σ → α → Step τ β}
    (h : f s.state s.answer = g s.state s.answer) : s.bind f = s.bind g := by
  unfold Step.bind
  rw [h]

private theorem bind_assoc {σ τ υ α β γ : Type} (s : Step σ α) (f : σ → α → Step τ β) (g : τ → β → Step υ γ) :
    (s.bind f).bind g = s.bind fun w a => (f w a).bind g := by
  simp only [Step.bind, List.append_assoc]

theorem behind_behind (t : Transcript) (a b : Text) : (t.behind b).behind a = t.behind (a ++ b) := by
  unfold Transcript.behind
  rw [List.append_assoc]

/-- A line that does not exit is answered, and the others go on from what it leaves behind. -/
theorem converse_cons {l : Bytes} {text : Text} (hl : Utf8.decode l = some text) (hgoes : ¬ Exits l) (w : Workspace C)
    (rest : List Bytes) :
    converse w (l :: rest) =
      (answer w text).bind fun w reply => (converse w rest).map (·.behind (shown reply ++ prompt)) := by
  rw [converse, hl]
  refine bind_congr ?_
  rcases hreply : (answer w text).answer with failure | reply
  · rfl
  · cases reply with
    | exit => exact absurd ((answer_eq_exit hl).1 hreply) hgoes
    | _ => rfl

/-- Lines that do not exit say something, and the others are answered behind them. -/
theorem converse_append {ls : List Bytes} (h : ∀ l ∈ ls, (Utf8.decode l).isSome ∧ ¬ Exits l) (w : Workspace C) :
    ∃ said : Step (Workspace C) Text, ∀ rest,
      converse w (ls ++ rest) = said.bind fun w out => (converse w rest).map (·.behind out) := by
  induction ls generalizing w with
  | nil => exact ⟨.pure w [], fun rest => rfl⟩
  | cons l ls ih =>
    obtain ⟨hl, hls⟩ := List.forall_mem_cons.1 h
    obtain ⟨text, htext⟩ := Option.isSome_iff_exists.1 hl.1
    obtain ⟨said, hsaid⟩ := ih hls (answer w text).state
    refine ⟨(answer w text).bind fun _ reply => said.map ((shown reply ++ prompt) ++ ·), fun rest => ?_⟩
    rw [List.cons_append, converse_cons htext hl.2, bind_assoc]
    refine bind_congr ?_
    rw [hsaid]
    unfold Step.bind Step.map
    simp only [behind_behind]

theorem converse_of_exits {l : Bytes} (hl : Exits l) (w : Workspace C) (rest : List Bytes) :
    converse w (l :: rest) = .pure w ⟨[], none⟩ := by
  obtain ⟨text, htext, hparse⟩ := Option.map_eq_some_iff.1 hl
  have hanswer : answer w text = .pure w (.ok .exit) := by
    rw [answer, hparse]
    rfl
  rw [converse, htext]
  dsimp only
  rw [hanswer]
  rfl

/-- Lines behind one that exits are not read. -/
theorem converse_exit {l : Bytes} (hl : Exits l) (w : Workspace C) (ls rest : List Bytes) :
    converse w (ls ++ l :: rest) = converse w (ls ++ [l]) := by
  induction ls generalizing w with
  | nil => rw [List.nil_append, List.nil_append, converse_of_exits hl, converse_of_exits hl]
  | cons k ls ih =>
    rw [List.cons_append, List.cons_append, converse, converse]
    split
    · rfl
    · simp only [ih]

/-- Texts are answered to the end of the input, or to a line that exits. -/
theorem converse_failure {ls : List Bytes} (h : ∀ l ∈ ls, (Utf8.decode l).isSome) (w : Workspace C) :
    (converse w ls).answer.failure = none := by
  induction ls generalizing w with
  | nil => rfl
  | cons l ls ih =>
    obtain ⟨hl, hls⟩ := List.forall_mem_cons.1 h
    obtain ⟨text, htext⟩ := Option.isSome_iff_exists.1 hl
    rw [converse, htext, Step.bind_answer]
    split
    · rfl
    · exact ih hls _
    · exact ih hls _

/-! ### Whole conversations -/

/-- A conversation goes on with the second part of the input behind what it has said about the first. -/
private theorem run_append {a : Bytes} (hend : a = [] ∨ a.getLast? = some 0x0A)
    (hlines : ∀ l ∈ lines a, (Utf8.decode l).isSome ∧ ¬ Exits l) (w : Workspace C) :
    ∃ said : Step (Workspace C) Text, ∀ b,
      run w (a ++ b) = said.bind fun w out => (converse w (lines b)).map (·.behind (greeting ++ out)) := by
  obtain ⟨said, hsaid⟩ := converse_append hlines w
  refine ⟨said, fun b => ?_⟩
  rw [run, lines_append hend, hsaid]
  simp only [Step.bind, Step.map, behind_behind]

/-- A conversation about the input says `out` about it and goes on. -/
structure GoesOn (w : Workspace C) (a : Bytes) (out : Text) : Prop where
  /-- If nothing follows, a line feed ends it. -/
  ended : (run w a).answer = ⟨greeting ++ out ++ ['\n'], none⟩
  /-- What follows is answered as in a conversation of its own, which starts from the session and the files that the
  first one leaves behind, but for its greeting. -/
  more : ∀ b, ∃ t : Transcript, (run (run w a).state b).answer = t.behind greeting ∧
    (run w (a ++ b)).answer = t.behind (greeting ++ out) ∧ (run w (a ++ b)).state = (run (run w a).state b).state ∧
    (run w (a ++ b)).notes = (run w a).notes ++ (run (run w a).state b).notes ∧
    ((Utf8.decode b).isSome → t.failure = none)
  /-- A line that exits says nothing and changes nothing. -/
  exits : ∀ line, 0x0A ∉ line → Exits line →
    (run w (a ++ line)).answer = ⟨greeting ++ out, none⟩ ∧ (run w (a ++ line)).state = (run w a).state
  /-- A line that fails is answered with one message and a prompt, and leaves the mappings and the last result alone. -/
  fails : ∀ line text failure, 0x0A ∉ line → Utf8.decode line = some text →
    (answer (run w a).state text).answer = .error failure →
    let after := run w (a ++ line ++ [0x0A])
    after.answer = ⟨greeting ++ out ++ ("Error: ".toList ++ failure.line ++ ['\n']) ++ prompt ++ ['\n'], none⟩ ∧
      after.state.session.mappings = (run w a).state.session.mappings ∧
      after.state.session.lastResult = (run w a).state.session.lastResult

private theorem goesOn_of_said {w : Workspace C} {a : Bytes} {said : Step (Workspace C) Text}
    (hsaid : ∀ b, run w (a ++ b) = said.bind fun w out => (converse w (lines b)).map (·.behind (greeting ++ out))) :
    GoesOn w a said.answer := by
  have hrun : run w a = said.map fun out => ⟨greeting ++ out ++ ['\n'], none⟩ := by
    have h := hsaid []
    rw [List.append_nil] at h
    rw [h]
    simp [Step.bind, Step.map, Step.pure, lines, converse, Transcript.behind]
  have hstate : (run w a).state = said.state := by rw [hrun, Step.map_state]
  constructor
  case ended =>
    rw [hrun]
    rfl
  case more =>
    intro b
    rw [hsaid, hrun]
    exact ⟨(converse said.state (lines b)).answer, rfl, rfl, rfl, rfl, fun hb =>
      converse_failure (fun l hl => isSome_decode_of_mem_lines hb hl) _⟩
  case exits =>
    intro line hline hexit
    rw [hsaid, lines_single hline (ne_nil_of_exits hexit), hstate]
    simp only [Step.bind, Step.map, Step.pure, converse_of_exits hexit, Transcript.behind, List.append_nil, and_self]
  case fails =>
    intro line text failure hline htext hfails
    rw [hstate] at hfails ⊢
    have hstays : ¬ Exits line := fun hexit => by
      cases hfails.symm.trans ((answer_eq_exit htext).2 hexit)
    obtain ⟨hmappings, hresult⟩ := answer_failed hfails
    dsimp only
    rw [List.append_assoc, hsaid, lines_line hline, lines]
    simp only [converse_cons htext hstays]
    refine ⟨?_, hmappings, hresult⟩
    simp only [Step.bind_answer, Step.map, hfails, converse, Step.pure, Transcript.behind, shown, renderFailure,
      Console.line, List.append_assoc]

/-- A conversation about a text of whole lines, none of which exits, goes on.  What stands behind a line that exits is not
read, whatever stands before it. -/
theorem run_composes (w : Workspace C) {a : Bytes} (hend : a = [] ∨ a.getLast? = some 0x0A) :
    (∀ line rest, 0x0A ∉ line → Exits line → run w (a ++ line ++ 0x0A :: rest) = run w (a ++ line)) ∧
      ((Utf8.decode a).isSome → (∀ line ∈ lines a, ¬ Exits line) → ∃ out, GoesOn w a out) := by
  refine ⟨fun line rest hline hexit => ?_, fun hvalid hstays => ?_⟩
  · rw [run, run, List.append_assoc, lines_append hend, lines_append hend, lines_line hline, converse_exit hexit,
      lines_single hline (ne_nil_of_exits hexit)]
  · obtain ⟨said, hsaid⟩ := run_append hend (fun l hl => ⟨isSome_decode_of_mem_lines hvalid hl, hstays l hl⟩) w
    exact ⟨said.answer, goesOn_of_said hsaid⟩

/-- A result is asked for with the line end of another system, and exported in the second part. -/
theorem run_composes_exported :
    let w := Workspace.inMemory
    let a := Utf8.encode "SELECT 1 AS x\r\n\nbad\n".toList
    let b := Utf8.encode "EXPORT x.csv".toList
    let quit := Utf8.encode "quit".toList
    let wrong := Utf8.encode ".schema".toList
    let usage : Text := "Error: Usage: .schema <table>\n".toList
    run w (a ++ quit ++ 0x0A :: b) = run w (a ++ quit) ∧
      ∃ (out : Text) (t : Transcript), (run w a).answer = ⟨greeting ++ out ++ ['\n'], none⟩ ∧
        (run (run w a).state b).answer = t.behind greeting ∧ (run w (a ++ b)).answer = t.behind (greeting ++ out) ∧
        (run w (a ++ b)).state = (run (run w a).state b).state ∧ t.failure = none ∧
        (run w (a ++ quit)).answer = ⟨greeting ++ out, none⟩ ∧
        (run w (a ++ wrong ++ [0x0A])).answer = ⟨greeting ++ out ++ usage ++ prompt ++ ['\n'], none⟩ := by
  obtain ⟨hexit, hcomposes⟩ :=
    run_composes Workspace.inMemory (a := Utf8.encode "SELECT 1 AS x\r\n\nbad\n".toList) (.inr (by decide +kernel))
  obtain ⟨out, hgoes⟩ := hcomposes (by decide +kernel) (by decide +kernel)
  obtain ⟨t, ht, happended, hstate, -, hvalid⟩ := hgoes.more (Utf8.encode "EXPORT x.csv".toList)
  exact ⟨hexit _ _ (by decide +kernel) (by decide +kernel), out, t, hgoes.ended, ht, happended, hstate,
    hvalid (by decide +kernel), (hgoes.exits _ (by decide +kernel) (by decide +kernel)).1,
    (hgoes.fails _ ".schema".toList (.ofMessage "Usage: .schema <table>".toList) (by decide +kernel) (by decide +kernel)
      rfl).1⟩

end Console

end SheetQuery
